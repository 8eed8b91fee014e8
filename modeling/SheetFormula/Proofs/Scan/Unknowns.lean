import SheetFormula.Proofs.Nesting.Passes

/-!
# Tokens of unknown kind

What is not well formed becomes a token of unknown kind: a closer without its
group, a literal that the text ends in, and whatever was collected before a
literal opens.  Such a token is to keep the text it was read from.

It does unless the text begins with a sheet name in quotes that has ended and in
which a quote is written twice (`EscapesQuote`).  By then the sheet name has been
collected with single quotes, and a token of unknown kind is never quoted again.

Main statement: every token of unknown kind has a slice of the text, between the
slices of the entries before it and behind it, and its value is the slice exactly
when the slice has no sheet name with an escaped quote.
-/

namespace SheetFormula.Scan

/-! ## Escaped quotes -/

/-- Slices that begin with a complete sheet name in which a quote is written twice. -/
def EscapesQuote (slice : List Char) : Prop :=
  ∃ name rest,
    '\'' ∈ name ∧ rest.head? ≠ some '\'' ∧
      slice = '\'' :: Text.doubled '\'' name ++ '\'' :: rest

theorem endsDoubling_closed {rest : List Char} (ends : rest.head? ≠ some '\'') :
    Text.EndsDoubling '\'' ('\'' :: rest) :=
  ⟨rfl, ends⟩

theorem not_escapesQuote_of_unquoted
    {slice : List Char} (unquoted : slice.head? ≠ some '\'') :
    ¬ EscapesQuote slice := by
  rintro ⟨name, rest, -, -, rfl⟩
  exact unquoted rfl

/-- A sheet name that has not ended is no complete one. -/
theorem not_escapesQuote_open (name : List Char) :
    ¬ EscapesQuote ('\'' :: Text.doubled '\'' name) := by
  rintro ⟨other, rest, -, ends, same⟩
  have behind : Text.doubled '\'' name ++ [] = Text.doubled '\'' other ++ '\'' :: rest := by
    simpa using same
  have nothing : Text.EndsDoubling '\'' [] := ⟨rfl, by simp⟩
  cases (Text.doubled_append_inj nothing (endsDoubling_closed ends) behind).2

/-- A complete sheet name is the only one that its slice begins with. -/
theorem escapesQuote_quoted_iff
    {name rest : List Char} (ends : rest.head? ≠ some '\'') :
    EscapesQuote ('\'' :: Text.doubled '\'' name ++ '\'' :: rest) ↔ '\'' ∈ name := by
  constructor
  · rintro ⟨other, behind, member, endsAgain, same⟩
    have inside := (List.cons.inj same).2
    obtain ⟨rfl, -⟩ := Text.doubled_append_inj (endsDoubling_closed ends)
      (endsDoubling_closed endsAgain) inside
    exact member
  · intro member
    exact ⟨name, rest, member, ends, rfl⟩

theorem Unescapes.eq_iff
    {slice value : List Char} (unescapes : Unescapes slice value) :
    value = slice ↔ ¬ EscapesQuote slice := by
  cases unescapes with
  | plain unquoted => simpa using not_escapesQuote_of_unquoted unquoted
  | @quoted name rest ends =>
      rw [escapesQuote_quoted_iff ends, ← Text.doubled_eq_self_iff]
      simp [eq_comm]

/-! ## Slices of tokens of unknown kind -/

/-- What is known of a token of unknown kind and its slice. -/
structure Recorded (slice value : List Char) : Prop where
  verbatim_iff : value = slice ↔ ¬ EscapesQuote slice
  unescapes : EscapesQuote slice → Unescapes slice value

theorem recorded_of_verbatim {slice : List Char} (plain : ¬ EscapesQuote slice) :
    Recorded slice slice where
  verbatim_iff := by simpa using plain
  unescapes := fun escapes => absurd escapes plain

theorem Spells.recorded
    {slice : List Char} {token : Token}
    (spells : Spells slice token)
    (isUnknown : token.kind = .unknown)
    (plain : token.isMark = false) :
    Recorded slice token.value := by
  cases spells with
  | unknown _ unescapes => exact ⟨unescapes.eq_iff, fun _ => unescapes⟩
  | unbalanced isCloser =>
      apply recorded_of_verbatim
      apply not_escapesQuote_of_unquoted
      rcases isCloser with rfl | rfl
      · simp
      · simp
  | openText =>
      apply recorded_of_verbatim
      exact not_escapesQuote_of_unquoted (by simp)
  | openSheetPath => exact recorded_of_verbatim (not_escapesQuote_open _)
  | symbol isSymbol =>
      cases isUnknown
      simp at isSymbol
  | parenthesisStop => cases plain
  | _ => cases isUnknown

/-! ## The place of a token in a text -/

/-- The slices of entries fall apart at a token that neither opens nor ends a group. -/
theorem Spelling.split
    {slices : List (List Char)} {before behind : List Entry} {token : Token}
    (spelling : Spelling slices (before ++ some token :: behind))
    (plain : token.isMark = false) :
    ∃ earlier slice later,
      slices = earlier ++ slice :: later ∧ Spelling earlier before ∧ Spells slice token ∧
        Spelling later behind := by
  generalize whole : before ++ some token :: behind = entries at spelling
  induction spelling generalizing before with
  | nil => simp at whole
  | @token slice first slices entries spells later ih =>
      cases before with
      | nil =>
          cases whole
          exact ⟨[], slice, slices, rfl, .nil, spells, later⟩
      | cons entry before =>
          cases whole
          rcases ih rfl with ⟨earlier, own, others, rfl, spelled, ownSpells, rest⟩
          exact ⟨slice :: earlier, own, others, rfl, .token spells spelled, ownSpells, rest⟩
  | @arrayStart slices entries later ih =>
      rcases before with _ | ⟨first, _ | ⟨second, before⟩⟩
      · cases whole
        cases plain
      · cases whole
        cases plain
      · cases whole
        rcases ih rfl with ⟨earlier, own, others, rfl, spelled, ownSpells, rest⟩
        exact ⟨[] :: ['{'] :: earlier, own, others, rfl, .arrayStart spelled, ownSpells, rest⟩
  | @arrayStop wrapper slices entries later ih =>
      rcases before with _ | ⟨first, _ | ⟨second, before⟩⟩
      · cases whole
        cases plain
      · cases wrapper with
        | none => simp at whole
        | some kind =>
            cases whole
            cases plain
      · cases whole
        rcases ih rfl with ⟨earlier, own, others, rfl, spelled, ownSpells, rest⟩
        exact ⟨['}'] :: [] :: earlier, own, others, rfl, .arrayStop spelled, ownSpells, rest⟩

/--
A slice of a text that a token stands for.  The entries before the token stand
for what is before the slice, and the entries behind it for the rest.
-/
def StandsFor
    (slice text : List Char)
    (before : List Entry) (token : Token) (behind : List Entry) : Prop :=
  ∃ earlier later,
    Spelling earlier before ∧ Spells slice token ∧ Spelling later behind ∧
      text = earlier.flatten ++ slice ++ later.flatten

theorem StandsFor.spells
    {slice text : List Char} {before behind : List Entry} {token : Token}
    (stands : StandsFor slice text before token behind) :
    Spells slice token := by
  rcases stands with ⟨_, _, _, spells, _⟩
  exact spells

/-- Every token that neither opens nor ends a group has its place in the text. -/
theorem exists_standsFor
    {text : List Char} {before behind : List Entry} {token : Token}
    (scanned : (lenient text).entries = before ++ some token :: behind)
    (plain : token.isMark = false) :
    ∃ slice, StandsFor slice text before token behind := by
  rcases (scanned_finalState text).spelled with ⟨slices, pending, spelling, split, state⟩
  rcases closeLiteral_spelling split state with ⟨last, ending, flat⟩
  have spelled : Spelling (slices ++ last) (before ++ some token :: behind) := by
    rw [← scanned, lenient_entries]
    exact spelling.append ending
  rcases spelled.split plain with ⟨earlier, slice, later, parts, spelledEarlier, spells, rest⟩
  refine ⟨slice, earlier, later, spelledEarlier, spells, rest, ?_⟩
  calc
    text = slices.flatten ++ pending := split
    _ = (slices ++ last).flatten := by rw [List.flatten_append, flat]
    _ = (earlier ++ slice :: later).flatten := by rw [parts]
    _ = earlier.flatten ++ slice ++ later.flatten := by simp

/-- A token of unknown kind has no part in a group. -/
theorem noMark_of_unknown
    {text : List Char} {token : Token}
    (member : some token ∈ (lenient text).entries)
    (isUnknown : token.kind = .unknown) :
    token.isMark = false := by
  have all : Lawful (lenient text).entries := lawful_entries (List.prefix_refl (moves false text))
  have lawful := all token member
  rw [Bool.eq_false_iff]
  intro isMark
  rcases lawful.isGroup isMark with kind | kind
  · simp [isUnknown] at kind
  · simp [isUnknown] at kind

/--
A token of unknown kind stands for a slice of the text.  Its value is the slice
exactly when the slice does not begin with a complete sheet name that has a quote
written twice; then the value has each of these quotes once.
-/
theorem unknown_verbatim_iff
    {text : List Char} {before behind : List Entry} {token : Token}
    (scanned : (lenient text).entries = before ++ some token :: behind)
    (isUnknown : token.kind = .unknown) :
    ∃ slice,
      StandsFor slice text before token behind ∧
        (token.value = slice ↔ ¬ EscapesQuote slice) ∧
        (EscapesQuote slice → Unescapes slice token.value) := by
  have member : some token ∈ (lenient text).entries := by
    rw [scanned]
    exact List.mem_append_right before (List.mem_cons_self ..)
  have plain := noMark_of_unknown member isUnknown
  rcases exists_standsFor scanned plain with ⟨slice, stands⟩
  have recorded := stands.spells.recorded isUnknown plain
  exact ⟨slice, stands, recorded.verbatim_iff, recorded.unescapes⟩

/-- A sheet name before a text, and a parenthesis that closes nothing. -/
def strayText : List Char := "'b''c'\"x\")".toList

/-- The first token of its scan. -/
def straySheet : Token := ⟨.unknown, "'b'c'".toList, none⟩

/-- The other tokens of its scan. -/
def strayTokens : List Token :=
  [⟨.operand, ['x'], some .text⟩, ⟨.unknown, [')'], none⟩]

theorem unknown_verbatim_iff_strayText :
    (lenient strayText).entries = [] ++ some straySheet :: strayTokens.map some ∧
      straySheet.kind = .unknown ∧
      ∃ slice,
        StandsFor slice strayText [] straySheet (strayTokens.map some) ∧
          (straySheet.value = slice ↔ ¬ EscapesQuote slice) ∧
          (EscapesQuote slice → Unescapes slice straySheet.value) := by
  have scanned :
      (lenient strayText).entries = [] ++ some straySheet :: strayTokens.map some := by
    decide +kernel
  exact ⟨scanned, rfl, unknown_verbatim_iff scanned rfl⟩

/-- A token of unknown kind need not occur in the text. -/
theorem not_unknown_verbatim :
    ¬ ∀ (text : List Char) (token : Token),
      some token ∈ (lenient text).entries → token.kind = .unknown →
        token.value <:+: text := by
  intro verbatim
  have member : some straySheet ∈ (lenient strayText).entries := by decide +kernel
  rcases verbatim strayText straySheet member rfl with ⟨left, right, whole⟩
  have starts : straySheet.value.isPrefixOf (strayText.drop left.length) = true := by
    rw [← whole, List.append_assoc, List.drop_left, List.isPrefixOf_iff_prefix]
    exact List.prefix_append _ _
  have near : left.length < strayText.length := by
    rw [← whole]
    simp [straySheet]
  have never :
      ∀ place < strayText.length,
        straySheet.value.isPrefixOf (strayText.drop place) = false := by
    decide +kernel
  rw [never left.length near] at starts
  cases starts

end SheetFormula.Scan
