import SheetFormula.Formula
import SheetFormula.Proofs.Nesting.Replay

/-!
# Intersections are the spaces between ranges

A list of tokens is made of tokens that are no blanks, each with the blanks behind
it, and of the blanks before all of them.  Resolving keeps the former and looks
at each gap by itself: its blanks become intersections when a range ends before
it and one starts behind it, and disappear otherwise.

A scan leaves no two blanks together, since a blank takes all spaces at its
place and everything else that is read leaves a token, fills the buffer or opens
a literal.  Hence an intersection of a formula stands right between its ranges.

Main statement: `resolve_crosses_ranges`.
-/

namespace SheetFormula

namespace Intersection

/-! ## Gaps -/

/-- A token that is no blank, with the blanks behind it. -/
structure Spaced where
  token : Token
  blanks : List Token
  visible : token.isBlank = false
  areBlank : ∀ blank ∈ blanks, blank.isBlank

/-- The tokens of a piece as they stand in a list. -/
def Spaced.tokens (piece : Spaced) : List Token :=
  piece.token :: piece.blanks

/-- What the blanks between two tokens become. -/
def crossings (left right : Option Token) (blanks : List Token) : List Token :=
  if left.any Token.endsRange && right.any Token.startsRange then
    blanks.map Token.asIntersection
  else []

/-- The tokens of some pieces with the intersections between them. -/
def crossed : List Spaced → List Token
  | [] => []
  | piece :: rest =>
      piece.token ::
        (crossings (some piece.token) (rest.head?.map Spaced.token) piece.blanks ++ crossed rest)

/-- Every list is cut into pieces behind the blanks that it begins with. -/
theorem exists_spaced (tokens : List Token) :
    ∃ (leading : List Token) (pieces : List Spaced),
      (∀ blank ∈ leading, blank.isBlank) ∧
        tokens = leading ++ pieces.flatMap Spaced.tokens := by
  induction tokens with
  | nil => exact ⟨[], [], by simp, rfl⟩
  | cons token rest ih =>
      rcases ih with ⟨leading, pieces, areBlank, rfl⟩
      cases visible : token.isBlank with
      | true => exact ⟨token :: leading, pieces, List.forall_mem_cons.mpr ⟨visible, areBlank⟩, rfl⟩
      | false => exact ⟨[], ⟨token, leading, visible, areBlank⟩ :: pieces, by simp, rfl⟩

theorem find?_blanks
    {blanks : List Token} (areBlank : ∀ blank ∈ blanks, blank.isBlank) (rest : List Token) :
    ((blanks ++ rest).find? fun other => !other.isBlank) =
      rest.find? fun other => !other.isBlank := by
  rw [List.find?_append, List.find?_eq_none.mpr, Option.none_or]
  intro blank member
  simp [areBlank blank member]

theorem find?_pieces (pieces : List Spaced) :
    ((pieces.flatMap Spaced.tokens).find? fun other => !other.isBlank) =
      pieces.head?.map Spaced.token := by
  cases pieces with
  | nil => rfl
  | cons piece rest => simp [Spaced.tokens, piece.visible]

/-- Blanks are resolved all in the same way. -/
theorem resolveAfter_blanks
    {blanks : List Token} (areBlank : ∀ blank ∈ blanks, blank.isBlank)
    (left : Option Token) (rest : List Token) :
    resolveAfter left (blanks ++ rest) =
      crossings left (rest.find? fun other => !other.isBlank) blanks ++ resolveAfter left rest := by
  induction blanks with
  | nil => simp [crossings]
  | cons blank others ih =>
      rcases List.forall_mem_cons.mp areBlank with ⟨isBlank, areBlankLater⟩
      simp only [List.cons_append, resolveAfter, isBlank, if_true, find?_blanks areBlankLater]
      rw [ih areBlankLater, crossings, crossings]
      split
      · rfl
      · rfl

/-- Resolving looks at each gap by itself. -/
theorem resolveAfter_pieces
    {leading : List Token} (areBlank : ∀ blank ∈ leading, blank.isBlank)
    (left : Option Token) (pieces : List Spaced) :
    resolveAfter left (leading ++ pieces.flatMap Spaced.tokens) =
      crossings left (pieces.head?.map Spaced.token) leading ++ crossed pieces := by
  rw [resolveAfter_blanks areBlank, find?_pieces]
  congr 1
  induction pieces generalizing left with
  | nil => rfl
  | cons piece rest ih =>
      have visible : ¬ piece.token.isBlank := by simp [piece.visible]
      rw [List.flatMap_cons, Spaced.tokens, List.cons_append, resolveAfter, if_neg visible,
        resolveAfter_blanks piece.areBlank, find?_pieces, ih, crossed]

theorem filter_pieces
    {leading : List Token} (areBlank : ∀ blank ∈ leading, blank.isBlank)
    (pieces : List Spaced) :
    ((leading ++ pieces.flatMap Spaced.tokens).filter fun token => !token.isBlank) =
      pieces.map Spaced.token := by
  have noneOf {blanks : List Token} (areBlank : ∀ blank ∈ blanks, blank.isBlank) :
      (blanks.filter fun token => !token.isBlank) = [] := by
    rw [List.filter_eq_nil_iff]
    intro blank member
    simp [areBlank blank member]
  rw [List.filter_append, noneOf areBlank, List.nil_append]
  induction pieces with
  | nil => rfl
  | cons piece rest ih =>
      rw [List.flatMap_cons, List.filter_append, ih, Spaced.tokens,
        List.filter_cons_of_pos (by simp [piece.visible]), noneOf piece.areBlank, List.map_cons,
        List.cons_append, List.nil_append]

theorem head?_crossed (pieces : List Spaced) :
    (crossed pieces).head? = pieces.head?.map Spaced.token := by
  cases pieces with
  | nil => rfl
  | cons piece rest => rfl

/-- A gap with at most one blank holds nothing or an intersection between two ranges. -/
theorem crossings_of_single
    {blanks : List Token} (single : blanks.length ≤ 1) (left right : Option Token) :
    crossings left right blanks = [] ∨
      ∃ blank : Token,
        crossings left right blanks = [blank.asIntersection] ∧
          left.any Token.endsRange ∧ right.any Token.startsRange := by
  unfold crossings
  split
  · next ranges =>
      rw [Bool.and_eq_true] at ranges
      cases blanks with
      | nil => exact .inl rfl
      | cons blank others =>
          cases others with
          | nil => exact .inr ⟨blank, rfl, ranges⟩
          | cons second more => simp at single
  · exact .inl rfl

theorem any_getLast?_cons
    {property : Token → Bool} {tokens : List Token}
    (last : tokens.getLast?.any property) (first : Token) :
    (first :: tokens).getLast?.any property := by
  cases tokens with
  | nil => cases last
  | cons second rest => rwa [List.getLast?_cons_cons]

/-- Where no two blanks stand together, an intersection stands right between two ranges. -/
theorem ranges_of_crossed
    {pieces : List Spaced}
    (single : ∀ piece ∈ pieces, piece.blanks.length ≤ 1)
    (uncrossed : ∀ piece ∈ pieces, piece.token.subkind ≠ some .intersect)
    {earlier later : List Token} {token : Token}
    (resolved : crossed pieces = earlier ++ token :: later)
    (intersects : token.subkind = some .intersect) :
    earlier.getLast?.any Token.endsRange ∧ later.head?.any Token.startsRange := by
  induction pieces generalizing earlier with
  | nil => simp [crossed] at resolved
  | cons piece rest ih =>
      rcases List.forall_mem_cons.mp single with ⟨singleHere, singleLater⟩
      rcases List.forall_mem_cons.mp uncrossed with ⟨uncrossedHere, uncrossedLater⟩
      have inRest {between : List Token} (resolved : crossed rest = between ++ token :: later) :=
        ih singleLater uncrossedLater resolved
      rw [crossed] at resolved
      cases earlier with
      | nil =>
          rw [List.nil_append, List.cons.injEq] at resolved
          rw [resolved.1] at uncrossedHere
          exact absurd intersects uncrossedHere
      | cons first between =>
          rw [List.cons_append, List.cons.injEq] at resolved
          rcases resolved with ⟨rfl, resolved⟩
          rcases crossings_of_single singleHere (some piece.token) (rest.head?.map Spaced.token)
            with nothing | ⟨blank, one, ends, starts⟩
          · rw [nothing, List.nil_append] at resolved
            rcases inRest resolved with ⟨ends, starts⟩
            exact ⟨any_getLast?_cons ends _, starts⟩
          · rw [one, List.singleton_append] at resolved
            cases between with
            | nil =>
                rw [List.nil_append, List.cons.injEq] at resolved
                rw [← resolved.2, head?_crossed]
                exact ⟨ends, starts⟩
            | cons second others =>
                rw [List.cons_append, List.cons.injEq] at resolved
                rcases inRest resolved.2 with ⟨ends, starts⟩
                exact ⟨any_getLast?_cons (any_getLast?_cons ends _) _, starts⟩

end Intersection

/-! ## The blanks of a scan -/

namespace Scan

/-- Whether an entry is a blank. -/
def isBlankEntry (entry : Entry) : Bool :=
  entry.any Token.isBlank

/-- Entries that are no blanks. -/
def Visible (entries : List Entry) : Prop :=
  ∀ entry ∈ entries, isBlankEntry entry = false

theorem visible_nil : Visible [] := by
  intro entry member
  cases member

theorem visible_cons
    {entry : Entry} {rest : List Entry}
    (here : isBlankEntry entry = false) (later : Visible rest) :
    Visible (entry :: rest) :=
  List.forall_mem_cons.mpr ⟨here, later⟩

theorem Visible.append
    {first second : List Entry} (before : Visible first) (after : Visible second) :
    Visible (first ++ second) :=
  List.forall_mem_append.mpr ⟨before, after⟩

theorem visible_flush (state : State) {kind : Kind} (noBlank : kind ≠ .blank) :
    Visible (state.flush kind) := by
  unfold State.flush
  split
  · exact visible_nil
  · exact visible_cons (by simp [isBlankEntry, Token.isBlank, noBlank]) visible_nil

theorem isBlankEntry_stopFor
    {opener : Token} (isOpener : opener.isOpener) (value : List Char) :
    isBlankEntry (some (Nesting.stopFor opener value)) = false := by
  simp only [Token.isOpener, Token.isGroup, Bool.and_eq_true, Bool.or_eq_true,
    beq_iff_eq] at isOpener
  rcases isOpener.2 with kind | kind <;>
    simp [isBlankEntry, Token.isBlank, Nesting.stopFor, kind]

/-- What separates is visible, unless it is a space. -/
theorem Separates.visible
    {nesting : Nesting} {char : Char} {tail : List Char} {token : Token} {extra : Nat}
    (separates : Separates nesting char tail token extra)
    (noSpace : char ≠ ' ') :
    isBlankEntry (some token) = false := by
  cases separates with
  | blank => exact absurd rfl noSpace
  | comma =>
      unfold commaToken
      split <;> rfl
  | _ => rfl

/-- Only a step over spaces leaves a blank. -/
theorem Rule.visible
    {state : State} {char : Char} {tail : List Char} {move : Move}
    (rule : Rule state char tail move)
    (opened : Opened state.nesting)
    (noSpace : state.mode = .normal → char ≠ ' ') :
    Visible (move.entries false) := by
  intro entry member
  cases entry with
  | none => rfl
  | some token =>
      cases rule.completed member with
      | separator mode separates => exact separates.visible (noSpace mode)
      | stop isOpen => exact isBlankEntry_stopFor (opened _ isOpen) _
      | _ => rfl

/-- A step that leaves nothing fills the buffer or leads into a literal. -/
theorem Rule.fills
    {state : State} {char : Char} {tail : List Char} {move : Move}
    (rule : Rule state char tail move)
    (nothing : move.entries false = [])
    (mode : move.next.mode = .normal) :
    move.next.buffer ≠ [] := by
  cases rule with
  | separate | openArray | openParenthesis | closeArray | closeParenthesis | unbalancedArray
  | unbalancedParenthesis | endText | endErrorCode =>
      simp [Move.entries, Scan.separate, Scan.openArray, Scan.openParenthesis, unbalanced]
        at nothing
  | openLiteral => cases mode
  | _ => simp [Scan.openBracketRange]

/-- No two blanks of a list stand together. -/
def NoTwins (entries : List Entry) : Prop :=
  ∀ earlier first second later,
    entries = earlier ++ first :: second :: later →
    ¬ (isBlankEntry first ∧ isBlankEntry second)

theorem noTwins_nil : NoTwins [] := by
  intro earlier first second later split
  simp at split

theorem NoTwins.concat
    {entries : List Entry} {entry : Entry}
    (noTwins : NoTwins entries)
    (apart : entries.getLast?.any isBlankEntry → isBlankEntry entry = false) :
    NoTwins (entries ++ [entry]) := by
  rintro earlier first second later split ⟨isBlank, follows⟩
  rcases List.eq_nil_or_concat later with rfl | ⟨others, last, rfl⟩
  · rw [List.append_cons earlier] at split
    rcases List.append_inj' split rfl with ⟨rfl, same⟩
    cases same
    rw [List.getLast?_concat, Option.any_some, follows] at apart
    cases apart isBlank
  · rw [List.concat_eq_append, ← List.cons_append, ← List.cons_append, ← List.append_assoc] at split
    exact noTwins _ _ _ _ (List.append_inj' split rfl).1 ⟨isBlank, follows⟩

theorem NoTwins.append
    {before more : List Entry} (noTwins : NoTwins before) (visible : Visible more) :
    NoTwins (before ++ more) := by
  induction more generalizing before with
  | nil => rwa [List.append_nil]
  | cons entry rest ih =>
      rcases List.forall_mem_cons.mp visible with ⟨here, later⟩
      rw [List.append_cons]
      exact ih (noTwins.concat fun _ => here) later

/-- What is known about blanks at a place of a scan: behind one no space is left to read. -/
structure Parted (before : List Entry) (state : State) (rest : List Char) : Prop where
  opened : Opened state.nesting
  noTwins : NoTwins before
  behind : before.getLast?.any isBlankEntry →
    state.mode = .normal → state.buffer = [] → rest.head? ≠ some ' '

theorem Visible.getLast?
    {entries : List Entry} (visible : Visible entries) (nonempty : entries ≠ [])
    (before : List Entry) :
    (before ++ entries).getLast?.any isBlankEntry = false := by
  rcases List.eq_nil_or_concat entries with rfl | ⟨others, last, rfl⟩
  · exact absurd rfl nonempty
  · rw [List.concat_eq_append, ← List.append_assoc, List.getLast?_concat]
    exact visible last (by simp)

/-- Steps keep blanks apart. -/
theorem Parted.step
    {before : List Entry} {state : State} {char : Char} {tail : List Char}
    (parted : Parted before state (char :: tail)) :
    Parted (before ++ (Scan.step state char tail).entries false) (Scan.step state char tail).next
      (tail.drop (Scan.step state char tail).extra) := by
  have rule := stepMode_rule state char tail
  by_cases space : state.mode = .normal ∧ char = ' '
  · rcases space with ⟨mode, rfl⟩
    have operand : Visible (state.flush .operand) := visible_flush state (by decide)
    rw [step_space_rest mode]
    refine ⟨rule.opened parted.opened, ?_, fun _ _ _ => head_behindSpaces tail⟩
    rw [step_space_entries mode, ← List.append_assoc]
    refine (parted.noTwins.append operand).concat fun endsBlank => ?_
    -- a blank before the space would need a buffer between them
    by_cases empty : state.buffer = []
    · rw [State.flush, if_pos (by simp [empty]), List.append_nil] at endsBlank
      exact absurd rfl (parted.behind endsBlank mode empty)
    · rw [operand.getLast? (by simp [State.flush, empty])] at endsBlank
      cases endsBlank
  · have visible : Visible ((Scan.step state char tail).entries false) :=
      rule.visible parted.opened fun mode isSpace => space ⟨mode, isSpace⟩
    refine ⟨rule.opened parted.opened, parted.noTwins.append visible, ?_⟩
    intro endsBlank mode empty
    by_cases nothing : (Scan.step state char tail).entries false = []
    · exact absurd empty (rule.fills nothing mode)
    · rw [visible.getLast? nothing] at endsBlank
      cases endsBlank

theorem Reads.parted
    {state final : State} {text rest : List Char} {made : List Move} {before : List Entry}
    (run : Reads state text made final rest)
    (parted : Parted before state text) :
    Parted (before ++ entries false made) final rest := by
  induction run generalizing before with
  | done => rwa [entries_nil, List.append_nil]
  | move later ih =>
      rw [entries_cons, ← List.append_assoc]
      exact ih parted.step

/-- What is known about blanks before a scan begins. -/
theorem parted_initial (text : List Char) : Parted [] .initial text where
  opened := by simp [Opened, State.initial]
  noTwins := noTwins_nil
  behind := by simp

theorem closeLiteral_visible (text : List Char) (state : State) :
    Visible ((closeLiteral text state).entries false) := by
  unfold closeLiteral
  split
  · exact (visible_flush state (by decide)).append visible_nil
  · exact visible_cons rfl visible_nil

/-- No scan leaves two blanks together. -/
theorem noTwins_lenient (text : List Char) : NoTwins (lenient text).entries := by
  have read := (reads_finalState text).parted (parted_initial text)
  rw [List.nil_append] at read
  rw [lenient_entries]
  exact read.noTwins.append (closeLiteral_visible text (finalState text))

/-! ## No intersections before they are resolved -/

/-- Entries among which there is no intersection. -/
def Uncrossed (entries : List Entry) : Prop :=
  ∀ token, some token ∈ entries → token.subkind ≠ some .intersect

theorem Uncrossed.append
    {first second : List Entry} (before : Uncrossed first) (after : Uncrossed second) :
    Uncrossed (first ++ second) := by
  intro token member
  rcases List.mem_append.mp member with member | member
  · exact before token member
  · exact after token member

theorem Separates.uncrossed
    {nesting : Nesting} {char : Char} {tail : List Char} {token : Token} {extra : Nat}
    (separates : Separates nesting char tail token extra) :
    token.subkind ≠ some .intersect := by
  cases separates with
  | comma =>
      unfold commaToken
      split <;> simp
  | _ => simp

theorem Rule.uncrossed
    {state : State} {char : Char} {tail : List Char} {move : Move}
    (rule : Rule state char tail move) :
    Uncrossed (move.entries false) := by
  intro token member
  cases rule.completed member with
  | separator _ separates => exact separates.uncrossed
  | _ => simp [Nesting.stopFor]

theorem closeLiteral_uncrossed (text : List Char) (state : State) :
    Uncrossed ((closeLiteral text state).entries false) := by
  intro token member
  unfold closeLiteral at member
  split at member
  · rw [Move.entries, List.append_nil] at member
    simp [(State.mem_flush member).2]
  · cases List.mem_singleton.mp member
    simp

/-- A scan leaves no intersections. -/
theorem uncrossed_lenient (text : List Char) : Uncrossed (lenient text).entries := by
  have kept : Kept text fun made state =>
      Opened state.nesting ∧ Uncrossed (entries false made) := by
    apply kept_entries fun entries _ => Uncrossed entries
    · intro token member
      cases member
    · intro before state char tail move rule _ uncrossed
      exact uncrossed.append rule.uncrossed
    · intro before state uncrossed
      exact uncrossed.append (closeLiteral_uncrossed text state)
  exact (kept.of_isPrefix List.prefix_rfl).2

end Scan

namespace Intersection

open Scan

/-- Where no two blanks of a list stand together, no piece of it has two. -/
theorem single_of_noTwins
    {leading : List Token} {pieces : List Spaced}
    (noTwins : NoTwins ((leading ++ pieces.flatMap Spaced.tokens).map some)) :
    ∀ piece ∈ pieces, piece.blanks.length ≤ 1 := by
  intro piece member
  rcases List.append_of_mem member with ⟨before, behind, rfl⟩
  rcases split : piece.blanks with - | ⟨first, - | ⟨second, others⟩⟩
  · simp
  · simp
  · have areBlank := piece.areBlank
    rw [split, List.forall_mem_cons, List.forall_mem_cons] at areBlank
    refine absurd ⟨areBlank.1, areBlank.2.1⟩ (noTwins
      ((leading ++ before.flatMap Spaced.tokens ++ [piece.token]).map some) (some first)
      (some second) ((others ++ behind.flatMap Spaced.tokens).map some) ?_)
    simp [Spaced.tokens, split]

/--
Intersections are the spaces between two ranges.  Every list of tokens falls into
pieces, and resolving keeps their tokens and puts as many intersections between two
of them as there were blanks, if one ends a range and the next starts one.  No scan
leaves two blanks together, and so an intersection in a scanned text stands right
between the ends of two ranges.
-/
theorem resolve_crosses_ranges :
    (∀ tokens : List Token,
      ∃ (leading : List Token) (pieces : List Spaced),
        (∀ blank ∈ leading, blank.isBlank) ∧
          tokens = leading ++ pieces.flatMap Spaced.tokens) ∧
      (∀ (leading : List Token) (pieces : List Spaced),
        (∀ blank ∈ leading, blank.isBlank) →
          ((leading ++ pieces.flatMap Spaced.tokens).filter fun token => !token.isBlank) =
              pieces.map Spaced.token ∧
            resolve (leading ++ pieces.flatMap Spaced.tokens) = crossed pieces) ∧
      ∀ (isStrict : Bool) (text : List Char) (entries : List Entry),
        scan isStrict text = .ok entries →
          NoTwins entries ∧
            ∀ earlier token later,
              Formula.resolve entries = .ok (earlier ++ token :: later) →
              token.kind = .infixOp →
              token.subkind = some .intersect →
              earlier.getLast?.any Token.endsRange ∧ later.head?.any Token.startsRange := by
  refine ⟨exists_spaced, ?_, ?_⟩
  · intro leading pieces areBlank
    constructor
    · exact filter_pieces areBlank pieces
    · exact resolveAfter_pieces areBlank none pieces
  · intro isStrict text entries scanned
    have left : (lenient text).entries = entries := (scan_eq_ok_iff.mp scanned).1
    have noTwins := noTwins_lenient text
    have uncrossed := uncrossed_lenient text
    rw [left] at noTwins uncrossed
    refine ⟨noTwins, ?_⟩
    intro earlier token later resolved _ intersects
    unfold Formula.resolve at resolved
    split at resolved
    · next tokens shown =>
        cases Formula.present_eq_ok_iff.mp shown
        rcases exists_spaced tokens with ⟨leading, pieces, areBlank, rfl⟩
        rw [Except.ok.injEq, resolve, resolveAfter_pieces areBlank none pieces] at resolved
        apply ranges_of_crossed (single_of_noTwins noTwins) ?_ resolved intersects
        intro piece member
        apply uncrossed
        apply List.mem_map_of_mem
        apply List.mem_append_right
        exact List.mem_flatMap.mpr ⟨piece, member, List.mem_cons_self⟩
    · cases resolved

/-- A text with spaces between ranges, around an operator and at both ends. -/
def spacedText : List Char := " A1  B2 + (C3) D4 ".toList

/-- What a scan of it leaves. -/
def spacedTokens : List Token :=
  [blankToken, ⟨.operand, "A1".toList, none⟩, blankToken, ⟨.operand, "B2".toList, none⟩,
    blankToken, ⟨.infixOp, ['+'], none⟩, blankToken, ⟨.subexpression, [], some .start⟩,
    ⟨.operand, "C3".toList, none⟩, ⟨.subexpression, [], some .stop⟩, blankToken,
    ⟨.operand, "D4".toList, none⟩, blankToken]

theorem resolve_crosses_spacedText :
    scan false spacedText = .ok (spacedTokens.map some) ∧
      NoTwins (spacedTokens.map some) ∧
      ∃ earlier later,
        Formula.resolve (spacedTokens.map some) =
            .ok (earlier ++ blankToken.asIntersection :: later) ∧
          earlier.length = 7 ∧
          earlier.getLast?.any Token.endsRange ∧ later.head?.any Token.startsRange := by
  have scanned : scan false spacedText = .ok (spacedTokens.map some) := by
    have left : (lenient spacedText).entries = spacedTokens.map some := by decide +kernel
    rw [scan, if_neg Bool.false_ne_true, left]
  have resolved : Formula.resolve (spacedTokens.map some) =
      .ok ((resolve spacedTokens).take 7 ++ blankToken.asIntersection ::
        (resolve spacedTokens).drop 8) := rfl
  rcases resolve_crosses_ranges.2.2 false spacedText _ scanned with ⟨noTwins, ranges⟩
  exact ⟨scanned, noTwins, _, _, resolved, rfl, ranges _ _ _ resolved rfl rfl⟩

end Intersection

end SheetFormula
