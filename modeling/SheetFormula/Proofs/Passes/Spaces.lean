import SheetFormula.Proofs.Passes.Intersections
import SheetFormula.Proofs.Scan.Relocation

/-!
# Spaces that mean nothing

Spaces matter inside literals, inside words and between ranges.  Elsewhere they
leave one blank at most, and that blank disappears when intersections are
resolved: either no range ends before it, or no range starts behind it.

Main statement: `spaces_insignificant`.  Outside literals, any number of spaces may
be put in where the scanner has collected nothing and no range has ended, or where
a character follows that completes what was collected.
-/

namespace SheetFormula

/-! ## A blank between tokens that make no intersection -/

namespace Intersection

/-- Whether a blank between two lists of tokens is an intersection. -/
def crosses (left : Option Token) (before behind : List Token) : Bool :=
  (((before.filter fun token => !token.isBlank).getLast?.or left).any Token.endsRange) &&
    (behind.find? fun token => !token.isBlank).any Token.startsRange

/-- A blank that is no intersection disappears without a trace. -/
theorem resolveAfter_insert
    {blank : Token} (isBlank : blank.isBlank)
    {left : Option Token} {before behind : List Token}
    (uncrossed : crosses left before behind = false) :
    resolveAfter left (before ++ blank :: behind) = resolveAfter left (before ++ behind) := by
  induction before generalizing left with
  | nil =>
      simp only [crosses, List.filter_nil, List.getLast?_nil, Option.none_or] at uncrossed
      simp only [List.nil_append, resolveAfter, isBlank, if_true, uncrossed, Bool.false_eq_true,
        if_false]
  | cons token rest ih =>
      have right : ((rest ++ blank :: behind).find? fun other => !other.isBlank) =
          (rest ++ behind).find? fun other => !other.isBlank := by
        simp [List.find?_append, isBlank]
      by_cases visible : token.isBlank
      · rw [crosses, List.filter_cons_of_neg (by simp [visible])] at uncrossed
        simp only [List.cons_append, resolveAfter, visible, if_true, right, ih uncrossed]
      · rw [crosses, List.filter_cons_of_pos (by simp [visible]), List.getLast?_cons] at uncrossed
        simp only [List.cons_append, resolveAfter, visible, Bool.false_eq_true, if_false]
        rw [ih]
        rw [crosses, ← uncrossed]
        cases (rest.filter fun token => !token.isBlank).getLast? <;> rfl

end Intersection

namespace Scan

/-- Whether a blank between two lists of entries is an intersection. -/
def crosses (before behind : List Entry) : Bool :=
  ((before.filter fun entry => !isBlankEntry entry).getLast?.any fun entry =>
      entry.any Token.endsRange) &&
    (behind.find? fun entry => !isBlankEntry entry).any fun entry =>
      entry.any Token.startsRange

theorem crosses_map_some (before behind : List Token) :
    crosses (before.map some) (behind.map some) =
      Intersection.crosses none before behind := by
  have visible : (fun entry : Entry => !isBlankEntry entry) ∘ some =
      fun token : Token => !token.isBlank := rfl
  simp only [crosses, Intersection.crosses, List.filter_map, List.find?_map, visible,
    List.getLast?_map, Option.any_map, Option.or_none]
  rfl

/-- A blank entry that is no intersection makes no difference. -/
theorem resolve_insert
    {before behind : List Entry} (uncrossed : crosses before behind = false) :
    Formula.resolve (before ++ some blankToken :: behind) = Formula.resolve (before ++ behind) := by
  unfold Formula.resolve
  cases shown : Formula.present (before ++ behind) with
  | error error =>
      rcases Formula.present_eq_error_iff.mp shown with ⟨rfl, vacant⟩
      have stays : none ∈ before ++ some blankToken :: behind := by
        simpa using vacant
      rw [Formula.present_eq_error_iff.mpr ⟨rfl, stays⟩]
  | ok tokens =>
      rcases List.map_eq_append_iff.mp (Formula.present_eq_ok_iff.mp shown).symm with
        ⟨first, second, rfl, rfl, rfl⟩
      have longer : Formula.present (first.map some ++ some blankToken :: second.map some) =
          .ok (first ++ blankToken :: second) := by
        rw [Formula.present_eq_ok_iff, List.map_append, List.map_cons]
      have isBlank : blankToken.isBlank := rfl
      rw [crosses_map_some] at uncrossed
      rw [longer]
      simp only [Intersection.resolve, Intersection.resolveAfter_insert isBlank uncrossed]

/-! ## Characters that complete a word -/

/-- Characters in front of which a word ends and no range starts. -/
def closers : List Char := [')', '}', ',', ';', '%'] ++ infixChars

/-- An entry that makes no intersection of the blanks before it. -/
structure Closing (entry : Entry) : Prop where
  visible : isBlankEntry entry = false
  startsNoRange : entry.any Token.startsRange = false

theorem crosses_closing
    {entry : Entry} (closing : Closing entry) (before behind : List Entry) :
    crosses before (entry :: behind) = false := by
  rw [crosses, List.find?_cons_of_pos (by simp [closing.visible]), Option.any_some,
    closing.startsNoRange, Bool.and_false]

theorem Separates.closing
    {nesting : Nesting} {char : Char} {tail : List Char} {token : Token} {extra : Nat}
    (separates : Separates nesting char tail token extra)
    (noSpace : char ≠ ' ') :
    Closing (some token) := by
  refine ⟨separates.visible noSpace, ?_⟩
  cases separates with
  | comma =>
      unfold commaToken
      split <;> rfl
  | _ => rfl

theorem closing_stopFor
    {opener : Token} (isOpener : opener.isOpener) (value : List Char) :
    Closing (some (Nesting.stopFor opener value)) := by
  refine ⟨isBlankEntry_stopFor isOpener value, ?_⟩
  simp only [Token.isOpener, Token.isGroup, Bool.and_eq_true, Bool.or_eq_true,
    beq_iff_eq] at isOpener
  rcases isOpener.2 with kind | kind <;>
    simp [Token.startsRange, Nesting.stopFor, Token.isStart, kind]

/--
A step over a closer completes the buffer first.  From an empty buffer the same
step leaves the same entries without it.
-/
theorem Rule.closer
    {state : State} {char : Char} {tail : List Char} {move : Move}
    (rule : Rule state char tail move)
    (mode : state.mode = .normal)
    (opened : Opened state.nesting)
    (closes : char ∈ closers)
    (noSign : ¬((char = '+' ∨ char = '-') ∧ awaitsExponent state.buffer)) :
    ∃ entry others emptied,
      Closing entry ∧
        move.entries false = state.flush .operand ++ entry :: others ∧
        Rule state.cleared char tail emptied ∧
        emptied.entries false = entry :: others ∧
        emptied.next = move.next ∧
        emptied.extra = move.extra := by
  have noSpace : char ≠ ' ' := by
    rintro rfl
    exact absurd closes (by decide)
  cases rule with
  | collect _ plain =>
      have delimiter : closers.all isDelimiter = true := by decide
      rcases plain with noDelimiter | sign
      · rw [List.all_eq_true.mp delimiter char closes] at noDelimiter
        cases noDelimiter
      · exact absurd sign noSign
  | separate _ _ separates =>
      exact ⟨_, [], _, separates.closing noSpace, List.append_nil _,
        .separate mode (by simp [awaitsExponent]) separates, rfl, rfl, rfl⟩
  | @closeArray _ row outer _ nesting isRow =>
      have isOpener := opened row (by simp [nesting])
      exact ⟨_, _, _, closing_stopFor isOpener _, List.append_nil _,
        .closeArray mode nesting isRow, rfl, rfl, rfl⟩
  | @closeParenthesis _ opener outer _ nesting noRow =>
      have isOpener := opened opener (by simp [nesting])
      exact ⟨_, _, _, closing_stopFor isOpener _, List.append_nil _,
        .closeParenthesis mode nesting noRow, rfl, rfl, rfl⟩
  | unbalancedArray _ noRow =>
      exact ⟨_, [], _, ⟨rfl, rfl⟩, rfl, .unbalancedArray mode noRow, rfl, rfl, rfl⟩
  | unbalancedParenthesis _ noGroup =>
      exact ⟨_, [], _, ⟨rfl, rfl⟩, rfl, .unbalancedParenthesis mode noGroup, rfl, rfl, rfl⟩
  | openLiteral _ opens => cases opens <;> exact absurd closes (by decide)
  | openBracketRange | openArray | openParenthesis => exact absurd closes (by decide)
  | escapedQuote inside | endText inside | textCharacter inside | escapedApostrophe inside
  | endSheetPath inside | sheetPathCharacter inside | innerBracket inside
  | endInnerBracket inside | endBracketRange inside | bracketCharacter inside
  | endErrorCode inside | errorCodeCharacter inside =>
      rw [mode] at inside
      cases inside

/-- In front of a closer, what was collected comes first and stands by itself. -/
theorem exists_ahead_closer
    {text : List Char} {state : State} {char : Char}
    (mode : state.mode = .normal)
    (opened : Opened state.nesting)
    (closes : char ∈ closers)
    (noSign : ¬((char = '+' ∨ char = '-') ∧ awaitsExponent state.buffer))
    (tail : List Char) :
    ∃ entry more,
      Closing entry ∧
        ahead text state (char :: tail) = state.flush .operand ++ entry :: more ∧
        ahead text state.cleared (char :: tail) = entry :: more := by
  rcases (stepMode_rule state char tail).closer mode opened closes noSign with
    ⟨entry, others, emptied, closing, left, rule, leftEmpty, next, extra⟩
  have same : (step state.cleared char tail).next = (step state char tail).next := by
    simp only [step, rule.stepMode_eq, next, extra]
    rfl
  have sameExtra : (step state.cleared char tail).extra = (step state char tail).extra := by
    simp only [step, rule.stepMode_eq, extra]
  have one (state : State) : Reads state (char :: tail) _ _ _ := .move .done
  refine ⟨entry, others ++ ahead text (step state char tail).next
    (tail.drop (step state char tail).extra), closing, ?_, ?_⟩
  · rw [(one state).ahead_append, entries_cons, entries_nil, List.append_nil, step_entries, left,
      List.append_assoc, List.cons_append]
  · rw [(one state.cleared).ahead_append, entries_cons, entries_nil, List.append_nil, step_entries,
      rule.stepMode_eq, leftEmpty, same, sameExtra, List.cons_append]

/-! ## Insignificant spaces -/

/--
The places outside literals where spaces mean nothing: behind entries that end
no range, with nothing collected, or in front of a closer that is not the sign of an
exponent.
-/
inductive Insignificant (made : List Move) (state : State) (rest : List Char) : Prop where
  | behind
      (empty : state.buffer = [])
      (noRange : ∀ token,
        ((entries false made).filter fun entry => !isBlankEntry entry).getLast? =
            some (some token) →
          token.kind ≠ .operand ∧ token.isStop = false)
  | before {char : Char} {tail : List Char}
      (split : rest = char :: tail)
      (closes : char ∈ closers)
      (noSign : ¬((char = '+' ∨ char = '-') ∧ awaitsExponent state.buffer))

theorem Reads.position_eq
    {taken rest : List Char} {made : List Move} {state : State}
    (run : Reads .initial (taken ++ rest) made state rest) :
    state.position = taken.length := by
  rcases run.scanned scanned_initial with ⟨read, split, scanned⟩
  rw [scanned.position, List.append_cancel_right split, List.nil_append]

theorem Reads.drop_position
    {text rest : List Char} {made : List Move} {state : State}
    (run : Reads .initial text made state rest) :
    text.drop state.position = rest := by
  rcases run.scanned scanned_initial with ⟨read, rfl, scanned⟩
  rw [scanned.position, List.nil_append, List.drop_left]

theorem Reads.opened
    {text rest : List Char} {made : List Move} {state : State}
    (run : Reads .initial text made state rest) :
    Opened state.nesting :=
  (run.parted (parted_initial text)).opened

theorem Reads.entries_eq
    {text rest : List Char} {made : List Move} {state : State}
    (run : Reads .initial text made state rest) :
    (lenient text).entries = entries false made ++ ahead text state rest := by
  rw [lenient_entries_eq_ahead, run.ahead_append]

/-- Behind entries that end no range a blank is no intersection. -/
theorem crosses_behind
    {before : List Entry}
    (noRange : ∀ token,
      (before.filter fun entry => !isBlankEntry entry).getLast? = some (some token) →
        token.kind ≠ .operand ∧ token.isStop = false)
    (behind : List Entry) :
    crosses before behind = false := by
  unfold crosses
  rcases last : (before.filter fun entry => !isBlankEntry entry).getLast? with - | - | token
  · rfl
  · rfl
  · rcases noRange token last with ⟨noOperand, noStop⟩
    simp [Token.endsRange, noOperand, noStop]

/-- Where spaces are insignificant, the blank that they leave is dropped. -/
theorem Insignificant.resolve_eq
    {rest : List Char} {made : List Move} {state : State}
    (insignificant : Insignificant made state rest)
    (mode : state.mode = .normal)
    (opened : Opened state.nesting)
    (text : List Char) :
    Formula.resolve (entries false made ++ state.flush .operand ++
        some blankToken :: ahead text state.cleared rest) =
      Formula.resolve (entries false made ++ ahead text state rest) := by
  cases insignificant with
  | behind empty noRange =>
      have cleared : state.cleared = state := by
        rw [State.cleared, ← empty]
      rw [cleared, State.flush, if_pos (by simp [empty]), List.append_nil]
      exact resolve_insert (crosses_behind noRange _)
  | before split closes noSign =>
      subst split
      rcases exists_ahead_closer mode opened closes noSign _ with
        ⟨entry, more, closing, full, emptied⟩
      rw [full, emptied, ← List.append_assoc]
      exact resolve_insert (crosses_closing closing _ _)

/-- A text with spaces put in at a position. -/
def spacedAt (position count : Nat) (text : List Char) : List Char :=
  text.take position ++ List.replicate count ' ' ++ text.drop position

/--
Spaces put in outside literals either add to a blank that is there, or leave one
behind what was collected.
-/
theorem lenient_spacedAt
    {text rest : List Char} {made : List Move} {state : State}
    (run : Reads .initial text made state rest)
    (mode : state.mode = .normal)
    (count : Nat) :
    (lenient (spacedAt state.position (count + 1) text)).entries = (lenient text).entries ∨
      (lenient (spacedAt state.position (count + 1) text)).entries =
        entries false made ++ state.flush .operand ++
          some blankToken :: ahead text state.cleared rest := by
  rcases run.carried with ⟨taken, rfl, carries⟩
  have spaced : spacedAt state.position (count + 1) (taken ++ rest) =
      taken ++ ' ' :: (List.replicate count ' ' ++ rest) := by
    rw [spacedAt, run.position_eq, List.take_left, List.drop_left, List.append_assoc,
      List.replicate_succ, List.cons_append]
  have areSpaces : ∀ char ∈ List.replicate count ' ', char = ' ' := by
    intro char member
    exact List.eq_of_mem_replicate member
  rw [spaced]
  cases carries (List.replicate count ' ' ++ rest) with
  | same again =>
      have longer := again.trans (reads_spaces mode areSpaces rest)
      by_cases space : rest.head? = some ' '
      · -- the spaces stand before other ones, which leave a blank anyway
        left
        rcases List.head?_eq_some_iff.mp space with ⟨tail, rfl⟩
        have shorter := run.trans (reads_spaces mode (by simp : ∀ char ∈ [], char = ' ') tail)
        rw [List.nil_append] at shorter
        have behind : behindSpaces (' ' :: tail) = behindSpaces tail :=
          behindSpaces_append (by simp : ∀ char ∈ [' '], char = ' ') tail
        rw [behind] at longer
        have relocated := relocated_of_outside (step_space_relocate mode tail _)
          (step_space_mode mode tail) shorter.drop_position longer.drop_position
        rw [longer.entries_eq, shorter.entries_eq, relocated.ahead_eq]
        simp only [entries_append, entries_cons, step_space_entries mode]
      · right
        rw [behindSpaces_eq_self space] at longer
        have relocated := relocated_of_outside (step_space_next mode _) mode run.drop_position
          longer.drop_position
        rw [longer.entries_eq, relocated.ahead_eq]
        simp [step_space_entries mode]
  | widened again left alike _ ends =>
      left
      have behind : behindSpaces (' ' :: (List.replicate count ' ' ++ rest)) = rest := by
        rw [← List.cons_append, ← List.replicate_succ, behindSpaces_append (by simp),
          behindSpaces_eq_self ends]
      rw [behind] at again
      have relocated := relocated_of_outside alike mode run.drop_position again.drop_position
      rw [again.entries_eq, run.entries_eq, left, relocated.ahead_eq]

/--
Insignificant spaces do not matter: the tokens of a text, resolved and classified,
are those of the text with any number of spaces put in at such a place.
-/
theorem spaces_insignificant
    {text rest : List Char} {made : List Move} {state : State}
    (run : Reads .initial text made state rest)
    (outside : state.mode = .normal)
    (insignificant : Insignificant made state rest)
    (count : Nat) :
    (Formula.resolve (lenient (spacedAt state.position count text)).entries).map
        Classification.classify =
      (Formula.resolve (lenient text).entries).map Classification.classify := by
  cases count with
  | zero => simp [spacedAt]
  | succ count =>
      congr 1
      rcases lenient_spacedAt run outside count with same | longer
      · rw [same]
      · rw [longer, run.entries_eq]
        exact insignificant.resolve_eq outside run.opened text

/-- The text `F(1E+2-"a`, whose literal is left open. -/
def openText : List Char := ['F', '(', '1', 'E', '+', '2', '-', '"', 'a']

/-- The scanner in front of its operator. -/
def openState : State :=
  { position := 6
    buffer := ['1', 'E', '+', '2']
    nesting := [⟨.function, ['F'], some .start⟩] }

theorem spaces_insignificant_openText :
    ∃ made,
      Reads .initial openText made openState ['-', '"', 'a'] ∧
        openState.mode = .normal ∧
        Insignificant made openState ['-', '"', 'a'] ∧
        (Formula.resolve (lenient (spacedAt 6 3 openText)).entries).map Classification.classify =
          (Formula.resolve (lenient openText).entries).map Classification.classify := by
  have run : Reads .initial openText _ openState ['-', '"', 'a'] :=
    .move (.move (.move (.move (.move (.move .done)))))
  have insignificant (made : List Move) : Insignificant made openState ['-', '"', 'a'] :=
    .before rfl (by decide) (by decide)
  exact ⟨_, run, rfl, insignificant _, spaces_insignificant run rfl (insignificant _) 3⟩

end Scan

end SheetFormula
