import SheetFormula.Proofs.Layout.Depth

/-!
# The flag of array rows

One flag tells the layout whether it is inside an array row: the opener of a row
turns it on and the stop of a row turns it off.  Array literals can stand inside
one another, and behind the stop of the inner one the flag is off, although the
outer one is still open.

Main statement: the flag is on where the last brace has opened a row.  It is on
inside of array literals only, and everywhere inside of them as long as none
holds another.
-/

namespace SheetFormula.Layout

open RoundTrip

/-! ## Braces -/

/-- The last brace of some tokens opens a row. -/
def EndsInRow (tokens : List Token) : Prop :=
  ∃ before inside, tokens = before ++ arrayRowStart :: inside ∧ arrayRowStop ∉ inside

/-- No array literal stands inside another; `inRow` tells whether one is open before. -/
def flat : Bool → List Token → Bool
  | _, [] => true
  | inRow, token :: rest =>
      if token = arrayRowStart then !inRow && flat true rest
      else flat (inRow && token ≠ arrayRowStop) rest

/-- What a token makes of the flag of array rows. -/
def rowFlag (flag : Bool) (token : Token) : Bool :=
  if token = arrayRowStart then true
  else if token = arrayRowStop then false
  else flag

theorem not_endsInRow_nil : ¬ EndsInRow [] := by
  rintro ⟨before, inside, split, -⟩
  exact List.append_ne_nil_of_right_ne_nil before (List.cons_ne_nil _ _) split.symm

theorem endsInRow_cons (token : Token) (rest : List Token) :
    EndsInRow (token :: rest) ↔
      EndsInRow rest ∨ token = arrayRowStart ∧ arrayRowStop ∉ rest := by
  constructor
  · rintro ⟨before, inside, split, unclosed⟩
    cases before with
    | nil =>
        cases split
        exact .inr ⟨rfl, unclosed⟩
    | cons first others =>
        cases split
        exact .inl ⟨others, inside, rfl, unclosed⟩
  · rintro (⟨before, inside, rfl, unclosed⟩ | ⟨rfl, unclosed⟩)
    · exact ⟨token :: before, inside, rfl, unclosed⟩
    · exact ⟨[], rest, rfl, unclosed⟩

/-- Behind its first token a flat list is flat, and a row opens only outside of others. -/
theorem flat_cons
    {flag : Bool} {token : Token} {rest : List Token}
    (isFlat : flat flag (token :: rest)) :
    flat (rowFlag flag token) rest ∧ (token = arrayRowStart → flag = false) := by
  rw [flat] at isFlat
  rw [rowFlag]
  split at isFlat
  · next opens =>
      rw [Bool.and_eq_true, Bool.not_eq_true'] at isFlat
      rw [if_pos opens]
      exact ⟨isFlat.2, fun _ => isFlat.1⟩
  · next other =>
      rw [if_neg other]
      refine ⟨?_, fun opens => (other opens).elim⟩
      by_cases closes : token = arrayRowStop
      · simpa [closes] using isFlat
      · simpa [closes] using isFlat

theorem flat_of_append
    {flag : Bool} {earlier later : List Token}
    (isFlat : flat flag (earlier ++ later)) :
    flat flag earlier := by
  induction earlier generalizing flag with
  | nil => rfl
  | cons token rest ih =>
      rw [List.cons_append, flat] at isFlat
      rw [flat]
      split at isFlat
      · next opens =>
          rw [Bool.and_eq_true] at isFlat
          rw [if_pos opens, isFlat.1, ih isFlat.2]
          rfl
      · next other =>
          rw [if_neg other]
          exact ih isFlat

/-! ## Runs -/

section Runs

variable {called : List Char → Prop} {nesting final : Nesting} {tokens rest : List Token}
  {state : State} {token : Token} {unit : List Char}

theorem inArrayAt_opening
    (isOpening : IsOpening called token)
    (unreserved : ∀ name, called name → name ∉ arrayRowStopText :: arrayNames) :
    inArrayAt state token = rowFlag state.inArray token := by
  cases isOpening with
  | parenthesis isParenthesis =>
      cases isParenthesis with
      | subexpression => rfl
      | @call name isCalled =>
          have different := unreserved name isCalled
          simp only [arrayNames, List.mem_cons, not_or] at different
          simp [inArrayAt, rowFlag, functionStart, arrayRowStart, arrayRowStop, Token.isArrayRow,
            Token.isArrayRowStop, different]
  | wrapper => rfl
  | row => rfl

theorem inArrayAt_ending
    {opener : Token}
    (ends : Ends called token opener) :
    inArrayAt state token = rowFlag state.inArray token := by
  cases ends with
  | parenthesis isParenthesis =>
      cases isParenthesis with
      | subexpression => rfl
      | call => rfl
  | wrapper => rfl
  | row => rfl

/-- Only the braces of array literals change the flag. -/
theorem Paired.inArrayAt_eq
    (paired : Paired called nesting (token :: rest) final)
    (unreserved : ∀ name, called name → name ∉ arrayRowStopText :: arrayNames) :
    inArrayAt state token = rowFlag state.inArray token := by
  cases paired with
  | plain isPlain =>
      have noGroup := isPlain.noGroup
      have noStart : token ≠ arrayRowStart := by
        rintro rfl
        cases noGroup
      have noStop : token ≠ arrayRowStop := by
        rintro rfl
        cases noGroup
      rw [inArrayAt_plain isPlain, rowFlag, if_neg noStart, if_neg noStop]
  | start isOpening => exact inArrayAt_opening isOpening unreserved
  | stop ends => exact inArrayAt_ending ends

theorem Paired.tail
    (paired : Paired called nesting (token :: rest) final) :
    ∃ next, Paired called next rest final := by
  cases paired with
  | plain _ later => exact ⟨_, later⟩
  | start _ later => exact ⟨_, later⟩
  | stop _ later => exact ⟨_, later⟩

/-- The flag is on behind some tokens if their last brace opens, or if it was and none closes. -/
theorem Paired.inArray_iff
    {behind : List Token}
    (paired : Paired called nesting tokens final)
    (unreserved : ∀ name, called name → name ∉ arrayRowStopText :: arrayNames) :
    (stateBefore unit behind state tokens).inArray = true ↔
      EndsInRow tokens ∨ state.inArray = true ∧ arrayRowStop ∉ tokens := by
  induction tokens generalizing nesting state with
  | nil =>
      have unchanged : stateBefore unit behind state [] = state := rfl
      simp [unchanged, not_endsInRow_nil]
  | cons token rest ih =>
      rcases paired.tail with ⟨next, later⟩
      have flag : (step unit state token (rest ++ behind).head?).2.inArray =
          rowFlag state.inArray token := paired.inArrayAt_eq unreserved
      have different : arrayRowStop ≠ arrayRowStart := by decide
      rw [stateBefore_cons, ih later, flag, endsInRow_cons, List.mem_cons, not_or, rowFlag]
      split
      · next opens => grind
      · split
        · next closes => grind
        · grind

/-- Behind an opener, rows are open as the flag tells if they were before. -/
theorem IsOpening.countP_isArrayRow
    {opener : Token} {flag : Bool}
    (isOpening : IsOpening called opener)
    (unreserved : ∀ name, called name → name ∉ arrayRowStopText :: arrayNames)
    (outside : opener = arrayRowStart → flag = false)
    (counted : nesting.countP Token.isArrayRow = flag.toNat) :
    (opener :: nesting).countP Token.isArrayRow = (rowFlag flag opener).toNat := by
  cases isOpening with
  | parenthesis isParenthesis =>
      have unnamed : ¬ called arrayRowText := by
        intro isCalled
        exact unreserved _ isCalled (by simp [arrayNames])
      have noRow := isParenthesis.isArrayRow_eq unnamed
      have noStart : opener ≠ arrayRowStart := by
        rintro rfl
        cases noRow
      have noStop : opener ≠ arrayRowStop := by
        rintro rfl
        cases isParenthesis.isStart
      rw [List.countP_cons_of_neg (by simp [noRow]), rowFlag, if_neg noStart, if_neg noStop,
        counted]
  | wrapper => exact counted
  | row =>
      rw [outside rfl] at counted
      rw [List.countP_cons_of_pos rfl, counted]
      rfl

/-- Behind a stop as well. -/
theorem Ends.countP_isArrayRow
    {opener : Token} {flag : Bool}
    (ends : Ends called token opener)
    (unreserved : ∀ name, called name → name ∉ arrayRowStopText :: arrayNames)
    (counted : (opener :: nesting).countP Token.isArrayRow = flag.toNat) :
    nesting.countP Token.isArrayRow = (rowFlag flag token).toNat := by
  cases ends with
  | parenthesis isParenthesis =>
      have unnamed : ¬ called arrayRowText := by
        intro isCalled
        exact unreserved _ isCalled (by simp [arrayNames])
      rw [List.countP_cons_of_neg (by simp [isParenthesis.isArrayRow_eq unnamed])] at counted
      cases isParenthesis with
      | subexpression => exact counted
      | call => exact counted
  | wrapper => exact counted
  | row =>
      rw [List.countP_cons_of_pos rfl] at counted
      have atMost : flag.toNat ≤ 1 := Bool.toNat_le flag
      show nesting.countP Token.isArrayRow = 0
      omega

/-- While no array literal stands inside another, a row is open where the flag is on. -/
theorem Paired.countP_isArrayRow
    {behind : List Token}
    (paired : Paired called nesting tokens final)
    (unreserved : ∀ name, called name → name ∉ arrayRowStopText :: arrayNames)
    (isFlat : flat state.inArray tokens)
    (counted : nesting.countP Token.isArrayRow = state.inArray.toNat) :
    final.countP Token.isArrayRow =
      (stateBefore unit behind state tokens).inArray.toNat := by
  induction paired generalizing state with
  | nil => exact counted
  | @plain _ _ token rest isPlain later ih =>
      have flag : (step unit state token (rest ++ behind).head?).2.inArray =
          rowFlag state.inArray token := (Paired.plain isPlain later).inArrayAt_eq unreserved
      apply ih
      · rw [flag]
        exact (flat_cons isFlat).1
      · rw [counted]
        exact congrArg Bool.toNat (inArrayAt_plain isPlain).symm
  | @start _ _ opener rest isOpening later ih =>
      have flag : (step unit state opener (rest ++ behind).head?).2.inArray =
          rowFlag state.inArray opener := inArrayAt_opening isOpening unreserved
      apply ih
      · rw [flag]
        exact (flat_cons isFlat).1
      · rw [flag]
        exact isOpening.countP_isArrayRow unreserved (flat_cons isFlat).2 counted
  | @stop _ _ token opener rest ends later ih =>
      have flag : (step unit state token (rest ++ behind).head?).2.inArray =
          rowFlag state.inArray token := inArrayAt_ending ends
      apply ih
      · rw [flag]
        exact (flat_cons isFlat).1
      · rw [flag]
        exact ends.countP_isArrayRow unreserved counted

end Runs

/-! ## Formulas -/

/-- The flag of array rows with which a token is written. -/
def flagAt (unit : List Char) (earlier : List Token) (token : Token) (later : List Token) : Bool :=
  inArrayAt (stateBefore unit (token :: later) .initial earlier) token

/--
At a separator of a well formed formula the flag of array rows is on if the last
brace before the separator opens a row.  Then the separator stands inside an
array literal.  The converse holds where no array literal stands inside another.
A comma is written without a line break if the flag is on, and every other
separator is written with one.
-/
theorem array_flag_iff_last_brace
    {formula : List Char} {earlier later : List Token} {separator : Token}
    (found : Formula.tokens true formula = .ok (earlier ++ separator :: later))
    (avoids : Avoids (arrayRowStopText :: arrayNames) (Formula.normalize formula))
    (isSeparator : separator.kind = .argument)
    (unit : List Char) :
    ∃ nesting before,
      Nesting.replay [] (earlier.map some) = some nesting ∧
        (flagAt unit earlier separator later ↔ EndsInRow earlier) ∧
        (flagAt unit earlier separator later → nesting.any Token.isArrayRow) ∧
        (flat false (earlier ++ separator :: later) →
          (flagAt unit earlier separator later ↔ nesting.any Token.isArrayRow)) ∧
        (pieces unit (earlier ++ separator :: later))[earlier.length]? =
          some (before ++ separator.value ++
            (if flagAt unit earlier separator later && separator.value == [','] then []
              else ['\n'])) := by
  rcases exists_grouped found avoids (List.subset_cons_self _ _) with ⟨final, grouped, -⟩
  rcases grouped.paired.split with ⟨nesting, paired, behind⟩
  have unreserved : ∀ name, name ∉ arrayRowStopText :: arrayNames →
      name ∉ arrayRowStopText :: arrayNames := fun _ isCalled => isCalled
  have unnamed : ∀ name, name ∉ arrayRowStopText :: arrayNames → name ∉ arrayNames := by
    intro name outside member
    exact outside (List.mem_cons_of_mem _ member)
  have isPlain : IsPlain separator := behind.isPlain (by simp [Token.isGroup, isSeparator])
  have flag : flagAt unit earlier separator later =
      (stateBefore unit (separator :: later) .initial earlier).inArray := inArrayAt_plain isPlain
  have inside : flagAt unit earlier separator later → nesting.any Token.isArrayRow := by
    rw [flag]
    exact paired.any_isArrayRow unnamed id
  rcases step_separator unit (stateBefore unit (separator :: later) .initial earlier) later.head?
    isPlain isSeparator with ⟨before, -, written⟩
  refine ⟨nesting, before, paired.replay_eq, ?_, inside, ?_, ?_⟩
  · rw [flag, paired.inArray_iff unreserved]
    simp [State.initial]
  · intro isFlat
    refine ⟨inside, ?_⟩
    intro isOpen
    have counted : nesting.countP Token.isArrayRow =
        (stateBefore unit (separator :: later) .initial earlier).inArray.toNat :=
      paired.countP_isArrayRow unreserved (flat_of_append isFlat) rfl
    have positive := List.countP_pos_iff.mpr (List.any_eq_true.mp isOpen)
    rw [counted, ← flag] at positive
    cases on : flagAt unit earlier separator later with
    | true => rfl
    | false =>
        rw [on] at positive
        cases positive
  · have symbol : isSymbol separator := by simp [isSymbol, isSeparator]
    rw [pieces, run_getElem?, written, spelling_eq_value (.inl symbol)]
    rfl

theorem array_flag_iff_last_brace_sampleFormula :
    Formula.tokens true sampleFormula = .ok (sampleBefore ++ separator ',' :: sampleBehind) ∧
      flat false (sampleBefore ++ separator ',' :: sampleBehind) ∧
      ∃ nesting before,
        Nesting.replay [] (sampleBefore.map some) = some nesting ∧
          (flagAt defaultUnit sampleBefore (separator ',') sampleBehind ↔
            EndsInRow sampleBefore) ∧
          (flagAt defaultUnit sampleBefore (separator ',') sampleBehind →
            nesting.any Token.isArrayRow) ∧
          (flat false (sampleBefore ++ separator ',' :: sampleBehind) →
            (flagAt defaultUnit sampleBefore (separator ',') sampleBehind ↔
              nesting.any Token.isArrayRow)) ∧
          (pieces defaultUnit
            (sampleBefore ++ separator ',' :: sampleBehind))[sampleBefore.length]? =
              some (before ++ (separator ',').value ++
                (if flagAt defaultUnit sampleBefore (separator ',') sampleBehind &&
                  (separator ',').value == [','] then [] else ['\n'])) :=
  ⟨tokens_sampleFormula, rfl,
    array_flag_iff_last_brace tokens_sampleFormula sampleFormula_checked.2 rfl defaultUnit⟩

/-- The tokens of an array literal that begins with another, up to the separator behind it. -/
def rowInRow : List Token :=
  [arrayStart, arrayRowStart, arrayStart, arrayRowStart, ⟨.operand, ['1'], some .number⟩,
    arrayRowStop, arrayStop]

/-- The end of the outer array literal. -/
def outerRowEnd : List Token :=
  [⟨.operand, ['2'], some .number⟩, arrayRowStop, arrayStop]

/-- Behind an array literal in another the flag is off, although the outer one is open. -/
theorem not_array_flag_iff_inside :
    ¬ ∀ (formula : List Char) (earlier later : List Token) (token : Token) (nesting : Nesting)
      (unit : List Char),
      Formula.tokens true formula = .ok (earlier ++ token :: later) →
        Avoids (arrayRowStopText :: arrayNames) (Formula.normalize formula) →
        token.kind = .argument → Nesting.replay [] (earlier.map some) = some nesting →
        (flagAt unit earlier token later ↔ nesting.any Token.isArrayRow) := by
  intro tracks
  have checked : (Formula.tokens true "=\x7b\x7b1\x7d,2\x7d".toList).toOption =
        some (rowInRow ++ separator ',' :: outerRowEnd) ∧
      Avoids (arrayRowStopText :: arrayNames)
        (Formula.normalize "=\x7b\x7b1\x7d,2\x7d".toList) := by
    decide +kernel
  have inside := tracks _ rowInRow outerRowEnd (separator ',') [arrayRowStart, arrayStart]
    defaultUnit (eq_ok_of_toOption checked.1) checked.2 rfl rfl
  cases inside.mpr rfl

end SheetFormula.Layout
