import SheetFormula.Formula
import SheetFormula.Proofs.Balance.Scan
import SheetFormula.Proofs.Nesting.Replay

/-!
# Vacant entries

A closing brace ends an array row and the wrapper around it.  An array literal
opens both, but a call with the name of an array row opens a row without a
wrapper.  When a brace closes such a row and nothing is open around it, the entry
of the wrapper is vacant, and the formula cannot be laid out.

Main statement: this is the only way in which formatting fails as long as
formulas need not be well formed, and a text that never calls the name of an
array row does not come to it.
-/

namespace SheetFormula.Nesting

open Scan Balance

/-- The opener of an array row. -/
def rowOpener : Token := ⟨.function, arrayRowText, some .start⟩

/-- Outside literals, with an array row as the only open group. -/
structure Bare (state : State) : Prop where
  mode : state.mode = .normal
  nesting : state.nesting = [rowOpener]

/-- At some place of a text a closing brace is read while an array row is all that is open. -/
def ClosesBareRow (text : List Char) : Prop :=
  ∃ made state rest, Reads .initial text made state ('}' :: rest) ∧ Bare state

/-! ## Steps -/

theorem rowOpener_of_isArrayRow
    {row : Token} (isRow : row.isArrayRow) (isOpener : row.isOpener) :
    row = rowOpener := by
  rcases row with ⟨kind, value, subkind⟩
  simp only [Token.isArrayRow, Token.isOpener, Token.isStart, Bool.and_eq_true,
    beq_iff_eq] at isRow isOpener
  simp [rowOpener, isRow, isOpener.1]

theorem none_notMem_flush (state : State) (kind : Kind) : none ∉ state.flush kind := by
  unfold State.flush
  split <;> simp

/-- Only a closing brace behind a bare row leaves a vacant entry. -/
theorem bare_of_vacant
    {state : State} {char : Char} {tail : List Char} {move : Move}
    (rule : Rule state char tail move)
    (opened : Opened state.nesting)
    (vacant : none ∈ move.entries false) :
    char = '}' ∧ Bare state := by
  cases rule with
  | @closeArray _ row outer mode nesting isRow =>
      rw [nesting] at opened
      have row_eq : row = rowOpener := rowOpener_of_isArrayRow isRow (opened row (by simp))
      cases outer with
      | nil => exact ⟨rfl, mode, by rw [nesting, row_eq]⟩
      | cons wrapper rest => simp [Move.entries, none_notMem_flush] at vacant
  | openParenthesis =>
      simp [Move.entries, openParenthesis] at vacant
  | _ =>
      simp [Move.entries, separate, openLiteral, openArray, openBracketRange, unbalanced,
        none_notMem_flush] at vacant

/-- A step leaves a vacant entry when it reads a closing brace behind a bare row. -/
theorem none_mem_step_iff
    {state : State} (opened : Opened state.nesting) (char : Char) (tail : List Char) :
    none ∈ (step state char tail).entries false ↔ char = '}' ∧ Bare state := by
  constructor
  · intro vacant
    exact bare_of_vacant (stepMode_rule state char tail) opened vacant
  · rintro ⟨rfl, bare⟩
    have rule : Rule state '}' tail _ := .closeArray bare.mode bare.nesting rfl
    have move_eq := rule.stepMode_eq
    simp [step, move_eq, Move.entries]

/-! ## Runs -/

/-- A run leaves a vacant entry when it comes to a closing brace behind a bare row. -/
theorem none_mem_entries_iff
    {state final : State} {text rest : List Char} {made : List Move}
    (run : Reads state text made final rest)
    (ended : rest = [])
    (opened : Opened state.nesting) :
    none ∈ entries false made ↔
      ∃ earlier place behind, Reads state text earlier place ('}' :: behind) ∧ Bare place := by
  induction run with
  | done =>
      subst ended
      constructor
      · intro vacant
        cases vacant
      · rintro ⟨earlier, place, behind, reaches, -⟩
        cases reaches
  | @move state final char tail rest moves later ih =>
      have openedNext : Opened (step state char tail).next.nesting :=
        (stepMode_rule state char tail).opened opened
      rw [entries_cons, List.mem_append, none_mem_step_iff opened, ih ended openedNext]
      constructor
      · rintro (⟨rfl, bare⟩ | ⟨earlier, place, behind, reaches, bare⟩)
        · exact ⟨[], state, tail, .done, bare⟩
        · exact ⟨_, place, behind, .move reaches, bare⟩
      · rintro ⟨earlier, place, behind, reaches, bare⟩
        cases reaches with
        | done => exact .inl ⟨rfl, bare⟩
        | move reaches => exact .inr ⟨_, place, behind, reaches, bare⟩

/-- The end of a text leaves no vacant entry. -/
theorem none_notMem_closeLiteral (text : List Char) (state : State) :
    none ∉ (closeLiteral text state).entries false := by
  unfold closeLiteral
  split <;> simp [Move.entries, none_notMem_flush]

theorem none_notMem_closeGroups (text : List Char) (state : State) :
    none ∉ (closeGroups text state).entries false := by
  unfold closeGroups
  split <;> simp [Move.entries]

theorem none_mem_lenient_iff (text : List Char) :
    none ∈ (lenient text).entries ↔ ClosesBareRow text := by
  have opened : Opened State.initial.nesting := by
    intro opener member
    cases member
  have read := none_mem_entries_iff (reads_finalState text) rfl opened
  simp only [lenient, moves_lenient, entries_append, entries_cons, entries_nil, List.mem_append,
    none_notMem_closeLiteral, none_notMem_closeGroups, List.not_mem_nil, or_false]
  exact read

/-! ## Array rows in their wrappers -/

/-- A step keeps array rows in wrappers unless it opens a call with their name. -/
theorem holds_of_rule
    {state : State} {char : Char} {tail : List Char} {move : Move} {groups : List Group}
    (rule : Rule state char tail move)
    (holds : Holds state.nesting groups)
    (noRowCall : char = '(' → state.mode = .normal → state.buffer ≠ arrayRowText) :
    ∃ groups, Holds move.next.nesting groups := by
  cases rule with
  | openArray => exact ⟨_, .brace rfl holds⟩
  | openParenthesis mode =>
      have noRow := noRowCall rfl mode
      refine ⟨_, .parenthesis ?_ holds⟩
      split <;> simp [Token.isArrayRow, noRow]
  | @closeArray _ row outer _ nesting isRow =>
      rw [nesting] at holds
      cases holds with
      | parenthesis noRow => simp [isRow] at noRow
      | brace _ outer => exact ⟨_, outer⟩
  | @closeParenthesis _ opener outer _ nesting noRow =>
      rw [nesting] at holds
      cases holds with
      | brace isRow => simp [isRow] at noRow
      | parenthesis _ outer => exact ⟨_, outer⟩
  | _ => exact ⟨groups, holds⟩

/-- A run over a text that never calls the name of an array row keeps rows in wrappers. -/
theorem holds_of_reads
    {state final : State} {remaining rest : List Char} {made : List Move}
    (run : Reads state remaining made final rest)
    {read : List Char} {entries : List Entry} {groups : List Group}
    (holds : Holds state.nesting groups)
    (before : Scanned read entries state)
    (noRowCall : ¬ "ARRAYROW(".toList <:+: read ++ remaining) :
    ∃ groups, Holds final.nesting groups := by
  induction run generalizing read entries groups with
  | done => exact ⟨groups, holds⟩
  | @move state final char tail rest moves later ih =>
      have noRow : char = '(' → state.mode = .normal → state.buffer ≠ arrayRowText := by
        rintro rfl mode
        exact buffer_ne_of_no_row_call before mode noRowCall
      rcases holds_of_rule (stepMode_rule state char tail) holds noRow with ⟨next, holdsNext⟩
      apply ih holdsNext (before.step char tail)
      rw [List.append_assoc, List.cons_append, List.take_append_drop]
      exact noRowCall

theorem not_closesBareRow
    {text : List Char} (noRowCall : ¬ "ARRAYROW(".toList <:+: text) :
    ¬ ClosesBareRow text := by
  rintro ⟨made, state, rest, run, bare⟩
  rcases holds_of_reads run .nil scanned_initial noRowCall with ⟨groups, holds⟩
  rw [bare.nesting] at holds
  cases holds with
  | parenthesis noRow => cases noRow

/-! ## Formatting -/

/-- Formatting that need not be strict fails at vacant entries only. -/
theorem format_eq_error_iff
    {settings : Settings} {formula : List Char}
    (isLenient : settings.strict = false)
    (nonempty : formula ≠ [])
    (error : FormulaError) :
    Formula.format settings formula = .error error ↔
      error = .vacantEntry ∧ none ∈ (lenient (Formula.normalize formula)).entries := by
  have noEmpty : formula.isEmpty = false := by simpa using nonempty
  have scanned : Formula.scan false (Formula.normalize formula) =
      .ok (lenient (Formula.normalize formula)).entries := rfl
  rw [← Formula.present_eq_error_iff]
  simp only [Formula.format, Formula.tokens, isLenient, noEmpty, scanned, Formula.resolve,
    Bool.false_eq_true, if_false]
  cases Formula.present (lenient (Formula.normalize formula)).entries <;> simp

/-- What formatting returns begins with an equals sign and does not end in a blank. -/
theorem format_shape
    {settings : Settings} {formula text : List Char}
    (nonempty : formula ≠ [])
    (formatted : Formula.format settings formula = .ok text) :
    ∃ rest, text = '=' :: rest ∧ text.getLast?.any Text.isBlank = false := by
  have noEmpty : formula.isEmpty = false := by simpa using nonempty
  simp only [Formula.format, noEmpty, Bool.false_eq_true, if_false] at formatted
  split at formatted
  · next tokens found =>
      cases formatted
      refine ⟨_, rfl, ?_⟩
      have ending := Text.getLast?_trim (Layout.pieces settings.indent tokens).flatten
      unfold Layout.render
      cases last : (Text.trim (Layout.pieces settings.indent tokens).flatten).getLast? with
      | none =>
          rw [List.getLast?_eq_none_iff.mp last]
          rfl
      | some char => simpa [List.getLast?_cons, last] using ending
  · cases formatted

/--
When formatting can fail although formulas need not be well formed.  The scan
always gives entries; one of them is vacant exactly when a closing brace is read
behind a bare array row; formatting fails exactly then, for this reason only, and
otherwise returns a text that begins with an equals sign and does not end in a
blank.  It does not fail on a text that never calls the name of an array row.
-/
theorem lenient_format_fails_iff
    (settings : Settings) (isLenient : settings.strict = false)
    (formula : List Char) (nonempty : formula ≠ []) :
    ∃ entries,
      scan false (Formula.normalize formula) = .ok entries ∧
        (none ∈ entries ↔ ClosesBareRow (Formula.normalize formula)) ∧
        (∀ error, Formula.format settings formula = .error error ↔
          error = .vacantEntry ∧ none ∈ entries) ∧
        (none ∉ entries →
          ∃ text, Formula.format settings formula = .ok ('=' :: text) ∧
            ('=' :: text).getLast?.any Text.isBlank = false) ∧
        (¬ "ARRAYROW(".toList <:+: Formula.normalize formula →
          ∃ text, Formula.format settings formula = .ok text) := by
  have vacant := none_mem_lenient_iff (Formula.normalize formula)
  have fails := format_eq_error_iff isLenient nonempty
  have succeeds : none ∉ (lenient (Formula.normalize formula)).entries →
      ∃ text, Formula.format settings formula = .ok text := by
    intro complete
    cases formatted : Formula.format settings formula with
    | ok text => exact ⟨text, rfl⟩
    | error error => exact absurd ((fails error).mp formatted).2 complete
  refine ⟨(lenient (Formula.normalize formula)).entries, rfl, vacant, fails, ?_, ?_⟩
  · intro complete
    rcases succeeds complete with ⟨text, formatted⟩
    rcases format_shape nonempty formatted with ⟨rest, rfl, ending⟩
    exact ⟨rest, formatted, ending⟩
  · intro noRowCall
    apply succeeds
    rw [vacant]
    exact not_closesBareRow noRowCall

/-- A call with the name of an array row that a brace closes cannot be formatted. -/
theorem lenient_format_fails_on_row_call :
    ({} : Settings).strict = false ∧ "=ARRAYROW(\x7d".toList ≠ [] ∧
      Formula.format {} "=ARRAYROW(\x7d".toList = .error .vacantEntry := by
  have closes : ClosesBareRow (Formula.normalize "=ARRAYROW(\x7d".toList) := by
    have normalized : Formula.normalize "=ARRAYROW(\x7d".toList = "ARRAYROW(\x7d".toList := by
      decide +kernel
    rw [normalized]
    refine ⟨_, _, [], .move (.move (.move (.move (.move (.move (.move (.move (.move .done)))))))),
      rfl, rfl⟩
  rcases lenient_format_fails_iff {} rfl "=ARRAYROW(\x7d".toList (by decide) with
    ⟨entries, -, vacant, fails, -, -⟩
  exact ⟨rfl, by decide, (fails .vacantEntry).mpr ⟨rfl, vacant.mpr closes⟩⟩

end SheetFormula.Nesting
