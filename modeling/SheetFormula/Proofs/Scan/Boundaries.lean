import SheetFormula.Proofs.Scan.Departures

/-!
# Between the moves of a scan

A scan can be interrupted after any of its moves.  What holds before the first
character and is kept by every move holds at each of these places, in both
ways of scanning (`Kept.of_isPrefix`).  The two moves at the end of the text count
as moves like all others.
-/

namespace SheetFormula.Scan

/-! ## The state behind some moves -/

theorem lastState_cons (state : State) (move : Move) (later : List Move) :
    lastState state (move :: later) = lastState move.next later := by
  cases later with
  | nil => rfl
  | cons next others => simp [lastState, List.getLast?_cons]

@[simp]
theorem lastState_concat (state : State) (made : List Move) (move : Move) :
    lastState state (made ++ [move]) = move.next := by
  simp [lastState]

theorem throughFirst_isPrefix {α : Type} (test : α → Bool) (items : List α) :
    throughFirst test items <+: items := by
  induction items with
  | nil => exact List.prefix_rfl
  | cons item rest ih =>
      unfold throughFirst
      split
      · exact ⟨rest, rfl⟩
      · exact (List.prefix_cons_inj item).mpr ih

/-- The moves of a strict scan are the beginning of those of the lenient one. -/
theorem moves_prefix_lenient (isStrict : Bool) (text : List Char) :
    moves isStrict text <+: moves false text := by
  cases isStrict with
  | false => exact List.prefix_rfl
  | true =>
      rw [moves_strict]
      exact throughFirst_isPrefix Move.departs (moves false text)

/-! ## Properties that moves keep -/

/-- A property of the moves made so far and the state behind them that every move keeps. -/
structure Kept (text : List Char) (property : List Move → State → Prop) : Prop where
  initial : property [] .initial
  step : ∀ {made : List Move} {state : State} (char : Char) (tail : List Char),
    property made state →
      property (made ++ [Scan.step state char tail]) (Scan.step state char tail).next
  closeLiteral : ∀ {made : List Move} {state : State},
    property made state →
      property (made ++ [Scan.closeLiteral text state]) (Scan.closeLiteral text state).next
  closeGroups : ∀ {made : List Move} {state : State},
    property made state →
      property (made ++ [Scan.closeGroups text state]) (Scan.closeGroups text state).next

section Kept

variable {text : List Char} {property : List Move → State → Prop}

/-- What a run keeps holds after each of its moves. -/
theorem Kept.of_reads
    (kept : Kept text property)
    {state final : State} {remaining rest : List Char} {moves : List Move}
    (run : Reads state remaining moves final rest)
    {earlier made : List Move}
    (before : property earlier state)
    (begins : made <+: moves) :
    property (earlier ++ made) (lastState state made) := by
  induction run generalizing earlier made with
  | done =>
      rw [List.prefix_nil.mp begins, List.append_nil]
      exact before
  | @move state final char tail rest moves later ih =>
      rcases List.prefix_cons_iff.mp begins with rfl | ⟨others, rfl, beginsLater⟩
      · rw [List.append_nil]
        exact before
      · have after := ih (kept.step char tail before) beginsLater
        rw [lastState_cons, List.append_cons]
        exact after

/-- What every move keeps holds after any number of moves of a scan. -/
theorem Kept.of_isPrefix
    (kept : Kept text property)
    {isStrict : Bool} {made : List Move}
    (begins : made <+: moves isStrict text) :
    property made (lastState .initial made) := by
  have read : ∀ {made}, made <+: reading false .initial text →
      property made (lastState .initial made) := by
    intro made begins
    exact kept.of_reads (reads_finalState text) kept.initial begins
  have all := read List.prefix_rfl
  -- behind the steps over the text stand the two moves at its end
  have lenient := begins.trans (moves_prefix_lenient isStrict text)
  rw [moves_lenient, List.append_cons] at lenient
  rcases List.prefix_concat_iff.mp lenient with rfl | lenient
  · rw [lastState_concat]
    exact kept.closeGroups (kept.closeLiteral all)
  · rcases List.prefix_concat_iff.mp lenient with rfl | lenient
    · rw [lastState_concat]
      exact kept.closeLiteral all
    · exact read lenient

end Kept

end SheetFormula.Scan
