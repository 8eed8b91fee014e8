import SheetFormula.Scan.Run

/-!
# Runs of the scanner

A scan is made of steps.  `Reads` is the relation between two places of a
scan: it names the state and the remaining text at both of them and lists the
moves between them.  Every lenient scan is a run to the end of the text, so
what each step preserves is shown of a whole scan by induction on its run.
-/

namespace SheetFormula.Scan

/-! ## Places of a scan -/

/--
From a state, the scanner makes some moves over the beginning of a text; they
lead to the final state, with the rest of the text still to be read.
-/
inductive Reads : State → List Char → List Move → State → List Char → Prop where
  | done {state : State} {text : List Char} :
      Reads state text [] state text
  | move
      {state final : State} {char : Char} {tail rest : List Char} {moves : List Move}
      (later :
        Reads (step state char tail).next (tail.drop (step state char tail).extra)
          moves final rest) :
      Reads state (char :: tail) (step state char tail :: moves) final rest

@[simp]
theorem Move.stops_false (move : Move) : move.stops false = false := rfl

@[simp]
theorem Move.stops_true (move : Move) : move.stops true = move.departure.isSome := rfl

theorem reading_nil (strict : Bool) (state : State) : reading strict state [] = [] := by
  rw [reading]

theorem reading_lenient_cons (state : State) (char : Char) (tail : List Char) :
    reading false state (char :: tail) =
      step state char tail ::
        reading false (step state char tail).next
          (tail.drop (step state char tail).extra) := by
  rw [reading]
  simp

/-- A lenient scan makes the moves of a run first. -/
theorem Reads.reading_eq
    {state final : State} {text rest : List Char} {moves : List Move}
    (run : Reads state text moves final rest) :
    reading false state text = moves ++ reading false final rest := by
  induction run with
  | done => rfl
  | move _ ih => rw [reading_lenient_cons, ih, List.cons_append]

theorem Reads.lastState_eq
    {state final : State} {text rest : List Char} {moves : List Move}
    (run : Reads state text moves final rest) :
    lastState state moves = final := by
  induction run with
  | done => rfl
  | @move state final char tail rest moves later ih =>
      rw [← ih]
      cases moves with
      | nil => rfl
      | cons next others => simp [lastState, List.getLast?_cons]

/-- Two runs one after the other are a run. -/
theorem Reads.trans
    {state middle final : State} {text between rest : List Char} {first second : List Move}
    (run : Reads state text first middle between)
    (later : Reads middle between second final rest) :
    Reads state text (first ++ second) final rest := by
  induction run with
  | done => exact later
  | move _ ih => exact .move (ih later)

/-- A run makes at most one move for each character that it reads. -/
theorem Reads.length_le
    {state final : State} {text rest : List Char} {moves : List Move}
    (run : Reads state text moves final rest) :
    moves.length + rest.length ≤ text.length := by
  induction run with
  | done => exact Nat.le_of_eq (Nat.zero_add _)
  | move _ ih =>
      rw [List.length_drop] at ih
      rw [List.length_cons, List.length_cons]
      omega

/-- A lenient scan is a run to the end of the text. -/
theorem reads_reading (state : State) (text : List Char) :
    Reads state text (reading false state text)
      (lastState state (reading false state text)) [] := by
  have reaches : ∃ final, Reads state text (reading false state text) final [] := by
    fun_induction reading false state text with
    | case1 state => exact ⟨state, .done⟩
    | case2 state char tail move stops => simp [Move.stops] at stops
    | case3 state char tail move _ ih =>
        obtain ⟨final, run⟩ := ih
        exact ⟨final, .move run⟩
  obtain ⟨final, run⟩ := reaches
  rwa [run.lastState_eq]

/-- The state of a lenient scan before the end of its text. -/
def finalState (text : List Char) : State :=
  lastState .initial (reading false .initial text)

theorem reads_finalState (text : List Char) :
    Reads .initial text (reading false .initial text) (finalState text) [] :=
  reads_reading .initial text

/-- A lenient scan reads the text and makes the two moves at its end. -/
theorem moves_lenient (text : List Char) :
    moves false text =
      reading false .initial text ++
        [closeLiteral text (finalState text),
          closeGroups text (closeLiteral text (finalState text)).next] := by
  simp [moves, finishing, finalState, Move.stops]

@[simp]
theorem entries_append (strict : Bool) (first second : List Move) :
    entries strict (first ++ second) = entries strict first ++ entries strict second := by
  simp [entries]

@[simp]
theorem entries_cons (strict : Bool) (move : Move) (others : List Move) :
    entries strict (move :: others) = move.entries strict ++ entries strict others := by
  simp [entries]

@[simp]
theorem entries_nil (strict : Bool) : entries strict [] = [] := rfl

theorem closeGroups_entries (text : List Char) (state : State) :
    (closeGroups text state).entries false = [] := by
  unfold closeGroups
  split <;> rfl

/-- At the end of a text a lenient scan leaves only the entries of an open literal or buffer. -/
theorem lenient_entries (text : List Char) :
    (lenient text).entries =
      entries false (reading false .initial text) ++
        (closeLiteral text (finalState text)).entries false := by
  show entries false (moves false text) = _
  rw [moves_lenient, entries_append, entries_cons, entries_cons, entries_nil, closeGroups_entries,
    List.append_nil, List.append_nil]

/-! ## What steps keep -/

/--
A property of the text that was read, the entries it has become and the state
behind it, which is kept by every step, is kept by a run.
-/
theorem Reads.preserves
    (property : List Char → List Entry → State → Prop)
    (step : ∀ {read : List Char} {entries : List Entry} {state : State},
      property read entries state → ∀ char tail,
        property
          (read ++ char :: tail.take (Scan.step state char tail).extra)
          (entries ++ (Scan.step state char tail).entries false)
          (Scan.step state char tail).next)
    {state final : State} {remaining rest : List Char} {moves : List Move}
    (run : Reads state remaining moves final rest)
    {read : List Char} {entries : List Entry}
    (before : property read entries state) :
    ∃ more, remaining = more ++ rest ∧
      property (read ++ more) (entries ++ Scan.entries false moves) final := by
  induction run generalizing read entries with
  | done => exact ⟨[], rfl, by simpa using before⟩
  | @move state final char tail rest moves later ih =>
      obtain ⟨more, split, after⟩ := ih (step before char tail)
      refine ⟨char :: tail.take (Scan.step state char tail).extra ++ more, ?_, ?_⟩
      · rw [List.append_assoc, ← split, List.cons_append, List.take_append_drop]
      · simpa using after

end SheetFormula.Scan
