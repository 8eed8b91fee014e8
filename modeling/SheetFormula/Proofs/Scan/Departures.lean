import SheetFormula.Proofs.Scan.Slices

/-!
# Strict and lenient scans

A strict scan makes the moves of the lenient scan up to the first departure
and stops there.  So it succeeds exactly when the lenient scan passes over no
departure, with the same entries, and otherwise it fails with the first
departure that the lenient scan passes over.

A departure tells where the text is not well formed (`Departure.Describes`):
an unbalanced closer stands at its position, an unterminated literal opens at
its position, and unclosed groups are counted at the end of the text.

A run without departures is what both kinds of scan have in common.
`Passes` keeps of such a run only the tokens it leaves.
-/

namespace SheetFormula.Scan

/-! ## The beginning of a list up to its first match -/

/-- The items of a list up to the first one that passes a test, with that one. -/
def throughFirst {α : Type} (test : α → Bool) : List α → List α
  | [] => []
  | item :: rest => if test item then [item] else item :: throughFirst test rest

section ThroughFirst

variable {α : Type} {test : α → Bool}

theorem throughFirst_append (first second : List α) :
    throughFirst test (first ++ second) =
      if first.any test then throughFirst test first
      else first ++ throughFirst test second := by
  induction first with
  | nil => rfl
  | cons item rest ih =>
      by_cases passes : test item
      · simp [throughFirst, passes]
      · by_cases later : rest.any test
        · simp [throughFirst, passes, ih, later]
        · simp [throughFirst, passes, ih, later]

theorem any_throughFirst (items : List α) :
    (throughFirst test items).any test = items.any test := by
  induction items with
  | nil => rfl
  | cons item rest ih =>
      by_cases passes : test item
      · simp [throughFirst, passes]
      · simp [throughFirst, passes, ih]

theorem throughFirst_of_none (items : List α) (none : items.any test = false) :
    throughFirst test items = items := by
  induction items with
  | nil => rfl
  | cons item rest ih =>
      simp only [List.any_cons, Bool.or_eq_false_iff] at none
      simp [throughFirst, none.1, ih none.2]

end ThroughFirst

/-! ## The moves of a strict scan -/

/-- Whether a move departs. -/
def Move.departs (move : Move) : Bool :=
  move.departure.isSome

theorem reading_strict (state : State) (text : List Char) :
    reading true state text = throughFirst Move.departs (reading false state text) := by
  fun_induction reading true state text with
  | case1 state => rw [reading_nil, throughFirst]
  | case2 state char tail move stops =>
      have departs : (step state char tail).departs = true := stops
      rw [reading_lenient_cons, throughFirst, if_pos departs]
  | case3 state char tail move goesOn ih =>
      have remains : ¬ (step state char tail).departs = true := goesOn
      rw [reading_lenient_cons, throughFirst, if_neg remains, ← ih]

theorem finishing_strict (text : List Char) (state : State) :
    finishing true text state = throughFirst Move.departs (finishing false text state) := by
  by_cases departs : (closeLiteral text state).departs
  · simp_all [finishing, throughFirst, Move.departs]
  · by_cases groups : (closeGroups text (closeLiteral text state).next).departs
    · simp_all [finishing, throughFirst, Move.departs]
    · simp_all [finishing, throughFirst, Move.departs]

/-- A strict scan makes the moves of the lenient one up to the first departure. -/
theorem moves_strict (text : List Char) :
    moves true text = throughFirst Move.departs (moves false text) := by
  have stops : Move.stops true = Move.departs := rfl
  have neverStops : (reading false .initial text).any (Move.stops false) = false := by
    simp
  simp only [moves, stops, neverStops, reading_strict, any_throughFirst,
    throughFirst_append, Bool.false_eq_true, if_false]
  by_cases departs : (reading false .initial text).any Move.departs
  · simp [departs]
  · have same : throughFirst Move.departs (reading false .initial text) =
        reading false .initial text :=
      throughFirst_of_none _ (by simpa using departs)
    simp [departs, same, finishing_strict]

theorem departures_eq_nil_iff (made : List Move) :
    departures made = [] ↔ made.any Move.departs = false := by
  simp [departures, Move.departs]

theorem departures_throughFirst (made : List Move) :
    departures (throughFirst Move.departs made) = (departures made).take 1 := by
  induction made with
  | nil => rfl
  | cons move rest ih =>
      cases departure : move.departure with
      | none => simpa [throughFirst, departures, Move.departs, departure] using ih
      | some first => simp [throughFirst, departures, Move.departs, departure]

/-! ## The entries of a strict scan -/

/-- Only a step that departs has text to recover. -/
theorem Rule.recovered_eq_nil
    {state : State} {char : Char} {tail : List Char} {move : Move}
    (rule : Rule state char tail move)
    (remains : move.departure = none) :
    move.recovered = [] := by
  cases rule with
  | unbalancedArray => simp [unbalanced] at remains
  | unbalancedParenthesis => simp [unbalanced] at remains
  | _ => rfl

theorem Reads.recovered_eq_nil
    {state final : State} {text rest : List Char} {moves : List Move}
    (run : Reads state text moves final rest) :
    ∀ move ∈ moves, move.departure = none → move.recovered = [] := by
  induction run with
  | done => simp
  | @move state final char tail rest moves later ih =>
      intro move member remains
      rcases List.mem_cons.mp member with rfl | member
      · exact (stepMode_rule state char tail).recovered_eq_nil remains
      · exact ih move member remains

theorem recovered_eq_nil_of_mem_moves
    {text : List Char} {move : Move}
    (member : move ∈ moves false text)
    (remains : move.departure = none) :
    move.recovered = [] := by
  rw [moves_lenient] at member
  simp only [List.mem_append, List.mem_cons, List.not_mem_nil, or_false] at member
  rcases member with read | rfl | rfl
  · exact (reads_finalState text).recovered_eq_nil move read remains
  · revert remains
    unfold closeLiteral
    split <;> simp
  · revert remains
    unfold closeGroups
    split <;> simp

theorem entries_strict_eq
    {made : List Move}
    (quiet : ∀ move ∈ made, move.recovered = []) :
    entries true made = entries false made := by
  induction made with
  | nil => rfl
  | cons move rest ih =>
      have here : move.recovered = [] := quiet move (by simp)
      have later := ih fun other member => quiet other (by simp [member])
      simp [Move.entries, here, later]

/-- A strict scan gives the result of the lenient one or its first departure. -/
theorem strict_eq (text : List Char) :
    strict text =
      match (lenient text).departures with
      | [] => .ok (lenient text).entries
      | first :: _ => .error first := by
  simp only [strict, lenient, moves_strict, departures_throughFirst]
  cases passed : departures (moves false text) with
  | cons first others => rfl
  | nil =>
      have none : (moves false text).any Move.departs = false :=
        (departures_eq_nil_iff _).mp passed
      have quiet : ∀ move ∈ moves false text, move.recovered = [] := by
        intro move member
        refine recovered_eq_nil_of_mem_moves member ?_
        simpa [Move.departs] using List.any_eq_false.mp none move member
      simp [throughFirst_of_none _ none, entries_strict_eq quiet]

/-- A scan gives the entries of the lenient scan; a strict one needs that nothing departs. -/
theorem scan_eq_ok_iff {isStrict : Bool} {text : List Char} {entries : List Entry} :
    scan isStrict text = .ok entries ↔
      (lenient text).entries = entries ∧ (isStrict → (lenient text).departures = []) := by
  cases isStrict with
  | false => simp [scan]
  | true =>
      simp only [scan, if_true, strict_eq]
      cases (lenient text).departures with
      | nil => simp
      | cons first others => simp

/-! ## What a departure tells -/

/-- The character that opens a literal. -/
def Literal.opener : Literal → Char
  | .text => '"'
  | .sheetPath => '\''
  | .bracketRange => '['
  | .errorCode => '#'

/-- A departure tells what is found in a text at its position. -/
def Departure.Describes (text : List Char) : Departure → Prop
  | .unbalanced closer position =>
      (closer = ')' ∨ closer = '}') ∧ text[position]? = some closer
  | .unterminated literal position _ =>
      text[position]? = some literal.opener
  | .unclosed count position =>
      count = (finalState text).nesting.length ∧ 0 < count ∧ position = text.length

/-- A step departs only at a closer, which it reports where it stands. -/
theorem Rule.departure_eq
    {state : State} {char : Char} {tail : List Char} {move : Move} {departure : Departure}
    (rule : Rule state char tail move)
    (departs : move.departure = some departure) :
    (char = ')' ∨ char = '}') ∧ departure = .unbalanced char state.position := by
  cases rule with
  | unbalancedArray =>
      exact ⟨.inr rfl, by simpa [unbalanced, eq_comm] using departs⟩
  | unbalancedParenthesis =>
      exact ⟨.inl rfl, by simpa [unbalanced, eq_comm] using departs⟩
  | _ => cases departs

theorem Reads.describes
    {state final : State} {remaining rest : List Char} {moves : List Move}
    (run : Reads state remaining moves final rest)
    {read : List Char} {entries : List Entry}
    (before : Scanned read entries state) :
    ∀ move ∈ moves, ∀ departure, move.departure = some departure →
      departure.Describes (read ++ remaining) := by
  induction run generalizing read entries with
  | done => simp
  | @move state final char tail rest moves later ih =>
      intro move member departure departs
      rcases List.mem_cons.mp member with rfl | member
      · obtain ⟨isCloser, rfl⟩ := (stepMode_rule state char tail).departure_eq departs
        exact ⟨isCloser, by simp [before.position]⟩
      · have described := ih (before.step char tail) move member departure departs
        simpa [List.append_assoc] using described

/-- A literal that is open at the end of a text opened where it says. -/
theorem Pending.opener
    {state : State} {done pending : List Char} {literal : Literal}
    (before : Pending state done.length pending)
    (mode : state.mode = .inside literal) :
    (done ++ pending)[state.literalStart]? = some literal.opener := by
  cases literal with
  | text =>
      simp only [Pending, mode] at before
      obtain ⟨opened, rfl⟩ := before
      simp [opened, Literal.opener]
  | sheetPath =>
      simp only [Pending, mode] at before
      obtain ⟨opened, name, _, rfl⟩ := before
      simp [opened, Literal.opener]
  | bracketRange =>
      simp only [Pending, mode] at before
      obtain ⟨first, value, inner, _, opened, rfl, _⟩ := before
      simp [opened, Literal.opener]
  | errorCode =>
      simp only [Pending, mode] at before
      obtain ⟨opened, _, head⟩ := before
      obtain ⟨others, rfl⟩ := List.head?_eq_some_iff.mp head
      simp [opened, Literal.opener]

theorem closeLiteral_describes
    {text : List Char} {departure : Departure}
    (departs : (closeLiteral text (finalState text)).departure = some departure) :
    departure.Describes text := by
  obtain ⟨slices, pending, _, split, before⟩ := (scanned_finalState text).spelled
  unfold closeLiteral at departs
  split at departs
  · cases departs
  · next literal mode =>
      cases departs
      have opened := before.opener mode
      rwa [← split] at opened

theorem closeLiteral_nesting (text : List Char) (state : State) :
    (closeLiteral text state).next.nesting = state.nesting := by
  unfold closeLiteral
  split <;> rfl

theorem closeGroups_describes
    {text : List Char} {departure : Departure}
    (departs :
      (closeGroups text (closeLiteral text (finalState text)).next).departure =
        some departure) :
    departure.Describes text := by
  unfold closeGroups at departs
  rw [closeLiteral_nesting] at departs
  split at departs
  · cases departs
  · next opened =>
      cases departs
      exact ⟨rfl, List.length_pos_iff.mpr (by simpa using opened), rfl⟩

/-- Every departure that a lenient scan passes over describes its text. -/
theorem lenient_departures_describe
    {text : List Char} {departure : Departure}
    (passed : departure ∈ (lenient text).departures) :
    departure.Describes text := by
  simp only [lenient, departures, List.mem_filterMap, moves_lenient, List.mem_append,
    List.mem_cons, List.not_mem_nil, or_false] at passed
  obtain ⟨move, read | rfl | rfl, departs⟩ := passed
  · simpa using (reads_finalState text).describes scanned_initial move read departure departs
  · exact closeLiteral_describes departs
  · exact closeGroups_describes departs

/-- A scan passes over no departure when it reads all steps, literals and groups to their end. -/
theorem lenient_departures_eq_nil_iff (text : List Char) :
    (lenient text).departures = [] ↔
      (∀ move ∈ reading false .initial text, move.departure = none) ∧
        (finalState text).mode = .normal ∧ (finalState text).nesting = [] := by
  have literal : (closeLiteral text (finalState text)).departure = none ↔
      (finalState text).mode = .normal := by
    unfold closeLiteral
    split
    · next mode => simp [mode]
    · next literal mode => simp [mode]
  have groups :
      (closeGroups text (closeLiteral text (finalState text)).next).departure = none ↔
        (finalState text).nesting = [] := by
    unfold closeGroups
    rw [closeLiteral_nesting]
    split
    · next closed => simpa using closed
    · next opened => simpa using opened
  simp only [lenient, moves_lenient, departures_eq_nil_iff, List.any_append, List.any_cons,
    List.any_nil, Bool.or_false, Bool.or_eq_false_iff, List.any_eq_false, Move.departs,
    Option.isSome_eq_false_iff, Option.isNone_iff_eq_none, literal, groups]
  simp

/--
Strict and lenient scans agree.  The strict scan succeeds exactly when the
lenient one passes over no departure, and then with the same entries; it fails
with the first departure that the lenient one passes over, which describes the
text.
-/
theorem strict_agrees_lenient (text : List Char) :
    ((∃ entries, strict text = .ok entries) ↔ (lenient text).departures = []) ∧
      (∀ entries, strict text = .ok entries → (lenient text).entries = entries) ∧
      (∀ departure, strict text = .error departure →
        (lenient text).departures.head? = some departure ∧ departure.Describes text) := by
  rw [strict_eq]
  cases passed : (lenient text).departures with
  | nil => simp
  | cons first others =>
      have described : first.Describes text :=
        lenient_departures_describe (by simp [passed])
      refine ⟨by simp, by simp, ?_⟩
      intro departure failed
      cases failed
      exact ⟨rfl, described⟩

/-! ## Runs without departures -/

/--
From a state, the scanner passes over the beginning of a text without
departing; it leaves some tokens and comes to the final state, with the rest
of the text still to be read.
-/
inductive Passes : State → List Char → List Token → State → List Char → Prop where
  | done {state : State} {text : List Char} :
      Passes state text [] state text
  | move
      {state final : State} {char : Char} {tail rest : List Char} {tokens others : List Token}
      (remains : (step state char tail).departure = none)
      (emits : (step state char tail).emitted = tokens.map some)
      (later :
        Passes (step state char tail).next (tail.drop (step state char tail).extra)
          others final rest) :
      Passes state (char :: tail) (tokens ++ others) final rest

theorem Passes.trans
    {first second third : State}
    {text middle rest : List Char}
    {tokens others : List Token}
    (before : Passes first text tokens second middle)
    (after : Passes second middle others third rest) :
    Passes first text (tokens ++ others) third rest := by
  induction before with
  | done => exact after
  | move remains emits _ ih =>
      rw [List.append_assoc]
      exact .move remains emits (ih after)

/-- A run without departures is a run that leaves its tokens. -/
theorem Passes.reads
    {state final : State} {text rest : List Char} {tokens : List Token}
    (passes : Passes state text tokens final rest) :
    ∃ moves,
      Reads state text moves final rest ∧
        (∀ move ∈ moves, move.departure = none) ∧ entries false moves = tokens.map some := by
  induction passes with
  | done => exact ⟨[], .done, by simp, rfl⟩
  | @move state final char tail rest tokens others remains emits _ ih =>
      obtain ⟨moves, run, quiet, left⟩ := ih
      refine ⟨step state char tail :: moves, .move run, by simpa [remains] using quiet, ?_⟩
      have nothing : (step state char tail).recovered = [] :=
        (stepMode_rule state char tail).recovered_eq_nil remains
      simp [Move.entries, emits, nothing, left]

/-- A text that is passed to its end, with everything closed, is scanned in both ways alike. -/
theorem Passes.scan_eq
    {text : List Char} {tokens : List Token} {final : State}
    (passes : Passes .initial text tokens final [])
    (mode : final.mode = .normal)
    (closed : final.nesting = [])
    (isStrict : Bool) :
    scan isStrict text = .ok (tokens.map some ++ final.flush .operand) := by
  obtain ⟨moves, run, quiet, left⟩ := passes.reads
  have reading_eq : reading false .initial text = moves := by
    simpa [reading_nil] using run.reading_eq
  have final_eq : finalState text = final := by
    rw [finalState, reading_eq, run.lastState_eq]
  have nothing : (lenient text).departures = [] := by
    rw [lenient_departures_eq_nil_iff, reading_eq, final_eq]
    exact ⟨quiet, mode, closed⟩
  have entries_eq : (lenient text).entries = tokens.map some ++ final.flush .operand := by
    simp [lenient, moves_lenient, reading_eq, final_eq, closeLiteral, closeGroups, mode, closed,
      left, Move.entries]
  cases isStrict with
  | false => simp [scan, entries_eq]
  | true => simp [scan, strict_eq, nothing, entries_eq]

end SheetFormula.Scan
