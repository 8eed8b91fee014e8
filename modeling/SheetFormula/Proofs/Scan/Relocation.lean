import SheetFormula.Proofs.Scan.Boundaries

/-!
# Scans at other positions

The position of the scanner matters in one place only: an open literal is kept
from its beginning on when the text ends.  So two scans that stand at different
positions of two texts, with the same text before them, leave the same entries
from there on (`Relocated.ahead_eq`).

What a scan has read can also be read again in front of another continuation.
The scanner looks at most one character ahead, unless it reads spaces; in front
of a space it makes the same moves again, and only a blank at the end of what it
has read takes the new spaces in (`Reads.carried`).
-/

namespace SheetFormula.Scan

/-! ## What a scan still leaves -/

/-- The entries that a scan leaves from some place on. -/
def ahead (text : List Char) (state : State) (rest : List Char) : List Entry :=
  entries false (reading false state rest) ++
    (closeLiteral text (lastState state (reading false state rest))).entries false

/-- What is ahead of a run that reads to the end of the text. -/
theorem Reads.ahead_eq
    {text rest : List Char} {made : List Move} {state final : State}
    (run : Reads state rest made final []) :
    ahead text state rest = entries false made ++ (closeLiteral text final).entries false := by
  have all : reading false state rest = made := by
    rw [run.reading_eq, reading_nil, List.append_nil]
  rw [ahead, all, run.lastState_eq]

/-- A run leaves its entries first. -/
theorem Reads.ahead_append
    {text remaining rest : List Char} {made : List Move} {state final : State}
    (run : Reads state remaining made final rest) :
    ahead text state remaining = entries false made ++ ahead text final rest := by
  have later := reads_reading final rest
  rw [(run.trans later).ahead_eq, later.ahead_eq, entries_append, List.append_assoc]

theorem lenient_entries_eq_ahead (text : List Char) :
    (lenient text).entries = ahead text .initial text := by
  rw [lenient_entries, (reads_finalState text).ahead_eq]

/-! ## Relocated states -/

/-- A state at another position, whose literal began at another place. -/
def State.relocate (state : State) (position literalStart : Nat) : State :=
  { state with position := position, literalStart := literalStart }

/--
The rules do not depend on positions.  A step at another position leaves the same
entries; its literal began where the old one did, unless the step opens one.
-/
theorem Rule.relocate
    {state : State} {char : Char} {tail : List Char} {move : Move}
    (rule : Rule state char tail move)
    (position literalStart : Nat) :
    ∃ moved start,
      Rule (state.relocate position literalStart) char tail moved ∧
        moved.entries false = move.entries false ∧
        moved.extra = move.extra ∧
        moved.next = move.next.relocate position start ∧
        (start = literalStart ∧ move.next.literalStart = state.literalStart ∧
            (state.mode = .normal → move.next.mode = .normal) ∨
          start = position ∧ move.next.literalStart = state.position) := by
  cases rule with
  | collect mode plain =>
      exact ⟨_, _, .collect mode plain, rfl, rfl, rfl, .inl ⟨rfl, rfl, id⟩⟩
  | separate mode noSign separates =>
      exact ⟨_, _, .separate mode noSign separates, rfl, rfl, rfl, .inl ⟨rfl, rfl, id⟩⟩
  | openLiteral mode opens =>
      exact ⟨_, _, .openLiteral mode opens, rfl, rfl, rfl, .inr ⟨rfl, rfl⟩⟩
  | openBracketRange mode =>
      exact ⟨_, _, .openBracketRange mode, rfl, rfl, rfl, .inr ⟨rfl, rfl⟩⟩
  | openArray mode => exact ⟨_, _, .openArray mode, rfl, rfl, rfl, .inl ⟨rfl, rfl, id⟩⟩
  | openParenthesis mode =>
      exact ⟨_, _, .openParenthesis mode, rfl, rfl, rfl, .inl ⟨rfl, rfl, id⟩⟩
  | closeArray mode nesting isRow =>
      exact ⟨_, _, .closeArray mode nesting isRow, rfl, rfl, rfl, .inl ⟨rfl, rfl, id⟩⟩
  | closeParenthesis mode nesting noRow =>
      exact ⟨_, _, .closeParenthesis mode nesting noRow, rfl, rfl, rfl, .inl ⟨rfl, rfl, id⟩⟩
  | unbalancedArray mode noRow =>
      exact ⟨_, _, .unbalancedArray mode noRow, rfl, rfl, rfl, .inl ⟨rfl, rfl, id⟩⟩
  | unbalancedParenthesis mode noGroup =>
      exact ⟨_, _, .unbalancedParenthesis mode noGroup, rfl, rfl, rfl, .inl ⟨rfl, rfl, id⟩⟩
  | escapedQuote mode => exact ⟨_, _, .escapedQuote mode, rfl, rfl, rfl, .inl ⟨rfl, rfl, id⟩⟩
  | endText mode single =>
      exact ⟨_, _, .endText mode single, rfl, rfl, rfl, .inl ⟨rfl, rfl, fun _ => rfl⟩⟩
  | textCharacter mode noQuote =>
      exact ⟨_, _, .textCharacter mode noQuote, rfl, rfl, rfl, .inl ⟨rfl, rfl, id⟩⟩
  | escapedApostrophe mode =>
      exact ⟨_, _, .escapedApostrophe mode, rfl, rfl, rfl, .inl ⟨rfl, rfl, id⟩⟩
  | endSheetPath mode single =>
      exact ⟨_, _, .endSheetPath mode single, rfl, rfl, rfl, .inl ⟨rfl, rfl, fun _ => rfl⟩⟩
  | sheetPathCharacter mode noQuote =>
      exact ⟨_, _, .sheetPathCharacter mode noQuote, rfl, rfl, rfl, .inl ⟨rfl, rfl, id⟩⟩
  | innerBracket mode => exact ⟨_, _, .innerBracket mode, rfl, rfl, rfl, .inl ⟨rfl, rfl, id⟩⟩
  | endInnerBracket mode inner =>
      exact ⟨_, _, .endInnerBracket mode inner, rfl, rfl, rfl, .inl ⟨rfl, rfl, id⟩⟩
  | endBracketRange mode outermost =>
      exact ⟨_, _, .endBracketRange mode outermost, rfl, rfl, rfl, .inl ⟨rfl, rfl, fun _ => rfl⟩⟩
  | bracketCharacter mode noOpener noCloser =>
      exact ⟨_, _, .bracketCharacter mode noOpener noCloser, rfl, rfl, rfl, .inl ⟨rfl, rfl, id⟩⟩
  | endErrorCode mode complete =>
      exact ⟨_, _, .endErrorCode mode complete, rfl, rfl, rfl, .inl ⟨rfl, rfl, fun _ => rfl⟩⟩
  | errorCodeCharacter mode incomplete =>
      exact ⟨_, _, .errorCodeCharacter mode incomplete, rfl, rfl, rfl, .inl ⟨rfl, rfl, id⟩⟩

/--
Two scans with the same text before them, in states that differ in positions
only.  If they are inside a literal, they agree on what it holds.
-/
structure Relocated (text other rest : List Char) (state moved : State) : Prop where
  same : moved = state.relocate moved.position moved.literalStart
  here : text.drop state.position = rest
  there : other.drop moved.position = rest
  literal : state.mode ≠ .normal → other.drop moved.literalStart = text.drop state.literalStart

section Relocated

variable {text other : List Char}

/-- Outside literals the positions are all that two scans have to agree on. -/
theorem relocated_of_outside
    {rest : List Char} {state moved : State} {position literalStart : Nat}
    (same : moved = state.relocate position literalStart)
    (mode : state.mode = .normal)
    (here : text.drop state.position = rest)
    (there : other.drop moved.position = rest) :
    Relocated text other rest state moved := by
  subst same
  exact ⟨rfl, here, there, fun inside => absurd mode inside⟩

/-- A step over the same text leads to relocated states and leaves the same entries. -/
theorem Relocated.step
    {char : Char} {tail : List Char} {state moved : State}
    (relocated : Relocated text other (char :: tail) state moved) :
    (Scan.step moved char tail).entries false = (Scan.step state char tail).entries false ∧
      (Scan.step moved char tail).extra = (Scan.step state char tail).extra ∧
      Relocated text other (tail.drop (Scan.step state char tail).extra)
        (Scan.step state char tail).next (Scan.step moved char tail).next := by
  rcases (stepMode_rule state char tail).relocate moved.position moved.literalStart with
    ⟨move, start, rule, left, read, next, began⟩
  rw [← relocated.same] at rule
  have made := rule.stepMode_eq
  have behind {whole : List Char} {place : Nat} (before : whole.drop place = char :: tail)
      (extra : Nat) : whole.drop (place + 1 + extra) = tail.drop extra := by
    rw [Nat.add_assoc, ← List.drop_drop, before, Nat.add_comm, List.drop_succ_cons]
  refine ⟨by rw [step_entries, step_entries, made, left], by simp [Scan.step, made, read], ?_⟩
  refine ⟨?_, ?_, ?_, ?_⟩
  · simp [Scan.step, made, next, State.relocate]
  · exact behind relocated.here _
  · simp only [Scan.step, made, read]
    exact behind relocated.there _
  · simp only [Scan.step, made, next, State.relocate]
    intro inside
    rcases began with ⟨rfl, kept, stays⟩ | ⟨rfl, kept⟩
    · rw [kept]
      exact relocated.literal fun mode => inside (stays mode)
    · rw [kept, relocated.here, relocated.there]

/-- A run can be made at the other position as well. -/
theorem Reads.relocated
    {state final moved : State} {remaining rest : List Char} {made : List Move}
    (run : Reads state remaining made final rest)
    (relocated : Relocated text other remaining state moved) :
    ∃ again last,
      Reads moved remaining again last rest ∧
        entries false again = entries false made ∧
        Relocated text other rest final last := by
  induction run generalizing moved with
  | done => exact ⟨[], moved, .done, rfl, relocated⟩
  | @move state final char tail rest moves later ih =>
      rcases relocated.step with ⟨left, read, next⟩
      rcases ih next with ⟨again, last, run, same, final⟩
      refine ⟨Scan.step moved char tail :: again, last, ?_, ?_, final⟩
      · exact .move (by rwa [read])
      · rw [entries_cons, entries_cons, left, same]

theorem Relocated.closeLiteral_eq
    {rest : List Char} {state moved : State}
    (relocated : Relocated text other rest state moved) :
    (closeLiteral other moved).entries false = (closeLiteral text state).entries false := by
  rw [relocated.same]
  cases mode : state.mode with
  | normal => simp [closeLiteral, State.relocate, mode, Move.entries, State.flush]
  | inside literal =>
      have same := relocated.literal (by simp [mode])
      cases literal <;> simp [closeLiteral, State.relocate, mode, Move.entries, same]

/-- From relocated states on, two scans leave the same entries. -/
theorem Relocated.ahead_eq
    {rest : List Char} {state moved : State}
    (relocated : Relocated text other rest state moved) :
    ahead other moved rest = ahead text state rest := by
  have run := reads_reading state rest
  rcases run.relocated relocated with ⟨again, last, rerun, same, final⟩
  rw [run.ahead_eq, rerun.ahead_eq, same, final.closeLiteral_eq]

end Relocated

/-! ## Other continuations -/

/-- A comparison of two characters is seen in the first two. -/
theorem pairOperator?_cons (char second : Char) (rest other : List Char) :
    pairOperator? char (second :: rest) = pairOperator? char (second :: other) := by
  unfold pairOperator?
  split <;> simp_all

/-- What separates, read in front of a space. -/
theorem Separates.carry
    {nesting : Nesting} {char : Char} {front rest : List Char} {token : Token} {extra : Nat}
    (separates : Separates nesting char (front ++ rest) token extra)
    (read : extra ≤ front.length)
    (noSpace : char ≠ ' ')
    (other : List Char) :
    Separates nesting char (front ++ ' ' :: other) token extra := by
  generalize split : front ++ rest = remaining at separates
  cases separates with
  | pair found =>
      cases front with
      | nil => simp at read
      | cons second more =>
          rw [← split, List.cons_append, pairOperator?_cons _ _ _ (more ++ ' ' :: other)] at found
          exact .pair found
  | operator single isOperator =>
      cases front with
      | nil => exact .operator (by simp [pairOperator?]) isOperator
      | cons second more =>
          rw [← split, List.cons_append, pairOperator?_cons _ _ _ (more ++ ' ' :: other)] at single
          exact .operator single isOperator
  | blank => exact absurd rfl noSpace
  | rowSeparator => exact .rowSeparator
  | percent => exact .percent
  | comma => exact .comma

/-- A rule, applied in front of a space. -/
theorem Rule.carry
    {state : State} {char : Char} {front rest : List Char} {move : Move}
    (rule : Rule state char (front ++ rest) move)
    (read : move.extra ≤ front.length)
    (noSpace : state.mode = .normal → char ≠ ' ')
    (other : List Char) :
    Rule state char (front ++ ' ' :: other) move := by
  have head {char : Char} (single : (front ++ rest).head? ≠ some char) (noSpace : char ≠ ' ') :
      (front ++ ' ' :: other).head? ≠ some char := by
    cases front with
    | nil => simpa using noSpace.symm
    | cons second more => exact single
  generalize split : front ++ rest = remaining at rule
  cases rule with
  | collect mode plain => exact .collect mode plain
  | separate mode noSign separates =>
      subst split
      exact .separate mode noSign (separates.carry read (noSpace mode) other)
  | openLiteral mode opens => exact .openLiteral mode opens
  | openBracketRange mode => exact .openBracketRange mode
  | openArray mode => exact .openArray mode
  | openParenthesis mode => exact .openParenthesis mode
  | closeArray mode nesting isRow => exact .closeArray mode nesting isRow
  | closeParenthesis mode nesting noRow => exact .closeParenthesis mode nesting noRow
  | unbalancedArray mode noRow => exact .unbalancedArray mode noRow
  | unbalancedParenthesis mode noGroup => exact .unbalancedParenthesis mode noGroup
  | escapedQuote mode =>
      cases front with
      | nil => simp at read
      | cons second more =>
          cases (List.cons.inj split).1
          exact .escapedQuote mode
  | endText mode single =>
      subst split
      exact .endText mode (head single (by decide))
  | textCharacter mode noQuote => exact .textCharacter mode noQuote
  | escapedApostrophe mode =>
      cases front with
      | nil => simp at read
      | cons second more =>
          cases (List.cons.inj split).1
          exact .escapedApostrophe mode
  | endSheetPath mode single =>
      subst split
      exact .endSheetPath mode (head single (by decide))
  | sheetPathCharacter mode noQuote => exact .sheetPathCharacter mode noQuote
  | innerBracket mode => exact .innerBracket mode
  | endInnerBracket mode inner => exact .endInnerBracket mode inner
  | endBracketRange mode outermost => exact .endBracketRange mode outermost
  | bracketCharacter mode noOpener noCloser => exact .bracketCharacter mode noOpener noCloser
  | endErrorCode mode complete => exact .endErrorCode mode complete
  | errorCodeCharacter mode incomplete => exact .errorCodeCharacter mode incomplete

/-! ## Reading again in front of spaces -/

theorem behindSpaces_append
    {spaces : List Char} (areSpaces : ∀ char ∈ spaces, char = ' ') (rest : List Char) :
    behindSpaces (spaces ++ rest) = behindSpaces rest := by
  have taken : (spaces ++ rest).takeWhile (· = ' ') = spaces ++ rest.takeWhile (· = ' ') := by
    apply List.takeWhile_append_of_pos
    intro char member
    simpa using areSpaces char member
  rw [behindSpaces, taken, List.length_append, ← List.drop_drop, List.drop_left, behindSpaces]

theorem behindSpaces_eq_self {text : List Char} (noSpace : text.head? ≠ some ' ') :
    behindSpaces text = text := by
  cases text with
  | nil => rfl
  | cons char rest =>
      have other : char ≠ ' ' := by simpa using noSpace
      simp [behindSpaces, other]

theorem Reads.eq_of_nothing_read
    {state final : State} {text : List Char} {made : List Move}
    (run : Reads state text made final text) :
    made = [] ∧ final = state := by
  cases run with
  | done => exact ⟨rfl, rfl⟩
  | move later =>
      have shorter := later.length_le
      rw [List.length_drop, List.length_cons] at shorter
      omega

/--
A run, made again with another continuation.  Either it is the same run, or it
ends in a blank that takes the spaces of the new continuation in.
-/
inductive Carried
    (start : State) (text : List Char) (made : List Move) (final : State)
    (rest other : List Char) : Prop where
  | same (run : Reads start text made final other)
  | widened {again : List Move} {last : State} {position literalStart : Nat}
      (run : Reads start text again last (behindSpaces other))
      (left : entries false again = entries false made)
      (alike : last = final.relocate position literalStart)
      (outside : final.mode = .normal)
      (ends : rest.head? ≠ some ' ')

/-- A step that is the same in front of the new continuation. -/
theorem Carried.move
    {state final : State} {char : Char} {tail longer rest other : List Char} {made : List Move}
    (same : step state char longer = step state char tail)
    (carried : Carried (step state char tail).next (longer.drop (step state char tail).extra)
      made final rest other) :
    Carried state (char :: longer) (step state char tail :: made) final rest other := by
  rw [← same] at carried ⊢
  cases carried with
  | same run => exact .same (.move run)
  | widened run left alike outside ends =>
      exact .widened (.move run) (by rw [entries_cons, entries_cons, left]) alike outside ends

theorem step_carry
    {state : State} {char : Char} {front rest : List Char}
    (read : (step state char (front ++ rest)).extra ≤ front.length)
    (noSpace : state.mode = .normal → char ≠ ' ')
    (more : List Char) :
    step state char (front ++ ' ' :: more) = step state char (front ++ rest) := by
  have rule := (stepMode_rule state char (front ++ rest)).carry read noSpace more
  simp only [step, rule.stepMode_eq]

/-- A blank does not depend on what follows the character that ends it. -/
theorem step_space_carry
    {state : State} (mode : state.mode = .normal)
    {spaces : List Char} (areSpaces : ∀ char ∈ spaces, char = ' ')
    {next : Char} (noSpace : next ≠ ' ')
    (rest other : List Char) :
    step state ' ' (spaces ++ next :: rest) = step state ' ' (spaces ++ next :: other) := by
  have taken (behind : List Char) :
      (spaces ++ next :: behind).takeWhile (· = ' ') = spaces := by
    rw [List.takeWhile_append_of_pos (by simpa using areSpaces)]
    simp [noSpace]
  simp only [step, stepMode_space mode, taken]

/-- Outside literals, spaces are read in one step. -/
theorem reads_spaces
    {state : State} (mode : state.mode = .normal)
    {spaces : List Char} (areSpaces : ∀ char ∈ spaces, char = ' ')
    (rest : List Char) :
    Reads state (' ' :: (spaces ++ rest)) [step state ' ' (spaces ++ rest)]
      (step state ' ' (spaces ++ rest)).next (behindSpaces rest) := by
  have run : Reads state (' ' :: (spaces ++ rest)) _ _ _ := .move .done
  rwa [step_space_rest mode, behindSpaces_append areSpaces] at run

/-- However many spaces are read, the states behind them differ in their position only. -/
theorem step_space_next
    {state : State} (mode : state.mode = .normal) (tail : List Char) :
    (step state ' ' tail).next =
      state.cleared.relocate (step state ' ' tail).next.position state.literalStart := by
  simp [step, stepMode_space mode, State.relocate, separate, State.cleared]

theorem step_space_relocate
    {state : State} (mode : state.mode = .normal) (tail other : List Char) :
    (step state ' ' other).next =
      (step state ' ' tail).next.relocate (step state ' ' other).next.position
        state.literalStart := by
  rw [step_space_next mode tail]
  exact step_space_next mode other

theorem step_space_mode
    {state : State} (mode : state.mode = .normal) (tail : List Char) :
    (step state ' ' tail).next.mode = .normal := by
  rw [step_space_next mode tail]
  exact mode

/-- A blank at the end of what has been read takes further spaces in. -/
theorem carried_space
    {state : State} (mode : state.mode = .normal)
    {tail spaces : List Char} (areSpaces : ∀ char ∈ spaces, char = ' ')
    (more : List Char) :
    Carried state (' ' :: (spaces ++ ' ' :: more)) [step state ' ' tail] (step state ' ' tail).next
      (behindSpaces tail) (' ' :: more) := by
  refine .widened (reads_spaces mode areSpaces (' ' :: more)) ?_ (step_space_relocate mode tail _)
    (step_space_mode mode tail) (head_behindSpaces tail)
  simp only [entries_cons, step_space_entries mode]

/-- What a space outside literals takes in are spaces. -/
theorem space_of_mem_taken
    {state : State} (mode : state.mode = .normal)
    {tail : List Char} {char : Char}
    (member : char ∈ tail.take (step state ' ' tail).extra) :
    char = ' ' := by
  have read : (step state ' ' tail).extra = (tail.takeWhile (· = ' ')).length := by
    simp [step, stepMode_space mode]
  rw [read, take_spaces] at member
  exact List.eq_of_mem_replicate member

/-- A step is the same if a space is put in behind what has been read after it. -/
theorem step_carried
    {state : State} {char : Char} {tail taken rest : List Char}
    (split : tail.drop (step state char tail).extra = taken ++ rest)
    (apart : state.mode = .normal → char = ' ' → taken ≠ [])
    (more : List Char) :
    step state char (tail.take (step state char tail).extra ++ (taken ++ ' ' :: more)) =
      step state char tail := by
  have tail_eq : tail = tail.take (step state char tail).extra ++ (taken ++ rest) := by
    rw [← split, List.take_append_drop]
  by_cases space : state.mode = .normal ∧ char = ' '
  · rcases space with ⟨mode, rfl⟩
    rw [step_space_rest mode] at split
    cases taken with
    | nil => exact absurd rfl (apart mode rfl)
    | cons next between =>
        have noSpace : next ≠ ' ' := by
          have ends := head_behindSpaces tail
          rw [split] at ends
          simpa using ends
        calc
          step state ' ' (tail.take _ ++ (next :: between ++ ' ' :: more))
          _ = step state ' ' (tail.take _ ++ next :: (between ++ rest)) :=
            step_space_carry mode (fun _ member => space_of_mem_taken mode member) noSpace _ _
          _ = step state ' ' tail := by rw [← List.cons_append, ← tail_eq]
  · have bound : (step state char tail).extra ≤ tail.length :=
      (stepMode_rule state char tail).extra_le
    calc
      step state char (tail.take _ ++ (taken ++ ' ' :: more))
      _ = step state char (tail.take _ ++ taken ++ rest) := by
        rw [← List.append_assoc]
        apply step_carry ?_ fun mode isSpace => space ⟨mode, isSpace⟩
        rw [List.append_assoc, ← tail_eq, List.length_append, List.length_take_of_le bound]
        omega
      _ = step state char tail := by rw [List.append_assoc, ← tail_eq]

/-- What has been read can be read again in front of a space. -/
theorem Reads.carried
    {state final : State} {text rest : List Char} {made : List Move}
    (run : Reads state text made final rest) :
    ∃ taken, text = taken ++ rest ∧
      ∀ more, Carried state (taken ++ ' ' :: more) made final rest (' ' :: more) := by
  induction run with
  | done => exact ⟨[], rfl, fun _ => .same .done⟩
  | @move state final char tail rest moves later ih =>
      rcases ih with ⟨taken, split, carries⟩
      have length_eq := List.length_take_of_le (stepMode_rule state char tail).extra_le
      refine ⟨char :: (tail.take (step state char tail).extra ++ taken), ?_, fun more => ?_⟩
      · rw [List.cons_append, List.append_assoc, ← split, List.take_append_drop]
      have rest_eq : (tail.take (step state char tail).extra ++ (taken ++ ' ' :: more)).drop
          (step state char tail).extra = taken ++ ' ' :: more :=
        List.drop_left' length_eq
      rw [List.cons_append, List.append_assoc]
      by_cases blank : state.mode = .normal ∧ char = ' ' ∧ taken = []
      · -- a blank comes last, and the space that is put in only widens it
        rcases blank with ⟨mode, rfl, rfl⟩
        rw [step_space_rest mode] at split later
        rw [List.nil_append] at split
        subst split
        rcases later.eq_of_nothing_read with ⟨rfl, rfl⟩
        exact carried_space mode (fun _ member => space_of_mem_taken mode member) more
      · apply Carried.move
        · exact step_carried split (fun mode isSpace nothing => blank ⟨mode, isSpace, nothing⟩) more
        · rw [rest_eq]
          exact carries more

end SheetFormula.Scan
