import SheetFormula.Proofs.Nesting.Passes

/-!
# The state between two steps

Between two steps of a scan the fields of the state say where the scanner is in
the text (`Consistent`).  The depth counts the brackets that are open in the
bracketed range the scanner is in and is zero everywhere else.  The buffer of a
literal is the text from its opener on, with pairs of quotes written once, and
no error code stands complete in the buffer.

What was read determines all of this (`Tracked`): every rule of the scanner
keeps it up, and a scan that is interrupted anywhere is a run.  Every step moves
the position, so there are at most as many steps as characters.

Main statement: in both ways of scanning the state is consistent with the text
between the steps, each step reads on from the position and moves it, and every
token that is left has a subkind that its kind allows.
-/

namespace SheetFormula

open Scan

/-- A lawful token passes the check of its subkind. -/
theorem Token.IsLawful.make_eq {token : Token} (lawful : token.IsLawful) :
    Token.make token.kind token.value token.subkind = .ok token := by
  rcases token with ⟨kind, value, _ | subkind⟩
  · rfl
  · have allowed : kind.allows subkind = true := lawful
    simp [Token.make, allowed]

namespace Scan

/-! ## Brackets -/

/-- The depth is the number of brackets that are open in what was read of a bracketed range. -/
structure Counted (read : List Char) (state : State) : Prop where
  depth_pos_iff : 0 < state.bracketDepth ↔ state.mode = .inside .bracketRange
  depth_add_count : state.mode = .inside .bracketRange →
    state.bracketDepth + (read.drop state.literalStart).count ']' =
      (read.drop state.literalStart).count '['

theorem counted_initial : Counted [] .initial where
  depth_pos_iff := by simp [State.initial]
  depth_add_count := by simp [State.initial]

theorem Counted.outside
    {read more : List Char} {state next : State}
    (before : Counted read state)
    (outside : state.mode ≠ .inside .bracketRange)
    (sameDepth : next.bracketDepth = state.bracketDepth)
    (stillOutside : next.mode ≠ .inside .bracketRange) :
    Counted more next where
  depth_pos_iff := by
    rw [sameDepth, before.depth_pos_iff]
    exact iff_of_false outside stillOutside
  depth_add_count := fun inside => absurd inside stillOutside

/-- In a bracketed range every character that is read is counted. -/
theorem Counted.inside
    {read : List Char} {state next : State} {char : Char}
    (before : Counted read state)
    (inside : state.mode = .inside .bracketRange)
    (stillInside : next.mode = .inside .bracketRange)
    (sameStart : next.literalStart = state.literalStart)
    (started : state.literalStart ≤ read.length)
    (positive : 0 < next.bracketDepth)
    (changed : next.bracketDepth + [char].count ']' = state.bracketDepth + [char].count '[') :
    Counted (read ++ [char]) next where
  depth_pos_iff := iff_of_true positive stillInside
  depth_add_count := by
    intro _
    have sum := before.depth_add_count inside
    rw [sameStart, List.drop_append_of_le_length started, List.count_append, List.count_append]
    omega

/-- Every rule keeps count of the brackets. -/
theorem Rule.counted
    {state : State} {char : Char} {tail : List Char} {move : Move} {read : List Char}
    (rule : Rule state char tail move)
    (before : Counted read state)
    (place : state.position = read.length)
    (started : state.mode = .inside .bracketRange → state.literalStart ≤ read.length) :
    Counted (read ++ char :: tail.take move.extra) move.next := by
  cases rule with
  | openBracketRange mode =>
      refine ⟨by simp [Scan.openBracketRange], ?_⟩
      intro _
      simp [Scan.openBracketRange, place]
  | openLiteral mode opens =>
      refine before.outside (by simp [mode]) rfl ?_
      cases opens <;> simp [Scan.openLiteral]
  | innerBracket mode =>
      exact before.inside mode mode rfl (started mode) (Nat.succ_pos _) (by simp)
  | endInnerBracket mode inner =>
      refine before.inside mode mode rfl (started mode) (Nat.sub_pos_of_lt inner) ?_
      have counts : [']'].count ']' = 1 ∧ [']'].count '[' = 0 := by decide
      rw [counts.1, counts.2]
      exact Nat.sub_add_cancel (Nat.le_of_lt inner)
  | endBracketRange mode outermost => exact ⟨by simp, by simp⟩
  | bracketCharacter mode noOpener noCloser =>
      refine before.inside mode mode rfl (started mode) (before.depth_pos_iff.mpr mode) ?_
      simp [noOpener, noCloser]
  | separate mode | collect mode | openArray mode | openParenthesis mode | closeArray mode
    | closeParenthesis mode | unbalancedArray mode | unbalancedParenthesis mode
    | escapedQuote mode | textCharacter mode | escapedApostrophe mode | sheetPathCharacter mode
    | errorCodeCharacter mode =>
      have outside : state.mode ≠ .inside .bracketRange := by simp [mode]
      exact before.outside outside rfl outside
  | endText mode | endSheetPath mode | endErrorCode mode =>
      exact before.outside (by simp [mode]) rfl (by simp)

/-- No rule leaves a complete error code in the buffer. -/
theorem Rule.incomplete
    {state : State} {char : Char} {tail : List Char} {move : Move}
    (rule : Rule state char tail move)
    (mode : move.next.mode = .inside .errorCode) :
    move.next.buffer ∉ errorCodes := by
  cases rule with
  | errorCodeCharacter _ incomplete => exact incomplete
  | openLiteral _ opens =>
      cases opens with
      | errorCode =>
          show ['#'] ∉ errorCodes
          decide
      | _ => cases mode
  | _ => simp_all [Scan.separate, Scan.openBracketRange, Scan.openArray, Scan.openParenthesis,
      Scan.unbalanced]

/-! ## What was read -/

/-- The state that the scanner is in after it has read a text and left some entries. -/
structure Tracked (read : List Char) (entries : List Entry) (state : State) : Prop
    extends Scanned read entries state, Counted read state where
  /-- An error code ends as soon as it is complete. -/
  incomplete : state.mode = .inside .errorCode → state.buffer ∉ errorCodes

theorem tracked_initial : Tracked [] [] .initial where
  toScanned := scanned_initial
  toCounted := counted_initial
  incomplete := by simp [State.initial]

/-- The opener of a literal stands where the literal starts. -/
theorem Scanned.opener
    {read : List Char} {entries : List Entry} {state : State} {literal : Literal}
    (scanned : Scanned read entries state)
    (mode : state.mode = .inside literal) :
    read[state.literalStart]? = some literal.opener := by
  obtain ⟨slices, pending, _, rfl, before⟩ := scanned.spelled
  exact before.opener mode

theorem Scanned.literalStart_lt
    {read : List Char} {entries : List Entry} {state : State} {literal : Literal}
    (scanned : Scanned read entries state)
    (mode : state.mode = .inside literal) :
    state.literalStart < read.length :=
  (List.getElem?_eq_some_iff.mp (scanned.opener mode)).1

/-- What one step adds to what was read. -/
theorem Tracked.step
    {read : List Char} {entries : List Entry} {state : State}
    (tracked : Tracked read entries state)
    (char : Char) (tail : List Char) :
    Tracked
      (read ++ char :: tail.take (Scan.step state char tail).extra)
      (entries ++ (Scan.step state char tail).entries false)
      (Scan.step state char tail).next where
  toScanned := tracked.toScanned.step char tail
  toCounted := by
    have started (mode : state.mode = .inside .bracketRange) :
        state.literalStart ≤ read.length :=
      Nat.le_of_lt (tracked.toScanned.literalStart_lt mode)
    have counted := (stepMode_rule state char tail).counted tracked.toCounted
      tracked.position started
    -- the position does not count
    exact ⟨counted.depth_pos_iff, counted.depth_add_count⟩
  incomplete := (stepMode_rule state char tail).incomplete

/-- What a run adds to what was read. -/
theorem Reads.tracked
    {state final : State} {remaining rest : List Char} {moves : List Move}
    (run : Reads state remaining moves final rest)
    {read : List Char} {entries : List Entry}
    (before : Tracked read entries state) :
    ∃ more, remaining = more ++ rest ∧
      Tracked (read ++ more) (entries ++ Scan.entries false moves) final :=
  run.preserves Tracked (fun tracked => tracked.step) before

/-! ## Consistent states -/

/-- The part of a text from one place up to another. -/
def slice (text : List Char) (first last : Nat) : List Char :=
  (text.take last).drop first

/-- What the fields of the state tell of the text that is scanned. -/
structure Consistent (text : List Char) (state : State) : Prop where
  position_le : state.position ≤ text.length
  /-- A literal starts with its opener, which has been read. -/
  opener : ∀ literal, state.mode = .inside literal →
    state.literalStart < state.position ∧
      text[state.literalStart]? = some literal.opener
  depth_pos_iff : 0 < state.bracketDepth ↔ state.mode = .inside .bracketRange
  depth_eq : state.mode = .inside .bracketRange →
    (state.bracketDepth : Int) =
      ((slice text state.literalStart state.position).count '[' : Int) -
        (slice text state.literalStart state.position).count ']'
  buffer_errorCode : state.mode = .inside .errorCode →
    state.buffer = slice text state.literalStart state.position ∧ state.buffer ∉ errorCodes
  buffer_text : state.mode = .inside .text →
    state.buffer = Text.undoubled '"' (slice text (state.literalStart + 1) state.position)
  buffer_sheetPath : state.mode = .inside .sheetPath →
    state.buffer =
      '\'' :: Text.undoubled '\'' (slice text (state.literalStart + 1) state.position)

/-- The buffer of an error code is what was read of it. -/
theorem Scanned.buffer_errorCode
    {read : List Char} {entries : List Entry} {state : State}
    (scanned : Scanned read entries state)
    (mode : state.mode = .inside .errorCode) :
    state.buffer = read.drop state.literalStart := by
  obtain ⟨slices, pending, _, rfl, before⟩ := scanned.spelled
  simp only [Pending, mode] at before
  obtain ⟨started, rfl, _⟩ := before
  rw [started, List.drop_left]

/-- The buffer of a string is what was read behind the first quote, with pairs written once. -/
theorem Scanned.buffer_text
    {read : List Char} {entries : List Entry} {state : State}
    (scanned : Scanned read entries state)
    (mode : state.mode = .inside .text) :
    state.buffer = Text.undoubled '"' (read.drop (state.literalStart + 1)) := by
  obtain ⟨slices, pending, _, rfl, before⟩ := scanned.spelled
  simp only [Pending, mode] at before
  obtain ⟨started, rfl⟩ := before
  rw [started, List.append_cons, List.drop_left' (by simp), Text.undoubled_doubled]

theorem Scanned.buffer_sheetPath
    {read : List Char} {entries : List Entry} {state : State}
    (scanned : Scanned read entries state)
    (mode : state.mode = .inside .sheetPath) :
    state.buffer = '\'' :: Text.undoubled '\'' (read.drop (state.literalStart + 1)) := by
  obtain ⟨slices, pending, _, rfl, before⟩ := scanned.spelled
  simp only [Pending, mode] at before
  obtain ⟨started, name, buffer, rfl⟩ := before
  rw [buffer, started, List.append_cons, List.drop_left' (by simp), Text.undoubled_doubled]

/-- The state behind a beginning of a text is consistent with the text. -/
theorem Tracked.consistent
    {read rest : List Char} {entries : List Entry} {state : State}
    (tracked : Tracked read entries state) :
    Consistent (read ++ rest) state := by
  have slice_eq (first : Nat) : slice (read ++ rest) first state.position = read.drop first := by
    rw [slice, tracked.position, List.take_left]
  constructor
  · rw [tracked.position, List.length_append]
    exact Nat.le_add_right _ _
  · intro literal mode
    have started := tracked.toScanned.literalStart_lt mode
    rw [tracked.position, List.getElem?_append_left started]
    exact ⟨started, tracked.toScanned.opener mode⟩
  · exact tracked.depth_pos_iff
  · intro mode
    have sum := tracked.depth_add_count mode
    rw [slice_eq]
    omega
  · intro mode
    rw [slice_eq]
    exact ⟨tracked.toScanned.buffer_errorCode mode, tracked.incomplete mode⟩
  · intro mode
    rw [slice_eq]
    exact tracked.toScanned.buffer_text mode
  · intro mode
    rw [slice_eq]
    exact tracked.toScanned.buffer_sheetPath mode

/-! ## Interrupted scans -/

/-- A run is interrupted after any of its moves. -/
theorem Reads.split
    {state final : State} {text rest : List Char} {first second : List Move}
    (run : Reads state text (first ++ second) final rest) :
    ∃ between,
      Reads state text first (lastState state first) between ∧
        Reads (lastState state first) between second final rest := by
  induction first generalizing state text with
  | nil => exact ⟨text, .done, run⟩
  | cons move others ih =>
      rw [lastState_cons]
      cases run with
      | move later =>
          obtain ⟨between, before, after⟩ := ih later
          exact ⟨between, .move before, after⟩

theorem reading_isPrefix_lenient (isStrict : Bool) (state : State) (text : List Char) :
    reading isStrict state text <+: reading false state text := by
  cases isStrict with
  | false => exact List.prefix_rfl
  | true =>
      rw [reading_strict]
      exact throughFirst_isPrefix Move.departs _

/-- A scan that does not stop makes all the moves of a lenient one. -/
theorem reading_eq_lenient
    {isStrict : Bool} {state : State} {text : List Char}
    (goesOn : (reading isStrict state text).any (Move.stops isStrict) = false) :
    reading isStrict state text = reading false state text := by
  cases isStrict with
  | false => rfl
  | true =>
      have stops : Move.stops true = Move.departs := rfl
      rw [stops, reading_strict, any_throughFirst] at goesOn
      rw [reading_strict, throughFirst_of_none _ goesOn]

/-- After some moves of a scan, the scanner stands behind what they read. -/
theorem exists_tracked
    {isStrict : Bool} {text : List Char} {made later : List Move}
    (begins : made ++ later <+: reading isStrict .initial text) :
    ∃ read rest final behind,
      text = read ++ rest ∧ Tracked read (entries false made) (lastState .initial made) ∧
        Reads (lastState .initial made) rest later final behind := by
  obtain ⟨others, split⟩ := begins.trans (reading_isPrefix_lenient isStrict .initial text)
  have run := reads_finalState text
  rw [← split] at run
  obtain ⟨behind, whole, -⟩ := run.split
  obtain ⟨rest, before, after⟩ := whole.split
  obtain ⟨read, textSplit, tracked⟩ := before.tracked tracked_initial
  exact ⟨read, rest, _, behind, textSplit, by simpa using tracked, after⟩

/-- A step reads on from the position and moves it. -/
theorem exists_step_of_isPrefix
    {isStrict : Bool} {text : List Char} {made : List Move} {move : Move}
    (begins : made ++ [move] <+: reading isStrict .initial text) :
    ∃ char tail,
      text.drop (lastState .initial made).position = char :: tail ∧
        move = step (lastState .initial made) char tail := by
  obtain ⟨read, rest, final, behind, rfl, tracked, run⟩ := exists_tracked begins
  cases run with
  | @move _ _ char tail _ _ later =>
      refine ⟨char, tail, ?_, rfl⟩
      rw [tracked.position, List.drop_left]

theorem position_lt_step (state : State) (char : Char) (tail : List Char) :
    state.position < (step state char tail).next.position := by
  have moved : (step state char tail).next.position =
      state.position + 1 + (step state char tail).extra := rfl
  omega

theorem consistent_of_isPrefix
    {isStrict : Bool} {text : List Char} {made : List Move}
    (begins : made <+: reading isStrict .initial text) :
    Consistent text (lastState .initial made) := by
  rw [← List.append_nil made] at begins
  obtain ⟨read, rest, _, _, rfl, tracked, -⟩ := exists_tracked begins
  exact tracked.consistent

/-- A scan that does not stop reads the whole text. -/
theorem position_lastState
    {isStrict : Bool} {text : List Char}
    (goesOn : (reading isStrict .initial text).any (Move.stops isStrict) = false) :
    (lastState .initial (reading isStrict .initial text)).position = text.length := by
  rw [reading_eq_lenient goesOn]
  exact (scanned_finalState text).position

/--
In both ways of scanning, the state is consistent with the text between any two
steps.  Each step reads on from the position and moves it, so there are at most
as many steps as characters; if no step stops the scan, the whole text is read.
Every token that is left has a subkind that its kind allows, so the check of
subkinds does not fail.
-/
theorem reading_consistent (isStrict : Bool) (text : List Char) :
    (∀ made, made <+: reading isStrict .initial text →
        Consistent text (lastState .initial made)) ∧
      (∀ made move, made ++ [move] <+: reading isStrict .initial text →
        (lastState .initial made).position < move.next.position ∧
          ∃ char tail,
            text.drop (lastState .initial made).position = char :: tail ∧
              move = step (lastState .initial made) char tail) ∧
      (∀ token, some token ∈ entries isStrict (moves isStrict text) →
        token.IsLawful ∧ Token.make token.kind token.value token.subkind = .ok token) ∧
      (reading isStrict .initial text).length ≤ text.length ∧
      ((reading isStrict .initial text).any (Move.stops isStrict) = false →
        (lastState .initial (reading isStrict .initial text)).position = text.length) := by
  refine ⟨fun made => consistent_of_isPrefix, ?_, ?_, ?_, position_lastState⟩
  · intro made move begins
    obtain ⟨char, tail, remaining, rfl⟩ := exists_step_of_isPrefix begins
    exact ⟨position_lt_step _ char tail, char, tail, remaining, rfl⟩
  · intro token left
    have lawful := lawful_entries List.prefix_rfl token left
    exact ⟨lawful, lawful.make_eq⟩
  · have shorter := (reading_isPrefix_lenient isStrict .initial text).length_le
    have bounded := (reads_finalState text).length_le
    exact Nat.le_trans shorter (Nat.le_trans (Nat.le_add_right _ _) bounded)

/-- A call with a bracketed range in it, which has a bracket inside and is left open. -/
def bracketText : List Char := "F([[a]".toList

theorem reading_consistent_bracketText :
    (lastState .initial (reading false .initial bracketText)).mode = .inside .bracketRange ∧
      Consistent bracketText (lastState .initial (reading false .initial bracketText)) ∧
      State.initial.position < (step .initial 'F' bracketText.tail).next.position ∧
      Token.make .function ['F'] (some .start) = .ok ⟨.function, ['F'], some .start⟩ ∧
      (lastState .initial (reading false .initial bracketText)).position = 6 := by
  rcases reading_consistent false bracketText with ⟨consistent, progress, lawful, -, whole⟩
  have first :
      [] ++ [step .initial 'F' bracketText.tail] <+: reading false .initial bracketText := by
    decide +kernel
  have left : some ⟨.function, ['F'], some .start⟩ ∈ entries false (moves false bracketText) := by
    decide +kernel
  have goesOn : (reading false .initial bracketText).any (Move.stops false) = false := by
    simp
  exact ⟨by decide +kernel, consistent _ List.prefix_rfl, (progress _ _ first).1,
    (lawful _ left).2, whole goesOn⟩

end Scan

end SheetFormula
