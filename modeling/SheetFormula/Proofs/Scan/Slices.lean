import SheetFormula.Proofs.Scan.Reading
import SheetFormula.Proofs.Scan.Rules
import SheetFormula.Text.Pieces

/-!
# The slices of a scanned text

Every entry of a lenient scan stands for a slice of the text.  `Spells` says
what the slice of a token looks like, and `Spelling` puts the slices of a list
of entries together; the entries of an array literal come in pairs.

What was read but has not become an entry yet is pending.  The state of the
scanner is determined by the pending text up to the quotes written twice
(`Pending`).  Every step keeps this up, so a whole scan loses and invents
nothing: the slices of its entries, one after the other, are the text.
-/

namespace SheetFormula.Scan

/-! ## Spelling of tokens -/

/--
A slice and the text it stands for.  Inside a quoted section at its very
beginning a quote is written twice; everywhere else the two are the same.
-/
inductive Unescapes : List Char → List Char → Prop where
  | plain {slice : List Char}
      (unquoted : slice.head? ≠ some '\'') :
      Unescapes slice slice
  | quoted {name rest : List Char}
      (ends : rest.head? ≠ some '\'') :
      Unescapes
        ('\'' :: Text.doubled '\'' name ++ '\'' :: rest)
        ('\'' :: name ++ '\'' :: rest)

/-- A slice of a text and the token it stands for. -/
inductive Spells : List Char → Token → Prop where
  | blank {count : Nat} :
      Spells (List.replicate (count + 1) ' ') ⟨.blank, [' '], none⟩
  | symbol {kind : Kind} {value : List Char} {subkind : Option Subkind}
      (isSymbol : kind = .infixOp ∨ kind = .postfixOp ∨ kind = .argument) :
      Spells value ⟨kind, value, subkind⟩
  | errorCode {code : List Char}
      (known : code ∈ errorCodes) :
      Spells code ⟨.operand, code, some .error⟩
  | text {value : List Char} :
      Spells ('"' :: Text.doubled '"' value ++ ['"']) ⟨.operand, value, some .text⟩
  | operand {slice value : List Char}
      (nonempty : slice ≠ [])
      (unescapes : Unescapes slice value) :
      Spells slice ⟨.operand, value, none⟩
  | unknown {slice value : List Char}
      (nonempty : slice ≠ [])
      (unescapes : Unescapes slice value) :
      Spells slice ⟨.unknown, value, none⟩
  | call {name value : List Char}
      (nonempty : name ≠ [])
      (unescapes : Unescapes name value) :
      Spells (name ++ ['(']) ⟨.function, value, some .start⟩
  | subexpression :
      Spells ['('] ⟨.subexpression, [], some .start⟩
  | parenthesisStop {kind : Kind} :
      Spells [')'] ⟨kind, [], some .stop⟩
  | unbalanced {closer : Char}
      (isCloser : closer = ')' ∨ closer = '}') :
      Spells [closer] ⟨.unknown, [closer], none⟩
  | openText {value : List Char} :
      Spells ('"' :: Text.doubled '"' value) ⟨.unknown, '"' :: Text.doubled '"' value, none⟩
  | openSheetPath {name : List Char} :
      Spells ('\'' :: Text.doubled '\'' name) ⟨.unknown, '\'' :: Text.doubled '\'' name, none⟩

/--
Slices and the entries they stand for, in order.  A brace stands for two
entries, one of which has an empty slice; the wrapper that a closing brace
ends can be missing.
-/
inductive Spelling : List (List Char) → List Entry → Prop where
  | nil : Spelling [] []
  | token
      {slice : List Char} {token : Token}
      {slices : List (List Char)} {entries : List Entry}
      (spells : Spells slice token)
      (later : Spelling slices entries) :
      Spelling (slice :: slices) (some token :: entries)
  | arrayStart
      {slices : List (List Char)} {entries : List Entry}
      (later : Spelling slices entries) :
      Spelling ([] :: ['{'] :: slices)
        (some ⟨.function, arrayText, some .start⟩ ::
          some ⟨.function, arrayRowText, some .start⟩ :: entries)
  | arrayStop
      {wrapper : Option Kind}
      {slices : List (List Char)} {entries : List Entry}
      (later : Spelling slices entries) :
      Spelling (['}'] :: [] :: slices)
        (some ⟨.function, arrayRowStopText, some .stop⟩ ::
          (wrapper.map fun kind => ⟨kind, arrayStopText, some .stop⟩) :: entries)

theorem Spelling.append
    {slices later : List (List Char)} {entries following : List Entry}
    (first : Spelling slices entries)
    (second : Spelling later following) :
    Spelling (slices ++ later) (entries ++ following) := by
  induction first with
  | nil => exact second
  | token spells _ ih => exact .token spells ih
  | arrayStart _ ih => exact .arrayStart ih
  | arrayStop _ ih => exact .arrayStop ih

theorem Spells.spelling
    {slice : List Char} {token : Token}
    (spells : Spells slice token) :
    Spelling [slice] [some token] :=
  .token spells .nil

theorem unescapes_nil : Unescapes [] [] :=
  .plain (by simp)

/-- Behind a character that is no quote, what follows is taken as it is. -/
theorem Unescapes.append
    {slice value : List Char}
    (unescapes : Unescapes slice value)
    {char : Char}
    (noQuote : char ≠ '\'')
    (rest : List Char) :
    Unescapes (slice ++ char :: rest) (value ++ char :: rest) := by
  cases unescapes with
  | plain unquoted =>
      apply Unescapes.plain
      cases slice with
      | nil => simpa using noQuote
      | cons first others => simpa using unquoted
  | @quoted name remainder ends =>
      have stillEnds : (remainder ++ char :: rest).head? ≠ some '\'' := by
        cases remainder with
        | nil => simpa using noQuote
        | cons first others => simpa using ends
      simpa using Unescapes.quoted stillEnds

theorem Unescapes.eq_nil_iff
    {slice value : List Char}
    (unescapes : Unescapes slice value) :
    slice = [] ↔ value = [] := by
  cases unescapes <;> simp

theorem Unescapes.eq_of_unquoted
    {slice value : List Char}
    (unescapes : Unescapes slice value)
    (unquoted : value.head? ≠ some '\'') :
    slice = value := by
  cases unescapes with
  | plain => rfl
  | quoted => simp at unquoted

/-! ## Pending text -/

/--
The state of the scanner after it has read a text that has not become an entry
yet.  The pending text begins at the given position.
-/
def Pending (state : State) (start : Nat) (pending : List Char) : Prop :=
  match state.mode with
  | .normal => Unescapes pending state.buffer
  | .inside .text =>
      state.literalStart = start ∧ pending = '"' :: Text.doubled '"' state.buffer
  | .inside .sheetPath =>
      state.literalStart = start ∧
        ∃ name, state.buffer = '\'' :: name ∧ pending = '\'' :: Text.doubled '\'' name
  | .inside .bracketRange =>
      ∃ before value inner,
        Unescapes before value ∧
          state.literalStart = start + before.length ∧
          pending = before ++ '[' :: inner ∧
          state.buffer = value ++ '[' :: inner
  | .inside .errorCode =>
      state.literalStart = start ∧ pending = state.buffer ∧ pending.head? = some '#'

theorem pending_initial : Pending .initial 0 [] :=
  unescapes_nil

theorem pending_normal_iff
    {state : State} (mode : state.mode = .normal) (start : Nat) (pending : List Char) :
    Pending state start pending ↔ Unescapes pending state.buffer := by
  simp [Pending, mode]

/-- A buffer that is flushed has the pending text as its slice. -/
theorem State.flush_spelling
    {state : State} {pending : List Char} {kind : Kind}
    (unescapes : Unescapes pending state.buffer)
    (isWord : kind = .operand ∨ kind = .unknown) :
    ∃ slices, Spelling slices (state.flush kind) ∧ slices.flatten = pending := by
  by_cases empty : pending = []
  · have noBuffer : state.buffer = [] := unescapes.eq_nil_iff.mp empty
    exact ⟨[], by simpa [State.flush, noBuffer] using Spelling.nil, by simp [empty]⟩
  · have buffered : state.buffer ≠ [] := fun none => empty (unescapes.eq_nil_iff.mpr none)
    refine ⟨[pending], ?_, by simp⟩
    rcases isWord with rfl | rfl
    · simpa [State.flush, buffered] using (Spells.operand empty unescapes).spelling
    · simpa [State.flush, buffered] using (Spells.unknown empty unescapes).spelling

/-! ## What a step does to the pending text -/

/--
The entries of a move and the text that is pending behind it make up the text
that was pending before it and the text the move read.
-/
def Move.Covers (move : Move) (start : Nat) (text : List Char) : Prop :=
  ∃ slices later,
    Spelling slices (move.emitted ++ move.recovered) ∧
      text = slices.flatten ++ later ∧
      Pending move.next (start + slices.flatten.length) later

/-- A delimiter that is a token has the characters it is made of as its slice. -/
theorem Separates.spells
    {nesting : Nesting} {char : Char} {tail : List Char} {token : Token} {extra : Nat}
    (separates : Separates nesting char tail token extra) :
    Spells (char :: tail.take extra) token := by
  cases separates with
  | @pair _ _ pair found =>
      have slice : char :: tail.take 1 = pair := by
        unfold pairOperator? at found
        split at found <;> simp_all
      rw [slice]
      exact .symbol (.inl rfl)
  | rowSeparator => exact .symbol (.inr (.inr rfl))
  | blank =>
      rw [take_spaces, ← List.replicate_succ]
      exact .blank
  | percent => exact .symbol (.inr (.inl rfl))
  | comma =>
      unfold commaToken
      split
      · exact .symbol (.inr (.inr rfl))
      · exact .symbol (.inl rfl)
  | operator => exact .symbol (.inl rfl)

/-- A step that flushes the buffer and spells what it read leaves nothing pending. -/
theorem Move.covers_of_flush
    {state : State} {move : Move} {kind : Kind}
    {start : Nat} {pending : List Char}
    {slices : List (List Char)} {entries : List Entry}
    (unescapes : Unescapes pending state.buffer)
    (isWord : kind = .operand ∨ kind = .unknown)
    (made : move.emitted ++ move.recovered = state.flush kind ++ entries)
    (spelled : Spelling slices entries)
    (mode : move.next.mode = .normal)
    (cleared : move.next.buffer = []) :
    move.Covers start (pending ++ slices.flatten) := by
  obtain ⟨flushedSlices, flushed, flat⟩ := state.flush_spelling unescapes isWord
  refine ⟨flushedSlices ++ slices, [], ?_, by simp [flat], ?_⟩
  · rw [made]
    exact flushed.append spelled
  · simpa [Pending, mode, cleared] using unescapes_nil

/-- Outside literals no step loses text. -/
theorem Rule.covers_of_normal
    {state : State} {char : Char} {tail : List Char} {move : Move}
    {start : Nat} {pending : List Char}
    (rule : Rule state char tail move)
    (mode : state.mode = .normal)
    (unescapes : Unescapes pending state.buffer)
    (place : state.position = start + pending.length) :
    move.Covers start (pending ++ char :: tail.take move.extra) := by
  cases rule with
  | collect _ plain =>
      have noQuote : char ≠ '\'' := by
        rintro rfl
        simp [isDelimiter] at plain
      refine ⟨[], pending ++ [char], .nil, by simp, ?_⟩
      simpa [Pending, mode] using unescapes.append noQuote []
  | separate _ _ separates =>
      simpa using Move.covers_of_flush unescapes (.inl rfl) (by simp [Scan.separate])
        separates.spells.spelling mode rfl
  | openLiteral _ opens =>
      obtain ⟨slices, flushed, flat⟩ := state.flush_spelling unescapes (.inr rfl)
      refine ⟨slices, [char], by simpa [Scan.openLiteral] using flushed, ?_, ?_⟩
      · simp [flat, Scan.openLiteral]
      · cases opens <;> simp [Pending, Scan.openLiteral, place, flat]
  | openBracketRange =>
      refine ⟨[], pending ++ ['['], .nil, by simp [Scan.openBracketRange], ?_⟩
      exact ⟨pending, state.buffer, [], unescapes, place, rfl, rfl⟩
  | openArray =>
      simpa [Scan.openArray] using
        Move.covers_of_flush unescapes (.inr rfl) (by simp)
          (.arrayStart .nil) mode rfl
  | openParenthesis =>
      refine ⟨[pending ++ ['(']], [], ?_, by simp [Scan.openParenthesis], ?_⟩
      · by_cases empty : pending = []
        · have noBuffer : state.buffer = [] := unescapes.eq_nil_iff.mp empty
          simpa [Scan.openParenthesis, noBuffer, empty] using
            Spells.subexpression.spelling
        · have buffered : state.buffer ≠ [] := fun none =>
            empty (unescapes.eq_nil_iff.mpr none)
          simpa [Scan.openParenthesis, buffered] using
            (Spells.call empty unescapes).spelling
      · simpa [Pending, mode, Scan.openParenthesis] using unescapes_nil
  | @closeArray _ row outer _ nesting isRow =>
      have rowKind : row.kind = .function := by
        simp only [Token.isArrayRow, Bool.and_eq_true, beq_iff_eq] at isRow
        exact isRow.1
      have stops :
          Spelling [['}'], []]
            [some (Nesting.stopFor row arrayRowStopText),
              outer.head?.map fun wrapper => Nesting.stopFor wrapper arrayStopText] := by
        have spelled := @Spelling.arrayStop (outer.head?.map Token.kind) _ _ .nil
        simpa [Nesting.stopFor, rowKind, Function.comp_def] using spelled
      simpa using Move.covers_of_flush unescapes (.inl rfl) (by simp) stops mode rfl
  | @closeParenthesis _ opener outer =>
      have stop : Spells [')'] (Nesting.stopFor opener []) := .parenthesisStop
      simpa using Move.covers_of_flush unescapes (.inl rfl) (by simp) stop.spelling mode rfl
  | unbalancedArray =>
      simpa [Scan.unbalanced] using
        Move.covers_of_flush unescapes (.inl rfl) (by simp)
          (Spells.unbalanced (.inr rfl)).spelling mode rfl
  | unbalancedParenthesis =>
      simpa [Scan.unbalanced] using
        Move.covers_of_flush unescapes (.inl rfl) (by simp)
          (Spells.unbalanced (.inl rfl)).spelling mode rfl
  | _ => simp_all

/-- In a bracketed range every character is pending as it is. -/
theorem Pending.collect_bracketRange
    {state next : State} {start : Nat} {pending : List Char} {char : Char}
    (before : Pending state start pending)
    (mode : state.mode = .inside .bracketRange)
    (nextMode : next.mode = .inside .bracketRange)
    (nextStart : next.literalStart = state.literalStart)
    (nextBuffer : next.buffer = state.buffer ++ [char]) :
    Pending next start (pending ++ [char]) := by
  simp only [Pending, mode] at before
  obtain ⟨first, value, inner, unescapes, opened, rfl, buffer⟩ := before
  simp only [Pending, nextMode]
  exact ⟨first, value, inner ++ [char], unescapes, nextStart.trans opened,
    by simp, by simp [nextBuffer, buffer]⟩

/-- Inside a literal everything stays pending until the literal ends. -/
theorem Rule.covers_of_literal
    {state : State} {char : Char} {tail : List Char} {move : Move} {literal : Literal}
    {start : Nat} {pending : List Char}
    (rule : Rule state char tail move)
    (mode : state.mode = .inside literal)
    (before : Pending state start pending) :
    move.Covers start (pending ++ char :: tail.take move.extra) := by
  cases rule with
  | escapedQuote isText =>
      simp only [Pending, isText] at before
      obtain ⟨opened, rfl⟩ := before
      exact ⟨[], _, .nil, rfl, by simpa [Pending, isText] using opened⟩
  | endText isText =>
      simp only [Pending, isText] at before
      obtain ⟨opened, rfl⟩ := before
      exact ⟨[_], [], Spells.text.spelling, by simp, by simpa [Pending] using unescapes_nil⟩
  | textCharacter isText noQuote =>
      simp only [Pending, isText] at before
      obtain ⟨opened, rfl⟩ := before
      exact ⟨[], _, .nil, rfl, by
        simpa [Pending, isText, Text.doubled_of_ne noQuote] using opened⟩
  | escapedApostrophe isPath =>
      simp only [Pending, isPath] at before
      obtain ⟨opened, name, buffer, rfl⟩ := before
      refine ⟨[], _, .nil, rfl, ?_⟩
      simpa [Pending, isPath, buffer] using opened
  | endSheetPath isPath =>
      simp only [Pending, isPath] at before
      obtain ⟨opened, name, buffer, rfl⟩ := before
      refine ⟨[], _, .nil, rfl, ?_⟩
      have closed : Unescapes ('\'' :: Text.doubled '\'' name ++ ['\''])
          ('\'' :: name ++ ['\'']) := .quoted (by simp)
      simpa [Pending, buffer] using closed
  | sheetPathCharacter isPath noQuote =>
      simp only [Pending, isPath] at before
      obtain ⟨opened, name, buffer, rfl⟩ := before
      refine ⟨[], _, .nil, rfl, ?_⟩
      simpa [Pending, isPath, buffer, Text.doubled_of_ne noQuote] using opened
  | innerBracket isRange =>
      exact ⟨[], _, .nil, rfl, before.collect_bracketRange isRange isRange rfl rfl⟩
  | endInnerBracket isRange inner =>
      exact ⟨[], _, .nil, rfl, before.collect_bracketRange isRange isRange rfl rfl⟩
  | endBracketRange isRange outermost =>
      simp only [Pending, isRange] at before
      obtain ⟨first, value, inner, unescapes, opened, rfl, buffer⟩ := before
      refine ⟨[], _, .nil, rfl, ?_⟩
      have closed := unescapes.append (by decide : '[' ≠ '\'') (inner ++ [']'])
      simpa [Pending, buffer] using closed
  | bracketCharacter isRange noOpener noCloser =>
      exact ⟨[], _, .nil, rfl, before.collect_bracketRange isRange isRange rfl rfl⟩
  | endErrorCode isCode complete =>
      simp only [Pending, isCode] at before
      obtain ⟨opened, rfl, head⟩ := before
      exact ⟨[_], [], (Spells.errorCode complete).spelling, by simp,
        by simpa [Pending] using unescapes_nil⟩
  | errorCodeCharacter isCode incomplete =>
      simp only [Pending, isCode] at before
      obtain ⟨opened, rfl, head⟩ := before
      refine ⟨[], _, .nil, rfl, ?_⟩
      have stillHead : (state.buffer ++ [char]).head? = some '#' := by
        simp [List.head?_append, head]
      simpa [Pending, isCode, stillHead] using opened
  | _ => simp_all

/-- No rule reads beyond the end of the text. -/
theorem Rule.extra_le
    {state : State} {char : Char} {tail : List Char} {move : Move}
    (rule : Rule state char tail move) :
    move.extra ≤ tail.length := by
  cases rule with
  | separate _ _ separates =>
      cases separates with
      | pair found =>
          cases tail with
          | nil => simp [pairOperator?] at found
          | cons second rest => simp
      | blank => exact (List.takeWhile_prefix _).length_le
      | _ => exact Nat.zero_le _
  | escapedQuote => simp
  | escapedApostrophe => simp
  | _ => exact Nat.zero_le _

/-- No step loses text. -/
theorem step_covers
    {state : State} {start : Nat} {pending : List Char}
    (char : Char) (tail : List Char)
    (before : Pending state start pending)
    (place : state.position = start + pending.length) :
    (step state char tail).Covers start
      (pending ++ char :: tail.take (step state char tail).extra) := by
  have rule := stepMode_rule state char tail
  have covers :
      (stepMode state char tail).Covers start
        (pending ++ char :: tail.take (stepMode state char tail).extra) := by
    cases mode : state.mode with
    | normal =>
        exact rule.covers_of_normal mode ((pending_normal_iff mode _ _).mp before) place
    | inside literal => exact rule.covers_of_literal mode before
  -- the position is no part of what is pending
  exact covers

/-! ## Whole scans -/

/--
A text that has been read, the entries it has become and the state behind it.
-/
structure Scanned (text : List Char) (entries : List Entry) (state : State) : Prop where
  /-- The text is made of the slices of the entries and what is pending. -/
  spelled :
    ∃ slices pending,
      Spelling slices entries ∧
        text = slices.flatten ++ pending ∧
        Pending state slices.flatten.length pending
  /-- The scanner stands behind the text. -/
  position : state.position = text.length

theorem scanned_initial : Scanned [] [] .initial where
  spelled := ⟨[], [], .nil, rfl, pending_initial⟩
  position := rfl

/-- What one step adds to a scanned text. -/
theorem Scanned.step
    {text : List Char} {entries : List Entry} {state : State}
    (scanned : Scanned text entries state)
    (char : Char) (tail : List Char) :
    Scanned
      (text ++ char :: tail.take (Scan.step state char tail).extra)
      (entries ++ (Scan.step state char tail).entries false)
      (Scan.step state char tail).next where
  spelled := by
    obtain ⟨slices, pending, spelling, rfl, before⟩ := scanned.spelled
    have place : state.position = slices.flatten.length + pending.length := by
      simpa using scanned.position
    obtain ⟨made, later, spelled, covered, after⟩ := step_covers char tail before place
    refine ⟨slices ++ made, later, spelling.append spelled, ?_, by simpa using after⟩
    simp only [List.append_assoc, List.flatten_append, covered]
  position := by
    have bound : (Scan.step state char tail).extra ≤ tail.length :=
      (stepMode_rule state char tail).extra_le
    have moved : (Scan.step state char tail).next.position =
        state.position + 1 + (Scan.step state char tail).extra := rfl
    simp only [moved, scanned.position, List.length_append, List.length_cons,
      List.length_take]
    omega

/-- Outside literals a buffer that begins with no quote is the end of the text. -/
theorem Scanned.ends_in_buffer
    {text : List Char} {entries : List Entry} {state : State}
    (scanned : Scanned text entries state)
    (mode : state.mode = .normal)
    (unquoted : state.buffer.head? ≠ some '\'') :
    ∃ earlier, text = earlier ++ state.buffer := by
  obtain ⟨slices, pending, _, rfl, before⟩ := scanned.spelled
  have unescapes := (pending_normal_iff mode _ _).mp before
  exact ⟨slices.flatten, by rw [unescapes.eq_of_unquoted unquoted]⟩

/-- What a run adds to a scanned text. -/
theorem Reads.scanned
    {state final : State} {remaining rest : List Char} {moves : List Move}
    (run : Reads state remaining moves final rest)
    {text : List Char} {entries : List Entry}
    (before : Scanned text entries state) :
    ∃ read, remaining = read ++ rest ∧
      Scanned (text ++ read) (entries ++ Scan.entries false moves) final :=
  run.preserves Scanned (fun scanned => scanned.step) before

/-- Before the end of a text, all of it has been read. -/
theorem scanned_finalState (text : List Char) :
    Scanned text (entries false (reading false .initial text)) (finalState text) := by
  obtain ⟨read, split, scanned⟩ := (reads_finalState text).scanned scanned_initial
  simp only [List.append_nil] at split
  subst split
  simpa using scanned

/-- At the end of a text, what is pending becomes an entry. -/
theorem closeLiteral_spelling
    {text done pending : List Char} {state : State}
    (split : text = done ++ pending)
    (before : Pending state done.length pending) :
    ∃ slices,
      Spelling slices ((closeLiteral text state).entries false) ∧
        slices.flatten = pending := by
  unfold closeLiteral
  split
  · next mode =>
      have unescapes := (pending_normal_iff mode _ _).mp before
      simpa [Move.entries] using state.flush_spelling unescapes (.inl rfl)
  · next literal mode =>
      have kept : text.drop done.length = pending := by simp [split]
      refine ⟨[pending], ?_, by simp⟩
      cases literal with
      | text =>
          simp only [Pending, mode] at before
          obtain ⟨opened, rfl⟩ := before
          simpa [Move.entries, opened, kept] using Spells.openText.spelling
      | sheetPath =>
          simp only [Pending, mode] at before
          obtain ⟨opened, name, _, rfl⟩ := before
          simpa [Move.entries, opened, kept] using Spells.openSheetPath.spelling
      | bracketRange =>
          simp only [Pending, mode] at before
          obtain ⟨first, value, inner, unescapes, _, rfl, buffer⟩ := before
          have whole := unescapes.append (by decide : '[' ≠ '\'') inner
          simpa [Move.entries, buffer] using (Spells.unknown (by simp) whole).spelling
      | errorCode =>
          simp only [Pending, mode] at before
          obtain ⟨_, rfl, head⟩ := before
          have nonempty : state.buffer ≠ [] := by
            rintro empty
            simp [empty] at head
          have plain : Unescapes state.buffer state.buffer := .plain (by simp [head])
          simpa [Move.entries] using (Spells.unknown nonempty plain).spelling

/--
A lenient scan loses and invents nothing: every text is the concatenation of
slices, one for each entry and in the same order, that spell the entries.
-/
theorem lenient_spelling (text : List Char) :
    ∃ slices, Spelling slices (lenient text).entries ∧ slices.flatten = text := by
  obtain ⟨slices, pending, spelling, split, before⟩ := (scanned_finalState text).spelled
  obtain ⟨last, ending, flat⟩ := closeLiteral_spelling split before
  refine ⟨slices ++ last, ?_, by rw [List.flatten_append, flat, ← split]⟩
  have noEntries :
      (closeGroups text (closeLiteral text (finalState text)).next).entries false = [] := by
    unfold closeGroups
    split <;> rfl
  simpa [lenient, moves_lenient, noEntries] using spelling.append ending

end SheetFormula.Scan
