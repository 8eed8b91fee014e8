import SheetFormula.Proofs.RoundTrip.Writing
import SheetFormula.Proofs.Scan.Departures

/-!
# Scanning placed items

The scanner reads the text of placed items back.  It leaves the tokens of each
lexeme as they are before classification, and a blank for each gap.

The argument goes from the end of the text to its beginning: `Yields` says
what is left of a text from a place outside literals on, and each lexeme adds
its tokens in front.  A word stays in the buffer until a delimiter comes, so
that it can only be read back before a delimiter that completes it.
-/

namespace SheetFormula.RoundTrip

open Scan

/-! ## What a text leaves -/

/-- A state outside literals with a given nesting and buffer. -/
structure Ready (nesting : Nesting) (buffer : List Char) (state : Scan.State) : Prop where
  mode : state.mode = .normal
  buffer : state.buffer = buffer
  nesting : state.nesting = nesting

/--
Outside literals, with a given nesting and buffer, a text is passed to its
end; it closes all groups and leaves the given tokens.
-/
def Yields (nesting : Nesting) (buffer text : List Char) (tokens : List Token) : Prop :=
  ∀ state, Ready nesting buffer state →
    ∃ made final,
      Passes state text made final [] ∧ final.mode = .normal ∧ final.nesting = [] ∧
        tokens.map some = made.map some ++ final.flush .operand

theorem yields_nil : Yields [] [] [] [] := by
  intro state ready
  refine ⟨[], state, .done, ready.mode, ready.nesting, ?_⟩
  simp [State.flush, ready.buffer]

/-- From the beginning of a text on, what it leaves is its scan. -/
theorem Yields.scan_eq
    {text : List Char} {tokens : List Token}
    (yields : Yields [] [] text tokens)
    (isStrict : Bool) :
    Scan.scan isStrict text = .ok (tokens.map some) := by
  rcases yields .initial ⟨rfl, rfl, rfl⟩ with ⟨made, final, passes, mode, closed, left⟩
  rw [passes.scan_eq mode closed isStrict, left]

/-- What is passed before a text adds its tokens in front. -/
theorem Yields.of_passes
    {nesting inner : Nesting} {buffer kept text rest : List Char} {tokens : List Token}
    (later : Yields inner kept rest tokens)
    (made : List Token)
    (passes : ∀ state, Ready nesting buffer state →
      ∃ final, Passes state text made final rest ∧ Ready inner kept final) :
    Yields nesting buffer text (made ++ tokens) := by
  intro state ready
  rcases passes state ready with ⟨middle, first, readyAgain⟩
  rcases later middle readyAgain with ⟨others, final, second, mode, closed, left⟩
  refine ⟨made ++ others, final, first.trans second, mode, closed, ?_⟩
  rw [List.map_append, List.map_append, left, List.append_assoc]

/-- One step without departure. -/
theorem passes_step
    {state : Scan.State} {char : Char} {tail rest : List Char} {move : Move}
    (made : List Token)
    (rule : Rule state char tail move)
    (remains : move.departure = none)
    (emits : move.emitted = made.map some)
    (drops : tail.drop move.extra = rest) :
    ∃ position, Passes state (char :: tail) made { move.next with position := position } rest := by
  obtain rfl := rule.stepMode_eq
  subst drops
  have passed := @Passes.move state _ char tail _ made [] remains emits .done
  rw [List.append_nil] at passed
  exact ⟨_, passed⟩

/-- One step without departure; the position of the next state does not matter. -/
theorem passes_of_rule
    {state : Scan.State} {char : Char} {tail rest : List Char} {move : Move}
    (made : List Token)
    (rule : Rule state char tail move)
    (remains : move.departure = none)
    (emits : move.emitted = made.map some)
    (drops : tail.drop move.extra = rest) :
    ∃ next,
      Passes state (char :: tail) made next rest ∧
        next.mode = move.next.mode ∧ next.buffer = move.next.buffer ∧
        next.nesting = move.next.nesting := by
  rcases passes_step made rule remains emits drops with ⟨position, passed⟩
  exact ⟨_, passed, rfl, rfl, rfl⟩

/-- A step by a rule adds its tokens in front. -/
theorem Yields.step
    {nesting inner : Nesting} {buffer kept tail rest : List Char} {char : Char}
    {tokens : List Token}
    (later : Yields inner kept rest tokens)
    (made : List Token)
    (moves : ∀ state, Ready nesting buffer state → ∃ move,
      Rule state char tail move ∧ move.departure = none ∧ move.emitted = made.map some ∧
        tail.drop move.extra = rest ∧ Ready inner kept move.next) :
    Yields nesting buffer (char :: tail) (made ++ tokens) := by
  apply later.of_passes made
  intro state ready
  rcases moves state ready with ⟨move, rule, remains, emits, drops, next⟩
  rcases passes_of_rule made rule remains emits drops with ⟨final, passed, mode, kept, inner⟩
  exact ⟨final, passed, mode.trans next.mode, kept.trans next.buffer, inner.trans next.nesting⟩

/-! ## Delimiters -/

/-- A delimiter behind an empty buffer adds its token in front. -/
theorem Yields.separates
    {nesting : Nesting} {char : Char} {tail rest : List Char} {token : Token} {extra : Nat}
    {tokens : List Token}
    (later : Yields nesting [] rest tokens)
    (separates : Separates nesting char tail token extra)
    (drops : tail.drop extra = rest) :
    Yields nesting [] (char :: tail) (token :: tokens) := by
  apply later.step [token]
  intro state ready
  have noSign : ¬((char = '+' ∨ char = '-') ∧ awaitsExponent state.buffer) := by
    simp [ready.buffer, awaitsExponent]
  have separated : Separates state.nesting char tail token extra := by
    rw [ready.nesting]
    exact separates
  refine ⟨_, .separate ready.mode noSign separated, rfl, ?_, drops, ready.mode, rfl,
    ready.nesting⟩
  simp [Scan.separate, State.flush, ready.buffer]

/-- Spaces add a blank in front. -/
theorem Yields.blank
    {nesting : Nesting} {rest : List Char} {tokens : List Token}
    (later : Yields nesting [] rest tokens)
    (ends : rest.head? ≠ some ' ')
    (gap : Nat) :
    Yields nesting [] (List.replicate (gap + 1) ' ' ++ rest)
      (⟨.blank, [' '], none⟩ :: tokens) := by
  have spaces : (List.replicate gap ' ' ++ rest).takeWhile (· = ' ') =
      List.replicate gap ' ' := by
    have all : ∀ char ∈ List.replicate gap ' ', decide (char = ' ') = true := by
      simp +contextual
    rw [List.takeWhile_append_of_pos all]
    cases rest with
    | nil => simp
    | cons first others => simp_all
  apply later.separates .blank
  simp [spaces]

/-- Delimiters before which a word is complete. -/
def isEnder (char : Char) : Bool :=
  " &,;%)\x7d".toList.contains char

/-- A delimiter that completes the buffer does nothing else with it. -/
theorem stepMode_ender
    {state : Scan.State} {char : Char}
    (mode : state.mode = .normal)
    (ends : isEnder char)
    (tail : List Char) :
    stepMode state char tail =
      { stepMode state.cleared char tail with
        emitted := state.flush .operand ++ (stepMode state.cleared char tail).emitted } := by
  simp [isEnder] at ends
  simp only [stepMode, mode, State.cleared_mode]
  rcases ends with rfl | rfl | rfl | rfl | rfl | rfl | rfl
  · rfl
  · rfl
  · rfl
  · rfl
  · rfl
  · show closeParenthesis state =
      { closeParenthesis state.cleared with
        emitted := state.flush .operand ++ (closeParenthesis state.cleared).emitted }
    simp only [closeParenthesis, State.cleared_nesting]
    split
    · simp [unbalanced, State.flush, State.cleared]
    · split
      · simp [unbalanced, State.flush, State.cleared]
      · simp [State.flush, State.cleared]
  · show closeArray state =
      { closeArray state.cleared with
        emitted := state.flush .operand ++ (closeArray state.cleared).emitted }
    by_cases inRow : state.nesting.top?.any Token.isArrayRow
    · simp [closeArray, inRow, State.flush, State.cleared]
    · simp [closeArray, inRow, unbalanced, State.flush, State.cleared]

/-- Before a delimiter that completes it, or the end, a word adds an operand in front. -/
theorem Yields.complete
    {nesting : Nesting} {word rest : List Char} {tokens : List Token}
    (later : Yields nesting [] rest tokens)
    (nonempty : word ≠ [])
    (ends : rest.head?.all isEnder) :
    Yields nesting word rest (⟨.operand, word, none⟩ :: tokens) := by
  intro state ready
  have flushed : state.flush .operand = [some ⟨.operand, word, none⟩] := by
    simp [State.flush, ready.buffer, nonempty]
  -- the two runs differ only in their first step, which completes the word
  rcases later state.cleared ⟨ready.mode, rfl, ready.nesting⟩ with
    ⟨made, final, passes, mode, closed, left⟩
  cases passes with
  | done =>
      refine ⟨[], state, .done, ready.mode, closed, ?_⟩
      have none : tokens = [] := by simpa [State.flush] using left
      rw [none, flushed]
      rfl
  | @move _ _ char tail _ emitted others remains emits passed =>
      have same := stepMode_ender ready.mode (by simpa using ends) tail
      have emitsAll : (Scan.step state char tail).emitted =
          ((⟨.operand, word, none⟩ : Token) :: emitted).map some := by
        show (stepMode state char tail).emitted = _
        rw [same, flushed, List.map_cons, ← emits]
        rfl
      have remainsHere : (Scan.step state char tail).departure = none := by
        show (stepMode state char tail).departure = none
        rw [same]
        exact remains
      have nextHere : (Scan.step state char tail).next =
          (Scan.step state.cleared char tail).next := by
        simp only [Scan.step, same]
        rfl
      have extraHere : (Scan.step state char tail).extra =
          (Scan.step state.cleared char tail).extra := by
        simp only [Scan.step, same]
      rw [← nextHere, ← extraHere] at passed
      refine ⟨_, final, .move remainsHere emitsAll passed, mode, closed, ?_⟩
      simp [left]

/-! ## Words and literals -/

/-- Behind an empty buffer a literal opens without a token. -/
theorem passes_openLiteral
    {nesting : Nesting} {state : Scan.State} {char : Char} {kept : List Char} {literal : Literal}
    (ready : Ready nesting [] state)
    (opens : Opens char literal kept)
    (tail : List Char) :
    ∃ next,
      Passes state (char :: tail) [] next tail ∧
        next.mode = .inside literal ∧ next.buffer = kept ∧ next.nesting = nesting := by
  have nothing : (openLiteral state literal kept).emitted = ([] : List Token).map some := by
    simp [openLiteral, State.flush, ready.buffer]
  rcases passes_of_rule [] (.openLiteral ready.mode opens) rfl nothing rfl with
    ⟨next, passed, inside, buffer, same⟩
  exact ⟨next, passed, inside, buffer, same.trans ready.nesting⟩

/-- Literals that end at a mark, which is written twice to stand for itself. -/
inductive Quotes : Literal → Char → Prop where
  | text : Quotes .text '"'
  | sheetPath : Quotes .sheetPath '\''

namespace Quotes

variable {literal : Literal} {mark : Char} {state : Scan.State}

theorem rule_pair
    (quotes : Quotes literal mark)
    (mode : state.mode = .inside literal)
    (rest : List Char) :
    Rule state mark (mark :: rest) { next := state.collect mark, extra := 1 } := by
  cases quotes with
  | text => exact .escapedQuote mode
  | sheetPath => exact .escapedApostrophe mode

theorem rule_character
    (quotes : Quotes literal mark)
    (mode : state.mode = .inside literal)
    {char : Char} (noMark : char ≠ mark)
    (rest : List Char) :
    Rule state char rest { next := state.collect char } := by
  cases quotes with
  | text => exact .textCharacter mode noMark
  | sheetPath => exact .sheetPathCharacter mode noMark

/-- Inside a quoted literal a character is collected, the mark from a pair. -/
theorem passes_character
    (quotes : Quotes literal mark)
    (mode : state.mode = .inside literal)
    (char : Char) (rest : List Char) :
    ∃ next,
      Passes state (Text.doubled mark [char] ++ rest) [] next rest ∧
        next.mode = .inside literal ∧ next.buffer = state.buffer ++ [char] ∧
        next.nesting = state.nesting := by
  by_cases isMark : char = mark
  · subst isMark
    rw [Text.doubled_mark]
    rcases passes_of_rule [] (quotes.rule_pair mode rest) rfl rfl rfl with
      ⟨next, passed, inside, kept, same⟩
    exact ⟨next, passed, inside.trans mode, kept, same⟩
  · rw [Text.doubled_of_ne isMark]
    rcases passes_of_rule [] (quotes.rule_character mode isMark rest) rfl rfl rfl with
      ⟨next, passed, inside, kept, same⟩
    exact ⟨next, passed, inside.trans mode, kept, same⟩

/-- Inside a quoted literal a text is collected whose marks are written twice. -/
theorem passes_doubled
    (quotes : Quotes literal mark)
    (mode : state.mode = .inside literal)
    (value rest : List Char) :
    ∃ final,
      Passes state (Text.doubled mark value ++ rest) [] final rest ∧
        final.mode = .inside literal ∧ final.buffer = state.buffer ++ value ∧
        final.nesting = state.nesting := by
  induction value generalizing state with
  | nil => exact ⟨state, .done, mode, (List.append_nil _).symm, rfl⟩
  | cons char others ih =>
      rcases quotes.passes_character mode char (Text.doubled mark others ++ rest) with
        ⟨next, first, inside, kept, same⟩
      rcases ih inside with ⟨final, second, insideAgain, keptAgain, sameAgain⟩
      have split : Text.doubled mark (char :: others) ++ rest =
          Text.doubled mark [char] ++ (Text.doubled mark others ++ rest) := by
        rw [← List.append_assoc, ← Text.doubled_append, List.singleton_append]
      refine ⟨final, ?_, insideAgain, ?_, sameAgain.trans same⟩
      · rw [split]
        exact first.trans second
      · rw [keptAgain, kept, List.append_assoc, List.singleton_append]

end Quotes

/-- Inside a sheet name, what is left of it is collected with the closing quote. -/
theorem passes_sheetPath
    {state : Scan.State} {name rest : List Char}
    (mode : state.mode = .inside .sheetPath)
    (ends : rest.head? ≠ some '\'') :
    ∃ final,
      Passes state (Text.doubled '\'' name ++ '\'' :: rest) [] final rest ∧
        Ready state.nesting (state.buffer ++ name ++ ['\'']) final := by
  rcases Quotes.sheetPath.passes_doubled mode name ('\'' :: rest) with
    ⟨middle, first, inside, kept, same⟩
  rcases passes_of_rule [] (.endSheetPath inside ends) rfl rfl rfl with
    ⟨final, second, normal, keptAgain, sameAgain⟩
  refine ⟨final, first.trans second, normal, ?_, sameAgain.trans same⟩
  rw [keptAgain, ← kept]
  rfl

/-- Between brackets, a text with matching brackets is collected. -/
theorem passes_nested
    {inner : List Char} (nested : Balance.Nested inner)
    {state : Scan.State}
    (mode : state.mode = .inside .bracketRange)
    (depth : 0 < state.bracketDepth)
    (rest : List Char) :
    ∃ final,
      Passes state (inner ++ rest) [] final rest ∧ final.mode = .inside .bracketRange ∧
        final.bracketDepth = state.bracketDepth ∧ final.buffer = state.buffer ++ inner ∧
        final.nesting = state.nesting := by
  induction nested generalizing state rest with
  | nil => exact ⟨state, .done, mode, rfl, by simp, rfl⟩
  | @character char others noOpener noCloser _ ih =>
      rcases passes_step [] (.bracketCharacter mode noOpener noCloser) rfl rfl
        (rfl : (others ++ rest).drop 0 = others ++ rest) with ⟨position, first⟩
      rcases @ih { state.collect char with position := position } mode depth rest with
        ⟨final, second, inside, same, kept, nesting⟩
      exact ⟨final, first.trans second, inside, same, by simpa using kept, nesting⟩
  | @bracketed content others _ _ ihInside ihLater =>
      let opened : Scan.State :=
        { state.collect '[' with bracketDepth := state.bracketDepth + 1 }
      rcases passes_step [] (.innerBracket mode) rfl rfl
        (rfl : (content ++ ']' :: (others ++ rest)).drop 0 = _) with ⟨position, first⟩
      rcases @ihInside { opened with position := position } mode (Nat.succ_pos _)
        (']' :: (others ++ rest)) with ⟨middle, second, inside, same, kept, nesting⟩
      have inner : 1 < middle.bracketDepth := by
        rw [same]
        exact Nat.succ_lt_succ depth
      rcases passes_step [] (.endInnerBracket inside inner) rfl rfl
        (rfl : (others ++ rest).drop 0 = others ++ rest) with ⟨behind, third⟩
      let closed : Scan.State :=
        { middle.collect ']' with bracketDepth := middle.bracketDepth - 1 }
      have depthAgain : closed.bracketDepth = state.bracketDepth := by
        show middle.bracketDepth - 1 = state.bracketDepth
        rw [same]
        rfl
      rcases @ihLater { closed with position := behind } inside (depthAgain ▸ depth) rest with
        ⟨final, fourth, insideAgain, sameAgain, keptAgain, nestingAgain⟩
      refine ⟨final, ?_, insideAgain, sameAgain.trans depthAgain, ?_, nestingAgain.trans nesting⟩
      · have passed := first.trans (second.trans (third.trans fourth))
        simpa using passed
      · rw [keptAgain]
        show middle.buffer ++ [']'] ++ others = _
        rw [kept]
        simp [opened]

/-- A part in brackets is collected. -/
theorem passes_brackets
    {nesting : Nesting} {buffer inner : List Char} {state : Scan.State}
    (ready : Ready nesting buffer state)
    (nested : Balance.Nested inner)
    (rest : List Char) :
    ∃ final,
      Passes state ('[' :: inner ++ ']' :: rest) [] final rest ∧
        Ready nesting (buffer ++ ('[' :: inner ++ [']'])) final := by
  rcases passes_step [] (.openBracketRange ready.mode) rfl rfl
    (rfl : (inner ++ ']' :: rest).drop 0 = _) with ⟨position, first⟩
  rcases @passes_nested inner nested
    { (openBracketRange state).next with position := position } rfl Nat.one_pos (']' :: rest) with
      ⟨middle, second, inside, depth, kept, same⟩
  have outermost : middle.bracketDepth ≤ 1 := Nat.le_of_eq depth
  rcases passes_of_rule [] (.endBracketRange inside outermost) rfl rfl rfl with
    ⟨final, third, mode, closed, sameAgain⟩
  refine ⟨final, first.trans (second.trans third), mode, ?_, ?_⟩
  · rw [closed]
    show middle.buffer ++ [']'] = _
    rw [kept, ← ready.buffer]
    simp [openBracketRange]
  · rw [sameAgain]
    show middle.nesting = nesting
    rw [same, ← ready.nesting]
    rfl

/-- Before a text that does not begin with a quote, a text is collected in the buffer. -/
theorem Yields.collect
    {nesting : Nesting} {slice buffer rest : List Char} {tokens : List Token}
    (later : Yields nesting buffer rest tokens)
    (collected : Collected slice buffer)
    (ends : rest.head? ≠ some '\'') :
    Yields nesting [] (slice ++ rest) tokens := by
  -- the last part is read after all others, so the rest of the text grows to the left
  induction collected generalizing rest with
  | nil => exact later
  | quoted name =>
      apply later.of_passes []
      intro state ready
      rcases passes_openLiteral ready .sheetPath (Text.doubled '\'' name ++ '\'' :: rest) with
        ⟨next, first, inside, kept, same⟩
      rcases passes_sheetPath inside ends with ⟨final, second, readyAgain⟩
      rw [kept, same] at readyAgain
      exact ⟨final, by simpa using first.trans second, readyAgain⟩
  | @character slice buffer char _ plain ih =>
      have noQuote : char ≠ '\'' := by
        rintro rfl
        rcases plain with noDelimiter | ⟨isSign, -⟩
        · simp [isDelimiter] at noDelimiter
        · simp at isSign
      have read : Yields nesting buffer (char :: rest) tokens := by
        apply later.step []
        intro state ready
        have collects : isDelimiter char = false ∨
            ((char = '+' ∨ char = '-') ∧ awaitsExponent state.buffer) := by
          rw [ready.buffer]
          exact plain
        refine ⟨_, .collect ready.mode collects, rfl, rfl, rfl, ready.mode, ?_, ready.nesting⟩
        simp [ready.buffer]
      rw [List.append_assoc]
      exact ih read (by simpa using noQuote)
  | @bracketed slice buffer inner _ nested ih =>
      have read : Yields nesting buffer ('[' :: inner ++ ']' :: rest) tokens := by
        apply later.of_passes []
        intro state ready
        exact passes_brackets ready nested rest
      have whole := ih read (by simp)
      simpa using whole

/-- A reference before a delimiter that completes it, or the end, adds an operand in front. -/
theorem Yields.reference
    {nesting : Nesting} {value rest : List Char} {tokens : List Token}
    (later : Yields nesting [] rest tokens)
    (isReference : IsReference value)
    (ends : rest.head?.all isEnder) :
    Yields nesting [] (Layout.quoteSheetName value ++ rest)
      (⟨.operand, value, none⟩ :: tokens) := by
  apply (later.complete isReference.nonempty ends).collect isReference.collected
  intro quote
  rw [quote] at ends
  cases ends

/-- Inside a string, what is left of it is collected up to the closing quote. -/
theorem passes_text
    {state : Scan.State} {value rest : List Char}
    (mode : state.mode = .inside .text)
    (ends : rest.head? ≠ some '"') :
    ∃ final,
      Passes state (Text.doubled '"' value ++ '"' :: rest)
          [⟨.operand, state.buffer ++ value, some .text⟩] final rest ∧
        Ready state.nesting [] final := by
  rcases Quotes.text.passes_doubled mode value ('"' :: rest) with
    ⟨middle, first, inside, kept, same⟩
  rw [← kept]
  rcases passes_of_rule [⟨.operand, middle.buffer, some .text⟩] (.endText inside ends)
    rfl rfl rfl with ⟨final, second, normal, empty, sameAgain⟩
  exact ⟨final, first.trans second, normal, empty, sameAgain.trans same⟩

/-- A string that is not followed by a quote adds its operand in front. -/
theorem Yields.text
    {nesting : Nesting} {value rest : List Char} {tokens : List Token}
    (later : Yields nesting [] rest tokens)
    (ends : rest.head? ≠ some '"') :
    Yields nesting [] ('"' :: Text.doubled '"' value ++ '"' :: rest)
      (⟨.operand, value, some .text⟩ :: tokens) := by
  apply later.of_passes [⟨.operand, value, some .text⟩]
  intro state ready
  rcases passes_openLiteral ready .text (Text.doubled '"' value ++ '"' :: rest) with
    ⟨next, first, inside, empty, same⟩
  rcases passes_text inside ends with ⟨final, second, readyAgain⟩
  rw [empty] at second
  rw [same] at readyAgain
  exact ⟨final, first.trans second, readyAgain⟩

/-- Inside an error code, what is left of it is collected until the code is known. -/
theorem passes_errorCode
    {state : Scan.State} {remaining rest : List Char}
    (mode : state.mode = .inside .errorCode)
    (nonempty : remaining ≠ [])
    (known : state.buffer ++ remaining ∈ errorCodes)
    (shortest : ∀ count < remaining.length,
      state.buffer ++ remaining.take count ∉ errorCodes) :
    ∃ final,
      Passes state (remaining ++ rest)
          [⟨.operand, state.buffer ++ remaining, some .error⟩] final rest ∧
        Ready state.nesting [] final := by
  induction remaining generalizing state with
  | nil => exact absurd rfl nonempty
  | cons char others ih =>
      by_cases last : others = []
      · subst last
        rcases passes_of_rule [⟨.operand, state.buffer ++ [char], some .error⟩]
          (.endErrorCode mode known) rfl rfl rfl with ⟨next, passed, normal, empty, same⟩
        exact ⟨next, passed, normal, empty, same⟩
      · have more : 0 < others.length := List.length_pos_iff.mpr last
        have incomplete : state.buffer ++ [char] ∉ errorCodes :=
          shortest 1 (by simpa using more)
        rcases passes_of_rule [] (.errorCodeCharacter mode incomplete) rfl rfl rfl with
          ⟨next, first, inside, kept, same⟩
        have buffer_eq (ending : List Char) :
            next.buffer ++ ending = state.buffer ++ char :: ending := by
          simp [kept]
        have later : ∃ final,
            Passes next (others ++ rest)
                [⟨.operand, next.buffer ++ others, some .error⟩] final rest ∧
              Ready next.nesting [] final := by
          apply ih (inside.trans mode) last
          · rw [buffer_eq]
            exact known
          · intro count fewer
            rw [buffer_eq]
            exact shortest (count + 1) (by simpa using fewer)
        rcases later with ⟨final, second, ready⟩
        rw [buffer_eq] at second
        rw [same] at ready
        exact ⟨final, first.trans second, ready⟩

/-- An error code adds its operand in front. -/
theorem Yields.errorCode
    {nesting : Nesting} {code rest : List Char} {tokens : List Token}
    (later : Yields nesting [] rest tokens)
    (known : code ∈ errorCodes) :
    Yields nesting [] (code ++ rest) (⟨.operand, code, some .error⟩ :: tokens) := by
  have codes : ∀ code ∈ errorCodes, code.head? = some '#' ∧ 1 < code.length ∧
      ∀ count < code.length, code.take count ∉ errorCodes := by
    decide +kernel
  rcases codes code known with ⟨head, long, shortest⟩
  rcases List.head?_eq_some_iff.mp head with ⟨remaining, rfl⟩
  apply later.of_passes [⟨.operand, '#' :: remaining, some .error⟩]
  intro state ready
  rcases passes_openLiteral ready .errorCode (remaining ++ rest) with
    ⟨next, first, inside, kept, same⟩
  have buffer_eq (ending : List Char) : next.buffer ++ ending = '#' :: ending := by
    simp [kept]
  have collected : ∃ final,
      Passes next (remaining ++ rest)
          [⟨.operand, next.buffer ++ remaining, some .error⟩] final rest ∧
        Ready next.nesting [] final := by
    apply passes_errorCode inside
    · exact List.length_pos_iff.mp (by simpa using long)
    · rw [buffer_eq]
      exact known
    · intro count fewer
      rw [buffer_eq]
      exact shortest (count + 1) (by simpa using fewer)
  rcases collected with ⟨final, second, readyAgain⟩
  rw [buffer_eq] at second
  rw [same] at readyAgain
  exact ⟨final, first.trans second, readyAgain⟩

/-! ## Groups -/

theorem Yields.parenthesis
    {nesting : Nesting} {rest : List Char} {tokens : List Token}
    (later : Yields (subexpressionStart :: nesting) [] rest tokens) :
    Yields nesting [] ('(' :: rest) (subexpressionStart :: tokens) := by
  apply later.step [subexpressionStart]
  intro state ready
  refine ⟨_, .openParenthesis ready.mode, rfl, ?_, rfl, ready.mode, rfl, ?_⟩
  · simp [openParenthesis, ready.buffer, subexpressionStart]
  · simp [openParenthesis, ready.buffer, ready.nesting, Nesting.push, subexpressionStart]

/-- A parenthesis behind a name opens a call. -/
theorem Yields.call
    {nesting : Nesting} {name rest : List Char} {tokens : List Token}
    (later : Yields (functionStart name :: nesting) [] rest tokens)
    (isName : IsFunctionName name) :
    Yields nesting [] (name ++ '(' :: rest) (functionStart name :: tokens) := by
  have opened : Yields nesting name ('(' :: rest) (functionStart name :: tokens) := by
    apply later.step [functionStart name]
    intro state ready
    refine ⟨_, .openParenthesis ready.mode, rfl, ?_, rfl, ready.mode, rfl, ?_⟩
    · simp [openParenthesis, ready.buffer, isName.nonempty, functionStart]
    · simp [openParenthesis, ready.buffer, isName.nonempty, ready.nesting, Nesting.push,
        functionStart]
  exact opened.collect isName.collected (by simp)

theorem Yields.brace
    {nesting : Nesting} {rest : List Char} {tokens : List Token}
    (later : Yields (arrayRowStart :: arrayStart :: nesting) [] rest tokens) :
    Yields nesting [] ('{' :: rest) (arrayStart :: arrayRowStart :: tokens) := by
  apply later.step [arrayStart, arrayRowStart]
  intro state ready
  refine ⟨_, .openArray ready.mode, rfl, ?_, rfl, ready.mode, rfl, ?_⟩
  · simp [openArray, State.flush, ready.buffer, arrayStart, arrayRowStart]
  · simp [openArray, ready.nesting, Nesting.push, arrayStart, arrayRowStart]

/-- A closing parenthesis ends a group that is no array row. -/
theorem Yields.closeParenthesis
    {nesting : Nesting} {opener : Token} {rest : List Char} {tokens : List Token}
    (later : Yields nesting [] rest tokens)
    (noRow : opener.isArrayRow = false) :
    Yields (opener :: nesting) [] (')' :: rest) (Nesting.stopFor opener [] :: tokens) := by
  apply later.step [Nesting.stopFor opener []]
  intro state ready
  refine ⟨_, .closeParenthesis ready.mode ready.nesting noRow, rfl, ?_, rfl, ready.mode, rfl,
    rfl⟩
  simp [State.flush, ready.buffer]

theorem Yields.closeBrace
    {nesting : Nesting} {rest : List Char} {tokens : List Token}
    (later : Yields nesting [] rest tokens) :
    Yields (arrayRowStart :: arrayStart :: nesting) [] ('}' :: rest)
      (arrayRowStop :: arrayStop :: tokens) := by
  apply later.step [arrayRowStop, arrayStop]
  intro state ready
  refine ⟨_, .closeArray ready.mode ready.nesting rfl, rfl, ?_, rfl, ready.mode, rfl, rfl⟩
  have rowStop : Nesting.stopFor arrayRowStart arrayRowStopText = arrayRowStop := rfl
  have wrapperStop : Nesting.stopFor arrayStart arrayStopText = arrayStop := rfl
  simp [State.flush, ready.buffer, rowStop, wrapperStop]

/-! ## Lexemes -/

/-- Whether the spelling of a lexeme is complete before a text. -/
def Lexeme.EndsBefore : Lexeme → List Char → Prop
  | .reference .., rest => rest.head?.all isEnder
  | .text .., rest => rest.head? ≠ some '"'
  | .operator .., rest => rest.head? ≠ some '=' ∧ rest.head? ≠ some '>'
  | _, _ => True

theorem pairOperator?_eq_none
    (mark : Char) {rest : List Char}
    (ends : rest.head? ≠ some '=' ∧ rest.head? ≠ some '>') :
    pairOperator? mark rest = none := by
  unfold pairOperator?
  split <;> simp_all

theorem Yields.comparison
    {nesting : Nesting} {pair rest : List Char} {tokens : List Token}
    (later : Yields nesting [] rest tokens)
    (known : pair ∈ comparisons) :
    Yields nesting [] (pair ++ rest) (⟨.infixOp, pair, some .logical⟩ :: tokens) := by
  simp only [comparisons, List.mem_cons, List.not_mem_nil, or_false] at known
  rcases known with rfl | rfl | rfl
  · exact later.separates (.pair rfl) rfl
  · exact later.separates (.pair rfl) rfl
  · exact later.separates (.pair rfl) rfl

theorem Yields.union
    {nesting : Nesting} {rest : List Char} {tokens : List Token}
    (later : Yields nesting [] rest tokens)
    (joined : nesting.topKind? ≠ some .function) :
    Yields nesting [] (',' :: rest) (⟨.infixOp, [','], some .union⟩ :: tokens) := by
  have comma : commaToken nesting = ⟨.infixOp, [','], some .union⟩ := if_neg joined
  rw [← comma]
  exact later.separates .comma rfl

theorem Yields.separator
    {nesting : Nesting} {mark : Char} {rest : List Char} {tokens : List Token}
    (later : Yields nesting [] rest tokens)
    (isMark : mark = ',' ∨ mark = ';')
    (separated : mark = ',' → nesting.topKind? = some .function) :
    Yields nesting [] (mark :: rest) (RoundTrip.separator mark :: tokens) := by
  rcases isMark with rfl | rfl
  · have comma : commaToken nesting = RoundTrip.separator ',' := if_pos (separated rfl)
    rw [← comma]
    exact later.separates .comma rfl
  · exact later.separates .rowSeparator rfl

/-- Every lexeme adds the tokens it is scanned as in front. -/
theorem Lexeme.yields
    {lexeme : Lexeme} {nesting inner : Nesting} {rest : List Char} {tokens : List Token}
    (later : Yields inner [] rest tokens)
    (turns : Turns nesting lexeme inner)
    (ends : lexeme.EndsBefore rest) :
    Yields nesting [] (lexeme.spelling ++ rest) (lexeme.scanned ++ tokens) := by
  cases turns with
  | reference isReference => exact later.reference isReference ends
  | text isLine => simpa [spelling, scanned, Lexeme.tokens] using later.text ends
  | error known => exact later.errorCode known
  | minus => exact later.separates (.operator rfl (by decide)) rfl
  | percent => exact later.separates .percent rfl
  | operator isOperator =>
      exact later.separates (.operator (pairOperator?_eq_none _ ends) isOperator) rfl
  | comparison known => exact later.comparison known
  | union joined => exact later.union joined
  | separator isMark separated => exact later.separator isMark separated
  | parenthesis => exact later.parenthesis
  | call isName =>
      simpa [spelling, scanned, Lexeme.tokens] using later.call isName
  | brace => exact later.brace
  | closeParenthesis => exact later.closeParenthesis rfl
  | @closeCall nesting name isName =>
      have noRow : (functionStart name).isArrayRow = false := by
        simp [functionStart, Token.isArrayRow, isName.unreserved]
      exact later.closeParenthesis noRow
  | closeBrace => exact later.closeBrace

/-! ## Placed items -/

/-- What the first character of a lexeme can be. -/
structure Lexeme.Begins (lexeme : Lexeme) (char : Char) : Prop where
  noSpace : char ≠ ' '
  visible : lexeme.startsVisible → Text.isBlank char = false
  ender : lexeme.startsValue = false → lexeme.spaced = false → isEnder char
  single : lexeme.joins = false → char ≠ '=' ∧ char ≠ '>'

theorem Collected.begins
    {lexeme : Lexeme} {slice buffer : List Char}
    (collected : Collected slice buffer)
    (nonempty : buffer ≠ [])
    (visible : lexeme.startsVisible = !buffer.head?.any Text.isBlank)
    (starts : lexeme.startsValue = true)
    (ending : List Char) :
    ∃ char others, slice ++ ending = char :: others ∧ lexeme.Begins char := by
  rcases List.exists_cons_of_ne_nil nonempty with ⟨char, others, rfl⟩
  have first : slice.head? = some char := collected.head?_eq
  rcases List.head?_eq_some_iff.mp first with ⟨rest, rfl⟩
  have noMark : char ≠ ' ' ∧ char ≠ '=' ∧ char ≠ '>' := by
    rcases collected.head_cases rfl with rfl | rfl | noDelimiter
    · decide
    · decide
    · refine ⟨?_, ?_, ?_⟩
      · rintro rfl
        simp [isDelimiter] at noDelimiter
      · rintro rfl
        simp [isDelimiter] at noDelimiter
      · rintro rfl
        simp [isDelimiter] at noDelimiter
  refine ⟨char, rest ++ ending, rfl, noMark.1, ?_, by simp [starts], fun _ => noMark.2⟩
  intro startsVisible
  rw [visible] at startsVisible
  simpa using startsVisible

theorem Lexeme.exists_begins (lexeme : Lexeme) :
    ∃ char others, lexeme.spelling = char :: others ∧ lexeme.Begins char := by
  -- a lexeme that is not collected begins with a visible character
  have mark (char : Char) (others : List Char) (spelled : lexeme.spelling = char :: others)
      (visible : Text.isBlank char = false)
      (ender : lexeme.startsValue = false → lexeme.spaced = false → isEnder char)
      (single : lexeme.joins = false → char ≠ '=' ∧ char ≠ '>') :
      ∃ char others, lexeme.spelling = char :: others ∧ lexeme.Begins char := by
    refine ⟨char, others, spelled, ?_, fun _ => visible, ender, single⟩
    rintro rfl
    exact absurd visible (by decide)
  cases lexeme with
  | reference value isReference =>
      have begins := @Collected.begins (.reference value isReference) _ _ isReference.collected
        isReference.nonempty rfl rfl []
      simpa [spelling] using begins
  | call name isName => exact isName.collected.begins isName.nonempty rfl rfl ['(']
  | text value isLine =>
      exact mark '"' _ rfl (by decide) (by simp [startsValue, startsRange]) (by simp)
  | error code known =>
      have codes : ∀ code ∈ errorCodes, code.head? = some '#' := by decide +kernel
      rcases List.head?_eq_some_iff.mp (codes code known) with ⟨others, rfl⟩
      exact mark '#' others rfl (by decide) (by simp [startsValue, startsRange]) (by simp)
  | operator char isOperator =>
      refine mark char [] rfl ?_ ?_ (by simp [joins])
      · simpa using check_infixChar (fun mark => !Text.isBlank mark) (by decide) isOperator
      · intro _ bare
        have concatenates : char = '&' := by simpa [spaced] using bare
        rw [concatenates]
        decide
  | comparison pair known =>
      have pairs : ∀ pair ∈ comparisons, ∃ char others,
          pair = char :: others ∧ Text.isBlank char = false := by
        simp [comparisons]
        decide
      rcases pairs pair known with ⟨char, others, rfl, noBlank⟩
      exact mark char others rfl noBlank (by simp [spaced]) (by simp [joins])
  | separator char isMark =>
      rcases isMark with rfl | rfl
      · exact mark ',' [] rfl (by decide) (fun _ _ => by decide) (by simp)
      · exact mark ';' [] rfl (by decide) (fun _ _ => by decide) (by simp)
  | minus => exact mark '-' [] rfl (by decide) (by simp [startsValue]) (by simp)
  | percent => exact mark '%' [] rfl (by decide) (fun _ _ => by decide) (by simp)
  | union => exact mark ',' [] rfl (by decide) (by simp [spaced]) (by simp [joins])
  | parenthesis => exact mark '(' [] rfl (by decide) (by simp [startsValue, startsRange]) (by simp)
  | brace => exact mark '{' [] rfl (by decide) (by simp [startsValue, startsRange]) (by simp)
  | closeParenthesis => exact mark ')' [] rfl (by decide) (fun _ _ => by decide) (by simp)
  | closeCall => exact mark ')' [] rfl (by decide) (fun _ _ => by decide) (by simp)
  | closeBrace => exact mark '}' [] rfl (by decide) (fun _ _ => by decide) (by simp)

theorem Lexeme.joins_eq_false
    {lexeme : Lexeme} (starts : lexeme.startsValue = true) : lexeme.joins = false := by
  cases lexeme <;> simp_all [startsValue, startsRange, joins]

theorem Lexeme.endsBefore_nil (lexeme : Lexeme) : lexeme.EndsBefore [] := by
  cases lexeme <;> simp [EndsBefore]

/-- A lexeme is complete before a gap. -/
theorem Lexeme.endsBefore_space (lexeme : Lexeme) (rest : List Char) :
    lexeme.EndsBefore (' ' :: rest) := by
  cases lexeme with
  | reference => exact (by decide : isEnder ' ' = true)
  | text => simp [EndsBefore]
  | operator => simp [EndsBefore]
  | _ => trivial

/-- A lexeme is complete before whatever can stand behind it. -/
theorem Placed.endsBefore
    {lexeme : Lexeme} {place : Placed}
    (fits : Fits (some lexeme) place.item)
    (rest : List Char) :
    lexeme.EndsBefore (place.text ++ rest) := by
  rcases place with ⟨item, gap, enough⟩
  cases gap with
  | succ gap => exact lexeme.endsBefore_space _
  | zero =>
      have bare : item.spaced = false := by simpa using enough
      rcases item.lexeme.exists_begins with ⟨char, others, spelled, begins⟩
      have text_eq : Placed.text ⟨item, 0, enough⟩ ++ rest = char :: (others ++ rest) := by
        simp [Placed.text, spelled]
      rw [text_eq]
      cases fits with
      | signs fresh =>
          have single := begins.single rfl
          cases lexeme with
          | reference => simp [Lexeme.endsValue, Lexeme.endsRange] at fresh
          | text => simp [Lexeme.endsValue, Lexeme.endsRange] at fresh
          | operator => simpa [Lexeme.EndsBefore] using single
          | _ => trivial
      | starts starts fresh _ =>
          have startsValue := Lexeme.startsValue_of_startsRange starts
          have single := begins.single (Lexeme.joins_eq_false startsValue)
          cases lexeme with
          | reference => simp [Lexeme.endsRange] at fresh
          | text => simp [Lexeme.endsRange] at fresh
          | operator => simpa [Lexeme.EndsBefore] using single
          | _ => trivial
      | crosses => simp [Item.spaced] at bare
      | continues noStart =>
          have ender := begins.ender noStart (by simpa [Item.spaced] using bare)
          cases lexeme with
          | reference => simpa [Lexeme.EndsBefore] using ender
          | text =>
              have noQuote : char ≠ '"' := by
                rintro rfl
                exact absurd ender (by decide)
              simpa [Lexeme.EndsBefore] using noQuote
          | operator =>
              have noEquals : char ≠ '=' ∧ char ≠ '>' := by
                constructor
                · rintro rfl
                  exact absurd ender (by decide)
                · rintro rfl
                  exact absurd ender (by decide)
              simpa [Lexeme.EndsBefore] using noEquals
          | _ => trivial

/-- The blank that a gap leaves. -/
def blanks : Nat → List Token
  | 0 => []
  | _ + 1 => [⟨.blank, [' '], none⟩]

/-- What a placed item is scanned as. -/
def Placed.scanned (place : Placed) : List Token :=
  blanks place.gap ++ place.item.lexeme.scanned

/-- A lexeme is complete before the items that flow behind it. -/
theorem Flows.endsBefore
    {places : List Placed} {nesting outer : Nesting} {lexeme : Lexeme} {last : Option Lexeme}
    (flows : Flows nesting (some lexeme) (places.map Placed.item) outer last) :
    lexeme.EndsBefore (places.flatMap Placed.text) := by
  cases places with
  | nil => exact lexeme.endsBefore_nil
  | cons next others =>
      cases flows with
      | cons fits _ _ => exact Placed.endsBefore fits _

/-- The text of placed items that flow is scanned item by item. -/
theorem yields_of_flows
    {places : List Placed} {nesting outer : Nesting} {before last : Option Lexeme}
    (flows : Flows nesting before (places.map Placed.item) outer last)
    (closed : outer = []) :
    Yields nesting [] (places.flatMap Placed.text) (places.flatMap Placed.scanned) := by
  induction places generalizing nesting before with
  | nil =>
      cases flows
      rw [closed]
      exact yields_nil
  | cons place places ih =>
      cases flows with
      | cons fits turns later =>
          have read := Lexeme.yields (ih later) turns later.endsBefore
          rcases place with ⟨item, gap, enough⟩
          cases gap with
          | zero => simpa [Placed.text, Placed.scanned, blanks] using read
          | succ gap =>
              have visible : (item.lexeme.spelling ++ places.flatMap Placed.text).head? ≠
                  some ' ' := by
                rcases item.lexeme.exists_begins with ⟨char, others, spelled, begins⟩
                rw [spelled]
                simpa using begins.noSpace
              simpa [Placed.text, Placed.scanned, blanks] using read.blank visible gap

end SheetFormula.RoundTrip
