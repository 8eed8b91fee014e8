import SheetFormula.Scan.Run

/-!
# The rules of the scanner

`Rule` lists what a step of the scanner can do, one constructor for each way,
with the conditions under which it happens.  Statements about all steps go by
cases on it.  `stepMode_rule` says that every step follows one of the rules.
-/

namespace SheetFormula.Scan

/-- Characters that mean something by themselves outside literals. -/
def isDelimiter (char : Char) : Bool :=
  "\"'[#{;} %(,)+-*/^&=><".toList.contains char

/-- The operators of one character. -/
def infixChars : List Char := ['+', '-', '*', '/', '^', '&', '=', '>', '<']

theorem mem_infixChars {char : Char} (isOperator : isInfixChar char) : char ∈ infixChars := by
  simpa [isInfixChar, infixChars] using isOperator

/-- What holds of the operators of one character by a check of all of them. -/
theorem check_infixChar
    (check : Char → Bool) {char : Char}
    (checked : infixChars.all check = true)
    (isOperator : isInfixChar char) :
    check char = true :=
  List.all_eq_true.mp checked char (mem_infixChars isOperator)

/-- The spaces at the beginning of a text, counted and taken. -/
theorem take_spaces (text : List Char) :
    text.take (text.takeWhile (· = ' ')).length =
      List.replicate (text.takeWhile (· = ' ')).length ' ' := by
  have taken : text.takeWhile (· = ' ') = text.take (text.takeWhile (· = ' ')).length :=
    List.prefix_iff_eq_take.mp (List.takeWhile_prefix _)
  rw [← taken]
  refine List.eq_replicate_of_mem ?_
  intro char member
  simpa using List.all_eq_true.mp List.all_takeWhile char member

/-- A text without the spaces it begins with. -/
def behindSpaces (text : List Char) : List Char :=
  text.drop (text.takeWhile (· = ' ')).length

theorem head_behindSpaces (text : List Char) : (behindSpaces text).head? ≠ some ' ' := by
  unfold behindSpaces
  induction text with
  | nil => simp
  | cons char rest ih =>
      by_cases isSpace : char = ' '
      · simpa [isSpace] using ih
      · simp [isSpace]

/-- Openers of literals that start with a buffer of their own. -/
inductive Opens : Char → Literal → List Char → Prop where
  | text : Opens '"' .text []
  | sheetPath : Opens '\'' .sheetPath ['\'']
  | errorCode : Opens '#' .errorCode ['#']

/--
Delimiters that are tokens themselves: the character, the text behind it, the
token and the number of characters behind the first that belong to it.
-/
inductive Separates (nesting : Nesting) : Char → List Char → Token → Nat → Prop where
  | pair {char : Char} {tail pair : List Char}
      (found : pairOperator? char tail = some pair) :
      Separates nesting char tail ⟨.infixOp, pair, some .logical⟩ 1
  | rowSeparator {tail : List Char} :
      Separates nesting ';' tail ⟨.argument, [';'], none⟩ 0
  | blank {tail : List Char} :
      Separates nesting ' ' tail ⟨.blank, [' '], none⟩ (tail.takeWhile (· = ' ')).length
  | percent {tail : List Char} :
      Separates nesting '%' tail ⟨.postfixOp, ['%'], none⟩ 0
  | comma {tail : List Char} :
      Separates nesting ',' tail (commaToken nesting) 0
  | operator {char : Char} {tail : List Char}
      (single : pairOperator? char tail = none)
      (isOperator : isInfixChar char) :
      Separates nesting char tail ⟨.infixOp, [char], none⟩ 0

/-- What a step can do. -/
inductive Rule (state : State) : Char → List Char → Move → Prop where
  | collect {char : Char} {tail : List Char}
      (mode : state.mode = .normal)
      (plain : isDelimiter char = false ∨
        ((char = '+' ∨ char = '-') ∧ awaitsExponent state.buffer)) :
      Rule state char tail { next := state.collect char }
  | separate {char : Char} {tail : List Char} {token : Token} {extra : Nat}
      (mode : state.mode = .normal)
      (noSign : ¬((char = '+' ∨ char = '-') ∧ awaitsExponent state.buffer))
      (separates : Separates state.nesting char tail token extra) :
      Rule state char tail { Scan.separate state token with extra := extra }
  | openLiteral {char : Char} {tail kept : List Char} {literal : Literal}
      (mode : state.mode = .normal)
      (opens : Opens char literal kept) :
      Rule state char tail (Scan.openLiteral state literal kept)
  | openBracketRange {tail : List Char}
      (mode : state.mode = .normal) :
      Rule state '[' tail (Scan.openBracketRange state)
  | openArray {tail : List Char}
      (mode : state.mode = .normal) :
      Rule state '{' tail (Scan.openArray state)
  | openParenthesis {tail : List Char}
      (mode : state.mode = .normal) :
      Rule state '(' tail (Scan.openParenthesis state)
  | closeArray {tail : List Char} {row : Token} {outer : Nesting}
      (mode : state.mode = .normal)
      (nesting : state.nesting = row :: outer)
      (isRow : row.isArrayRow) :
      Rule state '}' tail
        { next := { state.cleared with nesting := outer.tail }
          emitted :=
            state.flush .operand ++
              [some (Nesting.stopFor row arrayRowStopText),
                outer.head?.map fun wrapper => Nesting.stopFor wrapper arrayStopText] }
  | closeParenthesis {tail : List Char} {opener : Token} {outer : Nesting}
      (mode : state.mode = .normal)
      (nesting : state.nesting = opener :: outer)
      (noRow : opener.isArrayRow = false) :
      Rule state ')' tail
        { next := { state.cleared with nesting := outer }
          emitted := state.flush .operand ++ [some (Nesting.stopFor opener [])] }
  | unbalancedArray {tail : List Char}
      (mode : state.mode = .normal)
      (noRow : state.nesting.head?.any Token.isArrayRow = false) :
      Rule state '}' tail (unbalanced state '}')
  | unbalancedParenthesis {tail : List Char}
      (mode : state.mode = .normal)
      (noGroup : state.nesting.head?.all Token.isArrayRow) :
      Rule state ')' tail (unbalanced state ')')
  | escapedQuote {rest : List Char}
      (mode : state.mode = .inside .text) :
      Rule state '"' ('"' :: rest) { next := state.collect '"', extra := 1 }
  | endText {tail : List Char}
      (mode : state.mode = .inside .text)
      (single : tail.head? ≠ some '"') :
      Rule state '"' tail
        { next := { state.cleared with mode := .normal }
          emitted := [some ⟨.operand, state.buffer, some .text⟩] }
  | textCharacter {char : Char} {tail : List Char}
      (mode : state.mode = .inside .text)
      (noQuote : char ≠ '"') :
      Rule state char tail { next := state.collect char }
  | escapedApostrophe {rest : List Char}
      (mode : state.mode = .inside .sheetPath) :
      Rule state '\'' ('\'' :: rest) { next := state.collect '\'', extra := 1 }
  | endSheetPath {tail : List Char}
      (mode : state.mode = .inside .sheetPath)
      (single : tail.head? ≠ some '\'') :
      Rule state '\'' tail { next := { state.collect '\'' with mode := .normal } }
  | sheetPathCharacter {char : Char} {tail : List Char}
      (mode : state.mode = .inside .sheetPath)
      (noQuote : char ≠ '\'') :
      Rule state char tail { next := state.collect char }
  | innerBracket {tail : List Char}
      (mode : state.mode = .inside .bracketRange) :
      Rule state '[' tail
        { next := { state.collect '[' with bracketDepth := state.bracketDepth + 1 } }
  | endInnerBracket {tail : List Char}
      (mode : state.mode = .inside .bracketRange)
      (inner : 1 < state.bracketDepth) :
      Rule state ']' tail
        { next := { state.collect ']' with bracketDepth := state.bracketDepth - 1 } }
  | endBracketRange {tail : List Char}
      (mode : state.mode = .inside .bracketRange)
      (outermost : state.bracketDepth ≤ 1) :
      Rule state ']' tail
        { next := { state.collect ']' with bracketDepth := 0, mode := .normal } }
  | bracketCharacter {char : Char} {tail : List Char}
      (mode : state.mode = .inside .bracketRange)
      (noOpener : char ≠ '[')
      (noCloser : char ≠ ']') :
      Rule state char tail { next := state.collect char }
  | endErrorCode {char : Char} {tail : List Char}
      (mode : state.mode = .inside .errorCode)
      (complete : state.buffer ++ [char] ∈ errorCodes) :
      Rule state char tail
        { next := { state.cleared with mode := .normal }
          emitted := [some ⟨.operand, state.buffer ++ [char], some .error⟩] }
  | errorCodeCharacter {char : Char} {tail : List Char}
      (mode : state.mode = .inside .errorCode)
      (incomplete : state.buffer ++ [char] ∉ errorCodes) :
      Rule state char tail { next := state.collect char }

/-! ## Every step follows a rule -/

private theorem rule_of_delimiter
    (state : State) (char : Char) (tail : List Char)
    (mode : state.mode = .normal)
    (noSign : ¬((char = '+' ∨ char = '-') ∧ awaitsExponent state.buffer))
    (single : pairOperator? char tail = none) :
    Rule state char tail (stepDelimiter state char tail) := by
  unfold stepDelimiter
  split
  · exact .openLiteral mode .text
  · exact .openLiteral mode .sheetPath
  · exact .openBracketRange mode
  · exact .openLiteral mode .errorCode
  · exact .openArray mode
  · exact .separate mode noSign .rowSeparator
  · -- a closing brace is balanced when an array row is innermost
    unfold closeArray
    cases groups : state.nesting with
    | nil =>
        rw [if_neg (by simp [Nesting.top?])]
        exact .unbalancedArray mode (by simp [groups])
    | cons opener outer =>
        by_cases isRow : opener.isArrayRow
        · have closed : Rule state '}' tail _ := .closeArray mode groups isRow
          cases outer <;> simpa [Nesting.top?, Nesting.close, isRow] using closed
        · rw [if_neg (by simpa [Nesting.top?] using isRow)]
          exact .unbalancedArray mode (by simpa [groups] using isRow)
  · exact .separate mode noSign .blank
  · exact .separate mode noSign .percent
  · exact .openParenthesis mode
  · exact .separate mode noSign .comma
  · unfold closeParenthesis
    split
    · next groups => exact .unbalancedParenthesis mode (by simp [groups])
    · next opener outer groups =>
        split
        · next isRow => exact .unbalancedParenthesis mode (by simpa [groups] using isRow)
        · next noRow => exact .closeParenthesis mode groups (by simpa using noRow)
  · next char noQuote noApostrophe noBracket noHash noBrace noSemicolon noCloser noSpace
      noPercent noParenthesis noComma noClosing =>
        split
        · next isOperator => exact .separate mode noSign (.operator single isOperator)
        · next noOperator =>
            refine .collect mode (.inl ?_)
            simp only [isInfixChar, isDelimiter] at noOperator ⊢
            simp_all

private theorem rule_of_normal
    (state : State) (char : Char) (tail : List Char)
    (mode : state.mode = .normal) :
    Rule state char tail (stepNormal state char tail) := by
  unfold stepNormal
  split
  · next sign => exact .collect mode (.inr sign)
  · next noSign =>
      split
      · next pair found => exact .separate mode noSign (.pair found)
      · next single => exact rule_of_delimiter state char tail mode noSign single

/-- Every step follows one of the rules. -/
theorem stepMode_rule (state : State) (char : Char) (tail : List Char) :
    Rule state char tail (stepMode state char tail) := by
  unfold stepMode
  split
  · next mode => exact rule_of_normal state char tail mode
  · next mode =>
      unfold stepText
      split
      · next isQuote =>
          subst isQuote
          split
          · next doubled =>
              obtain ⟨rest, rfl⟩ := List.head?_eq_some_iff.mp doubled
              exact .escapedQuote mode
          · next single => exact .endText mode single
      · next noQuote => exact .textCharacter mode noQuote
  · next mode =>
      unfold stepSheetPath
      split
      · next isQuote =>
          subst isQuote
          split
          · next doubled =>
              obtain ⟨rest, rfl⟩ := List.head?_eq_some_iff.mp doubled
              exact .escapedApostrophe mode
          · next single => exact .endSheetPath mode single
      · next noQuote => exact .sheetPathCharacter mode noQuote
  · next mode =>
      simp only [stepBracketRange]
      split
      · next isOpener =>
          subst isOpener
          exact .innerBracket mode
      · next noOpener =>
          split
          · next isCloser =>
              subst isCloser
              by_cases inner : 1 < state.bracketDepth
              · have stays : ¬ state.bracketDepth - 1 = 0 := by omega
                rw [if_neg stays]
                exact .endInnerBracket mode inner
              · have ends : state.bracketDepth - 1 = 0 := by omega
                rw [if_pos ends, ends]
                exact .endBracketRange mode (by omega)
          · next noCloser => exact .bracketCharacter mode noOpener noCloser
  · next mode =>
      simp only [stepErrorCode]
      split
      · next complete => exact .endErrorCode mode (by simpa [State.collect] using complete)
      · next incomplete =>
          exact .errorCodeCharacter mode (by simpa [State.collect] using incomplete)

/-! ## Rules that decide the step -/

theorem Separates.isDelimiter_eq
    {nesting : Nesting} {char : Char} {tail : List Char} {token : Token} {extra : Nat}
    (separates : Separates nesting char tail token extra) :
    isDelimiter char = true := by
  cases separates with
  | pair found =>
      unfold pairOperator? at found
      split at found <;> simp_all [isDelimiter]
  | operator _ isOperator => exact check_infixChar isDelimiter (by decide) isOperator
  | _ => simp [isDelimiter]

/-- A delimiter that is a token by itself completes the buffer. -/
theorem stepMode_separates
    {state : State} {char : Char} {tail : List Char} {token : Token} {extra : Nat}
    (mode : state.mode = .normal)
    (noSign : ¬((char = '+' ∨ char = '-') ∧ awaitsExponent state.buffer))
    (separates : Separates state.nesting char tail token extra) :
    stepMode state char tail = { Scan.separate state token with extra := extra } := by
  simp only [stepMode, mode, stepNormal, if_neg noSign]
  cases separates with
  | pair found => simp [found]
  | operator single isOperator =>
      simp only [single]
      have member := mem_infixChars isOperator
      simp only [infixChars, List.mem_cons, List.not_mem_nil, or_false] at member
      rcases member with rfl | rfl | rfl | rfl | rfl | rfl | rfl | rfl | rfl <;> rfl
  | _ => rfl

/-- Outside literals a character that is no delimiter is collected. -/
theorem stepMode_plain
    {state : State} {char : Char}
    (mode : state.mode = .normal)
    (plain : isDelimiter char = false)
    (tail : List Char) :
    stepMode state char tail = { next := state.collect char } := by
  have rule := stepMode_rule state char tail
  generalize stepMode state char tail = move at rule
  cases rule with
  | collect => rfl
  | separate _ _ separates =>
      have delimiter := separates.isDelimiter_eq
      simp [plain] at delimiter
  | openLiteral _ opens => cases opens <;> simp [isDelimiter] at plain
  | _ => simp_all [isDelimiter]

/-- The token that spaces leave. -/
def blankToken : Token := ⟨.blank, [' '], none⟩

/-- Outside literals, spaces complete the buffer and leave one blank. -/
theorem stepMode_space
    {state : State} (mode : state.mode = .normal) (tail : List Char) :
    stepMode state ' ' tail =
      { separate state blankToken with extra := (tail.takeWhile (· = ' ')).length } :=
  stepMode_separates mode (by simp) .blank

theorem step_entries (strict : Bool) (state : State) (char : Char) (tail : List Char) :
    (step state char tail).entries strict = (stepMode state char tail).entries strict := rfl

theorem step_space_entries
    {state : State} (mode : state.mode = .normal) (tail : List Char) :
    (step state ' ' tail).entries false = state.flush .operand ++ [some blankToken] := by
  simp [step, stepMode_space mode, Move.entries, separate]

theorem step_space_rest
    {state : State} (mode : state.mode = .normal) (tail : List Char) :
    tail.drop (step state ' ' tail).extra = behindSpaces tail := by
  simp [step, stepMode_space mode, behindSpaces]

theorem stepMode_opens
    {state : State} {char : Char} {kept : List Char} {literal : Literal}
    (mode : state.mode = .normal)
    (opens : Opens char literal kept)
    (tail : List Char) :
    stepMode state char tail = openLiteral state literal kept := by
  simp only [stepMode, mode]
  cases opens with
  | text => rfl
  | sheetPath => rfl
  | errorCode => rfl

theorem stepMode_closeArray
    {state : State}
    (mode : state.mode = .normal)
    (tail : List Char) :
    stepMode state '}' tail = closeArray state := by
  simp only [stepMode, mode]
  rfl

theorem stepMode_closeParenthesis
    {state : State}
    (mode : state.mode = .normal)
    (tail : List Char) :
    stepMode state ')' tail = closeParenthesis state := by
  simp only [stepMode, mode]
  rfl

/-- The rules are exact: the step makes the move of any rule that applies. -/
theorem Rule.stepMode_eq
    {state : State} {char : Char} {tail : List Char} {move : Move}
    (rule : Rule state char tail move) :
    stepMode state char tail = move := by
  cases rule with
  | collect mode plain =>
      rcases plain with noDelimiter | sign
      · exact stepMode_plain mode noDelimiter tail
      · simp only [stepMode, mode, stepNormal, if_pos sign]
  | separate mode noSign separates => exact stepMode_separates mode noSign separates
  | openLiteral mode opens => exact stepMode_opens mode opens tail
  | openBracketRange mode | openArray mode | openParenthesis mode =>
      simp only [stepMode, mode]
      rfl
  | @closeArray _ row outer mode nesting isRow =>
      rw [stepMode_closeArray mode]
      cases outer <;> simp [Scan.closeArray, nesting, isRow, Nesting.top?, Nesting.close]
  | closeParenthesis mode nesting noRow =>
      rw [stepMode_closeParenthesis mode]
      simp [Scan.closeParenthesis, nesting, noRow]
  | unbalancedArray mode noRow =>
      rw [stepMode_closeArray mode, Scan.closeArray, if_neg (by simpa [Nesting.top?] using noRow)]
  | unbalancedParenthesis mode noGroup =>
      rw [stepMode_closeParenthesis mode]
      unfold Scan.closeParenthesis
      split <;> simp_all
  | escapedQuote mode => simp [stepMode, mode, stepText]
  | endText mode single => simp [stepMode, mode, stepText, single]
  | textCharacter mode noQuote => simp [stepMode, mode, stepText, noQuote]
  | escapedApostrophe mode => simp [stepMode, mode, stepSheetPath]
  | endSheetPath mode single => simp [stepMode, mode, stepSheetPath, single]
  | sheetPathCharacter mode noQuote => simp [stepMode, mode, stepSheetPath, noQuote]
  | innerBracket mode => simp [stepMode, mode, stepBracketRange]
  | endInnerBracket mode inner =>
      have stays : ¬ state.bracketDepth - 1 = 0 := by omega
      simp [stepMode, mode, stepBracketRange, stays]
  | endBracketRange mode outermost =>
      have ends : state.bracketDepth - 1 = 0 := by omega
      simp [stepMode, mode, stepBracketRange, ends]
  | bracketCharacter mode noOpener noCloser =>
      simp [stepMode, mode, stepBracketRange, noOpener, noCloser]
  | endErrorCode mode complete => simp [stepMode, mode, stepErrorCode, complete]
  | errorCodeCharacter mode incomplete => simp [stepMode, mode, stepErrorCode, incomplete]

/-! ## What a step leaves -/

/-- The tokens that a step can leave, with what is known of the place. -/
inductive Completed (state : State) (char : Char) (tail : List Char) : Token → Prop where
  | operand
      (mode : state.mode = .normal)
      (nonempty : state.buffer ≠ []) :
      Completed state char tail ⟨.operand, state.buffer, none⟩
  | unknown
      (mode : state.mode = .normal) :
      Completed state char tail ⟨.unknown, state.buffer, none⟩
  | separator {token : Token} {extra : Nat}
      (mode : state.mode = .normal)
      (separates : Separates state.nesting char tail token extra) :
      Completed state char tail token
  | array {name : List Char}
      (reserved : name = arrayText ∨ name = arrayRowText) :
      Completed state char tail ⟨.function, name, some .start⟩
  | subexpression :
      Completed state char tail ⟨.subexpression, [], some .start⟩
  | call :
      Completed state char tail ⟨.function, state.buffer, some .start⟩
  | stop {opener : Token} {value : List Char}
      (isOpen : opener ∈ state.nesting)
      (known : value ∈ [[], arrayRowStopText, arrayStopText]) :
      Completed state char tail (Nesting.stopFor opener value)
  | closer {mark : Char}
      (isCloser : mark = '}' ∨ mark = ')') :
      Completed state char tail ⟨.unknown, [mark], none⟩
  | text
      (mode : state.mode = .inside .text) :
      Completed state char tail ⟨.operand, state.buffer, some .text⟩
  | error
      (complete : state.buffer ++ [char] ∈ errorCodes) :
      Completed state char tail ⟨.operand, state.buffer ++ [char], some .error⟩

theorem State.mem_flush
    {state : State} {kind : Kind} {token : Token}
    (member : some token ∈ state.flush kind) :
    state.buffer ≠ [] ∧ token = ⟨kind, state.buffer, none⟩ := by
  unfold State.flush at member
  split at member
  · cases member
  · next nonempty =>
      cases List.mem_singleton.mp member
      exact ⟨by simpa using nonempty, rfl⟩

theorem Rule.completed
    {state : State} {char : Char} {tail : List Char} {move : Move} {token : Token}
    (rule : Rule state char tail move)
    (member : some token ∈ move.entries false) :
    Completed state char tail token := by
  have operand (mode : state.mode = .normal) (flushed : some token ∈ state.flush .operand) :
      Completed state char tail token := by
    rcases State.mem_flush flushed with ⟨nonempty, rfl⟩
    exact .operand mode nonempty
  have unknown (mode : state.mode = .normal) (flushed : some token ∈ state.flush .unknown) :
      Completed state char tail token := by
    rcases State.mem_flush flushed with ⟨-, rfl⟩
    exact .unknown mode
  rcases List.mem_append.mp member with emitted | recovered
  · cases rule with
    | separate mode _ separates =>
        rcases List.mem_append.mp emitted with flushed | last
        · exact operand mode flushed
        · cases List.mem_singleton.mp last
          exact .separator mode separates
    | openLiteral mode => exact unknown mode emitted
    | openArray mode =>
        rcases List.mem_append.mp emitted with flushed | opener
        · exact unknown mode flushed
        · simp only [List.mem_cons, Option.some.injEq, List.not_mem_nil, or_false] at opener
          rcases opener with rfl | rfl
          · exact .array (.inl rfl)
          · exact .array (.inr rfl)
    | openParenthesis =>
        cases List.mem_singleton.mp emitted
        split
        · exact .subexpression
        · exact .call
    | @closeArray _ row outer mode nesting =>
        rcases List.mem_append.mp emitted with flushed | stop
        · exact operand mode flushed
        · rcases List.mem_cons.mp stop with same | last
          · cases same
            exact .stop (by simp [nesting]) (by simp)
          · cases outer with
            | nil => cases List.mem_singleton.mp last
            | cons wrapper others =>
                cases List.mem_singleton.mp last
                exact .stop (by simp [nesting]) (by simp)
    | closeParenthesis mode nesting =>
        rcases List.mem_append.mp emitted with flushed | stop
        · exact operand mode flushed
        · cases List.mem_singleton.mp stop
          exact .stop (by simp [nesting]) (by simp)
    | unbalancedArray mode => exact operand mode emitted
    | unbalancedParenthesis mode => exact operand mode emitted
    | endText mode =>
        cases List.mem_singleton.mp emitted
        exact .text mode
    | endErrorCode _ complete =>
        cases List.mem_singleton.mp emitted
        exact .error complete
    | _ => cases emitted
  · cases rule with
    | unbalancedArray =>
        cases List.mem_singleton.mp recovered
        exact .closer (.inl rfl)
    | unbalancedParenthesis =>
        cases List.mem_singleton.mp recovered
        exact .closer (.inr rfl)
    | _ => cases recovered

end SheetFormula.Scan
