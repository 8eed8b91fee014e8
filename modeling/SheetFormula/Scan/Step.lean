import SheetFormula.Scan.State
import SheetFormula.Text.Digit

/-!
# Steps of the scanner

`step` reads at least one character.  The functions before it give its rules,
one for each mode and, in normal mode, one for each delimiter.  None of them
touches the position: `step` moves it by the number of characters read.
-/

namespace SheetFormula.Scan

/-- A mantissa that waits for the sign of its exponent, such as `1.5E`. -/
def awaitsExponent : List Char → Bool
  | [] => false
  | lead :: rest =>
      ('1' ≤ lead && lead ≤ '9') &&
        (endsInMark rest || match rest with
          | '.' :: fraction =>
              (fraction.head?.any Text.isAsciiDigit) &&
                endsInMark (fraction.dropWhile Text.isAsciiDigit)
          | _ => false)
where
  /-- The exponent mark, with at most a line feed behind it. -/
  endsInMark (rest : List Char) : Bool :=
    rest == ['E'] || rest == ['E', '\n']

/-- Comparison operators of two characters. -/
def pairOperator? : Char → List Char → Option (List Char)
  | '>', '=' :: _ => some ['>', '=']
  | '<', '=' :: _ => some ['<', '=']
  | '<', '>' :: _ => some ['<', '>']
  | _, _ => none

namespace State

/-- The buffer as a token of a given kind; an empty buffer gives none. -/
def flush (state : State) (kind : Kind) : List Entry :=
  if state.buffer.isEmpty then [] else [some ⟨kind, state.buffer, none⟩]

/-- The state with a character added to the buffer. -/
def collect (state : State) (char : Char) : State :=
  { state with buffer := state.buffer ++ [char] }

@[simp]
theorem collect_buffer (state : State) (char : Char) :
    (state.collect char).buffer = state.buffer ++ [char] := rfl

@[simp]
theorem collect_mode (state : State) (char : Char) :
    (state.collect char).mode = state.mode := rfl

@[simp]
theorem collect_nesting (state : State) (char : Char) :
    (state.collect char).nesting = state.nesting := rfl

@[simp]
theorem collect_literalStart (state : State) (char : Char) :
    (state.collect char).literalStart = state.literalStart := rfl

@[simp]
theorem collect_bracketDepth (state : State) (char : Char) :
    (state.collect char).bracketDepth = state.bracketDepth := rfl

/-- The state with an empty buffer. -/
def cleared (state : State) : State :=
  { state with buffer := [] }

@[simp]
theorem cleared_buffer (state : State) : state.cleared.buffer = [] := rfl

@[simp]
theorem cleared_mode (state : State) : state.cleared.mode = state.mode := rfl

@[simp]
theorem cleared_nesting (state : State) : state.cleared.nesting = state.nesting := rfl

end State

/-! ## Inside literals -/

/-- In a string a doubled quote stands for one, and a single quote ends the string. -/
def stepText (state : State) (char : Char) (tail : List Char) : Move :=
  if char = '"' then
    if tail.head? = some '"' then
      { next := state.collect '"', extra := 1 }
    else
      { next := { state.cleared with mode := .normal }
        emitted := [some ⟨.operand, state.buffer, some .text⟩] }
  else
    { next := state.collect char }

/--
In a sheet name a doubled quote stands for one.  The enclosing quotes stay in
the buffer, which goes on as an operand.
-/
def stepSheetPath (state : State) (char : Char) (tail : List Char) : Move :=
  if char = '\'' then
    if tail.head? = some '\'' then
      { next := state.collect '\'', extra := 1 }
    else
      { next := { state.collect char with mode := .normal } }
  else
    { next := state.collect char }

/-- A bracketed range ends with the bracket that matches its first one. -/
def stepBracketRange (state : State) (char : Char) : Move :=
  let collected := state.collect char
  if char = '[' then
    { next := { collected with bracketDepth := state.bracketDepth + 1 } }
  else if char = ']' then
    let depth := state.bracketDepth - 1
    let mode := if depth = 0 then Mode.normal else state.mode
    { next := { collected with bracketDepth := depth, mode := mode } }
  else
    { next := collected }

/-- An error code ends as soon as the buffer is one of the known codes. -/
def stepErrorCode (state : State) (char : Char) : Move :=
  let collected := state.collect char
  if errorCodes.contains collected.buffer then
    { next := { state.cleared with mode := .normal }
      emitted := [some ⟨.operand, collected.buffer, some .error⟩] }
  else
    { next := collected }

/-! ## Delimiters -/

/-- A literal opens; what was collected before it is no operand. -/
def openLiteral (state : State) (literal : Literal) (kept : List Char) : Move :=
  { next :=
      { state with
        buffer := kept
        mode := .inside literal
        literalStart := state.position }
    emitted := state.flush .unknown }

/-- A bracket continues the operand it stands in. -/
def openBracketRange (state : State) : Move :=
  { next :=
      { state.collect '[' with
        mode := .inside .bracketRange
        literalStart := state.position
        bracketDepth := 1 } }

/-- A brace opens an array wrapper and its first row. -/
def openArray (state : State) : Move :=
  let wrapper : Token := ⟨.function, arrayText, some .start⟩
  let row : Token := ⟨.function, arrayRowText, some .start⟩
  { next := { state.cleared with nesting := (state.nesting.push wrapper).push row }
    emitted := state.flush .unknown ++ [some wrapper, some row] }

/-- A delimiter that completes the operand before it and is a token itself. -/
def separate (state : State) (token : Token) : Move :=
  { next := state.cleared
    emitted := state.flush .operand ++ [some token] }

/-- A closer without a group of its own is kept as an unknown token. -/
def unbalanced (state : State) (closer : Char) : Move :=
  { next := state.cleared
    emitted := state.flush .operand
    departure := some (.unbalanced closer state.position)
    recovered := [some ⟨.unknown, [closer], none⟩] }

/-- A closing brace ends an array row and the wrapper around it. -/
def closeArray (state : State) : Move :=
  if state.nesting.top?.any Token.isArrayRow then
    let (row, outer) := state.nesting.close arrayRowStopText
    let (wrapper, rest) := outer.close arrayStopText
    { next := { state.cleared with nesting := rest }
      emitted := state.flush .operand ++ [row, wrapper] }
  else
    unbalanced state '}'

/-- A parenthesis after a name opens a call, otherwise a subexpression. -/
def openParenthesis (state : State) : Move :=
  let opener : Token :=
    if state.buffer.isEmpty then ⟨.subexpression, [], some .start⟩
    else ⟨.function, state.buffer, some .start⟩
  { next := { state.cleared with nesting := state.nesting.push opener }
    emitted := [some opener] }

/-- A closing parenthesis ends the innermost group, which may not be an array row. -/
def closeParenthesis (state : State) : Move :=
  match state.nesting with
  | [] => unbalanced state ')'
  | opener :: outer =>
      if opener.isArrayRow then
        unbalanced state ')'
      else
        { next := { state.cleared with nesting := outer }
          emitted := state.flush .operand ++ [some (Nesting.stopFor opener [])] }

/-- A comma separates arguments directly inside a call, and is a union elsewhere. -/
def commaToken (nesting : Nesting) : Token :=
  if nesting.topKind? = some .function then ⟨.argument, [','], none⟩
  else ⟨.infixOp, [','], some .union⟩

/-- Operators of one character that stand between operands. -/
def isInfixChar (char : Char) : Bool :=
  "+-*/^&=><".toList.contains char

/-- A single character outside literals. -/
def stepDelimiter (state : State) (char : Char) (tail : List Char) : Move :=
  match char with
  | '"' => openLiteral state .text []
  | '\'' => openLiteral state .sheetPath ['\'']
  | '[' => openBracketRange state
  | '#' => openLiteral state .errorCode ['#']
  | '{' => openArray state
  | ';' => separate state ⟨.argument, [';'], none⟩
  | '}' => closeArray state
  | ' ' =>
      { separate state ⟨.blank, [' '], none⟩ with
        extra := (tail.takeWhile (· = ' ')).length }
  | '%' => separate state ⟨.postfixOp, ['%'], none⟩
  | '(' => openParenthesis state
  | ',' => separate state (commaToken state.nesting)
  | ')' => closeParenthesis state
  | char =>
      if isInfixChar char then separate state ⟨.infixOp, [char], none⟩
      else { next := state.collect char }

/-- Outside literals: a sign after a mantissa, a pair operator, or one character. -/
def stepNormal (state : State) (char : Char) (tail : List Char) : Move :=
  if (char = '+' ∨ char = '-') ∧ awaitsExponent state.buffer then
    { next := state.collect char }
  else
    match pairOperator? char tail with
    | some pair =>
        { separate state ⟨.infixOp, pair, some .logical⟩ with extra := 1 }
    | none => stepDelimiter state char tail

/-- The rules of the mode the scan is in. -/
def stepMode (state : State) (char : Char) (tail : List Char) : Move :=
  match state.mode with
  | .normal => stepNormal state char tail
  | .inside .text => stepText state char tail
  | .inside .sheetPath => stepSheetPath state char tail
  | .inside .bracketRange => stepBracketRange state char
  | .inside .errorCode => stepErrorCode state char

/-- Read a character and possibly some of the text behind it. -/
def step (state : State) (char : Char) (tail : List Char) : Move :=
  let move := stepMode state char tail
  { move with
    next := { move.next with position := state.position + 1 + move.extra } }

/-! ## The end of the text -/

/-- At the end an open literal departs; quoted text is kept as it was written. -/
def closeLiteral (text : List Char) (state : State) : Move :=
  match state.mode with
  | .normal =>
      { next := state.cleared, emitted := state.flush .operand }
  | .inside literal =>
      let value :=
        match literal with
        | .text | .sheetPath => text.drop state.literalStart
        | .bracketRange | .errorCode => state.buffer
      { next := { state.cleared with mode := .normal }
        departure := some (.unterminated literal state.literalStart value)
        recovered := [some ⟨.unknown, value, none⟩] }

/-- At the end every group has to be closed. -/
def closeGroups (text : List Char) (state : State) : Move :=
  if state.nesting.isEmpty then { next := state }
  else
    { next := state
      departure := some (.unclosed state.nesting.length text.length) }

end SheetFormula.Scan
