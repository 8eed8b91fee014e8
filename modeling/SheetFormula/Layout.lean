import SheetFormula.Text.Blank
import SheetFormula.Text.Pieces
import SheetFormula.Token

/-!
# Layout

Tokens are laid out as lines of text.  Every group indents what it holds by
one unit, arguments stand on lines of their own, and the values of an array
row share a line.  Each token is written once, as one piece of text that
depends on the tokens before it through a small state and on the one token
behind it.
-/

namespace SheetFormula.Layout

/--
What the layout knows between two tokens: the nesting depth, whether an array
row is open, whether the next token starts a line, the last token, and whether
the text so far ends in a line feed.
-/
structure State where
  depth : Nat := 0
  inArray : Bool := false
  atLineStart : Bool := true
  last : Option Token := none
  endsInBreak : Bool := false
deriving DecidableEq, Repr

/-- The state before the first token. -/
def State.initial : State := {}

/-- Whether a token asks for a line break before it. -/
def wantsBreak (token : Token) : Bool :=
  token.kind == .function || token.kind == .argument || token.kind == .infixOp ||
    token.subkind == some .logical

/-- Whether an operator is directly followed by the token behind it. -/
def attaches (token : Token) : Bool :=
  token.kind == .prefixOp ||
    (token.kind == .infixOp &&
      (token.subkind == some .concatenate || token.subkind == some .intersect))

/-- The units of indentation before a line. -/
def indentation (unit : List Char) (depth : Nat) : List Char :=
  (List.replicate depth unit).flatten

/-- What separates a token from the one before: nothing, an indentation or a space. -/
def lead (unit : List Char) (state : State) : List Char :=
  if state.last.any attaches then []
  else if state.atLineStart then indentation unit state.depth
  else [' ']

/-- The text of a token without spaces. -/
def nameOf (token : Token) : List Char :=
  Text.without ' ' token.value

/--
A sheet name in quotes with the quotes inside it doubled.  A bracket ends the
part of an operand that can hold the name, and the last quote of that part
ends the name.
-/
def quoteSheetName (value : List Char) : List Char :=
  match value with
  | '\'' :: rest =>
      match Text.cutLast? '\'' (Text.upTo '[' rest) with
      | some (name, _) => '\'' :: Text.doubled '\'' name ++ rest.drop name.length
      | none => value
  | _ => value

/-- The quotes of the name before the last quote are doubled. -/
theorem quoteSheetName_of_cut
    {rest name behind : List Char}
    (cut : Text.cutLast? '\'' (Text.upTo '[' rest) = some (name, behind)) :
    quoteSheetName ('\'' :: rest) =
      '\'' :: Text.doubled '\'' name ++ rest.drop name.length := by
  simp [quoteSheetName, cut]

/-- Without a second quote nothing is doubled. -/
theorem quoteSheetName_of_uncut
    {rest : List Char}
    (uncut : Text.cutLast? '\'' (Text.upTo '[' rest) = none) :
    quoteSheetName ('\'' :: rest) = '\'' :: rest := by
  simp [quoteSheetName, uncut]

/-- An opener that is directly followed by its stop. -/
def emptyOpener (unit : List Char) (state : State) (token : Token) : List Char :=
  if token.isArrayRow then lead unit state ++ ['{']
  else lead unit state ++ nameOf token ++ ['(']

/-- The character that ends a group. -/
def closer (token : Token) : Char :=
  if token.value = arrayRowStopText then '}' else ')'

/-- A call, a parenthesis or a part of an array literal. -/
def groupPiece (unit : List Char) (state : State) (token : Token) : List Char :=
  if token.isArrayWrapper then []
  else if token.isStart then
    if token.value = arrayRowText then lead unit state ++ ['{', '\n']
    else lead unit state ++ nameOf token ++ ['(', '\n']
  else if token.isStop then
    '\n' :: indentation unit state.depth ++ [closer token]
  else []

/-- An operand.  An error value takes a space even at the start of a line. -/
def operandPiece (unit : List Char) (state : State) (token : Token) : List Char :=
  match token.subkind with
  | some .text => lead unit state ++ '"' :: Text.doubled '"' token.value ++ ['"']
  | some .error => (if state.last.any attaches then [] else [' ']) ++ token.value
  | _ => lead unit state ++ quoteSheetName token.value

/-- An operator between operands, with the line break asked for behind it. -/
def infixPiece (token : Token) (lineBreak : Bool) : List Char :=
  match token.subkind with
  | some .concatenate => token.value
  | some .intersect => [' ']
  | _ => ' ' :: nameOf token ++ (if lineBreak then ['\n'] else [])

/-- An argument separator outside arrays; behind another one it takes a line. -/
def argumentPiece (unit : List Char) (state : State) (token : Token) : List Char :=
  if state.last.any fun last => last.kind != .argument then token.value ++ ['\n']
  else lead unit state ++ token.value ++ ['\n']

/-- The text of a token that is no part of an empty group. -/
def piece
    (unit : List Char)
    (state : State)
    (token : Token)
    (lineBreak : Bool) :
    List Char :=
  if state.inArray && token.kind == .argument then
    if token.value = [','] then [','] else [';', '\n']
  else
    match token.kind with
    | .function | .subexpression => groupPiece unit state token
    | .operand => operandPiece unit state token
    | .infixOp => infixPiece token lineBreak
    | .argument => argumentPiece unit state token
    | .postfixOp => token.value
    | .prefixOp | .unknown => lead unit state ++ token.value
    | .unionOp | .blank | .noOp => []

/-- The depth at which a token is written. -/
def depthAt (state : State) (token : Token) : Nat :=
  let closesEmpty := state.last.any token.closes
  if token.isStop && !closesEmpty && !token.isArrayWrapper then state.depth - 1
  else state.depth

/-- Whether a token is written inside an array row. -/
def inArrayAt (state : State) (token : Token) : Bool :=
  if token.isArrayRow && token.isStart then true
  else if token.isArrayRowStop then false
  else state.inArray

/-- The piece of text of a token and the state behind it. -/
def step
    (unit : List Char)
    (state : State)
    (token : Token)
    (following : Option Token) :
    List Char × State :=
  let opensEmpty := following.any fun next => next.closes token
  let closesEmpty := state.last.any token.closes
  let here :=
    { state with depth := depthAt state token, inArray := inArrayAt state token }
  let inRow := here.inArray && token.kind == .argument
  let lineBreak :=
    !(opensEmpty || inRow || attaches token) && following.any wantsBreak
  let text :=
    if opensEmpty then emptyOpener unit here token
    else if closesEmpty then [closer token]
    else piece unit here token lineBreak
  let depth :=
    if token.isStart && !opensEmpty && !token.isArrayWrapper then here.depth + 1
    else here.depth
  let endsInBreak :=
    match text.getLast? with
    | some char => char == '\n'
    | none => state.endsInBreak
  (text,
    { depth := depth
      inArray := here.inArray
      atLineStart := lineBreak || endsInBreak
      last := some token
      endsInBreak := endsInBreak })

/-- The pieces of a list of tokens and the state behind them. -/
def run (unit : List Char) (state : State) : List Token → List (List Char) × State
  | [] => ([], state)
  | token :: rest =>
      let (text, next) := step unit state token rest.head?
      let (pieces, final) := run unit next rest
      (text :: pieces, final)

/-- The pieces of text of the tokens of a formula. -/
def pieces (unit : List Char) (tokens : List Token) : List (List Char) :=
  (run unit .initial tokens).1

/-- The state behind the tokens of a formula. -/
def finalState (unit : List Char) (tokens : List Token) : State :=
  (run unit .initial tokens).2

/-- A formula as lines of text. -/
def render (unit : List Char) (tokens : List Token) : List Char :=
  '=' :: Text.trim (pieces unit tokens).flatten

/-- The unit of indentation when none is asked for. -/
def defaultUnit : List Char := List.replicate 4 ' '

end SheetFormula.Layout
