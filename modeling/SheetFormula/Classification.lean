import SheetFormula.Number
import SheetFormula.Token

/-!
# Classification

Classification decides what scanning leaves open.  A plus or minus is binary
behind a value and unary elsewhere; a unary minus becomes a prefix operator and
a unary plus disappears.  Operators and operands without a subkind get one.
The mark of implicit intersection is taken off function names.
-/

namespace SheetFormula.Classification

/-- Whether a token ends a value, so that a sign behind it is binary. -/
def endsValue (token : Token) : Bool :=
  token.kind == .operand || token.kind == .postfixOp ||
    (token.isStop && token.isGroup)

/-- The subkind of an operand by its text. -/
def operandSubkind (value : List Char) : Subkind :=
  if Number.isNumber value then .number
  else if value = "TRUE".toList ∨ value = "FALSE".toList then .logical
  else .range

/-- The subkind of an operator by its text. -/
def infixSubkind (value : List Char) : Subkind :=
  if value.head?.any fun char => char == '<' || char == '>' || char == '=' then .logical
  else if value = ['&'] then .concatenate
  else .math

/-- A token in its final form, given whether it stands behind a value. -/
def classifyToken (behindValue : Bool) (token : Token) : Token :=
  match token.kind with
  | .infixOp =>
      if token.value = ['-'] then
        if behindValue then { token with subkind := some .math }
        else { token with kind := .prefixOp, subkind := none }
      else if token.value = ['+'] then
        if behindValue then { token with subkind := some .math }
        else { token with kind := .noOp, subkind := none }
      else
        match token.subkind with
        | none => { token with subkind := some (infixSubkind token.value) }
        | some _ => token
  | .operand =>
      match token.subkind with
      | none => { token with subkind := some (operandSubkind token.value) }
      | some _ => token
  | .function =>
      if token.isStart then
        match token.value with
        | '@' :: name => { token with value := name }
        | _ => token
      else token
  | _ => token

/-- Classify a list behind a token; what counts is that token before classification. -/
def classifyAfter (previous : Option Token) : List Token → List Token
  | [] => []
  | token :: rest =>
      let final := classifyToken (previous.any endsValue) token
      if final.kind = .noOp then classifyAfter (some token) rest
      else final :: classifyAfter (some token) rest

/-- Classify the tokens of a formula. -/
def classify (tokens : List Token) : List Token :=
  classifyAfter none tokens

@[simp]
theorem classify_nil : classify [] = [] := rfl

end SheetFormula.Classification
