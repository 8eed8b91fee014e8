import SheetFormula.Classification
import SheetFormula.Intersection
import SheetFormula.Proofs.Scan.Rules
import SheetFormula.Text.Blank

/-!
# The grammar of classified tokens

A formula is an expression: units with operators between them.  A unit is a
primary with minus signs before it and percent signs behind it.  A primary is
an operand, a parenthesised expression, a call or an array literal.

A comma joins a union where it stands directly in a parenthesis or outside of
all groups; directly in a call or an array it separates arguments.  An
intersection stands only where the tokens on both of its sides can belong to
ranges.
-/

namespace SheetFormula.RoundTrip

/-! ## Words -/

/-- Texts that the scanner collects character by character. -/
structure IsWord (value : List Char) : Prop where
  nonempty : value ≠ []
  plain : ∀ char ∈ value, Scan.isDelimiter char = false ∧ Text.isBlank char = false

instance (value : List Char) : Decidable (IsWord value) :=
  decidable_of_iff
    (value ≠ [] ∧ value.all fun char => !Scan.isDelimiter char && !Text.isBlank char)
    ⟨fun ⟨nonempty, plain⟩ => ⟨nonempty, by simpa using plain⟩,
      fun ⟨nonempty, plain⟩ => ⟨nonempty, by simpa using plain⟩⟩

/-- Names of functions: words without the mark of implicit intersection that are not reserved. -/
structure IsName (name : List Char) : Prop extends IsWord name where
  unmarked : name.head? ≠ some '@'
  unreserved : name ≠ arrayText ∧ name ≠ arrayRowText ∧ name ≠ arrayStopText

/-- Texts without line breaks. -/
def IsLine (value : List Char) : Prop :=
  ∀ char ∈ value, char ≠ '\r' ∧ char ≠ '\n'

/-- Comparison operators of two characters. -/
def comparisons : List (List Char) :=
  [['>', '='], ['<', '='], ['<', '>']]

/-! ## Tokens -/

/-- The operands of a formula. -/
inductive IsOperand : Token → Prop where
  | text {value : List Char}
      (isLine : IsLine value) :
      IsOperand ⟨.operand, value, some .text⟩
  | error {code : List Char}
      (known : code ∈ errorCodes) :
      IsOperand ⟨.operand, code, some .error⟩
  | word {value : List Char}
      (isWord : IsWord value) :
      IsOperand ⟨.operand, value, some (Classification.operandSubkind value)⟩

/-- The operators between two units, intersections apart; `unions` tells whether a comma joins. -/
inductive IsInfix (unions : Bool) : Token → Prop where
  | operator {mark : Char}
      (isOperator : Scan.isInfixChar mark) :
      IsInfix unions ⟨.infixOp, [mark], some (Classification.infixSubkind [mark])⟩
  | comparison {pair : List Char}
      (known : pair ∈ comparisons) :
      IsInfix unions ⟨.infixOp, pair, some (Classification.infixSubkind pair)⟩
  | union
      (joins : unions) :
      IsInfix unions ⟨.infixOp, [','], some .union⟩

/-! The remaining tokens are fixed up to the name of a function or the mark of a separator. -/

def intersection : Token := ⟨.infixOp, [' '], some .intersect⟩

def minus : Token := ⟨.prefixOp, ['-'], none⟩

def percent : Token := ⟨.postfixOp, ['%'], none⟩

def separator (mark : Char) : Token := ⟨.argument, [mark], none⟩

def subexpressionStart : Token := ⟨.subexpression, [], some .start⟩

def subexpressionStop : Token := ⟨.subexpression, [], some .stop⟩

def functionStart (name : List Char) : Token := ⟨.function, name, some .start⟩

def functionStop : Token := ⟨.function, [], some .stop⟩

def arrayStart : Token := ⟨.function, arrayText, some .start⟩

def arrayRowStart : Token := ⟨.function, arrayRowText, some .start⟩

def arrayRowStop : Token := ⟨.function, arrayRowStopText, some .stop⟩

def arrayStop : Token := ⟨.function, arrayStopText, some .stop⟩

/-! ## Phrases -/

/-- The kinds of phrases; `unions` tells whether a comma joins a union. -/
inductive Phrase where
  | expression (unions : Bool)
  | optional (unions : Bool)
  | arguments
  | unit
  | primary

/-- The tokens of a phrase. -/
inductive Derives : Phrase → List Token → Prop where
  | operand {token : Token}
      (isOperand : IsOperand token) :
      Derives .primary [token]
  | subexpression {inner : List Token}
      (inside : Derives (.optional true) inner) :
      Derives .primary (subexpressionStart :: inner ++ [subexpressionStop])
  | call {name : List Char} {inner : List Token}
      (isName : IsName name)
      (inside : Derives .arguments inner) :
      Derives .primary (functionStart name :: inner ++ [functionStop])
  | array {inner : List Token}
      (inside : Derives .arguments inner) :
      Derives .primary (arrayStart :: arrayRowStart :: inner ++ [arrayRowStop, arrayStop])
  | unit {tokens : List Token} (signs percents : Nat)
      (primary : Derives .primary tokens) :
      Derives .unit
        (List.replicate signs minus ++ tokens ++ List.replicate percents percent)
  | single {unions : Bool} {tokens : List Token}
      (unit : Derives .unit tokens) :
      Derives (.expression unions) tokens
  | joined {unions : Bool} {left right : List Token} {operator : Token}
      (unit : Derives .unit left)
      (isInfix : IsInfix unions operator)
      (later : Derives (.expression unions) right) :
      Derives (.expression unions) (left ++ operator :: right)
  | crossed {unions : Bool} {left right : List Token}
      (unit : Derives .unit left)
      (ends : left.getLast?.any Token.endsRange)
      (later : Derives (.expression unions) right)
      (starts : right.head?.any Token.startsRange) :
      Derives (.expression unions) (left ++ intersection :: right)
  | nothing {unions : Bool} :
      Derives (.optional unions) []
  | something {unions : Bool} {tokens : List Token}
      (expression : Derives (.expression unions) tokens) :
      Derives (.optional unions) tokens
  | lastArgument {tokens : List Token}
      (argument : Derives (.optional false) tokens) :
      Derives .arguments tokens
  | moreArguments {tokens others : List Token} {mark : Char}
      (argument : Derives (.optional false) tokens)
      (isMark : mark = ',' ∨ mark = ';')
      (later : Derives .arguments others) :
      Derives .arguments (tokens ++ separator mark :: others)

/-- The token lists of formulas. -/
def Grammatical (tokens : List Token) : Prop :=
  Derives (.expression true) tokens

end SheetFormula.RoundTrip
