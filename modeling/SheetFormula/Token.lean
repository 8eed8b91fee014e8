import SheetFormula.Text.Quoted

/-!
# Tokens of a formula

A token has a kind, a text and, for some kinds, a subkind.  Openers and stops
of groups are tokens of the same kind that differ in their subkind.  An array
literal is written with two nested groups, a wrapper and its row, whose
tokens carry reserved texts.

`Token.make` accepts a subkind only where it belongs to the kind; tokens
built in other ways may combine any kind with any subkind.
-/

namespace SheetFormula

/-- What a token is. -/
inductive Kind where
  | operand
  | infixOp
  | prefixOp
  | postfixOp
  | function
  | subexpression
  | argument
  | unionOp
  | blank
  | noOp
  | unknown
deriving DecidableEq, Repr

/-- The name of a kind. -/
def Kind.name : Kind → String
  | .operand => "operand"
  | .infixOp => "operator-infix"
  | .prefixOp => "operator-prefix"
  | .postfixOp => "operator-postfix"
  | .function => "function"
  | .subexpression => "subexpression"
  | .argument => "argument"
  | .unionOp => "operator-union"
  | .blank => "white-space"
  | .noOp => "no-op"
  | .unknown => "unknown"

/-- All kinds. -/
def Kind.all : List Kind :=
  [.operand, .infixOp, .prefixOp, .postfixOp, .function, .subexpression,
    .argument, .unionOp, .blank, .noOp, .unknown]

/-- The kind with a given name. -/
def Kind.ofName? (name : String) : Option Kind :=
  Kind.all.find? fun kind => kind.name == name

/-- A finer distinction within a kind. -/
inductive Subkind where
  | text
  | number
  | logical
  | range
  | error
  | math
  | concatenate
  | intersect
  | union
  | start
  | stop
deriving DecidableEq, Repr

/-- The name of a subkind. -/
def Subkind.name : Subkind → String
  | .text => "text"
  | .number => "number"
  | .logical => "logical"
  | .range => "range"
  | .error => "error"
  | .math => "math"
  | .concatenate => "concatenate"
  | .intersect => "intersect"
  | .union => "union"
  | .start => "start"
  | .stop => "stop"

/-- All subkinds. -/
def Subkind.all : List Subkind :=
  [.text, .number, .logical, .range, .error, .math, .concatenate,
    .intersect, .union, .start, .stop]

/-- The subkind with a given name. -/
def Subkind.ofName? (name : String) : Option Subkind :=
  Subkind.all.find? fun subkind => subkind.name == name

/-- Whether a subkind belongs to a kind. -/
def Kind.allows : Kind → Subkind → Bool
  | .operand, .text | .operand, .number | .operand, .logical
  | .operand, .range | .operand, .error => true
  | .infixOp, .math | .infixOp, .logical | .infixOp, .concatenate
  | .infixOp, .intersect | .infixOp, .union => true
  | .function, .start | .function, .stop => true
  | .subexpression, .start | .subexpression, .stop => true
  | _, _ => false

/-- A piece of a formula. -/
structure Token where
  kind : Kind
  value : List Char
  subkind : Option Subkind := none
deriving DecidableEq, Repr

/-- A subkind that does not belong to its kind. -/
structure SubkindMismatch where
  kind : Kind
  subkind : Subkind
deriving DecidableEq, Repr

/-- The wording of a mismatch. -/
def SubkindMismatch.message (mismatch : SubkindMismatch) : String :=
  s!"subtype '{mismatch.subkind.name}' is not valid for '{mismatch.kind.name}'"

namespace Token

/-- A token whose subkind, if it has one, belongs to its kind. -/
def make
    (kind : Kind)
    (value : List Char)
    (subkind : Option Subkind) :
    Except SubkindMismatch Token :=
  match subkind with
  | none => .ok ⟨kind, value, none⟩
  | some sub =>
      if kind.allows sub then .ok ⟨kind, value, some sub⟩
      else .error ⟨kind, sub⟩

/-- Whether a token opens a group. -/
def isStart (token : Token) : Bool :=
  token.subkind == some .start

/-- Whether a token ends a group. -/
def isStop (token : Token) : Bool :=
  token.subkind == some .stop

/-- Whether a token is the stop that goes with an opener. -/
def closes (token opener : Token) : Bool :=
  token.isStop && opener.isStart && token.kind == opener.kind

/-- Whether a token opens or ends a call or a parenthesis. -/
def isGroup (token : Token) : Bool :=
  token.kind == .function || token.kind == .subexpression

/-- The token in one line, for people to read. -/
def describe (token : Token) : String :=
  let subkind :=
    match token.subkind with
    | some subkind => "/" ++ subkind.name
    | none => ""
  let value := String.ofList (Text.quoted token.value)
  s!"Token({token.kind.name}{subkind}, {value})"

end Token

/-! ## Array literals -/

/-- The text of the wrapper that an array literal opens. -/
def arrayText : List Char := "ARRAY".toList

/-- The text of the row that an array literal opens inside its wrapper. -/
def arrayRowText : List Char := "ARRAYROW".toList

theorem arrayRowText_eq : arrayRowText = ['A', 'R', 'R', 'A', 'Y', 'R', 'O', 'W'] := rfl

/-- The text of the stop of an array row. -/
def arrayRowStopText : List Char := "ARRAYROWSTOP".toList

/-- The text of the stop of an array wrapper. -/
def arrayStopText : List Char := "ARRAYSTOP".toList

/-- Whether a token has the text of an array row. -/
def Token.isArrayRow (token : Token) : Bool :=
  token.kind == .function && token.value == arrayRowText

/-- Whether a token belongs to the wrapper of an array literal. -/
def Token.isArrayWrapper (token : Token) : Bool :=
  token.kind == .function &&
    (token.value == arrayText || token.value == arrayStopText)

/-- Whether a token has the text of the stop of an array row. -/
def Token.isArrayRowStop (token : Token) : Bool :=
  token.kind == .function && token.value == arrayRowStopText

/-- The error values a formula can hold. -/
def errorCodes : List (List Char) :=
  ["#NULL!", "#DIV/0!", "#VALUE!", "#REF!", "#NAME?", "#NUM!", "#N/A"].map
    String.toList

end SheetFormula
