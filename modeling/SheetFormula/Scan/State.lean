import SheetFormula.Token.Nesting

/-!
# The state of a scan

A formula is scanned from left to right.  Characters collect in a buffer until
a delimiter completes a token.  Inside a literal (a string, a quoted sheet
name, a bracketed range, an error code) other rules hold until the literal
ends.

A departure is a place where the text is not well formed.  It carries what is
needed to report it; the scanner decides whether to stop there or to go on.
-/

namespace SheetFormula.Scan

/-- Parts of a formula with rules of their own. -/
inductive Literal where
  | text
  | sheetPath
  | bracketRange
  | errorCode
deriving DecidableEq, Repr

/-- What a literal is called in messages. -/
def Literal.description : Literal → String
  | .text => "string literal"
  | .sheetPath => "sheet name"
  | .bracketRange => "bracketed range"
  | .errorCode => "error code"

/-- Whether the scan is inside a literal. -/
inductive Mode where
  | normal
  | inside (literal : Literal)
deriving DecidableEq, Repr

/-- What the scanner knows between two characters. -/
structure State where
  position : Nat := 0
  mode : Mode := .normal
  buffer : List Char := []
  bracketDepth : Nat := 0
  literalStart : Nat := 0
  nesting : Nesting := []
deriving DecidableEq, Repr

/-- The state before the first character. -/
def State.initial : State := {}

/-- A place in the scanned list: a token, or a stop for which no group was open. -/
abbrev Entry := Option Token

/-- A place where a formula is not well formed. -/
inductive Departure where
  | unbalanced (closer : Char) (position : Nat)
  | unterminated (literal : Literal) (position : Nat) (value : List Char)
  | unclosed (count : Nat) (position : Nat)
deriving DecidableEq, Repr

namespace Departure

/-- Where a departure is reported. -/
def position : Departure → Nat
  | .unbalanced _ position => position
  | .unterminated _ position _ => position
  | .unclosed _ position => position

/-- What is wrong, without the place. -/
def reason : Departure → String
  | .unbalanced closer _ => s!"unbalanced '{closer}'"
  | .unterminated literal _ _ => s!"unterminated {literal.description}"
  | .unclosed count _ => s!"{count} unclosed group(s)"

/-- The error that a departure is when formulas have to be well formed. -/
def message (departure : Departure) : String :=
  s!"{departure.reason} (at position {departure.position})"

/-- The remark that is made when scanning goes on. -/
def note : Departure → String
  | .unbalanced closer position =>
      s!"unbalanced '{closer}' at position {position}, keeping it as an unknown token"
  | .unterminated literal position value =>
      let shown := String.ofList (Text.quoted value)
      s!"unterminated {literal.description} at position {position}: {shown}"
  | .unclosed count _ =>
      s!"{count} group(s) left open at end of formula"

end Departure

/--
One step of the scanner.  `emitted` are the entries completed by well-formed
text.  After a departure, `recovered` are the entries that stand for the text
that departed.  The step reads `extra` characters behind the first.
-/
structure Move where
  next : State
  emitted : List Entry := []
  departure : Option Departure := none
  recovered : List Entry := []
  extra : Nat := 0
deriving DecidableEq, Repr

end SheetFormula.Scan
