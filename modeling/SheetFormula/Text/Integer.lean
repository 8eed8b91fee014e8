import SheetFormula.Text.Blank
import SheetFormula.Text.Digit

/-!
# Integers in text

An integer is written with an optional sign directly followed by digits;
single underscores may stand between digits, and zeros may lead.  Callers
choose which characters count as digits and what may surround the number.
-/

namespace SheetFormula.Text

/-- A sign and the text after it; no sign counts as plus. -/
def readSign : List Char → Int × List Char
  | '+' :: rest => (1, rest)
  | '-' :: rest => (-1, rest)
  | text => (1, text)

/--
Digits with single underscores between them, all the way to the end.  The
flag says that a digit has just been read; the number read so far grows from
the left.
-/
def readDigits (value? : Char → Option Nat) :
    Bool → Nat → List Char → Option Nat
  | afterDigit, sum, [] => if afterDigit then some sum else none
  | afterDigit, sum, char :: rest =>
      if char = '_' then
        if afterDigit then
          match rest with
          | next :: _ => if (value? next).isSome then readDigits value? false sum rest else none
          | [] => none
        else none
      else
        match value? char with
        | some digit => readDigits value? true (10 * sum + digit) rest
        | none => none

/-- The value of one of the digits `0` to `9`. -/
def asciiDigitValue? (char : Char) : Option Nat :=
  if isAsciiDigit char then some (char.toNat - '0'.toNat) else none

/-- A signed number that takes up the whole text. -/
def readInteger? (value? : Char → Option Nat) (text : List Char) : Option Int :=
  let (sign, digits) := readSign text
  (readDigits value? false 0 digits).map fun magnitude => sign * magnitude

/--
A number with decimal digits of any script and blanks around it.  In a text
of ASCII characters the information separators are no blanks.
-/
def integer? (text : List Char) : Option Int :=
  let around := if text.all (·.toNat < 0x80) then isWhiteSpace else isBlank
  readInteger? digitValue? (dropEndWhile around (text.dropWhile around))

end SheetFormula.Text
