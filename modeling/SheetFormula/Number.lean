import SheetFormula.Text.Digit

/-!
# Numbers in formulas

A number is written with digits and at most one point, with a digit before
the point or directly behind it, and may have an exponent.  Digits of every
script count.  A single line feed may follow.
-/

namespace SheetFormula.Number

/-- The end of a number, with at most a line feed behind it. -/
def atEnd : List Char → Bool
  | [] => true
  | ['\n'] => true
  | _ => false

/-- The digits and the point of a number; what follows them. -/
def afterMantissa? (text : List Char) : Option (List Char) :=
  match text with
  | '.' :: fraction =>
      if fraction.head?.any Text.isDigit then some (fraction.dropWhile Text.isDigit)
      else none
  | _ =>
      if text.head?.any Text.isDigit then
        match text.dropWhile Text.isDigit with
        | '.' :: fraction => some (fraction.dropWhile Text.isDigit)
        | rest => some rest
      else none

/-- An optional sign; what follows it. -/
def afterSign : List Char → List Char
  | '+' :: rest => rest
  | '-' :: rest => rest
  | text => text

/-- An optional exponent and the end. -/
def exponentAtEnd (text : List Char) : Bool :=
  match text with
  | 'e' :: rest | 'E' :: rest =>
      let digits := afterSign rest
      digits.head?.any Text.isDigit && atEnd (digits.dropWhile Text.isDigit)
  | _ => atEnd text

/-- Whether a text is a number. -/
def isNumber (text : List Char) : Bool :=
  (afterMantissa? text).any exponentAtEnd

end SheetFormula.Number
