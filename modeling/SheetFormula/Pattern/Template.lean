import SheetFormula.Pattern.Basic
import SheetFormula.Pattern.Reader
import SheetFormula.Text.Identifier
import SheetFormula.Text.Integer

/-!
# Replacement templates

A template is text with references to groups of a pattern.  A reference is a
backslash with a number, or `\g` with a number or a name in angle brackets.
-/

namespace SheetFormula.Pattern

/-- A part of a template. -/
inductive TemplatePart where
  | text (text : List Char)
  | group (number : Nat)
deriving DecidableEq, Repr

/-- A reference, which has to be to a group of the pattern. -/
def groupPart (pattern : Compiled) (reader : Reader) (number back : Nat) :
    Except Fault TemplatePart :=
  if pattern.groupCount < number then .error (reader.fault (.invalidReference number) back)
  else .ok (.group number)

/-- A number in angle brackets; it is not negative. -/
def bracketedNumber (reader : Reader) (name : List Char) : Except Fault Nat :=
  match Text.integer? name with
  | some number =>
      if number < 0 then .error (reader.fault (.badGroupName name) (name.length + 1))
      else if (1073741823 : Int) ≤ number then
        .error (reader.fault (.invalidReference number.toNat) (name.length + 1))
      else .ok number.toNat
  | none => .error (reader.fault (.badGroupName name) (name.length + 1))

/-- A reference in angle brackets, behind `\g`. -/
def bracketedPart (pattern : Compiled) (reader : Reader) :
    Except Fault (TemplatePart × Reader) := do
  let (isOpen, inside) ← reader.accept '<'
  if !isOpen then throw (inside.fault .missingAngle 0)
  let (name, behind) ← inside.name '>' "group name"
  if Text.isIdentifier name then
    match pattern.names.lookup name with
    | none => throw (.unknownReplacementName name)
    | some number => return (.group number, behind)
  else
    let number ← bracketedNumber behind name
    let part ← groupPart pattern behind number (name.length + 1)
    return (part, behind)

/-- A digit other than zero behind a backslash: a reference or an octal number. -/
def numberedPart (pattern : Compiled) (reader : Reader) (digit : Char) :
    Except Fault (TemplatePart × Reader) := do
  let (second, reader) ← reader.takeUpTo Text.isAsciiDigit 1
  let (third, reader) ←
    if isOctalDigit digit && !second.isEmpty && second.all isOctalDigit then
      reader.takeUpTo isOctalDigit 1
    else
      pure ([], reader)
  let digits := digit :: second ++ third
  if third.isEmpty then
    let part ← groupPart pattern reader (numberOf 10 digits) digits.length
    return (part, reader)
  else
    let code := numberOf 8 digits
    if 0o377 < code then
      throw (reader.fault (.octalTooLarge ('\\' :: digits)) (digits.length + 1))
    return (.text [Char.ofNat code], reader)

/-- What a backslash with a character stands for; the reader is behind both. -/
def escapedPart (pattern : Compiled) (reader : Reader) (char : Char) :
    Except Fault (TemplatePart × Reader) :=
  if char = 'g' then bracketedPart pattern reader
  else if char = '0' then do
    let (digits, next) ← reader.takeUpTo isOctalDigit 2
    return (.text [Char.ofNat (numberOf 8 digits % 256)], next)
  else if Text.isAsciiDigit char then numberedPart pattern reader char
  else
    match controlEscape? char with
    | some code => .ok (.text [Char.ofNat code], reader)
    | none =>
        if char.isAlpha then .error (reader.fault (.badEscape ['\\', char]) 2)
        else .ok (.text ['\\', char], reader)

/-- The parts of a template, of which every one uses up one of the given number. -/
def templateParts (pattern : Compiled) : Nat → Reader → Except Fault (List TemplatePart)
  | 0, _ => .ok []
  | bound + 1, reader =>
      match reader.view with
      | none => .ok []
      | some unit => do
          let next ← reader.skip
          let (part, behind) ←
            match unit with
            | ['\\', char] => escapedPart pattern next char
            | text => pure (.text text, next)
          let parts ← templateParts pattern bound behind
          return part :: parts

/-- Read a template for the groups of a pattern. -/
def parseTemplate (pattern : Compiled) (template : List Char) :
    Except Fault (List TemplatePart) := do
  let reader ← Reader.start template
  templateParts pattern (template.length + 1) reader

end SheetFormula.Pattern
