import SheetFormula.Pattern.Fault
import SheetFormula.Text.Digit

/-!
# Reading pattern text

Pattern text is read in units: a character, or a backslash with the character
behind it.  The reader always has the next unit in view, and a backslash at
the very end is a fault as soon as it comes into view.
-/

namespace SheetFormula.Pattern

/-- A place in a text with the unit in view and what lies behind that. -/
structure Reader where
  source : List Char
  view : Option (List Char)
  rest : List Char
  offset : Nat
deriving Repr

namespace Reader

/-- Look at the unit at the front of some text that starts at an offset. -/
def look (source rest : List Char) (offset : Nat) : Except Fault Reader :=
  match rest with
  | [] => .ok ⟨source, none, [], offset⟩
  | ['\\'] => .error (.invalid .badEscapeAtEnd source (some (source.length - 1)))
  | '\\' :: char :: behind => .ok ⟨source, some ['\\', char], behind, offset + 2⟩
  | char :: behind => .ok ⟨source, some [char], behind, offset + 1⟩

/-- A reader at the start of a text. -/
def start (source : List Char) : Except Fault Reader :=
  look source source 0

/-- The offset of the unit in view. -/
def place (reader : Reader) : Nat :=
  reader.offset - (reader.view.map List.length).getD 0

/-- Move to the next unit. -/
def skip (reader : Reader) : Except Fault Reader :=
  look reader.source reader.rest reader.offset

/-- Whether a given character is in view. -/
def sees (reader : Reader) (char : Char) : Bool :=
  reader.view == some [char]

/-- Move over a given character if it is in view. -/
def accept (reader : Reader) (char : Char) : Except Fault (Bool × Reader) :=
  if reader.sees char then do
    let next ← reader.skip
    return (true, next)
  else
    return (false, reader)

/-- A fault some characters before the unit in view. -/
def fault (reader : Reader) (reason : Reason) (back : Nat) : Fault :=
  .invalid reason reader.source (some (reader.place - back))

/-- A fault at a given offset. -/
def faultAt (reader : Reader) (reason : Reason) (place : Nat) : Fault :=
  .invalid reason reader.source (some place)

/-- The single character in view, if it belongs to a class. -/
def viewed? (reader : Reader) (inClass : Char → Bool) : Option Char :=
  match reader.view with
  | some [char] => if inClass char then some char else none
  | _ => none

/-- At most a number of characters of a class. -/
def takeUpTo (inClass : Char → Bool) :
    Nat → Reader → Except Fault (List Char × Reader)
  | 0, reader => .ok ([], reader)
  | count + 1, reader =>
      match reader.viewed? inClass with
      | none => .ok ([], reader)
      | some char => do
          let next ← reader.skip
          let (chars, final) ← takeUpTo inClass count next
          return (char :: chars, final)

/-- All characters of a class that follow. -/
def takeAll (inClass : Char → Bool) (reader : Reader) : Except Fault (List Char × Reader) :=
  takeUpTo inClass (reader.rest.length + 1) reader

/--
The text up to a terminator, which is passed.  `what` names the text in
faults.  Every unit uses up one of the given number.
-/
def takeName (terminator : Char) (what : String) :
    Nat → List Char → Reader → Except Fault (List Char × Reader)
  | 0, name, reader => .error (reader.fault (.unterminatedName terminator) name.length)
  | count + 1, name, reader =>
      match reader.view with
      | none =>
          if name.isEmpty then .error (reader.fault (.missingName what) 0)
          else .error (reader.fault (.unterminatedName terminator) name.length)
      | some unit => do
          let next ← reader.skip
          if unit = [terminator] then
            if name.isEmpty then .error (next.fault (.missingName what) 1)
            else return (name, next)
          else
            takeName terminator what count (name ++ unit) next

/-- The text up to a terminator. -/
def name (reader : Reader) (terminator : Char) (what : String) :
    Except Fault (List Char × Reader) :=
  takeName terminator what (reader.rest.length + 2) [] reader

/-- Move behind the next unit of a given kind, or to the end. -/
def skipPast (stop : List Char → Bool) : Nat → Reader → Except Fault (Bool × Reader)
  | 0, reader => .ok (false, reader)
  | count + 1, reader =>
      match reader.view with
      | none => .ok (false, reader)
      | some unit => do
          let next ← reader.skip
          if stop unit then return (true, next) else skipPast stop count next

end Reader

/-! ## Numbers in escapes -/

/-- Hexadecimal digits. -/
def isHexDigit (char : Char) : Bool :=
  Text.isAsciiDigit char || ('a' ≤ char && char ≤ 'f') || ('A' ≤ char && char ≤ 'F')

/-- Octal digits. -/
def isOctalDigit (char : Char) : Bool :=
  '0' ≤ char && char ≤ '7'

/-- The value of a digit in a base up to sixteen. -/
def digitOf (char : Char) : Nat :=
  if Text.isAsciiDigit char then char.toNat - '0'.toNat
  else if 'a' ≤ char then char.toNat - 'a'.toNat + 10
  else char.toNat - 'A'.toNat + 10

/-- The number that some digits write in a base. -/
def numberOf (base : Nat) (digits : List Char) : Nat :=
  digits.foldl (fun sum digit => base * sum + digitOf digit) 0

/-- Control characters with an escape of one letter. -/
def controlEscape? : Char → Option Nat
  | 'a' => some 7
  | 'b' => some 8
  | 'f' => some 12
  | 'n' => some 10
  | 'r' => some 13
  | 't' => some 9
  | 'v' => some 11
  | '\\' => some 92
  | _ => none

end SheetFormula.Pattern
