import SheetFormula.Text.Blank
import SheetFormula.Text.LetterCase
import SheetFormula.Text.Pieces

/-!
# Sheet references

A reference names a sheet and a range on it, with an exclamation mark between
them; a name that needs it stands in quotes.  The indirect form of a
reference is a call with the reference as a string, without the marks of
absolute addresses.
-/

namespace SheetFormula

/-- A range on a sheet. -/
structure Reference where
  sheet : List Char
  range : List Char
deriving DecidableEq, Repr

/-- Why a text is no reference. -/
inductive ReferenceError where
  | noSeparator (text : List Char)
  | missingPart (text : List Char)
deriving DecidableEq, Repr

/-- The wording of the error. -/
def ReferenceError.message : ReferenceError → String
  | .noSeparator text =>
      s!"'{String.ofList text}' is not a sheet reference (expected Sheet!Range)"
  | .missingPart text =>
      s!"'{String.ofList text}' is missing a sheet name or range"

namespace Reference

/-- The range without the marks of absolute addresses. -/
def bareRange (reference : Reference) : List Char :=
  Text.without '$' reference.range

/-- The beginning of an indirect call. -/
def callWord : List Char := "INDIRECT(".toList

/-- The call that refers to the range indirectly. -/
def indirect (reference : Reference) : List Char :=
  callWord ++ '"' :: reference.sheet ++ '!' :: reference.bareRange ++ ['"', ')']

/-- A sheet name without the quotes around it. -/
def unquote (sheet : List Char) : List Char :=
  match sheet with
  | '\'' :: rest =>
      if rest.getLast? = some '\'' then Text.undoubled '\'' rest.dropLast else sheet
  | _ => sheet

/-- Read a reference; the last exclamation mark separates its parts. -/
def parse (text : List Char) : Except ReferenceError Reference :=
  let trimmed := Text.trim text
  match Text.cutLast? '!' trimmed with
  | none => .error (.noSeparator trimmed)
  | some (quotedSheet, range) =>
      let sheet := unquote quotedSheet
      if sheet.isEmpty || range.isEmpty then .error (.missingPart trimmed)
      else .ok ⟨sheet, range⟩

/-- The rest of a text after a given beginning, whatever the case of its letters. -/
def afterWord? : List Char → List Char → Option (List Char)
  | [], text => some text
  | _ :: _, [] => none
  | expected :: word, char :: rest =>
      if Text.sameLetter expected char then afterWord? word rest else none

/-- The text of the string that makes up the rest of an indirect call. -/
def closingString? (text : List Char) : Option (List Char) :=
  match text.reverse with
  | ')' :: before =>
      match before.dropWhile Text.isBlank with
      | '"' :: content => some content.reverse
      | _ => none
  | _ => none

/-- A formula without the equals sign before it. -/
def bodyOf : List Char → List Char
  | '=' :: rest => rest
  | text => text

/-- The string in the body of an indirect call. -/
def callString? (body : List Char) : Option (List Char) :=
  match afterWord? callWord (Text.trimStart body) with
  | none => none
  | some rest =>
      match Text.trimStart rest with
      | '"' :: quoted => closingString? quoted
      | _ => none

/-- The string in an indirect call; it may not hold a line feed. -/
def indirectText? (text : List Char) : Option (List Char) :=
  (callString? (bodyOf text)).filter fun content => !content.contains '\n'

/-- Turn an indirect call into the text it holds, and a reference into such a call. -/
def convert (text : List Char) : Except ReferenceError (List Char) :=
  let trimmed := Text.trim text
  match indirectText? trimmed with
  | some content => .ok content
  | none =>
      match parse trimmed with
      | .ok reference => .ok reference.indirect
      | .error error => .error error

end Reference

end SheetFormula
