import SheetFormula.Reference

/-!
# Sheet links

A spreadsheet has an identifier, and its link contains the identifier.  An
identifier is read back from a link, also from one inside an import call.
-/

namespace SheetFormula.Link

/-- What comes before the identifier in a link. -/
def front : List Char := "https://docs.google.com/spreadsheets/d/".toList

/-- What comes behind the identifier in a link. -/
def back : List Char := "/edit#gid=0".toList

/-- The beginning that tells a link. -/
def scheme : List Char := "https".toList

/-- The link of an identifier; a text that already is a link loses its query only. -/
def ofText (text : List Char) : List Char :=
  let trimmed := Text.trim (Text.upTo '?' (Text.without '"' text))
  if Text.occursIn scheme trimmed then trimmed
  else front ++ trimmed ++ back

/-- Characters of an identifier. -/
def isIdChar (char : Char) : Bool :=
  char.isAlphanum || char == '_' || char == '-'

/-- The beginning of an import call. -/
def importWord : List Char := "IMPORTRANGE(".toList

-- irreducible, so that the search below opens without the tables of letter case
/-- The string that an import call at the front of a text starts with. -/
@[irreducible]
def importAt? (text : List Char) : Option (List Char) :=
  match Reference.afterWord? importWord text with
  | none => none
  | some rest =>
      match Text.trimStart rest with
      | '"' :: content => (Text.cutFirst? '"' content).map Prod.fst
      | _ => none

/-- The first import call in a text: the string it starts with. -/
def importText? : List Char → Option (List Char)
  | [] => none
  | char :: rest =>
      match importAt? (char :: rest) with
      | some content => some content
      | none => importText? rest

/-- What an identifier in a link stands behind. -/
def mark : List Char := "/d/".toList

/-- The first identifier behind the mark in a text. -/
def idText? : List Char → Option (List Char)
  | [] => none
  | char :: rest =>
      match Text.after? mark (char :: rest) with
      | some behind =>
          if behind.head?.any isIdChar then some (behind.takeWhile isIdChar)
          else idText? rest
      | none => idText? rest

/-- The identifier in a line; a line without a link is taken as an identifier. -/
def extractId (line : List Char) : List Char :=
  let source := (importText? line).getD line
  match idText? source with
  | some identifier => identifier
  | none => Text.trim (Text.without '"' source)

/-- The identifiers in the lines of a text. -/
def extractIds (text : List Char) : List Char :=
  Text.join '\n' ((text.splitOn '\n').map extractId)

end SheetFormula.Link
