import SheetFormula.Text.Printable

/-!
# Quoted texts

A text is shown between quotes.  Single quotes are used, unless the text has
a single quote and no double quote.  The quote in use and the backslash are
preceded by a backslash; line feed, carriage return and tab have short
escapes; every other character that cannot be shown as itself is written by
its code point in two, four or eight hexadecimal digits.
-/

namespace SheetFormula.Text

/-- Hexadecimal digits of a number, padded with zeros to a least length. -/
def hexadecimal (length code : Nat) : List Char :=
  let digits := Nat.toDigits 16 code
  List.replicate (length - digits.length) '0' ++ digits

/-- The quote that encloses a text. -/
def quoteFor (text : List Char) : Char :=
  if text.contains '\'' && !text.contains '"' then '"' else '\''

/-- A character as it stands between two quotes. -/
def quotedChar (quote char : Char) : List Char :=
  if char = quote ∨ char = '\\' then ['\\', char]
  else if char = '\n' then ['\\', 'n']
  else if char = '\r' then ['\\', 'r']
  else if char = '\t' then ['\\', 't']
  else if isPrintable char then [char]
  else if char.toNat < 0x100 then ['\\', 'x'] ++ hexadecimal 2 char.toNat
  else if char.toNat < 0x10000 then ['\\', 'u'] ++ hexadecimal 4 char.toNat
  else ['\\', 'U'] ++ hexadecimal 8 char.toNat

/-- A text between quotes. -/
def quoted (text : List Char) : List Char :=
  let quote := quoteFor text
  [quote] ++ text.flatMap (quotedChar quote) ++ [quote]

end SheetFormula.Text
