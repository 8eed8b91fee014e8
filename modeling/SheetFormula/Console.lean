import SheetFormula.Text.Digit
import SheetFormula.Text.Pieces
import SheetFormula.Text.Width

/-!
# Console output

Text for a console loses characters that would move the cursor, and its tabs
become spaces up to the next multiple of eight columns.  A message may hold
tags in brackets, which are shown as they are; a backslash before any other
bracket is taken for an escape.  Plain output loses the escape sequences that
style text.  A table has a heavy frame around its header and a light one
around its rows; its title is centred.
-/

namespace SheetFormula.Console

/-- Characters that move the cursor: bell, backspace, vertical tab, form feed, return. -/
def isCursorControl (char : Char) : Bool :=
  [7, 8, 11, 12, 13].contains char.toNat

/-- A line with spaces for its tabs, from a column on. -/
def expandTabs (column : Nat) : List Char → List Char
  | [] => []
  | char :: rest =>
      if char = '\t' then
        let gap := 8 - column % 8
        List.replicate gap ' ' ++ expandTabs (column + gap) rest
      else
        char :: expandTabs (column + Text.charWidth char) rest

/-- A text as a console shows it. -/
def plain (text : List Char) : List Char :=
  let lines := (text.filter fun char => !isCursorControl char).splitOn '\n'
  Text.join '\n' (lines.map (expandTabs 0))

/-! ## Brackets in messages -/

/-- Characters that a tag can start with. -/
def isTagLead (char : Char) : Bool :=
  ('a' ≤ char && char ≤ 'z') || char == '#' || char == '/' || char == '@'

/--
Whether the text behind an opening bracket makes up a tag with it: a bracket
follows, and the first one closes.
-/
def completesTag : List Char → Bool
  | [] => false
  | lead :: rest =>
      isTagLead lead && rest.find? (fun char => char == '[' || char == ']') == some ']'

/-- A text without the backslash before each bracket that opens no tag. -/
def unescapeBrackets : List Char → List Char
  | [] => []
  | '\\' :: '[' :: rest =>
      if completesTag rest then '\\' :: '[' :: unescapeBrackets rest
      else '[' :: unescapeBrackets rest
  | char :: rest => char :: unescapeBrackets rest

/-- A message as a console shows it. -/
def message (text : List Char) : List Char :=
  plain (unescapeBrackets text)

/-! ## Escape sequences -/

/-- Characters inside an escape sequence that styles text. -/
def isStyleParameter (char : Char) : Bool :=
  Text.isAsciiDigit char || char == ';' || char == '?'

/-- The length of the escape sequence at the front of a text. -/
def styleLength? : List Char → Option Nat
  | '\x1b' :: '[' :: rest =>
      let parameters := rest.takeWhile isStyleParameter
      if (rest.drop parameters.length).head?.any Char.isAlpha then
        some (parameters.length + 3)
      else none
  | _ => none

/-- A text without escape sequences, of which a number of characters are still to be dropped. -/
def dropStyles : Nat → List Char → List Char
  | _, [] => []
  | skipped + 1, _ :: rest => dropStyles skipped rest
  | 0, char :: rest =>
      match styleLength? (char :: rest) with
      | some length => dropStyles (length - 1) rest
      | none => char :: dropStyles 0 rest

/-- Plain output: a text without escape sequences, and a line feed. -/
def output (text : List Char) : List Char :=
  dropStyles 0 text ++ ['\n']

/-! ## Tables -/

/-- On which side of a cell the spaces go. -/
inductive Alignment where
  | left
  | right
deriving DecidableEq, Repr

/-- A column with its heading. -/
structure Column where
  heading : List Char
  alignment : Alignment := .left

/-- A table; every row has a cell for each column. -/
structure Table where
  title : List Char
  columns : List Column
  rows : List (List (List Char))

/-- The width of a column: that of its widest cell, its heading included. -/
def columnWidth (cells : List (List Char)) : Nat :=
  (cells.map Text.width).foldl max 0

/-- A cell filled up with spaces to a width. -/
def fitted (alignment : Alignment) (width : Nat) (cell : List Char) : List Char :=
  let spaces := List.replicate (width - Text.width cell) ' '
  match alignment with
  | .left => cell ++ spaces
  | .right => spaces ++ cell

/-- The characters of a horizontal line of a frame. -/
structure Rule where
  left : Char
  fill : Char
  joint : Char
  right : Char

/-- A horizontal line of a frame. -/
def ruleLine (rule : Rule) (widths : List Nat) : List Char :=
  let stretches := widths.map fun width => List.replicate (width + 2) rule.fill
  rule.left :: List.intercalate [rule.joint] stretches ++ [rule.right]

/-- A line of cells between upright bars. -/
def cellLine (bar : Char) (cells : List (List Char)) : List Char :=
  let padded := cells.map fun cell => ' ' :: cell ++ [' ']
  bar :: List.intercalate [bar] padded ++ [bar]

/-- A text in the middle of a width; of an odd space the larger part is on the right. -/
def centred (width : Nat) (text : List Char) : List Char :=
  let excess := width - Text.width text
  List.replicate (excess / 2) ' ' ++ text ++ List.replicate (excess - excess / 2) ' '

/-- The cells of a column, its heading first. -/
def Table.cellsOf (table : Table) (index : Nat) (column : Column) : List (List Char) :=
  column.heading :: table.rows.map fun row => row.getD index []

/-- The widths of the columns of a table. -/
def Table.widths (table : Table) : List Nat :=
  table.columns.zipIdx.map fun (column, index) => columnWidth (table.cellsOf index column)

/-- The lines of a table. -/
def Table.lines (table : Table) : List (List Char) :=
  let widths := table.widths
  let fit (cells : List (List Char)) :=
    (cells.zip (table.columns.zip widths)).map fun (cell, column, width) =>
      fitted column.alignment width cell
  let top := ruleLine ⟨'┏', '━', '┳', '┓'⟩ widths
  [centred top.length table.title,
    top,
    cellLine '┃' (fit (table.columns.map Column.heading)),
    ruleLine ⟨'┡', '━', '╇', '┩'⟩ widths] ++
    table.rows.map (fun row => cellLine '│' (fit row)) ++
    [ruleLine ⟨'└', '─', '┴', '┘'⟩ widths]

/-- A table as text; every line ends in a line feed. -/
def Table.render (table : Table) : List Char :=
  table.lines.flatMap fun line => line ++ ['\n']

end SheetFormula.Console
