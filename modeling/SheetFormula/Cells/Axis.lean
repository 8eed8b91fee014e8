import SheetFormula.Text.Pieces

/-!
# Rows and columns

Cells that are copied out of a sheet are text: rows end in line feeds, and the
cells of a row are separated by tabs.
-/

namespace SheetFormula.Cells

/-- The direction in which a text is taken apart. -/
inductive Axis where
  | rows
  | columns
deriving DecidableEq, Repr

/-- The character between two items of an axis. -/
def Axis.separator : Axis → Char
  | .rows => '\n'
  | .columns => '\t'

/-- The rows or the columns of a text. -/
def items (axis : Axis) (text : List Char) : List (List Char) :=
  text.splitOn axis.separator

/-- Rows or columns as one text. -/
def assemble (axis : Axis) (items : List (List Char)) : List Char :=
  Text.join axis.separator items

end SheetFormula.Cells
