import SheetFormula.Cells.Axis
import SheetFormula.Text.Blank

/-!
# Wildcards

A cell is enclosed in stars, so that a search for it finds longer texts too.
A star that is already there is not doubled.  Cells that are blank stay as
they are.
-/

namespace SheetFormula.Cells

/-- A text without one star at either end. -/
def stripStars (value : List Char) : List Char :=
  let tail :=
    match value with
    | '*' :: rest => rest
    | _ => value
  Text.dropLastChar '*' tail

/-- A cell with its stars put on or taken off. -/
def wildcardCell (remove : Bool) (cell : List Char) : List Char :=
  let value := Text.trim cell
  if value.isEmpty then cell
  else if remove then stripStars value
  else '*' :: stripStars value ++ ['*']

/-- Put stars on every cell of a text, or take them off. -/
def wildcards (remove : Bool) (text : List Char) : List Char :=
  assemble .rows ((items .rows text).map fun row =>
    assemble .columns ((items .columns row).map (wildcardCell remove)))

end SheetFormula.Cells
