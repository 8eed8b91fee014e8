import SheetFormula.Cells.Axis
import SheetFormula.Text.Blank

/-!
# Splitting an array formula

An array formula that is spread over lines becomes one formula for each line.
-/

namespace SheetFormula.Cells

/-- The text between the braces of an array formula; either brace may be missing. -/
def arrayBody (text : List Char) : List Char :=
  let trimmed := Text.trim text
  let body :=
    match trimmed with
    | '=' :: '{' :: rest => rest
    | _ => trimmed
  Text.dropLastChar '}' body

/-- A line without surrounding blanks and without the semicolon that ends it. -/
def rowText (line : List Char) : List Char :=
  let trimmed := Text.trim line
  if trimmed.getLast? = some ';' then Text.trimEnd trimmed.dropLast else trimmed

/-- One formula for each line of an array formula that holds anything. -/
def splitArrayFormula (text : List Char) : List Char :=
  let rows := ((items .rows (arrayBody text)).map rowText).filter fun row => !row.isEmpty
  assemble .rows (rows.map fun row => '=' :: row)

end SheetFormula.Cells
