import SheetFormula.Cells.Axis

/-!
# Removing duplicates

Of equal items the first one stays; empty items go.
-/

namespace SheetFormula.Cells

/-- The items of a list without empty ones, each at its first place only. -/
def distinct (items : List (List Char)) : List (List Char) :=
  (items.filter fun item => !item.isEmpty).eraseDups

/-- Remove empty and repeated items from a text. -/
def removeDuplicates (axis : Axis) (text : List Char) : List Char :=
  assemble axis (distinct (items axis text))

end SheetFormula.Cells
