/-!
# Cursors

A cursor walks forward over a list.  It starts before the first item and
never leaves the last one.
-/

namespace SheetFormula

/-- A list together with the number of items the cursor has entered. -/
structure Cursor (α : Type) where
  items : List α
  entered : Nat := 0

namespace Cursor

variable {α : Type}

/-- The index of the current item; before the first item it is minus one. -/
def index (cursor : Cursor α) : Int :=
  (cursor.entered : Int) - 1

/-- Whether no item lies before the current one. -/
def atBeginning (cursor : Cursor α) : Bool :=
  cursor.entered ≤ 1

/-- Whether no item lies behind the current one. -/
def atEnd (cursor : Cursor α) : Bool :=
  cursor.items.length ≤ cursor.entered

/-- The item the cursor is on. -/
def current (cursor : Cursor α) : Option α :=
  match cursor.entered with
  | 0 => none
  | entered + 1 => cursor.items[entered]?

/-- The item after the current one. -/
def next (cursor : Cursor α) : Option α :=
  cursor.items[cursor.entered]?

/-- The item before the current one. -/
def previous (cursor : Cursor α) : Option α :=
  match cursor.entered with
  | 0 | 1 => none
  | entered + 2 => cursor.items[entered]?

/-- Enter the next item; at the end the cursor stays. -/
def advance (cursor : Cursor α) : Cursor α :=
  if cursor.atEnd then cursor else { cursor with entered := cursor.entered + 1 }

end Cursor

end SheetFormula
