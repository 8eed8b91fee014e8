import SheetFormula.Cells.Axis

/-!
# Repeating rows and columns

Every item is repeated a number of times, or the items are spaced apart by
that number of empty ones.
-/

namespace SheetFormula.Cells

/-- A number of repetitions below zero. -/
structure NegativeCount where
  count : Int
deriving DecidableEq, Repr

/-- The wording of the error. -/
def NegativeCount.message (error : NegativeCount) : String :=
  s!"repeat count must not be negative, got {error.count}"

/-- Every item a number of times in a row. -/
def repeated (times : Nat) (items : List (List Char)) : List (List Char) :=
  items.flatMap (List.replicate times)

/-- A number of empty items between every two neighbours. -/
def spaced (times : Nat) : List (List Char) → List (List Char)
  | [] => []
  | [item] => [item]
  | item :: next :: rest =>
      item :: List.replicate times [] ++ spaced times (next :: rest)

/-- Repeat the items of a text, or space them apart. -/
def repeatItems
    (axis : Axis)
    (times : Int)
    (gap : Bool)
    (text : List Char) :
    Except NegativeCount (List Char) :=
  if times < 0 then .error ⟨times⟩
  else
    let made :=
      if gap then spaced times.toNat (items axis text)
      else repeated times.toNat (items axis text)
    .ok (assemble axis made)

end SheetFormula.Cells
