import SheetFormula.Token

/-!
# Open groups

The groups that are open at a place in a formula, innermost first.  Closing a
group yields the stop that goes with its opener.
-/

namespace SheetFormula

/-- Openers that still wait for their stops, innermost first. -/
abbrev Nesting := List Token

namespace Nesting

/-- Open a group. -/
def push (nesting : Nesting) (opener : Token) : Nesting :=
  opener :: nesting

/-- The opener of the innermost group. -/
def top? (nesting : Nesting) : Option Token :=
  nesting.head?

/-- The kind of the innermost group. -/
def topKind? (nesting : Nesting) : Option Kind :=
  nesting.top?.map Token.kind

/-- The stop that goes with an opener. -/
def stopFor (opener : Token) (value : List Char) : Token :=
  ⟨opener.kind, value, some .stop⟩

/-- Close the innermost group: its stop, if a group is open, and what stays open. -/
def close (nesting : Nesting) (value : List Char) : Option Token × Nesting :=
  match nesting with
  | [] => (none, [])
  | opener :: outer => (some (stopFor opener value), outer)

end Nesting

/-- The stop made for an opener closes it. -/
theorem Nesting.stopFor_closes
    (opener : Token) (value : List Char) (opens : opener.isStart) :
    (Nesting.stopFor opener value).closes opener := by
  simp [Nesting.stopFor, Token.closes, Token.isStop, opens]

end SheetFormula
