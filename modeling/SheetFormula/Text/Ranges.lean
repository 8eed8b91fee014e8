/-!
# Sets of characters given by ranges

A character property is kept as a list of inclusive ranges of code points, in
ascending order.
-/

namespace SheetFormula.Text

/-- Whether a code point lies in one of the ranges. -/
def inRanges (ranges : List (Nat × Nat)) (code : Nat) : Bool :=
  ranges.any fun range => range.1 ≤ code && code ≤ range.2

/-- The code points in ranges, one by one. -/
def codes (ranges : List (Nat × Nat)) : List Nat :=
  ranges.flatMap fun range => List.range' range.1 (range.2 + 1 - range.1)

theorem mem_codes
    {ranges : List (Nat × Nat)} {code : Nat} (inside : inRanges ranges code) :
    code ∈ codes ranges := by
  simp only [inRanges, List.any_eq_true, Bool.and_eq_true, decide_eq_true_eq] at inside
  rcases inside with ⟨range, member, low, high⟩
  rw [codes, List.mem_flatMap]
  refine ⟨range, member, ?_⟩
  rw [List.mem_range'_1]
  omega

/-- Whether no code point lies in ranges of both lists. -/
def areApart (first second : List (Nat × Nat)) : Bool :=
  first.all fun range => second.all fun other => range.2 < other.1 || other.2 < range.1

theorem notInRanges_of_apart
    {first second : List (Nat × Nat)} {code : Nat}
    (apart : areApart first second)
    (inFirst : inRanges first code) :
    inRanges second code = false := by
  simp only [inRanges, List.any_eq_true, Bool.and_eq_true, decide_eq_true_eq] at inFirst
  rcases inFirst with ⟨range, member, low, high⟩
  rw [inRanges, List.any_eq_false]
  intro other memberToo
  have far := List.all_eq_true.mp (List.all_eq_true.mp apart range member) other memberToo
  simp only [Bool.or_eq_true, decide_eq_true_eq] at far
  simp only [Bool.and_eq_true, decide_eq_true_eq]
  omega

end SheetFormula.Text
