import Mathlib.Data.List.Basic
import SheetFormula.Cells.Distinct
import SheetFormula.Cells.Repeat

/-!
# Repeated items and duplicates

What is left without duplicates are the items that are not empty, in the order
of their first places (`FirstOccurrences`).  This determines the list: two texts
with the same items, whose first places come in the same order, are the same
without duplicates.

To repeat every item multiplies its first place by the number of repetitions,
and to space the items apart multiplies it by one more than the size of the gap.
So neither changes what is left without duplicates.

Main statement: removing duplicates keeps the first occurrences, does nothing
the second time and undoes every repetition, and repetitions multiply.
-/

namespace SheetFormula.Cells

/-! ## Items of assembled texts -/

theorem separator_notMem_of_mem_items
    {axis : Axis} {text item : List Char} (isItem : item ∈ items axis text) :
    axis.separator ∉ item := by
  intro member
  exact (Text.mem_of_mem_splitOn isItem member).2 rfl

/-- Items without the separator are read back, if there are any. -/
theorem items_assemble
    {axis : Axis} {made : List (List Char)}
    (nonempty : made ≠ [])
    (apart : ∀ item ∈ made, axis.separator ∉ item) :
    items axis (assemble axis made) = made :=
  List.splitOn_intercalate axis.separator apart nonempty

/-! ## First occurrences -/

/-- The items of a list that are not empty, each once, in the order of their first places. -/
structure FirstOccurrences (items result : List (List Char)) : Prop where
  mem_iff : ∀ item, item ∈ result ↔ item ∈ items ∧ item ≠ []
  ordered : result.Pairwise fun earlier later => items.idxOf earlier < items.idxOf later

theorem FirstOccurrences.nodup
    {items result : List (List Char)} (first : FirstOccurrences items result) :
    result.Nodup := by
  apply first.ordered.imp
  rintro earlier later before rfl
  exact Nat.lt_irrefl _ before

/-- There is one list of first occurrences. -/
theorem FirstOccurrences.unique
    {items result other : List (List Char)}
    (first : FirstOccurrences items result)
    (second : FirstOccurrences items other) :
    result = other := by
  have sameMembers : result.Perm other := by
    rw [List.perm_ext_iff_of_nodup first.nodup second.nodup]
    intro item
    rw [first.mem_iff, second.mem_iff]
  refine sameMembers.eq_of_pairwise ?_ first.ordered second.ordered
  intro earlier later _ _ before behind
  exact absurd before (Nat.lt_asymm behind)

/-- First occurrences depend on the order of the first places only. -/
theorem FirstOccurrences.of_order
    {items others result : List (List Char)}
    (first : FirstOccurrences items result)
    (members : ∀ item, item ≠ [] → (item ∈ others ↔ item ∈ items))
    (order : ∀ earlier later, earlier ∈ result → later ∈ result →
      items.idxOf earlier < items.idxOf later → others.idxOf earlier < others.idxOf later) :
    FirstOccurrences others result where
  mem_iff := by
    intro item
    rw [first.mem_iff]
    exact and_congr_left fun nonempty => (members item nonempty).symm
  ordered := first.ordered.imp_of_mem fun inResult alsoInResult =>
    order _ _ inResult alsoInResult

/-- Items that are left out do not change the order of the others. -/
theorem idxOf_lt_of_filter
    {α : Type} [BEq α] [LawfulBEq α] {keep : α → Bool} {items : List α} {earlier later : α}
    (kept : keep earlier)
    (keptToo : keep later)
    (before : (items.filter keep).idxOf earlier < (items.filter keep).idxOf later) :
    items.idxOf earlier < items.idxOf later := by
  induction items with
  | nil => exact before
  | cons item rest ih =>
      by_cases isEarlier : item = earlier
      · subst isEarlier
        rw [List.filter_cons_of_pos kept] at before
        by_cases isLater : item = later
        · subst isLater
          exact absurd before (Nat.lt_irrefl _)
        · rw [List.idxOf_cons_self, List.idxOf_cons_ne rest isLater]
          exact Nat.succ_pos _
      · by_cases isLater : item = later
        · subst isLater
          rw [List.filter_cons_of_pos keptToo, List.idxOf_cons_self] at before
          exact absurd before (Nat.not_lt_zero _)
        · rw [List.idxOf_cons_ne rest isEarlier, List.idxOf_cons_ne rest isLater]
          apply Nat.succ_lt_succ
          apply ih
          by_cases keptItem : keep item
          · rw [List.filter_cons_of_pos keptItem, List.idxOf_cons_ne _ isEarlier,
              List.idxOf_cons_ne _ isLater] at before
            exact Nat.lt_of_succ_lt_succ before
          · rwa [List.filter_cons_of_neg keptItem] at before

/-- Of equal items the first ones stay, in their order. -/
theorem pairwise_eraseDups (items : List (List Char)) :
    items.eraseDups.Pairwise fun earlier later => items.idxOf earlier < items.idxOf later := by
  cases items with
  | nil => exact .nil
  | cons item rest =>
      have other {later : List Char}
          (member : later ∈ (rest.filter fun next => !next == item).eraseDups) :
          item ≠ later := by
        rw [List.mem_eraseDups, List.mem_filter] at member
        rintro rfl
        simp at member
      rw [List.eraseDups_cons, List.pairwise_cons]
      constructor
      · intro later member
        rw [List.idxOf_cons_self, List.idxOf_cons_ne rest (other member)]
        exact Nat.succ_pos _
      · refine (pairwise_eraseDups (rest.filter fun next => !next == item)).imp_of_mem ?_
        intro earlier later member alsoMember before
        rw [List.idxOf_cons_ne rest (other member), List.idxOf_cons_ne rest (other alsoMember)]
        apply Nat.succ_lt_succ
        refine idxOf_lt_of_filter ?_ ?_ before
        · simpa using Ne.symm (other member)
        · simpa using Ne.symm (other alsoMember)
termination_by items.length
decreasing_by
  rw [List.length_cons]
  exact Nat.lt_succ_of_le (List.length_filter_le _ rest)

/-- What is left without duplicates are the first occurrences. -/
theorem firstOccurrences_distinct (items : List (List Char)) :
    FirstOccurrences items (distinct items) where
  mem_iff := by
    intro item
    simp [distinct, List.mem_eraseDups]
  ordered := by
    apply (pairwise_eraseDups (items.filter fun item => !item.isEmpty)).imp_of_mem
    intro earlier later member alsoMember
    rw [List.mem_eraseDups, List.mem_filter] at member alsoMember
    exact idxOf_lt_of_filter member.2 alsoMember.2

/--
Lists with the same items, whose first places are in the same order, are the
same without duplicates.
-/
theorem distinct_eq_of_order
    {items others : List (List Char)}
    (members : ∀ item, item ≠ [] → (item ∈ others ↔ item ∈ items))
    (order : ∀ earlier later, earlier ∈ distinct items → later ∈ distinct items →
      items.idxOf earlier < items.idxOf later → others.idxOf earlier < others.idxOf later) :
    distinct others = distinct items :=
  (firstOccurrences_distinct others).unique
    ((firstOccurrences_distinct items).of_order members order)

theorem distinct_distinct (items : List (List Char)) :
    distinct (distinct items) = distinct items := by
  have first := firstOccurrences_distinct items
  apply (firstOccurrences_distinct (distinct items)).unique
  constructor
  · intro item
    rw [first.mem_iff]
    simp
  · -- in a list without duplicates every item stands at its first place
    rw [List.pairwise_iff_getElem]
    intro low high isLow isHigh before
    rwa [first.nodup.idxOf_getElem low isLow, first.nodup.idxOf_getElem high isHigh]

/-! ## Repetitions -/

theorem mem_repeated
    {times : Nat} (positive : 0 < times) {items : List (List Char)} {item : List Char} :
    item ∈ repeated times items ↔ item ∈ items := by
  simp [repeated, List.mem_replicate, Nat.ne_of_gt positive]

theorem repeated_ne_nil
    {times : Nat} (positive : 0 < times) {items : List (List Char)} (nonempty : items ≠ []) :
    repeated times items ≠ [] := by
  obtain ⟨item, member⟩ := List.exists_mem_of_ne_nil items nonempty
  exact List.ne_nil_of_mem ((mem_repeated positive).mpr member)

/-- The first place of an item is multiplied by the number of repetitions. -/
theorem idxOf_repeated (times : Nat) (items : List (List Char)) (item : List Char) :
    (repeated times items).idxOf item = times * items.idxOf item := by
  induction items with
  | nil => simp [repeated]
  | cons first rest ih =>
      have unfolded : repeated times (first :: rest) =
          List.replicate times first ++ repeated times rest := rfl
      by_cases same : first = item
      · subst same
        rw [unfolded, List.idxOf_cons_self, Nat.mul_zero]
        cases times with
        | zero => simp [repeated]
        | succ count => simp [List.replicate_succ]
      · have absent : item ∉ List.replicate times first := by
          intro member
          exact same (List.eq_of_mem_replicate member).symm
        rw [unfolded, List.idxOf_append, if_neg absent, ih, List.length_replicate,
          List.idxOf_cons_ne rest same, Nat.mul_succ]

theorem distinct_repeated
    {times : Nat} (positive : 0 < times) (items : List (List Char)) :
    distinct (repeated times items) = distinct items := by
  apply distinct_eq_of_order
  · intro item _
    exact mem_repeated positive
  · intro earlier later _ _ before
    rw [idxOf_repeated, idxOf_repeated]
    exact Nat.mul_lt_mul_of_pos_left before positive

/-- Repetitions multiply. -/
theorem repeated_repeated (outer inner : Nat) (items : List (List Char)) :
    repeated outer (repeated inner items) = repeated (inner * outer) items := by
  rw [repeated, repeated, List.flatMap_assoc, repeated]
  apply List.flatMap_congr
  intro item _
  rw [List.flatMap_replicate, List.flatten_replicate_replicate]

/-! ## Gaps -/

theorem mem_spaced
    {times : Nat} {items : List (List Char)} {item : List Char} (nonempty : item ≠ []) :
    item ∈ spaced times items ↔ item ∈ items := by
  fun_induction spaced times items with
  | case1 => rfl
  | case2 => rfl
  | case3 first next rest ih => simp [ih, nonempty]

/-- The first place of an item is multiplied by the distance between two items. -/
theorem idxOf_spaced
    {times : Nat} {items : List (List Char)} {item : List Char}
    (nonempty : item ≠ []) (member : item ∈ items) :
    (spaced times items).idxOf item = (times + 1) * items.idxOf item := by
  fun_induction spaced times items with
  | case1 => cases member
  | case2 only =>
      obtain rfl := List.mem_singleton.mp member
      simp
  | case3 first next rest ih =>
      by_cases same : first = item
      · simp [same]
      · have later : item ∈ next :: rest := by
          rcases List.mem_cons.mp member with isFirst | later
          · exact absurd isFirst.symm same
          · exact later
        have absent : item ∉ List.replicate times [] := by
          intro inGap
          exact nonempty (List.eq_of_mem_replicate inGap)
        rw [List.cons_append, List.idxOf_cons_ne _ same, List.idxOf_append, if_neg absent,
          ih later, List.length_replicate, List.idxOf_cons_ne _ same, Nat.mul_succ]
        rfl

theorem distinct_spaced (times : Nat) (items : List (List Char)) :
    distinct (spaced times items) = distinct items := by
  have first := firstOccurrences_distinct items
  apply distinct_eq_of_order
  · intro item nonempty
    exact mem_spaced nonempty
  · intro earlier later member alsoMember before
    rcases (first.mem_iff earlier).mp member with ⟨inItems, nonempty⟩
    rcases (first.mem_iff later).mp alsoMember with ⟨alsoInItems, alsoNonempty⟩
    rw [idxOf_spaced nonempty inItems, idxOf_spaced alsoNonempty alsoInItems]
    exact Nat.mul_lt_mul_of_pos_left before (Nat.succ_pos times)

/-! ## Texts -/

theorem repeatItems_eq_ok
    {times : Int} (nonnegative : 0 ≤ times) (axis : Axis) (gap : Bool) (text : List Char) :
    repeatItems axis times gap text =
      .ok (assemble axis
        (if gap then spaced times.toNat (items axis text)
          else repeated times.toNat (items axis text))) := by
  rw [repeatItems, if_neg (Int.not_lt.mpr nonnegative)]

/-- No items and one empty item are the same text, and both have nothing left. -/
theorem removeDuplicates_assemble
    {axis : Axis} {made : List (List Char)}
    (apart : ∀ item ∈ made, axis.separator ∉ item) :
    removeDuplicates axis (assemble axis made) = assemble axis (distinct made) := by
  cases made with
  | nil => rfl
  | cons first rest => rw [removeDuplicates, items_assemble (List.cons_ne_nil _ _) apart]

theorem separator_notMem_of_mem_distinct
    {axis : Axis} {text item : List Char} (member : item ∈ distinct (items axis text)) :
    axis.separator ∉ item :=
  separator_notMem_of_mem_items (((firstOccurrences_distinct _).mem_iff item).mp member).1

theorem removeDuplicates_eq_nil_iff {axis : Axis} {text : List Char} :
    removeDuplicates axis text = [] ↔ distinct (items axis text) = [] := by
  constructor
  · intro nothing
    have filled : [] ∉ distinct (items axis text) := by
      intro member
      exact (((firstOccurrences_distinct _).mem_iff []).mp member).2 rfl
    apply Decidable.byContradiction
    intro nonempty
    exact Text.intercalate_ne_nil nonempty filled _ nothing
  · intro nothing
    rw [removeDuplicates, nothing]
    rfl

/-- What is left of a text without duplicates has no duplicates. -/
theorem removeDuplicates_removeDuplicates (axis : Axis) (text : List Char) :
    removeDuplicates axis (removeDuplicates axis text) = removeDuplicates axis text := by
  have apart : ∀ item ∈ distinct (items axis text), axis.separator ∉ item :=
    fun _ => separator_notMem_of_mem_distinct
  have again := removeDuplicates_assemble apart
  rwa [distinct_distinct] at again

/-- Removing duplicates undoes repetitions and gaps. -/
theorem removeDuplicates_repeatItems
    {times : Int} {gap : Bool}
    (nonnegative : 0 ≤ times)
    (kept : gap ∨ 0 < times)
    (axis : Axis) (text : List Char) :
    ∃ made,
      repeatItems axis times gap text = .ok made ∧
        removeDuplicates axis made = removeDuplicates axis text := by
  refine ⟨_, repeatItems_eq_ok nonnegative axis gap text, ?_⟩
  by_cases spacing : gap
  · have apart : ∀ item ∈ spaced times.toNat (items axis text), axis.separator ∉ item := by
      intro item member
      by_cases empty : item = []
      · simp [empty]
      · exact separator_notMem_of_mem_items ((mem_spaced empty).mp member)
    rw [if_pos spacing, removeDuplicates_assemble apart, distinct_spaced, removeDuplicates]
  · have positive : 0 < times.toNat := by
      rcases kept with isGap | positive
      · exact absurd isGap spacing
      · omega
    have apart : ∀ item ∈ repeated times.toNat (items axis text), axis.separator ∉ item := by
      intro item member
      exact separator_notMem_of_mem_items ((mem_repeated positive).mp member)
    rw [if_neg spacing, removeDuplicates_assemble apart, distinct_repeated positive,
      removeDuplicates]

/-- To repeat the items of a text twice is to repeat them by the product. -/
theorem repeatItems_repeatItems
    {inner outer : Int}
    (positive : 0 < inner)
    (nonnegative : 0 ≤ outer)
    (axis : Axis) (text : List Char) :
    ∃ made result,
      repeatItems axis inner false text = .ok made ∧
        repeatItems axis outer false made = .ok result ∧
        repeatItems axis (inner * outer) false text = .ok result := by
  have counted : 0 < inner.toNat := by omega
  have product : (inner * outer).toNat = inner.toNat * outer.toNat :=
    Int.toNat_mul (Int.le_of_lt positive) nonnegative
  have readBack : items axis (assemble axis (repeated inner.toNat (items axis text))) =
      repeated inner.toNat (items axis text) := by
    apply items_assemble
    · exact repeated_ne_nil counted (List.splitOn_ne_nil _ _)
    · intro item member
      exact separator_notMem_of_mem_items ((mem_repeated counted).mp member)
  refine ⟨_, _, repeatItems_eq_ok (Int.le_of_lt positive) axis false text,
    repeatItems_eq_ok nonnegative axis false _, ?_⟩
  rw [repeatItems_eq_ok (Int.mul_nonneg (Int.le_of_lt positive) nonnegative) axis false text,
    product]
  simp only [Bool.false_eq_true, if_false, readBack, repeated_repeated]

/--
Removing duplicates and repeating cancel, for rows and for columns.  The items
of a text without duplicates are the first occurrences of its items, unless
nothing is left, which is so when all of its items are empty.  Removing
duplicates a second time changes nothing, and a text that was repeated at least
once, or spaced apart by any gap, is the same without duplicates.  To repeat
the items of a text at least once and then any number of times is to repeat
them by the product of the two numbers.
-/
theorem duplicates_cancel (axis : Axis) (text : List Char) :
    (removeDuplicates axis text ≠ [] →
        FirstOccurrences (items axis text) (items axis (removeDuplicates axis text))) ∧
      (removeDuplicates axis text = [] ↔ ∀ item ∈ items axis text, item = []) ∧
      removeDuplicates axis (removeDuplicates axis text) = removeDuplicates axis text ∧
      (∀ (times : Int) (gap : Bool), 0 ≤ times → (gap ∨ 0 < times) →
        ∃ made,
          repeatItems axis times gap text = .ok made ∧
            removeDuplicates axis made = removeDuplicates axis text) ∧
      ∀ inner outer : Int, 0 < inner → 0 ≤ outer →
        ∃ made result,
          repeatItems axis inner false text = .ok made ∧
            repeatItems axis outer false made = .ok result ∧
            repeatItems axis (inner * outer) false text = .ok result := by
  have first := firstOccurrences_distinct (items axis text)
  refine ⟨?_, ?_, removeDuplicates_removeDuplicates axis text, ?_, ?_⟩
  · intro left
    have nonempty : distinct (items axis text) ≠ [] :=
      fun nothing => left (removeDuplicates_eq_nil_iff.mpr nothing)
    rwa [removeDuplicates,
      items_assemble nonempty fun _ => separator_notMem_of_mem_distinct]
  · rw [removeDuplicates_eq_nil_iff, List.eq_nil_iff_forall_not_mem]
    refine forall_congr' fun item => ?_
    rw [first.mem_iff, not_and, not_not]
  · intro times gap nonnegative kept
    exact removeDuplicates_repeatItems nonnegative kept axis text
  · intro inner outer positive nonnegative
    exact repeatItems_repeatItems positive nonnegative axis text

/-- Two rows in turn, with empty rows before, between and behind them. -/
def listedText : List Char := "\nb\n\na\nb\n".toList

theorem duplicates_cancel_listedText :
    removeDuplicates .rows listedText = "b\na".toList ∧
      FirstOccurrences (items .rows listedText)
        (items .rows (removeDuplicates .rows listedText)) ∧
      (∃ made,
        repeatItems .rows 0 true listedText = .ok made ∧
          removeDuplicates .rows made = removeDuplicates .rows listedText) ∧
      ∃ made result,
        repeatItems .rows 2 false listedText = .ok made ∧
          repeatItems .rows 3 false made = .ok result ∧
          repeatItems .rows 6 false listedText = .ok result := by
  rcases duplicates_cancel .rows listedText with ⟨first, -, -, repetition, product⟩
  exact ⟨by decide, first (by decide), repetition 0 true (by decide) (by decide),
    product 2 3 (by decide) (by decide)⟩

end SheetFormula.Cells
