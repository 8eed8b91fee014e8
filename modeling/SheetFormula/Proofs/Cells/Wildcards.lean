import SheetFormula.Cells.Wildcard

/-!
# Wildcards keep the grid

A text of cells is a grid: rows between line feeds, and in each row the cells
between tabs.  Stars are put on and taken off cell by cell.  The characters of a
new cell are stars and characters of the old one, so no cell falls apart, and
the grid of the new text is the old grid with every cell replaced.

A cell between stars is not blank, trimming leaves it alone, and without one
star at either end it is what was enclosed.  So a text with wildcards can stand
in for the text it was made from.

Main statement: to put wildcards on a text twice is the same as once, to take
them off again is the same as taking them off the text, and the grid keeps its
shape and its blank cells.
-/

namespace SheetFormula.Cells

/-! ## Grids -/

/-- The cells of a text, row by row. -/
def grid (text : List Char) : List (List (List Char)) :=
  (items .rows text).map (items .columns)

/-- The cell of a text in a row and a column, if there is one. -/
def cellAt (text : List Char) (row column : Nat) : Option (List Char) :=
  (grid text)[row]?.bind (·[column]?)

/-- Rows of cells as one text. -/
def assembleGrid (rows : List (List (List Char))) : List Char :=
  assemble .rows (rows.map (assemble .columns))

/-- Rows of cells that neither separator occurs in. -/
structure IsGrid (rows : List (List (List Char))) : Prop where
  nonempty : rows ≠ []
  rows_nonempty : ∀ row ∈ rows, row ≠ []
  separated : ∀ row ∈ rows, ∀ cell ∈ row, ∀ char ∈ cell, char ≠ '\n' ∧ char ≠ '\t'

theorem isGrid_grid (text : List Char) : IsGrid (grid text) where
  nonempty := by
    intro empty
    exact List.splitOn_ne_nil _ _ (List.map_eq_nil_iff.mp empty)
  rows_nonempty := by
    intro row member
    rcases List.mem_map.mp member with ⟨line, -, rfl⟩
    exact List.splitOn_ne_nil _ _
  separated := by
    intro row member cell isCell char inside
    rcases List.mem_map.mp member with ⟨line, isLine, rfl⟩
    rcases Text.mem_of_mem_splitOn isCell inside with ⟨inLine, noTab⟩
    exact ⟨(Text.mem_of_mem_splitOn isLine inLine).2, noTab⟩

/-- A grid is read back from its text. -/
theorem IsGrid.grid_assembleGrid
    {rows : List (List (List Char))} (isGrid : IsGrid rows) :
    grid (assembleGrid rows) = rows := by
  have linesApart : ∀ line ∈ rows.map (assemble .columns), '\n' ∉ line := by
    intro line member isBreak
    rcases List.mem_map.mp member with ⟨row, isRow, rfl⟩
    rcases Text.mem_join isBreak with same | ⟨cell, isCell, inside⟩
    · cases same
    · exact (isGrid.separated row isRow cell isCell _ inside).1 rfl
  have lines : items .rows (assembleGrid rows) = rows.map (assemble .columns) :=
    List.splitOn_intercalate '\n' linesApart (by simpa using isGrid.nonempty)
  have cells : ∀ row ∈ rows, items .columns (assemble .columns row) = row := by
    intro row isRow
    refine List.splitOn_intercalate '\t' ?_ (isGrid.rows_nonempty row isRow)
    intro cell isCell isTab
    exact (isGrid.separated row isRow cell isCell _ isTab).2 rfl
  calc
    grid (assembleGrid rows)
      = rows.map (items .columns ∘ assemble .columns) := by rw [grid, lines, List.map_map]
    _ = rows.map id := List.map_congr_left cells
    _ = rows := List.map_id rows

/-! ## Cells -/

theorem mem_of_mem_stripStars
    {value : List Char} {char : Char} (member : char ∈ stripStars value) :
    char ∈ value := by
  have inTail (text : List Char) (inside : char ∈ Text.dropLastChar '*' text) : char ∈ text := by
    rw [Text.dropLastChar] at inside
    split at inside
    · exact List.dropLast_subset text inside
    · exact inside
  have found := inTail _ member
  split at found
  · exact List.mem_cons_of_mem _ found
  · exact found

/-- Between two stars stands what is left without them. -/
@[simp]
theorem stripStars_starred (value : List Char) :
    stripStars ('*' :: value ++ ['*']) = value := by
  simp [stripStars, Text.dropLastChar]

/-- A cell with something else than blanks in it. -/
def IsVisible (cell : List Char) : Prop :=
  Text.trim cell ≠ []

instance (cell : List Char) : Decidable (IsVisible cell) :=
  inferInstanceAs (Decidable (Text.trim cell ≠ []))

theorem wildcardCell_of_blank
    {cell : List Char} (blank : Text.trim cell = []) (remove : Bool) :
    wildcardCell remove cell = cell := by
  simp [wildcardCell, blank]

theorem wildcardCell_of_visible
    {cell : List Char} (visible : IsVisible cell) (remove : Bool) :
    wildcardCell remove cell =
      if remove then stripStars (Text.trim cell)
      else '*' :: stripStars (Text.trim cell) ++ ['*'] := by
  have shown : (Text.trim cell).isEmpty = false := by simpa [IsVisible] using visible
  simp only [wildcardCell, shown, Bool.false_eq_true, if_false]

theorem trim_starred (value : List Char) :
    Text.trim ('*' :: value ++ ['*']) = '*' :: value ++ ['*'] := by
  apply Text.trim_eq_self
  · rfl
  · rw [List.getLast?_concat]
    rfl

/-- No character comes into a cell but a star. -/
theorem mem_of_mem_wildcardCell
    {remove : Bool} {cell : List Char} {char : Char}
    (member : char ∈ wildcardCell remove cell) :
    char ∈ cell ∨ char = '*' := by
  by_cases blank : Text.trim cell = []
  · rw [wildcardCell_of_blank blank] at member
    exact .inl member
  · have inside (found : char ∈ stripStars (Text.trim cell)) : char ∈ cell :=
      Text.mem_of_mem_trim (mem_of_mem_stripStars found)
    rw [wildcardCell_of_visible blank] at member
    split at member
    · exact .inl (inside member)
    · rw [List.cons_append, List.mem_cons, List.mem_append, List.mem_singleton] at member
      rcases member with star | found | star
      · exact .inr star
      · exact .inl (inside found)
      · exact .inr star

/-- A cell that has its stars is treated like the cell without them. -/
theorem wildcardCell_wildcardCell (remove : Bool) (cell : List Char) :
    wildcardCell remove (wildcardCell false cell) = wildcardCell remove cell := by
  by_cases blank : Text.trim cell = []
  · rw [wildcardCell_of_blank blank]
  · generalize bare : stripStars (Text.trim cell) = value
    have starred : wildcardCell false cell = '*' :: value ++ ['*'] := by
      rw [wildcardCell_of_visible blank, bare, if_neg Bool.false_ne_true]
    have shown : IsVisible ('*' :: value ++ ['*']) := by
      rw [IsVisible, trim_starred]
      exact List.cons_ne_nil _ _
    rw [starred, wildcardCell_of_visible shown, wildcardCell_of_visible blank, trim_starred,
      stripStars_starred, bare]

/-! ## Texts -/

theorem wildcards_eq (remove : Bool) (text : List Char) :
    wildcards remove text = assembleGrid ((grid text).map (List.map (wildcardCell remove))) := by
  simp [wildcards, assembleGrid, grid, Function.comp_def]

theorem IsGrid.wildcards
    {rows : List (List (List Char))} (isGrid : IsGrid rows) (remove : Bool) :
    IsGrid (rows.map (List.map (wildcardCell remove))) where
  nonempty := by simpa using isGrid.nonempty
  rows_nonempty := by
    intro row member
    rcases List.mem_map.mp member with ⟨old, isRow, rfl⟩
    simpa using isGrid.rows_nonempty old isRow
  separated := by
    intro row member cell isCell char inside
    rcases List.mem_map.mp member with ⟨oldRow, isRow, rfl⟩
    rcases List.mem_map.mp isCell with ⟨old, isOld, rfl⟩
    rcases mem_of_mem_wildcardCell inside with inOld | rfl
    · exact isGrid.separated oldRow isRow old isOld char inOld
    · exact ⟨by decide, by decide⟩

/-- The grid of the new text is the old one with every cell replaced. -/
theorem grid_wildcards (remove : Bool) (text : List Char) :
    grid (wildcards remove text) = (grid text).map (List.map (wildcardCell remove)) := by
  rw [wildcards_eq]
  exact ((isGrid_grid text).wildcards remove).grid_assembleGrid

theorem cellAt_wildcards (remove : Bool) (text : List Char) (row column : Nat) :
    cellAt (wildcards remove text) row column =
      (cellAt text row column).map (wildcardCell remove) := by
  rw [cellAt, grid_wildcards, List.getElem?_map, cellAt]
  cases (grid text)[row]? with
  | none => rfl
  | some cells => exact List.getElem?_map

/-- A text that has its wildcards is treated like the text without them. -/
theorem wildcards_wildcards (remove : Bool) (text : List Char) :
    wildcards remove (wildcards false text) = wildcards remove text := by
  have cells : wildcardCell remove ∘ wildcardCell false = wildcardCell remove :=
    funext (wildcardCell_wildcardCell remove)
  have rows : List.map (wildcardCell remove) ∘ List.map (wildcardCell false) =
      List.map (wildcardCell remove) := by
    funext row
    rw [Function.comp_apply, List.map_map, cells]
  rw [wildcards_eq remove (wildcards false text), grid_wildcards, List.map_map, rows,
    ← wildcards_eq]

/--
Putting wildcards on a text a second time changes nothing, and taking them off
gives what taking them off the text gives.  Either way the rows and the cells of
each row keep their number; in its place a blank cell stays as it is, and any
other cell is trimmed, loses one star at either end and is enclosed in stars if
they are put on.
-/
theorem wildcards_stable (text : List Char) :
    wildcards false (wildcards false text) = wildcards false text ∧
      wildcards true (wildcards false text) = wildcards true text ∧
      ∀ remove,
        (grid (wildcards remove text)).map List.length = (grid text).map List.length ∧
          ∀ row column cell, cellAt text row column = some cell →
            (Text.trim cell = [] → cellAt (wildcards remove text) row column = some cell) ∧
            (IsVisible cell →
              cellAt (wildcards remove text) row column =
                some (if remove then stripStars (Text.trim cell)
                  else '*' :: stripStars (Text.trim cell) ++ ['*'])) := by
  refine ⟨wildcards_wildcards false text, wildcards_wildcards true text, ?_⟩
  intro remove
  constructor
  · rw [grid_wildcards, List.map_map]
    exact List.map_congr_left fun row _ => List.length_map _
  · intro row column cell found
    have replaced :
        cellAt (wildcards remove text) row column =
          some (wildcardCell remove cell) := by
      rw [cellAt_wildcards, found]
      rfl
    constructor
    · intro blank
      rw [replaced, wildcardCell_of_blank blank]
    · intro visible
      rw [replaced, wildcardCell_of_visible visible]

/-- Two stars and a blank cell, above a cell with a blank between its stars and a lone star. -/
def starredText : List Char := "**\t \n * a*\t*".toList

theorem wildcards_stable_starredText :
    cellAt starredText 0 1 = some [' '] ∧ cellAt (wildcards true starredText) 0 1 = some [' '] ∧
      cellAt (wildcards false starredText) 1 0 = some "* a*".toList := by
  have places := (wildcards_stable starredText).2.2
  have blank : cellAt starredText 0 1 = some [' '] := by decide
  have visible : cellAt starredText 1 0 = some " * a*".toList := by decide
  refine ⟨blank, ((places true).2 0 1 _ blank).1 (by decide), ?_⟩
  rw [((places false).2 1 0 _ visible).2 (by decide)]
  decide

end SheetFormula.Cells
