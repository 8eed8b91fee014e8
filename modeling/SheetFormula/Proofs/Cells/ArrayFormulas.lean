import SheetFormula.Cells.ArrayFormula
import SheetFormula.Proofs.Layout.ArrayLiterals
import SheetFormula.Proofs.Layout.Breaks

/-!
# Splitting formatted array literals

Splitting goes by lines and by the characters at their ends, and knows nothing of
strings.  It is right for the layout of an array literal because each row has a
line of its own there: a line that has the row between blanks, with a semicolon
behind it if another row follows.  No row ends in a semicolon or a blank, whatever
stands in its strings, so only the semicolon between rows is taken off.

Main statement: an array literal that is formatted and split gives a formula for
each of its rows, with the cells in order.
-/

namespace SheetFormula

open Layout RoundTrip

/-! ## The ends of rows -/

/-- Texts on one line with no blank at the ends and no semicolon at the end. -/
structure IsRowText (text : List Char) : Prop where
  nonempty : text ≠ []
  isLine : IsLine text
  trimmed : IsTrimmed text
  unended : text.getLast? ≠ some ';'

theorem IsRowText.append
    {first second between : List Char}
    (isFirst : IsRowText first)
    (isSecond : IsRowText second)
    (isLine : IsLine between) :
    IsRowText (first ++ between ++ second) := by
  have head : (first ++ between ++ second).head? = first.head? := by
    rw [List.append_assoc, List.head?_append, List.head?_eq_some_head isFirst.nonempty,
      Option.some_or]
  have last : (first ++ between ++ second).getLast? = second.getLast? := by
    rw [List.getLast?_append, List.getLast?_eq_some_getLast isSecond.nonempty, Option.some_or]
  refine ⟨?_, (isFirst.isLine.append isLine).append isSecond.isLine, ?_, ?_⟩
  · simp [isFirst.nonempty]
  · rw [IsTrimmed, head, last]
    exact ⟨isFirst.trimmed.1, isSecond.trimmed.2⟩
  · rw [last]
    exact isSecond.unended

theorem Constant.isRowText (constant : Constant) : IsRowText constant.spelling := by
  cases constant with
  | word value isWord =>
      refine ⟨isWord.nonempty, isWord.isLine, isWord.isTrimmed, ?_⟩
      intro ends
      exact isWord.notMem_delimiter rfl (List.mem_of_getLast? ends)
  | text value isLine =>
      refine ⟨List.cons_ne_nil _ _, (Lexeme.text value isLine).isLine_spelling,
        isTrimmed_between '"' '"' _ rfl rfl, ?_⟩
      rw [Constant.spelling, List.getLast?_concat]
      decide
  | error code known =>
      have codes : ∀ code ∈ errorCodes,
          code ≠ [] ∧
            (code.head?.any Text.isBlank = false ∧
              code.getLast?.any Text.isBlank = false) ∧
            code.getLast? ≠ some ';' := by
        decide +kernel
      rcases codes code known with ⟨nonempty, trimmed, unended⟩
      exact ⟨nonempty, isLine_errorCode known, trimmed, unended⟩

theorem ArrayCell.isRowText (cell : ArrayCell) : IsRowText cell.spelling := by
  rcases cell with ⟨signs, constant⟩
  have sign : IsRowText ['-'] :=
    ⟨List.cons_ne_nil _ _, isLine_of_unbroken (by decide), ⟨rfl, rfl⟩, by decide⟩
  induction signs with
  | zero => exact constant.isRowText
  | succ signs ih =>
      have longer := sign.append ih isLine_nil
      simpa [ArrayCell.spelling, List.replicate_succ] using longer

theorem isRowText_rowLine {row : List ArrayCell} (nonempty : row ≠ []) :
    IsRowText (ArrayLiteral.rowLine row) := by
  have between : IsLine [',', ' '] := isLine_of_unbroken (by decide)
  induction row with
  | nil => exact absurd rfl nonempty
  | cons cell row ih =>
      cases row with
      | nil => simpa [ArrayLiteral.rowLine] using cell.isRowText
      | cons next others =>
          have later := ih (List.cons_ne_nil _ _)
          simpa [ArrayLiteral.rowLine, List.intercalate_cons_cons] using
            cell.isRowText.append later between

end SheetFormula

namespace SheetFormula.Cells

open Layout RoundTrip

/-! ## Lines -/

theorem blank_spaces (gap : Nat) : ∀ char ∈ List.replicate gap ' ', Text.isBlank char := by
  intro char member
  rw [List.eq_of_mem_replicate member]
  decide

/-- A line gives back the row that stands on it. -/
theorem rowText_line
    {line : List Char} {row : List ArrayCell}
    (isLineOf : IsLineOf line row)
    (isRow : IsRowText (ArrayLiteral.rowLine row)) :
    rowText line = ArrayLiteral.rowLine row := by
  rcases isLineOf with ⟨gap, ending, closing, rfl⟩
  rcases closing with rfl | rfl
  · have trimmed : Text.trim (List.replicate gap ' ' ++ ArrayLiteral.rowLine row ++ []) =
        ArrayLiteral.rowLine row := by
      rw [Text.trim_append_of_blank (blank_spaces gap) (by simp),
        Text.trim_eq_self isRow.trimmed.1 isRow.trimmed.2]
    rw [rowText, trimmed]
    exact if_neg isRow.unended
  · have visible : IsTrimmed (ArrayLiteral.rowLine row ++ [';']) := by
      constructor
      · rw [List.head?_append, List.head?_eq_some_head isRow.nonempty, Option.some_or,
          ← List.head?_eq_some_head isRow.nonempty]
        exact isRow.trimmed.1
      · rw [List.getLast?_concat]
        rfl
    have trimmed : Text.trim (List.replicate gap ' ' ++ ArrayLiteral.rowLine row ++ [';']) =
        ArrayLiteral.rowLine row ++ [';'] := by
      have spaces := @Text.trim_append_of_blank (List.replicate gap ' ') [] (blank_spaces gap)
        (by simp) (ArrayLiteral.rowLine row ++ [';'])
      rw [List.append_nil, ← List.append_assoc] at spaces
      rw [spaces, Text.trim_eq_self visible.1 visible.2]
    rw [rowText, trimmed, List.getLast?_concat, List.dropLast_concat]
    exact Text.trimEnd_eq_self isRow.trimmed.2

theorem rowText_spaces (gap : Nat) : rowText (List.replicate gap ' ') = [] := by
  have nothing : Text.trim (List.replicate gap ' ') = [] := by
    have spaces := @Text.trim_append_of_blank (List.replicate gap ' ') [] (blank_spaces gap)
      (by simp) []
    simpa using spaces
  rw [rowText, nothing]
  rfl

theorem rowText_nil : rowText [] = [] := rfl

/-- The lines of a literal give back its rows. -/
theorem map_rowText
    {lines : List (List Char)} {rows : List (List ArrayCell)}
    (each : List.Forall₂ IsLineOf lines rows)
    (filled : [] ∉ rows) :
    lines.map rowText = rows.map ArrayLiteral.rowLine := by
  induction each with
  | nil => rfl
  | cons isLineOf _ ih =>
      rw [List.mem_cons, not_or] at filled
      have isRow := isRowText_rowLine (Ne.symm filled.1)
      rw [List.map_cons, List.map_cons, rowText_line isLineOf isRow, ih filled.2]

/-- There is no break within the lines of a literal. -/
theorem unbroken_lines
    {lines : List (List Char)} {rows : List (List ArrayCell)}
    (each : List.Forall₂ IsLineOf lines rows)
    (filled : [] ∉ rows) :
    ∀ line ∈ lines, '\n' ∉ line := by
  induction each with
  | nil => simp
  | @cons line row lines rows isLineOf _ ih =>
      rw [List.mem_cons, not_or] at filled
      rw [List.forall_mem_cons]
      refine ⟨?_, ih filled.2⟩
      rcases isLineOf with ⟨gap, ending, closing, rfl⟩
      have isRow := isRowText_rowLine (Ne.symm filled.1)
      have isLine : IsLine ending := by
        rcases closing with rfl | rfl
        · exact isLine_nil
        · exact isLine_of_unbroken (by decide)
      intro member
      exact (((isLine_gap gap).append isRow.isLine).append isLine '\n' member).2 rfl

/-- The body of an array formula is what stands between the braces. -/
theorem arrayBody_between (body : List Char) :
    arrayBody ('=' :: '{' :: body ++ ['}']) = body := by
  have trimmed := isTrimmed_between '=' '}' ('{' :: body) rfl rfl
  simp only [List.cons_append] at trimmed
  simp [arrayBody, Text.trim_eq_self trimmed.1 trimmed.2, Text.dropLastChar]

/-- Between the breaks of a body are its lines and what stands around them. -/
theorem items_body
    {lines : List (List Char)}
    (nonempty : lines ≠ [])
    (unbroken : ∀ line ∈ lines, '\n' ∉ line)
    (gap : Nat) :
    items .rows ('\n' :: Text.join '\n' lines ++ '\n' :: List.replicate gap ' ') =
      [] :: (lines ++ [List.replicate gap ' ']) := by
  have joined : (Text.join '\n' lines).splitOn '\n' = lines :=
    List.splitOn_intercalate '\n' unbroken nonempty
  have spaces : (List.replicate gap ' ').splitOn '\n' = [List.replicate gap ' '] :=
    List.splitOn_eq_singleton fun member => (isLine_gap gap '\n' member).2 rfl
  calc
    ([] ++ '\n' :: (Text.join '\n' lines ++ '\n' :: List.replicate gap ' ')).splitOn '\n' =
        List.splitOn '\n' [] ++
          ((Text.join '\n' lines).splitOn '\n' ++
            (List.replicate gap ' ').splitOn '\n') := by
      rw [List.splitOn_append_cons_self, List.splitOn_append_cons_self]
    _ = [] :: (lines ++ [List.replicate gap ' ']) := by
      rw [joined, spaces]
      rfl

/--
An array literal that is formatted and split gives one formula for each row, in
order: the cells with a comma and a space between them.
-/
theorem splitArrayFormula_format (settings : Settings) (literal : ArrayLiteral) :
    ∃ output,
      Formula.format settings ('=' :: literal.text) = .ok output ∧
        splitArrayFormula output =
          Text.join '\n' (literal.rows.map fun row => '=' :: ArrayLiteral.rowLine row) := by
  rcases ArrayLiteral.exists_lines_format literal settings with ⟨lines, gap, each, formatted⟩
  refine ⟨_, formatted, ?_⟩
  have nonempty : lines ≠ [] := by
    rintro rfl
    exact literal.nonempty (List.forall₂_nil_left_iff.mp each)
  have visible : ∀ line ∈ literal.rows.map ArrayLiteral.rowLine, (!line.isEmpty) = true := by
    rw [List.forall_mem_map]
    intro row member
    simpa using (isRowText_rowLine (ArrayLiteral.row_ne_nil member)).nonempty
  have rows : ((items .rows ('\n' :: Text.join '\n' lines ++ '\n' :: List.replicate gap ' ')).map
      rowText).filter (fun row => !row.isEmpty) = literal.rows.map ArrayLiteral.rowLine := by
    rw [items_body nonempty (unbroken_lines each literal.filled), List.map_cons, List.map_append,
      map_rowText each literal.filled, List.map_singleton, rowText_spaces, rowText_nil]
    simp [List.filter_eq_self.mpr visible]
  rw [splitArrayFormula, arrayBody_between, rows, List.map_map]
  rfl

/-- Two rows: a string that looks like the end of a literal, and a logical and an error value. -/
def mixedLiteral : ArrayLiteral where
  rows := [[⟨2, .text [';', '}'] (isLine_of_unbroken rfl)⟩, ⟨0, .word ['1', 'E'] (by decide)⟩],
    [⟨0, .word "TRUE".toList (by decide)⟩, ⟨1, .error "#N/A".toList (by decide +kernel)⟩]]
  nonempty := List.cons_ne_nil _ _
  filled := by simp

theorem splitArrayFormula_format_mixedLiteral :
    mixedLiteral.text = "\x7b--\";\x7d\",1E;TRUE,-#N/A\x7d".toList ∧
      ∃ output,
        Formula.format {} ('=' :: mixedLiteral.text) = .ok output ∧
          splitArrayFormula output = "=--\";\x7d\", 1E\n=TRUE, -#N/A".toList := by
  have lines : Text.join '\n' (mixedLiteral.rows.map fun row => '=' :: ArrayLiteral.rowLine row) =
      "=--\";\x7d\", 1E\n=TRUE, -#N/A".toList := by
    decide
  rw [← lines]
  exact ⟨by decide, splitArrayFormula_format {} mixedLiteral⟩

end SheetFormula.Cells
