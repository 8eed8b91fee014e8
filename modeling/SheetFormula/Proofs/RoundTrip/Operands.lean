import SheetFormula.Proofs.Layout.Spelling
import SheetFormula.Proofs.RoundTrip.Stability

/-!
# Formulas of one operand

A formula that is collected as a whole is one operand, and its layout is the
value with the quotes of its sheet name doubled.

For references to a sheet in quotes this is the formula itself, with one
exception.  The layout looks for the end of the sheet name only before the first
bracket.  A name that has both a bracket and a quote loses at least one of its
doubled quotes.

Main statement: a reference to a quoted sheet stays as it is exactly when the
name of the sheet does not have both brackets and quotes.
-/

namespace SheetFormula.RoundTrip

open Layout

/-! ## Formulas on one line -/

/-- A formula on one line without blanks at the ends is normalised by its equals sign. -/
theorem normalize_equals
    {text : List Char}
    (isLine : IsLine text)
    (trimmed : IsTrimmed text) :
    Formula.normalize ('=' :: text) = text := by
  have equalsLine : IsLine ('=' :: text) := by
    intro char member
    rcases List.mem_cons.mp member with rfl | inside
    · decide
    · exact isLine char inside
  have endsVisibly : ('=' :: text).getLast?.any Text.isBlank = false := by
    rw [List.getLast?_cons]
    cases last : text.getLast? with
    | none => rfl
    | some char => simpa [last] using trimmed.2
  have kept : Text.trim (unbroken ('=' :: text)) = '=' :: text := by
    rw [equalsLine.unbroken_eq]
    exact Text.trim_eq_self rfl endsVisibly
  rw [normalize_of_trim_unbroken kept, Text.trim_eq_self trimmed.1 trimmed.2]

/-- The tokens of a formula on one line are those that its text leaves, resolved and classified. -/
theorem Yields.tokens_eq
    {text : List Char} {scanned : List Token}
    (yields : Yields [] [] text scanned)
    (isLine : IsLine text)
    (trimmed : IsTrimmed text)
    (isStrict : Bool) :
    Formula.tokens isStrict ('=' :: text) =
      .ok (Classification.classify (Intersection.resolve scanned)) := by
  rw [Formula.tokens_eq_ok_iff, normalize_equals isLine trimmed]
  exact ⟨scanned, yields.scan_eq isStrict, rfl⟩

/-! ## One operand -/

/-- An operand whose subkind follows from its text. -/
def operandOf (value : List Char) : Token :=
  ⟨.operand, value, some (Classification.operandSubkind value)⟩

theorem Collected.yields
    {slice buffer : List Char}
    (collected : Collected slice buffer)
    (nonempty : buffer ≠ []) :
    Yields [] [] slice [⟨.operand, buffer, none⟩] := by
  have completed : Yields [] buffer [] [⟨.operand, buffer, none⟩] :=
    yields_nil.complete nonempty rfl
  have whole := completed.collect collected (by simp)
  rwa [List.append_nil] at whole

/-- What is collected as a whole is one operand. -/
theorem Collected.tokens_eq
    {slice buffer : List Char}
    (collected : Collected slice buffer)
    (nonempty : buffer ≠ [])
    (isLine : IsLine slice)
    (trimmed : IsTrimmed slice)
    (isStrict : Bool) :
    Formula.tokens isStrict ('=' :: slice) = .ok [operandOf buffer] :=
  (collected.yields nonempty).tokens_eq isLine trimmed isStrict

/-- Nothing stands before the first token of a layout. -/
theorem lead_entering_initial (unit : List Char) (token : Token) :
    lead unit (entering .initial token) = [] := by
  have depth : depthAt .initial token = 0 := by
    simp only [depthAt]
    split
    · rfl
    · rfl
  show indentation unit (depthAt .initial token) = []
  rw [depth]
  rfl

theorem noMark_operandOf (value : List Char) : (operandOf value).isMark = false := by
  rcases operandSubkind_noMark value with ⟨noStart, noStop⟩
  simp [operandOf, Token.isMark, Token.isStart, Token.isStop, noStart, noStop]

/-- An operand is written with its sheet name quoted. -/
theorem step_operandOf
    (unit : List Char) (state : State) (value : List Char) (following : Option Token) :
    (step unit state (operandOf value) following).1 =
      lead unit (entering state (operandOf value)) ++ quoteSheetName value := by
  rw [step_plain _ _ _ (noMark_operandOf value)]
  exact piece_reference unit _ _ value

/-- The layout of one operand. -/
theorem render_operandOf (unit value : List Char) :
    render unit [operandOf value] = '=' :: Text.trim (quoteSheetName value) := by
  rw [render_eq, textBefore_cons, step_operandOf, lead_entering_initial]
  exact congrArg (fun text => '=' :: Text.trim text) (List.append_nil _)

/-- What is collected as a whole is formatted to its value with the sheet name quoted. -/
theorem Collected.format_eq
    {slice buffer : List Char}
    (collected : Collected slice buffer)
    (nonempty : buffer ≠ [])
    (isLine : IsLine slice)
    (trimmed : IsTrimmed slice)
    (settings : Settings) :
    Formula.format settings ('=' :: slice) = .ok ('=' :: quoteSheetName buffer) := by
  have found := collected.tokens_eq nonempty isLine trimmed settings.strict
  rw [format_of_tokens (List.cons_ne_nil _ _) found, render_operandOf]
  have valueTrimmed : IsTrimmed buffer := by
    rw [IsTrimmed, ← collected.head?_eq, ← collected.getLast?_eq]
    exact trimmed
  have written := isTrimmed_quoteSheetName valueTrimmed
  rw [Text.trim_eq_self written.1 written.2]

/-! ## Sheets in quotes -/

/-- A reference to a range of a sheet whose name stands in quotes. -/
def quotedReference (sheet range : List Char) : List Char :=
  '\'' :: Text.doubled '\'' sheet ++ '\'' :: '!' :: range

/-- The same reference with the quotes in the name of the sheet written once. -/
def quotedValue (sheet range : List Char) : List Char :=
  '\'' :: sheet ++ '\'' :: '!' :: range

theorem collected_quotedReference
    {range : List Char} (isWord : IsWord range) (sheet : List Char) :
    Collected (quotedReference sheet range) (quotedValue sheet range) := by
  have plain : ∀ char ∈ '!' :: range, Scan.isDelimiter char = false := by
    intro char member
    rcases List.mem_cons.mp member with rfl | inside
    · decide
    · exact (isWord.plain char inside).1
  have whole := (Collected.quoted sheet).append_plain plain
  simpa [quotedReference, quotedValue] using whole

theorem isLine_quotedReference
    {sheet range : List Char} (isLine : IsLine sheet) (isWord : IsWord range) :
    IsLine (quotedReference sheet range) := by
  have quote : IsLine ['\''] := by simp [IsLine]
  have closing : IsLine ['\'', '!'] := by simp [IsLine]
  have name : IsLine (Text.doubled '\'' sheet) := isLine.doubled
  have whole := (quote.append name).append (closing.append isWord.isLine)
  simpa [quotedReference] using whole

theorem isTrimmed_quotedReference
    {range : List Char} (isWord : IsWord range) (sheet : List Char) :
    IsTrimmed (quotedReference sheet range) := by
  refine ⟨rfl, ?_⟩
  have ends : (quotedReference sheet range).getLast? = range.getLast? := by
    have split : quotedReference sheet range =
        ('\'' :: Text.doubled '\'' sheet ++ ['\'', '!']) ++ range := by
      simp [quotedReference]
    rw [split, List.getLast?_append, List.getLast?_eq_some_getLast isWord.nonempty, Option.some_or]
  rw [ends]
  exact isWord.last_visible

theorem IsWord.notMem_delimiter
    {word : List Char} (isWord : IsWord word)
    {mark : Char} (delimits : Scan.isDelimiter mark) :
    mark ∉ word := by
  intro member
  rw [(isWord.plain mark member).1] at delimits
  cases delimits

theorem IsWord.isTrimmed {text : List Char} (isWord : IsWord text) : IsTrimmed text :=
  ⟨isWord.head_visible, isWord.last_visible⟩

theorem IsWord.head_unquoted {text : List Char} (isWord : IsWord text) (rest : List Char) :
    (text ++ rest).head? ≠ some '\'' := by
  rcases List.exists_cons_of_ne_nil isWord.nonempty with ⟨char, others, rfl⟩
  intro quoted
  cases quoted
  exact isWord.notMem_delimiter rfl (List.mem_cons_self ..)

theorem quoteSheetName_word {word : List Char} (isWord : IsWord word) :
    quoteSheetName word = word := by
  apply isWord.collected.quoteSheetName_eq
  intro quoted
  have unquoted := isWord.head_unquoted []
  rw [List.append_nil] at unquoted
  exact absurd quoted unquoted

/-- The quotes of the name can be doubled again when it has no brackets or no quotes. -/
theorem requotable_quotedValue
    {sheet range : List Char}
    (isWord : IsWord range)
    (parted : ¬ ('[' ∈ sheet ∧ '\'' ∈ sheet)) :
    Requotable (quotedValue sheet range) := by
  intro _
  by_cases bracket : '[' ∈ sheet
  · right
    have noQuote : '\'' ∉ sheet := fun quote => parted ⟨bracket, quote⟩
    have noQuoteBehind : '\'' ∉ range := isWord.notMem_delimiter rfl
    simp [quotedValue, List.count_eq_zero_of_not_mem noQuote,
      List.count_eq_zero_of_not_mem noQuoteBehind]
  · left
    have noBracketBehind : '[' ∉ range := isWord.notMem_delimiter rfl
    have noBracket : '[' ∉ quotedValue sheet range := by
      simp [quotedValue, bracket, noBracketBehind]
    have others : ∀ char ∈ quotedValue sheet range, decide (char ≠ '[') = true := by
      intro char member
      have different : char ≠ '[' := fun same => noBracket (same ▸ member)
      simpa using different
    have nothing : (quotedValue sheet range ++ []).dropWhile (· ≠ '[') = [] :=
      List.dropWhile_append_of_pos others
    rw [List.append_nil] at nothing
    rw [nothing]
    exact List.not_mem_nil

/-- A bracket in the name keeps at least one of its quotes from being doubled. -/
theorem length_quoteSheetName_lt
    {sheet : List Char}
    (bracket : '[' ∈ sheet)
    (quote : '\'' ∈ sheet)
    (behind : List Char) :
    (quoteSheetName ('\'' :: (sheet ++ behind))).length <
      ('\'' :: (Text.doubled '\'' sheet ++ behind)).length := by
  have once : 0 < sheet.count '\'' := List.count_pos_iff.mpr quote
  cases cut : Text.cutLast? '\'' (Text.upTo '[' (sheet ++ behind)) with
  | none =>
      rw [quoteSheetName_of_uncut cut]
      simp only [List.length_cons, List.length_append, Text.length_doubled]
      omega
  | some parts =>
      rcases parts with ⟨name, later⟩
      rcases Text.exists_upTo_of_mem bracket with ⟨rest, split⟩
      have before : Text.upTo '[' sheet = name ++ '\'' :: later := by
        rw [split, List.append_assoc,
          Text.upTo_append_of_notMem (Text.notMem_upTo '[' sheet)] at cut
        simpa [Text.upTo] using (Text.cutLast?_eq_some_iff.mp cut).1
      rw [before] at split
      -- the quote that ends the name is one of those in the sheet
      have fewer : name.count '\'' < sheet.count '\'' := by
        rw [split, List.count_append, List.count_append, List.count_cons_self]
        omega
      rw [quoteSheetName_of_cut cut]
      have long : name.length ≤ (sheet ++ behind).length := by
        rw [split]
        simp only [List.length_append]
        omega
      simp only [List.length_cons, List.length_append, List.cons_append, Text.length_doubled,
        List.length_drop] at long ⊢
      omega

/--
A reference to a sheet in quotes is formatted to itself exactly when the name of
the sheet does not have both brackets and quotes.
-/
theorem format_quotedReference_iff
    (settings : Settings)
    (sheet range : List Char)
    (isLine : IsLine sheet)
    (isWord : IsWord range) :
    ∃ output,
      Formula.format settings ('=' :: quotedReference sheet range) = .ok output ∧
        (output = '=' :: quotedReference sheet range ↔ ¬ ('[' ∈ sheet ∧ '\'' ∈ sheet)) := by
  have collected := collected_quotedReference isWord sheet
  have formatted := collected.format_eq (List.cons_ne_nil _ _)
    (isLine_quotedReference isLine isWord) (isTrimmed_quotedReference isWord sheet) settings
  refine ⟨_, formatted, ?_⟩
  rw [List.cons.injEq, eq_self, true_and]
  constructor
  · rintro same ⟨bracket, quote⟩
    have shorter := length_quoteSheetName_lt bracket quote ('\'' :: '!' :: range)
    have sameLength := congrArg List.length same
    simp only [quotedValue, quotedReference, List.cons_append] at sameLength
    omega
  · intro parted
    exact collected.quoteSheetName_eq (requotable_quotedValue isWord parted)

/-- A name with two quotes side by side and one before the quote that ends it. -/
def quotesSheet : List Char := "a''b !'".toList

/-- The name of a workbook in brackets before the name of its sheet. -/
def workbookSheet : List Char := "[B]it's".toList

theorem format_quotedReference_iff_quotesSheet :
    IsLine quotesSheet ∧ IsWord "$A$1".toList ∧
      ∃ output,
        Formula.format {} ('=' :: quotedReference quotesSheet "$A$1".toList) = .ok output ∧
          (output = '=' :: quotedReference quotesSheet "$A$1".toList ↔
            ¬ ('[' ∈ quotesSheet ∧ '\'' ∈ quotesSheet)) := by
  have isLine : IsLine quotesSheet := isLine_of_unbroken (by decide)
  have isWord : IsWord "$A$1".toList := by decide
  exact ⟨isLine, isWord, format_quotedReference_iff {} quotesSheet _ isLine isWord⟩

/-- The quote behind a bracket is not doubled again. -/
theorem not_format_quotedReference :
    ¬ ∀ (settings : Settings) (sheet range : List Char),
      sheet ≠ [] → IsLine sheet → IsWord range →
        Formula.format settings ('=' :: quotedReference sheet range) =
          .ok ('=' :: quotedReference sheet range) := by
  intro survives
  have isLine : IsLine workbookSheet := isLine_of_unbroken (by decide)
  have kept := survives {} workbookSheet "A1".toList (by decide) isLine (by decide)
  have written :
      Formula.format {} ('=' :: quotedReference workbookSheet "A1".toList) =
        .ok "='[B]it's'!A1".toList :=
    eq_ok_of_toOption (by decide +kernel)
  have same := Except.ok.inj (written.symm.trans kept)
  exact absurd same (by decide)

end SheetFormula.RoundTrip
