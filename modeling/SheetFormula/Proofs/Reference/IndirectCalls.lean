import SheetFormula.Proofs.Passes.Texts
import SheetFormula.Proofs.Reference.Toggle
import SheetFormula.Proofs.Scan.Unknowns
import SheetFormula.Text.Word

/-!
# Indirect calls as formulas

The indirect form of a reference is a formula: a call with one argument, which is
the string of the sheet and the bare range.  A formula has each quote of a string
twice, and the indirect form has the text between its quotes as it is.

So the call can only be read back if the text has no quote.  The string of any
formula is written with two quotes around it and two for each of its own; in the
indirect form there are two quotes and one for each quote of the text.

Main statement: the tokens of the indirect form are the call with the text as its
only argument exactly when the name of the sheet has no quote.
-/

namespace SheetFormula

open RoundTrip

/-! ## Strings of a formula -/

/-- A string among classified tokens was one before. -/
theorem Classification.text_mem_of_mem_classify
    {tokens : List Token} {value : List Char}
    (member : ⟨.operand, value, some .text⟩ ∈ classify tokens) :
    ⟨.operand, value, some .text⟩ ∈ tokens := by
  rcases List.append_of_mem member with ⟨earlier, later, split⟩
  rcases exists_of_classifyAfter_eq split with ⟨before, token, behind, rfl, -, same, -, -⟩
  have rule := classifyToken_rule ((before.getLast?.or none).any endsValue) token
  rw [same] at rule
  generalize final : (⟨.operand, value, some .text⟩ : Token) = text at rule
  cases rule with
  | settled => simp
  | operand value =>
      rcases operandSubkind_cases value with number | logical | range
      · simp [number] at final
      · simp [logical] at final
      · simp [range] at final
  | _ => cases final

/-- A string among the tokens of a formula stands in it with its quotes doubled. -/
theorem Formula.exists_slice_of_text
    {isStrict : Bool} {formula : List Char} {final : List Token} {value : List Char}
    (found : tokens isStrict formula = .ok final)
    (member : ⟨.operand, value, some .text⟩ ∈ final) :
    ∃ earlier later,
      normalize formula = earlier ++ ('"' :: Text.doubled '"' value ++ ['"']) ++ later := by
  rcases tokens_eq_ok_iff.mp found with ⟨scanned, scan, rfl⟩
  have resolved := Classification.text_mem_of_mem_classify member
  rcases Intersection.mem_resolveAfter resolved with ⟨inScan, -⟩ | ⟨blank, -, -, same⟩
  · rcases List.append_of_mem inScan with ⟨before, behind, rfl⟩
    have entries := (Scan.scan_eq_ok_iff.mp scan).1
    rw [List.map_append, List.map_cons] at entries
    rcases Scan.exists_standsFor entries rfl with ⟨slice, earlier, later, -, spells, -, split⟩
    cases spells with
    | text => exact ⟨earlier.flatten, later.flatten, split⟩
    | symbol isSymbol => simp at isSymbol
  · cases same

end SheetFormula

namespace SheetFormula.Reference

open Layout RoundTrip

/-! ## Ranges -/

/-- The characters of ranges: letters, digits, colons and the marks of absolute addresses. -/
def isRangeChar (char : Char) : Bool :=
  Text.isLetter char || Text.isDigit char || char == ':' || char == '$'

structure IsRangeText (range : List Char) : Prop where
  nonempty : range ≠ []
  plain : ∀ char ∈ range, isRangeChar char

instance (range : List Char) : Decidable (IsRangeText range) :=
  decidable_of_iff (range ≠ [] ∧ range.all isRangeChar)
    ⟨fun ⟨nonempty, plain⟩ => ⟨nonempty, by simpa using plain⟩,
      fun ⟨nonempty, plain⟩ => ⟨nonempty, by simpa using plain⟩⟩

theorem plain_of_isRangeChar
    {char : Char} (inRange : isRangeChar char) :
    Text.isBlank char = false ∧ char ≠ '!' ∧ char ≠ '"' := by
  -- the exclamation mark and the quote follow the space
  have noLetter : Text.areApart ((0x21, 0x22) :: Text.blankRanges) Text.letterRanges = true := by
    decide +kernel
  have noDigit : Text.areApart ((0x21, 0x22) :: Text.blankRanges) Text.digitRanges = true := by
    decide
  have outside : Text.inRanges ((0x21, 0x22) :: Text.blankRanges) char.toNat = false := by
    rw [Bool.eq_false_iff]
    intro inside
    simp only [isRangeChar, Text.isLetter, Text.isDigit,
      Text.notInRanges_of_apart noLetter inside,
      Text.notInRanges_of_apart noDigit inside,
      Bool.false_or, Bool.or_eq_true, beq_iff_eq] at inRange
    rcases inRange with rfl | rfl
    · exact absurd inside (by decide)
    · exact absurd inside (by decide)
  refine ⟨?_, ?_, ?_⟩
  · rw [Bool.eq_false_iff]
    intro blank
    have inside := Text.inRanges_of_isBlank blank
    rw [Text.inRanges, List.any_cons, Bool.or_eq_false_iff] at outside
    exact absurd inside (Bool.eq_false_iff.mp outside.2)
  · rintro rfl
    exact absurd outside (by decide)
  · rintro rfl
    exact absurd outside (by decide)

namespace IsRangeText

variable {range : List Char}

theorem notMem_exclamation (isRange : IsRangeText range) : '!' ∉ range :=
  fun member => (plain_of_isRangeChar (isRange.plain _ member)).2.1 rfl

theorem last_visible (isRange : IsRangeText range) :
    range.getLast?.any Text.isBlank = false := by
  rw [List.getLast?_eq_some_getLast isRange.nonempty, Option.any_some]
  exact (plain_of_isRangeChar (isRange.plain _ (List.getLast_mem isRange.nonempty))).1

theorem isLine (isRange : IsRangeText range) : IsLine range := by
  intro char member
  have visible := (plain_of_isRangeChar (isRange.plain char member)).1
  constructor
  · rintro rfl
    cases visible
  · rintro rfl
    cases visible

end IsRangeText

/-! ## The tokens of an indirect call -/

/-- The call of the indirect function with a text as its only argument. -/
def callTokens (text : List Char) : List Token :=
  [functionStart "INDIRECT".toList, ⟨.operand, text, some .text⟩, functionStop]

/-- A call whose string is written with its quotes doubled. -/
theorem yields_call (text : List Char) :
    Yields [] [] (callWord ++ '"' :: (Text.doubled '"' text ++ ['"', ')'])) (callTokens text) := by
  have isName : IsName "INDIRECT".toList := ⟨by decide, by decide, by decide⟩
  have noRow : (functionStart "INDIRECT".toList).isArrayRow = false := by decide
  have closed : Yields [functionStart "INDIRECT".toList] [] [')'] [functionStop] :=
    yields_nil.closeParenthesis noRow
  have quoted := @Yields.text _ text _ _ closed (by decide)
  have called := quoted.call isName.isFunctionName
  have word : callWord = "INDIRECT".toList ++ ['('] := by decide
  rw [word]
  simpa [callTokens] using called

/-- A formula on one line without an equals sign is normalised already. -/
theorem normalize_unsigned
    {text : List Char}
    (isLine : IsLine text)
    (trimmed : IsTrimmed text)
    (unsigned : text.head? ≠ some '=') :
    Formula.normalize text = text := by
  have kept : Text.trim (unbroken text) = text := by
    rw [isLine.unbroken_eq, Text.trim_eq_self trimmed.1 trimmed.2]
  unfold unbroken at kept
  simp only [Formula.normalize, kept]
  split
  · exact absurd rfl unsigned
  · rfl

theorem isLine_indirect
    {reference : Reference} (isLine : IsLine reference.bareText) :
    IsLine reference.indirect := by
  have word : IsLine callWord := isLine_of_unbroken (by decide)
  have quote : IsLine ['"'] := isLine_of_unbroken (by decide)
  have closing : IsLine ['"', ')'] := isLine_of_unbroken (by decide)
  rw [indirect_eq]
  simpa using word.append (quote.append (isLine.append closing))

theorem normalize_indirect
    {reference : Reference} (isLine : IsLine reference.bareText) :
    Formula.normalize reference.indirect = reference.indirect := by
  apply normalize_unsigned (isLine_indirect isLine) (isTrimmed_indirect reference)
  rw [indirect_eq, callWord_eq]
  simp

/-- The indirect form has its tokens exactly when no quote of its text would have to be doubled. -/
theorem tokens_indirect_iff
    {reference : Reference}
    (isLine : IsLine reference.bareText)
    (isStrict : Bool) :
    Formula.tokens isStrict reference.indirect = .ok (callTokens reference.bareText) ↔
      '"' ∉ reference.bareText := by
  constructor
  · intro found
    have member : ⟨.operand, reference.bareText, some .text⟩ ∈ callTokens reference.bareText := by
      simp [callTokens]
    rcases Formula.exists_slice_of_text found member with ⟨earlier, later, split⟩
    have word : callWord.count '"' = 0 := by decide
    have counted := congrArg (List.count '"') split
    rw [normalize_indirect isLine, indirect_eq] at counted
    have quotes : reference.bareText.count '"' + 2 =
        earlier.count '"' + (2 * reference.bareText.count '"' + (later.count '"' + 2)) := by
      simpa [Text.count_doubled, word, Nat.add_assoc] using counted
    rw [← List.count_eq_zero]
    omega
  · intro absent
    have yields := yields_call reference.bareText
    rw [Text.doubled_of_notMem absent, ← indirect_eq] at yields
    rw [Formula.tokens_eq_ok_iff, normalize_indirect isLine]
    refine ⟨_, yields.scan_eq isStrict, ?_⟩
    rfl

theorem isLine_bareText
    {sheet range : List Char} (isLine : IsLine sheet) (isRange : IsRangeText range) :
    IsLine (bareText ⟨sheet, range⟩) := by
  have mark : IsLine ['!'] := isLine_of_unbroken (by decide)
  have bare : IsLine (Text.without '$' range) :=
    fun char member => isRange.isLine char (List.mem_filter.mp member).1
  simpa [bareText, bareRange] using isLine.append (mark.append bare)

/-- The quotes of the text are those of the name of the sheet. -/
theorem notMem_quote_bareText_iff
    {sheet range : List Char} (isRange : IsRangeText range) :
    '"' ∉ bareText ⟨sheet, range⟩ ↔ '"' ∉ sheet := by
  have bare : '"' ∉ Text.without '$' range := fun member =>
    (plain_of_isRangeChar (isRange.plain _ (List.mem_filter.mp member).1)).2.2 rfl
  simp [bareText, bareRange, bare]

/--
A reference to a sheet in quotes is converted to a formula.  Its tokens are the
call with the sheet and the bare range as its only argument exactly when the name
of the sheet has no quote of a string.
-/
theorem tokens_convert_iff
    (sheet range : List Char)
    (isStrict : Bool)
    (named : sheet ≠ [])
    (isLine : IsLine sheet)
    (isRange : IsRangeText range) :
    ∃ formula,
      convert (quotedReference sheet range) = .ok formula ∧
        (Formula.tokens isStrict formula =
            .ok (callTokens (sheet ++ '!' :: Text.without '$' range)) ↔
          '"' ∉ sheet) := by
  have accepted := parse_quotedReference named isRange.nonempty isRange.notMem_exclamation
    isRange.last_visible
  have direct : ¬ ∃ content, IndirectCall (Text.trim (quotedReference sheet range)) content := by
    rw [trim_quotedReference isRange.nonempty isRange.last_visible]
    exact not_indirectCall_quoted _
  refine ⟨_, convert_of_parse accepted direct, ?_⟩
  rw [← notMem_quote_bareText_iff isRange]
  exact tokens_indirect_iff (isLine_bareText isLine isRange) isStrict

/-- The name of a sheet in single quotes and parentheses. -/
def quotedSheet : List Char := "it's ('!)".toList

/-- The name of a sheet with one quote of a string. -/
def inchSheet : List Char := "a\"b".toList

theorem tokens_convert_iff_quotedSheet :
    quotedSheet ≠ [] ∧ IsLine quotedSheet ∧ IsRangeText "$A$1:B2".toList ∧
      ∃ formula,
        convert (quotedReference quotedSheet "$A$1:B2".toList) = .ok formula ∧
          (Formula.tokens true formula = .ok (callTokens (quotedSheet ++ "!A1:B2".toList)) ↔
            '"' ∉ quotedSheet) := by
  have isLine : IsLine quotedSheet := isLine_of_unbroken (by decide)
  have isRange : IsRangeText "$A$1:B2".toList := by decide +kernel
  exact ⟨by decide, isLine, isRange, tokens_convert_iff _ _ true (by decide) isLine isRange⟩

/-- A quote in the name of a sheet ends the string of the indirect form. -/
theorem not_tokens_convert :
    ¬ ∀ sheet range : List Char, sheet ≠ [] → IsLine sheet → IsRangeText range →
      ∃ formula,
        convert (quotedReference sheet range) = .ok formula ∧
          Formula.tokens true formula =
            .ok (callTokens (sheet ++ '!' :: Text.without '$' range)) := by
  intro reads
  have isLine : IsLine inchSheet := isLine_of_unbroken (by decide)
  rcases reads inchSheet "A1".toList (by decide) isLine (by decide +kernel) with
    ⟨formula, converted, found⟩
  have written : convert (quotedReference inchSheet "A1".toList) =
      .ok "INDIRECT(\"a\"b!A1\")".toList := by
    decide +kernel
  rw [written] at converted
  cases converted
  have none : (Formula.tokens true "INDIRECT(\"a\"b!A1\")".toList).toOption = none := by
    decide +kernel
  rw [found] at none
  cases none

end SheetFormula.Reference
