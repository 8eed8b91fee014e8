import Mathlib.Data.List.Forall2
import SheetFormula.Proofs.RoundTrip.Operands
import SheetFormula.Reference

/-!
# References and their indirect forms

A reference is read from the last exclamation mark of its trimmed text.  In a
sheet name between quotes every quote is written twice, and reading takes the
pairs from the left, so a name of any quotes is read back.  Reading fails where
there is no exclamation mark or one of the parts is empty; between its quotes a
sheet name is empty only if there is nothing else than the two quotes.

`IndirectCall` is the form of an indirect call: the word in letters of either
case, and a string up to the last quote.  `indirectText?` finds exactly these
calls.  A reference becomes such a call whose string can have any quotes and
parentheses, and the last quote of the call is the one that ends the string.

Main statement: references to quoted sheets are read back, reading fails exactly
where a part is missing, and converting a reference twice gives the sheet and
the range without the marks of absolute addresses.
-/

namespace SheetFormula.Reference

open Layout RoundTrip

/-! ## Sheet names -/

/-- A name between quotes is the name with its quotes written once. -/
theorem unquote_between (inner : List Char) :
    unquote ('\'' :: inner ++ ['\'']) = Text.undoubled '\'' inner := by
  simp [unquote]

/-- Only a name between quotes changes. -/
theorem unquote_cases (sheet : List Char) :
    unquote sheet = sheet ∧ sheet ≠ ['\'', '\''] ∨
      ∃ inner, sheet = '\'' :: inner ++ ['\''] := by
  fun_cases unquote sheet with
  | case1 rest ends =>
      rcases List.getLast?_eq_some_iff.mp ends with ⟨inner, rfl⟩
      exact .inr ⟨inner, rfl⟩
  | case2 rest unended =>
      left
      refine ⟨rfl, ?_⟩
      intro same
      cases same
      exact unended rfl
  | case3 =>
      next unquoted =>
        left
        refine ⟨rfl, ?_⟩
        intro same
        exact unquoted ['\''] same

theorem unquote_eq_nil_iff {sheet : List Char} :
    unquote sheet = [] ↔ sheet = [] ∨ sheet = ['\'', '\''] := by
  rcases unquote_cases sheet with ⟨same, other⟩ | ⟨inner, rfl⟩
  · simp [same, other]
  · rw [unquote_between, Text.undoubled_eq_nil_iff]
    simp

theorem mem_of_mem_unquote
    {sheet : List Char} {char : Char} (member : char ∈ unquote sheet) :
    char ∈ sheet := by
  rcases unquote_cases sheet with ⟨same, -⟩ | ⟨inner, rfl⟩
  · rwa [same] at member
  · rw [unquote_between] at member
    have inside := Text.mem_of_mem_undoubled member
    simp [inside]

/-! ## Reading references -/

theorem parse_of_uncut {text : List Char} (absent : '!' ∉ Text.trim text) :
    parse text = .error (.noSeparator (Text.trim text)) := by
  simp only [parse, Text.cutLast?_eq_none_iff.mpr absent]

theorem parse_of_cut
    {text quoted range : List Char}
    (split : Text.trim text = quoted ++ '!' :: range)
    (absent : '!' ∉ range) :
    parse text =
      if unquote quoted = [] ∨ range = [] then .error (.missingPart (Text.trim text))
      else .ok ⟨unquote quoted, range⟩ := by
  simp only [parse, Text.cutLast?_eq_some_iff.mpr ⟨split, absent⟩, Bool.or_eq_true,
    List.isEmpty_iff]

/-- The last exclamation mark of a text parts it in one way. -/
theorem exists_cut {text : List Char} (found : '!' ∈ text) :
    ∃ before behind, text = before ++ '!' :: behind ∧ '!' ∉ behind ∧
      ∀ other rest, text = other ++ '!' :: rest → '!' ∉ rest → other = before ∧ rest = behind := by
  cases cut : Text.cutLast? '!' text with
  | none => exact absurd found (Text.cutLast?_eq_none_iff.mp cut)
  | some parts =>
      rcases Text.cutLast?_eq_some_iff.mp cut with ⟨split, absent⟩
      refine ⟨parts.1, parts.2, split, absent, ?_⟩
      intro other rest splitAgain absentAgain
      rw [Text.cutLast?_eq_some_iff.mpr ⟨splitAgain, absentAgain⟩] at cut
      cases cut
      exact ⟨rfl, rfl⟩

/-- A text is a reference when both of its parts are there. -/
theorem parse_eq_ok_iff {text : List Char} {reference : Reference} :
    parse text = .ok reference ↔
      ∃ quoted,
        Text.trim text = quoted ++ '!' :: reference.range ∧ '!' ∉ reference.range ∧
          unquote quoted = reference.sheet ∧ reference.sheet ≠ [] ∧ reference.range ≠ [] := by
  constructor
  · intro accepted
    by_cases found : '!' ∈ Text.trim text
    · rcases exists_cut found with ⟨quoted, range, split, absent, -⟩
      rw [parse_of_cut split absent] at accepted
      split at accepted
      · cases accepted
      · next complete =>
          cases accepted
          rw [not_or] at complete
          exact ⟨quoted, split, absent, rfl, complete.1, complete.2⟩
    · rw [parse_of_uncut found] at accepted
      cases accepted
  · rintro ⟨quoted, split, absent, same, named, nonempty⟩
    rw [parse_of_cut split absent, same, if_neg (not_or.mpr ⟨named, nonempty⟩)]

/-- Texts without an exclamation mark, or with nothing on one side of the last one. -/
def LacksPart (text : List Char) : Prop :=
  '!' ∉ text ∨
    ∃ sheet range,
      text = sheet ++ '!' :: range ∧ '!' ∉ range ∧
        (sheet = [] ∨ sheet = ['\'', '\''] ∨ range = [])

/-- Reading fails exactly where a part is missing. -/
theorem exists_parse_error_iff {text : List Char} :
    (∃ error, parse text = .error error) ↔ LacksPart (Text.trim text) := by
  by_cases found : '!' ∈ Text.trim text
  · rcases exists_cut found with ⟨quoted, range, split, absent, only⟩
    have missing : LacksPart (Text.trim text) ↔ unquote quoted = [] ∨ range = [] := by
      rw [unquote_eq_nil_iff, or_assoc]
      constructor
      · rintro (none | ⟨sheet, cells, splitAgain, absentAgain, lacks⟩)
        · exact absurd found none
        · obtain ⟨rfl, rfl⟩ := only sheet cells splitAgain absentAgain
          exact lacks
      · intro lacks
        exact .inr ⟨quoted, range, split, absent, lacks⟩
    rw [missing, parse_of_cut split absent]
    by_cases lacks : unquote quoted = [] ∨ range = []
    · simp [lacks]
    · simp [lacks]
  · rw [parse_of_uncut found]
    exact ⟨fun _ => .inl found, fun _ => ⟨_, rfl⟩⟩

theorem quotedReference_eq (sheet range : List Char) :
    quotedReference sheet range =
      ('\'' :: Text.doubled '\'' sheet ++ ['\'']) ++ '!' :: range := by
  simp [quotedReference]

theorem trim_quotedReference
    {range : List Char}
    (nonempty : range ≠ [])
    (visible : range.getLast?.any Text.isBlank = false)
    (sheet : List Char) :
    Text.trim (quotedReference sheet range) = quotedReference sheet range := by
  apply Text.trim_eq_self
  · rfl
  · rw [quotedReference_eq, List.append_cons, List.getLast?_append,
      List.getLast?_eq_some_getLast nonempty, Option.some_or,
      ← List.getLast?_eq_some_getLast nonempty, visible]

/-- A reference to a quoted sheet is read back. -/
theorem parse_quotedReference
    {sheet range : List Char}
    (named : sheet ≠ [])
    (nonempty : range ≠ [])
    (absent : '!' ∉ range)
    (visible : range.getLast?.any Text.isBlank = false) :
    parse (quotedReference sheet range) = .ok ⟨sheet, range⟩ := by
  rw [parse_eq_ok_iff, trim_quotedReference nonempty visible]
  refine ⟨_, quotedReference_eq sheet range, absent, ?_, named, nonempty⟩
  rw [unquote_between, Text.undoubled_doubled]

/-! ## Indirect calls -/

/-- Calls that refer to a range indirectly, with the text of the string they hold. -/
inductive IndirectCall : List Char → List Char → Prop where
  | intro {equals before word inside content behind : List Char}
      (sign : equals = [] ∨ equals = ['='])
      (blankBefore : ∀ char ∈ before, Text.isBlank char)
      (named : List.Forall₂ (fun expected char => Text.sameLetter expected char)
        callWord word)
      (blankInside : ∀ char ∈ inside, Text.isBlank char)
      (oneLine : '\n' ∉ content)
      (blankBehind : ∀ char ∈ behind, Text.isBlank char) :
      IndirectCall
        (equals ++ before ++ word ++ inside ++ '"' :: content ++ '"' :: behind ++ [')']) content

/-- The beginning that is skipped is the word in letters of either case. -/
theorem afterWord?_eq_some_iff {word text rest : List Char} :
    afterWord? word text = some rest ↔
      ∃ written,
        List.Forall₂ (fun expected char => Text.sameLetter expected char) word written ∧
          text = written ++ rest := by
  induction word generalizing text with
  | nil =>
      simp [afterWord?]
  | cons expected word ih =>
      cases text with
      | nil => simp [afterWord?]
      | cons char text =>
          rw [afterWord?]
          constructor
          · intro found
            split at found
            · next same =>
                rcases ih.mp found with ⟨written, matched, rfl⟩
                exact ⟨char :: written, .cons same matched, rfl⟩
            · cases found
          · rintro ⟨written, matched, split⟩
            cases matched with
            | cons same matched =>
                cases split
                rw [if_pos same]
                exact ih.mpr ⟨_, matched, rfl⟩

/-- The string ends at the last quote, behind which there are only blanks and the parenthesis. -/
theorem closingString?_eq_some_iff {text content : List Char} :
    closingString? text = some content ↔
      ∃ behind, (∀ char ∈ behind, Text.isBlank char) ∧
        text = content ++ '"' :: behind ++ [')'] := by
  constructor
  · intro found
    rw [closingString?] at found
    split at found
    · next before reversed =>
        split at found
        · next rest dropped =>
            cases found
            have whole : before.takeWhile Text.isBlank ++ '"' :: rest = before := by
              rw [← dropped, List.takeWhile_append_dropWhile]
            refine ⟨(before.takeWhile Text.isBlank).reverse, ?_, ?_⟩
            · intro char member
              exact List.all_eq_true.mp List.all_takeWhile char (List.mem_reverse.mp member)
            · rw [← whole, List.reverse_eq_iff] at reversed
              simpa using reversed
        · cases found
    · cases found
  · rintro ⟨behind, blank, rfl⟩
    have blankReversed : ∀ char ∈ behind.reverse, Text.isBlank char := by simpa using blank
    have reversed : (content ++ '"' :: behind ++ [')']).reverse =
        ')' :: (behind.reverse ++ '"' :: content.reverse) := by
      simp
    have stops : ('"' :: content.reverse).dropWhile Text.isBlank = '"' :: content.reverse := by
      simp [show Text.isBlank '"' = false by decide]
    rw [closingString?, reversed]
    simp only [List.dropWhile_append_of_pos blankReversed, stops, List.reverse_reverse]

/-- No blank and no equals sign is the first letter of the word. -/
theorem initial_of_sameLetter
    {char : Char} (same : Text.sameLetter 'I' char) :
    Text.isBlank char = false ∧ char ≠ '=' := by
  have others : ∀ code ∈ 0x3D :: Text.codes Text.blankRanges,
      Text.sameLetter 'I' (Char.ofNat code) = false := by
    decide +kernel
  have outside : char.toNat ∉ 0x3D :: Text.codes Text.blankRanges := by
    intro member
    have different := others _ member
    rw [Char.ofNat_toNat, same] at different
    cases different
  constructor
  · rw [Bool.eq_false_iff]
    intro blank
    exact outside (List.mem_cons_of_mem _ (Text.mem_codes (Text.inRanges_of_isBlank blank)))
  · rintro rfl
    exact outside List.mem_cons_self

/-- The string is found in a body of the form of an indirect call. -/
theorem callString?_eq_some_iff {body content : List Char} :
    callString? body = some content ↔
      ∃ before word inside behind,
        (∀ char ∈ before, Text.isBlank char) ∧
          List.Forall₂ (fun expected char => Text.sameLetter expected char)
            callWord word ∧
          (∀ char ∈ inside, Text.isBlank char) ∧ (∀ char ∈ behind, Text.isBlank char) ∧
          body = before ++ word ++ inside ++ '"' :: content ++ '"' :: behind ++ [')'] := by
  constructor
  · fun_cases callString? body with
    | case1 =>
        intro found
        cases found
    | case2 rest called quoted opened =>
        intro found
        rcases Text.eq_append_trimStart body with ⟨before, blankBefore, bodySplit⟩
        rcases afterWord?_eq_some_iff.mp called with ⟨word, named, wordSplit⟩
        rcases Text.eq_append_trimStart rest with ⟨inside, blankInside, restSplit⟩
        rcases closingString?_eq_some_iff.mp found with ⟨behind, blankBehind, rfl⟩
        refine ⟨before, word, inside, behind, blankBefore, named, blankInside, blankBehind, ?_⟩
        rw [bodySplit, wordSplit, restSplit, opened]
        simp
    | case3 =>
        intro found
        cases found
  · rintro ⟨before, word, inside, behind, blankBefore, named, blankInside, blankBehind, rfl⟩
    have called : Text.trimStart
        (before ++ word ++ inside ++ '"' :: content ++ '"' :: behind ++ [')']) =
          word ++ (inside ++ '"' :: (content ++ '"' :: behind ++ [')'])) := by
      cases named with
      | cons same _ =>
          have starts := Text.trimStart_append_of_visible blankBefore (initial_of_sameLetter same).1
          simp [starts]
    have opened : Text.trimStart (inside ++ '"' :: (content ++ '"' :: behind ++ [')'])) =
        '"' :: (content ++ '"' :: behind ++ [')']) :=
      Text.trimStart_append_of_visible blankInside rfl _
    simp only [callString?, called, afterWord?_eq_some_iff.mpr ⟨word, named, rfl⟩, opened]
    exact closingString?_eq_some_iff.mpr ⟨behind, blankBehind, rfl⟩

/-- Without the equals sign before it, a formula is its body. -/
theorem bodyOf_append
    {equals body : List Char}
    (sign : equals = [] ∨ equals = ['='])
    (unsigned : body.head? ≠ some '=') :
    bodyOf (equals ++ body) = body := by
  rcases sign with rfl | rfl
  · rw [List.nil_append]
    fun_cases bodyOf body with
    | case1 => exact absurd rfl unsigned
    | case2 => rfl
  · rfl

theorem eq_append_bodyOf (text : List Char) :
    ∃ equals, (equals = [] ∨ equals = ['=']) ∧ text = equals ++ bodyOf text := by
  fun_cases bodyOf text with
  | case1 rest => exact ⟨['='], .inr rfl, rfl⟩
  | case2 => exact ⟨[], .inl rfl, rfl⟩

/-- The calls that are taken apart are those of the form of an indirect call. -/
theorem indirectText?_eq_some_iff {text content : List Char} :
    indirectText? text = some content ↔ IndirectCall text content := by
  rw [indirectText?, Option.filter_eq_some_iff, callString?_eq_some_iff]
  constructor
  · rintro ⟨⟨before, word, inside, behind, blankBefore, named, blankInside, blankBehind, split⟩,
      oneLine⟩
    rcases eq_append_bodyOf text with ⟨equals, sign, whole⟩
    have call := @IndirectCall.intro equals before word inside content behind sign blankBefore named
      blankInside (by simpa using oneLine) blankBehind
    rw [whole, split]
    simpa using call
  · intro call
    cases call with
    | @intro equals before word inside content behind sign blankBefore named blankInside oneLine
        blankBehind =>
        refine ⟨⟨before, word, inside, behind, blankBefore, named, blankInside, blankBehind, ?_⟩,
          by simpa using oneLine⟩
        have unsigned : (before ++ word ++ inside ++ '"' :: content ++ '"' :: behind ++
            [')']).head? ≠ some '=' := by
          cases named with
          | cons same _ =>
              cases before with
              | nil => simpa using (initial_of_sameLetter same).2
              | cons first _ =>
                  have blank := blankBefore first List.mem_cons_self
                  intro isEquals
                  cases isEquals
                  exact absurd blank (by decide)
        have body := bodyOf_append sign unsigned
        simpa using body

theorem callWord_eq : callWord = 'I' :: callWord.tail := by
  decide

/-- A text that begins with a sheet name in quotes is no indirect call. -/
theorem not_indirectCall_quoted (rest : List Char) :
    ¬ ∃ content, IndirectCall ('\'' :: rest) content := by
  have other : Text.sameLetter 'I' '\'' = false := by decide +kernel
  have uncalled : afterWord? callWord ('\'' :: rest) = none := by
    rw [callWord_eq, afterWord?, other]
    rfl
  rintro ⟨content, call⟩
  have found := indirectText?_eq_some_iff.mpr call
  have starts : Text.trimStart ('\'' :: rest) = '\'' :: rest := rfl
  simp [indirectText?, bodyOf, callString?, starts, uncalled] at found

/-! ## Converting -/

/-- The text that the indirect form of a reference holds. -/
def bareText (reference : Reference) : List Char :=
  reference.sheet ++ '!' :: reference.bareRange

theorem indirect_eq (reference : Reference) :
    reference.indirect = callWord ++ '"' :: (reference.bareText ++ ['"', ')']) := by
  simp [indirect, bareText]

theorem sameLetter_self (char : Char) : Text.sameLetter char char := by
  simp [Text.sameLetter]

/-- The indirect form of a reference is an indirect call with its text. -/
theorem indirectCall_indirect
    {reference : Reference} (oneLine : '\n' ∉ reference.bareText) :
    IndirectCall reference.indirect reference.bareText := by
  have named : List.Forall₂ (fun expected char => Text.sameLetter expected char)
      callWord callWord := by
    rw [List.forall₂_same]
    exact fun char _ => sameLetter_self char
  have call := @IndirectCall.intro [] [] _ [] _ [] (.inl rfl) (by simp) named (by simp) oneLine
    (by simp)
  rw [indirect_eq]
  simpa using call

theorem isTrimmed_indirect (reference : Reference) : IsTrimmed reference.indirect := by
  have split : reference.indirect =
      'I' :: (callWord.tail ++ '"' :: (reference.bareText ++ ['"'])) ++ [')'] := by
    rw [indirect_eq, callWord_eq]
    simp
  rw [split]
  exact isTrimmed_between _ _ _ rfl rfl

theorem trim_indirect (reference : Reference) :
    Text.trim reference.indirect = reference.indirect :=
  Text.trim_eq_self (isTrimmed_indirect reference).1 (isTrimmed_indirect reference).2

theorem convert_indirect
    {reference : Reference} (oneLine : '\n' ∉ reference.bareText) :
    convert reference.indirect = .ok reference.bareText := by
  have found := indirectText?_eq_some_iff.mpr (indirectCall_indirect oneLine)
  simp only [convert, trim_indirect, found]

/-- A reference that is no indirect call becomes one. -/
theorem convert_of_parse
    {text : List Char} {reference : Reference}
    (accepted : parse text = .ok reference)
    (direct : ¬ ∃ content, IndirectCall (Text.trim text) content) :
    convert text = .ok reference.indirect := by
  have none : indirectText? (Text.trim text) = none := by
    rw [Option.eq_none_iff_forall_ne_some]
    intro content found
    exact direct ⟨content, indirectText?_eq_some_iff.mp found⟩
  have again : parse (Text.trim text) = parse text := by
    simp only [parse, Text.trim_trim]
  simp only [convert, none, again, accepted]

/-- The text of a reference has no line feed that was not in the text it was read from. -/
theorem notMem_bareText
    {text : List Char} {reference : Reference}
    (accepted : parse text = .ok reference)
    (absent : '\n' ∉ text) :
    '\n' ∉ reference.bareText := by
  rcases parse_eq_ok_iff.mp accepted with ⟨quoted, split, -, same, -, -⟩
  have outside : '\n' ∉ Text.trim text := fun member => absent (Text.mem_of_mem_trim member)
  rw [split, List.mem_append, List.mem_cons, not_or, not_or] at outside
  rw [bareText, List.mem_append, List.mem_cons, not_or, not_or]
  refine ⟨?_, by decide, ?_⟩
  · intro member
    rw [← same] at member
    exact outside.1 (mem_of_mem_unquote member)
  · intro member
    exact outside.2.2 (List.mem_filter.mp member).1

/--
References are read back and converted back.  A reference to a sheet in quotes
is read as its sheet and range.  Reading fails exactly where the trimmed text has
no exclamation mark or nothing on one side of the last one.  A reference that is
no indirect call is converted to one, and that call to the sheet and the range
without the marks of absolute addresses.
-/
theorem references_toggle :
    (∀ sheet range : List Char,
      sheet ≠ [] → range ≠ [] → '!' ∉ range → range.getLast?.any Text.isBlank = false →
        parse (quotedReference sheet range) = .ok ⟨sheet, range⟩) ∧
    (∀ text : List Char,
      (∃ error, parse text = .error error) ↔ LacksPart (Text.trim text)) ∧
    (∀ (text : List Char) (reference : Reference),
      '\n' ∉ text → parse text = .ok reference →
        (¬ ∃ content, IndirectCall (Text.trim text) content) →
          ∃ call,
            convert text = .ok call ∧
              convert call = .ok (reference.sheet ++ '!' :: Text.without '$' reference.range)) := by
  refine ⟨?_, ?_, ?_⟩
  · intro sheet range named nonempty absent visible
    exact parse_quotedReference named nonempty absent visible
  · intro text
    exact exists_parse_error_iff
  · intro text reference absent accepted direct
    exact ⟨reference.indirect, convert_of_parse accepted direct,
      convert_indirect (notMem_bareText accepted absent)⟩

/-- A name with quotes of both kinds, an exclamation mark and the beginning of an indirect call. -/
def callingSheet : List Char := "it's!INDIRECT(\")\"".toList

theorem references_toggle_callingSheet :
    parse (quotedReference callingSheet "$A$1".toList) = .ok ⟨callingSheet, "$A$1".toList⟩ ∧
      LacksPart (Text.trim "''!A1 ".toList) ∧
      ∃ call,
        convert (quotedReference callingSheet "$A$1".toList) = .ok call ∧
          convert call = .ok (callingSheet ++ "!A1".toList) := by
  rcases references_toggle with ⟨reads, fails, toggles⟩
  have accepted := reads callingSheet "$A$1".toList (by decide) (by decide) (by decide) (by decide)
  have rejected : parse "''!A1 ".toList = .error (.missingPart "''!A1".toList) := by decide
  have direct : ¬ ∃ content,
      IndirectCall (Text.trim (quotedReference callingSheet "$A$1".toList)) content := by
    rw [trim_quotedReference (by decide) (by decide)]
    exact not_indirectCall_quoted _
  exact ⟨accepted, (fails _).mp ⟨_, rejected⟩, toggles _ _ (by decide) accepted direct⟩

end SheetFormula.Reference
