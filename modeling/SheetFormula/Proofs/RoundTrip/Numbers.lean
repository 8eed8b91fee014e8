import Mathlib.Data.List.Basic
import SheetFormula.Proofs.Number.Grammar
import SheetFormula.Proofs.RoundTrip.Operands

/-!
# Formulas that are numbers

The scanner meets the sign of an exponent before it knows that the text is a
number.  It takes the sign for a part of the operand only behind a mantissa in
scientific form: one digit from 1 to 9, a point with digits behind it if there is
one, and `E`.  Behind any other mantissa the sign is an operator.

Main statement: a number is one operand, and formatting keeps it, when every sign
in it stands behind a mantissa in scientific form.  Every other number is read as
a range and a number with a sign between them.
-/

namespace SheetFormula.RoundTrip

open Layout Number

/-! ## Numbers as words -/

/-- A digit is neither a blank nor a delimiter. -/
theorem plain_digit {char : Char} (isDigit : Text.isDigit char) :
    Scan.isDelimiter char = false ∧ Text.isBlank char = false := by
  constructor
  · rw [Bool.eq_false_iff]
    intro delimiter
    -- all delimiters are checked
    have noDigit := List.all_eq_true.mp
      (by decide : (List.all _ fun mark => !Text.isDigit mark) = true) char
      (List.contains_iff_mem.mp delimiter)
    rw [isDigit] at noDigit
    cases noDigit
  · rw [Bool.eq_false_iff]
    intro blank
    have apart : Text.areApart Text.blankRanges Text.digitRanges = true := by decide
    have noDigit := Text.notInRanges_of_apart apart (Text.inRanges_of_isBlank blank)
    exact absurd (noDigit.symm.trans isDigit) Bool.false_ne_true

theorem IsWord.append
    {first second : List Char} (isWord : IsWord first) (later : IsWord second) :
    IsWord (first ++ second) where
  nonempty := List.append_ne_nil_of_left_ne_nil isWord.nonempty second
  plain := by
    intro char member
    rcases List.mem_append.mp member with before | behind
    · exact isWord.plain char before
    · exact later.plain char behind

theorem isWord_digits {digits : List Char} (isDigits : IsDigits digits) : IsWord digits where
  nonempty := isDigits.nonempty
  plain := fun char member => plain_digit (isDigits.digits char member)

theorem isWord_point
    {places : List Char} (inPlaces : ∀ char ∈ places, Text.isDigit char) :
    IsWord ('.' :: places) where
  nonempty := List.cons_ne_nil _ _
  plain := by
    intro char member
    rcases List.mem_cons.mp member with rfl | inside
    · decide
    · exact plain_digit (inPlaces char inside)

theorem isWord_mantissa {mantissa : List Char} (isMantissa : Mantissa mantissa) :
    IsWord mantissa := by
  cases isMantissa with
  | whole isDigits => exact isWord_digits isDigits
  | pointed isDigits inPlaces => exact (isWord_digits isDigits).append (isWord_point inPlaces)
  | fraction isDigits => exact isWord_point isDigits.digits

theorem isWord_mark {mark : Char} (isMark : mark = 'e' ∨ mark = 'E') : IsWord [mark] := by
  rcases isMark with rfl | rfl
  · decide
  · decide

/-! ## Mantissas in scientific form -/

/-- A digit from 1 to 9, a point with ASCII digits behind it if there is one, and `E`. -/
inductive IsScientific : List Char → Prop where
  | whole {digit : Char}
      (significant : '1' ≤ digit ∧ digit ≤ '9') :
      IsScientific [digit, 'E']
  | pointed {digit : Char} {places : List Char}
      (significant : '1' ≤ digit ∧ digit ≤ '9')
      (nonempty : places ≠ [])
      (inPlaces : ∀ char ∈ places, Text.isAsciiDigit char) :
      IsScientific (digit :: '.' :: (places ++ ['E']))

theorem endsInMark_iff {rest : List Char} (unbroken : '\n' ∉ rest) :
    Scan.awaitsExponent.endsInMark rest = true ↔ rest = ['E'] := by
  have noBreak : rest ≠ ['E', '\n'] := by
    rintro rfl
    simp at unbroken
  simp [Scan.awaitsExponent.endsInMark, noBreak]

/-- Digits up to the mark at the end of a text. -/
theorem exists_places
    {fraction : List Char}
    (found : (fraction.head?.any Text.isAsciiDigit &&
      Scan.awaitsExponent.endsInMark (fraction.dropWhile Text.isAsciiDigit)) = true)
    (unbroken : '\n' ∉ fraction) :
    ∃ places,
      places ≠ [] ∧ (∀ char ∈ places, Text.isAsciiDigit char) ∧ fraction = places ++ ['E'] := by
  rw [Bool.and_eq_true] at found
  rcases found with ⟨starts, marked⟩
  have unbrokenMark : '\n' ∉ fraction.dropWhile Text.isAsciiDigit :=
    fun member => unbroken ((List.dropWhile_suffix _).subset member)
  have whole : fraction.takeWhile Text.isAsciiDigit ++ fraction.dropWhile Text.isAsciiDigit =
      fraction := List.takeWhile_append_dropWhile
  rw [(endsInMark_iff unbrokenMark).mp marked] at whole
  exact ⟨_, takeWhile_ne_nil starts, List.all_eq_true.mp List.all_takeWhile, whole.symm⟩

/-- On one line, a sign is waited for exactly behind a mantissa in scientific form. -/
theorem awaitsExponent_iff {buffer : List Char} (unbroken : '\n' ∉ buffer) :
    Scan.awaitsExponent buffer = true ↔ IsScientific buffer := by
  constructor
  · intro awaits
    cases buffer with
    | nil => cases awaits
    | cons lead rest =>
        have unbrokenRest : '\n' ∉ rest := fun member => unbroken (List.mem_cons_of_mem _ member)
        simp only [Scan.awaitsExponent, Bool.and_eq_true, Bool.or_eq_true,
          decide_eq_true_eq] at awaits
        rcases awaits with ⟨significant, marked | marked⟩
        · rw [(endsInMark_iff unbrokenRest).mp marked]
          exact .whole significant
        · split at marked
          · next fraction =>
              have unbrokenFraction : '\n' ∉ fraction :=
                fun member => unbrokenRest (List.mem_cons_of_mem _ member)
              rcases exists_places marked unbrokenFraction with
                ⟨places, nonempty, inPlaces, rfl⟩
              exact .pointed significant nonempty inPlaces
          · cases marked
  · intro scientific
    cases scientific with
    | whole significant => simp [Scan.awaitsExponent, Scan.awaitsExponent.endsInMark, significant]
    | @pointed digit places significant nonempty inPlaces =>
        have starts := head_run nonempty inPlaces ['E']
        have ends : Text.isAsciiDigit 'E' = false := by decide
        have behind : (places ++ ['E']).dropWhile Text.isAsciiDigit = ['E'] :=
          dropWhile_run inPlaces ends
        generalize places ++ ['E'] = fraction at starts behind ⊢
        simp [Scan.awaitsExponent, Scan.awaitsExponent.endsInMark, significant, starts, behind]

/-! ## Signs of exponents -/

/-- A mantissa with the mark of an exponent behind it. -/
inductive Marked : List Char → Prop where
  | mark {mantissa : List Char} {mark : Char}
      (isMantissa : Mantissa mantissa)
      (isMark : mark = 'e' ∨ mark = 'E') :
      Marked (mantissa ++ [mark])

theorem Marked.isWord {text : List Char} (marked : Marked text) : IsWord text := by
  cases marked with
  | mark isMantissa isMark => exact (isWord_mantissa isMantissa).append (isWord_mark isMark)

theorem IsWord.unbroken {text : List Char} (isWord : IsWord text) : '\n' ∉ text :=
  fun member => (isWord.isLine _ member).2 rfl

/-- Without its exponent such a text is taken for a range. -/
theorem Marked.operandSubkind_eq {text : List Char} (marked : Marked text) :
    Classification.operandSubkind text = .range := by
  have noNumber : ¬ isNumber text = true := by
    intro found
    rcases exists_last_of_isNumber found marked.isWord.unbroken with ⟨char, last, ends⟩
    cases marked with
    | mark _ isMark =>
        rw [List.getLast?_concat] at last
        cases last
        rcases isMark with rfl | rfl
        · exact absurd ends (by decide)
        · exact absurd ends (by decide)
  have noLogical : ¬ (text = "TRUE".toList ∨ text = "FALSE".toList) := by
    cases marked with
    | mark isMantissa _ =>
        rcases isMantissa.exists_head with ⟨char, rest, rfl, starts⟩
        rintro (same | same)
        · obtain rfl : char = 'T' := Option.some.inj (congrArg List.head? same)
          exact absurd starts (by decide)
        · obtain rfl : char = 'F' := Option.some.inj (congrArg List.head? same)
          exact absurd starts (by decide)
  rw [Classification.operandSubkind, if_neg noNumber, if_neg noLogical]

/-- A number without a sign is a word, and every other one has a sign behind its mark. -/
theorem number_cases
    {text : List Char} (found : isNumber text) (unbroken : '\n' ∉ text) :
    IsWord text ∨
      ∃ before sign digits,
        text = before ++ sign :: digits ∧ (sign = '+' ∨ sign = '-') ∧ Marked before ∧
          IsDigits digits := by
  rcases (isNumber_iff unbroken).mp found with ⟨mantissa, exponent, isMantissa, isExponent, rfl⟩
  have isWord := isWord_mantissa isMantissa
  cases isExponent with
  | absent =>
      rw [List.append_nil]
      exact .inl isWord
  | unsigned isMark isDigits =>
      exact .inl (isWord.append ((isWord_mark isMark).append (isWord_digits isDigits)))
  | @signed mark sign digits isMark isSign isDigits =>
      refine .inr ⟨mantissa ++ [mark], sign, digits, ?_, isSign, .mark isMantissa isMark, isDigits⟩
      rw [List.append_assoc]
      rfl

theorem IsWord.notMem_sign
    {text : List Char} (isWord : IsWord text)
    {sign : Char} (isSign : sign = '+' ∨ sign = '-') :
    sign ∉ text := by
  rcases isSign with rfl | rfl
  · exact isWord.notMem_delimiter rfl
  · exact isWord.notMem_delimiter rfl

/-- Every sign of a text stands behind a mantissa in scientific form. -/
def KeepsSigns (text : List Char) : Prop :=
  ∀ before sign behind,
    text = before ++ sign :: behind → sign = '+' ∨ sign = '-' → IsScientific before

/-- A sign between two words is the only one in the text. -/
theorem eq_of_sign
    {before other digits behind : List Char} {sign mark : Char}
    (isWord : IsWord before)
    (later : IsWord digits)
    (isSign : mark = '+' ∨ mark = '-')
    (same : before ++ sign :: digits = other ++ mark :: behind) :
    before = other ∧ sign = mark ∧ digits = behind :=
  (List.append_cons_inj_of_notMem (isWord.notMem_sign isSign) (later.notMem_sign isSign)).mp same

/-! ## Numbers that stay whole -/

theorem isLine_signed
    {before behind : List Char} {sign : Char}
    (isWord : IsWord before)
    (isSign : sign = '+' ∨ sign = '-')
    (later : IsWord behind) :
    IsLine (before ++ sign :: behind) := by
  have signLine : IsLine [sign] := by
    rcases isSign with rfl | rfl
    · simp [IsLine]
    · simp [IsLine]
  exact isWord.isLine.append (signLine.append later.isLine)

/-- Words with something between them have no blanks at their ends. -/
theorem isTrimmed_words
    {before behind : List Char}
    (isWord : IsWord before)
    (later : IsWord behind)
    (between : List Char) :
    IsTrimmed (before ++ between ++ behind) := by
  constructor
  · rcases List.exists_cons_of_ne_nil isWord.nonempty with ⟨char, others, rfl⟩
    exact isWord.head_visible
  · rw [List.getLast?_append, List.getLast?_eq_some_getLast later.nonempty, Option.some_or,
      ← List.getLast?_eq_some_getLast later.nonempty]
    exact later.last_visible

theorem isTrimmed_signed
    {before behind : List Char} (isWord : IsWord before) (later : IsWord behind) (sign : Char) :
    IsTrimmed (before ++ sign :: behind) := by
  have trimmed := isTrimmed_words isWord later [sign]
  rwa [List.append_assoc] at trimmed

theorem operandOf_number {text : List Char} (found : isNumber text) :
    operandOf text = ⟨.operand, text, some .number⟩ := by
  rw [operandOf, Classification.operandSubkind, if_pos found]

/-- A number that is collected as it is stays as it is. -/
theorem tokens_format_collected
    (settings : Settings)
    {text : List Char}
    (found : isNumber text)
    (collected : Collected text text)
    (unquoted : text.head? ≠ some '\'')
    (isLine : IsLine text)
    (trimmed : IsTrimmed text) :
    (∀ isStrict, Formula.tokens isStrict ('=' :: text) = .ok [⟨.operand, text, some .number⟩]) ∧
      Formula.format settings ('=' :: text) = .ok ('=' :: text) := by
  have nonempty : text ≠ [] := by
    rintro rfl
    cases found
  have requotable : Requotable text := fun quoted => absurd quoted unquoted
  constructor
  · intro isStrict
    rw [collected.tokens_eq nonempty isLine trimmed isStrict, operandOf_number found]
  · rw [collected.format_eq nonempty isLine trimmed settings,
      collected.quoteSheetName_eq requotable]

/-- Behind a mantissa in scientific form the sign is collected. -/
theorem collected_scientific
    {before digits : List Char} {sign : Char}
    (isWord : IsWord before)
    (isSign : sign = '+' ∨ sign = '-')
    (scientific : IsScientific before)
    (isDigits : IsDigits digits) :
    Collected (before ++ sign :: digits) (before ++ sign :: digits) := by
  have awaits := (awaitsExponent_iff isWord.unbroken).mpr scientific
  have withSign := isWord.collected.character (.inr ⟨isSign, awaits⟩)
  have plain : ∀ char ∈ digits, Scan.isDelimiter char = false := by
    intro char member
    exact (plain_digit (isDigits.digits char member)).1
  have whole := withSign.append_plain plain
  rwa [List.append_assoc] at whole

/-! ## Numbers that fall apart -/

/-- A sign between two values. -/
def signOf (sign : Char) : Token :=
  ⟨.infixOp, [sign], some .math⟩

/-- A sign that no mantissa waits for completes the word before it. -/
theorem Yields.sign
    {nesting : Nesting} {word rest : List Char} {sign : Char} {tokens : List Token}
    (later : Yields nesting [] rest tokens)
    (isSign : sign = '+' ∨ sign = '-')
    (nonempty : word ≠ [])
    (complete : Scan.awaitsExponent word = false) :
    Yields nesting word (sign :: rest)
      (⟨.operand, word, none⟩ :: ⟨.infixOp, [sign], none⟩ :: tokens) := by
  apply later.step [⟨.operand, word, none⟩, ⟨.infixOp, [sign], none⟩]
  intro state ready
  have noSign : ¬ ((sign = '+' ∨ sign = '-') ∧ Scan.awaitsExponent state.buffer) := by
    rw [ready.buffer, complete]
    simp
  have separates : Scan.Separates state.nesting sign rest ⟨.infixOp, [sign], none⟩ 0 := by
    rcases isSign with rfl | rfl
    · exact .operator rfl rfl
    · exact .operator rfl rfl
  refine ⟨_, .separate ready.mode noSign separates, rfl, ?_, rfl, ready.mode, rfl, ready.nesting⟩
  simp [Scan.separate, Scan.State.flush, ready.buffer, nonempty]

/-- Two words with a sign between them are two operands and an operator. -/
theorem tokens_signed
    {before behind : List Char} {sign : Char}
    (isWord : IsWord before)
    (later : IsWord behind)
    (isSign : sign = '+' ∨ sign = '-')
    (complete : Scan.awaitsExponent before = false)
    (isStrict : Bool) :
    Formula.tokens isStrict ('=' :: (before ++ sign :: behind)) =
      .ok [operandOf before, signOf sign, operandOf behind] := by
  have noQuote : (sign :: behind).head? ≠ some '\'' := by
    rcases isSign with rfl | rfl
    · simp
    · simp
  have yields := ((later.collected.yields later.nonempty).sign isSign isWord.nonempty
    complete).collect isWord.collected noQuote
  rw [yields.tokens_eq (isLine_signed isWord isSign later) (isTrimmed_signed isWord later sign)]
  rcases isSign with rfl | rfl
  · rfl
  · rfl

theorem step_signOf
    (unit : List Char) (state : State)
    {sign : Char} {token : Token}
    (isSign : sign = '+' ∨ sign = '-')
    (stays : wantsBreak token = false) :
    (step unit state (signOf sign) (some token)).1 = [' ', sign] := by
  have visible : [sign].any Text.isBlank = false := by
    rcases isSign with rfl | rfl
    · decide
    · decide
  have isPlain : IsPlain (signOf sign) := isPlain_sign (by simp) (.inl rfl) visible
  rw [step_joining _ _ _ isPlain rfl rfl, Option.any_some, stays, if_neg Bool.false_ne_true]
  rfl

/-- Behind such a sign stands a space, when what follows wants no line of its own. -/
theorem lead_behind_sign
    (unit : List Char) (state : State)
    {sign : Char} {token : Token}
    (isSign : sign = '+' ∨ sign = '-')
    (stays : wantsBreak token = false) :
    lead unit (entering (step unit state (signOf sign) (some token)).2 token) = [' '] := by
  have ended : (step unit state (signOf sign) (some token)).1.getLast? = some sign := by
    rw [step_signOf unit state isSign stays]
    rfl
  have inLine : (step unit state (signOf sign) (some token)).2.atLineStart = false := by
    have unbroken : breaksBehind state (signOf sign) (some token) = false := by
      rw [breaksBehind, Option.any_some, stays, Bool.and_false]
    simp only [step] at ended ⊢
    rw [ended]
    show (breaksBehind state (signOf sign) (some token) || sign == '\n') = false
    rw [unbroken]
    rcases isSign with rfl | rfl
    · rfl
    · rfl
  have same : (entering (step unit state (signOf sign) (some token)).2 token).atLineStart =
      false := inLine
  have unattached : (entering (step unit state (signOf sign) (some token)).2 token).last.any
      attaches = false := rfl
  rw [lead, unattached, same, if_neg Bool.false_ne_true, if_neg Bool.false_ne_true]

/-- Two operands with a sign between them stand on one line, with spaces around the sign. -/
theorem render_signed
    (unit : List Char)
    {before behind : List Char} {sign : Char}
    (isSign : sign = '+' ∨ sign = '-')
    (stays : wantsBreak (operandOf behind) = false) :
    render unit [operandOf before, signOf sign, operandOf behind] =
      '=' :: Text.trim (quoteSheetName before ++ [' ', sign, ' '] ++ quoteSheetName behind) := by
  have nothing (state : State) : textBefore unit [] state [] = [] := rfl
  rw [render_eq, textBefore_cons, textBefore_cons, textBefore_cons, nothing, step_operandOf,
    lead_entering_initial, List.nil_append]
  simp only [List.append_nil, List.head?_cons, List.head?_nil]
  rw [step_signOf unit _ isSign stays, step_operandOf, lead_behind_sign unit _ isSign stays]
  simp

theorem isNumber_digits {digits : List Char} (isDigits : IsDigits digits) :
    isNumber digits = true := by
  rw [isNumber_iff (isWord_digits isDigits).unbroken]
  exact ⟨digits, [], .whole isDigits, .absent, (List.append_nil digits).symm⟩

/-- A number whose sign is no part of it falls apart into a range and a number. -/
theorem tokens_format_split
    (settings : Settings)
    {before digits : List Char} {sign : Char}
    (marked : Marked before)
    (isSign : sign = '+' ∨ sign = '-')
    (isDigits : IsDigits digits)
    (unscientific : ¬ IsScientific before) :
    (∀ isStrict,
      Formula.tokens isStrict ('=' :: (before ++ sign :: digits)) =
        .ok [⟨.operand, before, some .range⟩, ⟨.infixOp, [sign], some .math⟩,
          ⟨.operand, digits, some .number⟩]) ∧
      Formula.format settings ('=' :: (before ++ sign :: digits)) =
        .ok ('=' :: (before ++ [' ', sign, ' '] ++ digits)) := by
  have isWord := marked.isWord
  have later := isWord_digits isDigits
  have complete : Scan.awaitsExponent before = false := by
    rw [Bool.eq_false_iff]
    intro awaits
    exact unscientific ((awaitsExponent_iff isWord.unbroken).mp awaits)
  have range : operandOf before = ⟨.operand, before, some .range⟩ := by
    rw [operandOf, marked.operandSubkind_eq]
  have number := operandOf_number (isNumber_digits isDigits)
  have split := tokens_signed isWord later isSign complete
  constructor
  · intro isStrict
    rw [split isStrict, range, number, signOf]
  · have stays : wantsBreak (operandOf digits) = false := by
      rw [number]
      rfl
    have trimmed := isTrimmed_words isWord later [' ', sign, ' ']
    rw [format_of_tokens (List.cons_ne_nil _ _) (split settings.strict),
      render_signed _ isSign stays, quoteSheetName_word isWord, quoteSheetName_word later,
      Text.trim_eq_self trimmed.1 trimmed.2]

/--
A number is one operand, and formatting keeps it, when every sign in it stands
behind a mantissa in scientific form.  With another sign it is a range and a
number, and formatting sets the sign off by spaces.
-/
theorem tokens_format_number
    (settings : Settings)
    (text : List Char)
    (found : isNumber text)
    (unbroken : '\n' ∉ text) :
    (KeepsSigns text →
      (∀ isStrict,
        Formula.tokens isStrict ('=' :: text) = .ok [⟨.operand, text, some .number⟩]) ∧
        Formula.format settings ('=' :: text) = .ok ('=' :: text)) ∧
    ∀ before sign behind,
      text = before ++ sign :: behind → sign = '+' ∨ sign = '-' → ¬ IsScientific before →
        (∀ isStrict,
          Formula.tokens isStrict ('=' :: text) =
            .ok [⟨.operand, before, some .range⟩, ⟨.infixOp, [sign], some .math⟩,
              ⟨.operand, behind, some .number⟩]) ∧
          Formula.format settings ('=' :: text) =
            .ok ('=' :: (before ++ [' ', sign, ' '] ++ behind)) := by
  constructor
  · intro keeps
    rcases number_cases found unbroken with
      isWord | ⟨before, sign, digits, rfl, isSign, marked, isDigits⟩
    · have unquoted := isWord.head_unquoted []
      rw [List.append_nil] at unquoted
      exact tokens_format_collected settings found isWord.collected unquoted isWord.isLine
        isWord.isTrimmed
    · have isWord := marked.isWord
      have later := isWord_digits isDigits
      have scientific := keeps before sign digits rfl isSign
      exact tokens_format_collected settings found
        (collected_scientific isWord isSign scientific isDigits) (isWord.head_unquoted _)
        (isLine_signed isWord isSign later) (isTrimmed_signed isWord later sign)
  · intro before sign behind whole isSign unscientific
    rcases number_cases found unbroken with
      isWord | ⟨other, mark, digits, rfl, -, marked, isDigits⟩
    · have member : sign ∈ text := by simp [whole]
      exact absurd member (isWord.notMem_sign isSign)
    · obtain ⟨rfl, rfl, rfl⟩ := eq_of_sign marked.isWord (isWord_digits isDigits) isSign whole
      exact tokens_format_split settings marked isSign isDigits unscientific

/-- A number in scientific form. -/
def scientificNumber : List Char := "1.5E-10".toList

/-- A number with two digits before the mark of its exponent. -/
def partedNumber : List Char := "12E+5".toList

theorem keepsSigns_scientificNumber : KeepsSigns scientificNumber := by
  have scientific : IsScientific "1.5E".toList := (awaitsExponent_iff (by decide)).mp (by decide)
  have isWord : IsWord "1.5E".toList := by decide
  have later : IsWord "10".toList := by decide
  intro before sign behind whole isSign
  have same : "1.5E".toList ++ '-' :: "10".toList = before ++ sign :: behind := whole
  rw [← (eq_of_sign isWord later isSign same).1]
  exact scientific

theorem tokens_format_number_samples :
    (isNumber scientificNumber = true ∧ '\n' ∉ scientificNumber ∧ KeepsSigns scientificNumber ∧
      Formula.tokens true ('=' :: scientificNumber) =
        .ok [⟨.operand, scientificNumber, some .number⟩] ∧
      Formula.format {} ('=' :: scientificNumber) = .ok ('=' :: scientificNumber)) ∧
    isNumber partedNumber = true ∧ '\n' ∉ partedNumber ∧ ¬ IsScientific "12E".toList ∧
      Formula.tokens true ('=' :: partedNumber) =
        .ok [⟨.operand, "12E".toList, some .range⟩, ⟨.infixOp, ['+'], some .math⟩,
          ⟨.operand, ['5'], some .number⟩] ∧
      Formula.format {} ('=' :: partedNumber) = .ok "=12E + 5".toList := by
  have whole : isNumber scientificNumber = true := by decide
  have wholeLine : '\n' ∉ scientificNumber := by decide
  have parted : isNumber partedNumber = true := by decide
  have partedLine : '\n' ∉ partedNumber := by decide
  have unscientific : ¬ IsScientific "12E".toList := by
    rw [← awaitsExponent_iff (by decide)]
    decide
  have kept := (tokens_format_number {} _ whole wholeLine).1 keepsSigns_scientificNumber
  have split := (tokens_format_number {} _ parted partedLine).2 "12E".toList '+' ['5'] rfl
    (.inl rfl) unscientific
  exact ⟨⟨whole, wholeLine, keepsSigns_scientificNumber, kept.1 true, kept.2⟩, parted, partedLine,
    unscientific, split.1 true, split.2⟩

/-- A number whose mantissa has two digits before the sign is not one operand. -/
theorem not_tokens_format_number :
    ¬ ∀ (settings : Settings) (text : List Char),
      isNumber text = true → '\n' ∉ text →
        Formula.tokens settings.strict ('=' :: text) = .ok [⟨.operand, text, some .number⟩] ∧
          Formula.format settings ('=' :: text) = .ok ('=' :: text) := by
  intro agrees
  have kept := (agrees {} partedNumber (by decide) (by decide)).2
  have written : Formula.format {} ('=' :: partedNumber) = .ok "=12E + 5".toList :=
    eq_ok_of_toOption (by decide +kernel)
  have same := Except.ok.inj (written.symm.trans kept)
  exact absurd same (by decide)

end SheetFormula.RoundTrip
