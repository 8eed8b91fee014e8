import SheetFormula.Number

/-!
# The grammar of numbers

A number is a mantissa with an exponent or without one.  A mantissa has digits,
with a point before, between or behind them; an exponent has the mark `e` or `E`,
possibly a sign, and digits.  The digits can be those of any script.

Main statement: on one line, the texts that are taken for numbers are exactly
those of this grammar.  So a number begins and ends with a digit or a point.
-/

namespace SheetFormula.Number

/-! ## Runs of a class of characters -/

section Runs

variable {inClass : Char → Bool}

theorem takeWhile_ne_nil {text : List Char} (starts : text.head?.any inClass) :
    text.takeWhile inClass ≠ [] := by
  cases text with
  | nil => cases starts
  | cons char rest =>
      have member : inClass char = true := starts
      rw [List.takeWhile_cons_of_pos member]
      exact List.cons_ne_nil _ _

/-- A run is read up to the first character outside of the class. -/
theorem dropWhile_run
    {run rest : List Char}
    (all : ∀ char ∈ run, inClass char)
    (ends : rest.head?.any inClass = false) :
    (run ++ rest).dropWhile inClass = rest := by
  rw [List.dropWhile_append_of_pos all]
  cases rest with
  | nil => rfl
  | cons char others => exact List.dropWhile_cons_of_neg (by simpa using ends)

theorem head_run
    {run : List Char}
    (nonempty : run ≠ [])
    (all : ∀ char ∈ run, inClass char)
    (rest : List Char) :
    (run ++ rest).head?.any inClass = true := by
  cases run with
  | nil => exact absurd rfl nonempty
  | cons char others => exact all char (List.mem_cons_self ..)

end Runs

/-! ## The grammar of numbers -/

/-- Digits of any script, and at least one. -/
structure IsDigits (text : List Char) : Prop where
  nonempty : text ≠ []
  digits : ∀ char ∈ text, Text.isDigit char

/-- The part of a number before its exponent. -/
inductive Mantissa : List Char → Prop where
  | whole {digits : List Char}
      (isDigits : IsDigits digits) :
      Mantissa digits
  | pointed {digits places : List Char}
      (isDigits : IsDigits digits)
      (inPlaces : ∀ char ∈ places, Text.isDigit char) :
      Mantissa (digits ++ '.' :: places)
  | fraction {places : List Char}
      (isDigits : IsDigits places) :
      Mantissa ('.' :: places)

/-- The exponent of a number, if it has one. -/
inductive Exponent : List Char → Prop where
  | absent : Exponent []
  | unsigned {mark : Char} {digits : List Char}
      (isMark : mark = 'e' ∨ mark = 'E')
      (isDigits : IsDigits digits) :
      Exponent (mark :: digits)
  | signed {mark sign : Char} {digits : List Char}
      (isMark : mark = 'e' ∨ mark = 'E')
      (isSign : sign = '+' ∨ sign = '-')
      (isDigits : IsDigits digits) :
      Exponent (mark :: sign :: digits)

theorem isDigits_takeWhile {text : List Char} (starts : text.head?.any Text.isDigit) :
    IsDigits (text.takeWhile Text.isDigit) where
  nonempty := takeWhile_ne_nil starts
  digits := List.all_eq_true.mp List.all_takeWhile

theorem IsDigits.starts {text : List Char} (isDigits : IsDigits text) (rest : List Char) :
    (text ++ rest).head?.any Text.isDigit = true :=
  head_run isDigits.nonempty isDigits.digits rest

/-! ### Mantissas -/

theorem exists_mantissa {text rest : List Char} (found : afterMantissa? text = some rest) :
    ∃ mantissa, Mantissa mantissa ∧ text = mantissa ++ rest := by
  unfold afterMantissa? at found
  split at found
  · next fraction =>
      split at found
      · next starts =>
          cases found
          refine ⟨'.' :: fraction.takeWhile Text.isDigit, .fraction (isDigits_takeWhile starts), ?_⟩
          rw [List.cons_append, List.takeWhile_append_dropWhile]
      · cases found
  · split at found
    · next starts =>
        have whole : text.takeWhile Text.isDigit ++ text.dropWhile Text.isDigit = text :=
          List.takeWhile_append_dropWhile
        split at found
        · next fraction behind =>
            cases found
            refine ⟨text.takeWhile Text.isDigit ++ '.' :: fraction.takeWhile Text.isDigit,
              .pointed (isDigits_takeWhile starts) (List.all_eq_true.mp List.all_takeWhile), ?_⟩
            rw [List.append_assoc, List.cons_append, List.takeWhile_append_dropWhile, ← behind,
              whole]
        · cases found
          exact ⟨_, .whole (isDigits_takeWhile starts), whole.symm⟩
    · cases found

/-- Behind digits a point belongs to the mantissa. -/
theorem afterMantissa?_of_point
    {text fraction : List Char}
    (starts : text.head?.any Text.isDigit)
    (behind : text.dropWhile Text.isDigit = '.' :: fraction) :
    afterMantissa? text = some (fraction.dropWhile Text.isDigit) := by
  have point : Text.isDigit '.' = false := by decide
  unfold afterMantissa?
  split
  · exact absurd (point.symm.trans starts) Bool.false_ne_true
  · rw [if_pos starts, behind]
    rfl

/-- Without a point a mantissa is made of its first digits. -/
theorem afterMantissa?_of_noPoint
    {text : List Char}
    (starts : text.head?.any Text.isDigit)
    (noPoint : (text.dropWhile Text.isDigit).head? ≠ some '.') :
    afterMantissa? text = some (text.dropWhile Text.isDigit) := by
  have point : Text.isDigit '.' = false := by decide
  unfold afterMantissa?
  split
  · exact absurd (point.symm.trans starts) Bool.false_ne_true
  · rw [if_pos starts]
    split
    · next behind =>
        rw [behind] at noPoint
        exact absurd rfl noPoint
    · rfl

/-- A mantissa ends before a character that is neither a digit nor a point. -/
theorem Mantissa.after_eq
    {mantissa rest : List Char}
    (isMantissa : Mantissa mantissa)
    (ends : rest.head?.any Text.isDigit = false)
    (noPoint : rest.head? ≠ some '.') :
    afterMantissa? (mantissa ++ rest) = some rest := by
  cases isMantissa with
  | whole isDigits =>
      have behind := dropWhile_run isDigits.digits ends
      rw [afterMantissa?_of_noPoint (isDigits.starts rest) (by rwa [behind]), behind]
  | @pointed digits places isDigits inPlaces =>
      have point : Text.isDigit '.' = false := by decide
      have behind : (digits ++ '.' :: (places ++ rest)).dropWhile Text.isDigit =
          '.' :: (places ++ rest) := dropWhile_run isDigits.digits point
      rw [List.append_assoc, List.cons_append,
        afterMantissa?_of_point (isDigits.starts _) behind, dropWhile_run inPlaces ends]
  | @fraction places isDigits =>
      have starts := isDigits.starts rest
      rw [List.cons_append, afterMantissa?, if_pos starts, dropWhile_run isDigits.digits ends]

/-! ### Exponents -/

theorem eq_nil_of_atEnd {text : List Char} (ends : atEnd text) (unbroken : '\n' ∉ text) :
    text = [] := by
  unfold atEnd at ends
  split at ends
  · rfl
  · exact absurd (List.mem_singleton_self _) unbroken
  · cases ends

/-- What stands behind the mark of an exponent. -/
theorem exists_sign (text : List Char) :
    text = afterSign text ∨ ∃ sign, (sign = '+' ∨ sign = '-') ∧ text = sign :: afterSign text := by
  unfold afterSign
  split
  · exact .inr ⟨'+', .inl rfl, rfl⟩
  · exact .inr ⟨'-', .inr rfl, rfl⟩
  · exact .inl rfl

/-- Digits up to the end of a text. -/
theorem isDigits_of_atEnd
    {text : List Char}
    (found : (text.head?.any Text.isDigit && atEnd (text.dropWhile Text.isDigit)) = true)
    (unbroken : '\n' ∉ text) :
    IsDigits text := by
  rw [Bool.and_eq_true] at found
  rcases found with ⟨starts, ends⟩
  have nothing : text.dropWhile Text.isDigit = [] :=
    eq_nil_of_atEnd ends fun member => unbroken ((List.dropWhile_suffix _).subset member)
  have whole : text.takeWhile Text.isDigit ++ text.dropWhile Text.isDigit = text :=
    List.takeWhile_append_dropWhile
  rw [nothing, List.append_nil] at whole
  rw [← whole]
  exact isDigits_takeWhile starts

/-- A mark with digits behind it, and possibly a sign between them, is an exponent. -/
theorem exponent_of_mark
    {mark : Char} {rest : List Char}
    (isMark : mark = 'e' ∨ mark = 'E')
    (found : ((afterSign rest).head?.any Text.isDigit &&
      atEnd ((afterSign rest).dropWhile Text.isDigit)) = true)
    (unbroken : '\n' ∉ mark :: rest) :
    Exponent (mark :: rest) := by
  have unbrokenRest : '\n' ∉ rest := fun member => unbroken (List.mem_cons_of_mem _ member)
  rcases exists_sign rest with same | ⟨sign, isSign, same⟩
  · rw [← same] at found
    exact .unsigned isMark (isDigits_of_atEnd found unbrokenRest)
  · rw [same] at unbrokenRest ⊢
    have unbrokenDigits : '\n' ∉ afterSign rest :=
      fun member => unbrokenRest (List.mem_cons_of_mem _ member)
    exact .signed isMark isSign (isDigits_of_atEnd found unbrokenDigits)

theorem exponent_of_exponentAtEnd
    {text : List Char} (found : exponentAtEnd text) (unbroken : '\n' ∉ text) :
    Exponent text := by
  unfold exponentAtEnd at found
  split at found
  · exact exponent_of_mark (.inl rfl) found unbroken
  · exact exponent_of_mark (.inr rfl) found unbroken
  · rw [eq_nil_of_atEnd found unbroken]
    exact .absent

theorem IsDigits.ends
    {digits : List Char} (isDigits : IsDigits digits) :
    (digits.head?.any Text.isDigit && atEnd (digits.dropWhile Text.isDigit)) = true := by
  have starts := isDigits.starts []
  have behind := dropWhile_run isDigits.digits (rfl : ([] : List Char).head?.any _ = false)
  rw [List.append_nil] at starts behind
  rw [starts, behind]
  rfl

theorem afterSign_digits
    {digits : List Char} (isDigits : IsDigits digits) : afterSign digits = digits := by
  have starts := isDigits.starts []
  rw [List.append_nil] at starts
  have plus : Text.isDigit '+' = false := by decide
  have minus : Text.isDigit '-' = false := by decide
  unfold afterSign
  split
  · exact absurd (plus.symm.trans starts) Bool.false_ne_true
  · exact absurd (minus.symm.trans starts) Bool.false_ne_true
  · rfl

theorem Exponent.atEnd_eq {text : List Char} (exponent : Exponent text) :
    exponentAtEnd text = true := by
  cases exponent with
  | absent => rfl
  | unsigned isMark isDigits =>
      have ends := isDigits.ends
      rw [← afterSign_digits isDigits] at ends
      rcases isMark with rfl | rfl
      · exact ends
      · exact ends
  | signed isMark isSign isDigits =>
      rcases isMark with rfl | rfl
      · rcases isSign with rfl | rfl
        · exact isDigits.ends
        · exact isDigits.ends
      · rcases isSign with rfl | rfl
        · exact isDigits.ends
        · exact isDigits.ends

/-- An exponent begins with its mark. -/
theorem Exponent.head_cases
    {text : List Char} (exponent : Exponent text) {char : Char}
    (first : text.head? = some char) :
    char = 'e' ∨ char = 'E' := by
  cases exponent with
  | absent => cases first
  | unsigned isMark _ =>
      cases first
      exact isMark
  | signed isMark _ _ =>
      cases first
      exact isMark

/-- On one line, the numbers are the mantissas with an exponent or without one. -/
theorem isNumber_iff {text : List Char} (unbroken : '\n' ∉ text) :
    isNumber text = true ↔
      ∃ mantissa exponent,
        Mantissa mantissa ∧ Exponent exponent ∧ text = mantissa ++ exponent := by
  constructor
  · intro found
    cases after : afterMantissa? text with
    | none =>
        rw [isNumber, after] at found
        cases found
    | some rest =>
        rw [isNumber, after] at found
        rcases exists_mantissa after with ⟨mantissa, isMantissa, whole⟩
        have unbrokenRest : '\n' ∉ rest := by
          intro member
          rw [whole] at unbroken
          exact unbroken (List.mem_append_right mantissa member)
        exact ⟨mantissa, rest, isMantissa, exponent_of_exponentAtEnd found unbrokenRest, whole⟩
  · rintro ⟨mantissa, exponent, isMantissa, isExponent, rfl⟩
    have noDigit : exponent.head?.any Text.isDigit = false := by
      cases first : exponent.head? with
      | none => rfl
      | some char =>
          rcases isExponent.head_cases first with rfl | rfl
          · decide
          · decide
    have noPoint : exponent.head? ≠ some '.' := by
      intro first
      rcases isExponent.head_cases first with same | same
      · cases same
      · cases same
    rw [isNumber, isMantissa.after_eq noDigit noPoint]
    exact isExponent.atEnd_eq

/-! ### Ends of numbers -/

/-- A mantissa begins with a digit or a point. -/
theorem Mantissa.exists_head {mantissa : List Char} (isMantissa : Mantissa mantissa) :
    ∃ char rest, mantissa = char :: rest ∧ (Text.isDigit char ∨ char = '.') := by
  cases isMantissa with
  | whole isDigits =>
      rcases List.exists_cons_of_ne_nil isDigits.nonempty with ⟨char, rest, rfl⟩
      exact ⟨char, rest, rfl, .inl (isDigits.digits char (List.mem_cons_self ..))⟩
  | pointed isDigits _ =>
      rcases List.exists_cons_of_ne_nil isDigits.nonempty with ⟨char, rest, rfl⟩
      exact ⟨char, _, rfl, .inl (isDigits.digits char (List.mem_cons_self ..))⟩
  | fraction => exact ⟨'.', _, rfl, .inr rfl⟩

/-- The last of some digits, behind any text. -/
theorem IsDigits.getLast?_append {digits : List Char} (isDigits : IsDigits digits)
    (before : List Char) :
    ∃ char, (before ++ digits).getLast? = some char ∧ Text.isDigit char := by
  refine ⟨digits.getLast isDigits.nonempty, ?_, isDigits.digits _ (List.getLast_mem _)⟩
  rw [List.getLast?_append, List.getLast?_eq_some_getLast isDigits.nonempty, Option.some_or]

/-- A mantissa ends in a digit or a point. -/
theorem Mantissa.exists_last {mantissa : List Char} (isMantissa : Mantissa mantissa) :
    ∃ char, mantissa.getLast? = some char ∧ (Text.isDigit char ∨ char = '.') := by
  cases isMantissa with
  | whole isDigits =>
      rcases isDigits.getLast?_append [] with ⟨char, last, isDigit⟩
      exact ⟨char, last, .inl isDigit⟩
  | @pointed digits places _ inPlaces =>
      by_cases none : places = []
      · rw [none]
        exact ⟨'.', List.getLast?_concat .., .inr rfl⟩
      · have isDigits : IsDigits places := ⟨none, inPlaces⟩
        rcases isDigits.getLast?_append (digits ++ ['.']) with ⟨char, last, isDigit⟩
        rw [List.append_assoc] at last
        exact ⟨char, last, .inl isDigit⟩
  | fraction isDigits =>
      rcases isDigits.getLast?_append ['.'] with ⟨char, last, isDigit⟩
      exact ⟨char, last, .inl isDigit⟩

/-- So does a number. -/
theorem exists_last_of_isNumber
    {text : List Char} (found : isNumber text) (unbroken : '\n' ∉ text) :
    ∃ char, text.getLast? = some char ∧ (Text.isDigit char ∨ char = '.') := by
  rcases (isNumber_iff unbroken).mp found with ⟨mantissa, exponent, isMantissa, isExponent, rfl⟩
  cases isExponent with
  | absent =>
      rw [List.append_nil]
      exact isMantissa.exists_last
  | @unsigned mark digits _ isDigits =>
      rcases isDigits.getLast?_append (mantissa ++ [mark]) with ⟨char, last, isDigit⟩
      rw [List.append_assoc] at last
      exact ⟨char, last, .inl isDigit⟩
  | @signed mark sign digits _ _ isDigits =>
      rcases isDigits.getLast?_append (mantissa ++ [mark, sign]) with ⟨char, last, isDigit⟩
      rw [List.append_assoc] at last
      exact ⟨char, last, .inl isDigit⟩

end SheetFormula.Number
