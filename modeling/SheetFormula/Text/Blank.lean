import SheetFormula.Text.Ranges

/-!
# Blank characters and trimming

A blank is a character that separates words: the white space of Unicode and
the four ASCII information separators.  Trimming removes blanks from the ends
of a text and nothing else.
-/

namespace SheetFormula.Text

/-- White space after the Unicode property of that name. -/
def isWhiteSpace (char : Char) : Bool :=
  let code := char.toNat
  (0x09 ≤ code && code ≤ 0x0D) || code == 0x20 || code == 0x85 || code == 0xA0 ||
    code == 0x1680 || (0x2000 ≤ code && code ≤ 0x200A) || code == 0x2028 ||
    code == 0x2029 || code == 0x202F || code == 0x205F || code == 0x3000

/-- White space and the information separators U+001C to U+001F. -/
def isBlank (char : Char) : Bool :=
  isWhiteSpace char || (0x1C ≤ char.toNat && char.toNat ≤ 0x1F)

/-- The blanks as ranges of code points. -/
def blankRanges : List (Nat × Nat) := [
  (0x09, 0x0D), (0x1C, 0x20), (0x85, 0x85), (0xA0, 0xA0), (0x1680, 0x1680), (0x2000, 0x200A),
  (0x2028, 0x2029), (0x202F, 0x202F), (0x205F, 0x205F), (0x3000, 0x3000)]

theorem inRanges_of_isBlank {char : Char} (blank : isBlank char) :
    inRanges blankRanges char.toNat := by
  simp only [isBlank, isWhiteSpace, Bool.or_eq_true, Bool.and_eq_true, decide_eq_true_eq,
    beq_iff_eq] at blank
  simp only [inRanges, blankRanges, List.any_cons, List.any_nil, Bool.or_eq_true,
    Bool.and_eq_true, decide_eq_true_eq]
  omega

/-- Remove characters of a class from the end of a text. -/
def dropEndWhile (inClass : Char → Bool) (text : List Char) : List Char :=
  (text.reverse.dropWhile inClass).reverse

/-- Remove leading blanks. -/
def trimStart (text : List Char) : List Char :=
  text.dropWhile isBlank

/-- Remove trailing blanks. -/
def trimEnd (text : List Char) : List Char :=
  dropEndWhile isBlank text

/-- Remove the blanks at both ends. -/
def trim (text : List Char) : List Char :=
  trimEnd (trimStart text)

@[simp]
theorem trim_nil : trim [] = [] := rfl

/-! ## Blanks around a text -/

theorem trimStart_append_of_blank
    {blanks : List Char} (blank : ∀ char ∈ blanks, isBlank char) (text : List Char) :
    trimStart (blanks ++ text) = trimStart text :=
  List.dropWhile_append_of_pos blank

theorem trimEnd_append_of_blank
    {blanks : List Char} (blank : ∀ char ∈ blanks, isBlank char) (text : List Char) :
    trimEnd (text ++ blanks) = trimEnd text := by
  have reversed : ∀ char ∈ blanks.reverse, isBlank char := by simpa using blank
  rw [trimEnd, dropEndWhile, List.reverse_append, List.dropWhile_append_of_pos reversed]
  rfl

/-- Behind blanks, a text that begins visibly is left. -/
theorem trimStart_append_of_visible
    {blanks : List Char} (blank : ∀ char ∈ blanks, isBlank char)
    {char : Char} (visible : isBlank char = false) (rest : List Char) :
    trimStart (blanks ++ char :: rest) = char :: rest := by
  rw [trimStart_append_of_blank blank]
  simp [trimStart, visible]

/-- Blanks on both sides make no difference. -/
theorem trim_append_of_blank
    {before behind : List Char}
    (blankBefore : ∀ char ∈ before, isBlank char)
    (blankBehind : ∀ char ∈ behind, isBlank char)
    (text : List Char) :
    trim (before ++ text ++ behind) = trim text := by
  rw [trim, List.append_assoc, trimStart_append_of_blank blankBefore, trimStart,
    List.dropWhile_append]
  split
  · next empty =>
      have none : trimStart text = [] := List.isEmpty_iff.mp empty
      have gone : trimStart (behind ++ []) = [] := trimStart_append_of_blank blankBehind []
      rw [List.append_nil, trimStart] at gone
      rw [gone, trim, none]
  · rw [trimEnd_append_of_blank blankBehind]
    rfl

/-- A text is what is left of it with characters of the class behind. -/
theorem eq_append_dropEndWhile (inClass : Char → Bool) (text : List Char) :
    ∃ behind, (∀ char ∈ behind, inClass char) ∧ text = dropEndWhile inClass text ++ behind := by
  refine ⟨(text.reverse.takeWhile inClass).reverse, ?_, ?_⟩
  · intro char member
    exact List.all_eq_true.mp List.all_takeWhile char (List.mem_reverse.mp member)
  · rw [dropEndWhile, ← List.reverse_append, List.takeWhile_append_dropWhile,
      List.reverse_reverse]

theorem eq_append_trimEnd (text : List Char) :
    ∃ behind, (∀ char ∈ behind, isBlank char) ∧ text = trimEnd text ++ behind :=
  eq_append_dropEndWhile isBlank text

theorem eq_append_trimStart (text : List Char) :
    ∃ before, (∀ char ∈ before, isBlank char) ∧ text = before ++ trimStart text := by
  refine ⟨text.takeWhile isBlank, ?_, List.takeWhile_append_dropWhile.symm⟩
  exact fun char member => List.all_eq_true.mp List.all_takeWhile char member

/-- A text is its trimmed form with blanks on both sides. -/
theorem eq_append_trim (text : List Char) :
    ∃ before behind,
      (∀ char ∈ before, isBlank char) ∧ (∀ char ∈ behind, isBlank char) ∧
        text = before ++ trim text ++ behind := by
  obtain ⟨before, blankBefore, start⟩ := eq_append_trimStart text
  obtain ⟨behind, blankBehind, split⟩ := eq_append_trimEnd (trimStart text)
  refine ⟨before, behind, blankBefore, blankBehind, ?_⟩
  rw [trim, List.append_assoc, ← split, ← start]

theorem trim_trimEnd (text : List Char) : trim (trimEnd text) = trim text := by
  obtain ⟨behind, blankBehind, split⟩ := eq_append_trimEnd text
  have same := trim_append_of_blank (by simp : ∀ char ∈ [], isBlank char) blankBehind
    (trimEnd text)
  rw [List.nil_append, ← split] at same
  exact same.symm

/-- Behind a first character that is no blank, only the end is trimmed. -/
theorem trim_cons_of_visible
    {char : Char} (visible : isBlank char = false) (text : List Char) :
    trim (char :: text) = char :: trimEnd text := by
  have start : trimStart (char :: text) = char :: text := by simp [trimStart, visible]
  have stops : [char].dropWhile isBlank = [char] := by simp [visible]
  rw [trim, start, trimEnd, dropEndWhile, List.reverse_cons, List.dropWhile_append]
  split
  · next empty =>
      have none : trimEnd text = [] := by
        rw [trimEnd, dropEndWhile, List.isEmpty_iff.mp empty, List.reverse_nil]
      rw [stops, none]
      rfl
  · rw [List.reverse_append]
    rfl

/-- Behind any character that is no blank, only the end is trimmed. -/
theorem trimEnd_append_of_visible
    {char : Char} (visible : isBlank char = false) (first second : List Char) :
    trimEnd (first ++ char :: second) = first ++ char :: trimEnd second := by
  have stops : (char :: first.reverse).dropWhile isBlank = char :: first.reverse := by
    simp [visible]
  have reversed : (first ++ char :: second).reverse = second.reverse ++ char :: first.reverse := by
    simp
  rw [trimEnd, dropEndWhile, reversed, List.dropWhile_append]
  split
  · next empty =>
      have none : trimEnd second = [] := by
        rw [trimEnd, dropEndWhile, List.isEmpty_iff.mp empty, List.reverse_nil]
      rw [stops, none]
      simp
  · simp [trimEnd, dropEndWhile]

/-- Behind a text with a visible character, nothing is trimmed at the start. -/
theorem trimStart_append_of_mem
    {first : List Char} {char : Char}
    (member : char ∈ first)
    (visible : isBlank char = false)
    (second : List Char) :
    trimStart (first ++ second) = trimStart first ++ second := by
  rcases List.append_of_mem member with ⟨before, behind, rfl⟩
  have stops (rest : List Char) :
      trimStart (before ++ char :: rest) = before.dropWhile isBlank ++ char :: rest := by
    rw [trimStart, List.dropWhile_append]
    split
    · next empty => simp [List.isEmpty_iff.mp empty, visible]
    · rfl
  rw [List.append_assoc, List.cons_append, stops, stops, List.append_assoc, List.cons_append]

/-- Before a text with a visible character, nothing is trimmed at the end. -/
theorem trimEnd_append_of_mem
    {second : List Char} {char : Char}
    (member : char ∈ second)
    (visible : isBlank char = false)
    (first : List Char) :
    trimEnd (first ++ second) = first ++ trimEnd second := by
  rcases List.append_of_mem member with ⟨before, behind, rfl⟩
  rw [← List.append_assoc, trimEnd_append_of_visible visible, trimEnd_append_of_visible visible,
    List.append_assoc]

/-- Between two visible characters nothing is trimmed. -/
theorem trim_append_of_mem
    {first : List Char} {char last : Char}
    (member : char ∈ first)
    (visible : isBlank char = false)
    (visibleLast : isBlank last = false)
    (middle second : List Char) :
    trim (first ++ (middle ++ [last] ++ second)) =
      trimStart first ++ middle ++ [last] ++ trimEnd second := by
  have shape : trimStart first ++ (middle ++ [last] ++ second) =
      (trimStart first ++ middle) ++ last :: second := by
    simp
  rw [trim, trimStart_append_of_mem member visible, shape, trimEnd_append_of_visible visibleLast]
  simp

theorem trimEnd_eq_self
    {text : List Char}
    (ends : text.getLast?.any isBlank = false) :
    trimEnd text = text := by
  have visible : text.reverse.dropWhile isBlank = text.reverse := by
    rw [← List.head?_reverse] at ends
    cases letters : text.reverse with
    | nil => rfl
    | cons last others =>
        rw [letters, List.head?_cons, Option.any_some] at ends
        simp [ends]
  rw [trimEnd, dropEndWhile, visible, List.reverse_reverse]

/-- A text that ends visibly is trimmed at its start only. -/
theorem trim_concat_of_visible
    {last : Char} (visible : isBlank last = false) (text : List Char) :
    trim (text ++ [last]) = trimStart (text ++ [last]) := by
  have ends : (trimStart (text ++ [last])).getLast? = some last := by
    rw [trimStart, List.dropWhile_append]
    split
    · simp [visible]
    · exact List.getLast?_concat
  rw [trim, trimEnd_eq_self]
  rw [ends, Option.any_some, visible]

/-- Up to a blank inside of a text, trimming at the start takes off the same blanks. -/
theorem exists_of_trimStart_eq
    {text first second : List Char} {char : Char}
    (blank : isBlank char)
    (split : trimStart text = first ++ char :: second) :
    ∃ blanks,
      text = blanks ++ first ++ char :: second ∧
        trimStart (blanks ++ first ++ [char]) = first ++ [char] := by
  have whole : text.takeWhile isBlank ++ trimStart text = text := List.takeWhile_append_dropWhile
  have areBlank : ∀ other ∈ text.takeWhile isBlank, isBlank other :=
    fun other member => List.all_eq_true.mp List.all_takeWhile other member
  have starts := List.head?_dropWhile_not isBlank text
  rw [trimStart] at split
  rw [trimStart, split, ← List.append_assoc] at whole
  refine ⟨_, whole.symm, ?_⟩
  rw [List.append_assoc, trimStart_append_of_blank areBlank]
  cases first with
  | nil => simp [split, blank] at starts
  | cons visible rest =>
      have isVisible : isBlank visible = false := by simpa [split] using starts
      simp [trimStart, isVisible]

theorem mem_of_mem_trim {text : List Char} {char : Char} (member : char ∈ trim text) :
    char ∈ text := by
  rcases eq_append_trim text with ⟨before, behind, -, -, split⟩
  rw [split]
  simp [member]

/-- A trimmed text does not end in a blank. -/
theorem getLast?_trim (text : List Char) : (trim text).getLast?.any isBlank = false := by
  rw [trim, trimEnd, dropEndWhile, List.getLast?_reverse]
  cases dropped : (trimStart text).reverse.dropWhile isBlank with
  | nil => rfl
  | cons char rest =>
      have visible := List.head?_dropWhile_not isBlank (trimStart text).reverse
      simpa [dropped] using visible

/-- A text without blanks at its ends is trimmed. -/
theorem trim_eq_self
    {text : List Char}
    (starts : text.head?.any isBlank = false)
    (ends : text.getLast?.any isBlank = false) :
    trim text = text := by
  cases text with
  | nil => rfl
  | cons char rest =>
      have visible : isBlank char = false := by simpa using starts
      rw [trim_cons_of_visible visible]
      have reversed : rest.reverse.dropWhile isBlank = rest.reverse := by
        cases letters : rest.reverse with
        | nil => rfl
        | cons last others =>
            have noBlank : isBlank last = false := by
              have final : rest.getLast? = some last := by
                rw [← List.head?_reverse, letters, List.head?_cons]
              simpa [List.getLast?_cons, final] using ends
            simp [noBlank]
      rw [trimEnd, dropEndWhile, reversed, List.reverse_reverse]

@[simp]
theorem trim_trim (text : List Char) : trim (trim text) = trim text := by
  apply trim_eq_self
  · cases start : trimStart text with
    | nil => simp [trim, start, trimEnd, dropEndWhile]
    | cons char rest =>
        have visible : isBlank char = false := by
          have first := List.head?_dropWhile_not isBlank text
          rw [trimStart] at start
          simpa [start] using first
        have trimmed : trim text = trim (char :: rest) := by
          rw [trim, start, trim, trimStart]
          simp [visible]
        rw [trimmed, trim_cons_of_visible visible]
        simp [visible]
  · exact getLast?_trim text

end SheetFormula.Text
