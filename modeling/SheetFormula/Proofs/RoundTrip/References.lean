import SheetFormula.Layout
import SheetFormula.Proofs.Balance.Grammar
import SheetFormula.Proofs.RoundTrip.Grammar

/-!
# References and names of functions

The scanner collects more than words: a reference can begin with a quoted sheet
name, in which quotes are doubled, and can hold parts in brackets, and a number
can have the sign of its exponent.  `Collected` relates the text of a reference
to the buffer that is collected from it.

The layout writes a reference with the quotes in its sheet name doubled again.
This is the text it was collected from, unless the sheet name has both quotes
and brackets (`Collected.quoteSheetName_eq`).  Names of functions are written as
they are.  A reference or a name can also have blanks at its ends that are no
spaces.
-/

namespace SheetFormula.RoundTrip

/-! ## Collected texts -/

/-- Texts that the scanner collects, with the buffer that it collects from them. -/
inductive Collected : List Char → List Char → Prop where
  | nil : Collected [] []
  | quoted (name : List Char) :
      Collected ('\'' :: Text.doubled '\'' name ++ ['\'']) ('\'' :: name ++ ['\''])
  | character {slice buffer : List Char} {char : Char}
      (before : Collected slice buffer)
      (plain : Scan.isDelimiter char = false ∨
        ((char = '+' ∨ char = '-') ∧ Scan.awaitsExponent buffer)) :
      Collected (slice ++ [char]) (buffer ++ [char])
  | bracketed {slice buffer inner : List Char}
      (before : Collected slice buffer)
      (nested : Balance.Nested inner) :
      Collected (slice ++ ('[' :: inner ++ [']'])) (buffer ++ ('[' :: inner ++ [']']))

/-- Values whose quotes can be doubled again: none is in brackets, or only two are there. -/
def Requotable (value : List Char) : Prop :=
  value.head? = some '\'' → '\'' ∉ value.dropWhile (· ≠ '[') ∨ value.count '\'' ≤ 2

instance (value : List Char) : Decidable (Requotable value) :=
  inferInstanceAs (Decidable (_ → _))

namespace Collected

variable {slice buffer : List Char}

theorem head?_eq (collected : Collected slice buffer) : slice.head? = buffer.head? := by
  induction collected with
  | nil => rfl
  | quoted name => rfl
  | character _ _ ih => simp [List.head?_append, ih]
  | bracketed _ _ ih => simp [List.head?_append, ih]

theorem getLast?_eq (collected : Collected slice buffer) :
    slice.getLast? = buffer.getLast? := by
  cases collected with
  | nil => rfl
  | quoted name => rw [List.getLast?_concat, List.getLast?_concat]
  | character => rw [List.getLast?_concat, List.getLast?_concat]
  | bracketed =>
      rw [← List.append_assoc, ← List.append_assoc, List.getLast?_concat, List.getLast?_concat]

/-- A reference begins with a quote, a bracket or a character that is no delimiter. -/
theorem head_cases (collected : Collected slice buffer) {char : Char}
    (first : buffer.head? = some char) :
    char = '\'' ∨ char = '[' ∨ Scan.isDelimiter char = false := by
  induction collected with
  | nil => cases first
  | quoted name =>
      cases first
      exact .inl rfl
  | @character slice buffer last _ plain ih =>
      cases buffer with
      | nil =>
          cases first
          rcases plain with noDelimiter | ⟨-, awaits⟩
          · exact .inr (.inr noDelimiter)
          · cases awaits
      | cons head tail => exact ih first
  | @bracketed slice buffer inner _ _ ih =>
      cases buffer with
      | nil =>
          cases first
          exact .inr (.inl rfl)
      | cons head tail => exact ih first

theorem mem_of_mem (collected : Collected slice buffer) {char : Char} (member : char ∈ slice) :
    char ∈ buffer := by
  induction collected with
  | nil => exact member
  | quoted name =>
      simp only [List.cons_append, List.mem_cons, List.mem_append, List.not_mem_nil,
        or_false] at member ⊢
      rcases member with quote | inside | quote
      · exact .inl quote
      · rcases List.mem_flatMap.mp inside with ⟨original, found, written⟩
        have same : char = '\'' ∨ char = original := by
          split at written <;> simp_all
        rcases same with quote | rfl
        · exact .inl quote
        · exact .inr (.inl found)
      · exact .inl quote
  | character _ _ ih =>
      rw [List.mem_append] at member ⊢
      exact member.imp_left ih
  | bracketed _ _ ih =>
      rw [List.mem_append] at member ⊢
      exact member.imp_left ih

/-- What is collected is the text itself, or begins with a quoted sheet name. -/
theorem shape (collected : Collected slice buffer) :
    (buffer.head? ≠ some '\'' ∧ slice = buffer) ∨
      ∃ name tail,
        slice = '\'' :: Text.doubled '\'' name ++ '\'' :: tail ∧
          buffer = '\'' :: name ++ '\'' :: tail ∧ '\'' ∉ Text.upTo '[' tail := by
  induction collected with
  | nil => exact .inl ⟨by simp, rfl⟩
  | quoted name => exact .inr ⟨name, [], rfl, rfl, by simp [Text.upTo]⟩
  | @character slice buffer char _ plain ih =>
      have noQuote : char ≠ '\'' := by
        rintro rfl
        rcases plain with noDelimiter | ⟨isSign, -⟩
        · simp [Scan.isDelimiter] at noDelimiter
        · simp at isSign
      rcases ih with ⟨unquoted, rfl⟩ | ⟨name, tail, rfl, rfl, outside⟩
      · left
        refine ⟨?_, rfl⟩
        cases slice with
        | nil => simpa using noQuote
        | cons first rest => exact unquoted
      · right
        refine ⟨name, tail ++ [char], by simp, by simp, ?_⟩
        intro member
        rcases Text.mem_upTo_append member with before | last
        · exact outside before
        · have same := List.mem_singleton.mp ((List.takeWhile_prefix _).subset last)
          exact noQuote same.symm
  | @bracketed slice buffer inner _ _ ih =>
      rcases ih with ⟨unquoted, rfl⟩ | ⟨name, tail, rfl, rfl, outside⟩
      · left
        refine ⟨?_, rfl⟩
        cases slice with
        | nil => simp
        | cons first rest => exact unquoted
      · right
        refine ⟨name, tail ++ ('[' :: inner ++ [']']), by simp, by simp, ?_⟩
        intro member
        rcases Text.mem_upTo_append member with before | last
        · exact outside before
        · simp [Text.upTo] at last

/-- The layout writes a reference as the text it was collected from. -/
theorem quoteSheetName_eq
    (collected : Collected slice buffer) (requotable : Requotable buffer) :
    Layout.quoteSheetName buffer = slice := by
  rcases collected.shape with ⟨unquoted, rfl⟩ | ⟨name, tail, rfl, rfl, outside⟩
  · unfold Layout.quoteSheetName
    split
    · simp at unquoted
    · rfl
  · rcases requotable rfl with before | few
    · -- all quotes stand before the brackets, and the last one ends the name
      have noBracket : '[' ∉ name := by
        intro member
        rcases List.append_of_mem member with ⟨first, second, rfl⟩
        apply before
        have behind : '\'' ∈ second ++ '\'' :: tail := by simp
        have found := @Text.mem_dropWhile_of_mem '[' _ ('\'' :: first) _ behind
        simpa using found
      have upTo_eq : Text.upTo '[' (name ++ '\'' :: tail) = name ++ '\'' :: Text.upTo '[' tail := by
        rw [Text.upTo_append_of_notMem noBracket]
        simp [Text.upTo]
      have cut : Text.cutLast? '\'' (Text.upTo '[' (name ++ '\'' :: tail)) =
          some (name, Text.upTo '[' tail) := by
        rw [upTo_eq, Text.cutLast?_eq_some_iff]
        exact ⟨rfl, outside⟩
      rw [List.cons_append, Layout.quoteSheetName_of_cut cut]
      simp
    · -- with no other quotes, nothing is doubled
      have noQuote : '\'' ∉ name := by
        intro member
        have once : 1 ≤ name.count '\'' := List.count_pos_iff.mpr member
        simp only [List.cons_append, List.count_cons_self, List.count_append] at few
        omega
      rw [Text.doubled_of_notMem noQuote, List.cons_append]
      cases cut : Text.cutLast? '\'' (Text.upTo '[' (name ++ '\'' :: tail)) with
      | none => exact Layout.quoteSheetName_of_uncut cut
      | some parts =>
          rcases parts with ⟨first, second⟩
          rcases Text.cutLast?_eq_some_iff.mp cut with ⟨split, -⟩
          rcases List.takeWhile_prefix (p := (· ≠ '[')) (l := name ++ '\'' :: tail) with
            ⟨others, whole⟩
          rw [Text.upTo] at split
          rw [split, List.append_assoc] at whole
          have noQuoteFirst : '\'' ∉ first := by
            intro member
            have once : 1 ≤ first.count '\'' := List.count_pos_iff.mpr member
            have counted := congrArg (List.count '\'') whole
            simp only [List.cons_append, List.count_cons_self, List.count_append] at counted few
            omega
          rw [Layout.quoteSheetName_of_cut cut, Text.doubled_of_notMem noQuoteFirst, ← whole,
            List.drop_left, List.cons_append]

/-- A value with at most the two quotes around it is its own text. -/
theorem eq_of_few_quotes
    (collected : Collected slice buffer)
    (few : buffer.head? = some '\'' → buffer.count '\'' ≤ 2) :
    slice = buffer := by
  rcases collected.shape with ⟨-, same⟩ | ⟨name, tail, rfl, rfl, -⟩
  · exact same
  · have atMost := few rfl
    have noQuote : '\'' ∉ name := by
      intro member
      have once : 1 ≤ name.count '\'' := List.count_pos_iff.mpr member
      simp only [List.cons_append, List.count_cons_self, List.count_append] at atMost
      omega
    rw [Text.doubled_of_notMem noQuote]

/-- Behind a mark of implicit intersection stands a text that could stand alone. -/
theorem behind_mark
    {name : List Char} (collected : Collected slice ('@' :: name)) :
    Collected name name := by
  generalize marked : '@' :: name = buffer at collected
  induction collected generalizing name with
  | nil => cases marked
  | quoted quotedName => cases marked
  | @character slice buffer char before plain ih =>
      cases buffer with
      | nil =>
          cases marked
          exact .nil
      | cons first rest =>
          cases marked
          have unsigned : Scan.isDelimiter char = false := by
            rcases plain with noDelimiter | ⟨-, awaits⟩
            · exact noDelimiter
            · cases awaits
          exact .character (ih rfl) (.inl unsigned)
  | @bracketed slice buffer inner before nested ih =>
      cases buffer with
      | nil => cases marked
      | cons first rest =>
          cases marked
          exact .bracketed (ih rfl) nested

theorem append_plain
    (collected : Collected slice buffer)
    {word : List Char} (plain : ∀ char ∈ word, Scan.isDelimiter char = false) :
    Collected (slice ++ word) (buffer ++ word) := by
  induction word generalizing slice buffer with
  | nil => simpa using collected
  | cons char rest ih =>
      rcases List.forall_mem_cons.mp plain with ⟨here, later⟩
      have longer := ih (collected.character (.inl here)) later
      simpa using longer

end Collected

/-! ## References -/

/-- Operands that are read back from the text that the layout writes for them. -/
structure IsReference (value : List Char) : Prop where
  nonempty : value ≠ []
  isLine : IsLine value
  collected : Collected (Layout.quoteSheetName value) value

/-- Names of functions that are read back from the text that the layout writes for them. -/
structure IsFunctionName (name : List Char) : Prop where
  nonempty : name ≠ []
  isLine : IsLine name
  noSpace : ' ' ∉ name
  unmarked : name.head? ≠ some '@'
  unreserved : name ≠ arrayText ∧ name ≠ arrayRowText ∧ name ≠ arrayStopText
  collected : Collected name name

theorem IsWord.isLine {value : List Char} (isWord : IsWord value) : IsLine value := by
  intro char member
  have noBlank := (isWord.plain char member).2
  constructor
  · rintro rfl
    simp [Text.isBlank, Text.isWhiteSpace] at noBlank
  · rintro rfl
    simp [Text.isBlank, Text.isWhiteSpace] at noBlank

theorem IsWord.collected {value : List Char} (isWord : IsWord value) : Collected value value := by
  have plain : ∀ char ∈ value, Scan.isDelimiter char = false := by
    intro char member
    exact (isWord.plain char member).1
  simpa using Collected.nil.append_plain plain

theorem IsWord.head_visible {value : List Char} (isWord : IsWord value) :
    value.head?.any Text.isBlank = false := by
  cases value with
  | nil => rfl
  | cons char rest => simpa using (isWord.plain char (by simp)).2

theorem IsWord.last_visible {value : List Char} (isWord : IsWord value) :
    value.getLast?.any Text.isBlank = false := by
  rw [List.getLast?_eq_some_getLast isWord.nonempty]
  simpa using (isWord.plain _ (List.getLast_mem isWord.nonempty)).2

theorem IsWord.isReference {value : List Char} (isWord : IsWord value) : IsReference value where
  nonempty := isWord.nonempty
  isLine := isWord.isLine
  collected := by
    have requotable : Requotable value := by
      intro quoted
      rcases List.head?_eq_some_iff.mp quoted with ⟨rest, rfl⟩
      have noDelimiter := (isWord.plain '\'' (by simp)).1
      simp [Scan.isDelimiter] at noDelimiter
    rw [isWord.collected.quoteSheetName_eq requotable]
    exact isWord.collected

theorem IsName.isFunctionName {name : List Char} (isName : IsName name) :
    IsFunctionName name where
  nonempty := isName.nonempty
  isLine := isName.isLine
  noSpace := by
    intro member
    have noBlank := (isName.plain ' ' member).2
    simp [Text.isBlank, Text.isWhiteSpace] at noBlank
  unmarked := isName.unmarked
  unreserved := isName.unreserved
  collected := isName.collected

end SheetFormula.RoundTrip
