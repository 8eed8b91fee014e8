/-!
# Texts in pieces

A text falls into pieces at every occurrence of a separator (`List.splitOn`),
and pieces are joined to a text with the separator between them.  The other
functions cut a text once, at the first or the last occurrence, or search it.
-/

namespace SheetFormula.Text

/-- Pieces put together with a separator between them. -/
def join (separator : Char) (pieces : List (List Char)) : List Char :=
  List.intercalate [separator] pieces

/-- Pieces are made of characters of the text other than the separator. -/
theorem mem_of_mem_splitOn
    {separator char : Char} {text piece : List Char}
    (isPiece : piece ∈ text.splitOn separator) (member : char ∈ piece) :
    char ∈ text ∧ char ≠ separator := by
  induction text generalizing piece with
  | nil =>
      rw [List.splitOn_nil, List.mem_singleton] at isPiece
      subst isPiece
      cases member
  | cons first rest ih =>
      have behind {other : List Char}
          (isOther : other ∈ rest.splitOn separator) (inside : char ∈ other) :
          char ∈ first :: rest ∧ char ≠ separator :=
        (ih isOther inside).imp_left (List.mem_cons_of_mem first)
      rw [List.splitOn_cons_eq_if_modifyHead] at isPiece
      split at isPiece
      · rcases List.mem_cons.mp isPiece with rfl | isPiece
        · cases member
        · exact behind isPiece member
      · next different =>
          -- the first character joins the first piece behind it
          cases pieces : rest.splitOn separator with
          | nil => exact absurd pieces (List.splitOn_ne_nil separator rest)
          | cons next others =>
              rw [pieces] at behind isPiece
              rcases List.mem_cons.mp isPiece with rfl | isPiece
              · rcases List.mem_cons.mp member with rfl | member
                · exact ⟨List.mem_cons_self, by simpa using different⟩
                · exact behind List.mem_cons_self member
              · exact behind (List.mem_cons_of_mem next isPiece) member

@[simp]
theorem join_singleton (separator : Char) (piece : List Char) :
    join separator [piece] = piece :=
  List.intercalate_singleton

theorem join_cons_cons
    (separator : Char) (piece next : List Char) (pieces : List (List Char)) :
    join separator (piece :: next :: pieces) =
      piece ++ separator :: join separator (next :: pieces) := by
  rw [join, List.intercalate_cons_cons, List.append_assoc, List.singleton_append]
  rfl

/-- A list of pieces is made of their elements and those of the separator. -/
theorem mem_intercalate
    {α : Type} {element : α} {separator : List α} {pieces : List (List α)}
    (member : element ∈ List.intercalate separator pieces) :
    element ∈ separator ∨ ∃ piece ∈ pieces, element ∈ piece := by
  induction pieces with
  | nil => cases member
  | cons piece others ih =>
      cases others with
      | nil =>
          rw [List.intercalate_singleton] at member
          exact .inr ⟨piece, List.mem_cons_self, member⟩
      | cons next rest =>
          rw [List.intercalate_cons_cons, List.mem_append, List.mem_append] at member
          rcases member with (inside | between) | behind
          · exact .inr ⟨piece, List.mem_cons_self, inside⟩
          · exact .inl between
          · rcases ih behind with between | ⟨other, found, inside⟩
            · exact .inl between
            · exact .inr ⟨other, List.mem_cons_of_mem piece found, inside⟩

theorem mem_join
    {separator char : Char} {pieces : List (List Char)}
    (member : char ∈ join separator pieces) :
    char = separator ∨ ∃ piece ∈ pieces, char ∈ piece := by
  simpa using mem_intercalate member

theorem intercalate_ne_nil
    {α : Type} {pieces : List (List α)}
    (nonempty : pieces ≠ [])
    (filled : [] ∉ pieces)
    (separator : List α) :
    List.intercalate separator pieces ≠ [] := by
  rcases pieces with _ | ⟨piece, _ | ⟨next, others⟩⟩
  · exact absurd rfl nonempty
  · simpa [eq_comm] using filled
  · rw [List.mem_cons, not_or] at filled
    rw [List.intercalate_cons_cons, List.append_assoc]
    exact List.append_ne_nil_of_left_ne_nil (Ne.symm filled.1) _

/-- What is written for a list of pieces are the texts of the pieces. -/
theorem flatMap_intercalate
    {α β : Type} (write : α → List β) (separator : List α) (pieces : List (List α)) :
    (List.intercalate separator pieces).flatMap write =
      List.intercalate (separator.flatMap write) (pieces.map (List.flatMap write)) := by
  induction pieces with
  | nil => rfl
  | cons piece others ih =>
      cases others with
      | nil => simp
      | cons next rest =>
          simp only [List.intercalate_cons_cons, List.flatMap_append, ih, List.map_cons]

/-- The text before the first occurrence of a character and the text after it. -/
def cutFirst? (separator : Char) : List Char → Option (List Char × List Char)
  | [] => none
  | char :: rest =>
      if char = separator then some ([], rest)
      else (cutFirst? separator rest).map fun cut => (char :: cut.1, cut.2)

theorem cutFirst?_eq_none_iff {separator : Char} {text : List Char} :
    cutFirst? separator text = none ↔ separator ∉ text := by
  induction text with
  | nil => simp [cutFirst?]
  | cons char rest ih =>
      by_cases same : char = separator
      · simp [cutFirst?, same]
      · simp [cutFirst?, same, ih, Ne.symm same]

theorem cutFirst?_eq_some_iff {separator : Char} {text first second : List Char} :
    cutFirst? separator text = some (first, second) ↔
      text = first ++ separator :: second ∧ separator ∉ first := by
  induction text generalizing first with
  | nil => simp [cutFirst?]
  | cons char rest ih =>
      by_cases same : char = separator
      · subst same
        cases first with
        | nil => simp [cutFirst?, eq_comm]
        | cons other others =>
            simp only [cutFirst?, if_true, Option.some.injEq, Prod.mk.injEq, List.nil_eq,
              reduceCtorEq, false_and, List.cons_append, List.cons.injEq, false_iff, not_and]
            rintro ⟨rfl, -⟩ absent
            exact absent List.mem_cons_self
      · cases first with
        | nil => simp [cutFirst?, same]
        | cons other others =>
            simp only [cutFirst?, if_neg same, Option.map_eq_some_iff, Prod.mk.injEq,
              List.cons.injEq, List.cons_append, List.mem_cons, not_or]
            constructor
            · rintro ⟨⟨before, behind⟩, cut, ⟨rfl, rfl⟩, rfl⟩
              rcases ih.mp cut with ⟨rfl, absent⟩
              exact ⟨⟨rfl, rfl⟩, Ne.symm same, absent⟩
            · rintro ⟨⟨rfl, rest_eq⟩, -, absent⟩
              exact ⟨(others, second), ih.mpr ⟨rest_eq, absent⟩, ⟨rfl, rfl⟩, rfl⟩

/-- The text before the last occurrence of a character and the text after it. -/
def cutLast? (separator : Char) : List Char → Option (List Char × List Char)
  | [] => none
  | char :: rest =>
      match cutLast? separator rest with
      | some cut => some (char :: cut.1, cut.2)
      | none => if char = separator then some ([], rest) else none

theorem cutLast?_eq_none_iff {separator : Char} {text : List Char} :
    cutLast? separator text = none ↔ separator ∉ text := by
  induction text with
  | nil => simp [cutLast?]
  | cons char rest ih =>
      rw [cutLast?]
      cases cut : cutLast? separator rest with
      | some pieces =>
          have found : separator ∈ rest := by
            apply Decidable.byContradiction
            intro absent
            rw [ih.mpr absent] at cut
            cases cut
          simp [found]
      | none =>
          have absent : separator ∉ rest := ih.mp cut
          by_cases same : char = separator
          · simp [same]
          · simp [same, absent, Ne.symm same]

theorem cutLast?_eq_some_iff {separator : Char} {text first second : List Char} :
    cutLast? separator text = some (first, second) ↔
      text = first ++ separator :: second ∧ separator ∉ second := by
  constructor
  · intro cut
    induction text generalizing first with
    | nil => cases cut
    | cons char rest ih =>
        rw [cutLast?] at cut
        split at cut
        · next pieces found =>
            cases cut
            rcases ih found with ⟨split, absent⟩
            exact ⟨by rw [split]; rfl, absent⟩
        · next none =>
            split at cut
            · next same =>
                cases cut
                exact ⟨by rw [same]; rfl, cutLast?_eq_none_iff.mp none⟩
            · cases cut
  · rintro ⟨rfl, absent⟩
    induction first with
    | nil => simp [cutLast?, cutLast?_eq_none_iff.mpr absent]
    | cons char rest ih => simp [cutLast?, ih]

/-- The text before the first occurrence of a character, or all of it. -/
def upTo (separator : Char) (text : List Char) : List Char :=
  text.takeWhile (· ≠ separator)

theorem notMem_upTo (separator : Char) (text : List Char) : separator ∉ upTo separator text := by
  intro member
  have kept := List.all_eq_true.mp List.all_takeWhile _ member
  simp at kept

theorem mem_of_mem_upTo
    {separator char : Char} {text : List Char} (member : char ∈ upTo separator text) :
    char ∈ text :=
  (List.takeWhile_sublist _).subset member

theorem upTo_append_of_notMem
    {separator : Char} {first : List Char} (absent : separator ∉ first) (second : List Char) :
    upTo separator (first ++ second) = first ++ upTo separator second := by
  apply List.takeWhile_append_of_pos
  intro char member
  have different : char ≠ separator := fun same => absent (same ▸ member)
  simpa using different

theorem upTo_of_notMem
    {separator : Char} {text : List Char} (absent : separator ∉ text) :
    upTo separator text = text := by
  calc
    upTo separator text
      = upTo separator (text ++ []) := by rw [List.append_nil]
    _ = text ++ upTo separator [] := upTo_append_of_notMem absent []
    _ = text := List.append_nil text

/-- What stands behind a separator stands behind the first one. -/
theorem mem_dropWhile_of_mem
    {separator char : Char} {first second : List Char}
    (member : char ∈ second) :
    char ∈ (first ++ separator :: second).dropWhile (· ≠ separator) := by
  rw [List.dropWhile_append]
  split
  · simp [member]
  · simp [member]

theorem mem_upTo_append
    {separator char : Char} {first second : List Char}
    (member : char ∈ upTo separator (first ++ second)) :
    char ∈ upTo separator first ∨ char ∈ upTo separator second := by
  rw [upTo, List.takeWhile_append] at member
  split at member
  · next whole =>
      rcases List.mem_append.mp member with before | behind
      · left
        have same : upTo separator first = first :=
          (List.takeWhile_prefix _).eq_of_length whole
        rwa [same]
      · exact .inr behind
  · exact .inl member

/-- Behind the first piece of a text there is nothing or a separator. -/
theorem upTo_cases (separator : Char) (text : List Char) :
    text = upTo separator text ∨ ∃ rest, text = upTo separator text ++ separator :: rest := by
  induction text with
  | nil => exact .inl rfl
  | cons char rest ih =>
      by_cases same : char = separator
      · exact .inr ⟨rest, by simp [upTo, same]⟩
      · have first : upTo separator (char :: rest) = char :: upTo separator rest := by
          simp [upTo, same]
        rw [first]
        rcases ih with whole | ⟨behind, cut⟩
        · exact .inl (congrArg (char :: ·) whole)
        · exact .inr ⟨behind, congrArg (char :: ·) cut⟩

theorem exists_upTo_of_mem
    {separator : Char} {text : List Char} (member : separator ∈ text) :
    ∃ rest, text = upTo separator text ++ separator :: rest := by
  rcases upTo_cases separator text with whole | cut
  · rw [whole] at member
    exact absurd member (notMem_upTo separator text)
  · exact cut

/-- A text without the occurrences of a character. -/
def without (unwanted : Char) (text : List Char) : List Char :=
  text.filter (· ≠ unwanted)

theorem notMem_without (unwanted : Char) (text : List Char) :
    unwanted ∉ without unwanted text := by
  simp [without]

theorem without_of_notMem
    {unwanted : Char} {text : List Char} (absent : unwanted ∉ text) :
    without unwanted text = text := by
  refine List.filter_eq_self.mpr ?_
  intro char member
  have different : char ≠ unwanted := fun same => absent (same ▸ member)
  simpa using different

/-- A text with every occurrence of a character written twice. -/
def doubled (mark : Char) (text : List Char) : List Char :=
  text.flatMap fun char => if char = mark then [mark, mark] else [char]

@[simp]
theorem doubled_nil (mark : Char) : doubled mark [] = [] := rfl

@[simp]
theorem doubled_append
    (mark : Char) (first second : List Char) :
    doubled mark (first ++ second) = doubled mark first ++ doubled mark second := by
  simp [doubled]

@[simp]
theorem doubled_mark (mark : Char) : doubled mark [mark] = [mark, mark] := by
  simp [doubled]

theorem doubled_of_notMem
    {mark : Char} {text : List Char} (absent : mark ∉ text) :
    doubled mark text = text := by
  induction text with
  | nil => rfl
  | cons char rest ih =>
      simp only [List.mem_cons, not_or] at absent
      have different : ¬ char = mark := fun same => absent.1 same.symm
      have later := ih absent.2
      unfold doubled at later ⊢
      rw [List.flatMap_cons, later, if_neg different]
      rfl

theorem doubled_of_ne
    {mark char : Char} (different : char ≠ mark) :
    doubled mark [char] = [char] := by
  simp [doubled, different]

theorem doubled_cons
    (mark char : Char) (text : List Char) :
    doubled mark (char :: text) =
      (if char = mark then [mark, mark] else [char]) ++ doubled mark text := by
  simp [doubled]

theorem length_doubled (mark : Char) (text : List Char) :
    (doubled mark text).length = text.length + text.count mark := by
  induction text with
  | nil => rfl
  | cons char rest ih =>
      rw [doubled_cons, List.length_append, ih, List.count_cons, List.length_cons]
      by_cases same : char = mark
      · rw [if_pos same, if_pos (beq_iff_eq.mpr same), List.length_cons, List.length_singleton]
        omega
      · have different : ¬ (char == mark) = true := fun equal => same (beq_iff_eq.mp equal)
        rw [if_neg same, if_neg different, List.length_singleton]
        omega

theorem count_doubled (mark : Char) (text : List Char) :
    (doubled mark text).count mark = 2 * text.count mark := by
  induction text with
  | nil => rfl
  | cons char rest ih =>
      rw [doubled_cons, List.count_append, ih]
      by_cases same : char = mark
      · rw [if_pos same, same, List.count_cons_self, List.count_cons_self, List.count_cons_self,
          List.count_nil]
        omega
      · rw [if_neg same, List.count_cons_of_ne same, List.count_cons_of_ne same, List.count_nil]
        omega

/-- Only a text without the character stays as it is. -/
theorem doubled_eq_self_iff {mark : Char} {text : List Char} :
    doubled mark text = text ↔ mark ∉ text := by
  constructor
  · intro same member
    have longer := length_doubled mark text
    have once : 0 < text.count mark := List.count_pos_iff.mpr member
    rw [same] at longer
    omega
  · exact doubled_of_notMem

/-- Whether a text that follows doubled characters cannot continue them. -/
def EndsDoubling (mark : Char) (text : List Char) : Prop :=
  text.head?.all (· = mark) ∧ text.tail.head? ≠ some mark

theorem eq_nil_of_endsDoubling
    {mark : Char} {text behind : List Char}
    (ends : EndsDoubling mark (doubled mark text ++ behind)) :
    text = [] := by
  cases text with
  | nil => rfl
  | cons char rest =>
      by_cases same : char = mark
      · simp [EndsDoubling, doubled_cons, same] at ends
      · simp [EndsDoubling, doubled_cons, same] at ends

/-- Where a doubled text ends is seen from what follows it. -/
theorem doubled_append_inj
    {mark : Char} {first second behind after : List Char}
    (ends : EndsDoubling mark behind)
    (endsAgain : EndsDoubling mark after)
    (same : doubled mark first ++ behind = doubled mark second ++ after) :
    first = second ∧ behind = after := by
  induction first generalizing second with
  | nil =>
      rw [doubled_nil, List.nil_append] at same
      subst same
      obtain rfl := eq_nil_of_endsDoubling ends
      exact ⟨rfl, rfl⟩
  | cons char rest ih =>
      cases second with
      | nil =>
          rw [doubled_nil, List.nil_append] at same
          subst same
          cases eq_nil_of_endsDoubling endsAgain
      | cons other others =>
          simp only [doubled_cons, List.append_assoc] at same
          by_cases isMark : char = mark
          · by_cases isMarkToo : other = mark
            · simp only [isMark, isMarkToo, if_true, List.append_cancel_left_eq] at same
              rcases ih same with ⟨rfl, sameBehind⟩
              exact ⟨by rw [isMark, isMarkToo], sameBehind⟩
            · rw [if_pos isMark, if_neg isMarkToo] at same
              exact absurd (List.cons.inj same).1.symm isMarkToo
          · by_cases isMarkToo : other = mark
            · rw [if_neg isMark, if_pos isMarkToo] at same
              exact absurd (List.cons.inj same).1 isMark
            · simp only [isMark, isMarkToo, if_false, List.cons_append, List.nil_append,
                List.cons.injEq] at same
              rcases ih same.2 with ⟨rfl, sameBehind⟩
              exact ⟨by rw [same.1], sameBehind⟩

/-- A text with every pair of a character written once, read from the left. -/
def undoubled (mark : Char) : List Char → List Char
  | first :: second :: rest =>
      if first = mark ∧ second = mark then mark :: undoubled mark rest
      else first :: undoubled mark (second :: rest)
  | text => text

theorem undoubled_mark (mark : Char) (rest : List Char) :
    undoubled mark (mark :: mark :: rest) = mark :: undoubled mark rest := by
  simp [undoubled]

theorem undoubled_cons_of_ne
    {mark char : Char} (different : char ≠ mark) (rest : List Char) :
    undoubled mark (char :: rest) = char :: undoubled mark rest := by
  cases rest with
  | nil => rfl
  | cons next others => simp [undoubled, different]

/-- What was doubled is read back. -/
@[simp]
theorem undoubled_doubled (mark : Char) (text : List Char) :
    undoubled mark (doubled mark text) = text := by
  induction text with
  | nil => rfl
  | cons char rest ih =>
      rw [doubled_cons]
      by_cases same : char = mark
      · rw [if_pos same, List.cons_append, List.singleton_append, undoubled_mark, ih, same]
      · rw [if_neg same, List.singleton_append, undoubled_cons_of_ne same, ih]

theorem undoubled_eq_nil_iff {mark : Char} {text : List Char} :
    undoubled mark text = [] ↔ text = [] := by
  fun_cases undoubled mark text with
  | case1 => simp
  | case2 => simp
  | case3 => rfl

theorem mem_of_mem_undoubled
    {mark char : Char} {text : List Char} (member : char ∈ undoubled mark text) :
    char ∈ text := by
  fun_induction undoubled mark text with
  | case1 first second rest marks ih =>
      rcases List.mem_cons.mp member with same | behind
      · simp [same, marks]
      · simp [ih behind]
  | case2 first second rest _ ih =>
      rcases List.mem_cons.mp member with same | behind
      · simp [same]
      · exact List.mem_cons_of_mem first (ih behind)
  | case3 => exact member

/-- A text without a given last character, if it ends with that. -/
def dropLastChar (ending : Char) (text : List Char) : List Char :=
  if text.getLast? = some ending then text.dropLast else text

/-- The rest of a text after a given beginning, if it starts with that. -/
def after? : List Char → List Char → Option (List Char)
  | [], text => some text
  | _ :: _, [] => none
  | expected :: beginning, char :: rest =>
      if char = expected then after? beginning rest else none

theorem after?_eq_some_iff {beginning text rest : List Char} :
    after? beginning text = some rest ↔ text = beginning ++ rest := by
  induction beginning generalizing text with
  | nil => simp [after?]
  | cons expected beginning ih =>
      cases text with
      | nil => simp [after?]
      | cons char text =>
          by_cases same : char = expected
          · simp [after?, same, ih]
          · simp [after?, same]

/-- Whether a text occurs inside another. -/
def occursIn (part : List Char) : List Char → Bool
  | [] => part.isEmpty
  | char :: rest => part.isPrefixOf (char :: rest) || occursIn part rest

theorem occursIn_iff {part text : List Char} : occursIn part text ↔ part <:+: text := by
  induction text with
  | nil => simp [occursIn]
  | cons char rest ih =>
      rw [occursIn, Bool.or_eq_true, List.isPrefixOf_iff_prefix, ih, List.infix_cons_iff]

end SheetFormula.Text
