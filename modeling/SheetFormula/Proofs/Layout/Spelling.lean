import SheetFormula.Proofs.Layout.Intersections

/-!
# Every token is written once

A layout consists of the spellings of its tokens, one after the other, with
gaps of spaces and line breaks between them.  A step writes the spelling of its
token with layout on both sides; trimming takes layout off the ends and nothing
else, as long as no spelling begins or ends with a blank.

An intersection is spelled by the gap before it.  Trimming leaves that gap
alone, since there is a value on either side.
-/

namespace SheetFormula.Layout

open RoundTrip

/-! ## Gaps -/

/-- Layout is made of spaces and line breaks. -/
def IsLayout (gap : List Char) : Prop :=
  ∀ char ∈ gap, char = ' ' ∨ char = '\n'

theorem isLayout_nil : IsLayout [] := by
  simp [IsLayout]

theorem isLayout_space : IsLayout [' '] := by
  simp [IsLayout]

theorem isLayout_break : IsLayout ['\n'] := by
  simp [IsLayout]

theorem IsLayout.append
    {first second : List Char}
    (isFirst : IsLayout first)
    (isSecond : IsLayout second) :
    IsLayout (first ++ second) := by
  intro char member
  rcases List.mem_append.mp member with before | behind
  · exact isFirst char before
  · exact isSecond char behind

theorem isLayout_spaces (count : Nat) : IsLayout (List.replicate count ' ') := by
  intro char member
  exact .inl (List.eq_of_mem_replicate member)

theorem IsLayout.isBlank
    {gap : List Char}
    (isLayout : IsLayout gap) :
    ∀ char ∈ gap, Text.isBlank char := by
  intro char member
  rcases isLayout char member with rfl | rfl
  · rfl
  · rfl

/-- The spellings of tokens with a gap behind each of them; a gap left out is empty. -/
def woven : List Token → List (List Char) → List Char
  | [], _ => []
  | token :: tokens, gaps => spelling token ++ gaps.headD [] ++ woven tokens gaps.tail

/-- There is a space in the gap before each intersection, where the first gap is given. -/
def Spaced : List Char → List Token → List (List Char) → Prop
  | _, [], _ => True
  | before, token :: tokens, gaps =>
      (isIntersection token → ' ' ∈ before) ∧ Spaced (gaps.headD []) tokens gaps.tail

theorem Spaced.widen
    {before : List Char} {tokens : List Token} {gaps : List (List Char)}
    (spaced : Spaced before tokens gaps)
    (first : List Char) :
    Spaced (first ++ before) tokens gaps := by
  cases tokens with
  | nil => trivial
  | cons token others =>
      refine ⟨?_, spaced.2⟩
      intro intersects
      exact List.mem_append_right first (spaced.1 intersects)

/-- Texts that are the spellings of tokens with layout around them. -/
def Spread (tokens : List Token) (text : List Char) : Prop :=
  ∃ first gaps,
    IsLayout first ∧ (∀ gap ∈ gaps, IsLayout gap) ∧
      text = first ++ woven tokens gaps ∧ Spaced first tokens gaps

theorem spread_nil : Spread [] [] :=
  ⟨[], [], isLayout_nil, by simp, rfl, trivial⟩

/-- Texts that are the spelling of one token with layout on both sides. -/
def Writes (token : Token) (text : List Char) : Prop :=
  ∃ before behind,
    IsLayout before ∧ IsLayout behind ∧ text = before ++ spelling token ++ behind ∧
      (isIntersection token → ' ' ∈ before)

theorem Writes.cons
    {token : Token} {tokens : List Token} {text others : List Char}
    (writes : Writes token text)
    (spread : Spread tokens others) :
    Spread (token :: tokens) (text ++ others) := by
  rcases writes with ⟨before, behind, isBefore, isBehind, rfl, space⟩
  rcases spread with ⟨first, gaps, isFirst, areLayout, rfl, spaced⟩
  refine ⟨before, (behind ++ first) :: gaps, isBefore, ?_, ?_, space, spaced.widen behind⟩
  · exact List.forall_mem_cons.mpr ⟨isBehind.append isFirst, areLayout⟩
  · simp [woven]

/-! ## Steps -/

section Steps

variable (width : Nat) (state : State) {token : Token} (following : Option Token)

theorem isLayout_lead : IsLayout (lead (List.replicate width ' ') state) := by
  rcases lead_spaces width state with ⟨count, spaces⟩
  rw [spaces]
  exact isLayout_spaces count

theorem isLayout_indentation (depth : Nat) :
    IsLayout (indentation (List.replicate width ' ') depth) := by
  rw [indentation_spaces]
  exact isLayout_spaces _

theorem isLayout_operandLead :
    IsLayout (operandLead (List.replicate width ' ') state token) := by
  rw [operandLead]
  split
  · split
    · exact isLayout_nil
    · exact isLayout_space
  · exact isLayout_lead width _

theorem isLayout_lineBreak (condition : Prop) [Decidable condition] :
    IsLayout (if condition then [] else ['\n']) := by
  split
  · exact isLayout_nil
  · exact isLayout_break

/-- A token by itself is written with layout around it. -/
theorem writes_plain (isPlain : IsPlain token) :
    Writes token (step (List.replicate width ' ') state token following).1 := by
  have noMark := isPlain.noMark
  have alone {gap : List Char} (isLayout : IsLayout gap) (kind : token.kind ≠ .infixOp) :
      Writes token (gap ++ spelling token) := by
    refine ⟨gap, [], isLayout, isLayout_nil, by rw [List.append_nil], ?_⟩
    simp [isIntersection, kind]
  cases kind : token.kind with
  | operand =>
      rw [step_operand _ state following noMark kind]
      exact alone (isLayout_operandLead width state) (by simp [kind])
  | prefixOp =>
      rw [step_led _ state following noMark (.inl kind)]
      exact alone (isLayout_lead width _) (by simp [kind])
  | unknown =>
      rw [step_led _ state following noMark (.inr kind)]
      exact alone (isLayout_lead width _) (by simp [kind])
  | postfixOp =>
      rw [step_postfixOp _ state following noMark kind]
      exact alone isLayout_nil (by simp [kind])
  | argument =>
      rcases step_separator (List.replicate width ' ') state following isPlain kind with
        ⟨before, isLead, written⟩
      rw [written]
      refine ⟨before, _, ?_, isLayout_lineBreak _, rfl, by simp [isIntersection, kind]⟩
      rcases isLead with rfl | rfl
      · exact isLayout_nil
      · exact isLayout_lead width _
  | infixOp =>
      by_cases concatenates : token.subkind = some .concatenate
      · rw [step_concatenation _ state following kind concatenates]
        refine ⟨[], [], isLayout_nil, isLayout_nil, by simp, ?_⟩
        simp [isIntersection, concatenates]
      · by_cases intersects : token.subkind = some .intersect
        · rw [step_intersection _ state following kind intersects]
          refine ⟨[' '], [], isLayout_space, isLayout_nil, ?_, by simp⟩
          rw [spelling_of_intersection (by simp [isIntersection, kind, intersects])]
          rfl
        · have joins : attaches token = false := by
            simp [attaches, kind, concatenates, intersects]
          rw [step_joining _ state following isPlain kind joins]
          refine ⟨[' '], _, isLayout_space, ?_, rfl, by simp⟩
          split
          · exact isLayout_break
          · exact isLayout_nil
  | function | subexpression =>
      have noGroup := isPlain.noGroup
      simp [Token.isGroup, kind] at noGroup
  | unionOp | blank | noOp =>
      have written := isPlain.written
      simp [kind] at written

/-- So is the opener of a parenthesis or an array row. -/
theorem writes_start
    (isOpener : token.isOpener)
    (noWrapper : token.isArrayWrapper = false)
    (isRow : token.value = arrayRowText → token.kind = .function) :
    Writes token (step (List.replicate width ' ') state token following).1 := by
  rw [step_start _ state following isOpener noWrapper isRow]
  refine ⟨_, _, isLayout_lead width _, isLayout_lineBreak _, rfl, ?_⟩
  intro intersects
  simp only [isIntersection, Bool.and_eq_true, beq_iff_eq] at intersects
  simp [Token.isOpener, Token.isStart, intersects] at isOpener

/-- So is its stop. -/
theorem writes_stop
    (isStop : token.isStop)
    (isGroup : token.isGroup)
    (noWrapper : token.isArrayWrapper = false)
    (isRow : token.value = arrayRowStopText → token.kind = .function) :
    Writes token (step (List.replicate width ' ') state token following).1 := by
  rw [step_stop _ state following isStop isGroup noWrapper isRow]
  refine ⟨_, [], ?_, isLayout_nil, by rw [List.append_nil], ?_⟩
  · split
    · exact isLayout_nil
    · exact isLayout_break.append (isLayout_indentation width _)
  · intro intersects
    simp only [isIntersection, Bool.and_eq_true, beq_iff_eq] at intersects
    simp [Token.isStop, intersects] at isStop

/-- The wrapper of an array literal writes nothing, and its spelling is empty. -/
theorem writes_wrapper
    (isWrapper : token.isArrayWrapper)
    (noOpener : opensEmpty token following = false)
    (noCloser : closesEmpty state token = false) :
    Writes token (step (List.replicate width ' ') state token following).1 := by
  rw [step_wrapper _ state following isWrapper noOpener noCloser]
  have isFunction : token.kind = .function := by
    simp only [Token.isArrayWrapper, Bool.and_eq_true, beq_iff_eq] at isWrapper
    exact isWrapper.1
  refine ⟨[], [], isLayout_nil, isLayout_nil, ?_, by simp [isIntersection, isFunction]⟩
  rw [spelling_of_wrapper isWrapper]
  rfl

end Steps

/-! ## Runs -/

section Runs

variable {called : List Char → Prop} {nesting final : Nesting} {tokens : List Token}

/-- The layout of a path of groups is the spellings of its tokens with layout around them. -/
theorem Grouped.spread
    (grouped : Grouped IsPlain called nesting tokens final)
    (unreserved : ∀ name, called name → name ∉ arrayNames)
    (width : Nat)
    (state : State) :
    Spread tokens (textBefore (List.replicate width ' ') [] state tokens) := by
  induction grouped generalizing state with
  | nil => exact spread_nil
  | plain isPlain _ ih => exact (writes_plain width state _ isPlain).cons (ih _)
  | opens isParenthesis _ ih =>
      refine Writes.cons ?_ (ih _)
      exact writes_start width state _ isParenthesis.isOpener
        (isParenthesis.noWrapper unreserved) isParenthesis.row_isFunction
  | @closes _ _ opener _ isParenthesis _ ih =>
      refine Writes.cons ?_ (ih _)
      apply writes_stop width state _ rfl isParenthesis.stop_isGroup (stopFor_noWrapper opener)
      intro same
      cases same
  | brace _ ih =>
      -- No stop follows the wrapper, since its row comes next.
      refine Writes.cons ?_ (Writes.cons ?_ (ih _))
      · exact writes_wrapper width state _ rfl rfl (closesEmpty_of_noStop state rfl)
      · exact writes_start width _ _ rfl rfl fun _ => rfl
  | closeBrace _ ih =>
      -- No opener stands before the stop of the wrapper, since the row has just ended.
      refine Writes.cons ?_ (Writes.cons ?_ (ih _))
      · exact writes_stop width state _ rfl rfl rfl fun _ => rfl
      · exact writes_wrapper width _ _ rfl (opensEmpty_of_noStart _ rfl) rfl

end Runs

/-! ## The ends of spellings -/

/-- Texts that neither begin nor end with a blank. -/
def IsTrimmed (text : List Char) : Prop :=
  text.head?.any Text.isBlank = false ∧ text.getLast?.any Text.isBlank = false

instance (text : List Char) : Decidable (IsTrimmed text) :=
  inferInstanceAs (Decidable (_ ∧ _))

theorem isTrimmed_of_visible
    {text : List Char}
    (visible : text.any Text.isBlank = false) :
    IsTrimmed text := by
  rw [List.any_eq_false] at visible
  constructor
  · cases first : text.head? with
    | none => rfl
    | some char => simpa using visible char (List.mem_of_head? first)
  · cases last : text.getLast? with
    | none => rfl
    | some char => simpa using visible char (List.mem_of_getLast? last)

theorem isTrimmed_between (first last : Char) (inner : List Char)
    (visibleFirst : Text.isBlank first = false)
    (visibleLast : Text.isBlank last = false) :
    IsTrimmed (first :: inner ++ [last]) := by
  constructor
  · simp [visibleFirst]
  · rw [List.getLast?_concat, Option.any_some, visibleLast]

theorem isTrimmed_quoteSheetName
    {value : List Char}
    (trimmed : IsTrimmed value) :
    IsTrimmed (quoteSheetName value) := by
  refine ⟨?_, by rw [getLast?_quoteSheetName, trimmed.2]⟩
  rcases quoteSheetName_cases value with same | ⟨name, behind, -, quoted⟩
  · rw [same, trimmed.1]
  · rw [quoted]
    rfl

/-- Whether a token is written as its text, so that blanks at its ends are lost in the layout. -/
def isBare (token : Token) : Bool :=
  token.kind == .unknown || token.kind == .function ||
    (token.kind == .operand && token.subkind != some .text)

theorem isTrimmed_nil : IsTrimmed [] := ⟨rfl, rfl⟩

/-- The spelling of a token by itself has no blanks at its ends. -/
theorem IsPlain.isTrimmed
    {token : Token}
    (isPlain : IsPlain token)
    (bare : isBare token → IsTrimmed token.value) :
    IsTrimmed (spelling token) := by
  have ofSymbol (symbol : isSymbol token) : IsTrimmed (spelling token) := by
    rw [spelling_eq_value (.inl symbol)]
    exact isTrimmed_of_visible (isPlain.symbol symbol)
  cases kind : token.kind with
  | operand =>
      rcases spelling_of_operand kind with
        ⟨-, written⟩ | ⟨isError, written⟩ | ⟨noText, -, written⟩
      · rw [written]
        exact isTrimmed_between '"' '"' _ rfl rfl
      · rw [written]
        exact bare (by simp [isBare, kind, isError])
      · rw [written]
        apply isTrimmed_quoteSheetName
        exact bare (by simpa [isBare, kind] using noText)
  | infixOp =>
      by_cases intersects : token.subkind = some .intersect
      · rw [spelling_of_intersection (by simp [isIntersection, kind, intersects])]
        exact isTrimmed_nil
      · exact ofSymbol (by simp [isSymbol, kind, intersects])
  | prefixOp | postfixOp | argument => exact ofSymbol (by simp [isSymbol, kind])
  | unknown =>
      rw [spelling_eq_value (.inr kind)]
      exact bare (by simp [isBare, kind])
  | function | subexpression =>
      have noGroup := isPlain.noGroup
      simp [Token.isGroup, kind] at noGroup
  | unionOp | blank | noOp =>
      have written := isPlain.written
      simp [kind] at written

/-- Names lose all their spaces, but none of them stands first. -/
theorem isTrimmed_opening
    {name : List Char}
    (trimmed : IsTrimmed name) :
    IsTrimmed (Text.without ' ' name ++ ['(']) := by
  refine ⟨?_, by simp [Text.isBlank, Text.isWhiteSpace]⟩
  cases name with
  | nil => rfl
  | cons char rest =>
      have visible : Text.isBlank char = false := by simpa using trimmed.1
      have different : char ≠ ' ' := by
        rintro rfl
        cases visible
      simp [Text.without, different, visible]

theorem IsParenthesis.isTrimmed
    {called : List Char → Prop} {opener : Token}
    (isParenthesis : IsParenthesis called opener)
    (noWrapper : opener.isArrayWrapper = false)
    (bare : isBare opener → IsTrimmed opener.value) :
    IsTrimmed (spelling opener) := by
  rw [spelling_of_opener isParenthesis.isOpener noWrapper]
  split
  · exact ⟨rfl, rfl⟩
  · apply isTrimmed_opening
    cases isParenthesis with
    | subexpression => exact isTrimmed_nil
    | call => exact bare rfl

/-- No spelling of a path has blanks at its ends. -/
theorem Grouped.isTrimmed
    {called : List Char → Prop} {nesting final : Nesting} {tokens : List Token}
    (grouped : Grouped IsPlain called nesting tokens final)
    (unreserved : ∀ name, called name → name ∉ arrayNames)
    (bare : ∀ token ∈ tokens, isBare token → IsTrimmed token.value) :
    ∀ token ∈ tokens, IsTrimmed (spelling token) := by
  induction grouped with
  | nil => simp
  | plain isPlain _ ih =>
      rw [List.forall_mem_cons] at bare ⊢
      exact ⟨isPlain.isTrimmed bare.1, ih bare.2⟩
  | opens isParenthesis _ ih =>
      rw [List.forall_mem_cons] at bare ⊢
      exact ⟨isParenthesis.isTrimmed (isParenthesis.noWrapper unreserved) bare.1, ih bare.2⟩
  | @closes _ _ opener _ isParenthesis _ ih =>
      rw [List.forall_mem_cons] at bare ⊢
      refine ⟨?_, ih bare.2⟩
      have written := spelling_of_stop rfl isParenthesis.stop_isGroup (stopFor_noWrapper opener)
        (fun same => by cases same)
      rw [written]
      exact ⟨rfl, rfl⟩
  | brace _ ih =>
      simp only [List.forall_mem_cons] at bare ⊢
      exact ⟨⟨rfl, rfl⟩, ⟨rfl, rfl⟩, ih bare.2.2⟩
  | closeBrace _ ih =>
      simp only [List.forall_mem_cons] at bare ⊢
      exact ⟨⟨rfl, rfl⟩, ⟨rfl, rfl⟩, ih bare.2.2⟩

/-! ## Trimming -/

section Trimming

variable {tokens : List Token} {gaps : List (List Char)} {first before : List Char}

theorem isLayout_headD (areLayout : ∀ gap ∈ gaps, IsLayout gap) : IsLayout (gaps.headD []) := by
  cases gaps with
  | nil => exact isLayout_nil
  | cons gap others => exact areLayout gap (List.mem_cons_self ..)

theorem isLayout_tail (areLayout : ∀ gap ∈ gaps, IsLayout gap) :
    ∀ gap ∈ gaps.tail, IsLayout gap := by
  intro gap member
  exact areLayout gap (List.mem_of_mem_tail member)

/-- A text without blanks at its ends begins with a visible character. -/
theorem IsTrimmed.exists_first
    {text : List Char}
    (trimmed : IsTrimmed text)
    (nonempty : text ≠ []) :
    ∃ char rest, text = char :: rest ∧ Text.isBlank char = false := by
  cases text with
  | nil => exact (nonempty rfl).elim
  | cons char rest => exact ⟨char, rest, rfl, by simpa using trimmed.1⟩

/--
Layout before the first written token is trimmed.  Tokens that are not written
let the trimming pass, but then no intersection can have come before.
-/
theorem exists_trimStart
    (isFirst : IsLayout first)
    (areLayout : ∀ gap ∈ gaps, IsLayout gap)
    (trimmed : ∀ token ∈ tokens, IsTrimmed (spelling token))
    (enclosed : Enclosed isShown isShown false tokens)
    (spaced : Spaced first tokens gaps) :
    ∃ others : List (List Char),
      (∀ gap ∈ others, IsLayout gap) ∧
        Text.trimStart (first ++ woven tokens gaps) = woven tokens others ∧
        Spaced [] tokens others := by
  induction tokens generalizing first gaps with
  | nil =>
      refine ⟨[], by simp, ?_, trivial⟩
      exact Text.trimStart_append_of_blank isFirst.isBlank []
  | cons token rest ih =>
      rw [List.forall_mem_cons] at trimmed
      have uncrossed (intersects : isIntersection token) : ' ' ∈ ([] : List Char) := by
        cases (enclosed.1 intersects).1
      by_cases empty : spelling token = []
      · have hidden : isShown token = false := by simp [isShown, empty]
        have later := enclosed.2
        rw [hidden, Bool.or_false] at later
        rcases ih (isFirst.append (isLayout_headD areLayout)) (isLayout_tail areLayout)
          trimmed.2 later (spaced.2.widen first) with
          ⟨others, areOthers, same, spacedOthers⟩
        refine ⟨[] :: others, ?_, ?_, uncrossed, spacedOthers⟩
        · exact List.forall_mem_cons.mpr ⟨isLayout_nil, areOthers⟩
        · rw [woven, woven, empty, List.nil_append, ← List.append_assoc, same]
          rfl
      · rcases trimmed.1.exists_first empty with ⟨char, letters, written, visible⟩
        refine ⟨gaps, areLayout, ?_, uncrossed, spaced.2⟩
        rw [Text.trimStart_append_of_blank isFirst.isBlank, woven, written]
        simp [Text.trimStart, visible]

/-- Tokens that are not written leave only layout. -/
theorem isLayout_woven
    (hidden : tokens.any isShown = false)
    (areLayout : ∀ gap ∈ gaps, IsLayout gap) :
    IsLayout (woven tokens gaps) := by
  induction tokens generalizing gaps with
  | nil => exact isLayout_nil
  | cons token rest ih =>
      rw [List.any_cons, Bool.or_eq_false_iff] at hidden
      have empty : spelling token = [] := by simpa [isShown] using hidden.1
      rw [woven, empty, List.nil_append]
      exact (isLayout_headD areLayout).append (ih hidden.2 (isLayout_tail areLayout))

/-- Without gaps they leave nothing. -/
theorem woven_of_hidden
    (hidden : tokens.any isShown = false)
    (count : Nat) :
    woven tokens (List.replicate count []) = [] := by
  induction tokens generalizing count with
  | nil => rfl
  | cons token rest ih =>
      rw [List.any_cons, Bool.or_eq_false_iff] at hidden
      have empty : spelling token = [] := by simpa [isShown] using hidden.1
      rw [woven, empty, List.tail_replicate, ih hidden.2]
      cases count with
      | zero => rfl
      | succ fewer => rfl

/-- No intersection is among them. -/
theorem spaced_of_hidden
    {shown : Bool}
    (hidden : tokens.any isShown = false)
    (enclosed : Enclosed isShown isShown shown tokens) :
    Spaced before tokens gaps := by
  induction tokens generalizing shown before gaps with
  | nil => trivial
  | cons token rest ih =>
      rw [List.any_cons, Bool.or_eq_false_iff] at hidden
      refine ⟨?_, ih hidden.2 enclosed.2⟩
      intro intersects
      have right := (enclosed.1 intersects).2
      rw [hidden.2] at right
      cases right

/-- A token that is written leaves a visible character. -/
theorem exists_visible
    (trimmed : ∀ token ∈ tokens, IsTrimmed (spelling token))
    (shown : tokens.any isShown)
    (gaps : List (List Char)) :
    ∃ char ∈ woven tokens gaps, Text.isBlank char = false := by
  induction tokens generalizing gaps with
  | nil => cases shown
  | cons token rest ih =>
      rw [List.forall_mem_cons] at trimmed
      rw [List.any_cons, Bool.or_eq_true] at shown
      rw [woven]
      rcases shown with here | later
      · have nonempty : spelling token ≠ [] := by simpa [isShown] using here
        rcases trimmed.1.exists_first nonempty with ⟨char, letters, written, visible⟩
        exact ⟨char, by simp [written], visible⟩
      · rcases ih trimmed.2 later gaps.tail with ⟨char, member, visible⟩
        exact ⟨char, List.mem_append_right _ member, visible⟩

/-- Layout behind the last written token is trimmed, and no gap before it is touched. -/
theorem exists_trimEnd
    {shown : Bool}
    (areLayout : ∀ gap ∈ gaps, IsLayout gap)
    (trimmed : ∀ token ∈ tokens, IsTrimmed (spelling token))
    (enclosed : Enclosed isShown isShown shown tokens)
    (spaced : Spaced before tokens gaps) :
    ∃ others : List (List Char),
      others.length = tokens.length - 1 ∧ (∀ gap ∈ others, IsLayout gap) ∧
        Text.trimEnd (woven tokens gaps) = woven tokens others ∧ Spaced before tokens others := by
  induction tokens generalizing before gaps shown with
  | nil => exact ⟨[], rfl, by simp, rfl, trivial⟩
  | cons token rest ih =>
      rw [List.forall_mem_cons] at trimmed
      cases written : rest.any isShown with
      | true =>
          rcases ih (isLayout_tail areLayout) trimmed.2 enclosed.2 spaced.2 with
            ⟨others, length, areOthers, same, spacedOthers⟩
          rcases exists_visible trimmed.2 written gaps.tail with ⟨char, member, visible⟩
          refine ⟨gaps.headD [] :: others, ?_, ?_, ?_, spaced.1, spacedOthers⟩
          · cases rest with
            | nil => cases written
            | cons next later =>
                rw [List.length_cons, length]
                rfl
          · exact List.forall_mem_cons.mpr ⟨isLayout_headD areLayout, areOthers⟩
          · rw [woven, Text.trimEnd_append_of_mem member visible, same]
            rfl
      | false =>
          refine ⟨List.replicate rest.length [], by simp, ?_, ?_, spaced.1, ?_⟩
          · intro gap member
            rw [List.eq_of_mem_replicate member]
            exact isLayout_nil
          · have isLayout := (isLayout_headD areLayout).append
              (isLayout_woven written (isLayout_tail areLayout))
            have noGap : (List.replicate rest.length ([] : List Char)).headD [] = [] := by
              cases rest with
              | nil => rfl
              | cons next later => rfl
            rw [woven, List.append_assoc, Text.trimEnd_append_of_blank isLayout.isBlank,
              Text.trimEnd_eq_self trimmed.1.2, woven, noGap, List.tail_replicate,
              woven_of_hidden written, List.append_nil, List.append_nil]
          · exact spaced_of_hidden written enclosed.2

end Trimming

/-! ## Formulas -/

/--
The tokens of a formula are written one after the other, each as it is spelled
and with nothing but spaces and line breaks between them.  There is a space
where an intersection stands.  This holds of well formed formulas and of all
others, as long as no call has a name of array literals and no text that is
written as it is has blanks at its ends.
-/
theorem tokens_written_once
    {isStrict : Bool} {formula : List Char} {tokens : List Token}
    (found : Formula.tokens isStrict formula = .ok tokens)
    (avoids : Avoids arrayNames (Formula.normalize formula))
    (bare : ∀ token ∈ tokens, isBare token → IsTrimmed token.value)
    (width : Nat) :
    ∃ gaps : List (List Char),
      gaps.length = tokens.length - 1 ∧ (∀ gap ∈ gaps, IsLayout gap) ∧
        render (List.replicate width ' ') tokens = '=' :: woven tokens gaps ∧
        Spaced [] tokens gaps := by
  rcases exists_grouped found avoids (List.Subset.refl _) with ⟨_, grouped, -⟩
  have enclosed := enclosed_tokens found avoids
  have trimmed := grouped.isTrimmed (fun _ isCalled => isCalled) bare
  rcases grouped.spread (fun _ isCalled => isCalled) width .initial with
    ⟨first, gaps, isFirst, areLayout, written, spaced⟩
  rcases exists_trimStart isFirst areLayout trimmed enclosed spaced with
    ⟨behind, areBehind, start, spacedBehind⟩
  rcases exists_trimEnd areBehind trimmed enclosed spacedBehind with
    ⟨between, length, areBetween, ends, spacedBetween⟩
  refine ⟨between, length, areBetween, ?_, spacedBetween⟩
  rw [render_eq, written, Text.trim, start, ends]

theorem tokens_written_once_sampleFormula :
    Formula.tokens true sampleFormula = .ok (sampleBefore ++ separator ',' :: sampleBehind) ∧
      Avoids arrayNames (Formula.normalize sampleFormula) ∧
      (∀ token ∈ sampleBefore ++ separator ',' :: sampleBehind,
        isBare token → IsTrimmed token.value) ∧
      ∃ gaps : List (List Char),
        gaps.length = (sampleBefore ++ separator ',' :: sampleBehind).length - 1 ∧
          (∀ gap ∈ gaps, IsLayout gap) ∧
          render (List.replicate 2 ' ') (sampleBefore ++ separator ',' :: sampleBehind) =
            '=' :: woven (sampleBefore ++ separator ',' :: sampleBehind) gaps ∧
          Spaced [] (sampleBefore ++ separator ',' :: sampleBehind) gaps := by
  have checked : ((sampleBefore ++ separator ',' :: sampleBehind).all fun token =>
      !isBare token || decide (IsTrimmed token.value)) = true := by
    rfl
  have bare : ∀ token ∈ sampleBefore ++ separator ',' :: sampleBehind,
      isBare token → IsTrimmed token.value := by
    intro token member isBare
    simpa [isBare] using List.all_eq_true.mp checked token member
  exact ⟨tokens_sampleFormula, avoids_sampleFormula, bare,
    tokens_written_once tokens_sampleFormula avoids_sampleFormula bare 2⟩

end SheetFormula.Layout
