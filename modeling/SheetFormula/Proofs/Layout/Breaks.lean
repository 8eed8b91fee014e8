import SheetFormula.Proofs.Layout.Expressions

/-!
# Line breaks of a layout

A line ends behind an opener, behind a separator and behind an operator that
asks for it, and a stop begins a line of its own.  So every token writes a text
with line breaks only at its ends (`Paired.lined`), and a line break of the whole
text is found at an end of what one of the tokens writes (`exists_writer`,
`break_cases`).

A value that stands at the start of a line is written behind the indentation of
its groups (`Paired.exists_indented`), and not with a space of its own.
-/

namespace SheetFormula.Layout

open Classification RoundTrip

/-! ## Line breaks of a step -/

/-- A line break, where there is one. -/
def breakIf (broken : Bool) : List Char :=
  if broken then ['\n'] else []

/-- Whether a token begins a line of its own: the stop of a group that is not empty. -/
def startsLine (state : State) (token : Token) : Bool :=
  token.isStop && !token.isArrayWrapper && !closesEmpty state token

/-- Whether a line ends behind a token. -/
def endsLine (state : State) (token : Token) (following : Option Token) : Bool :=
  (token.isStart && !token.isArrayWrapper && !opensEmpty token following) ||
    (token.kind == .argument && !(inArrayAt state token && token.value == [','])) ||
    (token.kind == .infixOp && !attaches token && following.any wantsBreak)

section Breaks

variable {width : Nat} {state : State} {token opener : Token} {following : Option Token}
  {called : List Char → Prop}

theorem isLine_nil : IsLine [] := by
  intro char member
  cases member

theorem isLine_quoteSheetName
    {value : List Char} (isLine : IsLine value) : IsLine (quoteSheetName value) := by
  rcases quoteSheetName_cases value with same | ⟨name, behind, rfl, quoted⟩
  · rwa [same]
  · rw [quoted]
    rcases List.forall_mem_append.mp isLine with ⟨before, after⟩
    have quote : IsLine ['\''] := by simp [IsLine]
    have inside : IsLine name := (List.forall_mem_cons.mp before).2
    exact (quote.append inside.doubled).append after

/-- The spelling of a token is on one line if its text is. -/
theorem isLine_spelling (isLine : IsLine token.value) : IsLine (spelling token) := by
  cases kind : token.kind with
  | operand =>
      rcases spelling_of_operand kind with ⟨-, written⟩ | ⟨-, written⟩ | ⟨-, -, written⟩
      · have quote : IsLine ['"'] := by simp [IsLine]
        rw [written]
        exact (quote.append isLine.doubled).append quote
      · rwa [written]
      · rw [written]
        exact isLine_quoteSheetName isLine
  | infixOp =>
      by_cases intersects : isIntersection token
      · rw [spelling_of_intersection intersects]
        exact isLine_nil
      · rwa [spelling_eq_value (.inl (by simpa [isSymbol, kind, isIntersection] using intersects))]
  | prefixOp | postfixOp | argument => rwa [spelling_eq_value (.inl (by simp [isSymbol, kind]))]
  | unknown => rwa [spelling_eq_value (.inr kind)]
  | function | subexpression =>
      have name : IsLine (Text.without ' ' token.value) :=
        fun char member => isLine char (List.mem_filter.mp member).1
      simp only [spelling, kind]
      split
      · exact isLine_nil
      · split
        · split
          · simp [IsLine]
          · exact name.append (by simp [IsLine])
        · split <;> simp [IsLine]
  | unionOp | blank | noOp =>
      simp only [spelling, kind]
      exact isLine_nil

theorem isLine_lead (width : Nat) (state : State) :
    IsLine (lead (List.replicate width ' ') state) := by
  rcases lead_spaces width state with ⟨gap, same⟩
  rw [same]
  exact isLine_gap gap

theorem isLine_operandLead (width : Nat) (state : State) (token : Token) :
    IsLine (operandLead (List.replicate width ' ') state token) := by
  unfold operandLead
  split
  · split
    · exact isLine_nil
    · simp [IsLine]
  · exact isLine_lead width _

/-- What a token writes, up to line breaks at its ends. -/
def Lined (width : Nat) (state : State) (token : Token) (following : Option Token) : Prop :=
  ∃ body,
    IsLine body ∧
      (step (List.replicate width ' ') state token following).1 =
        breakIf (startsLine state token) ++ body ++ breakIf (endsLine state token following)

theorem startsLine_of_noStop (noStop : token.isStop = false) : startsLine state token = false := by
  rw [startsLine, noStop, Bool.false_and, Bool.false_and]

theorem lined_of_body
    {body : List Char}
    (isLine : IsLine body)
    (noStart : startsLine state token = false)
    (written : (step (List.replicate width ' ') state token following).1 =
      body ++ breakIf (endsLine state token following)) :
    Lined width state token following := by
  refine ⟨body, isLine, ?_⟩
  rw [noStart]
  exact written

/-- A separator ends a line, but for a comma in an array row. -/
theorem IsPlain.lined_separator
    (isPlain : IsPlain token)
    (isLine : IsLine token.value)
    (isSeparator : token.kind = .argument) :
    Lined width state token following := by
  rcases step_separator (List.replicate width ' ') state following isPlain isSeparator with
    ⟨before, isLead, written⟩
  have isLineBefore : IsLine before := by
    rcases isLead with rfl | rfl
    · exact isLine_nil
    · exact isLine_lead width _
  have ends : endsLine state token following =
      !(inArrayAt state token && token.value == [',']) := by
    simp [endsLine, isPlain.noStart, isSeparator]
  apply lined_of_body (isLineBefore.append (isLine_spelling isLine))
    (startsLine_of_noStop isPlain.noStop)
  rw [written, ends]
  cases inArrayAt state token && token.value == [','] with
  | true => rfl
  | false => rfl

/-- An operator between values ends a line if it does not attach and what follows asks for it. -/
theorem IsPlain.lined_infixOp
    (isPlain : IsPlain token)
    (isLine : IsLine token.value)
    (isInfix : token.kind = .infixOp) :
    Lined width state token following := by
  have noBegin : startsLine state token = false := startsLine_of_noStop isPlain.noStop
  have space : IsLine [' '] := by simp [IsLine]
  have spelled := isLine_spelling isLine
  by_cases attached : attaches token
  · have bare : endsLine state token following = false := by
      simp [endsLine, isPlain.noStart, isInfix, attached]
    by_cases intersects : token.subkind = some .intersect
    · apply lined_of_body space noBegin
      rw [bare, step_intersection _ _ _ isInfix intersects]
      rfl
    · have concatenates : token.subkind = some .concatenate := by
        simpa [attaches, isInfix, intersects] using attached
      apply lined_of_body spelled noBegin
      rw [bare, step_concatenation _ _ _ isInfix concatenates]
      exact (List.append_nil _).symm
  · have joins : attaches token = false := by simpa using attached
    apply lined_of_body (space.append spelled) noBegin
    rw [step_joining _ _ _ isPlain isInfix joins]
    simp [endsLine, breakIf, isPlain.noStart, isInfix, joins]

/-- Of the tokens by themselves, separators and operators can end a line. -/
theorem IsPlain.lined
    (isPlain : IsPlain token)
    (isLine : IsLine token.value) :
    Lined width state token following := by
  have spelled := isLine_spelling isLine
  have silent {body : List Char} (other : token.kind ≠ .argument ∧ token.kind ≠ .infixOp)
      (isLineBody : IsLine body)
      (written : (step (List.replicate width ' ') state token following).1 = body) :
      Lined width state token following := by
    apply lined_of_body isLineBody (startsLine_of_noStop isPlain.noStop)
    rw [written]
    simp [endsLine, breakIf, isPlain.noStart, other]
  cases kind : token.kind with
  | operand =>
      exact silent (by simp [kind]) ((isLine_operandLead width state token).append spelled)
        (step_operand _ _ _ isPlain.noMark kind)
  | prefixOp =>
      exact silent (by simp [kind]) ((isLine_lead width _).append spelled)
        (step_led _ _ _ isPlain.noMark (.inl kind))
  | unknown =>
      exact silent (by simp [kind]) ((isLine_lead width _).append spelled)
        (step_led _ _ _ isPlain.noMark (.inr kind))
  | postfixOp =>
      exact silent (by simp [kind]) spelled (step_postfixOp _ _ _ isPlain.noMark kind)
  | argument => exact isPlain.lined_separator isLine kind
  | infixOp => exact isPlain.lined_infixOp isLine kind
  | function | subexpression =>
      have noGroup := isPlain.noGroup
      simp [Token.isGroup, kind] at noGroup
  | unionOp | blank | noOp =>
      have written := isPlain.written
      simp [kind] at written

/-- The parts of a group are neither separators nor operators. -/
theorem kind_of_isGroup (isGroup : token.isGroup) :
    (token.kind == .argument) = false ∧ (token.kind == .infixOp) = false := by
  cases kind : token.kind <;> simp_all [Token.isGroup]

theorem IsOpening.lined
    (isOpening : IsOpening called token)
    (noWrapper : token.isArrayWrapper = false)
    (isLine : IsLine token.value) :
    Lined width state token following := by
  have ends : endsLine state token following = !opensEmpty token following := by
    simp [endsLine, isOpening.isStart, noWrapper, kind_of_isGroup isOpening.isGroup]
  apply lined_of_body ((isLine_lead width (entering state token)).append (isLine_spelling isLine))
    (startsLine_of_noStop isOpening.noStop)
  rw [step_start _ _ _ isOpening.isOpener noWrapper isOpening.row_isFunction, ends]
  cases opensEmpty token following with
  | true => rfl
  | false => rfl

theorem Ends.lined
    (ends : Ends called token opener)
    (noWrapper : token.isArrayWrapper = false)
    (isLine : IsLine token.value) :
    Lined width state token following := by
  have bare : endsLine state token following = false := by
    simp [endsLine, ends.noStart, kind_of_isGroup ends.isGroup]
  have starts : startsLine state token = !closesEmpty state token := by
    simp [startsLine, ends.isStop, noWrapper]
  have spelled := isLine_spelling isLine
  rw [Lined, bare, starts, step_stop _ _ _ ends.isStop ends.isGroup noWrapper
    ends.row_isFunction]
  cases closesEmpty state token with
  | true => exact ⟨spelling token, spelled, (List.append_nil _).symm⟩
  | false =>
      have indented : IsLine (indentation (List.replicate width ' ') (depthAt state token)) := by
        rw [indentation_spaces]
        exact isLine_gap _
      exact ⟨_, indented.append spelled, (List.append_nil _).symm⟩

theorem lined_wrapper
    (isWrapper : token.isArrayWrapper)
    (noOpener : opensEmpty token following = false)
    (noCloser : closesEmpty state token = false) :
    Lined width state token following := by
  have isFunction : token.kind = .function := by
    simp only [Token.isArrayWrapper, Bool.and_eq_true, beq_iff_eq] at isWrapper
    exact isWrapper.1
  apply lined_of_body isLine_nil
  · simp [startsLine, isWrapper]
  · rw [step_wrapper _ _ _ isWrapper noOpener noCloser]
    simp [endsLine, breakIf, isWrapper, isFunction]

/-- Every token of a path writes a text with line breaks only at its ends. -/
theorem Paired.lined
    {nesting final : Nesting} {later : List Token}
    (paired : Paired called nesting (token :: later) final)
    (unreserved : ∀ name, called name → name ∉ arrayNames)
    (row : token = arrayStart → later.head? = some arrayRowStart)
    (brace : token = arrayStop → state.last = some arrayRowStop)
    (isLine : IsLine token.value) :
    Lined width state token later.head? := by
  cases paired with
  | plain isPlain => exact isPlain.lined isLine
  | start isOpening =>
      cases isOpening with
      | parenthesis isParenthesis =>
          exact (IsOpening.parenthesis isParenthesis).lined (isParenthesis.noWrapper unreserved)
            isLine
      | wrapper =>
          rw [row rfl]
          exact lined_wrapper rfl rfl (closesEmpty_of_noStop state rfl)
      | row => exact (IsOpening.row : IsOpening called arrayRowStart).lined rfl isLine
  | stop ends =>
      cases ends with
      | parenthesis isParenthesis =>
          exact (Ends.parenthesis isParenthesis).lined (stopFor_noWrapper _) isLine
      | wrapper =>
          refine lined_wrapper rfl (opensEmpty_of_noStart _ rfl) ?_
          rw [closesEmpty, brace rfl]
          rfl
      | row => exact (Ends.row : Ends called arrayRowStop arrayRowStart).lined rfl isLine

end Breaks

/-! ## Where a line break is found -/

/-- Every character of a text is written by one of the tokens. -/
theorem exists_writer
    {unit : List Char} {state : State} {tokens : List Token} {before behind : List Char}
    {char : Char}
    (written : textBefore unit [] state tokens = before ++ char :: behind) :
    ∃ earlier token later first second,
      tokens = earlier ++ token :: later ∧
        (step unit (stateBefore unit (token :: later) state earlier) token later.head?).1 =
          first ++ char :: second ∧
        before = textBefore unit (token :: later) state earlier ++ first ∧
        behind = second ++
          textBefore unit [] (stateBefore unit later state (earlier ++ [token])) later := by
  induction tokens generalizing state before with
  | nil => simp [textBefore] at written
  | cons token rest ih =>
      have further (more : List Char)
          (split : before = (step unit state token rest.head?).1 ++ more)
          (behindIt : textBefore unit [] (step unit state token rest.head?).2 rest =
            more ++ char :: behind) :
          ∃ earlier writer later first second,
            token :: rest = earlier ++ writer :: later ∧
              (step unit (stateBefore unit (writer :: later) state earlier) writer later.head?).1 =
                first ++ char :: second ∧
              before = textBefore unit (writer :: later) state earlier ++ first ∧
              behind = second ++
                textBefore unit [] (stateBefore unit later state (earlier ++ [writer])) later := by
        rcases ih behindIt with ⟨earlier, writer, others, first, second, rfl, text, rfl, rfl⟩
        refine ⟨token :: earlier, writer, others, first, second, rfl, text, ?_, ?_⟩
        · rw [split, textBefore_cons, List.append_assoc]
        · simp [stateBefore_cons]
      rw [textBefore_cons, List.append_nil] at written
      rcases List.append_eq_append_iff.mp written with ⟨more, split, behindIt⟩ | ⟨more, here, ends⟩
      · exact further more split behindIt
      · cases more with
        | nil => exact further [] (by simpa using here.symm) ends.symm
        | cons first second =>
            rcases List.cons.inj ends with ⟨rfl, rfl⟩
            exact ⟨[], token, rest, before, second, rfl, here, by simp [textBefore], rfl⟩

theorem break_of_behind
    {ends : Bool} {body first second : List Char}
    (isLine : IsLine body)
    (split : body ++ breakIf ends = first ++ '\n' :: second) :
    ends = true ∧ first = body ∧ second = [] := by
  rcases List.append_eq_append_iff.mp split with ⟨more, rfl, broken⟩ | ⟨more, rfl, broken⟩
  · cases ends with
    | false => simp [breakIf] at broken
    | true =>
        cases more with
        | nil => simpa [breakIf, eq_comm] using broken
        | cons char rest => simp [breakIf] at broken
  · cases more with
    | nil =>
        cases ends with
        | false => simp [breakIf] at broken
        | true => simpa [breakIf, eq_comm] using broken
    | cons char rest =>
        rcases List.cons.inj broken with ⟨rfl, -⟩
        have inLine := isLine '\n' (by simp)
        simp at inLine

/-- The line breaks of a token are at its ends. -/
theorem break_cases
    {starts ends : Bool} {body first second : List Char}
    (isLine : IsLine body)
    (split : breakIf starts ++ body ++ breakIf ends = first ++ '\n' :: second) :
    starts = true ∧ first = [] ∨ ends = true ∧ second = [] := by
  cases starts with
  | false =>
      have broken := break_of_behind isLine split
      exact .inr ⟨broken.1, broken.2.2⟩
  | true =>
      cases first with
      | nil => exact .inl ⟨rfl, rfl⟩
      | cons char rest =>
          have broken := break_of_behind isLine (List.cons.inj split).2
          exact .inr ⟨broken.1, broken.2.2⟩

/-! ## The first token of a line -/

section Beginnings

variable {unit : List Char} {state : State} {token : Token} {following : Option Token}
  {called : List Char → Prop} {nesting final : Nesting} {later : List Token}

/-- Behind a line break a line starts. -/
theorem atLineStart_of_break
    {body : List Char}
    (written : (step unit state token following).1 = body ++ ['\n']) :
    (step unit state token following).2.atLineStart = true := by
  have ended : (step unit state token following).1.getLast? = some '\n' := by
    rw [written, List.getLast?_concat]
  simp only [step] at ended ⊢
  rw [ended]
  exact Bool.or_true _

theorem lead_at_line_start
    (starts : state.atLineStart = true)
    (unattached : state.last.any attaches = false) :
    lead unit (entering state token) = indentation unit (depthAt state token) := by
  have free : (entering state token).last.any attaches = false := unattached
  rw [lead, free, if_neg Bool.false_ne_true]
  exact if_pos starts

/-- A value at the start of a line is indented to the depth of its groups. -/
theorem Paired.exists_indented
    (paired : Paired called nesting (token :: later) final)
    (unreserved : ∀ name, called name → name ∉ arrayNames)
    (row : token = arrayStart → later.head? = some arrayRowStart)
    (leveled : Level state nesting (some token))
    (starts : state.atLineStart = true)
    (unattached : state.last.any attaches = false)
    (isValue : startsValue token)
    (noError : token.kind = .operand → token.subkind ≠ some .error) :
    ∃ behind,
      textBefore unit [] state (token :: later) =
        indentation unit (level (around nesting token)) ++ opening token ++ behind := by
  have indented : lead unit (entering state token) =
      indentation unit (level (around nesting token)) := by
    rw [lead_at_line_start starts unattached, leveled.depthAt_eq paired unreserved]
  by_cases isWrapper : token = arrayStart
  · subst isWrapper
    rcases List.head?_eq_some_iff.mp (row rfl) with ⟨others, rfl⟩
    exact exists_brace leveled
  · rw [opening, if_neg isWrapper, ← indented, textBefore_cons]
    cases paired with
    | plain isPlain =>
        have kinds : token.kind = .operand ∨ token.kind = .prefixOp := by
          simpa [startsValue, isPlain.noStart] using isValue
        rcases kinds with isOperand | isSign
        · rw [step_operand _ _ _ isPlain.noMark isOperand, operandLead,
            if_neg (noError isOperand)]
          exact ⟨_, rfl⟩
        · rw [step_led _ _ _ isPlain.noMark (.inl isSign)]
          exact ⟨_, rfl⟩
    | start isOpening =>
        have noWrapper : token.isArrayWrapper = false := by
          cases isOpening with
          | parenthesis isParenthesis => exact isParenthesis.noWrapper unreserved
          | wrapper => exact (isWrapper rfl).elim
          | row => rfl
        rw [step_start _ _ _ isOpening.isOpener noWrapper isOpening.row_isFunction,
          List.append_assoc]
        exact ⟨_, rfl⟩
    | stop ends =>
        have isGroup := ends.isGroup
        cases kind : token.kind <;>
          simp_all [startsValue, Token.isGroup, ends.noStart]

end Beginnings

/-- The beginning of an operand is no space. -/
theorem begins_operand
    {token : Token}
    (isPlain : IsPlain token)
    (written : IsWritten token)
    (isOperand : token.kind = .operand)
    (noError : token.subkind ≠ some .error) :
    (spelling token).head?.any (· ≠ ' ') := by
  rcases spelling_of_operand isOperand with ⟨-, spelled⟩ | ⟨isError, -⟩ | ⟨noText, -, spelled⟩
  · rw [spelled]
    rfl
  · exact absurd isError noError
  · rcases isPlain.operand isOperand with isText | nonempty
    · exact absurd isText noText
    · rw [spelled]
      rcases quoteSheetName_cases token.value with same | ⟨name, behind, -, quoted⟩
      · have begins := written.begins isOperand noText noError
        rw [same]
        cases value : token.value with
        | nil => exact absurd value nonempty
        | cons char rest => simpa [value] using begins
      · rw [quoted]
        rfl

theorem begins_opener
    {token : Token}
    (isOpener : token.isOpener)
    (noWrapper : token.isArrayWrapper = false) :
    (spelling token).head?.any (· ≠ ' ') := by
  rw [spelling_of_opener isOpener noWrapper]
  split
  · rfl
  · cases name : nameOf token with
    | nil => rfl
    | cons char rest =>
        have member : char ∈ nameOf token := by simp [name]
        simpa using (List.mem_filter.mp member).2

end SheetFormula.Layout
