import SheetFormula.Proofs.Layout.Groups

/-!
# Places of a layout

The layout of a list of tokens can be interrupted before each of them.
`stateBefore` and `textBefore` are the state and the text at such a place; they
depend on the tokens behind it only through the first of them.

`spelling` is the text of a token without the layout around it.  For every sort
of token there is an equation for what a step writes: the spelling, with what
separates it from the token before, and with the line break behind it.
-/

namespace SheetFormula.Layout

open RoundTrip

/-! ## Places -/

/-- The state behind some tokens, with others to come. -/
def stateBefore
    (unit : List Char)
    (rest : List Token)
    (state : State) :
    List Token → State
  | [] => state
  | token :: others =>
      stateBefore unit rest (step unit state token (others ++ rest).head?).2 others

/-- The text of some tokens, with others to come. -/
def textBefore
    (unit : List Char)
    (rest : List Token)
    (state : State) :
    List Token → List Char
  | [] => []
  | token :: others =>
      (step unit state token (others ++ rest).head?).1 ++
        textBefore unit rest (step unit state token (others ++ rest).head?).2 others

section Places

variable (unit : List Char) (rest : List Token) (state : State)

theorem stateBefore_cons (token : Token) (others : List Token) :
    stateBefore unit rest state (token :: others) =
      stateBefore unit rest (step unit state token (others ++ rest).head?).2 others :=
  rfl

theorem textBefore_cons (token : Token) (others : List Token) :
    textBefore unit rest state (token :: others) =
      (step unit state token (others ++ rest).head?).1 ++
        textBefore unit rest (step unit state token (others ++ rest).head?).2 others :=
  rfl

theorem textBefore_append (first second : List Token) :
    textBefore unit rest state (first ++ second) =
      textBefore unit (second ++ rest) state first ++
        textBefore unit rest (stateBefore unit (second ++ rest) state first) second := by
  induction first generalizing state with
  | nil => rfl
  | cons token others ih => simp [textBefore_cons, stateBefore_cons, ih]

theorem textBefore_concat (earlier : List Token) (token : Token) :
    textBefore unit rest state (earlier ++ [token]) =
      textBefore unit (token :: rest) state earlier ++
        (step unit (stateBefore unit (token :: rest) state earlier) token rest.head?).1 := by
  rw [textBefore_append, textBefore_cons]
  exact congrArg _ (List.append_nil _)

theorem stateBefore_append (first second : List Token) :
    stateBefore unit rest state (first ++ second) =
      stateBefore unit rest (stateBefore unit (second ++ rest) state first) second := by
  induction first generalizing state with
  | nil => rfl
  | cons token others ih => simp [stateBefore_cons, ih]

theorem stateBefore_concat (earlier : List Token) (token : Token) :
    stateBefore unit rest state (earlier ++ [token]) =
      (step unit (stateBefore unit (token :: rest) state earlier) token rest.head?).2 :=
  stateBefore_append unit rest state earlier [token]

/-- The last token of a place is the one before it. -/
theorem last_stateBefore (tokens : List Token) :
    (stateBefore unit rest state tokens).last = tokens.getLast?.or state.last := by
  induction tokens generalizing state with
  | nil => rfl
  | cons token others ih =>
      rw [stateBefore_cons, ih, List.getLast?_cons]
      cases others.getLast? with
      | none => rfl
      | some last => rfl

theorem flatten_run (tokens : List Token) :
    (run unit state tokens).1.flatten = textBefore unit [] state tokens := by
  induction tokens generalizing state with
  | nil => rfl
  | cons token others ih => rw [flatten_run_cons, ih, textBefore_cons, List.append_nil]

theorem run_state (tokens : List Token) :
    (run unit state tokens).2 = stateBefore unit [] state tokens := by
  induction tokens generalizing state with
  | nil => rfl
  | cons token others ih =>
      rw [stateBefore_cons, ← ih, List.append_nil]
      rfl

/-- The piece of a token is what the step at its place writes. -/
theorem run_getElem? (earlier later : List Token) (token : Token) :
    (run unit state (earlier ++ token :: later)).1[earlier.length]? =
      some (step unit (stateBefore unit (token :: later) state earlier) token later.head?).1 := by
  induction earlier generalizing state with
  | nil => rfl
  | cons first others ih => exact ih _

end Places

/-- A layout is the text of all tokens, trimmed. -/
theorem render_eq (unit : List Char) (tokens : List Token) :
    render unit tokens = '=' :: Text.trim (textBefore unit [] .initial tokens) := by
  rw [render, pieces, flatten_run]

/-- A layout at a token: the text before it, what the token writes, and the text behind. -/
theorem render_append (unit : List Char) (earlier : List Token) (token : Token)
    (later : List Token) :
    render unit (earlier ++ token :: later) =
      '=' :: Text.trim
        (textBefore unit (token :: later) .initial earlier ++
          ((step unit (stateBefore unit (token :: later) .initial earlier) token later.head?).1 ++
            textBefore unit []
              (step unit (stateBefore unit (token :: later) .initial earlier) token
                later.head?).2 later)) := by
  rw [render_eq, textBefore_append, List.append_nil, textBefore_cons, List.append_nil]

/-- The state at the end of a layout. -/
theorem finalState_eq (unit : List Char) (tokens : List Token) :
    finalState unit tokens = stateBefore unit [] .initial tokens := by
  rw [finalState, run_state]

/-! ## Spellings -/

/-- How a token is written, without the layout around it. -/
def spelling (token : Token) : List Char :=
  match token.kind with
  | .operand =>
      match token.subkind with
      | some .text => '"' :: Text.doubled '"' token.value ++ ['"']
      | some .error => token.value
      | _ => quoteSheetName token.value
  | .infixOp => if token.subkind = some .intersect then [] else token.value
  | .prefixOp | .postfixOp | .argument | .unknown => token.value
  | .function | .subexpression =>
      if token.isArrayWrapper then []
      else if token.isStart then
        if token.isArrayRow then ['{'] else Text.without ' ' token.value ++ ['(']
      else if token.isArrayRowStop then ['}'] else [')']
  | .unionOp | .blank | .noOp => []

/-- Signs, separators and texts of unknown kind are written as they are. -/
theorem spelling_eq_value
    {token : Token}
    (isText : isSymbol token ∨ token.kind = .unknown) :
    spelling token = token.value := by
  rcases token with ⟨kind, value, subkind⟩
  cases kind with
  | infixOp =>
      have uncrossed : subkind ≠ some .intersect := by simpa [isSymbol] using isText
      exact if_neg uncrossed
  | prefixOp | postfixOp | argument | unknown => rfl
  | _ => simp [isSymbol] at isText

theorem spelling_of_intersection
    {token : Token}
    (intersects : isIntersection token) :
    spelling token = [] := by
  rcases token with ⟨kind, value, subkind⟩
  simp only [isIntersection, Bool.and_eq_true, beq_iff_eq] at intersects
  rcases intersects with ⟨rfl, rfl⟩
  rfl

/-- Texts are quoted, error values are written as they are, and others have their sheet quoted. -/
theorem spelling_of_operand
    {token : Token}
    (isOperand : token.kind = .operand) :
    token.subkind = some .text ∧
        spelling token = '"' :: Text.doubled '"' token.value ++ ['"'] ∨
      token.subkind = some .error ∧ spelling token = token.value ∨
      token.subkind ≠ some .text ∧ token.subkind ≠ some .error ∧
        spelling token = quoteSheetName token.value := by
  rcases token with ⟨kind, value, subkind⟩
  obtain rfl : kind = .operand := isOperand
  cases subkind with
  | none => exact .inr (.inr ⟨by simp, by simp, rfl⟩)
  | some subkind =>
      cases subkind with
      | text => exact .inl ⟨rfl, rfl⟩
      | error => exact .inr (.inl ⟨rfl, rfl⟩)
      | _ => exact .inr (.inr ⟨by simp, by simp, rfl⟩)

/-- The wrapper of an array literal has no text. -/
theorem spelling_of_wrapper
    {token : Token}
    (isWrapper : token.isArrayWrapper) :
    spelling token = [] := by
  have isFunction : token.kind = .function := by
    simp only [Token.isArrayWrapper, Bool.and_eq_true, beq_iff_eq] at isWrapper
    exact isWrapper.1
  simp [spelling, isFunction, isWrapper]

/-! ## What a step writes -/

/-- The state in which a token is written. -/
def entering (state : State) (token : Token) : State :=
  { state with depth := depthAt state token, inArray := inArrayAt state token }

/-- Whether the token behind an opener is its stop. -/
def opensEmpty (token : Token) (following : Option Token) : Bool :=
  following.any fun next => next.closes token

/-- Whether the token before a stop is its opener. -/
def closesEmpty (state : State) (token : Token) : Bool :=
  state.last.any token.closes

/-- Whether a line ends behind a token that can end one. -/
def breaksBehind (state : State) (token : Token) (following : Option Token) : Bool :=
  !(opensEmpty token following || (inArrayAt state token && token.kind == .argument) ||
      attaches token) &&
    following.any wantsBreak

section Texts

variable (unit : List Char) (state : State) {token : Token} (following : Option Token)

theorem step_text_eq :
    (step unit state token following).1 =
      if opensEmpty token following then emptyOpener unit (entering state token) token
      else if closesEmpty state token then [closer token]
      else piece unit (entering state token) token (breaksBehind state token following) :=
  rfl

theorem opensEmpty_of_noStart (noStart : token.isStart = false) :
    opensEmpty token following = false := by
  cases following with
  | none => rfl
  | some next => simp [opensEmpty, Token.closes, noStart]

theorem closesEmpty_of_noStop (noStop : token.isStop = false) :
    closesEmpty state token = false := by
  cases last : state.last with
  | none => simp [closesEmpty, last]
  | some opener => simp [closesEmpty, last, Token.closes, noStop]

/-- A token by itself is written as a piece. -/
theorem step_plain (noMark : token.isMark = false) :
    (step unit state token following).1 =
      piece unit (entering state token) token (breaksBehind state token following) := by
  simp only [Token.isMark, Bool.or_eq_false_iff] at noMark
  rw [step_text_eq, opensEmpty_of_noStart following noMark.1,
    closesEmpty_of_noStop state noMark.2, if_neg Bool.false_ne_true, if_neg Bool.false_ne_true]

/-- What stands before an operand: an error value takes a space where others are indented. -/
def operandLead (token : Token) : List Char :=
  if token.subkind = some .error then if state.last.any attaches then [] else [' ']
  else lead unit (entering state token)

theorem step_operand
    (noMark : token.isMark = false)
    (isOperand : token.kind = .operand) :
    (step unit state token following).1 =
      operandLead unit state token ++ spelling token := by
  have noArgument : (token.kind == .argument) = false := by simp [isOperand]
  rw [step_plain unit state following noMark, piece, noArgument, Bool.and_false,
    if_neg Bool.false_ne_true]
  simp only [isOperand, spelling, operandPiece, operandLead]
  cases token.subkind with
  | none => rfl
  | some subkind =>
      cases subkind with
      | text => exact List.append_assoc ..
      | _ => rfl

theorem spelling_of_opener
    (isOpener : token.isOpener)
    (noWrapper : token.isArrayWrapper = false) :
    spelling token = if token.isArrayRow then ['{'] else nameOf token ++ ['('] := by
  simp only [Token.isOpener, Token.isGroup, Bool.and_eq_true, Bool.or_eq_true,
    beq_iff_eq] at isOpener
  rcases isOpener with ⟨isStart, isFunction | isSubexpression⟩
  · simp [spelling, isFunction, noWrapper, isStart, nameOf]
  · simp [spelling, isSubexpression, noWrapper, isStart, nameOf]

/-- An opener stands behind its lead, and at the end of a line unless its stop follows. -/
theorem step_start
    (isOpener : token.isOpener)
    (noWrapper : token.isArrayWrapper = false)
    (isRow : token.value = arrayRowText → token.kind = .function) :
    (step unit state token following).1 =
      lead unit (entering state token) ++ spelling token ++
        (if opensEmpty token following then [] else ['\n']) := by
  have rowValue : token.isArrayRow = true ↔ token.value = arrayRowText := by
    simpa [Token.isArrayRow] using isRow
  rw [spelling_of_opener isOpener noWrapper, step_text_eq]
  simp only [Token.isOpener, Token.isGroup, Bool.and_eq_true, Bool.or_eq_true,
    beq_iff_eq] at isOpener
  rcases isOpener with ⟨isStart, isGroup⟩
  have noStop : token.isStop = false := by
    simp only [Token.isStart, beq_iff_eq] at isStart
    simp [Token.isStop, isStart]
  rw [closesEmpty_of_noStop state noStop, if_neg Bool.false_ne_true]
  split
  · rw [emptyOpener]
    split <;> simp
  · have isPiece : piece unit (entering state token) token (breaksBehind state token following) =
        groupPiece unit (entering state token) token := by
      rcases isGroup with kind | kind <;> simp [piece, kind]
    rw [isPiece, groupPiece, noWrapper, if_neg Bool.false_ne_true, if_pos isStart]
    simp only [rowValue]
    split <;> simp

theorem spelling_of_stop
    (isStop : token.isStop)
    (isGroup : token.isGroup)
    (noWrapper : token.isArrayWrapper = false)
    (isRow : token.value = arrayRowStopText → token.kind = .function) :
    spelling token = [closer token] := by
  have rowValue : token.isArrayRowStop = true ↔ token.value = arrayRowStopText := by
    simpa [Token.isArrayRowStop] using isRow
  have noStart : token.isStart = false := by
    simp only [Token.isStop, beq_iff_eq] at isStop
    simp [Token.isStart, isStop]
  simp only [Token.isGroup, Bool.or_eq_true, beq_iff_eq] at isGroup
  have written : spelling token = if token.isArrayRowStop then ['}'] else [')'] := by
    rcases isGroup with kind | kind <;> simp [spelling, kind, noWrapper, noStart]
  rw [written, closer]
  simp only [rowValue]
  split <;> rfl

/-- A stop stands on a line of its own, unless its opener is before it. -/
theorem step_stop
    (isStop : token.isStop)
    (isGroup : token.isGroup)
    (noWrapper : token.isArrayWrapper = false)
    (isRow : token.value = arrayRowStopText → token.kind = .function) :
    (step unit state token following).1 =
      (if closesEmpty state token then []
        else '\n' :: indentation unit (depthAt state token)) ++ spelling token := by
  have noStart : token.isStart = false := by
    simp only [Token.isStop, beq_iff_eq] at isStop
    simp [Token.isStart, isStop]
  rw [spelling_of_stop isStop isGroup noWrapper isRow, step_text_eq,
    opensEmpty_of_noStart following noStart, if_neg Bool.false_ne_true]
  split
  · rfl
  · have isPiece : piece unit (entering state token) token (breaksBehind state token following) =
        groupPiece unit (entering state token) token := by
      simp only [Token.isGroup, Bool.or_eq_true, beq_iff_eq] at isGroup
      rcases isGroup with kind | kind <;> simp [piece, kind]
    rw [isPiece, groupPiece, noWrapper, noStart, if_neg Bool.false_ne_true,
      if_neg Bool.false_ne_true, if_pos isStop]
    rfl

/-- The wrapper of an array literal is not written. -/
theorem step_wrapper
    (isWrapper : token.isArrayWrapper)
    (noOpener : opensEmpty token following = false)
    (noCloser : closesEmpty state token = false) :
    (step unit state token following).1 = [] :=
  (step_text unit state token following).wrapper_eq_nil isWrapper noOpener noCloser

/-- A sign before a value and a text of unknown kind stand behind their lead. -/
theorem step_led
    (noMark : token.isMark = false)
    (isLed : token.kind = .prefixOp ∨ token.kind = .unknown) :
    (step unit state token following).1 =
      lead unit (entering state token) ++ spelling token := by
  rw [step_plain unit state following noMark]
  rcases isLed with kind | kind
  · rw [spelling_eq_value (.inl (by simp [isSymbol, kind]))]
    simp [piece, kind]
  · rw [spelling_eq_value (.inr kind)]
    simp [piece, kind]

/-- A sign behind a value stands directly behind it. -/
theorem step_postfixOp
    (noMark : token.isMark = false)
    (isPostfix : token.kind = .postfixOp) :
    (step unit state token following).1 = spelling token := by
  rw [step_plain unit state following noMark,
    spelling_eq_value (.inl (by simp [isSymbol, isPostfix]))]
  simp [piece, isPostfix]

theorem step_concatenation
    (isInfix : token.kind = .infixOp)
    (concatenates : token.subkind = some .concatenate) :
    (step unit state token following).1 = spelling token := by
  have noMark : token.isMark = false := by
    simp [Token.isMark, Token.isStart, Token.isStop, concatenates]
  rw [step_plain unit state following noMark,
    spelling_eq_value (.inl (by simp [isSymbol, isInfix, concatenates]))]
  simp [piece, infixPiece, isInfix, concatenates]

theorem step_intersection
    (isInfix : token.kind = .infixOp)
    (intersects : token.subkind = some .intersect) :
    (step unit state token following).1 = [' '] := by
  have noMark : token.isMark = false := by
    simp [Token.isMark, Token.isStart, Token.isStop, intersects]
  rw [step_plain unit state following noMark]
  simp [piece, infixPiece, isInfix, intersects]

/-- Every other operator takes a space before it and the line break asked for. -/
theorem step_joining
    (isPlain : IsPlain token)
    (isInfix : token.kind = .infixOp)
    (joins : attaches token = false) :
    (step unit state token following).1 =
      [' '] ++ spelling token ++ (if following.any wantsBreak then ['\n'] else []) := by
  have noAttachment : token.subkind ≠ some .concatenate ∧ token.subkind ≠ some .intersect := by
    simpa [attaches, isInfix] using joins
  have symbol : isSymbol token := by simp [isSymbol, isInfix, noAttachment]
  have visible : token.value.any Text.isBlank = false := isPlain.symbol symbol
  have name : nameOf token = token.value := by
    apply Text.without_of_notMem
    intro member
    rw [List.any_eq_false] at visible
    exact visible ' ' member (by decide)
  have breaks : breaksBehind state token following = following.any wantsBreak := by
    simp [breaksBehind, opensEmpty_of_noStart following isPlain.noStart, isInfix, joins]
  have isPiece : infixPiece token (following.any wantsBreak) =
      ' ' :: nameOf token ++ (if following.any wantsBreak then ['\n'] else []) := by
    rw [infixPiece]
    split
    · next concatenates => exact absurd concatenates noAttachment.1
    · next intersects => exact absurd intersects noAttachment.2
    · rfl
  rw [step_plain unit state following isPlain.noMark, breaks, spelling_eq_value (.inl symbol)]
  simp [piece, isInfix, isPiece, name]

/-- What stands before a separator: nothing in an array row and behind anything but another. -/
def separatorLead (token : Token) : List Char :=
  if inArrayAt state token || state.last.any fun last => last.kind != .argument then []
  else lead unit (entering state token)

/-- In an array row a comma stays on its line; every other separator ends one. -/
theorem step_separator_eq
    (isPlain : IsPlain token)
    (isSeparator : token.kind = .argument) :
    (step unit state token following).1 =
      separatorLead unit state token ++ spelling token ++
        (if inArrayAt state token && token.value == [','] then [] else ['\n']) := by
  rw [step_plain unit state following isPlain.noMark,
    spelling_eq_value (.inl (by simp [isSymbol, isSeparator])), separatorLead]
  cases inRow : inArrayAt state token with
  | true =>
      have inArray : (entering state token).inArray = true := inRow
      rcases isPlain.separator isSeparator with comma | semicolon
      · simp [piece, isSeparator, inArray, comma]
      · simp [piece, isSeparator, inArray, semicolon]
  | false =>
      have noArray : (entering state token).inArray = false := inRow
      have sameLast : (entering state token).last = state.last := rfl
      simp only [piece, isSeparator, noArray, Bool.false_and, Bool.false_or, Bool.false_eq_true,
        if_false, argumentPiece, sameLast]
      cases state.last.any fun last => last.kind != .argument with
      | true => rfl
      | false => rfl

theorem step_separator
    (isPlain : IsPlain token)
    (isSeparator : token.kind = .argument) :
    ∃ before,
      (before = [] ∨ before = lead unit (entering state token)) ∧
        (step unit state token following).1 =
          before ++ spelling token ++
            (if inArrayAt state token && token.value == [','] then [] else ['\n']) := by
  refine ⟨_, ?_, step_separator_eq unit state following isPlain isSeparator⟩
  unfold separatorLead
  split
  · exact .inl rfl
  · exact .inr rfl

end Texts

end SheetFormula.Layout
