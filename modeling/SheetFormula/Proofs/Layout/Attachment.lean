import SheetFormula.Proofs.Layout.ArrayRows
import SheetFormula.Proofs.Layout.Intersections

/-!
# Operators that attach

A sign before a value, a concatenation and an intersection are directly followed
by the value behind them.  What counts is the last token, and this makes an
exception: the wrapper of an array literal stands between the operator and the
brace, so that the brace is indented as at the start of a line.

A concatenation writes no layout of its own.  Openers, separators and the other
operators before it have ended their line, and the line break stays.

Main statement: all other values stand directly behind such an operator, and all
other tokens directly before a concatenation.
-/

namespace SheetFormula.Layout

open RoundTrip

/-! ## Neighbours in array literals -/

/-- The tokens of each wrapper stand next to those of its row; `last` is the token before all. -/
def Wrapped : Option Token → List Token → Prop
  | _, [] => True
  | last, token :: rest =>
      (token = arrayStart → rest.head? = some arrayRowStart) ∧
        (token = arrayStop → last = some arrayRowStop) ∧ Wrapped (some token) rest

section Neighbours

variable {called : List Char → Prop} {nesting final : Nesting} {tokens : List Token}
  {last : Option Token} {token : Token}

theorem Wrapped.other
    {rest : List Token}
    (wrapped : Wrapped (some token) rest)
    (noWrapper : token.isArrayWrapper = false) :
    Wrapped last (token :: rest) := by
  refine ⟨?_, ?_, wrapped⟩
  · rintro rfl
    cases noWrapper
  · rintro rfl
    cases noWrapper

theorem IsPlain.noWrapper (isPlain : IsPlain token) : token.isArrayWrapper = false := by
  have noGroup := isPlain.noGroup
  rw [Token.isGroup, Bool.or_eq_false_iff] at noGroup
  rw [Token.isArrayWrapper, noGroup.1, Bool.false_and]

theorem Grouped.wrapped
    (grouped : Grouped IsPlain called nesting tokens final)
    (unreserved : ∀ name, called name → name ∉ arrayNames) :
    Wrapped last tokens := by
  induction grouped generalizing last with
  | nil => trivial
  | plain isPlain _ ih => exact ih.other isPlain.noWrapper
  | opens isParenthesis _ ih => exact ih.other (isParenthesis.noWrapper unreserved)
  | closes _ _ ih => exact ih.other (stopFor_noWrapper _)
  | brace _ ih =>
      refine ⟨fun _ => rfl, ?_, ih.other rfl⟩
      intro same
      cases same
  | closeBrace _ ih =>
      refine Wrapped.other ⟨?_, fun _ => rfl, ih⟩ rfl
      intro same
      cases same

theorem Wrapped.split
    {earlier later : List Token}
    (wrapped : Wrapped last (earlier ++ token :: later)) :
    (token = arrayStart → later.head? = some arrayRowStart) ∧
      (token = arrayStop → earlier.getLast?.or last = some arrayRowStop) := by
  induction earlier generalizing last with
  | nil => exact ⟨wrapped.1, wrapped.2.1⟩
  | cons first others ih =>
      rcases ih wrapped.2.2 with ⟨row, brace⟩
      refine ⟨row, ?_⟩
      intro same
      rw [List.getLast?_cons, Option.some_or, ← brace same]
      cases others.getLast? with
      | none => rfl
      | some final => rfl

end Neighbours

/-! ## Behind an operator -/

/-- What an operator that attaches is written as; an intersection is a space. -/
def operatorText (token : Token) : List Char :=
  if isIntersection token then [' '] else token.value

/-- The beginning of a value: the wrapper of an array literal is written as the brace in it. -/
def opening (token : Token) : List Char :=
  if token = arrayStart then ['{'] else spelling token

section Behind

variable {unit : List Char} {state : State} {token : Token} {following : Option Token}

/-- An operator that attaches ends with its own text. -/
theorem exists_operatorText
    (isPlain : IsPlain token)
    (isAttached : attaches token) :
    ∃ before, (step unit state token following).1 = before ++ operatorText token := by
  simp only [attaches, Bool.or_eq_true, Bool.and_eq_true, beq_iff_eq] at isAttached
  rcases isAttached with isPrefix | ⟨isInfix, concatenates | intersects⟩
  · have symbol : isSymbol token := by simp [isSymbol, isPrefix]
    rw [step_led _ _ _ isPlain.noMark (.inl isPrefix), spelling_eq_value (.inl symbol)]
    exact ⟨lead unit (entering state token), by simp [operatorText, isIntersection, isPrefix]⟩
  · have symbol : isSymbol token := by simp [isSymbol, isInfix, concatenates]
    rw [step_concatenation _ _ _ isInfix concatenates, spelling_eq_value (.inl symbol)]
    exact ⟨[], by simp [operatorText, isIntersection, concatenates]⟩
  · rw [step_intersection _ _ _ isInfix intersects]
    exact ⟨[], by simp [operatorText, isIntersection, isInfix, intersects]⟩

theorem lead_behind (attached : state.last.any attaches) : lead unit state = [] := by
  rw [lead, if_pos attached]

/-- An operand has nothing before it there. -/
theorem step_operand_behind
    (isPlain : IsPlain token)
    (isOperand : token.kind = .operand)
    (attached : state.last.any attaches) :
    (step unit state token following).1 = spelling token := by
  have noLead : operandLead unit state token = [] := by
    rw [operandLead, if_pos attached]
    split
    · rfl
    · exact lead_behind attached
  rw [step_operand _ _ _ isPlain.noMark isOperand, noLead, List.nil_append]

/-- Nor has an opener that is no wrapper. -/
theorem exists_opener_behind
    {called : List Char → Prop}
    (isOpening : IsOpening called token)
    (noWrapper : token.isArrayWrapper = false)
    (attached : state.last.any attaches) :
    ∃ behind, (step unit state token following).1 = spelling token ++ behind := by
  have noLead : lead unit (entering state token) = [] := lead_behind attached
  rw [step_start _ _ _ isOpening.isOpener noWrapper isOpening.row_isFunction, noLead]
  exact ⟨_, rfl⟩

/-- Behind the wrapper of an array literal a line starts, although nothing has been written. -/
theorem lead_row
    {nesting : Nesting}
    (leveled : Level state nesting (some arrayStart)) :
    lead unit (entering (step unit state arrayStart (some arrayRowStart)).2 arrayRowStart) =
      indentation unit (level nesting) := by
  have behind : Level (step unit state arrayStart (some arrayRowStart)).2 (arrayStart :: nesting)
      (some arrayRowStart) := Level.start leveled (.wrapper : IsOpening (fun _ => True) arrayStart)
  have depth : (entering (step unit state arrayStart (some arrayRowStart)).2 arrayRowStart).depth =
      level nesting := behind.depthAt_of_noStop rfl
  have breaks : breaksBehind state arrayStart (some arrayRowStart) = true := by
    simp [breaksBehind, opensEmpty, arrayStart, arrayRowStart, Token.closes, Token.isStop, attaches,
      wantsBreak]
  have atLineStart : (entering (step unit state arrayStart (some arrayRowStart)).2
      arrayRowStart).atLineStart = true := by
    show (breaksBehind state arrayStart (some arrayRowStart) || _) = true
    rw [breaks, Bool.true_or]
  have unattached : (entering (step unit state arrayStart (some arrayRowStart)).2
      arrayRowStart).last.any attaches = false := rfl
  rw [lead, unattached, if_neg Bool.false_ne_true, if_pos atLineStart, depth]

/-- So the brace of an array literal is indented, whatever stands before it. -/
theorem exists_brace
    {nesting : Nesting} {later : List Token}
    (leveled : Level state nesting (some arrayStart)) :
    ∃ behind,
      textBefore unit [] state (arrayStart :: arrayRowStart :: later) =
        indentation unit (level nesting) ++ ['{'] ++ behind := by
  have wrapper : (step unit state arrayStart (some arrayRowStart)).1 = [] :=
    step_wrapper _ _ _ rfl rfl (closesEmpty_of_noStop state rfl)
  rw [textBefore_cons, textBefore_cons, List.cons_append, List.head?_cons, wrapper, List.nil_append,
    step_start _ _ _ rfl rfl (fun _ => rfl), lead_row leveled, List.append_assoc]
  exact ⟨_, rfl⟩

/-- What stands between an operator that attaches and a value: only a brace is set off. -/
def gapBefore (unit : List Char) (nesting : Nesting) (value : Token) : List Char :=
  if value = arrayStart then indentation unit (level nesting) else []

/-- The value behind an operator that attaches, at any place of a path. -/
theorem Paired.exists_value
    {called : List Char → Prop} {nesting final : Nesting} {value : Token} {later : List Token}
    (paired : Paired called nesting (value :: later) final)
    (unreserved : ∀ name, called name → name ∉ arrayNames)
    (row : value = arrayStart → later.head? = some arrayRowStart)
    (leveled : Level state nesting (some value))
    (attached : state.last.any attaches)
    (starts : value.startsRange) :
    ∃ behind,
      textBefore unit [] state (value :: later) =
        gapBefore unit nesting value ++ opening value ++ behind := by
  by_cases isWrapper : value = arrayStart
  · subst isWrapper
    rcases List.head?_eq_some_iff.mp (row rfl) with ⟨others, rfl⟩
    exact exists_brace leveled
  · rw [gapBefore, opening, if_neg isWrapper, if_neg isWrapper, List.nil_append, textBefore_cons]
    cases paired with
    | plain isPlain =>
        have isOperand : value.kind = .operand := by
          simpa [Token.startsRange, isPlain.noGroup] using starts
        rw [step_operand_behind isPlain isOperand attached]
        exact ⟨_, rfl⟩
    | start isOpening =>
        have noWrapper : value.isArrayWrapper = false := by
          cases isOpening with
          | parenthesis isParenthesis => exact isParenthesis.noWrapper unreserved
          | wrapper => exact (isWrapper rfl).elim
          | row => rfl
        rcases exists_opener_behind isOpening noWrapper attached with ⟨behind, written⟩
        rw [written, List.append_assoc]
        exact ⟨_, rfl⟩
    | stop ends =>
        have isOperand : value.kind = .operand := by
          simpa [Token.startsRange, ends.noStart] using starts
        have isGroup := ends.isGroup
        simp [Token.isGroup, isOperand] at isGroup

end Behind

/-! ## Before a concatenation -/

/-- Whether a token is the concatenation operator. -/
def isConcatenation (token : Token) : Bool :=
  token.kind == .infixOp && token.subkind == some .concatenate

/-- The end of a token: the stop of a wrapper is written as the brace before it. -/
def ending (token : Token) : List Char :=
  if token = arrayStop then ['}'] else spelling token

/--
The line break that is left behind a token.  A separator keeps it unless it is a
comma and the flag of array rows is on.
-/
def lineEnd (flag : Bool) (token : Token) : List Char :=
  if token.isStart || (token.kind == .argument && !(flag && token.value == [','])) ||
      (token.kind == .infixOp && !attaches token)
  then ['\n'] else []

section Before

variable {unit : List Char} {state : State} {token concatenation : Token}

theorem isConcatenation_kind (concatenates : isConcatenation token) :
    token.kind = .infixOp ∧ token.subkind = some .concatenate := by
  simpa [isConcatenation] using concatenates

theorem lineEnd_of_silent
    {flag : Bool}
    (noStart : token.isStart = false)
    (noSeparator : token.kind ≠ .argument)
    (attached : token.kind = .infixOp → attaches token) :
    lineEnd flag token = [] := by
  rw [lineEnd, if_neg]
  simp [noStart, noSeparator]
  exact attached

/-- A token by itself ends with its spelling, and with a line break if it keeps one. -/
theorem exists_ending_plain
    (isPlain : IsPlain token)
    (uncrossed : isIntersection token = false)
    (concatenates : isConcatenation concatenation) :
    ∃ before,
      (step unit state token (some concatenation)).1 =
        before ++ spelling token ++ lineEnd (inArrayAt state token) token := by
  have noStart := isPlain.noStart
  have silent (other : token.kind ≠ .argument ∧ token.kind ≠ .infixOp) :
      lineEnd (inArrayAt state token) token = [] :=
    lineEnd_of_silent noStart other.1 fun isInfix => (other.2 isInfix).elim
  cases kind : token.kind with
  | operand =>
      rw [step_operand _ _ _ isPlain.noMark kind, silent (by simp [kind])]
      exact ⟨_, (List.append_nil _).symm⟩
  | prefixOp =>
      rw [step_led _ _ _ isPlain.noMark (.inl kind), silent (by simp [kind])]
      exact ⟨_, (List.append_nil _).symm⟩
  | unknown =>
      rw [step_led _ _ _ isPlain.noMark (.inr kind), silent (by simp [kind])]
      exact ⟨_, (List.append_nil _).symm⟩
  | postfixOp =>
      rw [step_postfixOp _ _ _ isPlain.noMark kind, silent (by simp [kind])]
      exact ⟨[], (List.append_nil _).symm⟩
  | argument =>
      have separates : lineEnd (inArrayAt state token) token =
          if inArrayAt state token && token.value == [','] then [] else ['\n'] := by
        rw [lineEnd, noStart, kind]
        cases inArrayAt state token && token.value == [','] with
        | true => rfl
        | false => rfl
      rcases step_separator unit state (some concatenation) isPlain kind with ⟨before, -, written⟩
      rw [separates]
      exact ⟨before, written⟩
  | infixOp =>
      by_cases attached : attaches token
      · have noIntersection : token.subkind ≠ some .intersect := by
          simpa [isIntersection, kind] using uncrossed
        have same : token.subkind = some .concatenate := by
          simpa [attaches, kind, noIntersection] using attached
        rw [step_concatenation _ _ _ kind same,
          lineEnd_of_silent noStart (by simp [kind]) fun _ => attached]
        exact ⟨[], (List.append_nil _).symm⟩
      · have joins : attaches token = false := by simpa using attached
        have breaks : (some concatenation).any wantsBreak = true := by
          simp [wantsBreak, (isConcatenation_kind concatenates).1]
        have ended : lineEnd (inArrayAt state token) token = ['\n'] := by
          simp [lineEnd, kind, joins]
        rw [step_joining _ _ _ isPlain kind joins, breaks, ended]
        exact ⟨_, rfl⟩
  | function | subexpression =>
      have noGroup := isPlain.noGroup
      simp [Token.isGroup, kind] at noGroup
  | unionOp | blank | noOp =>
      have written := isPlain.written
      simp [kind] at written

/-- So does an opener, which always keeps its line break here. -/
theorem exists_ending_start
    {called : List Char → Prop}
    (isOpening : IsOpening called token)
    (noWrapper : token.isArrayWrapper = false)
    (concatenates : isConcatenation concatenation) :
    ∃ before,
      (step unit state token (some concatenation)).1 =
        before ++ spelling token ++ lineEnd (inArrayAt state token) token := by
  have notEmpty : opensEmpty token (some concatenation) = false := by
    simp [opensEmpty, Token.closes, Token.isStop, (isConcatenation_kind concatenates).2]
  have ended : lineEnd (inArrayAt state token) token = ['\n'] := by
    simp [lineEnd, isOpening.isStart]
  rw [step_start _ _ _ isOpening.isOpener noWrapper isOpening.row_isFunction, notEmpty, ended]
  exact ⟨_, rfl⟩

/-- So does a stop, which keeps none. -/
theorem exists_ending_stop
    {called : List Char → Prop} {opener : Token} {following : Option Token}
    (ends : Ends called token opener)
    (noWrapper : token.isArrayWrapper = false) :
    ∃ before,
      (step unit state token following).1 =
        before ++ spelling token ++ lineEnd (inArrayAt state token) token := by
  have isGroup := ends.isGroup
  have silent : lineEnd (inArrayAt state token) token = [] := by
    apply lineEnd_of_silent ends.noStart
    · intro isSeparator
      simp [Token.isGroup, isSeparator] at isGroup
    · intro isInfix
      simp [Token.isGroup, isInfix] at isGroup
  rw [step_stop _ _ _ ends.isStop isGroup noWrapper ends.row_isFunction, silent]
  exact ⟨_, (List.append_nil _).symm⟩

/-- The stop of a wrapper leaves the brace of its row at the end of the text. -/
theorem exists_brace_before
    {earlier rest : List Token}
    (last : earlier.getLast? = some arrayRowStop) :
    ∃ before, textBefore unit rest .initial (earlier ++ [arrayStop]) = before ++ ['}'] := by
  have noOpener : closesEmpty (stateBefore unit (arrayStop :: rest) .initial earlier)
      arrayStop = false := by
    rw [closesEmpty, last_stateBefore, last]
    rfl
  rw [textBefore_concat, step_wrapper _ _ _ rfl (opensEmpty_of_noStart _ rfl) noOpener,
    List.append_nil]
  rcases List.getLast?_eq_some_iff.mp last with ⟨others, rfl⟩
  rw [textBefore_concat, step_stop _ _ _ rfl rfl rfl (fun _ => rfl), ← List.append_assoc]
  exact ⟨_, rfl⟩

/-- What stands before a concatenation, at any place of a path. -/
theorem Paired.exists_ending
    {called : List Char → Prop} {nesting final : Nesting} {last : Token}
    {earlier later : List Token}
    (paired : Paired called nesting (last :: concatenation :: later) final)
    (unreserved : ∀ name, called name → name ∉ arrayNames)
    (wrapped : Wrapped none (earlier ++ last :: concatenation :: later))
    (uncrossed : isIntersection last = false)
    (concatenates : isConcatenation concatenation) :
    ∃ before,
      textBefore unit (concatenation :: later) .initial (earlier ++ [last]) =
        before ++ ending last ++
          lineEnd (flagAt unit earlier last (concatenation :: later)) last := by
  have isInfix := (isConcatenation_kind concatenates).1
  -- All but the stops of wrappers are written by the step at their place.
  have here (noWrapper : last.isArrayWrapper = false)
      (written : ∃ before,
        (step unit (stateBefore unit (last :: concatenation :: later) .initial earlier) last
          (some concatenation)).1 =
            before ++ spelling last ++
              lineEnd (flagAt unit earlier last (concatenation :: later)) last) :
      ∃ before,
        textBefore unit (concatenation :: later) .initial (earlier ++ [last]) =
          before ++ ending last ++
            lineEnd (flagAt unit earlier last (concatenation :: later)) last := by
    have noStop : last ≠ arrayStop := by
      rintro rfl
      cases noWrapper
    rcases written with ⟨before, same⟩
    rw [textBefore_concat, List.head?_cons, same, ending, if_neg noStop, ← List.append_assoc,
      ← List.append_assoc]
    exact ⟨_, rfl⟩
  cases paired with
  | plain isPlain =>
      exact here isPlain.noWrapper (exists_ending_plain isPlain uncrossed concatenates)
  | start isOpening =>
      cases isOpening with
      | parenthesis isParenthesis =>
          have noWrapper := isParenthesis.noWrapper unreserved
          exact here noWrapper
            (exists_ending_start (.parenthesis isParenthesis) noWrapper concatenates)
      | wrapper =>
          cases wrapped.split.1 rfl
          cases isInfix
      | row =>
          exact here rfl
            (exists_ending_start (.row : IsOpening called arrayRowStart) rfl concatenates)
  | stop ends =>
      cases ends with
      | parenthesis isParenthesis =>
          exact here (stopFor_noWrapper _)
            (exists_ending_stop (.parenthesis isParenthesis) (stopFor_noWrapper _))
      | wrapper =>
          have brace := wrapped.split.2 rfl
          rw [Option.or_none] at brace
          rcases exists_brace_before brace with ⟨before, written⟩
          refine ⟨before, ?_⟩
          rw [written]
          exact (List.append_nil _).symm
      | row =>
          exact here rfl (exists_ending_stop (.row : Ends called arrayRowStop arrayRowStart) rfl)

end Before

/-! ## Formulas -/

/--
Behind an operator the value is written, with nothing between them but the
indentation that sets off a brace.
-/
def Attached
    (unit : List Char)
    (earlier : List Token)
    (operator value : Token)
    (later : List Token)
    (nesting : Nesting) : Prop :=
  ∃ before behind,
    textBefore unit (value :: later) .initial (earlier ++ [operator]) =
        before ++ operatorText operator ∧
      render unit (earlier ++ operator :: value :: later) =
        '=' :: Text.trim
          (before ++ operatorText operator ++ gapBefore unit nesting value ++ opening value ++
            behind)

/--
A concatenation is written behind the token before it, with nothing between them
but the line break that this token keeps.
-/
def Abutted
    (unit : List Char)
    (earlier : List Token)
    (last concatenation : Token)
    (later : List Token) : Prop :=
  ∃ before behind,
    textBefore unit (concatenation :: later) .initial (earlier ++ [last]) =
        before ++ ending last ++ lineEnd (flagAt unit earlier last (concatenation :: later)) last ∧
      render unit (earlier ++ last :: concatenation :: later) =
        '=' :: Text.trim
          (textBefore unit (concatenation :: later) .initial (earlier ++ [last]) ++
            concatenation.value ++ behind)

section Paths

variable {called : List Char → Prop} {final : Nesting} {earlier later : List Token}

/-- Operators that attach belong to no group. -/
theorem attaches_noGroup
    {operator : Token}
    (isAttached : attaches operator) :
    operator.isGroup = false := by
  simp only [attaches, Bool.or_eq_true, Bool.and_eq_true, beq_iff_eq] at isAttached
  rcases isAttached with kind | ⟨kind, -⟩ <;> simp [Token.isGroup, kind]

theorem Grouped.attached
    {operator value : Token}
    (grouped : Grouped IsPlain called [] (earlier ++ operator :: value :: later) final)
    (unreserved : ∀ name, called name → name ∉ arrayNames)
    (isAttached : attaches operator)
    (starts : value.startsRange)
    (unit : List Char) :
    ∃ nesting,
      Nesting.replay [] ((earlier ++ [operator]).map some) = some nesting ∧
        Attached unit earlier operator value later nesting := by
  have shape : earlier ++ operator :: value :: later =
      (earlier ++ [operator]) ++ value :: later := by
    rw [List.append_assoc, List.singleton_append]
  have isPlain : IsPlain operator := by
    rcases grouped.paired.split with ⟨_, -, behind⟩
    exact behind.isPlain (attaches_noGroup isAttached)
  rw [shape] at grouped
  rcases grouped.paired.split with ⟨nesting, before, behind⟩
  refine ⟨nesting, before.replay_eq, ?_⟩
  have attached : (stateBefore unit (value :: later) .initial
      (earlier ++ [operator])).last.any attaches := by
    rw [last_stateBefore, List.getLast?_concat]
    exact isAttached
  have wrapped : Wrapped none ((earlier ++ [operator]) ++ value :: later) :=
    grouped.wrapped unreserved
  have begins : ∃ rest,
      textBefore unit [] (stateBefore unit (value :: later) .initial (earlier ++ [operator]))
        (value :: later) = gapBefore unit nesting value ++ opening value ++ rest :=
    behind.exists_value unreserved wrapped.split.1
      (Level.run before unreserved (level_initial _)) attached starts
  have ends : ∃ first,
      textBefore unit (value :: later) .initial (earlier ++ [operator]) =
        first ++ operatorText operator := by
    rcases exists_operatorText isPlain isAttached with ⟨first, written⟩
    rw [textBefore_concat, written, ← List.append_assoc]
    exact ⟨_, rfl⟩
  rcases begins with ⟨rest, written⟩
  rcases ends with ⟨first, operatorWritten⟩
  refine ⟨first, rest, operatorWritten, ?_⟩
  rw [shape, render_eq, textBefore_append, List.append_nil, operatorWritten, written]
  simp only [List.append_assoc]

theorem render_concatenation
    {concatenation : Token}
    (concatenates : isConcatenation concatenation)
    (unit : List Char) (earlier later : List Token) :
    ∃ behind,
      render unit (earlier ++ concatenation :: later) =
        '=' :: Text.trim
          (textBefore unit (concatenation :: later) .initial earlier ++ concatenation.value ++
            behind) := by
  rcases isConcatenation_kind concatenates with ⟨isInfix, same⟩
  have symbol : isSymbol concatenation := by simp [isSymbol, isInfix, same]
  rw [render_append, step_concatenation _ _ _ isInfix same, spelling_eq_value (.inl symbol),
    ← List.append_assoc]
  exact ⟨_, rfl⟩

theorem Grouped.abutted
    {last concatenation : Token}
    (grouped : Grouped IsPlain called [] (earlier ++ last :: concatenation :: later) final)
    (unreserved : ∀ name, called name → name ∉ arrayNames)
    (uncrossed : isIntersection last = false)
    (concatenates : isConcatenation concatenation)
    (unit : List Char) :
    Abutted unit earlier last concatenation later := by
  rcases grouped.paired.split with ⟨_, -, behind⟩
  rcases behind.exists_ending unreserved (grouped.wrapped unreserved) uncrossed concatenates with
    ⟨before, before_eq⟩
  rcases render_concatenation concatenates unit (earlier ++ [last]) later with ⟨rest, written⟩
  rw [List.append_assoc, List.singleton_append] at written
  exact ⟨before, rest, before_eq, written⟩

/-- No intersection stands directly before a concatenation. -/
theorem Joined.uncrossed
    {last concatenation : Token}
    (joined : Joined (earlier ++ last :: concatenation :: later))
    (concatenates : isConcatenation concatenation) :
    isIntersection last = false := by
  rcases isConcatenation_kind concatenates with ⟨isInfix, same⟩
  rw [← Bool.not_eq_true]
  intro intersects
  have next := joined.split intersects
  rw [(noRange_of_operator (.inl isInfix)).2, Bool.or_false] at next
  simp [isIntersection, same] at next

end Paths

/--
In a formula without calls by the names of array literals, values stand directly
behind signs, concatenations and intersections.  Only the brace of an array
literal is set off, by the indentation of its nesting.  A concatenation stands
directly behind the token before it, which is no intersection.  Only openers,
separators and the other operators are followed by a line break.
-/
theorem operators_attach
    {isStrict : Bool} {formula : List Char} {tokens : List Token}
    (found : Formula.tokens isStrict formula = .ok tokens)
    (avoids : Avoids arrayNames (Formula.normalize formula))
    (unit : List Char) :
    (∀ earlier operator value later, tokens = earlier ++ operator :: value :: later →
      attaches operator → value.startsRange →
        ∃ nesting,
          Nesting.replay [] ((earlier ++ [operator]).map some) = some nesting ∧
            Attached unit earlier operator value later nesting) ∧
      (∀ earlier last concatenation later, tokens = earlier ++ last :: concatenation :: later →
        isConcatenation concatenation →
          isIntersection last = false ∧ Abutted unit earlier last concatenation later) ∧
      ∀ concatenation later, tokens = concatenation :: later → isConcatenation concatenation →
        ∃ behind, render unit tokens = '=' :: Text.trim (concatenation.value ++ behind) := by
  rcases exists_grouped found avoids (List.Subset.refl _) with ⟨final, grouped, -⟩
  have unreserved : ∀ name, name ∉ arrayNames → name ∉ arrayNames := fun _ isCalled => isCalled
  refine ⟨?_, ?_, ?_⟩
  · rintro earlier operator value later rfl isAttached starts
    exact grouped.attached unreserved isAttached starts unit
  · rintro earlier last concatenation later rfl concatenates
    have uncrossed := (joined_tokens found avoids).uncrossed concatenates
    exact ⟨uncrossed, grouped.abutted unreserved uncrossed concatenates unit⟩
  · rintro concatenation later rfl concatenates
    exact render_concatenation concatenates unit [] later

theorem operators_attach_sampleFormula :
    Formula.tokens true sampleFormula = .ok (sampleBefore ++ separator ',' :: sampleBehind) ∧
      Avoids arrayNames (Formula.normalize sampleFormula) ∧
      (∀ earlier operator value later,
        sampleBefore ++ separator ',' :: sampleBehind = earlier ++ operator :: value :: later →
          attaches operator → value.startsRange →
            ∃ nesting,
              Nesting.replay [] ((earlier ++ [operator]).map some) = some nesting ∧
                Attached defaultUnit earlier operator value later nesting) ∧
      (∀ earlier last concatenation later,
        sampleBefore ++ separator ',' :: sampleBehind = earlier ++ last :: concatenation :: later →
          isConcatenation concatenation →
            isIntersection last = false ∧ Abutted defaultUnit earlier last concatenation later) ∧
      ∀ concatenation later,
        sampleBefore ++ separator ',' :: sampleBehind = concatenation :: later →
          isConcatenation concatenation →
            ∃ behind,
              render defaultUnit (sampleBefore ++ separator ',' :: sampleBehind) =
                '=' :: Text.trim (concatenation.value ++ behind) :=
  ⟨tokens_sampleFormula, avoids_sampleFormula,
    operators_attach tokens_sampleFormula avoids_sampleFormula defaultUnit⟩

/-- The tokens of an array literal behind its wrapper, and the end of the call around it. -/
def signedRow : List Token :=
  [arrayRowStart, ⟨.operand, ['1'], some .number⟩, arrayRowStop, arrayStop, functionStop]

/-- A concatenation without a value before it, which begins a call. -/
def leadingConcatenation : List Token :=
  [⟨.infixOp, ['&'], some .concatenate⟩, ⟨.operand, ['A', '1'], some .range⟩, functionStop]

/--
In a group the brace of an array literal does not stand directly behind a sign,
and a line break can stand before a concatenation.
-/
theorem not_operators_attach :
    (¬ ∀ (formula : List Char) (earlier later : List Token) (operator value : Token)
        (unit : List Char),
        Formula.tokens true formula = .ok (earlier ++ operator :: value :: later) →
          Avoids arrayNames (Formula.normalize formula) → attaches operator → value.startsRange →
          ∃ before behind,
            textBefore unit (value :: later) .initial (earlier ++ [operator]) =
                before ++ operatorText operator ∧
              render unit (earlier ++ operator :: value :: later) =
                '=' :: Text.trim (before ++ operatorText operator ++ opening value ++ behind)) ∧
      ¬ ∀ (formula : List Char) (earlier later : List Token) (concatenation : Token)
        (unit : List Char),
        Formula.tokens true formula = .ok (earlier ++ concatenation :: later) →
          Avoids arrayNames (Formula.normalize formula) → isConcatenation concatenation →
          (textBefore unit (concatenation :: later) .initial earlier).getLast?.any
            Text.isBlank = false := by
  let call := [functionStart ['S', 'U', 'M']]
  constructor
  · intro attached
    have checked : (Formula.tokens true "=SUM(-\x7b1\x7d)".toList).toOption =
          some (call ++ minus :: arrayStart :: signedRow) ∧
        Avoids arrayNames (Formula.normalize "=SUM(-\x7b1\x7d)".toList) := by
      decide +kernel
    rcases attached _ call _ _ _ defaultUnit (eq_ok_of_toOption checked.1) checked.2 rfl rfl with
      ⟨before, behind, ends, whole⟩
    have signed : textBefore defaultUnit (arrayStart :: signedRow) .initial (call ++ [minus]) =
        "SUM(\n    -".toList := by
      decide +kernel
    have trimmed : Text.trim ("SUM(\n    -".toList ++ ['{'] ++ behind) =
        "SUM(\n    -".toList ++ '{' :: Text.trimEnd behind := by
      rw [List.append_assoc]
      apply (Text.trim_cons_of_visible rfl _).trans
      exact congrArg ('S' :: ·) (Text.trimEnd_append_of_visible rfl "UM(\n    -".toList behind)
    have brace : (render defaultUnit (call ++ minus :: arrayStart :: signedRow))[11]? =
        some '{' := by
      rw [whole, ← ends, signed]
      exact congrArg (fun text => ('=' :: text)[11]?) trimmed
    have space : (render defaultUnit (call ++ minus :: arrayStart :: signedRow))[11]? =
        some ' ' := by
      decide +kernel
    rw [brace] at space
    cases space
  · intro abutted
    have checked : (Formula.tokens true "=SUM(&A1)".toList).toOption =
          some (call ++ leadingConcatenation) ∧
        Avoids arrayNames (Formula.normalize "=SUM(&A1)".toList) := by
      decide +kernel
    have visible := abutted _ call _ _ defaultUnit (eq_ok_of_toOption checked.1) checked.2 rfl
    cases visible

end SheetFormula.Layout
