import SheetFormula.Proofs.Layout.Breaks

/-!
# Lines of a layout

The layout of an expression, cut at its line breaks.  What begins a line is a
value, a separator or a stop (`Arranged.begins_line`), and each of them knows its
column: a value and a stop are indented to the level of the groups around them,
and so is a separator behind another one.  A separator directly behind an opener
is not indented, nor is one in an array row.  Before the stop of a group whose
last argument is left out, a line has no token at all.

Main statement: `lines_indented`.
-/

namespace SheetFormula.Layout

open Classification RoundTrip

/-! ## Tokens in their places -/

/-- What the layout needs to know of all the tokens of a formula. -/
structure Arranged (tokens : List Token) : Prop where
  grouped : Grouped IsPlain IsFree [] tokens []
  fitting : Fitting none tokens
  known : ∀ token ∈ tokens, IsKnown token
  written : ∀ token ∈ tokens, IsWritten token
  noErrors : ∀ token ∈ tokens, token.kind = .operand → token.subkind ≠ some .error
  ends : tokens.getLast?.any endsValue

theorem unreserved_of_isFree : ∀ name, IsFree name → name ∉ arrayNames := by
  intro name isFree member
  exact isFree (List.mem_cons_of_mem _ member)

/-- A token among the others of a formula, and the groups that are open before it. -/
structure Place (earlier : List Token) (token : Token) (later : List Token) (nesting : Nesting) :
    Prop where
  before : Paired IsFree [] earlier nesting
  behind : Paired IsFree nesting (token :: later) []
  row : token = arrayStart → later.head? = some arrayRowStart
  brace : token = arrayStop → earlier.getLast? = some arrayRowStop

section Places

variable {unit : List Char} {earlier later : List Token} {token : Token} {nesting : Nesting}

theorem Arranged.exists_place (arranged : Arranged (earlier ++ token :: later)) :
    ∃ nesting, Place earlier token later nesting := by
  rcases arranged.grouped.paired.split with ⟨nesting, before, behind⟩
  have wrapped : Wrapped none (earlier ++ token :: later) :=
    arranged.grouped.wrapped unreserved_of_isFree
  rcases wrapped.split with ⟨row, brace⟩
  rw [Option.or_none] at brace
  exact ⟨nesting, before, behind, row, brace⟩

theorem Place.leveled (place : Place earlier token later nesting) :
    Level (stateBefore unit (token :: later) .initial earlier) nesting (some token) :=
  Level.run place.before unreserved_of_isFree (level_initial _)

theorem last_initial :
    (stateBefore unit later .initial earlier).last = earlier.getLast? := by
  rw [last_stateBefore]
  exact Option.or_none

theorem startsLine_eq_endsGroup :
    startsLine (stateBefore unit later .initial earlier) token = endsGroup earlier token := by
  rw [startsLine, endsGroup, closesEmpty, last_initial]

/-- What ends a line: an opener, a separator or an operator. -/
theorem Place.ender
    {state : State} {following : Option Token}
    (place : Place earlier token later nesting)
    (ends : endsLine state token following) :
    endsValue token = false ∧ attaches token = false ∧
      (IsOpening IsFree token ∧ opensEmpty token following = false ∨
        token.kind = .argument ∧ token.isStart = false ∨ isOperator token) := by
  simp only [endsLine, Bool.or_eq_true, Bool.and_eq_true, Bool.not_eq_true', beq_iff_eq] at ends
  cases place.behind with
  | plain isPlain =>
      rcases ends with (⟨⟨isStart, -⟩, -⟩ | ⟨isSeparator, -⟩) | ⟨⟨isInfix, joins⟩, -⟩
      · rw [isPlain.noStart] at isStart
        cases isStart
      · exact ⟨by simp [endsValue, isSeparator, isPlain.noStop], by simp [attaches, isSeparator],
          .inr (.inl ⟨isSeparator, isPlain.noStart⟩)⟩
      · exact ⟨endsValue_infixOp isInfix, joins, .inr (.inr (by simp [isOperator, isInfix]))⟩
  | start isOpening =>
      have isGroup := isOpening.isGroup
      have noStop := isOpening.noStop
      rcases ends with (⟨-, notEmpty⟩ | ⟨isSeparator, -⟩) | ⟨⟨isInfix, -⟩, -⟩
      · refine ⟨?_, ?_, .inl ⟨isOpening, notEmpty⟩⟩
        · cases kind : token.kind <;> simp_all [endsValue, Token.isGroup]
        · cases kind : token.kind <;> simp_all [attaches, Token.isGroup]
      · simp [Token.isGroup, isSeparator] at isGroup
      · simp [Token.isGroup, isInfix] at isGroup
  | stop isEnd =>
      have isGroup := isEnd.isGroup
      rcases ends with (⟨⟨isStart, -⟩, -⟩ | ⟨isSeparator, -⟩) | ⟨⟨isInfix, -⟩, -⟩
      · rw [isEnd.noStart] at isStart
        cases isStart
      · simp [Token.isGroup, isSeparator] at isGroup
      · simp [Token.isGroup, isInfix] at isGroup

/-- A stop does not begin a line directly behind an opener, for it ends the group of the opener. -/
theorem Place.opensEmpty_of_stop
    {next : Token}
    (place : Place earlier token (next :: later) nesting)
    (isOpening : IsOpening IsFree token)
    (isStop : next.isStop) :
    opensEmpty token (some next) = true := by
  cases place.behind with
  | plain isPlain =>
      have noStart := isPlain.noStart
      rw [isOpening.isStart] at noStart
      cases noStart
  | start _ behind =>
      rcases behind.exists_opener isStop with ⟨opener, outer, same, ends⟩
      cases same
      exact ends.closes
  | stop isEnd =>
      have noStart := isEnd.noStart
      rw [isOpening.isStart] at noStart
      cases noStart

end Places

/-! ## Lines -/

/--
Separators that are not indented where they begin a line: the first of a group,
and all of them while the last brace has opened an array row.
-/
def Unindented (earlier : List Token) (token : Token) : Prop :=
  token.kind = .argument ∧ (earlier.getLast?.any Token.isStart ∨ EndsInRow earlier)

/--
A line of a layout, given the text up to and with the line break before it and the
text behind the break.  It begins with a token behind its indentation, which
exempt tokens do not have, or it is empty because the last argument of a group is
left out.
-/
inductive Line (exempt : List Token → Token → Prop) (width : Nat) :
    List Token → List Char → List Char → Prop where
  | token {earlier later : List Token} {token : Token} {nesting : Nesting} {spaces : Nat}
      {rest : List Char}
      (groups : Nesting.replay [] (earlier.map some) = some nesting)
      (unindented : exempt earlier token → spaces = 0)
      (indented : ¬ exempt earlier token → spaces = width * level (around nesting token))
      (begins : (opening token).head?.any (· ≠ ' ')) :
      Line exempt width (earlier ++ token :: later)
        (textBefore (List.replicate width ' ') (token :: later) .initial earlier ++
          breakIf (endsGroup earlier token))
        (List.replicate spaces ' ' ++ opening token ++ rest)
  | empty {earlier later : List Token} {omitted stop : Token} {rest : List Char}
      (isSeparator : omitted.kind = .argument)
      (isStop : stop.isStop) :
      Line exempt width (earlier ++ omitted :: stop :: later)
        (textBefore (List.replicate width ' ') (stop :: later) .initial (earlier ++ [omitted]))
        ('\n' :: rest)

/-- A line begins between some tokens and others. -/
def BeginsLine (width : Nat) (earlier later : List Token) : Prop :=
  Line Unindented width (earlier ++ later)
    (textBefore (List.replicate width ' ') later .initial earlier)
    (textBefore (List.replicate width ' ') []
      (stateBefore (List.replicate width ' ') later .initial earlier) later)

/-- A line has ended behind some tokens, and nothing of the next one is written. -/
structure Fresh (unit : List Char) (earlier later : List Token) : Prop where
  starts : (stateBefore unit later .initial earlier).atLineStart = true
  unattached : (stateBefore unit later .initial earlier).last.any attaches = false

section Lines

variable {unit : List Char} {width : Nat} {earlier later : List Token} {token next : Token}
  {nesting : Nesting} {state : State}

/-- What is known of a value by its place. -/
theorem Place.value
    (place : Place earlier token later nesting)
    (written : IsWritten token)
    (noError : token.kind = .operand → token.subkind ≠ some .error)
    (sign : token.kind = .prefixOp → token = minus)
    (isValue : startsValue token) :
    token.isStop = false ∧ token.kind ≠ .argument ∧ (opening token).head?.any (· ≠ ' ') := by
  cases place.behind with
  | plain isPlain =>
      have kinds : token.kind = .operand ∨ token.kind = .prefixOp := by
        simpa [startsValue, isPlain.noStart] using isValue
      have noWrapper : token ≠ arrayStart := by
        rintro rfl
        cases isPlain.noGroup
      refine ⟨isPlain.noStop, ?_, ?_⟩
      · rcases kinds with kind | kind <;> simp [kind]
      · rcases kinds with isOperand | isSign
        · rw [opening, if_neg noWrapper]
          exact begins_operand isPlain written isOperand (noError isOperand)
        · rw [sign isSign]
          rfl
  | start isOpening =>
      have noSeparator : token.kind ≠ .argument := by
        simpa using (kind_of_isGroup isOpening.isGroup).1
      refine ⟨isOpening.noStop, noSeparator, ?_⟩
      rw [opening]
      split
      · rfl
      · next noWrapper =>
          apply begins_opener isOpening.isOpener
          cases isOpening with
          | parenthesis isParenthesis => exact isParenthesis.noWrapper unreserved_of_isFree
          | wrapper => exact (noWrapper rfl).elim
          | row => rfl
  | stop ends =>
      have isGroup := ends.isGroup
      cases kind : token.kind <;> simp_all [startsValue, Token.isGroup, ends.noStart]

theorem Place.begins_line
    {spaces : Nat} {rest : List Char}
    (place : Place earlier token later nesting)
    (noStop : token.isStop = false)
    (begins : (opening token).head?.any (· ≠ ' '))
    (unindented : Unindented earlier token → spaces = 0)
    (indented : ¬ Unindented earlier token → spaces = width * level (around nesting token))
    (text : textBefore (List.replicate width ' ') []
        (stateBefore (List.replicate width ' ') (token :: later) .initial earlier)
        (token :: later) = List.replicate spaces ' ' ++ opening token ++ rest) :
    BeginsLine width earlier (token :: later) := by
  have unbroken : breakIf (endsGroup earlier token) = [] := by
    rw [endsGroup, noStop]
    rfl
  rw [BeginsLine, text, ← List.append_nil (textBefore _ (token :: later) .initial earlier),
    ← unbroken]
  exact .token place.before.replay_eq unindented indented begins

/-- A line that begins with a value. -/
theorem Place.line_value
    (place : Place earlier token later nesting)
    (fresh : Fresh (List.replicate width ' ') earlier (token :: later))
    (written : IsWritten token)
    (noError : token.kind = .operand → token.subkind ≠ some .error)
    (sign : token.kind = .prefixOp → token = minus)
    (isValue : startsValue token) :
    BeginsLine width earlier (token :: later) := by
  rcases place.behind.exists_indented unreserved_of_isFree place.row place.leveled fresh.starts
    fresh.unattached isValue noError with ⟨rest, text⟩
  rw [indentation_spaces, Nat.mul_comm] at text
  rcases place.value written noError sign isValue with ⟨noStop, noSeparator, begins⟩
  refine place.begins_line noStop begins ?_ (fun _ => rfl) text
  rintro ⟨isSeparator, -⟩
  exact absurd isSeparator noSeparator

/-- The flag of array rows is on at a separator if the last brace has opened a row. -/
theorem Place.inArray_iff
    (place : Place earlier token later nesting)
    (unit : List Char)
    (isPlain : IsPlain token) :
    inArrayAt (stateBefore unit (token :: later) .initial earlier) token = true ↔
      EndsInRow earlier := by
  rw [inArrayAt_plain isPlain, place.before.inArray_iff fun _ isFree => isFree]
  simp [State.initial]

/-- A line that begins with a separator, behind an opener or another separator. -/
theorem Place.line_separator
    (place : Place earlier token later nesting)
    (fresh : Fresh (List.replicate width ' ') earlier (token :: later))
    (isSeparator : token.kind = .argument)
    (parted : (earlier.getLast?.any fun last => last.kind != .argument) =
      earlier.getLast?.any Token.isStart) :
    BeginsLine width earlier (token :: later) := by
  have isPlain : IsPlain token := place.behind.isPlain (by simp [Token.isGroup, isSeparator])
  have spelled : spelling token = opening token := by
    have noWrapper : token ≠ arrayStart := by
      rintro rfl
      cases isSeparator
    rw [opening, if_neg noWrapper]
  have begins : (opening token).head?.any (· ≠ ' ') := by
    rw [← spelled, spelling_eq_value (.inl (by simp [isSymbol, isSeparator]))]
    rcases isPlain.separator isSeparator with comma | semicolon
    · simp [comma]
    · simp [semicolon]
  have flag := place.inArray_iff (List.replicate width ' ') isPlain
  have text := textBefore_cons (List.replicate width ' ') []
    (stateBefore (List.replicate width ' ') (token :: later) .initial earlier) token later
  rw [step_separator_eq _ _ _ isPlain isSeparator, spelled, List.append_assoc,
    List.append_assoc] at text
  by_cases unindented : Unindented earlier token
  · have noLead : separatorLead (List.replicate width ' ')
        (stateBefore (List.replicate width ' ') (token :: later) .initial earlier) token =
        List.replicate 0 ' ' := by
      rw [separatorLead, last_initial, parted]
      apply if_pos
      rcases unindented.2 with opens | inRow
      · simp [opens]
      · simp [flag.mpr inRow]
    rw [noLead, ← List.append_assoc] at text
    exact place.begins_line isPlain.noStop begins (fun _ => rfl) (absurd unindented) text
  · have indented : separatorLead (List.replicate width ' ')
        (stateBefore (List.replicate width ' ') (token :: later) .initial earlier) token =
        List.replicate (width * level (around nesting token)) ' ' := by
      simp only [Unindented, isSeparator, true_and, not_or, Bool.not_eq_true] at unindented
      rw [separatorLead, last_initial, parted, unindented.1, Bool.or_false,
        if_neg ((not_congr flag).mpr unindented.2),
        lead_at_line_start fresh.starts fresh.unattached, place.leveled.depthAt_eq
          place.behind unreserved_of_isFree, indentation_spaces, Nat.mul_comm]
    rw [indented, ← List.append_assoc] at text
    exact place.begins_line isPlain.noStop begins (fun isBare => absurd isBare unindented)
      (fun _ => rfl) text

/-- A stop that begins a line of its own. -/
theorem Place.line_stop
    {second : List Char}
    (place : Place earlier token later nesting)
    (ends : endsGroup earlier token)
    (text : (step (List.replicate width ' ')
      (stateBefore (List.replicate width ' ') (token :: later) .initial earlier) token
        later.head?).1 = '\n' :: second)
    (rest : List Char) :
    Line Unindented width (earlier ++ token :: later)
      (textBefore (List.replicate width ' ') (token :: later) .initial earlier ++ ['\n'])
      (second ++ rest) := by
  have broken : breakIf (endsGroup earlier token) = ['\n'] := by
    rw [ends]
    rfl
  have parts := ends
  simp only [endsGroup, Bool.and_eq_true, Bool.not_eq_true'] at parts
  rcases parts with ⟨⟨isStop, noWrapper⟩, notEmpty⟩
  rcases place.behind.exists_opener isStop with ⟨opener, outer, rfl, isEnd⟩
  have spelled := spelling_of_stop isStop isEnd.isGroup noWrapper isEnd.row_isFunction
  have notOpening : token ≠ arrayStart := by
    rintro rfl
    cases isStop
  rw [step_stop _ _ _ isStop isEnd.isGroup noWrapper isEnd.row_isFunction, closesEmpty,
    last_initial, notEmpty, if_neg Bool.false_ne_true,
    place.leveled.depthAt_eq place.behind unreserved_of_isFree, indentation_spaces,
    Nat.mul_comm] at text
  rcases List.cons.inj text with ⟨-, rfl⟩
  have same : spelling token = opening token := by rw [opening, if_neg notOpening]
  rw [← broken, same]
  refine .token place.before.replay_eq ?_ (fun _ => rfl) ?_
  · rintro ⟨isSeparator, -⟩
    exact absurd isSeparator (by simpa using (kind_of_isGroup isEnd.isGroup).1)
  · rw [← same, spelled, closer]
    split
    · rfl
    · rfl

/-- What neither starts a value nor stands behind one is a separator. -/
theorem IsPlain.isSeparator
    (isPlain : IsPlain token)
    (noValue : ¬ startsValue token)
    (noOperator : ¬ (isOperator token ∨ token.kind = .postfixOp))
    (known : token.kind ≠ .unknown) :
    token.kind = .argument := by
  cases kind : token.kind with
  | argument => rfl
  | operand | prefixOp => exact absurd (by simp [startsValue, kind]) noValue
  | infixOp | postfixOp => exact absurd (by simp [isOperator, kind]) noOperator
  | unknown => exact absurd kind known
  | function | subexpression =>
      have noGroup := isPlain.noGroup
      simp [Token.isGroup, kind] at noGroup
  | unionOp | blank | noOp =>
      have written := isPlain.written
      simp [kind] at written

/-- Before a stop, a separator leaves an empty line. -/
theorem Place.line_empty
    (place : Place (earlier ++ [token]) next later nesting)
    (isSeparator : token.kind = .argument)
    (noStart : token.isStart = false)
    (isStop : next.isStop) :
    BeginsLine width (earlier ++ [token]) (next :: later) := by
  rcases place.behind.exists_opener isStop with ⟨opener, outer, -, isEnd⟩
  have noWrapper : next.isArrayWrapper = false := by
    cases isEnd with
    | parenthesis => exact stopFor_noWrapper _
    | wrapper =>
        have brace := place.brace rfl
        rw [List.getLast?_concat] at brace
        cases brace
        cases isSeparator
    | row => rfl
  have notEmpty : closesEmpty (stateBefore (List.replicate width ' ') (next :: later) .initial
      (earlier ++ [token])) next = false := by
    rw [closesEmpty, last_initial, List.getLast?_concat, Option.any_some, Token.closes, noStart,
      Bool.and_false, Bool.false_and]
  rw [BeginsLine, textBefore_cons,
    step_stop _ _ _ isStop isEnd.isGroup noWrapper isEnd.row_isFunction, notEmpty,
    if_neg Bool.false_ne_true, List.append_assoc, List.append_assoc]
  exact .empty isSeparator isStop

/-- What can stand at the beginning of a line: a value, a separator or a stop. -/
theorem Arranged.begins_line
    (arranged : Arranged (earlier ++ token :: next :: later))
    (ends : endsLine (stateBefore (List.replicate width ' ') (token :: next :: later) .initial
      earlier) token (some next))
    (starts : (stateBefore (List.replicate width ' ') (next :: later) .initial
      (earlier ++ [token])).atLineStart = true) :
    BeginsLine width (earlier ++ [token]) (next :: later) := by
  rcases arranged.exists_place with ⟨outer, before⟩
  rcases before.ender ends with ⟨noValue, joins, kinds⟩
  rw [List.append_cons] at arranged
  rcases arranged.exists_place with ⟨nesting, place⟩
  have member : next ∈ earlier ++ [token] ++ next :: later := by simp
  have fresh : Fresh (List.replicate width ' ') (earlier ++ [token]) (next :: later) := by
    refine ⟨starts, ?_⟩
    rw [last_initial, List.getLast?_concat, Option.any_some, joins]
  by_cases isValue : startsValue next
  · exact place.line_value fresh (arranged.written next member) (arranged.noErrors next member)
      (arranged.known next member).sign isValue
  · have fits := arranged.fitting.split
    rw [List.getLast?_concat, Option.any_some, Option.any_some, noValue] at fits
    have opens : IsOpening IsFree token ∧ opensEmpty token (some next) = false ∨
        token.kind = .argument ∧ token.isStart = false := by
      rcases kinds with opens | isSeparator | isInfix
      · exact .inl opens
      · exact .inr isSeparator
      · exact absurd (fits.2 isInfix) isValue
    cases place.behind with
    | plain isPlain =>
        have isSeparator : next.kind = .argument := by
          apply isPlain.isSeparator isValue _ (arranged.known next member).kind
          intro isBehind
          cases fits.1 isBehind
        apply place.line_separator fresh isSeparator
        rw [List.getLast?_concat, Option.any_some, Option.any_some]
        rcases opens with ⟨isOpening, -⟩ | ⟨kind, noStart⟩
        · rw [bne, (kind_of_isGroup isOpening.isGroup).1, isOpening.isStart]
          rfl
        · rw [kind, noStart]
          rfl
    | start isOpening =>
        exact absurd (by simp [startsValue, isOpening.isStart]) isValue
    | stop isEnd =>
        rcases opens with ⟨isOpening, notEmpty⟩ | ⟨isSeparator, noStart⟩
        · rw [before.opensEmpty_of_stop isOpening isEnd.isStop] at notEmpty
          cases notEmpty
        · exact place.line_empty isSeparator noStart isEnd.isStop

/-- Behind every line break in the text of a formula a line begins. -/
theorem Arranged.line
    {tokens : List Token} {before behind : List Char}
    (arranged : Arranged tokens)
    (text : textBefore (List.replicate width ' ') [] .initial tokens = before ++ '\n' :: behind) :
    Line Unindented width tokens (before ++ ['\n']) behind := by
  rcases exists_writer text with ⟨earlier, token, later, first, second, rfl, written, rfl, rfl⟩
  rcases arranged.exists_place with ⟨nesting, place⟩
  have isLine := (arranged.written token (by simp)).isLine
  have brace : token = arrayStop →
      (stateBefore (List.replicate width ' ') (token :: later) .initial earlier).last =
        some arrayRowStop := by
    rw [last_initial]
    exact place.brace
  rcases place.behind.lined unreserved_of_isFree place.row brace isLine with
    ⟨body, isLineBody, lined⟩
  rw [lined] at written
  rcases break_cases isLineBody written with ⟨starts, rfl⟩ | ⟨ends, rfl⟩
  · rw [startsLine_eq_endsGroup] at starts
    rw [written] at lined
    rw [List.append_nil]
    exact place.line_stop starts lined _
  · have whole : textBefore (List.replicate width ' ') (token :: later) .initial earlier ++ first ++
        ['\n'] = textBefore (List.replicate width ' ') later .initial (earlier ++ [token]) := by
      rw [textBefore_concat, lined, written, List.append_assoc]
    rw [whole, List.nil_append]
    cases later with
    | nil =>
        have noValue := (place.ender ends).1
        have value := arranged.ends
        rw [List.getLast?_concat, Option.any_some, noValue] at value
        cases value
    | cons next others =>
        have starts : (stateBefore (List.replicate width ' ') (next :: others) .initial
            (earlier ++ [token])).atLineStart = true := by
          rw [stateBefore_concat]
          exact atLineStart_of_break (lined.trans written)
        have begins := arranged.begins_line ends starts
        rwa [BeginsLine, ← List.append_cons] at begins

/-! ## The end of a text -/

/-- The text of an operand ends visibly if the operand does. -/
theorem IsPlain.last_operand
    (isPlain : IsPlain token)
    (isOperand : token.kind = .operand)
    (noError : token.subkind ≠ some .error)
    (visible : token.subkind ≠ some .text → token.value.getLast?.any Text.isBlank = false) :
    ∃ before char, spelling token = before ++ [char] ∧ Text.isBlank char = false := by
  rcases spelling_of_operand isOperand with ⟨-, spelled⟩ | ⟨isError, -⟩ | ⟨noText, -, spelled⟩
  · exact ⟨_, '"', spelled, rfl⟩
  · exact absurd isError noError
  · have ends := visible noText
    rw [← getLast?_quoteSheetName, ← spelled] at ends
    have something : spelling token ≠ [] := by
      simpa [Layout.isShown] using isPlain.isShown_operand isOperand
    rcases List.eq_nil_or_concat (spelling token) with nothing | ⟨before, char, whole⟩
    · exact absurd nothing something
    · rw [List.concat_eq_append] at whole
      rw [whole, List.getLast?_concat, Option.any_some] at ends
      exact ⟨before, char, whole, ends⟩

/-- A text that ends with a stop ends visibly. -/
theorem Place.last_stop
    {opener : Token}
    (place : Place earlier token [] nesting)
    (isEnd : Ends IsFree token opener) :
    ∃ before char,
      textBefore unit [] .initial (earlier ++ [token]) = before ++ [char] ∧
        Text.isBlank char = false := by
  by_cases isWrapper : token = arrayStop
  · -- the wrapper of an array literal writes nothing, and the brace of its row stands before it
    rcases exists_brace_before (place.brace isWrapper) with ⟨before, same⟩
    rw [isWrapper]
    exact ⟨before, '}', same, rfl⟩
  · have noWrapper : token.isArrayWrapper = false := by
      cases isEnd with
      | parenthesis => exact stopFor_noWrapper _
      | wrapper => exact absurd rfl isWrapper
      | row => rfl
    have isVisible : Text.isBlank (closer token) = false := by
      rw [closer]
      split
      · rfl
      · rfl
    rw [textBefore_concat,
      step_stop _ _ _ isEnd.isStop isEnd.isGroup noWrapper isEnd.row_isFunction,
      spelling_of_stop isEnd.isStop isEnd.isGroup noWrapper isEnd.row_isFunction,
      ← List.append_assoc]
    exact ⟨_, _, rfl, isVisible⟩

/-- The text of a formula ends visibly. -/
theorem Arranged.last_visible
    {tokens : List Token}
    (arranged : Arranged tokens)
    (visible : ∀ token, tokens.getLast? = some token → token.kind = .operand →
      token.subkind ≠ some .text → token.value.getLast?.any Text.isBlank = false) :
    ∃ before char,
      textBefore unit [] .initial tokens = before ++ [char] ∧ Text.isBlank char = false := by
  have behindText (first : List Char) {text : List Char}
      (ends : ∃ before char, text = before ++ [char] ∧ Text.isBlank char = false) :
      ∃ before char, first ++ text = before ++ [char] ∧ Text.isBlank char = false := by
    rcases ends with ⟨before, char, rfl, isVisible⟩
    exact ⟨first ++ before, char, (List.append_assoc ..).symm, isVisible⟩
  rcases List.eq_nil_or_concat tokens with rfl | ⟨earlier, token, whole⟩
  · cases arranged.ends
  · rw [List.concat_eq_append] at whole
    subst whole
    rcases arranged.exists_place with ⟨nesting, place⟩
    have value := arranged.ends
    rw [List.getLast?_concat, Option.any_some] at value
    have member : token ∈ earlier ++ [token] := by simp
    cases place.behind with
    | plain isPlain =>
        have kinds : token.kind = .operand ∨ token.kind = .postfixOp := by
          simpa [endsValue, isPlain.noStop] using value
        rw [textBefore_concat]
        apply behindText
        rcases kinds with isOperand | isPercent
        · rw [step_operand _ _ _ isPlain.noMark isOperand]
          exact behindText _ (isPlain.last_operand isOperand
            (arranged.noErrors token member isOperand)
            (visible token List.getLast?_concat isOperand))
        · rw [step_postfixOp _ _ _ isPlain.noMark isPercent,
            (arranged.known token member).percent isPercent]
          exact ⟨[], '%', rfl, rfl⟩
    | start isOpening later => cases later
    | stop isEnd => exact place.last_stop isEnd

end Lines

/-! ## Formulas -/

theorem arranged_of_tokens
    {isStrict : Bool} {formula : List Char} {tokens : List Token}
    (found : Formula.tokens isStrict formula = .ok tokens)
    (forms : Forms .expression tokens)
    (noErrors : ∀ token ∈ tokens, token.kind = .operand → token.subkind ≠ some .error) :
    Arranged tokens := by
  have written := (texts_of_tokens found).1
  have sits : Sits .expression tokens := forms.sits
  exact ⟨forms.grouped (fun token member => (written token member).shape) [], sits.2 none,
    forms.known, written, noErrors, sits.1⟩

/--
Every line of the layout of an expression without error values is indented to the
level of its first token, a stop being outside of its own group.  There are two
exceptions.  Separators stand at the beginning of their line if they are the first
of their group or if the last brace has opened an array row; and a line is empty
where the last argument of a group is left out.
-/
theorem lines_indented
    {settings : Settings} {formula : List Char} {tokens : List Token}
    (found : Formula.tokens settings.strict formula = .ok tokens)
    (forms : Forms .expression tokens)
    (noErrors : ∀ token ∈ tokens, token.kind = .operand → token.subkind ≠ some .error) :
    ∃ output,
      Formula.format settings formula = .ok output ∧
        ∀ before behind, output = before ++ '\n' :: behind →
          ∃ text,
            before ++ ['\n'] = '=' :: Text.trimStart text ∧
              Line Unindented settings.indentWidth tokens text behind := by
  have arranged := arranged_of_tokens found forms noErrors
  have nonempty : formula ≠ [] := by
    rintro rfl
    cases found
    cases arranged.ends
  refine ⟨_, format_of_tokens nonempty found, ?_⟩
  intro before behind split
  rcases arranged.last_visible fun token last isOperand noText =>
      (texts_of_tokens found).2 token last isOperand noText
        (noErrors token (List.mem_of_getLast? last) isOperand) with ⟨whole, last, text, visible⟩
  rw [render_eq, text, Text.trim_concat_of_visible visible, ← text] at split
  cases before with
  | nil => cases split
  | cons first rest =>
      rcases List.cons.inj split with ⟨rfl, trimmed⟩
      rcases Text.exists_of_trimStart_eq rfl trimmed with ⟨blanks, broken, same⟩
      refine ⟨_, ?_, arranged.line broken⟩
      rw [same]
      rfl

/-- A call without its first and its last argument, around an array without its first row. -/
def omittedArguments : List Token :=
  [functionStart ['F'], separator ',', minus, ⟨.operand, ['A', '1'], some .range⟩, percent,
    ⟨.infixOp, ['+'], some .math⟩, functionStart ['G'], functionStop, separator ',', arrayStart,
    arrayRowStart, separator ';', ⟨.operand, ['1'], some .number⟩, arrayRowStop, arrayStop,
    separator ',', functionStop]

theorem isFree_single (char : Char) : IsFree [char] := by
  have longer : (arrayRowStopText :: arrayNames).all (1 < ·.length) := by decide
  intro member
  simpa using List.all_eq_true.mp longer _ member

theorem forms_omittedArguments : Forms .expression omittedArguments := by
  have negative : Forms .expression [minus, ⟨.operand, ['A', '1'], some .range⟩, percent] :=
    .percentage (.negative (.operand rfl))
  have call : Forms .expression [functionStart ['G'], functionStop] :=
    .parenthesis (.call (isFree_single 'G')) .nothing
  have sum : Forms .expression [minus, ⟨.operand, ['A', '1'], some .range⟩, percent,
      ⟨.infixOp, ['+'], some .math⟩, functionStart ['G'], functionStop] :=
    .joined negative rfl call
  have array : Forms .expression [arrayStart, arrayRowStart, separator ';',
      ⟨.operand, ['1'], some .number⟩, arrayRowStop, arrayStop] :=
    .array (.separated .nothing (.inr rfl) (.single (.operand rfl)))
  have contents := Forms.separated .nothing (.inl rfl)
    (Forms.separated (.single sum) (.inl rfl)
      (Forms.separated (.single array) (.inl rfl) .nothing))
  exact .parenthesis (.call (isFree_single 'F')) contents

theorem tokens_omittedArguments :
    Formula.tokens false "=F(,-A1%+G(),\x7b;1\x7d,)".toList = .ok omittedArguments :=
  eq_ok_of_toOption (by decide +kernel)

theorem lines_indented_omittedArguments :
    Formula.tokens false "=F(,-A1%+G(),\x7b;1\x7d,)".toList = .ok omittedArguments ∧
      Forms .expression omittedArguments ∧
      (∀ token ∈ omittedArguments, token.kind = .operand → token.subkind ≠ some .error) ∧
      ∃ output,
        Formula.format {} "=F(,-A1%+G(),\x7b;1\x7d,)".toList = .ok output ∧
          ∀ before behind, output = before ++ '\n' :: behind →
            ∃ text,
              before ++ ['\n'] = '=' :: Text.trimStart text ∧
                Line Unindented 4 omittedArguments text behind :=
  ⟨tokens_omittedArguments, forms_omittedArguments, by decide,
    lines_indented tokens_omittedArguments forms_omittedArguments (by decide)⟩

/-- A line that is not indented begins with an exempt token or with one outside of all groups. -/
theorem Line.exists_bare
    {exempt : List Token → Token → Prop} {width : Nat} {tokens : List Token}
    {text behind : List Char} {char : Char}
    (line : Line exempt width tokens text (char :: behind))
    (noSpace : char ≠ ' ')
    (noBreak : char ≠ '\n') :
    ∃ earlier token later nesting,
      tokens = earlier ++ token :: later ∧
        Nesting.replay [] (earlier.map some) = some nesting ∧
          (opening token).head? = some char ∧
            (exempt earlier token ∨ width * level (around nesting token) = 0) := by
  generalize whole : char :: behind = written at line
  cases line with
  | @token earlier later token nesting spaces rest groups unindented indented begins =>
      cases spaces with
      | succ more => exact absurd (List.cons.inj whole).1 noSpace
      | zero =>
          refine ⟨earlier, token, later, nesting, rfl, groups, ?_, ?_⟩
          · cases first : opening token with
            | nil => simp [first] at begins
            | cons initial others =>
                rw [first] at whole
                rw [(List.cons.inj whole).1]
                rfl
          · by_cases isExempt : exempt earlier token
            · exact .inl isExempt
            · exact .inr (indented isExempt).symm
  | empty => exact absurd (List.cons.inj whole).1 noBreak

/-- Not all separators that begin a line are indented. -/
theorem not_lines_indented :
    ¬ ∀ (settings : Settings) (formula output : List Char) (tokens : List Token),
      Formula.tokens settings.strict formula = .ok tokens → Forms .expression tokens →
        (∀ token ∈ tokens, token.kind = .operand → token.subkind ≠ some .error) →
        Formula.format settings formula = .ok output →
        ∀ before behind, output = before ++ '\n' :: behind →
          ∃ text,
            before ++ ['\n'] = '=' :: Text.trimStart text ∧
              Line (fun _ _ => False) settings.indentWidth tokens text behind := by
  intro indented
  let tokens : List Token :=
    [functionStart ['F'], separator ',', ⟨.operand, ['1'], some .number⟩, functionStop]
  have found : Formula.tokens false "=F(,1)".toList = .ok tokens :=
    eq_ok_of_toOption (by decide +kernel)
  have contents : Forms .contents [separator ',', ⟨.operand, ['1'], some .number⟩] :=
    .separated .nothing (.inl rfl) (.single (.operand rfl))
  have forms : Forms .expression tokens := .parenthesis (.call (isFree_single 'F')) contents
  have noErrors : ∀ token ∈ tokens, token.kind = .operand → token.subkind ≠ some .error := by
    decide
  have written : render defaultUnit tokens = "=F(".toList ++ '\n' :: ",\n    1\n)".toList := by
    decide +kernel
  rcases indented {} _ _ tokens found forms noErrors (format_of_tokens (by decide) found)
    "=F(".toList ",\n    1\n)".toList written with ⟨text, -, line⟩
  rcases line.exists_bare (by decide) (by decide) with
    ⟨earlier, token, later, nesting, split, groups, begins, bare⟩
  have outside := bare.resolve_left id
  rcases List.cons_eq_append_iff.mp split with ⟨rfl, here⟩ | ⟨behindCall, rfl, further⟩
  · cases here
    cases begins
  · rcases List.cons_eq_append_iff.mp further with ⟨rfl, here⟩ | ⟨behindMark, rfl, last⟩
    · cases here
      cases groups
      cases outside
    · rcases List.cons_eq_append_iff.mp last with ⟨rfl, here⟩ | ⟨behindValue, rfl, stop⟩
      · cases here
        cases begins
      · rcases List.cons_eq_append_iff.mp stop with ⟨rfl, here⟩ | ⟨nothing, rfl, none⟩
        · cases here
          cases begins
        · simp at none

end SheetFormula.Layout
