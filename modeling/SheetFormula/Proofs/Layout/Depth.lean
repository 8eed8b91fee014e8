import SheetFormula.Proofs.Layout.Steps

/-!
# Depth and nesting

The layout counts the groups around a token in two places: the depth rises
behind an opener and falls at a stop.  Both ask for themselves whether the group
is empty or the wrapper of an array literal.  They agree on that, for the stop
of an empty group is what the opener has found behind it.

`Paired` is the path of the open groups token by token.  Along such a path the
depth is the number of open groups that count, except between the opener and
the stop of an empty group (`Level`).

Main statement: in the layout of a well formed formula every token stands at the
depth of its nesting, and every group that is not empty ends on a line of its
own that is indented by that depth.
-/

namespace SheetFormula.Layout

open RoundTrip

/-! ## Paths token by token -/

/-- The openers of a formula. -/
inductive IsOpening (called : List Char → Prop) : Token → Prop where
  | parenthesis {opener : Token}
      (isParenthesis : IsParenthesis called opener) :
      IsOpening called opener
  | wrapper : IsOpening called arrayStart
  | row : IsOpening called arrayRowStart

/-- The stop of a group and its opener. -/
inductive Ends (called : List Char → Prop) : Token → Token → Prop where
  | parenthesis {opener : Token}
      (isParenthesis : IsParenthesis called opener) :
      Ends called (Nesting.stopFor opener []) opener
  | wrapper : Ends called arrayStop arrayStart
  | row : Ends called arrayRowStop arrayRowStart

/-- Tokens that lead from some open groups to others, one by one. -/
inductive Paired (called : List Char → Prop) : Nesting → List Token → Nesting → Prop where
  | nil {nesting : Nesting} :
      Paired called nesting [] nesting
  | plain {nesting final : Nesting} {token : Token} {rest : List Token}
      (isPlain : IsPlain token)
      (later : Paired called nesting rest final) :
      Paired called nesting (token :: rest) final
  | start {nesting final : Nesting} {opener : Token} {rest : List Token}
      (isOpening : IsOpening called opener)
      (later : Paired called (opener :: nesting) rest final) :
      Paired called nesting (opener :: rest) final
  | stop {nesting final : Nesting} {token opener : Token} {rest : List Token}
      (ends : Ends called token opener)
      (later : Paired called nesting rest final) :
      Paired called (opener :: nesting) (token :: rest) final

section Paths

variable {called : List Char → Prop} {nesting final : Nesting} {tokens : List Token}
  {token opener : Token}

theorem IsOpening.isOpener (isOpening : IsOpening called opener) : opener.isOpener := by
  cases isOpening with
  | parenthesis isParenthesis => exact isParenthesis.isOpener
  | wrapper => rfl
  | row => rfl

theorem IsOpening.isStart (isOpening : IsOpening called opener) : opener.isStart := by
  have isOpener := isOpening.isOpener
  rw [Token.isOpener, Bool.and_eq_true] at isOpener
  exact isOpener.1

theorem IsOpening.isGroup (isOpening : IsOpening called opener) : opener.isGroup := by
  have isOpener := isOpening.isOpener
  rw [Token.isOpener, Bool.and_eq_true] at isOpener
  exact isOpener.2

theorem IsOpening.noStop (isOpening : IsOpening called opener) : opener.isStop = false := by
  have isStart := isOpening.isStart
  simp only [Token.isStart, beq_iff_eq] at isStart
  simp [Token.isStop, isStart]

theorem IsOpening.row_isFunction (isOpening : IsOpening called opener) :
    opener.value = arrayRowText → opener.kind = .function := by
  cases isOpening with
  | parenthesis isParenthesis => exact isParenthesis.row_isFunction
  | wrapper => exact fun _ => rfl
  | row => exact fun _ => rfl

theorem Ends.closes (ends : Ends called token opener) : token.closes opener := by
  cases ends with
  | parenthesis isParenthesis => exact Nesting.stopFor_closes _ _ isParenthesis.isStart
  | wrapper => rfl
  | row => rfl

theorem Ends.isStop (ends : Ends called token opener) : token.isStop := by
  cases ends with
  | parenthesis => rfl
  | wrapper => rfl
  | row => rfl

theorem Ends.noStart (ends : Ends called token opener) : token.isStart = false := by
  cases ends with
  | parenthesis => rfl
  | wrapper => rfl
  | row => rfl

theorem Ends.isGroup (ends : Ends called token opener) : token.isGroup := by
  cases ends with
  | parenthesis isParenthesis => exact isParenthesis.stop_isGroup
  | wrapper => rfl
  | row => rfl

theorem Ends.row_isFunction (ends : Ends called token opener) :
    token.value = arrayRowStopText → token.kind = .function := by
  cases ends with
  | parenthesis =>
      intro same
      cases same
  | wrapper => exact fun _ => rfl
  | row => exact fun _ => rfl

/-- The stop of a wrapper is told by its text as its opener is. -/
theorem Ends.isArrayWrapper_eq
    (ends : Ends called token opener)
    (unreserved : ∀ name, called name → name ∉ arrayNames) :
    token.isArrayWrapper = opener.isArrayWrapper := by
  cases ends with
  | parenthesis isParenthesis => rw [stopFor_noWrapper, isParenthesis.noWrapper unreserved]
  | wrapper => rfl
  | row => rfl

/-- So is the stop of an array row. -/
theorem Ends.isArrayRowStop_eq
    (ends : Ends called token opener)
    (unreserved : ∀ name, called name → name ∉ arrayNames) :
    token.isArrayRowStop = opener.isArrayRow := by
  cases ends with
  | parenthesis isParenthesis =>
      have unnamed : ¬ called arrayRowText := by
        intro isCalled
        exact unreserved _ isCalled (by simp [arrayNames])
      rw [isParenthesis.isArrayRow_eq unnamed]
      exact Bool.and_false _
  | wrapper => rfl
  | row => rfl

/-- The groups of a path are opened and ended one by one. -/
theorem Grouped.paired
    (grouped : Grouped IsPlain called nesting tokens final) :
    Paired called nesting tokens final := by
  induction grouped with
  | nil => exact .nil
  | plain isPlain _ ih => exact .plain isPlain ih
  | opens isParenthesis _ ih => exact .start (.parenthesis isParenthesis) ih
  | closes isParenthesis _ ih => exact .stop (.parenthesis isParenthesis) ih
  | brace _ ih => exact .start .wrapper (.start .row ih)
  | closeBrace _ ih => exact .stop .row (.stop .wrapper ih)

/-- A path can be interrupted between any two tokens. -/
theorem Paired.split
    {earlier later : List Token}
    (paired : Paired called nesting (earlier ++ later) final) :
    ∃ middle, Paired called nesting earlier middle ∧ Paired called middle later final := by
  induction earlier generalizing nesting with
  | nil => exact ⟨nesting, .nil, paired⟩
  | cons token others ih =>
      cases paired with
      | plain isPlain rest =>
          rcases ih rest with ⟨middle, before, behind⟩
          exact ⟨middle, .plain isPlain before, behind⟩
      | start isOpening rest =>
          rcases ih rest with ⟨middle, before, behind⟩
          exact ⟨middle, .start isOpening before, behind⟩
      | stop ends rest =>
          rcases ih rest with ⟨middle, before, behind⟩
          exact ⟨middle, .stop ends before, behind⟩

theorem turn_of_isStart (isStart : opener.isStart) (nesting : Nesting) :
    Nesting.turn nesting opener = some (opener :: nesting) := by
  simp [Nesting.turn, Nesting.push, isStart]

/-- What belongs to no group is a token by itself. -/
theorem Paired.isPlain
    {rest : List Token}
    (paired : Paired called nesting (token :: rest) final)
    (noGroup : token.isGroup = false) :
    IsPlain token := by
  cases paired with
  | plain isPlain => exact isPlain
  | start isOpening =>
      rw [isOpening.isGroup] at noGroup
      cases noGroup
  | stop ends =>
      rw [ends.isGroup] at noGroup
      cases noGroup

/-- A path is replayed as it is. -/
theorem Paired.replay_eq (paired : Paired called nesting tokens final) :
    Nesting.replay nesting (tokens.map some) = some final := by
  induction paired with
  | nil => rfl
  | plain isPlain _ ih =>
      rw [List.map_cons, Nesting.replay, Nesting.turn_of_plain isPlain.noMark]
      exact ih
  | start isOpening _ ih =>
      rw [List.map_cons, Nesting.replay, turn_of_isStart isOpening.isStart]
      exact ih
  | stop ends _ ih =>
      rw [List.map_cons, Nesting.replay, Nesting.turn_of_closes ends.closes]
      exact ih

/-- A group that is open behind a path was open before it or has its opener in it. -/
theorem Paired.mem_of_mem
    (paired : Paired called nesting tokens final)
    (isOpen : opener ∈ final) :
    opener ∈ nesting ∨ opener ∈ tokens ∧ IsOpening called opener := by
  induction paired with
  | nil => exact .inl isOpen
  | plain _ _ ih =>
      rcases ih isOpen with before | ⟨member, isOpening⟩
      · exact .inl before
      · exact .inr ⟨List.mem_cons_of_mem _ member, isOpening⟩
  | start isStart _ ih =>
      rcases ih isOpen with before | ⟨member, isOpening⟩
      · rcases List.mem_cons.mp before with rfl | outer
        · exact .inr ⟨List.mem_cons_self .., isStart⟩
        · exact .inl outer
      · exact .inr ⟨List.mem_cons_of_mem _ member, isOpening⟩
  | stop _ _ ih =>
      rcases ih isOpen with before | ⟨member, isOpening⟩
      · exact .inl (List.mem_cons_of_mem _ before)
      · exact .inr ⟨List.mem_cons_of_mem _ member, isOpening⟩

end Paths

/-! ## Depth -/

/-- The number of open groups that count for the depth: all but the wrappers of array literals. -/
def level (nesting : Nesting) : Nat :=
  nesting.countP fun opener => !opener.isArrayWrapper

/-- The groups around a token among those that are open before it: a stop is not in its own. -/
def around (nesting : Nesting) (token : Token) : Nesting :=
  if token.isStop then nesting.tail else nesting

/-- The depth before a token is that of the open groups, or of all but one that is empty. -/
def Level (state : State) (nesting : Nesting) (following : Option Token) : Prop :=
  state.depth = level (if following.any (closesEmpty state) then nesting.tail else nesting)

section Levels

variable {called : List Char → Prop} {nesting final : Nesting} {tokens : List Token}
  {state : State} {token opener : Token} {unit : List Char} {following : Option Token}

theorem level_cons (opener : Token) (nesting : Nesting) :
    level (opener :: nesting) = level nesting + if opener.isArrayWrapper then 0 else 1 := by
  cases wrapper : opener.isArrayWrapper with
  | true => simp [level, wrapper]
  | false => simp [level, wrapper]

theorem level_initial (following : Option Token) : Level .initial [] following := by
  rw [Level]
  split
  · rfl
  · rfl

theorem step_depth :
    (step unit state token following).2.depth =
      if token.isStart && !opensEmpty token following && !token.isArrayWrapper then
        depthAt state token + 1
      else depthAt state token :=
  rfl

theorem depthAt_eq :
    depthAt state token =
      if token.isStop && !closesEmpty state token && !token.isArrayWrapper then state.depth - 1
      else state.depth :=
  rfl

/-- Before a token that ends no group all open groups count. -/
theorem Level.depth_eq
    (leveled : Level state nesting (some token))
    (noStop : token.isStop = false) :
    state.depth = level nesting := by
  rwa [Level, Option.any_some, closesEmpty_of_noStop state noStop, if_neg Bool.false_ne_true]
    at leveled

/-- Behind a token that opens no group all open groups count. -/
theorem level_behind
    (noStart : token.isStart = false)
    (depth : depthAt state token = level nesting) :
    Level (step unit state token following).2 nesting following := by
  have noneEmpty : following.any (closesEmpty (step unit state token following).2) = false :=
    opensEmpty_of_noStart following noStart
  rw [Level, noneEmpty, if_neg Bool.false_ne_true, step_depth, noStart, Bool.false_and,
    Bool.false_and, if_neg Bool.false_ne_true, depth]

theorem Level.depthAt_of_noStop
    (leveled : Level state nesting (some token))
    (noStop : token.isStop = false) :
    depthAt state token = level nesting := by
  rw [depthAt_eq, noStop, Bool.false_and, Bool.false_and, if_neg Bool.false_ne_true,
    leveled.depth_eq noStop]

/-- Behind an opener the group counts, unless it is empty. -/
theorem Level.start
    (leveled : Level state nesting (some opener))
    (isOpening : IsOpening called opener) :
    Level (step unit state opener following).2 (opener :: nesting) following := by
  have empty : following.any (closesEmpty (step unit state opener following).2) =
      opensEmpty opener following := rfl
  rw [Level, empty, step_depth, isOpening.isStart, leveled.depthAt_of_noStop isOpening.noStop]
  cases opensEmpty opener following with
  | true => rfl
  | false =>
      rw [if_neg Bool.false_ne_true, level_cons]
      cases opener.isArrayWrapper with
      | true => rfl
      | false => rfl

/-- A stop stands at the depth of its opener. -/
theorem Level.depthAt_stop
    (leveled : Level state (opener :: nesting) (some token))
    (isStop : token.isStop)
    (same : token.isArrayWrapper = opener.isArrayWrapper) :
    depthAt state token = level nesting := by
  rw [Level, Option.any_some] at leveled
  rw [depthAt_eq, isStop, same, leveled]
  cases closesEmpty state token with
  | true => rfl
  | false =>
      rw [if_neg Bool.false_ne_true, level_cons]
      cases opener.isArrayWrapper with
      | true => rfl
      | false => rfl

/-- One is taken off the depth only where a group has been counted. -/
theorem Level.depth_stop
    (leveled : Level state (opener :: nesting) (some token))
    (noWrapper : opener.isArrayWrapper = false)
    (notEmpty : closesEmpty state token = false) :
    state.depth = level nesting + 1 := by
  rw [Level, Option.any_some, notEmpty, if_neg Bool.false_ne_true, level_cons, noWrapper] at leveled
  exact leveled

/-- Along a path of groups the depth stays that of the open groups. -/
theorem Level.run
    {rest : List Token}
    (paired : Paired called nesting tokens final)
    (unreserved : ∀ name, called name → name ∉ arrayNames)
    (leveled : Level state nesting (tokens ++ rest).head?) :
    Level (stateBefore unit rest state tokens) final rest.head? := by
  induction paired generalizing state with
  | nil => exact leveled
  | plain isPlain _ ih =>
      apply ih
      apply level_behind isPlain.noStart
      exact Level.depthAt_of_noStop leveled isPlain.noStop
  | start isOpening _ ih => exact ih (Level.start leveled isOpening)
  | stop ends _ ih =>
      apply ih
      apply level_behind ends.noStart
      exact Level.depthAt_stop leveled ends.isStop (ends.isArrayWrapper_eq unreserved)

/-- Every token of a path stands at the depth of the groups around it. -/
theorem Level.depthAt_eq
    {rest : List Token}
    (leveled : Level state nesting (some token))
    (paired : Paired called nesting (token :: rest) final)
    (unreserved : ∀ name, called name → name ∉ arrayNames) :
    depthAt state token = level (around nesting token) := by
  cases paired with
  | plain isPlain =>
      rw [around, isPlain.noStop]
      exact leveled.depthAt_of_noStop isPlain.noStop
  | start isOpening =>
      rw [around, isOpening.noStop]
      exact leveled.depthAt_of_noStop isOpening.noStop
  | stop ends =>
      rw [around, ends.isStop]
      exact leveled.depthAt_stop ends.isStop (ends.isArrayWrapper_eq unreserved)

end Levels

/-! ## Array rows -/

section Rows

variable {called : List Char → Prop} {nesting final : Nesting} {tokens : List Token}
  {state : State} {token opener : Token} {unit : List Char}

theorem inArrayAt_plain (isPlain : IsPlain token) : inArrayAt state token = state.inArray := by
  have noGroup := isPlain.noGroup
  rw [Token.isGroup, Bool.or_eq_false_iff] at noGroup
  simp [inArrayAt, Token.isArrayRow, Token.isArrayRowStop, noGroup.1]

theorem inArrayAt_stop (ends : Ends called token opener) :
    inArrayAt state token = (!token.isArrayRowStop && state.inArray) := by
  rw [inArrayAt, ends.noStart, Bool.and_false, if_neg Bool.false_ne_true]
  cases token.isArrayRowStop with
  | true => rfl
  | false => rfl

/-- While the flag of array rows is on, a row is open. -/
theorem Paired.any_isArrayRow
    {rest : List Token}
    (paired : Paired called nesting tokens final)
    (unreserved : ∀ name, called name → name ∉ arrayNames)
    (isOpen : state.inArray → nesting.any Token.isArrayRow) :
    (stateBefore unit rest state tokens).inArray → final.any Token.isArrayRow := by
  induction paired generalizing state with
  | nil => exact isOpen
  | @plain _ _ token _ isPlain _ ih =>
      apply ih
      intro inRow
      have flag : inArrayAt state token = true := inRow
      rw [inArrayAt_plain isPlain] at flag
      exact isOpen flag
  | @start _ _ opener _ isOpening _ ih =>
      apply ih
      intro inRow
      have flag : inArrayAt state opener = true := inRow
      rw [List.any_cons, Bool.or_eq_true]
      cases row : opener.isArrayRow with
      | true => exact .inl rfl
      | false =>
          rw [inArrayAt, row, Bool.false_and, if_neg Bool.false_ne_true] at flag
          split at flag
          · cases flag
          · exact .inr (isOpen flag)
  | @stop _ _ token opener _ ends _ ih =>
      apply ih
      intro inRow
      have flag : inArrayAt state token = true := inRow
      rw [inArrayAt_stop ends, ends.isArrayRowStop_eq unreserved, Bool.and_eq_true,
        Bool.not_eq_true'] at flag
      have outer := isOpen flag.2
      rwa [List.any_cons, flag.1, Bool.false_or] at outer

end Rows

/-! ## Formulas -/

/-- An opener that is no wrapper is written with a visible character. -/
theorem exists_visible_opener
    {opener : Token}
    (isOpener : opener.isOpener)
    (noWrapper : opener.isArrayWrapper = false) :
    ∃ char ∈ spelling opener, Text.isBlank char = false := by
  rw [spelling_of_opener isOpener noWrapper]
  split
  · exact ⟨'{', by simp, rfl⟩
  · exact ⟨'(', by simp, rfl⟩

/-- The text before a place inside a group has the opener of the group in it. -/
theorem exists_visible_before
    {called : List Char → Prop} {nesting : Nesting} {opener : Token} {earlier : List Token}
    (paired : Paired called [] earlier (opener :: nesting))
    (noWrapper : opener.isArrayWrapper = false)
    (unit : List Char) (rest : List Token) (state : State) :
    ∃ char ∈ textBefore unit rest state earlier, Text.isBlank char = false := by
  rcases paired.mem_of_mem (List.mem_cons_self ..) with outside | ⟨member, isOpening⟩
  · cases outside
  · rcases exists_visible_opener isOpening.isOpener noWrapper with ⟨char, letter, visible⟩
    rcases List.append_of_mem member with ⟨before, behind, rfl⟩
    refine ⟨char, ?_, visible⟩
    rw [textBefore_append, textBefore_cons,
      step_start _ _ _ isOpening.isOpener noWrapper isOpening.row_isFunction]
    simp [letter]

/-- Whether a token behind others ends a group that is not empty; wrappers do not count. -/
def endsGroup (earlier : List Token) (token : Token) : Bool :=
  token.isStop && !token.isArrayWrapper && !earlier.getLast?.any token.closes

/--
A token of a layout stands at the depth of the groups around it.  Where it ends
a group that is not empty, the depth before it is larger by one, so that nothing
is cut off at zero, and it stands on a line of its own behind its indentation.
-/
structure AtDepth
    (unit : List Char)
    (earlier : List Token)
    (token : Token)
    (later : List Token)
    (nesting : Nesting) : Prop where
  depth :
    depthAt (stateBefore unit (token :: later) .initial earlier) token =
      level (around nesting token)
  uncut :
    endsGroup earlier token →
      (stateBefore unit (token :: later) .initial earlier).depth =
        level (around nesting token) + 1
  line :
    endsGroup earlier token →
      ∃ behind,
        render unit (earlier ++ token :: later) =
          '=' :: Text.trimStart (textBefore unit (token :: later) .initial earlier) ++
            '\n' :: indentation unit (level (around nesting token)) ++ [closer token] ++ behind

/-- A stop of a path ends the innermost group that is open before it. -/
theorem Paired.exists_opener
    {called : List Char → Prop} {nesting final : Nesting} {later : List Token} {token : Token}
    (paired : Paired called nesting (token :: later) final)
    (isStop : token.isStop) :
    ∃ opener outer, nesting = opener :: outer ∧ Ends called token opener := by
  cases paired with
  | plain isPlain =>
      rw [isPlain.noStop] at isStop
      cases isStop
  | start isOpening =>
      rw [isOpening.noStop] at isStop
      cases isStop
  | @stop outer _ _ opener _ ends => exact ⟨opener, outer, rfl, ends⟩

/-- Every token of a path stands at the depth of the groups around it. -/
theorem Paired.atDepth
    {called : List Char → Prop} {nesting final : Nesting} {earlier later : List Token}
    {token : Token}
    (before : Paired called [] earlier nesting)
    (behind : Paired called nesting (token :: later) final)
    (unreserved : ∀ name, called name → name ∉ arrayNames)
    (unit : List Char) :
    AtDepth unit earlier token later nesting := by
  have leveled : Level (stateBefore unit (token :: later) .initial earlier) nesting (some token) :=
    Level.run before unreserved (level_initial _)
  have depth := leveled.depthAt_eq behind unreserved
  have notEmpty (closed : earlier.getLast?.any token.closes = false) :
      closesEmpty (stateBefore unit (token :: later) .initial earlier) token = false := by
    rw [closesEmpty, last_stateBefore]
    simpa [State.initial] using closed
  refine ⟨depth, ?_, ?_⟩
  all_goals
    intro isEnd
    simp only [endsGroup, Bool.and_eq_true, Bool.not_eq_true'] at isEnd
    rcases isEnd with ⟨⟨isStop, noWrapper⟩, closed⟩
    rcases behind.exists_opener isStop with ⟨opener, outer, rfl, ends⟩
    have openerNoWrapper : opener.isArrayWrapper = false := by
      rw [← ends.isArrayWrapper_eq unreserved, noWrapper]
  · rw [around, isStop]
    exact leveled.depth_stop openerNoWrapper (notEmpty closed)
  · rcases exists_visible_before before openerNoWrapper unit (token :: later) .initial with
      ⟨char, member, visible⟩
    have closerVisible : Text.isBlank (closer token) = false := by
      rw [closer]
      split
      · rfl
      · rfl
    rw [render_append, step_stop _ _ _ isStop ends.isGroup noWrapper ends.row_isFunction,
      spelling_of_stop isStop ends.isGroup noWrapper ends.row_isFunction, notEmpty closed,
      if_neg Bool.false_ne_true, depth, Text.trim_append_of_mem member visible closerVisible]
    exact ⟨_, rfl⟩

/--
In the layout of a well formed formula every token stands at the depth of its
nesting.  A group counts there as soon as anything stands in it, and the
wrappers of array literals do not count.  At the end of the formula the depth
is zero and no array row is open.
-/
theorem depth_eq_nesting
    {formula : List Char} {tokens : List Token}
    (found : Formula.tokens true formula = .ok tokens)
    (avoids : Avoids arrayNames (Formula.normalize formula))
    (unit : List Char) :
    (∀ earlier token later, tokens = earlier ++ token :: later →
      ∃ nesting,
        Nesting.replay [] (earlier.map some) = some nesting ∧
          AtDepth unit earlier token later nesting) ∧
      (finalState unit tokens).depth = 0 ∧ (finalState unit tokens).inArray = false := by
  rcases exists_grouped found avoids (List.Subset.refl _) with ⟨final, grouped, ends⟩
  cases ends rfl
  have unreserved : ∀ name, name ∉ arrayNames → name ∉ arrayNames := fun _ isCalled => isCalled
  have paired := grouped.paired
  refine ⟨?_, ?_, ?_⟩
  · rintro earlier token later rfl
    rcases paired.split with ⟨nesting, before, behind⟩
    exact ⟨nesting, before.replay_eq, before.atDepth behind unreserved unit⟩
  · rw [finalState_eq]
    exact Level.run paired unreserved (level_initial _)
  · rw [finalState_eq, ← Bool.not_eq_true]
    intro inArray
    have outside : State.initial.inArray → ([] : Nesting).any Token.isArrayRow := id
    cases paired.any_isArrayRow unreserved outside inArray

theorem depth_eq_nesting_sampleFormula :
    Formula.tokens true sampleFormula = .ok (sampleBefore ++ separator ',' :: sampleBehind) ∧
      Avoids arrayNames (Formula.normalize sampleFormula) ∧
      (∀ earlier token later,
        sampleBefore ++ separator ',' :: sampleBehind = earlier ++ token :: later →
          ∃ nesting,
            Nesting.replay [] (earlier.map some) = some nesting ∧
              AtDepth defaultUnit earlier token later nesting) ∧
      (finalState defaultUnit (sampleBefore ++ separator ',' :: sampleBehind)).depth = 0 ∧
      (finalState defaultUnit (sampleBefore ++ separator ',' :: sampleBehind)).inArray = false :=
  ⟨tokens_sampleFormula, avoids_sampleFormula,
    depth_eq_nesting tokens_sampleFormula avoids_sampleFormula defaultUnit⟩

end SheetFormula.Layout
