import SheetFormula.Formula
import SheetFormula.Proofs.Nesting.Replay

/-!
# Groups through all passes

Resolving intersections and classifying change tokens, drop some and insert
others, but they keep the openers and stops of groups in their order; only the
mark of implicit intersection is taken off the names of functions.  So the
classified tokens of a formula have the groups of its scan.

Main statement: the replay of the entries of a scan gives its nesting at every
place, the passes keep openers and stops, the tokens of a well-formed formula are
properly nested, and the tokens of any other formula can be completed by the
stops of the groups that its scan leaves open.
-/

namespace SheetFormula

open Scan

/-- Tokens whose subkind, if they have one, belongs to their kind. -/
def Token.IsLawful (token : Token) : Prop :=
  token.subkind.all token.kind.allows

/-- A token without the mark of implicit intersection before the name of a function. -/
def Token.unmarked (token : Token) : Token :=
  if token.kind = .function ∧ token.isStart ∧ token.value.head? = some '@' then
    { token with value := token.value.tail }
  else token

/-- The openers and stops of a list, in order. -/
def marks (tokens : List Token) : List Token :=
  tokens.filter Token.isMark

namespace Token

@[simp]
theorem unmarked_kind (token : Token) : token.unmarked.kind = token.kind := by
  unfold unmarked
  split <;> rfl

@[simp]
theorem unmarked_subkind (token : Token) : token.unmarked.subkind = token.subkind := by
  unfold unmarked
  split <;> rfl

@[simp]
theorem unmarked_isStart (token : Token) : token.unmarked.isStart = token.isStart := by
  simp [isStart]

@[simp]
theorem unmarked_isStop (token : Token) : token.unmarked.isStop = token.isStop := by
  simp [isStop]

@[simp]
theorem unmarked_closes (token opener : Token) :
    token.unmarked.closes opener.unmarked = token.closes opener := by
  simp [closes]

/-- An opener or a stop that is lawful belongs to a call or a parenthesis. -/
theorem IsLawful.isGroup
    {token : Token} (lawful : token.IsLawful) (isMark : token.isMark) :
    token.kind = .function ∨ token.kind = .subexpression := by
  have subkind : token.subkind = some .start ∨ token.subkind = some .stop := by
    simpa [Token.isMark, isStart, isStop] using isMark
  rcases subkind with starts | stops
  · cases kind : token.kind <;> simp_all [IsLawful, Kind.allows]
  · cases kind : token.kind <;> simp_all [IsLawful, Kind.allows]

end Token

/-! ## Scanned tokens -/

namespace Scan

/-- All tokens among some entries are lawful. -/
def Lawful (entries : List Entry) : Prop :=
  ∀ token, some token ∈ entries → token.IsLawful

theorem Lawful.append
    {first second : List Entry} (before : Lawful first) (after : Lawful second) :
    Lawful (first ++ second) := by
  intro token member
  rcases List.mem_append.mp member with member | member
  · exact before token member
  · exact after token member

theorem lawful_nil : Lawful [] := by
  intro token member
  cases member

theorem lawful_cons
    {token : Token} {rest : List Entry} (here : token.IsLawful) (later : Lawful rest) :
    Lawful (some token :: rest) := by
  intro other member
  rcases List.mem_cons.mp member with same | member
  · cases same
    exact here
  · exact later other member

theorem State.flush_lawful (state : State) (kind : Kind) : Lawful (state.flush kind) := by
  unfold State.flush
  split
  · exact lawful_nil
  · exact lawful_cons rfl lawful_nil

theorem Separates.lawful
    {nesting : Nesting} {char : Char} {tail : List Char} {token : Token} {extra : Nat}
    (separates : Separates nesting char tail token extra) :
    token.IsLawful := by
  cases separates with
  | comma =>
      unfold commaToken
      split <;> rfl
  | _ => rfl

theorem stopFor_lawful
    {opener : Token} (isOpener : opener.isOpener) (value : List Char) :
    (Nesting.stopFor opener value).IsLawful := by
  simp only [Token.isOpener, Token.isGroup, Bool.and_eq_true, Bool.or_eq_true,
    beq_iff_eq] at isOpener
  rcases isOpener.2 with kind | kind <;> simp [Token.IsLawful, Nesting.stopFor, kind, Kind.allows]

theorem unbalanced_lawful (state : State) (closer : Char) (isStrict : Bool) :
    Lawful ((unbalanced state closer).entries isStrict) := by
  cases isStrict with
  | true => exact state.flush_lawful .operand
  | false => exact (state.flush_lawful .operand).append (lawful_cons rfl lawful_nil)

/-- A step leaves lawful tokens. -/
theorem Rule.lawful
    {state : State} {char : Char} {tail : List Char} {move : Move}
    (rule : Rule state char tail move)
    (opened : Opened state.nesting)
    (isStrict : Bool) :
    Lawful (move.entries isStrict) := by
  cases rule with
  | unbalancedArray | unbalancedParenthesis => exact unbalanced_lawful state _ isStrict
  | separate _ _ separates =>
      simp only [Move.entries, Scan.separate, List.append_nil, ite_self]
      exact (state.flush_lawful _).append (lawful_cons separates.lawful lawful_nil)
  | openLiteral =>
      simp only [Move.entries, Scan.openLiteral, List.append_nil, ite_self]
      exact state.flush_lawful _
  | openArray =>
      simp only [Move.entries, Scan.openArray, List.append_nil, ite_self]
      exact (state.flush_lawful _).append (lawful_cons rfl (lawful_cons rfl lawful_nil))
  | openParenthesis =>
      simp only [Move.entries, Scan.openParenthesis, List.append_nil, ite_self]
      split <;> exact lawful_cons rfl lawful_nil
  | @closeArray _ row outer _ nesting =>
      rw [nesting] at opened
      simp only [Move.entries, List.append_nil, ite_self]
      apply (state.flush_lawful _).append
      apply lawful_cons (stopFor_lawful (opened row (by simp)) _)
      cases outer with
      | nil =>
          intro token member
          cases List.mem_singleton.mp member
      | cons wrapper rest =>
          exact lawful_cons (stopFor_lawful (opened wrapper (by simp)) _) lawful_nil
  | @closeParenthesis _ opener outer _ nesting =>
      rw [nesting] at opened
      simp only [Move.entries, List.append_nil, ite_self]
      apply (state.flush_lawful _).append
      exact lawful_cons (stopFor_lawful (opened opener (by simp)) _) lawful_nil
  | endText | endErrorCode =>
      simp only [Move.entries, List.append_nil, ite_self]
      exact lawful_cons rfl lawful_nil
  | _ => cases isStrict <;> exact lawful_nil

theorem closeLiteral_lawful (text : List Char) (state : State) (isStrict : Bool) :
    Lawful ((closeLiteral text state).entries isStrict) := by
  unfold closeLiteral
  split
  · simp only [Move.entries, List.append_nil, ite_self]
    exact state.flush_lawful _
  · cases isStrict with
    | true => exact lawful_nil
    | false => exact lawful_cons rfl lawful_nil

/-- The tokens of a scan are lawful at every place. -/
theorem lawful_entries
    {isStrict : Bool} {text : List Char} {made : List Move}
    (begins : made <+: moves isStrict text) :
    Lawful (entries isStrict made) := by
  have kept : Kept text fun made state =>
      Opened state.nesting ∧ Lawful (entries isStrict made) := by
    apply kept_entries fun entries _ => Lawful entries
    · exact lawful_nil
    · intro before state char tail move rule opened lawful
      exact lawful.append (rule.lawful opened isStrict)
    · intro before state lawful
      exact lawful.append (closeLiteral_lawful text state isStrict)
  exact (kept.of_isPrefix begins).2

end Scan

/-! ## Resolving intersections -/

theorem marks_resolveAfter
    {tokens : List Token}
    (lawful : ∀ token ∈ tokens, token.IsLawful)
    (left : Option Token) :
    marks (Intersection.resolveAfter left tokens) = marks tokens := by
  induction tokens generalizing left with
  | nil => rfl
  | cons token rest ih =>
      rcases List.forall_mem_cons.mp lawful with ⟨here, later⟩
      unfold marks at ih ⊢
      simp only [Intersection.resolveAfter]
      split
      · next isBlank =>
          have plain : token.isMark = false := by
            rw [Bool.eq_false_iff]
            intro isMark
            rcases here.isGroup isMark with kind | kind <;> simp [Token.isBlank, kind] at isBlank
          have inserted : token.asIntersection.isMark = false := rfl
          split
          · rw [List.filter_cons_of_neg (by simp [inserted]),
              List.filter_cons_of_neg (by simp [plain]), ih later]
          · rw [List.filter_cons_of_neg (by simp [plain]), ih later]
      · simp only [List.filter_cons, ih later]

theorem lawful_resolveAfter
    {tokens : List Token}
    (lawful : ∀ token ∈ tokens, token.IsLawful)
    (left : Option Token) :
    ∀ token ∈ Intersection.resolveAfter left tokens, token.IsLawful := by
  induction tokens generalizing left with
  | nil =>
      intro token member
      cases member
  | cons first rest ih =>
      rcases List.forall_mem_cons.mp lawful with ⟨here, later⟩
      simp only [Intersection.resolveAfter]
      split
      · split
        · exact List.forall_mem_cons.mpr ⟨rfl, ih later left⟩
        · exact ih later left
      · exact List.forall_mem_cons.mpr ⟨here, ih later (some first)⟩

/-! ## Classification -/

/-- Openers and stops lose at most the mark of implicit intersection. -/
theorem Token.IsLawful.classifyToken_eq
    {token : Token}
    (lawful : token.IsLawful) (isMark : token.isMark)
    (behindValue : Bool) :
    Classification.classifyToken behindValue token = token.unmarked := by
  unfold Classification.classifyToken Token.unmarked
  rcases lawful.isGroup isMark with kind | kind
  · simp only [kind, true_and]
    split
    · next starts =>
        split
        · next name value => simp [starts, value]
        · next noMark =>
            rw [if_neg]
            rintro ⟨-, marked⟩
            rcases List.head?_eq_some_iff.mp marked with ⟨name, value⟩
            exact noMark name value
    · next noStart => simp [noStart]
  · simp [kind]

theorem classifyToken_plain
    {token : Token} (plain : token.isMark = false) (behindValue : Bool) :
    (Classification.classifyToken behindValue token).isMark = false := by
  unfold Classification.classifyToken
  split
  · split
    · split <;> rfl
    · split
      · split <;> rfl
      · split
        · unfold Classification.infixSubkind
          split
          · rfl
          · split <;> rfl
        · exact plain
  · split
    · unfold Classification.operandSubkind
      split
      · rfl
      · split <;> rfl
    · exact plain
  · split
    · split <;> exact plain
    · exact plain
  · exact plain

theorem marks_classifyAfter
    {tokens : List Token}
    (lawful : ∀ token ∈ tokens, token.IsLawful)
    (previous : Option Token) :
    marks (Classification.classifyAfter previous tokens) =
      (marks tokens).map Token.unmarked := by
  induction tokens generalizing previous with
  | nil => rfl
  | cons token rest ih =>
      rcases List.forall_mem_cons.mp lawful with ⟨here, later⟩
      unfold marks at ih ⊢
      simp only [Classification.classifyAfter]
      cases isMark : token.isMark with
      | true =>
          have stays : token.unmarked.kind ≠ .noOp := by
            rcases here.isGroup isMark with kind | kind <;> simp [kind]
          have still : token.unmarked.isMark = true := by simpa [Token.isMark] using isMark
          rw [here.classifyToken_eq isMark, if_neg stays, List.filter_cons_of_pos still,
            List.filter_cons_of_pos isMark, List.map_cons, ih later]
      | false =>
          have plain := classifyToken_plain isMark (previous.any Classification.endsValue)
          rw [List.filter_cons_of_neg (by simp [isMark])]
          split
          · exact ih later (some token)
          · rw [List.filter_cons_of_neg (by simp [plain])]
            exact ih later (some token)

/-! ## Replaying only openers and stops -/

namespace Nesting

theorem replay_marks (nesting : Nesting) (tokens : List Token) :
    replay nesting ((marks tokens).map some) = replay nesting (tokens.map some) := by
  induction tokens generalizing nesting with
  | nil => rfl
  | cons token rest ih =>
      unfold marks at ih ⊢
      cases isMark : token.isMark with
      | true =>
          rw [List.filter_cons_of_pos isMark]
          simp only [List.map_cons, replay, ih]
      | false =>
          rw [List.filter_cons_of_neg (by simp [isMark]), ih]
          simp [replay, turn_of_plain isMark]

theorem turn_unmarked (nesting : Nesting) (token : Token) :
    turn (nesting.map Token.unmarked) token.unmarked =
      (turn nesting token).map (List.map Token.unmarked) := by
  unfold turn
  simp only [Token.unmarked_isStart, Token.unmarked_isStop]
  split
  · rfl
  · split
    · cases nesting with
      | nil => rfl
      | cons opener outer =>
          simp only [List.map_cons, Token.unmarked_closes]
          split <;> rfl
    · rfl

theorem replay_unmarked (nesting : Nesting) (tokens : List Token) :
    replay (nesting.map Token.unmarked) ((tokens.map Token.unmarked).map some) =
      (replay nesting (tokens.map some)).map (List.map Token.unmarked) := by
  induction tokens generalizing nesting with
  | nil => rfl
  | cons token rest ih =>
      simp only [List.map_cons, replay, turn_unmarked]
      cases turn nesting token with
      | none => rfl
      | some next => exact ih next

/-! ## The groups of a formula -/

theorem lastState_moves_nesting (text : List Char) :
    (lastState .initial (moves false text)).nesting = (finalState text).nesting := by
  rw [moves_lenient, List.append_cons, lastState_concat]
  unfold closeGroups
  split <;> exact closeLiteral_nesting text _

/-- The replay of the tokens of a formula gives the groups that its scan leaves open. -/
theorem replay_tokens
    {isStrict : Bool} {formula : List Char} {tokens : List Token}
    (found : Formula.tokens isStrict formula = .ok tokens) :
    replay [] (tokens.map some) =
      some ((finalState (Formula.normalize formula)).nesting.map Token.unmarked) := by
  rcases Formula.tokens_eq_ok_iff.mp found with ⟨scanned, scans, rfl⟩
  generalize Formula.normalize formula = text at scans ⊢
  have left : entries false (moves false text) = scanned.map some :=
    (scan_eq_ok_iff.mp scans).1
  have all : moves false text <+: moves false text := List.prefix_rfl
  have lawful : ∀ token ∈ scanned, token.IsLawful := by
    intro token member
    apply lawful_entries all
    rw [left]
    exact List.mem_map_of_mem member
  have replayed : replay [] (scanned.map some) = some (finalState text).nesting := by
    rw [← left, replay_entries all, lastState_moves_nesting]
  have resolved : ∀ token ∈ Intersection.resolve scanned, token.IsLawful :=
    lawful_resolveAfter lawful none
  have kept : marks (Classification.classify (Intersection.resolve scanned)) =
      (marks scanned).map Token.unmarked := by
    rw [Classification.classify, marks_classifyAfter resolved, Intersection.resolve,
      marks_resolveAfter lawful]
  rw [← replay_marks, kept]
  have unmarked := replay_unmarked [] (marks scanned)
  rw [replay_marks, replayed] at unmarked
  exact unmarked

/-- A strict scan that succeeds leaves no group open. -/
theorem nesting_of_strict
    {text : List Char} {entries : List Entry}
    (scanned : scan true text = .ok entries) :
    (finalState text).nesting = [] := by
  have quiet : (lenient text).departures = [] := (scan_eq_ok_iff.mp scanned).2 rfl
  exact ((lenient_departures_eq_nil_iff text).mp quiet).2.2

/-- The groups that a scan leaves open begin with openers. -/
theorem opened_finalState (text : List Char) : Opened (finalState text).nesting := by
  have all : moves false text <+: moves false text := List.prefix_rfl
  have opened := ((kept_nesting false text).of_isPrefix all).1
  rwa [lastState_moves_nesting] at opened

/--
Groups are kept in step by all passes.

- At every place of a scan, the replay of the entries so far gives the nesting of
  the scanner, and the tokens among them are lawful.
- Both passes behind the scan keep the openers and stops of lawful tokens; the
  second takes one mark off the names of functions.
- The tokens of a formula that has to be well formed are properly nested.
- The tokens of any formula can be completed to a properly nested list by the stops
  of the groups that its scan leaves open.
-/
theorem groups_kept_by_passes :
    (∀ (isStrict : Bool) (text : List Char) (made : List Move),
      made <+: moves isStrict text →
        replay [] (entries isStrict made) = some (lastState .initial made).nesting ∧
          ∀ token, some token ∈ entries isStrict made → token.IsLawful) ∧
      (∀ tokens : List Token, (∀ token ∈ tokens, token.IsLawful) →
        marks (Intersection.resolve tokens) = marks tokens ∧
          (∀ token ∈ Intersection.resolve tokens, token.IsLawful) ∧
          marks (Classification.classify tokens) = (marks tokens).map Token.unmarked) ∧
      (∀ (formula : List Char) (tokens : List Token),
        Formula.tokens true formula = .ok tokens →
          WellNested tokens ∧ tokens.countP Token.isStart = tokens.countP Token.isStop) ∧
      ∀ (formula : List Char) (tokens : List Token),
        Formula.tokens false formula = .ok tokens →
          replay [] (tokens.map some) =
              some ((finalState (Formula.normalize formula)).nesting.map Token.unmarked) ∧
            WellNested (tokens ++ stops (finalState (Formula.normalize formula)).nesting) := by
  refine ⟨?_, ?_, ?_, ?_⟩
  · intro isStrict text made begins
    exact ⟨replay_entries begins, lawful_entries begins⟩
  · intro tokens lawful
    exact ⟨marks_resolveAfter lawful none, lawful_resolveAfter lawful none,
      marks_classifyAfter lawful none⟩
  · intro formula tokens found
    rcases Formula.tokens_eq_ok_iff.mp found with ⟨scanned, scans, -⟩
    have nested : WellNested tokens := by
      apply wellNested_of_replay
      rw [replay_tokens found, nesting_of_strict scans]
      rfl
    exact ⟨nested, nested.countP_eq⟩
  · intro formula tokens found
    have replayed := replay_tokens found
    refine ⟨replayed, ?_⟩
    apply wellNested_of_replay
    rw [List.map_append, replay_append, replayed, Option.bind_some]
    have opened : ∀ opener ∈ (finalState (Formula.normalize formula)).nesting.map Token.unmarked,
        opener.isStart := by
      simpa using (opened_finalState (Formula.normalize formula)).isStart
    have closed := replay_stops opened
    simpa [stops, stopFor, Function.comp_def] using closed

end Nesting

end SheetFormula
