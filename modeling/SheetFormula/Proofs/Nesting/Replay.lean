import SheetFormula.Proofs.Scan.Boundaries

/-!
# Replaying the groups of a scan

The groups that are open at a place can be read off the entries before it: an
opener opens a group, and a stop closes the innermost one, which has to be of
its kind.  `Nesting.replay` does this and fails at a stop without its group.

A list of tokens whose replay leaves nothing open is properly nested
(`wellNested_of_replay`).  After every move of a scan, the replay of the entries
so far gives the nesting of the scanner (`replay_entries`).
-/

namespace SheetFormula

open Scan

/-- Whether a token opens or ends a group. -/
def Token.isMark (token : Token) : Bool :=
  token.isStart || token.isStop

/-- Whether a token opens a call or a parenthesis. -/
def Token.isOpener (token : Token) : Bool :=
  token.isStart && token.isGroup

namespace Nesting

/-! ## Replay -/

/-- The open groups behind a token; a stop needs a group of its kind. -/
def turn (nesting : Nesting) (token : Token) : Option Nesting :=
  if token.isStart then some (nesting.push token)
  else if token.isStop then
    match nesting with
    | [] => none
    | opener :: outer => if token.closes opener then some outer else none
  else some nesting

/-- The open groups behind some entries.  Vacant entries change nothing. -/
def replay (nesting : Nesting) : List Entry → Option Nesting
  | [] => some nesting
  | none :: rest => replay nesting rest
  | some token :: rest => (turn nesting token).bind fun next => replay next rest

@[simp]
theorem replay_nil (nesting : Nesting) : replay nesting [] = some nesting := rfl

theorem replay_append (nesting : Nesting) (first second : List Entry) :
    replay nesting (first ++ second) =
      (replay nesting first).bind fun next => replay next second := by
  induction first generalizing nesting with
  | nil => rfl
  | cons entry rest ih =>
      cases entry with
      | none => exact ih nesting
      | some token =>
          cases turned : turn nesting token with
          | none => simp [replay, turned]
          | some next => simp [replay, turned, ih]

theorem turn_of_plain
    {token : Token} (plain : token.isMark = false) (nesting : Nesting) :
    turn nesting token = some nesting := by
  simp only [Token.isMark, Bool.or_eq_false_iff] at plain
  simp [turn, plain]

theorem turn_of_closes
    {token opener : Token} (closes : token.closes opener) (outer : Nesting) :
    turn (opener :: outer) token = some outer := by
  have isStop : token.subkind = some .stop := by
    simp only [Token.closes, Token.isStop, Bool.and_eq_true, beq_iff_eq] at closes
    exact closes.1.1
  simp [turn, Token.isStart, Token.isStop, isStop, closes]

/-- Entries that neither open nor end a group change nothing. -/
theorem replay_of_plain
    {entries : List Entry}
    (plain : ∀ token, some token ∈ entries → token.isMark = false)
    (nesting : Nesting) :
    replay nesting entries = some nesting := by
  induction entries with
  | nil => rfl
  | cons entry rest ih =>
      have later : replay nesting rest = some nesting := by
        apply ih
        intro token member
        exact plain token (List.mem_cons_of_mem entry member)
      cases entry with
      | none => exact later
      | some token => simp [replay, turn_of_plain (plain token (by simp)), later]

/-! ## Properly nested lists -/

/-- Lists in which every opener has its stop, of the same kind and in order. -/
inductive WellNested : List Token → Prop where
  | nil : WellNested []
  | plain {token : Token} {rest : List Token}
      (plain : token.isMark = false)
      (later : WellNested rest) :
      WellNested (token :: rest)
  | group {opener stop : Token} {inner rest : List Token}
      (closes : stop.closes opener)
      (inside : WellNested inner)
      (later : WellNested rest) :
      WellNested (opener :: inner ++ stop :: rest)

/--
Lists that close some open groups: a properly nested list before each stop, and
one behind the last of them.
-/
inductive Closing : Nesting → List Token → Prop where
  | outermost {tokens : List Token}
      (nested : WellNested tokens) :
      Closing [] tokens
  | innermost {opener stop : Token} {outer : Nesting} {inner rest : List Token}
      (closes : stop.closes opener)
      (inside : WellNested inner)
      (later : Closing outer rest) :
      Closing (opener :: outer) (inner ++ stop :: rest)

/-- A beginning that keeps lists properly nested can be put before a closing list. -/
theorem Closing.prepend
    {beginning tokens : List Token} {nesting : Nesting}
    (closing : Closing nesting tokens)
    (keeps : ∀ {rest}, WellNested rest → WellNested (beginning ++ rest)) :
    Closing nesting (beginning ++ tokens) := by
  cases closing with
  | outermost nested => exact .outermost (keeps nested)
  | innermost closes inside later =>
      rw [← List.append_assoc]
      exact .innermost closes (keeps inside) later

/-- A replay that leaves nothing open has closed the groups it began with. -/
theorem closing_of_replay
    {tokens : List Token} {nesting : Nesting}
    (replayed : replay nesting (tokens.map some) = some []) :
    Closing nesting tokens := by
  induction tokens generalizing nesting with
  | nil =>
      cases replayed
      exact .outermost .nil
  | cons token rest ih =>
      rcases Option.bind_eq_some_iff.mp replayed with ⟨next, turned, later⟩
      have closing := ih later
      unfold turn at turned
      split at turned
      · -- the rest closes the new group first and then the ones before it
        cases turned
        cases closing with
        | @innermost _ stop _ inner others closes inside after =>
            have keeps : ∀ {tokens}, WellNested tokens →
                WellNested (token :: inner ++ [stop] ++ tokens) := by
              intro tokens nested
              simpa using WellNested.group closes inside nested
            simpa using after.prepend keeps
      · next noStart =>
          split at turned
          · split at turned
            · cases turned
            · split at turned
              · next closes =>
                  cases turned
                  exact .innermost closes .nil closing
              · cases turned
          · next noStop =>
              cases turned
              have plain : token.isMark = false := by simp [Token.isMark, noStart, noStop]
              have keeps : ∀ {tokens}, WellNested tokens → WellNested ([token] ++ tokens) :=
                fun nested => .plain plain nested
              exact closing.prepend keeps

/-- A list whose replay leaves nothing open is properly nested. -/
theorem wellNested_of_replay
    {tokens : List Token}
    (replayed : replay [] (tokens.map some) = some []) :
    WellNested tokens := by
  cases closing_of_replay replayed with
  | outermost nested => exact nested

/-- A properly nested list has as many stops as openers. -/
theorem WellNested.countP_eq
    {tokens : List Token}
    (nested : WellNested tokens) :
    tokens.countP Token.isStart = tokens.countP Token.isStop := by
  induction nested with
  | nil => rfl
  | plain plain _ ih =>
      simp only [Token.isMark, Bool.or_eq_false_iff] at plain
      simpa [List.countP_cons, plain] using ih
  | @group opener stop inner rest closes _ _ ihInside ihLater =>
      simp only [Token.closes, Token.isStart, Token.isStop, Bool.and_eq_true,
        beq_iff_eq] at closes
      have opens : opener.isStart = true ∧ opener.isStop = false := by
        simp [Token.isStart, Token.isStop, closes.1.2]
      have ends : stop.isStart = false ∧ stop.isStop = true := by
        simp [Token.isStart, Token.isStop, closes.1.1]
      simp only [List.cons_append, List.countP_cons, List.countP_append, opens, ends, ihInside,
        ihLater, Bool.false_eq_true, if_true, if_false]
      omega

/-- The stops of the open groups, innermost first. -/
def stops (nesting : Nesting) : List Token :=
  nesting.map fun opener => stopFor opener []

theorem replay_stops
    {nesting : Nesting}
    (opened : ∀ opener ∈ nesting, opener.isStart) :
    replay nesting ((stops nesting).map some) = some [] := by
  induction nesting with
  | nil => rfl
  | cons opener outer ih =>
      have closes : (stopFor opener []).closes opener :=
        stopFor_closes opener [] (opened opener (by simp))
      have later : replay outer ((stops outer).map some) = some [] := by
        apply ih
        intro other member
        exact opened other (List.mem_cons_of_mem opener member)
      simpa [stops, replay, turn_of_closes closes] using later

end Nesting

namespace Scan

open Nesting

/-! ## The nesting of the scanner -/

theorem State.flush_plain
    {state : State} {kind : Kind} {token : Token}
    (member : some token ∈ state.flush kind) :
    token.isMark = false := by
  unfold State.flush at member
  split at member
  · cases member
  · cases List.mem_singleton.mp member
    rfl

/-- What is flushed before other entries changes nothing about the open groups. -/
theorem replay_flush_append
    (state : State) (kind : Kind) (nesting : Nesting) (entries : List Entry) :
    replay nesting (state.flush kind ++ entries) = replay nesting entries := by
  rw [replay_append, replay_of_plain (fun _ member => State.flush_plain member), Option.bind_some]

theorem Separates.plain
    {nesting : Nesting} {char : Char} {tail : List Char} {token : Token} {extra : Nat}
    (separates : Separates nesting char tail token extra) :
    token.isMark = false := by
  cases separates with
  | comma =>
      unfold commaToken
      split <;> rfl
  | _ => rfl

/-- All openers of a nesting open a call or a parenthesis. -/
def Opened (nesting : Nesting) : Prop :=
  ∀ opener ∈ nesting, opener.isOpener

theorem Opened.isStart
    {nesting : Nesting} (opened : Opened nesting) :
    ∀ opener ∈ nesting, opener.isStart := by
  intro opener member
  have isOpener := opened opener member
  simp only [Token.isOpener, Bool.and_eq_true] at isOpener
  exact isOpener.1

theorem Opened.push
    {nesting : Nesting} {opener : Token}
    (opened : Opened nesting) (isOpener : opener.isOpener) :
    Opened (opener :: nesting) :=
  List.forall_mem_cons.mpr ⟨isOpener, opened⟩

theorem Opened.tail
    {nesting : Nesting} (opened : Opened nesting) :
    Opened nesting.tail := by
  intro opener member
  exact opened opener (List.mem_of_mem_tail member)

/-- A step leaves only openers open. -/
theorem Rule.opened
    {state : State} {char : Char} {tail : List Char} {move : Move}
    (rule : Rule state char tail move)
    (opened : Opened state.nesting) :
    Opened move.next.nesting := by
  cases rule with
  | openArray => exact (opened.push rfl).push rfl
  | openParenthesis =>
      apply opened.push
      split <;> rfl
  | closeArray _ nesting =>
      rw [nesting] at opened
      exact opened.tail.tail
  | closeParenthesis _ nesting =>
      rw [nesting] at opened
      exact opened.tail
  | _ => exact opened

/-- A step changes the open groups as its entries say. -/
theorem Rule.replay_eq
    {state : State} {char : Char} {tail : List Char} {move : Move}
    (rule : Rule state char tail move)
    (opened : Opened state.nesting)
    (isStrict : Bool) :
    replay state.nesting (move.entries isStrict) = some move.next.nesting := by
  have recovers : ∀ closer,
      replay state.nesting ((unbalanced state closer).entries isStrict) = some state.nesting := by
    intro closer
    apply replay_of_plain
    intro token member
    cases isStrict with
    | true => exact State.flush_plain member
    | false =>
        rcases List.mem_append.mp member with flushed | recovered
        · exact State.flush_plain flushed
        · cases List.mem_singleton.mp recovered
          rfl
  have single : ∀ {token : Token} {kind : Kind}, token.isMark = false →
      replay state.nesting (state.flush kind ++ [some token]) = some state.nesting := by
    intro token kind plain
    rw [replay_flush_append]
    simp [replay, turn_of_plain plain]
  cases rule with
  | separate _ _ separates =>
      simpa [Move.entries, Scan.separate] using single separates.plain
  | openLiteral =>
      have flushed := replay_flush_append state .unknown state.nesting []
      simpa [Move.entries, Scan.openLiteral] using flushed
  | openArray =>
      simp only [Move.entries, Scan.openArray, List.append_nil, ite_self]
      rw [replay_flush_append]
      rfl
  | openParenthesis =>
      simp only [Move.entries, Scan.openParenthesis, List.append_nil, ite_self]
      split <;> rfl
  | @closeArray _ row outer _ nesting isRow =>
      rw [nesting] at opened
      have closesRow : (stopFor row arrayRowStopText).closes row :=
        stopFor_closes row _ (opened.isStart row (by simp))
      simp only [Move.entries, List.append_nil, ite_self]
      rw [replay_flush_append, nesting, replay, turn_of_closes closesRow, Option.bind_some]
      cases outer with
      | nil => rfl
      | cons wrapper rest =>
          have closesWrapper : (stopFor wrapper arrayStopText).closes wrapper :=
            stopFor_closes wrapper _ (opened.isStart wrapper (by simp))
          simp [replay, turn_of_closes closesWrapper]
  | @closeParenthesis _ opener outer _ nesting noRow =>
      rw [nesting] at opened
      have closes : (stopFor opener []).closes opener :=
        stopFor_closes opener _ (opened.isStart opener (by simp))
      simp only [Move.entries, List.append_nil, ite_self]
      rw [replay_flush_append, nesting]
      simp [replay, turn_of_closes closes]
  | unbalancedArray => exact recovers '}'
  | unbalancedParenthesis => exact recovers ')'
  | endText | endErrorCode =>
      simp only [Move.entries, List.append_nil, ite_self]
      rfl
  | _ => cases isStrict <;> rfl

theorem closeLiteral_replay
    (text : List Char) (state : State) (isStrict : Bool) :
    replay state.nesting ((closeLiteral text state).entries isStrict) =
      some state.nesting := by
  apply replay_of_plain
  intro token member
  unfold closeLiteral at member
  split at member
  · simp only [Move.entries, List.append_nil, ite_self] at member
    exact State.flush_plain member
  · cases isStrict with
    | true => cases member
    | false =>
        cases List.mem_singleton.mp member
        rfl

/--
What the entries and the nesting have in common at every place of a scan.  The
end of the text adds no entries but those of an open literal or buffer.
-/
theorem kept_entries
    {isStrict : Bool} {text : List Char} (property : List Entry → Nesting → Prop)
    (initial : property [] [])
    (step : ∀ {before : List Entry} {state : State} {char : Char} {tail : List Char} {move : Move},
      Rule state char tail move → Opened state.nesting → property before state.nesting →
        property (before ++ move.entries isStrict) move.next.nesting)
    (closeLiteral : ∀ {before : List Entry} {state : State},
      property before state.nesting →
        property (before ++ (Scan.closeLiteral text state).entries isStrict) state.nesting) :
    Kept text fun made state =>
      Opened state.nesting ∧ property (entries isStrict made) state.nesting where
  initial := by
    constructor
    · intro opener member
      cases member
    · exact initial
  step := by
    rintro made state char tail ⟨opened, before⟩
    have rule := stepMode_rule state char tail
    constructor
    · exact rule.opened opened
    · have after := step rule opened before
      rw [entries_append, entries_cons, entries_nil, List.append_nil]
      exact after
  closeLiteral := by
    rintro made state ⟨opened, before⟩
    rw [closeLiteral_nesting, entries_append, entries_cons, entries_nil, List.append_nil]
    exact ⟨opened, closeLiteral before⟩
  closeGroups := by
    rintro made state ⟨opened, before⟩
    unfold Scan.closeGroups
    rw [entries_append, entries_cons, entries_nil, List.append_nil]
    split
    · exact ⟨opened, by simpa [Move.entries] using before⟩
    · exact ⟨opened, by simpa [Move.entries] using before⟩

/-- At every place of a scan, the entries before it tell which groups are open. -/
theorem kept_nesting (isStrict : Bool) (text : List Char) :
    Kept text fun made state =>
      Opened state.nesting ∧ replay [] (entries isStrict made) = some state.nesting := by
  apply kept_entries fun entries nesting => replay [] entries = some nesting
  · rfl
  · intro before state char tail move rule opened replayed
    rw [replay_append, replayed, Option.bind_some]
    exact rule.replay_eq opened isStrict
  · intro before state replayed
    rw [replay_append, replayed, Option.bind_some]
    exact closeLiteral_replay text state isStrict

/-- After every move of a scan, the replay of its entries gives the nesting of the scanner. -/
theorem replay_entries
    {isStrict : Bool} {text : List Char} {made : List Move}
    (begins : made <+: moves isStrict text) :
    replay [] (entries isStrict made) = some (lastState .initial made).nesting :=
  ((kept_nesting isStrict text).of_isPrefix begins).2

end Scan

end SheetFormula
