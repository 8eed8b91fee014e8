import SheetFormula.Proofs.Layout.Attachment
import SheetFormula.Proofs.Passes.Texts

/-!
# Expressions

A grammar of classified tokens that asks nothing of their texts: operands with
minus signs before them and percent signs behind them, operators between them,
parentheses, calls with arguments that may be left out, and array literals with
cells that may be left out.

What the layout needs of it is local.  `Fitting` says how the tokens of an
expression stand next to each other, and the groups of an expression are a path
(`Forms.grouped`).
-/

namespace SheetFormula.Layout

open Classification RoundTrip

/-! ## Grammar -/

/-- Names that cannot be taken for a part of an array literal. -/
def IsFree (name : List Char) : Prop :=
  name ∉ arrayRowStopText :: arrayNames

/-- What tokens form: an expression, or the arguments and cells inside of a group. -/
inductive Part where
  | expression
  | contents

/-- The tokens of a part. -/
inductive Forms : Part → List Token → Prop where
  | operand {token : Token}
      (isOperand : token.kind = .operand) :
      Forms .expression [token]
  | negative {tokens : List Token}
      (value : Forms .expression tokens) :
      Forms .expression (minus :: tokens)
  | percentage {tokens : List Token}
      (value : Forms .expression tokens) :
      Forms .expression (tokens ++ [percent])
  | joined {left right : List Token} {operator : Token}
      (first : Forms .expression left)
      (isInfix : operator.kind = .infixOp)
      (second : Forms .expression right) :
      Forms .expression (left ++ operator :: right)
  | parenthesis {opener : Token} {inner : List Token}
      (isParenthesis : IsParenthesis IsFree opener)
      (inside : Forms .contents inner) :
      Forms .expression (opener :: inner ++ [Nesting.stopFor opener []])
  | array {inner : List Token}
      (inside : Forms .contents inner) :
      Forms .expression (arrayStart :: arrayRowStart :: inner ++ [arrayRowStop, arrayStop])
  | nothing :
      Forms .contents []
  | single {tokens : List Token}
      (value : Forms .expression tokens) :
      Forms .contents tokens
  | separated {left right : List Token} {mark : Char}
      (first : Forms .contents left)
      (isMark : mark = ',' ∨ mark = ';')
      (second : Forms .contents right) :
      Forms .contents (left ++ separator mark :: right)

/-! ## Neighbours -/

/-- Whether a token is an operator between values. -/
def isOperator (token : Token) : Bool :=
  token.kind == .infixOp

/-- Whether a token starts a value. -/
def startsValue (token : Token) : Bool :=
  token.kind == .operand || token.kind == .prefixOp || token.isStart

/--
Operators and percent signs stand behind a value, and a value stands behind every
operator; `last` is the token before all.
-/
def Fitting : Option Token → List Token → Prop
  | _, [] => True
  | last, token :: rest =>
      (isOperator token ∨ token.kind = .postfixOp → last.any endsValue) ∧
        (last.any isOperator → startsValue token) ∧ Fitting (some token) rest

section Neighbours

variable {last : Option Token} {token : Token} {first second : List Token}

theorem fitting_append :
    Fitting last (first ++ second) ↔
      Fitting last first ∧ Fitting (first.getLast?.or last) second := by
  induction first generalizing last with
  | nil => simp [Fitting]
  | cons token rest ih =>
      rw [List.cons_append, Fitting, Fitting, ih, getLast?_cons_or]
      simp only [and_assoc]

theorem Fitting.split
    {earlier later : List Token}
    (fitting : Fitting none (earlier ++ token :: later)) :
    (isOperator token ∨ token.kind = .postfixOp → earlier.getLast?.any endsValue) ∧
      (earlier.getLast?.any isOperator → startsValue token) := by
  have behind := (fitting_append.mp fitting).2
  rw [Option.or_none] at behind
  exact ⟨behind.1, behind.2.1⟩

theorem isOperator_of_endsValue (ends : endsValue token) : isOperator token = false := by
  rw [Bool.eq_false_iff]
  intro isInfix
  rw [endsValue_infixOp (by simpa [isOperator] using isInfix)] at ends
  cases ends

theorem any_isOperator_of_endsValue
    {last : Option Token} (ends : last.any endsValue) : last.any isOperator = false := by
  cases last with
  | none => rfl
  | some token => exact isOperator_of_endsValue ends

/-- A token that starts a value can stand behind every token. -/
theorem fitting_of_startsValue
    (starts : startsValue token)
    (noOperator : isOperator token = false)
    (noPercent : token.kind ≠ .postfixOp)
    (rest : Fitting (some token) second) :
    Fitting last (token :: second) := by
  refine ⟨?_, fun _ => starts, rest⟩
  simp [noOperator, noPercent]

/-- A token that neither operates nor starts a value stands behind no operator. -/
theorem fitting_of_unjoined
    (unjoined : last.any isOperator = false)
    (noOperator : isOperator token = false)
    (noPercent : token.kind ≠ .postfixOp)
    (rest : Fitting (some token) second) :
    Fitting last (token :: second) := by
  refine ⟨?_, ?_, rest⟩
  · simp [noOperator, noPercent]
  · simp [unjoined]

end Neighbours

/-- How the tokens of a part stand next to each other, and next to what is around them. -/
def Sits : Part → List Token → Prop
  | .expression, tokens =>
      tokens.getLast?.any endsValue ∧ ∀ last, Fitting last tokens
  | .contents, tokens =>
      ∀ last, last.any isOperator = false →
        Fitting last tokens ∧ (tokens.getLast?.or last).any isOperator = false

section Parts

variable {part : Part} {tokens inner : List Token}

theorem any_or_of_any
    {property : Token → Bool} {first second : Option Token}
    (found : first.any property) :
    (first.or second).any property := by
  cases first with
  | none => cases found
  | some token => exact found

theorem any_getLast?_append
    {property : Token → Bool} {second : List Token}
    (found : second.getLast?.any property)
    (first : List Token) :
    (first ++ second).getLast?.any property := by
  rw [List.getLast?_append]
  exact any_or_of_any found

/-- An expression can be the contents of a group. -/
theorem Sits.contents (sits : Sits .expression tokens) : Sits .contents tokens := by
  intro last _
  exact ⟨sits.2 last, any_isOperator_of_endsValue (any_or_of_any sits.1)⟩

/-- A group fits where a value does: its contents stand behind the opener. -/
theorem sits_group
    {opener stop : Token}
    (isStart : opener.isStart)
    (openerGroup : opener.isGroup)
    (isStop : stop.isStop)
    (stopGroup : stop.isGroup)
    (inside : Sits .contents inner) :
    Sits .expression (opener :: inner ++ [stop]) := by
  have noOperator {token : Token} (isGroup : token.isGroup) : isOperator token = false := by
    cases kind : token.kind <;> simp_all [Token.isGroup, isOperator]
  have noPercent {token : Token} (isGroup : token.isGroup) : token.kind ≠ .postfixOp := by
    intro kind
    simp [Token.isGroup, kind] at isGroup
  rcases inside (some opener) (noOperator openerGroup) with ⟨fitting, unjoined⟩
  constructor
  · rw [List.getLast?_concat]
    simp [endsValue, isStop, stopGroup]
  · intro last
    apply fitting_of_startsValue (by simp [startsValue, isStart]) (noOperator openerGroup)
      (noPercent openerGroup)
    refine fitting_append.mpr ⟨fitting, ?_⟩
    exact fitting_of_unjoined unjoined (noOperator stopGroup) (noPercent stopGroup) trivial

theorem Forms.sits (forms : Forms part tokens) : Sits part tokens := by
  induction forms with
  | operand isOperand =>
      refine ⟨by simp [endsValue, isOperand], fun last => ?_⟩
      exact fitting_of_startsValue (by simp [startsValue, isOperand])
        (by simp [isOperator, isOperand]) (by simp [isOperand]) trivial
  | negative _ ih =>
      refine ⟨any_getLast?_append ih.1 [minus], fun last => ?_⟩
      exact fitting_of_startsValue rfl rfl (by simp [minus]) (ih.2 _)
  | @percentage tokens _ ih =>
      refine ⟨any_getLast?_append rfl _, fun last => ?_⟩
      have ends : (tokens.getLast?.or last).any endsValue := any_or_of_any ih.1
      refine fitting_append.mpr ⟨ih.2 last, fun _ => ends, ?_, trivial⟩
      simp [any_isOperator_of_endsValue ends]
  | @joined left right operator _ isInfix _ first second =>
      have whole : left ++ operator :: right = (left ++ [operator]) ++ right := List.append_cons ..
      rw [whole]
      refine ⟨any_getLast?_append second.1 _, fun last => ?_⟩
      have ends : (left.getLast?.or last).any endsValue := any_or_of_any first.1
      rw [← whole]
      refine fitting_append.mpr ⟨first.2 last, fun _ => ends, ?_, second.2 _⟩
      simp [any_isOperator_of_endsValue ends]
  | parenthesis isParenthesis _ inside =>
      exact sits_group isParenthesis.isStart isParenthesis.isGroup rfl isParenthesis.stop_isGroup
        inside
  | @array inner _ inside =>
      have row : Sits .expression (arrayRowStart :: inner ++ [arrayRowStop]) :=
        sits_group rfl rfl rfl rfl inside
      have wrapper : Sits .expression
          (arrayStart :: (arrayRowStart :: inner ++ [arrayRowStop]) ++ [arrayStop]) :=
        sits_group rfl rfl rfl rfl row.contents
      simpa using wrapper
  | nothing => exact fun last unjoined => ⟨trivial, unjoined⟩
  | single _ ih => exact ih.contents
  | @separated left right mark _ _ _ first second =>
      intro last unjoined
      rcases first last unjoined with ⟨fitting, unjoinedBehind⟩
      rcases second (some (separator mark)) rfl with ⟨fittingBehind, unjoinedLast⟩
      have noPercent : (separator mark).kind ≠ .postfixOp := by simp [separator]
      refine ⟨fitting_append.mpr ⟨fitting, ?_⟩, ?_⟩
      · exact fitting_of_unjoined unjoinedBehind rfl noPercent fittingBehind
      · rw [List.getLast?_append, Option.or_assoc, getLast?_cons_or]
        exact unjoinedLast

/-! ## Groups -/

theorem isPlain_of_noGroup
    {token : Token}
    (shape : token.isGroup ∨ IsPlain token)
    (noGroup : token.isGroup = false) :
    IsPlain token := by
  rcases shape with isGroup | isPlain
  · rw [noGroup] at isGroup
    cases isGroup
  · exact isPlain

/-- The tokens of a part are a path of groups that ends where it begins. -/
theorem Forms.grouped
    (forms : Forms part tokens)
    (shapes : ∀ token ∈ tokens, token.isGroup ∨ IsPlain token)
    (nesting : Nesting) :
    Grouped IsPlain IsFree nesting tokens nesting := by
  induction forms generalizing nesting with
  | @operand token isOperand =>
      have isPlain := isPlain_of_noGroup (shapes token (by simp))
        (by simp [Token.isGroup, isOperand])
      exact .plain isPlain .nil
  | negative _ ih =>
      rcases List.forall_mem_cons.mp shapes with ⟨sign, value⟩
      exact .plain (isPlain_of_noGroup sign rfl) (ih value nesting)
  | percentage _ ih =>
      rcases List.forall_mem_append.mp shapes with ⟨value, sign⟩
      have isPlain := isPlain_of_noGroup (sign percent (by simp)) rfl
      exact (ih value nesting).append (.plain isPlain .nil)
  | @joined _ _ operator _ isInfix _ first second =>
      rcases List.forall_mem_append.mp shapes with ⟨left, others⟩
      rcases List.forall_mem_cons.mp others with ⟨middle, right⟩
      have isPlain := isPlain_of_noGroup middle (by simp [Token.isGroup, isInfix])
      exact (first left nesting).append (.plain isPlain (second right nesting))
  | parenthesis isParenthesis _ ih =>
      rcases List.forall_mem_append.mp shapes with ⟨others, -⟩
      have contents := ih (List.forall_mem_cons.mp others).2
      exact .opens isParenthesis ((contents _).append (.closes isParenthesis .nil))
  | array _ ih =>
      rcases List.forall_mem_append.mp shapes with ⟨others, -⟩
      have contents := ih (List.forall_mem_cons.mp (List.forall_mem_cons.mp others).2).2
      exact .brace ((contents _).append (.closeBrace .nil))
  | nothing => exact .nil
  | single _ ih => exact ih shapes nesting
  | separated _ isMark _ first second =>
      rcases List.forall_mem_append.mp shapes with ⟨left, others⟩
      have right := (List.forall_mem_cons.mp others).2
      exact (first left nesting).append (.plain (isPlain_separator isMark) (second right nesting))

/-- What a token of an expression is not: it is of no unknown kind, and there are only two signs. -/
structure IsKnown (token : Token) : Prop where
  kind : token.kind ≠ .unknown
  sign : token.kind = .prefixOp → token = minus
  percent : token.kind = .postfixOp → token = percent

theorem isKnown_of_kind
    {token : Token}
    (other : token.kind ≠ .unknown ∧ token.kind ≠ .prefixOp ∧ token.kind ≠ .postfixOp) :
    IsKnown token :=
  ⟨other.1, fun isSign => absurd isSign other.2.1, fun isPercent => absurd isPercent other.2.2⟩

theorem isKnown_of_isGroup {token : Token} (isGroup : token.isGroup) : IsKnown token := by
  apply isKnown_of_kind
  cases kind : token.kind <;> simp_all [Token.isGroup]

theorem Forms.known (forms : Forms part tokens) : ∀ token ∈ tokens, IsKnown token := by
  induction forms with
  | @operand token isOperand =>
      intro other member
      cases List.mem_singleton.mp member
      exact isKnown_of_kind (by simp [isOperand])
  | negative _ ih =>
      have sign : IsKnown minus := ⟨by simp [minus], fun _ => rfl, by simp [minus]⟩
      exact List.forall_mem_cons.mpr ⟨sign, ih⟩
  | percentage _ ih =>
      have sign : IsKnown RoundTrip.percent :=
        ⟨by simp [RoundTrip.percent], by simp [RoundTrip.percent], fun _ => rfl⟩
      exact List.forall_mem_append.mpr ⟨ih, List.forall_mem_singleton.mpr sign⟩
  | @joined _ _ operator _ isInfix _ first second =>
      have middle : IsKnown operator := isKnown_of_kind (by simp [isInfix])
      exact List.forall_mem_append.mpr ⟨first, List.forall_mem_cons.mpr ⟨middle, second⟩⟩
  | parenthesis isParenthesis _ ih =>
      have stop := isKnown_of_isGroup isParenthesis.stop_isGroup
      have opener := isKnown_of_isGroup isParenthesis.isGroup
      exact List.forall_mem_append.mpr
        ⟨List.forall_mem_cons.mpr ⟨opener, ih⟩, List.forall_mem_singleton.mpr stop⟩
  | array _ ih =>
      have part {token : Token} (isGroup : token.isGroup) := isKnown_of_isGroup isGroup
      refine List.forall_mem_append.mpr ⟨List.forall_mem_cons.mpr ⟨part rfl, ?_⟩, ?_⟩
      · exact List.forall_mem_cons.mpr ⟨part rfl, ih⟩
      · exact List.forall_mem_cons.mpr ⟨part rfl, List.forall_mem_singleton.mpr (part rfl)⟩
  | nothing =>
      intro token member
      cases member
  | single _ ih => exact ih
  | @separated _ _ mark _ _ _ first second =>
      have middle : IsKnown (separator mark) := isKnown_of_kind (by simp [separator])
      exact List.forall_mem_append.mpr ⟨first, List.forall_mem_cons.mpr ⟨middle, second⟩⟩

end Parts

end SheetFormula.Layout
