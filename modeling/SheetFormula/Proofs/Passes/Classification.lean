import SheetFormula.Classification

/-!
# Classification as a normal form

Whether a sign is unary is read off the token before it as the scanner left it,
while classification drops some tokens and renames others.  Nothing is lost by
that: a token that ends a value is never dropped and still ends one once it is
classified, so a sign that counts as binary follows a value in the result too,
and a sign that does not is no infix operator any more.

Main statement: `classify_normalizes`, which says that classifying twice is
classifying once, that unary pluses may as well be left out beforehand, and what
the classified tokens look like.
-/

namespace SheetFormula.Classification

/-! ## One token -/

/-- A token that classification leaves alone wherever it stands. -/
structure IsSettled (token : Token) : Prop where
  noSign : token.kind = .infixOp → token.value ≠ ['-'] ∧ token.value ≠ ['+']
  subkind : token.kind = .operand ∨ token.kind = .infixOp → token.subkind.isSome
  noMark : token.kind = .function → token.isStart → token.value.head? ≠ some '@'

/-- The rules by which a token gets its final form, each with the places where it applies. -/
inductive Rule (behindValue : Bool) : Token → Token → Prop where
  | settled {token : Token} (isSettled : IsSettled token) : Rule behindValue token token
  | binary {value : List Char} {subkind : Option Subkind}
      (isSign : value = ['-'] ∨ value = ['+']) (behind : behindValue = true) :
      Rule behindValue ⟨.infixOp, value, subkind⟩ ⟨.infixOp, value, some .math⟩
  | minus {subkind : Option Subkind} (apart : behindValue = false) :
      Rule behindValue ⟨.infixOp, ['-'], subkind⟩ ⟨.prefixOp, ['-'], none⟩
  | plus {subkind : Option Subkind} (apart : behindValue = false) :
      Rule behindValue ⟨.infixOp, ['+'], subkind⟩ ⟨.noOp, ['+'], none⟩
  | operator {value : List Char} (noSign : value ≠ ['-'] ∧ value ≠ ['+']) :
      Rule behindValue ⟨.infixOp, value, none⟩
        ⟨.infixOp, value, some (infixSubkind value)⟩
  | operand (value : List Char) :
      Rule behindValue ⟨.operand, value, none⟩
        ⟨.operand, value, some (operandSubkind value)⟩
  | call (name : List Char) :
      Rule behindValue ⟨.function, '@' :: name, some .start⟩ ⟨.function, name, some .start⟩

theorem classifyToken_rule (behindValue : Bool) (token : Token) :
    Rule behindValue token (classifyToken behindValue token) := by
  rcases token with ⟨kind, value, subkind⟩
  cases kind with
  | infixOp =>
      simp only [classifyToken]
      split
      · next isMinus =>
          subst isMinus
          cases behindValue with
          | true => exact .binary (.inl rfl) rfl
          | false => exact .minus rfl
      · next noMinus =>
          split
          · next isPlus =>
              subst isPlus
              cases behindValue with
              | true => exact .binary (.inr rfl) rfl
              | false => exact .plus rfl
          · next noPlus =>
              cases subkind with
              | none => exact .operator ⟨noMinus, noPlus⟩
              | some subkind => exact .settled ⟨fun _ => ⟨noMinus, noPlus⟩, fun _ => rfl, by simp⟩
  | operand =>
      cases subkind with
      | none => exact .operand value
      | some subkind => exact .settled ⟨by simp, fun _ => rfl, by simp⟩
  | function =>
      simp only [classifyToken]
      split
      · next starts =>
          cases beq_iff_eq.mp starts
          split
          · exact .call _
          · next noMark =>
              refine .settled ⟨by simp, by simp, fun _ _ marked => ?_⟩
              rcases List.head?_eq_some_iff.mp marked with ⟨name, eq⟩
              exact noMark name eq
      · next noStart =>
          exact .settled ⟨by simp, by simp, fun _ starts => absurd starts noStart⟩
  | _ => exact .settled ⟨by simp, by simp, by simp⟩

/-- A settled token keeps its form behind anything. -/
theorem IsSettled.classifyToken_eq
    {token : Token} (isSettled : IsSettled token) (behindValue : Bool) :
    classifyToken behindValue token = token := by
  have rule := classifyToken_rule behindValue token
  generalize classifyToken behindValue token = final at rule ⊢
  cases rule with
  | settled => rfl
  | binary isSign =>
      rcases isSettled.noSign rfl with ⟨noMinus, noPlus⟩
      rcases isSign with isMinus | isPlus
      · exact absurd isMinus noMinus
      · exact absurd isPlus noPlus
  | minus => exact absurd rfl (isSettled.noSign rfl).1
  | plus => exact absurd rfl (isSettled.noSign rfl).2
  | operator => cases isSettled.subkind (.inr rfl)
  | operand => cases isSettled.subkind (.inl rfl)
  | call => exact absurd rfl (isSettled.noMark rfl rfl)

/-- A function opener with two marks, of which classification takes one. -/
def IsMarkedTwice (token : Token) : Prop :=
  token.kind = .function ∧ token.isStart ∧ ['@', '@'] <+: token.value

instance (token : Token) : Decidable (IsMarkedTwice token) :=
  inferInstanceAs (Decidable (_ ∧ _ ∧ _))

/--
A final form stays as it is wherever it stands, except that a binary sign must
stand behind a value again.
-/
theorem classifyToken_classifyToken
    {token : Token}
    (unmarked : ¬ IsMarkedTwice token)
    {behindValue behindFinal : Bool}
    (agrees : behindValue = true → behindFinal = true) :
    classifyToken behindFinal (classifyToken behindValue token) =
      classifyToken behindValue token := by
  have rule := classifyToken_rule behindValue token
  generalize classifyToken behindValue token = final at rule ⊢
  cases rule with
  | settled isSettled => exact isSettled.classifyToken_eq behindFinal
  | binary isSign behind =>
      rw [agrees behind]
      rcases isSign with rfl | rfl <;> rfl
  | minus => rfl
  | plus => rfl
  | operator noSign => exact IsSettled.classifyToken_eq ⟨fun _ => noSign, fun _ => rfl, by simp⟩ _
  | operand value => rfl
  | call name =>
      apply IsSettled.classifyToken_eq ⟨by simp, by simp, fun _ _ marked => ?_⟩
      rcases List.head?_eq_some_iff.mp marked with ⟨rest, eq⟩
      cases eq
      exact unmarked ⟨rfl, rfl, rest, rfl⟩

theorem endsValue_noOp {token : Token} (noOp : token.kind = .noOp) : endsValue token = false := by
  simp [endsValue, Token.isGroup, noOp]

theorem endsValue_infixOp
    {token : Token} (isInfix : token.kind = .infixOp) : endsValue token = false := by
  simp [endsValue, Token.isGroup, isInfix]

/-- What ends a value does so in its final form. -/
theorem endsValue_classifyToken
    {token : Token} (ends : endsValue token) (behindValue : Bool) :
    endsValue (classifyToken behindValue token) := by
  have rule := classifyToken_rule behindValue token
  generalize classifyToken behindValue token = final at rule ⊢
  cases rule with
  | settled => exact ends
  | operand => rfl
  | call => cases ends
  | _ =>
      rw [endsValue_infixOp rfl] at ends
      cases ends

/-- Operands and infix operators have a subkind in their final form. -/
theorem subkind_classifyToken (behindValue : Bool) (token : Token)
    (joins : (classifyToken behindValue token).kind = .operand ∨
      (classifyToken behindValue token).kind = .infixOp) :
    (classifyToken behindValue token).subkind.isSome := by
  have rule := classifyToken_rule behindValue token
  generalize classifyToken behindValue token = final at rule joins ⊢
  cases rule with
  | settled isSettled => exact isSettled.subkind joins
  | binary => rfl
  | minus => simp at joins
  | plus => simp at joins
  | operator => rfl
  | operand => rfl
  | call => simp at joins

/-- A sign that is an infix operator in its final form stood behind a value. -/
theorem behindValue_of_sign
    {behindValue : Bool} {token : Token}
    (isInfix : (classifyToken behindValue token).kind = .infixOp)
    (isSign : (classifyToken behindValue token).value = ['+'] ∨
      (classifyToken behindValue token).value = ['-']) :
    behindValue = true := by
  have rule := classifyToken_rule behindValue token
  generalize classifyToken behindValue token = final at rule isInfix isSign
  cases rule with
  | settled isSettled =>
      rcases isSettled.noSign isInfix with ⟨noMinus, noPlus⟩
      rcases isSign with isPlus | isMinus
      · exact absurd isPlus noPlus
      · exact absurd isMinus noMinus
  | binary _ behind => exact behind
  | minus => simp at isInfix
  | plus => simp at isInfix
  | operator noSign =>
      rcases isSign with isPlus | isMinus
      · exact absurd isPlus noSign.2
      · exact absurd isMinus noSign.1
  | operand => simp at isInfix
  | call => simp at isInfix

/-! ## Classifying twice -/

theorem classifyAfter_cons_dropped
    {previous : Option Token} {token : Token}
    (dropped : (classifyToken (previous.any endsValue) token).kind = .noOp)
    (rest : List Token) :
    classifyAfter previous (token :: rest) = classifyAfter (some token) rest := by
  simp [classifyAfter, dropped]

theorem classifyAfter_cons_kept
    {previous : Option Token} {token : Token}
    (kept : (classifyToken (previous.any endsValue) token).kind ≠ .noOp)
    (rest : List Token) :
    classifyAfter previous (token :: rest) =
      classifyToken (previous.any endsValue) token :: classifyAfter (some token) rest := by
  simp [classifyAfter, kept]

/-- A token that ends a value is kept. -/
theorem kept_of_endsValue {token : Token} (ends : endsValue token) (behindValue : Bool) :
    (classifyToken behindValue token).kind ≠ .noOp := by
  intro noOp
  have := endsValue_classifyToken ends behindValue
  rw [endsValue_noOp noOp] at this
  cases this

/--
Classified tokens are classified to themselves.  What stands before the result
may end a value where what stood before the tokens did not: only signs ask, and
such a sign is no infix operator in the result.
-/
theorem classifyAfter_classifyAfter
    {tokens : List Token}
    (unmarked : ∀ token ∈ tokens, ¬ IsMarkedTwice token)
    {previous previousFinal : Option Token}
    (agrees : previous.any endsValue = true → previousFinal.any endsValue = true) :
    classifyAfter previousFinal (classifyAfter previous tokens) =
      classifyAfter previous tokens := by
  induction tokens generalizing previous previousFinal with
  | nil => rfl
  | cons token rest ih =>
      rcases List.forall_mem_cons.mp unmarked with ⟨unmarkedHere, unmarkedLater⟩
      by_cases dropped : (classifyToken (previous.any endsValue) token).kind = .noOp
      · rw [classifyAfter_cons_dropped dropped]
        apply ih unmarkedLater
        intro ends
        exact absurd dropped (kept_of_endsValue ends _)
      · have stays := classifyToken_classifyToken unmarkedHere agrees
        have later :
            classifyAfter (some (classifyToken (previous.any endsValue) token))
                (classifyAfter (some token) rest) =
              classifyAfter (some token) rest :=
          ih unmarkedLater fun ends => endsValue_classifyToken ends _
        rw [classifyAfter_cons_kept dropped, classifyAfter_cons_kept (by rwa [stays]), stays, later]

/-! ## Leaving out unary pluses -/

/-- Whether a token is a plus that stands behind no value. -/
def isUnaryPlus (previous : Option Token) (token : Token) : Bool :=
  token.kind == .infixOp && token.value == ['+'] && !previous.any endsValue

/-- A list without its unary pluses, given the token before it. -/
def withoutUnaryPlusAfter (previous : Option Token) : List Token → List Token
  | [] => []
  | token :: rest =>
      if isUnaryPlus previous token then withoutUnaryPlusAfter (some token) rest
      else token :: withoutUnaryPlusAfter (some token) rest

/-- The tokens of a formula without its unary pluses. -/
def withoutUnaryPlus (tokens : List Token) : List Token :=
  withoutUnaryPlusAfter none tokens

/-- The unary pluses are the tokens that classification makes meaningless. -/
theorem isUnaryPlus_iff (previous : Option Token) (token : Token) :
    isUnaryPlus previous token ↔
      token.kind ≠ .noOp ∧ (classifyToken (previous.any endsValue) token).kind = .noOp := by
  have rule := classifyToken_rule (previous.any endsValue) token
  generalize classifyToken (previous.any endsValue) token = final at rule ⊢
  cases rule with
  | settled isSettled =>
      simp only [isUnaryPlus, Bool.and_eq_true, beq_iff_eq]
      constructor
      · rintro ⟨⟨isInfix, isPlus⟩, -⟩
        exact absurd isPlus (isSettled.noSign isInfix).2
      · rintro ⟨meaningful, meaningless⟩
        exact absurd meaningless meaningful
  | binary _ behind => simp [isUnaryPlus, behind]
  | minus => simp [isUnaryPlus]
  | plus apart => simp [isUnaryPlus, apart]
  | operator noSign => simp [isUnaryPlus, noSign]
  | operand => simp [isUnaryPlus]
  | call => simp [isUnaryPlus]

/--
Leaving out unary pluses changes nothing.  The token before a left out plus ends
no value, and neither does the plus, so the tokens behind it are read alike.
-/
theorem classifyAfter_withoutUnaryPlusAfter
    {previous previousLeft : Option Token}
    (agrees : previousLeft.any endsValue = previous.any endsValue)
    (tokens : List Token) :
    classifyAfter previousLeft (withoutUnaryPlusAfter previous tokens) =
      classifyAfter previous tokens := by
  induction tokens generalizing previous previousLeft with
  | nil => rfl
  | cons token rest ih =>
      rw [withoutUnaryPlusAfter]
      split
      · next isPlus =>
          rw [classifyAfter_cons_dropped ((isUnaryPlus_iff previous token).mp isPlus).2]
          apply ih
          simp only [isUnaryPlus, Bool.and_eq_true, beq_iff_eq, Bool.not_eq_true'] at isPlus
          rw [agrees, isPlus.2, Option.any_some, endsValue_infixOp isPlus.1.1]
      · simp only [classifyAfter, agrees, ih rfl]

/-! ## The classified tokens -/

theorem getLast?_cons_or (token : Token) (rest : List Token) (previous : Option Token) :
    (token :: rest).getLast?.or previous = rest.getLast?.or (some token) := by
  rw [List.getLast?_cons]
  cases rest.getLast? <;> rfl

theorem classifyAfter_append (previous : Option Token) (tokens more : List Token) :
    classifyAfter previous (tokens ++ more) =
      classifyAfter previous tokens ++ classifyAfter (tokens.getLast?.or previous) more := by
  induction tokens generalizing previous with
  | nil => rfl
  | cons token rest ih =>
      rw [List.cons_append, getLast?_cons_or]
      by_cases dropped : (classifyToken (previous.any endsValue) token).kind = .noOp
      · rw [classifyAfter_cons_dropped dropped, classifyAfter_cons_dropped dropped, ih]
      · rw [classifyAfter_cons_kept dropped, classifyAfter_cons_kept dropped, ih, List.cons_append]

/-- Every classified token comes from a token of the list, and what is around it from around it. -/
theorem exists_of_classifyAfter_eq
    {previous : Option Token} {tokens earlier later : List Token} {final : Token}
    (classified : classifyAfter previous tokens = earlier ++ final :: later) :
    ∃ before token behind,
      tokens = before ++ token :: behind ∧
        classifyAfter previous before = earlier ∧
        classifyToken ((before.getLast?.or previous).any endsValue) token = final ∧
        final.kind ≠ .noOp ∧
        classifyAfter (some token) behind = later := by
  induction tokens generalizing previous earlier with
  | nil => simp [classifyAfter] at classified
  | cons token rest ih =>
      by_cases dropped : (classifyToken (previous.any endsValue) token).kind = .noOp
      · rw [classifyAfter_cons_dropped dropped] at classified
        rcases ih classified with ⟨before, origin, behind, rfl, left, same, kept, right⟩
        refine ⟨token :: before, origin, behind, rfl, ?_, ?_, kept, right⟩
        · rw [classifyAfter_cons_dropped dropped, left]
        · rw [getLast?_cons_or, same]
      · rw [classifyAfter_cons_kept dropped] at classified
        cases earlier with
        | nil =>
            rcases List.cons.inj classified with ⟨rfl, right⟩
            exact ⟨[], token, rest, rfl, rfl, rfl, dropped, right⟩
        | cons first between =>
            rcases List.cons.inj classified with ⟨rfl, others⟩
            rcases ih others with ⟨before, origin, behind, rfl, left, same, kept, right⟩
            refine ⟨token :: before, origin, behind, rfl, ?_, ?_, kept, right⟩
            · rw [classifyAfter_cons_kept dropped, left]
            · rw [getLast?_cons_or, same]

/-- Behind a value nothing is left out. -/
theorem eq_nil_of_classifyAfter_eq_nil
    {previous : Option Token} {tokens : List Token}
    (value : previous.any endsValue)
    (meaningful : ∀ token ∈ tokens, token.kind ≠ .noOp)
    (nothing : classifyAfter previous tokens = []) :
    tokens = [] := by
  cases tokens with
  | nil => rfl
  | cons token rest =>
      by_cases dropped : (classifyToken (previous.any endsValue) token).kind = .noOp
      · have isPlus := (isUnaryPlus_iff previous token).mpr ⟨meaningful token (by simp), dropped⟩
        rw [isUnaryPlus, value, Bool.not_true, Bool.and_false] at isPlus
        cases isPlus
      · rw [classifyAfter_cons_kept dropped] at nothing
        cases nothing

/-- What is classified behind a value stands behind a value. -/
theorem endsValue_getLast_classify
    {tokens : List Token} (ends : tokens.getLast?.any endsValue) :
    (classify tokens).getLast?.any endsValue := by
  rcases List.eq_nil_or_concat tokens with rfl | ⟨before, value, rfl⟩
  · cases ends
  · rw [List.concat_eq_append, List.getLast?_concat, Option.any_some] at ends
    rw [List.concat_eq_append, classify, classifyAfter_append,
      classifyAfter_cons_kept (kept_of_endsValue ends _), classifyAfter, List.getLast?_concat,
      Option.any_some]
    exact endsValue_classifyToken ends _

/--
Classification is a normalization.  Classifying again changes nothing, leaving
out the unary pluses beforehand changes nothing, no meaningless token is left,
operands and infix operators have a subkind, and a sign that is an infix operator
follows a value.  Of two marks on a function name only one is taken off at a time.
-/
theorem classify_normalizes
    (tokens : List Token)
    (unmarked : ∀ token ∈ tokens, ¬ IsMarkedTwice token) :
    classify (classify tokens) = classify tokens ∧
      classify (withoutUnaryPlus tokens) = classify tokens ∧
      (∀ token ∈ classify tokens,
        token.kind ≠ .noOp ∧
          (token.kind = .operand ∨ token.kind = .infixOp → token.subkind.isSome)) ∧
      ∀ earlier token later,
        classify tokens = earlier ++ token :: later →
        token.kind = .infixOp →
        token.value = ['+'] ∨ token.value = ['-'] →
        earlier.getLast?.any endsValue := by
  refine ⟨classifyAfter_classifyAfter unmarked id,
    classifyAfter_withoutUnaryPlusAfter rfl tokens, ?_, ?_⟩
  · intro final member
    rcases List.append_of_mem member with ⟨earlier, later, classified⟩
    rcases exists_of_classifyAfter_eq classified with ⟨before, token, -, -, -, rfl, kept, -⟩
    exact ⟨kept, subkind_classifyToken _ token⟩
  · intro earlier final later classified isInfix isSign
    rcases exists_of_classifyAfter_eq classified with ⟨before, token, -, -, rfl, rfl, -, -⟩
    have behind := behindValue_of_sign isInfix isSign
    rw [Option.or_none] at behind
    exact endsValue_getLast_classify behind

/-- A marked call with a chain of signs, a meaningless token and a sign of a wrong subkind. -/
def signChain : List Token :=
  [⟨.function, "@F".toList, some .start⟩, ⟨.operand, "A1".toList, none⟩,
    ⟨.infixOp, ['*'], none⟩, ⟨.infixOp, ['+'], none⟩, ⟨.infixOp, ['-'], none⟩,
    ⟨.infixOp, ['+'], none⟩, ⟨.operand, "2".toList, none⟩, ⟨.noOp, [], none⟩,
    ⟨.infixOp, ['-'], none⟩, ⟨.operand, "3".toList, some .text⟩, ⟨.function, [], some .stop⟩,
    ⟨.infixOp, ['-'], some .union⟩, ⟨.operand, "4".toList, none⟩]

theorem classify_signChain :
    (∀ token ∈ signChain, ¬ IsMarkedTwice token) ∧
      classify signChain =
        [⟨.function, ['F'], some .start⟩, ⟨.operand, "A1".toList, some .range⟩,
          ⟨.infixOp, ['*'], some .math⟩, ⟨.prefixOp, ['-'], none⟩,
          ⟨.operand, ['2'], some .number⟩, ⟨.prefixOp, ['-'], none⟩,
          ⟨.operand, ['3'], some .text⟩, ⟨.function, [], some .stop⟩,
          ⟨.infixOp, ['-'], some .math⟩, ⟨.operand, ['4'], some .number⟩] ∧
      classify (classify signChain) = classify signChain ∧
      classify (withoutUnaryPlus signChain) = classify signChain := by
  have unmarked : ∀ token ∈ signChain, ¬ IsMarkedTwice token := by decide
  rcases classify_normalizes signChain unmarked with ⟨again, withoutPlus, -, -⟩
  exact ⟨unmarked, by decide, again, withoutPlus⟩

end SheetFormula.Classification
