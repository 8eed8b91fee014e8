import SheetFormula.Proofs.Layout.Steps

/-!
# Texts around intersections

An intersection has no spelling of its own.  It comes from a blank between two
ranges, and classification keeps both of them.  A range begins and ends with a
token that is written, or with the wrapper of an array literal next to one.

Main statements: on either side of every intersection of a formula there is a
token that is written, and directly behind it stands another one or a range.
-/

namespace SheetFormula.Layout

open RoundTrip

/--
Tokens of two classes on both sides of each intersection, though not next to it;
`before` tells whether there is one to the left of all tokens.
-/
def Enclosed (left right : Token → Bool) : Bool → List Token → Prop
  | _, [] => True
  | before, token :: rest =>
      (isIntersection token → before ∧ rest.any right) ∧
        Enclosed left right (before || left token) rest

section Paths

variable {called : List Char → Prop} {nesting final : Nesting} {tokens : List Token}

/-! ## Ranges -/

theorem uncrossed_of_isGroup {token : Token} (isGroup : token.isGroup) :
    isIntersection token = false := by
  simp only [Token.isGroup, Bool.or_eq_true, beq_iff_eq] at isGroup
  rcases isGroup with kind | kind <;> simp [isIntersection, kind]

/-- The intersections of a path stand among its tokens by themselves. -/
theorem Grouped.plain_of_isIntersection
    {plain : Token → Prop}
    (grouped : Grouped plain called nesting tokens final) :
    ∀ token ∈ tokens, isIntersection token → plain token := by
  have skip {token : Token} (isGroup : token.isGroup) : isIntersection token → plain token := by
    rw [uncrossed_of_isGroup isGroup]
    intro absurd
    cases absurd
  induction grouped with
  | nil => simp
  | plain isPlain _ ih => exact List.forall_mem_cons.mpr ⟨fun _ => isPlain, ih⟩
  | opens isParenthesis _ ih =>
      exact List.forall_mem_cons.mpr ⟨skip isParenthesis.isGroup, ih⟩
  | closes isParenthesis _ ih =>
      exact List.forall_mem_cons.mpr ⟨skip isParenthesis.stop_isGroup, ih⟩
  | brace _ ih => simpa only [List.forall_mem_cons] using ⟨skip rfl, skip rfl, ih⟩
  | closeBrace _ ih => simpa only [List.forall_mem_cons] using ⟨skip rfl, skip rfl, ih⟩

theorem Grouped.uncrossed
    (grouped : Grouped IsRaw called nesting tokens final) :
    ∀ token ∈ tokens, isIntersection token = false := by
  intro token member
  rw [← Bool.not_eq_true]
  intro intersects
  cases grouped.plain_of_isIntersection token member intersects with
  | blank => cases intersects
  | plain _ uncrossed =>
      rw [uncrossed] at intersects
      cases intersects

/-- The token that makes a blank an intersection is kept. -/
theorem any_startsRange_resolveAfter
    {rest : List Token}
    (starts : (rest.find? fun other => !other.isBlank).any Token.startsRange)
    (left : Option Token) :
    (Intersection.resolveAfter left rest).any Token.startsRange := by
  induction rest generalizing left with
  | nil => cases starts
  | cons token others ih =>
      rw [Intersection.resolveAfter]
      by_cases isBlank : token.isBlank
      · rw [List.find?_cons_of_neg (by simp [isBlank])] at starts
        rw [if_pos isBlank]
        simp only
        split
        · rw [List.any_cons, ih starts left, Bool.or_true]
        · exact ih starts left
      · rw [List.find?_cons_of_pos (by simp [isBlank]), Option.any_some] at starts
        rw [if_neg isBlank, List.any_cons, starts, Bool.true_or]

/-- Every blank that becomes an intersection stands between two ranges. -/
theorem enclosed_resolveAfter
    {before : Bool} {left : Option Token}
    (uncrossed : ∀ token ∈ tokens, isIntersection token = false)
    (ends : left.any Token.endsRange → before) :
    Enclosed Token.endsRange Token.startsRange before
      (Intersection.resolveAfter left tokens) := by
  induction tokens generalizing before left with
  | nil => trivial
  | cons token rest ih =>
      have later : ∀ other ∈ rest, isIntersection other = false := by
        intro other member
        exact uncrossed other (List.mem_cons_of_mem token member)
      rw [Intersection.resolveAfter]
      split
      · simp only
        split
        · next intersects =>
            rw [Bool.and_eq_true] at intersects
            refine ⟨?_, ih later ?_⟩
            · intro _
              exact ⟨ends intersects.1, any_startsRange_resolveAfter intersects.2 left⟩
            · intro _
              rw [ends intersects.1, Bool.true_or]
        · exact ih later ends
      · refine ⟨?_, ih later ?_⟩
        · rw [uncrossed token (List.mem_cons_self ..)]
          intro absurd
          cases absurd
        · intro endsRange
          rw [Option.any_some] at endsRange
          rw [endsRange, Bool.or_true]

/-- Operators neither end nor start a range. -/
theorem noRange_of_operator
    {token : Token}
    (isOperator : token.kind = .infixOp ∨ token.kind = .prefixOp ∨ token.kind = .noOp) :
    token.endsRange = false ∧ token.startsRange = false := by
  rcases token with ⟨kind, value, subkind⟩
  rcases isOperator with same | same | same
  all_goals
    cases same
    exact ⟨Bool.and_false _, Bool.and_false _⟩

/-- What ends or starts a range does so after classification, and nothing else does. -/
theorem Classified.ranges
    {token final : Token}
    (classified : Classified token final) :
    final.endsRange = token.endsRange ∧ final.startsRange = token.startsRange := by
  cases classified with
  | same | operand | call => exact ⟨rfl, rfl⟩
  | binary | minus | plus | operator => simp [noRange_of_operator]

theorem Classified.isIntersection
    {token final : Token}
    (classified : Classified token final)
    (intersects : isIntersection final) :
    isIntersection token := by
  cases classified with
  | same => exact intersects
  | operator value =>
      have noIntersection := (infixSubkind_unmarked value).2.2
      exact absurd (by simpa [Layout.isIntersection] using intersects) noIntersection
  | binary | minus | plus | operand | call => cases intersects

/-- Tokens that disappear can neither end nor start a range. -/
theorem any_startsRange_classifyAfter (previous : Option Token) :
    (Classification.classifyAfter previous tokens).any Token.startsRange =
      tokens.any Token.startsRange := by
  induction tokens generalizing previous with
  | nil => rfl
  | cons token rest ih =>
      have classified := classified_classifyToken (previous.any Classification.endsValue) token
      rw [List.any_cons, ← classified.ranges.2, Classification.classifyAfter]
      split
      · next gone =>
          rw [ih, (noRange_of_operator (.inr (.inr gone))).2, Bool.false_or]
      · rw [List.any_cons, ih]

/-- Classification keeps the ranges around intersections. -/
theorem Enclosed.classifyAfter
    {before : Bool}
    (enclosed : Enclosed Token.endsRange Token.startsRange before tokens)
    (previous : Option Token) :
    Enclosed Token.endsRange Token.startsRange before
      (Classification.classifyAfter previous tokens) := by
  induction tokens generalizing before previous with
  | nil => trivial
  | cons token rest ih =>
      have later := enclosed.2
      have classified := classified_classifyToken (previous.any Classification.endsValue) token
      rw [← classified.ranges.1] at later
      rw [Classification.classifyAfter]
      split
      · next gone =>
          rw [(noRange_of_operator (.inr (.inr gone))).1, Bool.or_false] at later
          exact ih later _
      · refine ⟨?_, ih later _⟩
        intro intersects
        rw [any_startsRange_classifyAfter]
        exact enclosed.1 (classified.isIntersection intersects)

/-! ## Neighbours -/

/-- Behind each intersection there is another one or the start of a range. -/
def Joined : List Token → Prop
  | [] => True
  | token :: rest =>
      (isIntersection token →
        rest.head?.any fun next => isIntersection next || next.startsRange) ∧ Joined rest

theorem Joined.split
    {earlier later : List Token} {token next : Token}
    (joined : Joined (earlier ++ token :: next :: later))
    (intersects : isIntersection token) :
    isIntersection next || next.startsRange := by
  induction earlier with
  | nil => exact joined.1 intersects
  | cons first others ih => exact ih joined.2

/-- What follows a blank that becomes an intersection becomes one too, or is the range. -/
theorem head_resolveAfter
    {left : Option Token} {rest : List Token}
    (ends : left.any Token.endsRange)
    (starts : (rest.find? fun other => !other.isBlank).any Token.startsRange) :
    (Intersection.resolveAfter left rest).head?.any fun next =>
      isIntersection next || next.startsRange := by
  cases rest with
  | nil => cases starts
  | cons token others =>
      rw [Intersection.resolveAfter]
      by_cases isBlank : token.isBlank
      · rw [List.find?_cons_of_neg (by simp [isBlank])] at starts
        rw [if_pos isBlank]
        simp only
        rw [ends, starts]
        rfl
      · rw [List.find?_cons_of_pos (by simp [isBlank]), Option.any_some] at starts
        rw [if_neg isBlank, List.head?_cons, Option.any_some, starts, Bool.or_true]

theorem joined_resolveAfter
    {left : Option Token}
    (uncrossed : ∀ token ∈ tokens, isIntersection token = false) :
    Joined (Intersection.resolveAfter left tokens) := by
  induction tokens generalizing left with
  | nil => trivial
  | cons token rest ih =>
      rw [List.forall_mem_cons] at uncrossed
      rw [Intersection.resolveAfter]
      split
      · simp only
        split
        · next intersects =>
            rw [Bool.and_eq_true] at intersects
            exact ⟨fun _ => head_resolveAfter intersects.1 intersects.2, ih uncrossed.2⟩
        · exact ih uncrossed.2
      · refine ⟨?_, ih uncrossed.2⟩
        rw [uncrossed.1]
        intro absurd
        cases absurd

/-- The neighbour of an intersection keeps its place when it is classified. -/
theorem head_classifyAfter
    {rest : List Token}
    (crossing : ∀ token ∈ rest, isIntersection token → token = intersection)
    (joins : rest.head?.any fun next => isIntersection next || next.startsRange)
    (previous : Option Token) :
    (Classification.classifyAfter previous rest).head?.any fun next =>
      isIntersection next || next.startsRange := by
  cases rest with
  | nil => cases joins
  | cons token others =>
      rw [List.head?_cons, Option.any_some, Bool.or_eq_true] at joins
      rw [Classification.classifyAfter]
      rcases joins with intersects | starts
      · rw [crossing token (List.mem_cons_self ..) intersects]
        rfl
      · have classified := classified_classifyToken (previous.any Classification.endsValue) token
        have range := classified.ranges.2
        rw [starts] at range
        split
        · next gone =>
            rw [(noRange_of_operator (.inr (.inr gone))).2] at range
            cases range
        · rw [List.head?_cons, Option.any_some, range, Bool.or_true]

theorem Joined.classifyAfter
    (joined : Joined tokens)
    (crossing : ∀ token ∈ tokens, isIntersection token → token = intersection)
    (previous : Option Token) :
    Joined (Classification.classifyAfter previous tokens) := by
  induction tokens generalizing previous with
  | nil => trivial
  | cons token rest ih =>
      rw [List.forall_mem_cons] at crossing
      rw [Classification.classifyAfter]
      split
      · exact ih joined.2 crossing.2 _
      · refine ⟨?_, ih joined.2 crossing.2 _⟩
        intro intersects
        apply head_classifyAfter crossing.2
        exact joined.1 ((classified_classifyToken _ token).isIntersection intersects)

/-! ## Texts -/

/-- Whether a token is written with any text of its own. -/
def isShown (token : Token) : Bool :=
  !(spelling token).isEmpty

/-- Quoting changes nothing, or it doubles quotes between two quotes. -/
theorem quoteSheetName_cases (value : List Char) :
    quoteSheetName value = value ∨
      ∃ name behind,
        value = '\'' :: name ++ '\'' :: behind ∧
          quoteSheetName value = '\'' :: Text.doubled '\'' name ++ '\'' :: behind := by
  cases value with
  | nil => exact .inl rfl
  | cons char rest =>
      by_cases isQuote : char = '\''
      · subst isQuote
        cases cut : Text.cutLast? '\'' (Text.upTo '[' rest) with
        | none => exact .inl (quoteSheetName_of_uncut cut)
        | some parts =>
            rcases parts with ⟨name, behind⟩
            have whole : Text.upTo '[' rest ++ rest.dropWhile (· ≠ '[') = rest :=
              List.takeWhile_append_dropWhile
            rw [(Text.cutLast?_eq_some_iff.mp cut).1, List.append_assoc, List.cons_append] at whole
            rw [quoteSheetName_of_cut cut, ← whole, List.drop_left]
            exact .inr ⟨name, _, rfl, rfl⟩
      · left
        simp [quoteSheetName, isQuote]

/-- Quoting keeps the end of an operand. -/
theorem getLast?_quoteSheetName (value : List Char) :
    (quoteSheetName value).getLast? = value.getLast? := by
  rcases quoteSheetName_cases value with same | ⟨name, behind, rfl, quoted⟩
  · rw [same]
  · rw [quoted, List.getLast?_append, List.getLast?_append, List.getLast?_cons, Option.some_or,
      Option.some_or]

theorem isShown_of_ne_nil
    {token : Token}
    (nonempty : spelling token ≠ []) :
    isShown token := by
  simpa [isShown] using nonempty

/-- Operands have a text. -/
theorem IsPlain.isShown_operand
    {token : Token}
    (isPlain : IsPlain token)
    (isOperand : token.kind = .operand) :
    isShown token := by
  apply isShown_of_ne_nil
  rcases spelling_of_operand isOperand with
    ⟨-, written⟩ | ⟨isError, written⟩ | ⟨noText, -, written⟩
  · simp [written]
  · rcases isPlain.operand isOperand with isText | nonempty
    · simp [isText] at isError
    · rwa [written]
  · rcases isPlain.operand isOperand with isText | nonempty
    · exact (noText isText).elim
    · rcases quoteSheetName_cases token.value with same | ⟨name, behind, -, quoted⟩
      · rwa [written, same]
      · simp [written, quoted]

/-- A token by itself that starts or ends a range is an operand, which is written. -/
theorem IsPlain.isShown
    {token : Token}
    (isPlain : IsPlain token)
    (isRange : token.endsRange ∨ token.startsRange) :
    isShown token := by
  apply isPlain.isShown_operand
  simpa [Token.endsRange, Token.startsRange, isPlain.noGroup] using isRange

theorem IsParenthesis.isShown
    {opener : Token}
    (isParenthesis : IsParenthesis called opener)
    (unreserved : ∀ name, called name → name ∉ arrayNames) :
    isShown opener := by
  apply isShown_of_ne_nil
  rw [spelling_of_opener isParenthesis.isOpener (isParenthesis.noWrapper unreserved)]
  split
  · simp
  · simp

theorem IsParenthesis.stop_isShown
    {opener : Token}
    (isParenthesis : IsParenthesis called opener) :
    Layout.isShown (Nesting.stopFor opener []) := by
  cases isParenthesis with
  | subexpression => rfl
  | call => rfl

/-- Where a range starts in a path, a text is written. -/
theorem Grouped.any_isShown
    (grouped : Grouped IsPlain called nesting tokens final)
    (unreserved : ∀ name, called name → name ∉ arrayNames)
    (starts : tokens.any Token.startsRange) :
    tokens.any isShown := by
  induction grouped with
  | nil => exact starts
  | plain isPlain _ ih =>
      rw [List.any_cons, Bool.or_eq_true] at starts ⊢
      rcases starts with here | later
      · exact .inl (isPlain.isShown (.inr here))
      · exact .inr (ih later)
  | opens isParenthesis _ ih => rw [List.any_cons, isParenthesis.isShown unreserved, Bool.true_or]
  | closes isParenthesis _ ih => rw [List.any_cons, isParenthesis.stop_isShown, Bool.true_or]
  | brace => rfl
  | closeBrace => rfl

/-- Parts of groups are no intersections. -/
theorem Enclosed.group
    {left right : Token → Bool} {before : Bool} {token : Token} {rest : List Token}
    (enclosed : Enclosed left right (before || left token) rest)
    (isGroup : token.isGroup) :
    Enclosed left right before (token :: rest) := by
  refine ⟨?_, enclosed⟩
  rw [uncrossed_of_isGroup isGroup]
  intro absurd
  cases absurd

/-- Ranges on both sides of the intersections of a path are texts on both sides. -/
theorem Grouped.enclosed
    {before shown : Bool}
    (grouped : Grouped IsPlain called nesting tokens final)
    (unreserved : ∀ name, called name → name ∉ arrayNames)
    (enclosed : Enclosed Token.endsRange Token.startsRange before tokens)
    (isWritten : before → shown) :
    Enclosed isShown isShown shown tokens := by
  induction grouped generalizing before shown with
  | nil => trivial
  | @plain _ _ token rest isPlain later ih =>
      refine ⟨?_, ih enclosed.2 ?_⟩
      · intro intersects
        rcases enclosed.1 intersects with ⟨left, right⟩
        exact ⟨isWritten left, later.any_isShown unreserved right⟩
      · intro written
        rw [Bool.or_eq_true] at written ⊢
        rcases written with left | ends
        · exact .inl (isWritten left)
        · exact .inr (isPlain.isShown (.inl ends))
  | opens isParenthesis _ ih =>
      refine (ih enclosed.2 ?_).group isParenthesis.isGroup
      intro _
      rw [isParenthesis.isShown unreserved, Bool.or_true]
  | closes isParenthesis _ ih =>
      refine (ih enclosed.2 ?_).group isParenthesis.stop_isGroup
      intro _
      rw [isParenthesis.stop_isShown, Bool.or_true]
  | brace _ ih =>
      refine Enclosed.group (Enclosed.group (ih enclosed.2.2 ?_) rfl) rfl
      exact fun _ => Bool.or_true _
  | closeBrace _ ih =>
      -- The stop of the wrapper is not written; the stop of the row before it is.
      refine Enclosed.group (Enclosed.group (ih enclosed.2.2 ?_) rfl) rfl
      intro _
      rw [Bool.or_eq_true]
      exact .inl (Bool.or_true _)

end Paths

/-! ## Formulas -/

section Formulas

variable {isStrict : Bool} {formula : List Char} {tokens : List Token}

/-- Every intersection of a formula stands between texts. -/
theorem enclosed_tokens
    (found : Formula.tokens isStrict formula = .ok tokens)
    (avoids : Avoids arrayNames (Formula.normalize formula)) :
    Enclosed isShown isShown false tokens := by
  rcases exists_grouped found avoids (List.Subset.refl _) with ⟨_, path, -⟩
  rcases exists_scanned found avoids (List.Subset.refl _) with ⟨scanned, _, grouped, rfl, -⟩
  have resolved : Enclosed Token.endsRange Token.startsRange false
      (Intersection.resolve scanned) := by
    apply enclosed_resolveAfter grouped.uncrossed
    intro absurd
    cases absurd
  exact path.enclosed (fun _ isCalled => isCalled) (resolved.classifyAfter none) id

/-- Every intersection of a formula stands directly before another one or a range. -/
theorem joined_tokens
    (found : Formula.tokens isStrict formula = .ok tokens)
    (avoids : Avoids arrayNames (Formula.normalize formula)) :
    Joined tokens := by
  rcases exists_scanned found avoids (List.Subset.refl _) with ⟨scanned, _, grouped, rfl, -⟩
  have resolved : Joined (Intersection.resolve scanned) := joined_resolveAfter grouped.uncrossed
  apply resolved.classifyAfter
  intro token member intersects
  exact ((grouped.resolveAfter none).plain_of_isIntersection token member intersects).crossing
    intersects

end Formulas

end SheetFormula.Layout
