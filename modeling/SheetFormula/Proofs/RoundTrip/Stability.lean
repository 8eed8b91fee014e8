import SheetFormula.Proofs.RoundTrip.Runs
import SheetFormula.Proofs.RoundTrip.Tokens

/-!
# Formatting is stable

Formatting a formatted formula changes nothing, when the layout keeps its
tokens apart.  The conditions are on what the layout does not care for:

* no text of unknown kind stands before a literal, and no range starts directly
  behind another, since the layout can put an indentation between them;
* sheet names do not have both escaped quotes and brackets, and names of
  functions are not reserved and have no second mark, no spaces and no escaped
  quotes, since the layout writes them otherwise;
* the first token does not begin with a blank, as it can where a plus before it
  is dropped, since the layout is trimmed.

The scan of a formula leaves segments.  The two passes behind it turn them into
the items of a list that flows (`Segments.settles`); so the layout of the
tokens is read back as these tokens (`Flows.tokens_layout`), and the second
layout is the first.  Without the conditions this fails: the call of a function
with the name of an array wrapper loses its opener.
-/

namespace SheetFormula.RoundTrip

/-! ## Regular tokens -/

/--
Lists in which no range starts directly behind the end of another; `ends` tells
whether one ends directly before the list.
-/
def Apart (ends : Bool) : List Token → Prop
  | [] => True
  | token :: rest => (ends → token.startsRange = false) ∧ Apart token.endsRange rest

instance decidableApart : (ends : Bool) → (tokens : List Token) → Decidable (Apart ends tokens)
  | _, [] => .isTrue trivial
  | ends, token :: rest =>
      have := decidableApart token.endsRange rest
      inferInstanceAs (Decidable ((ends → token.startsRange = false) ∧ Apart token.endsRange rest))

/-- Whether a token is an operand whose value is what was collected. -/
def isReferenceToken (token : Token) : Bool :=
  token.kind == .operand && token.subkind != some .text && token.subkind != some .error

/-- Classified tokens that the layout keeps apart. -/
structure Regular (ends : Bool) (tokens : List Token) : Prop where
  known : ∀ token ∈ tokens, token.kind ≠ .unknown
  references : ∀ token ∈ tokens, isReferenceToken token → Requotable token.value
  apart : Apart ends tokens

/-- Whether a token begins with a blank when it is written. -/
def startsBlank (token : Token) : Bool :=
  (isReferenceToken token || token.isStart) && token.value.head?.any Text.isBlank

instance (ends : Bool) (tokens : List Token) : Decidable (Regular ends tokens) :=
  decidable_of_iff
    ((∀ token ∈ tokens, token.kind ≠ .unknown) ∧
      (∀ token ∈ tokens, isReferenceToken token → Requotable token.value) ∧ Apart ends tokens)
    ⟨fun ⟨known, references, apart⟩ => ⟨known, references, apart⟩,
      fun ⟨known, references, apart⟩ => ⟨known, references, apart⟩⟩

theorem Apart.of_append
    {ends : Bool} {first rest : List Token}
    (nonempty : first ≠ [])
    (apart : Apart ends (first ++ rest)) :
    (ends → first.head?.any Token.startsRange = false) ∧
      Apart (first.getLast?.any Token.endsRange) rest := by
  induction first generalizing ends with
  | nil => exact absurd rfl nonempty
  | cons token others ih =>
      refine ⟨apart.1, ?_⟩
      cases others with
      | nil => exact apart.2
      | cons next more =>
          rw [List.getLast?_cons_cons]
          exact (ih (by simp) apart.2).2

/-- Behind a lexeme of a regular list stands a regular list. -/
theorem Regular.behind
    {ends : Bool} {lexeme : Lexeme} {rest : List Token}
    (regular : Regular ends (lexeme.tokens ++ rest)) :
    (ends → lexeme.startsRange = false) ∧ Regular lexeme.endsRange rest := by
  rcases regular.apart.of_append lexeme.tokens_ne_nil with ⟨starts, apart⟩
  rw [lexeme.head_tokens_startsRange] at starts
  rw [lexeme.last_tokens_endsRange] at apart
  refine ⟨starts, ?_, ?_, apart⟩
  · intro token member
    exact regular.known token (List.mem_append_right _ member)
  · intro token member
    exact regular.references token (List.mem_append_right _ member)

/-- Behind an intersection a range can start. -/
theorem Regular.behind_intersection
    {ends : Bool} {rest : List Token}
    (regular : Regular ends (intersection :: rest)) :
    Regular false rest where
  known := fun token member => regular.known token (List.mem_cons_of_mem _ member)
  references := fun token member => regular.references token (List.mem_cons_of_mem _ member)
  apart := regular.apart.2

/-! ## From segments to items -/

/-- Tokens of items that flow behind a lexeme to the end of all groups. -/
def Itemized (nesting : Nesting) (before : Lexeme) (tokens : List Token) : Prop :=
  ∃ items last, tokens = items.flatMap Item.tokens ∧ Flows nesting (some before) items [] last

/-- What the two passes behind the scan make of a list. -/
def passed (left previous : Option Token) (scanned : List Token) : List Token :=
  Classification.classifyAfter previous (Intersection.resolveAfter left scanned)

/--
Where the passes are behind a lexeme: the last token that counts for
intersections, the last that counts for classification, and whether the latter
is an intersection.
-/
structure Behind (before : Lexeme) (left previous : Option Token) (crossing : Bool) : Prop where
  range : left.any Token.endsRange = before.endsRange
  value : previous.any Classification.endsValue = (!crossing && before.endsValue)
  crosses : crossing → before.endsRange

/-- The last of some scanned tokens ends visibly; where there are none, the lexeme before does. -/
structure LastVisible (before : Lexeme) (scanned : List Token) : Prop where
  before : scanned = [] → before.endsVisible
  last : ∀ token, scanned.getLast? = some token → EndsVisibly token

/-- What ends visibly still does without its beginning, if something stays or the end is known. -/
theorem LastVisible.of_append
    {before lexeme : Lexeme} {piece rest : List Token}
    (visible : LastVisible before (piece ++ rest))
    (ends : (∀ token, piece.getLast? = some token → EndsVisibly token) → lexeme.endsVisible) :
    LastVisible lexeme rest := by
  constructor
  · rintro rfl
    rw [List.append_nil] at visible
    exact ends visible.last
  · intro token last
    apply visible.last
    rw [List.getLast?_append, last, Option.some_or]

/--
Scanned tokens that the two passes turn into items, wherever the passes are;
behind an intersection they have to start a range, and the last of them ends
visibly.
-/
def Settles (nesting : Nesting) (scanned : List Token) : Prop :=
  ∀ before left previous crossing,
    Behind before left previous crossing →
    (crossing → scanned.head?.any Token.startsRange) →
    LastVisible before scanned →
    Regular (!crossing && before.endsRange) (passed left previous scanned) →
    Itemized nesting before
      ((if crossing then [intersection] else []) ++ passed left previous scanned)

/-- What starts no range does not stand behind an intersection. -/
theorem eq_false_of_noStart
    {crossing : Bool} {scanned : List Token}
    (crosses : crossing → scanned.head?.any Token.startsRange)
    (noStart : scanned.head?.any Token.startsRange = false) :
    crossing = false := by
  rw [Bool.eq_false_iff]
  intro crossed
  rw [crosses crossed] at noStart
  cases noStart

/-- What the passes make of a lexeme fits behind the one before it. -/
theorem Behind.fits
    {before lexeme : Lexeme} {left previous : Option Token} {crossing : Bool}
    (behind : Behind before left previous crossing)
    (crosses : crossing → lexeme.startsRange)
    (apart : (!crossing && before.endsRange) → lexeme.startsRange = false)
    (sign : lexeme = .minus → previous.any Classification.endsValue = false)
    (joined : lexeme.isSign → previous.any Classification.endsValue) :
    Fits (some before) ⟨crossing, lexeme⟩ := by
  cases crossing with
  | true => exact .crosses (crosses rfl) (behind.crosses rfl)
  | false =>
      have value : previous.any Classification.endsValue = before.endsValue := by
        simpa using behind.value
      rw [value] at sign joined
      cases starts : lexeme.startsRange with
      | true =>
          refine .starts starts ?_ (by simp)
          show before.endsRange = false
          rw [Bool.eq_false_iff]
          intro ends
          have noStart := apart (by simpa using ends)
          rw [starts] at noStart
          cases noStart
      | false =>
          cases lexeme with
          | minus => exact .signs (sign rfl)
          | _ => exact .continues starts (fun _ => rfl) joined

/-- A lexeme that the passes make of some tokens, in front of tokens that settle. -/
theorem Settles.prepend
    {nesting inner : Nesting} {lexeme : Lexeme} {piece rest : List Token}
    {before : Lexeme} {left previous : Option Token} {crossing : Bool}
    (later : Settles inner rest)
    (turns : Turns nesting lexeme inner)
    (behind : Behind before left previous crossing)
    (crosses : crossing → lexeme.startsRange)
    (sign : lexeme = .minus → previous.any Classification.endsValue = false)
    (joined : lexeme.isSign → previous.any Classification.endsValue)
    (resolves : ∃ token : Token, token.endsRange = lexeme.endsRange ∧ ∀ left rest,
      Intersection.resolveAfter left (piece ++ rest) =
        piece ++ Intersection.resolveAfter (some token) rest)
    (classifies : ∃ token : Token, Classification.endsValue token = lexeme.endsValue ∧ ∀ rest,
      Classification.classifyAfter previous (piece ++ rest) =
        lexeme.tokens ++ Classification.classifyAfter (some token) rest)
    (visible : LastVisible before (piece ++ rest))
    (ends : (∀ token, piece.getLast? = some token → EndsVisibly token) → lexeme.endsVisible)
    (regular : Regular (!crossing && before.endsRange) (passed left previous (piece ++ rest))) :
    Itemized nesting before
      ((if crossing then [intersection] else []) ++ passed left previous (piece ++ rest)) := by
  rcases resolves with ⟨nextLeft, range, resolved⟩
  rcases classifies with ⟨nextPrevious, value, classified⟩
  have split : passed left previous (piece ++ rest) =
      lexeme.tokens ++ passed (some nextLeft) (some nextPrevious) rest := by
    rw [passed, resolved, classified, passed]
  rw [split] at regular ⊢
  rcases regular.behind with ⟨apart, regularLater⟩
  have behindLexeme : Behind lexeme (some nextLeft) (some nextPrevious) false := by
    refine ⟨range, ?_, by simp⟩
    simpa using value
  rcases later lexeme _ _ false behindLexeme (by simp) (visible.of_append ends)
    (by simpa using regularLater) with ⟨items, last, tokens_eq, flows⟩
  have fits := behind.fits crosses apart sign joined
  refine ⟨⟨crossing, lexeme⟩ :: items, last, ?_, .cons fits turns flows⟩
  rw [List.flatMap_cons, ← tokens_eq]
  simp [Item.tokens]

theorem Lexeme.head_scanned (lexeme : Lexeme) (rest : List Token) :
    (lexeme.scanned ++ rest).head?.any Token.startsRange = lexeme.startsRange := by
  cases lexeme <;> rfl

/-- Of the lexemes only a reference can end in a blank, and it is one operand. -/
theorem Lexeme.endsVisible_of_scanned
    {lexeme : Lexeme}
    (visible : ∀ token, lexeme.scanned.getLast? = some token → EndsVisibly token) :
    lexeme.endsVisible := by
  cases lexeme with
  | reference value isReference =>
      have ends := (visible ⟨.operand, value, none⟩ rfl).visible rfl rfl
      simpa [endsVisible] using ends
  | _ => rfl

/-- A lexeme in front of tokens that settle. -/
theorem Settles.lexeme
    {nesting inner : Nesting} {lexeme : Lexeme} {rest : List Token}
    {before : Lexeme} {left previous : Option Token} {crossing : Bool}
    (later : Settles inner rest)
    (turns : Turns nesting lexeme inner)
    (behind : Behind before left previous crossing)
    (crosses : crossing → (lexeme.scanned ++ rest).head?.any Token.startsRange)
    (sign : lexeme = .minus → previous.any Classification.endsValue = false)
    (joined : lexeme.isSign → previous.any Classification.endsValue)
    (visible : LastVisible before (lexeme.scanned ++ rest))
    (regular : Regular (!crossing && before.endsRange)
      (passed left previous (lexeme.scanned ++ rest))) :
    Itemized nesting before
      ((if crossing then [intersection] else []) ++
        passed left previous (lexeme.scanned ++ rest)) := by
  rw [lexeme.head_scanned] at crosses
  exact later.prepend turns behind crosses sign joined lexeme.resolveAfter_scanned
    (lexeme.classifyAfter_scanned sign joined) visible Lexeme.endsVisible_of_scanned regular

/-- A sign is an operator behind a value; elsewhere a minus stays and a plus does not. -/
theorem Settles.sign
    {nesting : Nesting} {mark : Char} {rest : List Token}
    (isSign : mark = '+' ∨ mark = '-')
    (later : Settles nesting rest) :
    Settles nesting (⟨.infixOp, [mark], none⟩ :: rest) := by
  intro before left previous crossing behind crosses visible regular
  have isOperator : Scan.isInfixChar mark := by
    rcases isSign with rfl | rfl <;> decide
  cases value : previous.any Classification.endsValue with
  | true =>
      exact @Settles.lexeme _ _ (.operator mark isOperator) _ _ _ _ _ later (.operator isOperator)
        behind crosses (by simp) (fun _ => value) visible regular
  | false =>
      rcases isSign with rfl | rfl
      · -- the plus is dropped, and what is behind it stands where the plus stood
        obtain rfl := eq_false_of_noStart crosses rfl
        have noValue : before.endsValue = false := by
          simpa [value] using behind.value.symm
        have noRange := Lexeme.endsRange_of_fresh noValue
        have dropped : passed left previous (⟨.infixOp, ['+'], none⟩ :: rest) =
            passed (some ⟨.infixOp, ['+'], none⟩) (some ⟨.infixOp, ['+'], none⟩) rest := by
          simp [passed, Intersection.resolveAfter, Token.isBlank, Classification.classifyAfter,
            Classification.classifyToken, value]
        rw [dropped] at regular ⊢
        have behindPlus : Behind before (some ⟨.infixOp, ['+'], none⟩)
            (some ⟨.infixOp, ['+'], none⟩) false := by
          refine ⟨?_, ?_, by simp⟩
          · rw [noRange]
            rfl
          · rw [noValue]
            rfl
        have visibleLater : LastVisible before rest :=
          @LastVisible.of_append before before [_] rest visible fun _ =>
            Lexeme.endsVisible_of_fresh noValue
        exact later before _ _ false behindPlus (by simp) visibleLater regular
      · exact @Settles.lexeme _ _ .minus _ _ _ _ _ later .minus behind crosses (fun _ => value)
          (by simp [Lexeme.isSign]) visible regular

/-- An operand whose value can be written again is a reference. -/
theorem Settles.operand
    {nesting : Nesting} {slice value : List Char} {rest : List Token}
    (nonempty : value ≠ [])
    (isLine : IsLine value)
    (collected : Collected slice value)
    (later : Settles nesting rest) :
    Settles nesting (⟨.operand, value, none⟩ :: rest) := by
  intro before left previous crossing behind crosses visible regular
  have requotable : Requotable value := by
    have member : ⟨.operand, value, some (Classification.operandSubkind value)⟩ ∈
        passed left previous (⟨.operand, value, none⟩ :: rest) := by
      simp [passed, Intersection.resolveAfter, Token.isBlank, Classification.classifyAfter,
        Classification.classifyToken]
    apply regular.references _ member
    rcases operandSubkind_cases value with number | logical | range
    · simp [isReferenceToken, number]
    · simp [isReferenceToken, logical]
    · simp [isReferenceToken, range]
  have isReference : IsReference value := by
    refine ⟨nonempty, isLine, ?_⟩
    rw [collected.quoteSheetName_eq requotable]
    exact collected
  exact @Settles.lexeme _ _ (.reference value isReference) _ _ _ _ _ later (.reference isReference)
    behind crosses (by simp) (by simp [Lexeme.isSign]) visible regular

/-- The mark before a name is taken off. -/
theorem Settles.marked
    {nesting : Nesting} {name : List Char} {rest : List Token}
    (isName : IsFunctionName name)
    (later : Settles (functionStart name :: nesting) rest) :
    Settles nesting (functionStart ('@' :: name) :: rest) := by
  intro before left previous crossing behind crosses visible regular
  have resolves : ∀ left rest,
      Intersection.resolveAfter left ([functionStart ('@' :: name)] ++ rest) =
        [functionStart ('@' :: name)] ++
          Intersection.resolveAfter (some (functionStart ('@' :: name))) rest :=
    fun _ _ => rfl
  have classifies : ∀ rest,
      Classification.classifyAfter previous ([functionStart ('@' :: name)] ++ rest) =
        (Lexeme.call name isName).tokens ++
          Classification.classifyAfter (some (functionStart ('@' :: name))) rest := by
    intro rest
    simp [Classification.classifyAfter, Classification.classifyToken, functionStart, Token.isStart,
      Lexeme.tokens]
  exact @Settles.prepend _ _ (.call name isName) [functionStart ('@' :: name)] _ _ _ _ _ later
    (.call isName) behind (fun _ => rfl) (by simp) (by simp [Lexeme.isSign])
    ⟨_, rfl, resolves⟩ ⟨_, rfl, classifies⟩ visible (fun _ => rfl) regular

/-- A regular list has no token of unknown kind. -/
theorem settles_unknown
    {nesting : Nesting} {value : List Char} {rest : List Token} :
    Settles nesting (⟨.unknown, value, none⟩ :: rest) := by
  intro before left previous crossing behind crosses visible regular
  have member : ⟨.unknown, value, none⟩ ∈
      passed left previous (⟨.unknown, value, none⟩ :: rest) := by
    simp [passed, Intersection.resolveAfter, Token.isBlank, Classification.classifyAfter,
      Classification.classifyToken]
  exact absurd rfl (regular.known _ member)

/-- A blank is an intersection where ranges meet, and nothing elsewhere. -/
theorem Settles.blank
    {nesting : Nesting} {rest : List Token}
    (single : rest.head?.any Token.isBlank = false)
    (later : Settles nesting rest) :
    Settles nesting (⟨.blank, [' '], none⟩ :: rest) := by
  intro before left previous crossing behind crosses visible regular
  obtain rfl := eq_false_of_noStart crosses rfl
  have visibleLater : LastVisible before rest := by
    apply @LastVisible.of_append before before [_] rest visible
    intro ends
    cases (ends _ rfl).noBlank
  have next : rest.find? (fun other => !other.isBlank) = rest.head? := by
    cases rest with
    | nil => rfl
    | cons token others =>
        rw [List.head?_cons, Option.any_some] at single
        simp [single]
  have resolved : Intersection.resolveAfter left (⟨.blank, [' '], none⟩ :: rest) =
      (if left.any Token.endsRange && rest.head?.any Token.startsRange then [intersection]
        else []) ++ Intersection.resolveAfter left rest := by
    have isBlank : Token.isBlank ⟨.blank, [' '], none⟩ = true := rfl
    simp only [Intersection.resolveAfter, isBlank, if_true, next]
    split <;> rfl
  cases meets : left.any Token.endsRange && rest.head?.any Token.startsRange with
  | false =>
      have same : passed left previous (⟨.blank, [' '], none⟩ :: rest) =
          passed left previous rest := by
        simp [passed, resolved, meets]
      rw [same] at regular ⊢
      exact later before left previous false behind (by simp) visibleLater regular
  | true =>
      have crossed : passed left previous (⟨.blank, [' '], none⟩ :: rest) =
          intersection :: passed left (some intersection) rest := by
        rw [passed, resolved, meets]
        exact classifyAfter_intersection _ _
      rw [Bool.and_eq_true] at meets
      rw [crossed] at regular ⊢
      refine later before left (some intersection) true ⟨behind.range, rfl, ?_⟩ ?_ visibleLater ?_
      · intro _
        rw [← behind.range]
        exact meets.1
      · intro _
        exact meets.2
      · exact regular.behind_intersection

/-- The passes turn segments into items. -/
theorem Segments.settles
    {nesting : Nesting} {scanned : List Token}
    (segments : Segments nesting scanned) :
    Settles nesting scanned := by
  induction segments with
  | nil =>
      intro before left previous crossing behind crosses visible regular
      obtain rfl := eq_false_of_noStart crosses rfl
      exact ⟨[], some before, rfl, .nil (visible.before rfl)⟩
  | lexeme settled turns _ ih =>
      intro before left previous crossing behind crosses visible regular
      exact ih.lexeme turns behind crosses (fun isMinus => absurd isMinus settled.1)
        (by simp [settled.2]) visible regular
  | sign isSign _ ih => exact ih.sign isSign
  | operand nonempty isLine collected _ ih => exact ih.operand nonempty isLine collected
  | marked isName _ ih => exact ih.marked isName
  | unknown => exact settles_unknown
  | blank single _ ih => exact ih.blank single

/-! ## Layouts of items -/

theorem tokens_render_nil (unit : List Char) (isStrict : Bool) :
    Formula.tokens isStrict (Layout.render unit []) = .ok [] := by
  have nothing : Scan.scan isStrict [] = .ok [] :=
    (@Scan.Passes.done .initial []).scan_eq rfl rfl isStrict
  exact Formula.tokens_eq_ok_iff.mpr ⟨[], nothing, rfl⟩

/-- The layout of items that flow has their tokens; they begin like items behind a separator. -/
theorem Flows.tokens_layout
    {items : List Item} {before : Lexeme} {last : Option Lexeme}
    (flows : Flows [] (some before) items [] last)
    (fresh : before.endsValue = false)
    (visible : ∀ first, items.head? = some first → first.lexeme.startsVisible)
    (width : Nat)
    (isStrict : Bool) :
    Formula.tokens isStrict
        (Layout.render (List.replicate width ' ') (items.flatMap Item.tokens)) =
      .ok (items.flatMap Item.tokens) := by
  have noRange := Lexeme.endsRange_of_fresh fresh
  cases items with
  | nil => exact tokens_render_nil _ isStrict
  | cons first items =>
      rcases normalize_render_cons (visible first rfl) flows.endsVisible width with
        ⟨others, rfl, text_eq⟩
      have classified : Classification.classify
          ((first :: others.map Placed.item).flatMap Item.resolved) = _ :=
        classifyAfter_items flows (show false = before.endsValue from fresh.symm)
      cases flows with
      | cons fits turns later =>
          have uncrossed : first.crosses = false := by
            rw [fits.crosses_eq, Option.any_some, noRange, Bool.false_and]
          have yields := Lexeme.yields (yields_of_flows later rfl) turns later.endsBefore
          have scanned := yields.scan_eq isStrict
          rcases first.lexeme.resolveAfter_scanned with ⟨token, ends, stays⟩
          have behind : (some token).any Token.endsRange =
              (some first.lexeme).any Lexeme.endsRange := ends
          have resolved : Intersection.resolve
              (first.lexeme.scanned ++ others.flatMap Placed.scanned) =
                (first :: others.map Placed.item).flatMap Item.resolved := by
            rw [Intersection.resolve, stays, resolveAfter_places later behind]
            simp [Item.resolved, uncrossed]
          rw [Formula.tokens_eq_ok_iff, text_eq]
          exact ⟨_, scanned, by rw [resolved, classified]⟩

/-! ## Formatting twice -/

theorem isLine_normalize (formula : List Char) : IsLine (Formula.normalize formula) := by
  have unbroken : IsLine (Text.trim (formula.filter fun char => char ≠ '\r' ∧ char ≠ '\n')) := by
    intro char member
    simpa using (List.mem_filter.mp (Text.mem_of_mem_trim member)).2
  intro char member
  simp only [Formula.normalize] at member
  split at member
  · next rest trimmed =>
      apply unbroken
      rw [trimmed]
      exact List.mem_cons_of_mem _ (Text.mem_of_mem_trim member)
  · exact unbroken char member

/-- What is scanned strictly is scanned leniently with the same tokens. -/
theorem tokens_of_strict
    {formula : List Char} {tokens : List Token}
    (found : Formula.tokens true formula = .ok tokens)
    (isStrict : Bool) :
    Formula.tokens isStrict formula = .ok tokens := by
  rcases Formula.tokens_eq_ok_iff.mp found with ⟨scanned, scans, classified⟩
  rcases Scan.scan_eq_ok_iff.mp scans with ⟨left, departs⟩
  refine Formula.tokens_eq_ok_iff.mpr ⟨scanned, ?_, classified⟩
  exact Scan.scan_eq_ok_iff.mpr ⟨left, fun _ => departs rfl⟩

theorem passed_none (scanned : List Token) :
    passed none none scanned = Classification.classify (Intersection.resolve scanned) := rfl

/-- The tokens of a formula are items that flow like those behind a separator. -/
theorem exists_items
    {text : List Char} {scanned : List Token}
    (isLine : IsLine text)
    (visible : text.getLast?.any Text.isBlank = false)
    (callable : ∀ name ∈ calledNames text, IsCallable (unmarkedName name))
    (scans : Scan.scan true text = .ok (scanned.map some))
    (regular : Regular false (passed none none scanned)) :
    Itemized [] (.separator ',' (.inl rfl)) (passed none none scanned) := by
  rcases leaves_of_scan isLine callable scans with ⟨others, same, leaves⟩
  obtain rfl := (List.map_inj_right fun _ _ => Option.some.inj).mp same
  have begins : Behind (.separator ',' (.inl rfl)) none none false := ⟨rfl, rfl, by simp⟩
  have ends : LastVisible (.separator ',' (.inl rfl)) scanned := by
    refine ⟨fun _ => rfl, leaves.last ?_⟩
    split
    · rfl
    · exact visible
  exact leaves.segments.settles _ none none false begins (by simp) ends regular

/-- A formula that is not empty is formatted as the layout of its tokens. -/
theorem format_of_tokens
    {settings : Settings} {formula : List Char} {tokens : List Token}
    (nonempty : formula ≠ [])
    (found : Formula.tokens settings.strict formula = .ok tokens) :
    Formula.format settings formula = .ok (Layout.render settings.indent tokens) := by
  simp [Formula.format, found, nonempty]

/-- The first token of items tells whether they begin visibly. -/
theorem startsVisible_of_tokens
    {item : Item} {items : List Item}
    (uncrossed : item.crosses = false)
    (visible : ((item :: items).flatMap Item.tokens).head?.any startsBlank = false) :
    item.lexeme.startsVisible := by
  rcases item with ⟨crosses, lexeme⟩
  subst uncrossed
  cases lexeme with
  | reference value isReference =>
      have starts : startsBlank
          ⟨.operand, value, some (Classification.operandSubkind value)⟩ = false := visible
      rcases operandSubkind_cases value with number | logical | range
      · simpa [startsBlank, isReferenceToken, number, Lexeme.startsVisible] using starts
      · simpa [startsBlank, isReferenceToken, logical, Lexeme.startsVisible] using starts
      · simpa [startsBlank, isReferenceToken, range, Lexeme.startsVisible] using starts
  | call name isName =>
      have starts : startsBlank (functionStart name) = false := visible
      simpa [startsBlank, functionStart, Token.isStart, Lexeme.startsVisible] using starts
  | _ => rfl

theorem last_normalize (formula : List Char) :
    (Formula.normalize formula).getLast?.any Text.isBlank = false := by
  simp only [Formula.normalize]
  split
  · exact Text.getLast?_trim _
  · exact Text.getLast?_trim _

/--
Formatting keeps the tokens of a formula and changes nothing the second time,
when the tokens are regular, do not begin with a blank and the names that are
called can be written again.
-/
theorem format_stable
    (settings : Settings)
    (formula : List Char)
    (tokens : List Token)
    (found : Formula.tokens true formula = .ok tokens)
    (regular : Regular false tokens)
    (begins : tokens.head?.any startsBlank = false)
    (callable : ∀ name ∈ calledNames (Formula.normalize formula), IsCallable (unmarkedName name)) :
    ∃ text,
      Formula.format settings formula = .ok text ∧
        Formula.format settings text = .ok text ∧
        Formula.tokens settings.strict text = .ok tokens := by
  have foundAgain := tokens_of_strict found settings.strict
  cases formula with
  | nil => exact ⟨[], rfl, rfl, foundAgain⟩
  | cons char rest =>
      rcases Formula.tokens_eq_ok_iff.mp found with ⟨scanned, scans, classified⟩
      rcases exists_items (isLine_normalize _) (last_normalize _) callable scans
        (by rwa [passed_none, classified]) with ⟨items, last, tokens_eq, flows⟩
      rw [passed_none, classified] at tokens_eq
      have visible : ∀ first, items.head? = some first → first.lexeme.startsVisible := by
        intro first head
        rcases List.head?_eq_some_iff.mp head with ⟨others, rfl⟩
        cases flows with
        | cons fits _ _ =>
            rw [tokens_eq] at begins
            exact startsVisible_of_tokens fits.crosses_eq begins
      have kept : Formula.tokens settings.strict (Layout.render settings.indent tokens) =
          .ok tokens := by
        rw [tokens_eq]
        exact flows.tokens_layout rfl visible settings.indentWidth settings.strict
      refine ⟨Layout.render settings.indent tokens, format_of_tokens (by simp) foundAgain, ?_, kept⟩
      exact format_of_tokens (by simp [Layout.render]) kept

/-- A marked call with a tab, an intersection, an array and a quoted sheet, and a percentage. -/
def markedCall : List Char :=
  "=-@SUM(\tA1:B2 C3,\x7b1;\"x\"\x7d, 'it''s'!A1)+1.5E+3%".toList

theorem format_stable_markedCall :
    ∃ tokens,
      Formula.tokens true markedCall = .ok tokens ∧ Regular false tokens ∧
        tokens.head?.any startsBlank = false ∧
        (∀ name ∈ calledNames (Formula.normalize markedCall), IsCallable (unmarkedName name)) ∧
        ∃ text,
          Formula.format { strict := true } markedCall = .ok text ∧
            Formula.format { strict := true } text = .ok text ∧
            Formula.tokens true text = .ok tokens := by
  have callable : ∀ name ∈ calledNames (Formula.normalize markedCall),
      IsCallable (unmarkedName name) := by
    decide +kernel
  have checked : (Formula.tokens true markedCall).toOption.any
      (fun tokens => decide (Regular false tokens ∧ tokens.head?.any startsBlank = false)) := by
    decide +kernel
  cases found : Formula.tokens true markedCall with
  | error error =>
      rw [found] at checked
      cases checked
  | ok tokens =>
      rw [found] at checked
      rcases of_decide_eq_true checked with ⟨regular, begins⟩
      exact ⟨tokens, rfl, regular, begins, callable,
        format_stable { strict := true } markedCall tokens found regular begins callable⟩

/-- A call by the name of an array wrapper is laid out without its opener. -/
theorem not_format_stable :
    ¬ ∀ (settings : Settings) (formula text : List Char),
      settings.strict = true → Formula.format settings formula = .ok text → text ≠ [] →
        Formula.format settings text = .ok text := by
  intro stable
  have formatted : Formula.format { strict := true } "=ARRAY(1)".toList = .ok "=1\n)".toList :=
    eq_ok_of_toOption (by decide +kernel)
  have fails : (Formula.format { strict := true } "=1\n)".toList).toOption = none := by
    decide +kernel
  rw [stable { strict := true } _ _ rfl formatted (by decide)] at fails
  cases fails

end SheetFormula.RoundTrip
