import SheetFormula.Formula
import SheetFormula.Proofs.RoundTrip.Scanning

/-!
# Tokens survive the layout

The layout of a formula has the tokens it was made from: on the one line that
is left when the line breaks are taken out, the scanner reads each lexeme
back, blanks are intersections exactly where the items have them, and
classification gives every token its final form.

Main statement: for every grammatical list of tokens, every indentation and
both ways of scanning, the tokens of the layout are that list.
-/

namespace SheetFormula.RoundTrip

/-! ## Intersections -/

/-- The tokens of an item before classification. -/
def Item.resolved (item : Item) : List Token :=
  (if item.crosses then [intersection] else []) ++ item.lexeme.scanned

/-- An item stands behind an intersection exactly where ranges meet. -/
theorem Fits.crosses_eq
    {before : Option Lexeme} {item : Item}
    (fits : Fits before item) :
    item.crosses = (before.any Lexeme.endsRange && item.lexeme.startsRange) := by
  cases fits with
  | signs _ => simp [Lexeme.startsRange]
  | starts starts fresh _ => simp [fresh]
  | crosses starts ends => simp [starts, ends]
  | @continues lexeme noStart _ _ =>
      have noRange : lexeme.startsRange = false := by
        rw [Bool.eq_false_iff] at noStart ⊢
        intro starts
        exact noStart (Lexeme.startsValue_of_startsRange starts)
      simp [noRange]

/-- The tokens of a lexeme are no blanks, so they stay. -/
theorem Lexeme.resolveAfter_scanned (lexeme : Lexeme) :
    ∃ last : Token, last.endsRange = lexeme.endsRange ∧
      ∀ left rest,
        Intersection.resolveAfter left (lexeme.scanned ++ rest) =
          lexeme.scanned ++ Intersection.resolveAfter (some last) rest := by
  cases lexeme with
  | brace => exact ⟨arrayRowStart, rfl, fun _ _ => rfl⟩
  | closeBrace => exact ⟨arrayStop, rfl, fun _ _ => rfl⟩
  | _ => exact ⟨_, rfl, fun _ _ => rfl⟩

theorem Lexeme.find_scanned (lexeme : Lexeme) (rest : List Token) :
    ((lexeme.scanned ++ rest).find? fun token => !token.isBlank).any Token.startsRange =
      lexeme.startsRange := by
  cases lexeme <;> rfl

/-- Behind a gap, an item gets its intersection where ranges meet and loses the blank elsewhere. -/
theorem Placed.resolveAfter_scanned
    {before : Option Lexeme} {place : Placed} {left : Option Token}
    (fits : Fits before place.item)
    (same : left.any Token.endsRange = before.any Lexeme.endsRange)
    (rest : List Token) :
    Intersection.resolveAfter left (place.scanned ++ rest) =
      (if place.item.crosses then [intersection] else []) ++
        Intersection.resolveAfter left (place.item.lexeme.scanned ++ rest) := by
  rcases place with ⟨item, gap, enough⟩
  cases gap with
  | zero =>
      have bare : item.spaced = false := by simpa using enough
      have noCrossing : item.crosses = false := by
        simp only [Item.spaced, Bool.or_eq_false_iff] at bare
        exact bare.1
      simp [Placed.scanned, blanks, noCrossing]
  | succ gap =>
      have meets : (left.any Token.endsRange &&
          ((item.lexeme.scanned ++ rest).find? fun token => !token.isBlank).any
            Token.startsRange) = item.crosses := by
        rw [same, item.lexeme.find_scanned, fits.crosses_eq]
      show Intersection.resolveAfter left
        (⟨.blank, [' '], none⟩ :: (item.lexeme.scanned ++ rest)) = _
      have isBlank : Token.isBlank ⟨.blank, [' '], none⟩ = true := rfl
      simp only [Intersection.resolveAfter, isBlank, if_true, meets]
      cases item.crosses <;> rfl

/-- Resolving leaves intersections exactly where the items have them. -/
theorem resolveAfter_places
    {places : List Placed} {nesting outer : Nesting} {before last : Option Lexeme}
    {left : Option Token}
    (flows : Flows nesting before (places.map Placed.item) outer last)
    (same : left.any Token.endsRange = before.any Lexeme.endsRange) :
    Intersection.resolveAfter left (places.flatMap Placed.scanned) =
      (places.map Placed.item).flatMap Item.resolved := by
  induction places generalizing nesting before left with
  | nil => rfl
  | cons place places ih =>
      cases flows with
      | cons fits turns later =>
          rcases place.item.lexeme.resolveAfter_scanned with ⟨token, ends, stays⟩
          have others := ih later (show (some token).any Token.endsRange = _ from ends)
          rw [List.flatMap_cons, place.resolveAfter_scanned fits same, stays, others]
          simp [Item.resolved]

/-! ## Classification -/

/-- The tokens of a lexeme get their final form, given what stands before it. -/
theorem Lexeme.classifyAfter_scanned
    (lexeme : Lexeme) {previous : Option Token}
    (sign : lexeme = .minus → previous.any Classification.endsValue = false)
    (joined : lexeme.isSign → previous.any Classification.endsValue = true) :
    ∃ last : Token, Classification.endsValue last = lexeme.endsValue ∧
      ∀ rest,
        Classification.classifyAfter previous (lexeme.scanned ++ rest) =
          lexeme.tokens ++ Classification.classifyAfter (some last) rest := by
  cases lexeme with
  | reference value isReference => exact ⟨⟨.operand, value, none⟩, rfl, fun rest => rfl⟩
  | minus =>
      refine ⟨⟨.infixOp, ['-'], none⟩, rfl, ?_⟩
      intro rest
      simp [scanned, Lexeme.tokens, Classification.classifyAfter, Classification.classifyToken,
        sign rfl, RoundTrip.minus]
  | operator mark isOperator =>
      refine ⟨⟨.infixOp, [mark], none⟩, rfl, ?_⟩
      intro rest
      by_cases isMinus : mark = '-'
      · have behind := joined (by simp [isSign, isMinus])
        simp [scanned, Lexeme.tokens, Classification.classifyAfter,
          Classification.classifyToken, Classification.infixSubkind, behind, isMinus]
      · by_cases isPlus : mark = '+'
        · have behind := joined (by simp [isSign, isPlus])
          simp [scanned, Lexeme.tokens, Classification.classifyAfter,
            Classification.classifyToken, Classification.infixSubkind, behind, isPlus]
        · simp [scanned, Lexeme.tokens, Classification.classifyAfter,
            Classification.classifyToken, isMinus, isPlus]
  | comparison pair known =>
      refine ⟨⟨.infixOp, pair, some .logical⟩, rfl, ?_⟩
      intro rest
      have compares : ∀ pair ∈ comparisons, pair ≠ ['-'] ∧ pair ≠ ['+'] ∧
          Classification.infixSubkind pair = .logical := by
        decide
      rcases compares pair known with ⟨noMinus, noPlus, logical⟩
      simp [scanned, Lexeme.tokens, Classification.classifyAfter, Classification.classifyToken,
        noMinus, noPlus, logical]
  | call name isName =>
      refine ⟨functionStart name, rfl, ?_⟩
      intro rest
      have kept : ∀ behind, Classification.classifyToken behind (functionStart name) =
          functionStart name := by
        intro behind
        simp only [Classification.classifyToken, functionStart, Token.isStart,
          beq_self_eq_true, if_true]
        split
        · exact absurd rfl isName.unmarked
        · rfl
      show Classification.classifyAfter previous (functionStart name :: rest) = _
      simp only [Classification.classifyAfter, kept]
      rfl
  | brace => exact ⟨arrayRowStart, rfl, fun _ => rfl⟩
  | closeBrace => exact ⟨arrayStop, rfl, fun _ => rfl⟩
  | _ => exact ⟨_, rfl, fun _ => rfl⟩

theorem classifyAfter_intersection (previous : Option Token) (rest : List Token) :
    Classification.classifyAfter previous (intersection :: rest) =
      intersection :: Classification.classifyAfter (some intersection) rest := by
  simp [Classification.classifyAfter, Classification.classifyToken, intersection]

/-- What can stand behind a lexeme is classified as the grammar has it. -/
theorem Fits.classifyAfter_resolved
    {before : Option Lexeme} {item : Item} {previous : Option Token}
    (fits : Fits before item)
    (same : previous.any Classification.endsValue = before.any Lexeme.endsValue) :
    ∃ last : Token, Classification.endsValue last = item.lexeme.endsValue ∧
      ∀ rest,
        Classification.classifyAfter previous (item.resolved ++ rest) =
          item.tokens ++ Classification.classifyAfter (some last) rest := by
  cases fits with
  | signs fresh =>
      apply Lexeme.minus.classifyAfter_scanned
      · intro _
        rw [same, fresh]
      · intro isSign
        cases isSign
  | @starts lexeme starts fresh _ =>
      apply lexeme.classifyAfter_scanned
      · rintro rfl
        cases starts
      · intro isSign
        rw [Lexeme.isSign_eq_false starts] at isSign
        cases isSign
  | @crosses lexeme starts ends =>
      have classified := @Lexeme.classifyAfter_scanned lexeme (some intersection)
        (fun _ => rfl) (fun isSign => by
          rw [Lexeme.isSign_eq_false starts] at isSign
          cases isSign)
      rcases classified with ⟨last, value, others⟩
      refine ⟨last, value, ?_⟩
      intro rest
      show Classification.classifyAfter previous (intersection :: (lexeme.scanned ++ rest)) = _
      rw [classifyAfter_intersection, others]
      rfl
  | @continues lexeme noStart _ behindValue =>
      apply lexeme.classifyAfter_scanned
      · rintro rfl
        cases noStart
      · intro isSign
        rw [same, behindValue isSign]

/-- Classification gives the items their final tokens. -/
theorem classifyAfter_items
    {items : List Item} {nesting outer : Nesting} {before last : Option Lexeme}
    {previous : Option Token}
    (flows : Flows nesting before items outer last)
    (same : previous.any Classification.endsValue = before.any Lexeme.endsValue) :
    Classification.classifyAfter previous (items.flatMap Item.resolved) =
      items.flatMap Item.tokens := by
  induction flows generalizing previous with
  | nil => rfl
  | cons fits _ _ ih =>
      rcases fits.classifyAfter_resolved same with ⟨token, value, classified⟩
      rw [List.flatMap_cons, List.flatMap_cons, classified]
      have others := ih (show (some token).any Classification.endsValue = _ from value)
      rw [others]

/-! ## The text of a layout -/

theorem normalize_of_trim_unbroken
    {formula rest : List Char} (starts : Text.trim (unbroken formula) = '=' :: rest) :
    Formula.normalize formula = Text.trim rest := by
  unfold unbroken at starts
  simp only [Formula.normalize, starts]

/-- Normalising takes a layout back to the one line it was broken from. -/
theorem normalize_render (unit : List Char) (tokens : List Token) :
    Formula.normalize (Layout.render unit tokens) =
      Text.trim (unbroken (Layout.pieces unit tokens).flatten) := by
  generalize pieces : (Layout.pieces unit tokens).flatten = text
  have equals : unbroken ('=' :: Text.trim text) = '=' :: unbroken (Text.trim text) := by
    simp [unbroken]
  have trimmed : Text.trim (unbroken ('=' :: Text.trim text)) =
      '=' :: Text.trimEnd (unbroken (Text.trim text)) := by
    rw [equals]
    exact Text.trim_cons_of_visible (by decide) _
  rw [Layout.render, pieces, normalize_of_trim_unbroken trimmed, Text.trim_trimEnd]
  -- the blanks around the trimmed text are blanks also without line breaks
  rcases Text.eq_append_trim text with ⟨before, behind, blankBefore, blankBehind, split⟩
  have stillBefore : ∀ char ∈ unbroken before, Text.isBlank char :=
    fun char member => blankBefore char (List.mem_filter.mp member).1
  have stillBehind : ∀ char ∈ unbroken behind, Text.isBlank char :=
    fun char member => blankBehind char (List.mem_filter.mp member).1
  have same := Text.trim_append_of_blank stillBefore stillBehind (unbroken (Text.trim text))
  rw [← unbroken_append, ← unbroken_append, ← split] at same
  exact same.symm

theorem Lexeme.exists_last {lexeme : Lexeme} (visible : lexeme.endsVisible) :
    ∃ char, lexeme.spelling.getLast? = some char ∧ Text.isBlank char = false := by
  cases lexeme with
  | reference value isReference =>
      have last := List.getLast?_eq_some_getLast isReference.nonempty
      refine ⟨value.getLast isReference.nonempty, isReference.collected.getLast?_eq.trans last, ?_⟩
      simpa [endsVisible, last] using visible
  | text value isLine => exact ⟨'"', List.getLast?_concat, by decide⟩
  | error code known =>
      have codes : ∀ code ∈ errorCodes,
          code.getLast?.any (fun char => !Text.isBlank char) = true := by
        decide +kernel
      simpa [spelling, Option.any_eq_true] using codes code known
  | operator mark isOperator =>
      rcases (operator mark isOperator).exists_begins with ⟨char, others, spelled, begins⟩
      cases spelled
      exact ⟨mark, rfl, begins.visible rfl⟩
  | comparison pair known =>
      have pairs : ∀ pair ∈ comparisons,
          pair.getLast?.any (fun char => !Text.isBlank char) = true := by
        decide
      simpa [spelling, Option.any_eq_true] using pairs pair known
  | separator mark isMark =>
      rcases (separator mark isMark).exists_begins with ⟨char, others, spelled, begins⟩
      cases spelled
      exact ⟨mark, rfl, begins.visible rfl⟩
  | call name isName => exact ⟨'(', by simp [spelling], by decide⟩
  | _ => exact ⟨_, rfl, by decide⟩

/-- Behind any text, placed items end in a visible character when the last of them does. -/
theorem last_places
    {places : List Placed} {before : List Char}
    (visible : places.getLast?.all fun place => place.item.lexeme.endsVisible)
    (ends : places = [] → before.getLast?.any Text.isBlank = false) :
    (before ++ places.flatMap Placed.text).getLast?.any Text.isBlank = false := by
  induction places generalizing before with
  | nil => simpa using ends rfl
  | cons place places ih =>
      rw [List.flatMap_cons, ← List.append_assoc]
      apply ih
      · cases places with
        | nil => rfl
        | cons next others => rwa [List.getLast?_cons_cons] at visible
      · rintro rfl
        have shown : place.item.lexeme.endsVisible := visible
        rcases Lexeme.exists_last shown with ⟨char, last, noBlank⟩
        simp [Placed.text, List.getLast?_append, last, noBlank]

theorem Fits.spaced_eq_false
    {item : Item}
    (fits : Fits none item) :
    item.spaced = false := by
  cases fits with
  | signs _ => rfl
  | @starts lexeme starts _ _ =>
      cases lexeme <;> simp_all [Item.spaced, Lexeme.spaced, Lexeme.startsRange]
  | crosses _ ends => cases ends
  | @continues lexeme _ noFirst _ =>
      cases lexeme <;> simp_all [Item.spaced, Lexeme.spaced, Lexeme.joins]

theorem present_map_some (tokens : List Token) :
    Formula.present (tokens.map some) = .ok tokens :=
  Formula.present_eq_ok_iff.mpr rfl

/--
A layout, normalised, is the first lexeme and the text of the items behind it,
when there is no blank at its ends.
-/
theorem normalize_render_cons
    {first : Item} {items : List Item}
    (starts : first.lexeme.startsVisible)
    (ends : (first :: items).getLast?.all fun item => item.lexeme.endsVisible)
    (width : Nat) :
    ∃ others : List Placed,
      others.map Placed.item = items ∧
        Formula.normalize (Layout.render (List.replicate width ' ')
          ((first :: items).flatMap Item.tokens)) =
            first.lexeme.spelling ++ others.flatMap Placed.text := by
  rcases exists_placed width .initial (first :: items) with ⟨places, placed, written⟩
  cases places with
  | nil => cases placed
  | cons place others =>
      rw [List.map_cons, List.cons.injEq] at placed
      rcases placed with ⟨rfl, rfl⟩
      refine ⟨others, rfl, ?_⟩
      have spaces : ∀ char ∈ List.replicate place.gap ' ', Text.isBlank char := by
        intro char member
        rw [List.eq_of_mem_replicate member]
        decide
      have noBlankFirst : (place.item.lexeme.spelling ++ others.flatMap Placed.text).head?.any
          Text.isBlank = false := by
        rcases place.item.lexeme.exists_begins with ⟨char, rest, spelled, begins⟩
        simp [spelled, begins.visible starts]
      have noBlankLast : (place.item.lexeme.spelling ++ others.flatMap Placed.text).getLast?.any
          Text.isBlank = false := by
        apply last_places
        · cases others with
          | nil => rfl
          | cons next more =>
              rw [← List.map_cons, List.getLast?_map, Option.all_map,
                List.getLast?_cons_cons] at ends
              exact ends
        · rintro rfl
          have shown : place.item.lexeme.endsVisible := ends
          rcases Lexeme.exists_last shown with ⟨char, last, noBlank⟩
          simp [last, noBlank]
      have text_eq : (place :: others).flatMap Placed.text =
          List.replicate place.gap ' ' ++
            (place.item.lexeme.spelling ++ others.flatMap Placed.text) ++ [] := by
        simp [Placed.text]
      rw [normalize_render]
      show Text.trim (unbroken (Layout.run (List.replicate width ' ') .initial
        ((place.item :: others.map Placed.item).flatMap Item.tokens)).1.flatten) = _
      rw [written, text_eq, Text.trim_append_of_blank spaces (by simp)]
      exact Text.trim_eq_self noBlankFirst noBlankLast

theorem Fits.startsVisible
    {item : Item}
    (fits : Fits none item) :
    item.lexeme.startsVisible := by
  cases fits with
  | signs _ => rfl
  | starts _ _ visible => exact visible rfl
  | crosses _ ends => cases ends
  | @continues lexeme noStart _ _ =>
      cases lexeme with
      | reference => cases noStart
      | call => cases noStart
      | _ => rfl

/-- A layout, normalised, is the text of its items with no gap before the first. -/
theorem exists_places_normalize_render
    {first : Item} {items : List Item} {last : Option Lexeme}
    (flows : Flows [] none (first :: items) [] last)
    (width : Nat) :
    ∃ places : List Placed,
      places.map Placed.item = first :: items ∧
        Formula.normalize (Layout.render (List.replicate width ' ')
          ((first :: items).flatMap Item.tokens)) = places.flatMap Placed.text := by
  have fits : Fits none first := by
    cases flows with
    | cons fits _ _ => exact fits
  rcases normalize_render_cons fits.startsVisible flows.endsVisible width with
    ⟨others, rfl, text_eq⟩
  refine ⟨⟨first, 0, by simp [fits.spaced_eq_false]⟩ :: others, rfl, ?_⟩
  rw [text_eq]
  simp [Placed.text]

/--
The layout of a formula has the tokens it was made from: for every grammatical
list of tokens, every width of the indentation and both ways of scanning.
-/
theorem tokens_render
    (tokens : List Token)
    (grammatical : Grammatical tokens)
    (width : Nat)
    (isStrict : Bool) :
    Formula.tokens isStrict (Layout.render (List.replicate width ' ') tokens) = .ok tokens := by
  rcases grammatical.flows with ⟨first, items, last, rfl, flows⟩
  rcases exists_places_normalize_render flows width with ⟨places, placed, text_eq⟩
  rw [← placed] at flows
  have ready : Ready [] [] Scan.State.initial := ⟨rfl, rfl, rfl⟩
  rcases yields_of_flows flows rfl .initial ready with
    ⟨made, final, passes, mode, closed, left⟩
  have scanned : Scan.scan isStrict (places.flatMap Placed.text) =
      .ok ((places.flatMap Placed.scanned).map some) := by
    rw [passes.scan_eq mode closed isStrict, left]
  have resolved : Intersection.resolve (places.flatMap Placed.scanned) =
      (places.map Placed.item).flatMap Item.resolved :=
    resolveAfter_places flows rfl
  have classified : Classification.classify
      ((places.map Placed.item).flatMap Item.resolved) =
        (places.map Placed.item).flatMap Item.tokens :=
    classifyAfter_items flows rfl
  rw [placed] at resolved classified
  have nonempty : (Layout.render (List.replicate width ' ')
      ((first :: items).flatMap Item.tokens)).isEmpty = false := rfl
  simp only [Formula.tokens, nonempty, Bool.false_eq_true, if_false, text_eq, Formula.scan,
    scanned, Formula.resolve, present_map_some, resolved, classified]

/-- The tokens of a signed call with an array, added to an intersection in parentheses. -/
def signedCall : List Token :=
  [minus, functionStart ['F'], ⟨.operand, ['1', 'E'], some .range⟩, separator ',',
    arrayStart, arrayRowStart, ⟨.operand, ['#', 'N', '/', 'A'], some .error⟩, separator ';',
    ⟨.operand, ['"', ' '], some .text⟩, arrayRowStop, arrayStop, functionStop, percent,
    ⟨.infixOp, ['+'], some .math⟩, subexpressionStart, ⟨.operand, ['A', '1'], some .range⟩,
    intersection, ⟨.operand, ['B', '1'], some .range⟩, subexpressionStop]

theorem grammatical_signedCall : Grammatical signedCall := by
  have word (value : List Char) (isWord : IsWord value)
      (range : Classification.operandSubkind value = .range) :
      Derives .unit [⟨.operand, value, some .range⟩] := by
    rw [← range]
    exact .unit 0 0 (.operand (.word isWord))
  have left : Derives .unit [⟨.operand, ['A', '1'], some .range⟩] :=
    word _ (by decide) (by decide)
  have right : Derives .unit [⟨.operand, ['B', '1'], some .range⟩] :=
    word _ (by decide) (by decide)
  have mantissa : Derives .unit [⟨.operand, ['1', 'E'], some .range⟩] :=
    word _ (by decide) (by decide)
  have code : Derives .unit [⟨.operand, ['#', 'N', '/', 'A'], some .error⟩] :=
    .unit 0 0 (.operand (.error (by decide +kernel)))
  have quote : Derives .unit [⟨.operand, ['"', ' '], some .text⟩] :=
    .unit 0 0 (.operand (.text (by simp [IsLine])))
  have array : Derives .unit
      [arrayStart, arrayRowStart, ⟨.operand, ['#', 'N', '/', 'A'], some .error⟩, separator ';',
        ⟨.operand, ['"', ' '], some .text⟩, arrayRowStop, arrayStop] :=
    .unit 0 0 (.array (.moreArguments (.something (.single code)) (.inr rfl)
      (.lastArgument (.something (.single quote)))))
  have isName : IsName ['F'] := ⟨by decide, by simp, by decide⟩
  have call : Derives .unit (minus :: _) :=
    .unit 1 1 (.call isName (.moreArguments (.something (.single mantissa)) (.inl rfl)
      (.lastArgument (.something (.single array)))))
  have crossing : Derives .unit _ :=
    .unit 0 0 (.subexpression (.something (.crossed left rfl (.single right) rfl)))
  exact .joined call (.operator rfl) (.single crossing)

theorem tokens_render_signedCall :
    Grammatical signedCall ∧
      Formula.tokens true (Layout.render (List.replicate 4 ' ') signedCall) = .ok signedCall :=
  ⟨grammatical_signedCall, tokens_render signedCall grammatical_signedCall 4 true⟩

end SheetFormula.RoundTrip
