import SheetFormula.Proofs.RoundTrip.References
import SheetFormula.Token.Nesting

/-!
# Lexemes of a formula

A lexeme is a piece of a formula that is written without a gap: it stands for
one token, or for two where an array literal opens or ends.  An item is a
lexeme together with the intersection before it, if there is one.

What may stand next to what is a local condition: it depends on the open
groups and on the lexeme before.  `Flows` is this condition along a list of
items.  Every phrase of the grammar is a list of items that flows.
-/

namespace SheetFormula.RoundTrip

/-! ## Lexemes -/

/-- Pieces of a formula that are written without a gap. -/
inductive Lexeme where
  | reference (value : List Char) (isReference : IsReference value)
  | text (value : List Char) (isLine : IsLine value)
  | error (code : List Char) (known : code ∈ errorCodes)
  | minus
  | percent
  | operator (mark : Char) (isOperator : Scan.isInfixChar mark)
  | comparison (pair : List Char) (known : pair ∈ comparisons)
  | union
  | separator (mark : Char) (isMark : mark = ',' ∨ mark = ';')
  | parenthesis
  | call (name : List Char) (isName : IsFunctionName name)
  | brace
  | closeParenthesis
  | closeCall
  | closeBrace

namespace Lexeme

/-- The classified tokens that a lexeme stands for. -/
def tokens : Lexeme → List Token
  | .reference value _ => [⟨.operand, value, some (Classification.operandSubkind value)⟩]
  | .text value _ => [⟨.operand, value, some .text⟩]
  | .error code _ => [⟨.operand, code, some .error⟩]
  | .minus => [RoundTrip.minus]
  | .percent => [RoundTrip.percent]
  | .operator mark _ => [⟨.infixOp, [mark], some (Classification.infixSubkind [mark])⟩]
  | .comparison pair _ => [⟨.infixOp, pair, some (Classification.infixSubkind pair)⟩]
  | .union => [⟨.infixOp, [','], some .union⟩]
  | .separator mark _ => [RoundTrip.separator mark]
  | .parenthesis => [subexpressionStart]
  | .call name _ => [functionStart name]
  | .brace => [arrayStart, arrayRowStart]
  | .closeParenthesis => [subexpressionStop]
  | .closeCall => [functionStop]
  | .closeBrace => [arrayRowStop, arrayStop]

/-- The tokens of a lexeme before they are classified. -/
def scanned : Lexeme → List Token
  | .reference value _ => [⟨.operand, value, none⟩]
  | .minus => [⟨.infixOp, ['-'], none⟩]
  | .operator mark _ => [⟨.infixOp, [mark], none⟩]
  | .comparison pair _ => [⟨.infixOp, pair, some .logical⟩]
  | lexeme => lexeme.tokens

/-- How a lexeme is written. -/
def spelling : Lexeme → List Char
  | .reference value _ => Layout.quoteSheetName value
  | .text value _ => '"' :: Text.doubled '"' value ++ ['"']
  | .error code _ => code
  | .minus => ['-']
  | .percent => ['%']
  | .operator mark _ => [mark]
  | .comparison pair _ => pair
  | .union => [',']
  | .separator mark _ => [mark]
  | .parenthesis => ['(']
  | .call name _ => name ++ ['(']
  | .brace => ['{']
  | .closeParenthesis => [')']
  | .closeCall => [')']
  | .closeBrace => ['}']

def startsRange : Lexeme → Bool
  | .reference .. | .text .. | .error .. | .parenthesis | .call .. | .brace => true
  | _ => false

def endsRange : Lexeme → Bool
  | .reference .. | .text .. | .error .. | .closeParenthesis | .closeCall | .closeBrace => true
  | _ => false

def startsValue : Lexeme → Bool
  | .minus => true
  | lexeme => lexeme.startsRange

def endsValue : Lexeme → Bool
  | .percent => true
  | lexeme => lexeme.endsRange

def joins : Lexeme → Bool
  | .operator .. | .comparison .. | .union => true
  | _ => false

/-- Operators that are signs where no value stands before them. -/
def isSign : Lexeme → Bool
  | .operator mark _ => mark == '+' || mark == '-'
  | _ => false

/-- Whether a lexeme begins with a visible character; what is collected can begin with a blank. -/
def startsVisible : Lexeme → Bool
  | .reference value _ => !value.head?.any Text.isBlank
  | .call name _ => !name.head?.any Text.isBlank
  | _ => true

/-- Whether a lexeme ends in a visible character. -/
def endsVisible : Lexeme → Bool
  | .reference value _ => !value.getLast?.any Text.isBlank
  | _ => true

theorem startsValue_of_startsRange
    {lexeme : Lexeme} (starts : lexeme.startsRange) : lexeme.startsValue := by
  cases lexeme <;> simp_all [startsRange, startsValue]

theorem endsValue_of_endsRange
    {lexeme : Lexeme} (ends : lexeme.endsRange) : lexeme.endsValue := by
  cases lexeme <;> simp_all [endsRange, endsValue]

theorem endsRange_of_fresh
    {lexeme : Lexeme} (fresh : lexeme.endsValue = false) : lexeme.endsRange = false := by
  rw [Bool.eq_false_iff] at fresh ⊢
  intro ends
  exact fresh (endsValue_of_endsRange ends)

/-- Only what is collected can end in a blank, and that ends a value. -/
theorem endsVisible_of_fresh
    {lexeme : Lexeme} (fresh : lexeme.endsValue = false) : lexeme.endsVisible := by
  cases lexeme with
  | reference => cases fresh
  | _ => rfl

theorem isSign_eq_false
    {lexeme : Lexeme} (starts : lexeme.startsRange) : lexeme.isSign = false := by
  cases lexeme <;> simp_all [startsRange, isSign]

theorem tokens_ne_nil (lexeme : Lexeme) : lexeme.tokens ≠ [] := by
  cases lexeme <;> simp [tokens]

theorem head_tokens_startsRange (lexeme : Lexeme) :
    lexeme.tokens.head?.any Token.startsRange = lexeme.startsRange := by
  cases lexeme with
  | operator => simp [tokens, startsRange, Token.startsRange, Token.isGroup]
  | comparison => simp [tokens, startsRange, Token.startsRange, Token.isGroup]
  | _ => rfl

theorem last_tokens_endsRange (lexeme : Lexeme) :
    lexeme.tokens.getLast?.any Token.endsRange = lexeme.endsRange := by
  cases lexeme with
  | operator => simp [tokens, endsRange, Token.endsRange, Token.isGroup]
  | comparison => simp [tokens, endsRange, Token.endsRange, Token.isGroup]
  | _ => rfl

end Lexeme

/-- A lexeme and whether an intersection stands before it. -/
structure Item where
  crosses : Bool
  lexeme : Lexeme

def Item.tokens (item : Item) : List Token :=
  (if item.crosses then [intersection] else []) ++ item.lexeme.tokens

/-! ## Neighbours -/

/-- Whether an item can stand behind a lexeme. -/
inductive Fits (before : Option Lexeme) : Item → Prop where
  | signs
      (fresh : before.any Lexeme.endsValue = false) :
      Fits before ⟨false, .minus⟩
  | starts {lexeme : Lexeme}
      (starts : lexeme.startsRange)
      (fresh : before.any Lexeme.endsRange = false)
      (visible : before = none → lexeme.startsVisible) :
      Fits before ⟨false, lexeme⟩
  | crosses {lexeme : Lexeme}
      (starts : lexeme.startsRange)
      (ends : before.any Lexeme.endsRange) :
      Fits before ⟨true, lexeme⟩
  | continues {lexeme : Lexeme}
      (noStart : lexeme.startsValue = false)
      (noFirst : lexeme.joins → before.isSome)
      (behindValue : lexeme.isSign → before.any Lexeme.endsValue) :
      Fits before ⟨false, lexeme⟩

/-- A lexeme that starts a value can stand behind whatever ends none. -/
theorem fits_of_startsValue
    {before : Option Lexeme} {lexeme : Lexeme}
    (starts : lexeme.startsValue)
    (fresh : before.any Lexeme.endsValue = false)
    (visible : lexeme.startsVisible) :
    Fits before ⟨false, lexeme⟩ := by
  have noRange : before.any Lexeme.endsRange = false := by
    cases before with
    | none => rfl
    | some last => exact Lexeme.endsRange_of_fresh fresh
  cases lexeme with
  | minus => exact .signs fresh
  | _ => exact .starts starts noRange fun _ => visible

/-- What a lexeme does to the open groups. -/
inductive Turns : Nesting → Lexeme → Nesting → Prop where
  | reference {nesting : Nesting} {value : List Char} (isReference : IsReference value) :
      Turns nesting (.reference value isReference) nesting
  | text {nesting : Nesting} {value : List Char} (isLine : IsLine value) :
      Turns nesting (.text value isLine) nesting
  | error {nesting : Nesting} {code : List Char} (known : code ∈ errorCodes) :
      Turns nesting (.error code known) nesting
  | minus {nesting : Nesting} : Turns nesting .minus nesting
  | percent {nesting : Nesting} : Turns nesting .percent nesting
  | operator {nesting : Nesting} {mark : Char} (isOperator : Scan.isInfixChar mark) :
      Turns nesting (.operator mark isOperator) nesting
  | comparison {nesting : Nesting} {pair : List Char} (known : pair ∈ comparisons) :
      Turns nesting (.comparison pair known) nesting
  | union {nesting : Nesting}
      (joined : nesting.topKind? ≠ some .function) :
      Turns nesting .union nesting
  | separator {nesting : Nesting} {mark : Char} (isMark : mark = ',' ∨ mark = ';')
      (separated : mark = ',' → nesting.topKind? = some .function) :
      Turns nesting (.separator mark isMark) nesting
  | parenthesis {nesting : Nesting} :
      Turns nesting .parenthesis (subexpressionStart :: nesting)
  | call {nesting : Nesting} {name : List Char} (isName : IsFunctionName name) :
      Turns nesting (.call name isName) (functionStart name :: nesting)
  | brace {nesting : Nesting} :
      Turns nesting .brace (arrayRowStart :: arrayStart :: nesting)
  | closeParenthesis {nesting : Nesting} :
      Turns (subexpressionStart :: nesting) .closeParenthesis nesting
  | closeCall {nesting : Nesting} {name : List Char} (isName : IsFunctionName name) :
      Turns (functionStart name :: nesting) .closeCall nesting
  | closeBrace {nesting : Nesting} :
      Turns (arrayRowStart :: arrayStart :: nesting) .closeBrace nesting

/--
Items that can stand behind one another, up to one that ends visibly.  The
groups that are open and the last lexeme are named before the items and behind
them.
-/
inductive Flows : Nesting → Option Lexeme → List Item → Nesting → Option Lexeme → Prop where
  | nil {nesting : Nesting} {before : Option Lexeme}
      (visible : before.all Lexeme.endsVisible) :
      Flows nesting before [] nesting before
  | cons
      {nesting inner outer : Nesting} {before last : Option Lexeme}
      {item : Item} {items : List Item}
      (fits : Fits before item)
      (turns : Turns nesting item.lexeme inner)
      (later : Flows inner (some item.lexeme) items outer last) :
      Flows nesting before (item :: items) outer last

theorem Flows.append
    {nesting middle outer : Nesting} {before between last : Option Lexeme}
    {items others : List Item}
    (first : Flows nesting before items middle between)
    (second : Flows middle between others outer last) :
    Flows nesting before (items ++ others) outer last := by
  induction first with
  | nil => exact second
  | cons fits turns _ ih => exact .cons fits turns (ih second)

theorem Flows.concat
    {nesting inner outer : Nesting} {before last : Option Lexeme}
    {items : List Item} {item : Item}
    (flows : Flows nesting before items inner last)
    (fits : Fits last item)
    (turns : Turns inner item.lexeme outer)
    (visible : item.lexeme.endsVisible) :
    Flows nesting before (items ++ [item]) outer (some item.lexeme) :=
  flows.append (.cons fits turns (.nil visible))

/-- The last of the items ends visibly. -/
theorem Flows.endsVisible
    {nesting outer : Nesting} {before last : Option Lexeme} {items : List Item}
    (flows : Flows nesting before items outer last) :
    items.getLast?.all fun item => item.lexeme.endsVisible := by
  induction flows with
  | nil => rfl
  | @cons _ _ _ _ _ item items _ _ later ih =>
      cases items with
      | nil =>
          cases later with
          | nil visible => exact visible
      | cons next others =>
          rw [List.getLast?_cons_cons]
          exact ih

/-! ## Phrases flow -/

/--
Tokens of a value: items that flow wherever the first of them fits, as long as
the open groups are as required, and that leave the groups as they are.
-/
def FlowsAsValue (required : Nesting → Prop) (tokens : List Token) : Prop :=
  ∃ first items last,
    tokens = first.tokens ++ items.flatMap Item.tokens ∧
      tokens.getLast? = last.tokens.getLast? ∧
      (first.startsValue ∧ first.startsVisible) ∧ last.endsValue ∧
      ∀ nesting, required nesting → ∀ before crosses, Fits before ⟨crosses, first⟩ →
        Flows nesting before (⟨crosses, first⟩ :: items) nesting (some last)

/--
Tokens inside a group: items that flow behind whatever ends no value, as long
as the open groups are as required, and that leave the groups as they are.
-/
def FlowsInside (required : Nesting → Prop) (tokens : List Token) : Prop :=
  ∃ items : List Item,
    tokens = items.flatMap Item.tokens ∧
      ∀ nesting, required nesting → ∀ before, before.any Lexeme.endsValue = false →
        ∃ last, Flows nesting before items nesting last

private theorem getLast?_append_of_ne_nil
    {ending : List Token} (nonempty : ending ≠ []) (beginning : List Token) :
    (beginning ++ ending).getLast? = ending.getLast? := by
  simp [List.getLast?_append, List.getLast?_eq_some_getLast nonempty]

theorem FlowsAsValue.ne_nil
    {required : Nesting → Prop} {tokens : List Token}
    (value : FlowsAsValue required tokens) :
    tokens ≠ [] := by
  obtain ⟨first, items, last, rfl, -⟩ := value
  simp [first.tokens_ne_nil]

/-- A lexeme that starts a value and ends it is a value. -/
theorem flowsAsValue_lexeme
    {lexeme : Lexeme}
    (starts : lexeme.startsValue ∧ lexeme.startsVisible)
    (ends : lexeme.endsValue ∧ lexeme.endsVisible)
    (stays : ∀ nesting, Turns nesting lexeme nesting) :
    FlowsAsValue (fun _ => True) lexeme.tokens := by
  refine ⟨lexeme, [], lexeme, by simp, rfl, starts, ends.1, ?_⟩
  intro nesting _ before crosses fits
  exact .cons fits (stays nesting) (.nil ends.2)

/-- An opener, what stands inside and the closer are a value. -/
theorem FlowsInside.group
    {required : Nesting → Prop} {inner : List Token} {opener closer : Lexeme}
    (inside : FlowsInside required inner)
    (starts : opener.startsValue ∧ opener.startsVisible)
    (fresh : opener.endsValue = false)
    (ends : closer.endsValue ∧ closer.endsVisible)
    (noStart : closer.startsValue = false)
    (noJoin : closer.joins = false)
    (turns : ∀ nesting, ∃ middle,
      Turns nesting opener middle ∧ required middle ∧ Turns middle closer nesting) :
    FlowsAsValue (fun _ => True) (opener.tokens ++ inner ++ closer.tokens) := by
  obtain ⟨items, rfl, flow⟩ := inside
  refine ⟨opener, items ++ [⟨false, closer⟩], closer, ?_, ?_, starts, ends.1, ?_⟩
  · simp [Item.tokens]
  · exact getLast?_append_of_ne_nil closer.tokens_ne_nil _
  · intro nesting _ before crosses fits
    obtain ⟨middle, opens, allowed, closes⟩ := turns nesting
    obtain ⟨last, flows⟩ := flow middle allowed (some opener) (by simpa using fresh)
    have noSign : closer.isSign = false := by
      cases closer <;> simp_all [Lexeme.joins, Lexeme.isSign]
    have closing : Fits last ⟨false, closer⟩ :=
      .continues noStart (by simp [noJoin]) (by simp [noSign])
    exact .cons fits opens (flows.concat closing closes ends.2)

/-- A minus sign before a value gives a value. -/
theorem FlowsAsValue.sign
    {required : Nesting → Prop} {tokens : List Token}
    (value : FlowsAsValue required tokens) :
    FlowsAsValue required (minus :: tokens) := by
  have last_eq : (minus :: tokens).getLast? = tokens.getLast? :=
    getLast?_append_of_ne_nil value.ne_nil [minus]
  obtain ⟨first, items, last, rfl, ending, starts, ends, flow⟩ := value
  refine ⟨.minus, ⟨false, first⟩ :: items, last, rfl, last_eq.trans ending, ⟨rfl, rfl⟩, ends, ?_⟩
  intro nesting allowed before crosses fits
  exact .cons fits .minus (flow nesting allowed _ _ (fits_of_startsValue starts.1 rfl starts.2))

/-- A percent sign behind a value gives a value. -/
theorem FlowsAsValue.percent
    {required : Nesting → Prop} {tokens : List Token}
    (value : FlowsAsValue required tokens) :
    FlowsAsValue required (tokens ++ [RoundTrip.percent]) := by
  obtain ⟨first, items, last, rfl, -, starts, -, flow⟩ := value
  refine ⟨first, items ++ [⟨false, .percent⟩], .percent, ?_, by simp [Lexeme.tokens], starts,
    rfl, ?_⟩
  · simp [Item.tokens, Lexeme.tokens]
  · intro nesting allowed before crosses fits
    have behind : Fits (some last) ⟨false, .percent⟩ :=
      .continues rfl (by simp [Lexeme.joins]) (by simp [Lexeme.isSign])
    exact (flow nesting allowed before crosses fits).concat behind .percent rfl

/-- Signs before a value and percent signs behind it give a value. -/
theorem FlowsAsValue.unit
    {required : Nesting → Prop} {tokens : List Token}
    (value : FlowsAsValue required tokens)
    (signs percents : Nat) :
    FlowsAsValue required
      (List.replicate signs minus ++ tokens ++ List.replicate percents RoundTrip.percent) := by
  induction percents with
  | zero =>
      induction signs with
      | zero => simpa using value
      | succ signs ih => simpa [List.replicate_succ] using ih.sign
  | succ percents ih =>
      have longer := ih.percent
      rwa [List.append_assoc, ← List.replicate_succ'] at longer

/-- Two values with an operator between them are a value. -/
theorem FlowsAsValue.joined
    {required : Nesting → Prop} {left right : List Token} {operator : Lexeme}
    (leftValue : FlowsAsValue required left)
    (rightValue : FlowsAsValue required right)
    (noStart : operator.startsValue = false)
    (fresh : operator.endsValue = false)
    (stays : ∀ nesting, required nesting → Turns nesting operator nesting) :
    FlowsAsValue required (left ++ (operator.tokens ++ right)) := by
  have last_eq : (left ++ (operator.tokens ++ right)).getLast? = right.getLast? := by
    rw [← List.append_assoc]
    exact getLast?_append_of_ne_nil rightValue.ne_nil _
  obtain ⟨first, items, middle, rfl, -, starts, valued, flowLeft⟩ := leftValue
  obtain ⟨second, others, last, rfl, ending, startsRight, ends, flowRight⟩ := rightValue
  refine ⟨first, items ++ ⟨false, operator⟩ :: ⟨false, second⟩ :: others, last, ?_,
    last_eq.trans ending, starts, ends, ?_⟩
  · simp [Item.tokens]
  · intro nesting allowed before crosses fits
    have leftFlow := flowLeft nesting allowed before crosses fits
    have behind : Fits (some middle) ⟨false, operator⟩ :=
      .continues noStart (fun _ => rfl) fun _ => by simpa using valued
    have rightFlow := flowRight nesting allowed (some operator) false
      (fits_of_startsValue startsRight.1 (by simpa using fresh) startsRight.2)
    exact leftFlow.append (.cons behind (stays nesting allowed) rightFlow)

/-- Two ranges with an intersection between them are a value. -/
theorem FlowsAsValue.crossed
    {required : Nesting → Prop} {left right : List Token}
    (leftValue : FlowsAsValue required left)
    (ends : left.getLast?.any Token.endsRange)
    (rightValue : FlowsAsValue required right)
    (starts : right.head?.any Token.startsRange) :
    FlowsAsValue required (left ++ intersection :: right) := by
  have last_eq : (left ++ intersection :: right).getLast? = right.getLast? := by
    rw [List.append_cons]
    exact getLast?_append_of_ne_nil rightValue.ne_nil _
  obtain ⟨first, items, middle, rfl, closing, startsLeft, -, flowLeft⟩ := leftValue
  obtain ⟨second, others, last, rfl, ending, -, endsRight, flowRight⟩ := rightValue
  refine ⟨first, items ++ ⟨true, second⟩ :: others, last, ?_, last_eq.trans ending,
    startsLeft, endsRight, ?_⟩
  · simp [Item.tokens]
  · intro nesting allowed before crosses fits
    have leftFlow := flowLeft nesting allowed before crosses fits
    have endsRange : middle.endsRange := by
      rw [← middle.last_tokens_endsRange, ← closing]
      exact ends
    have startsRange : second.startsRange := by
      rw [← second.head_tokens_startsRange]
      rwa [List.head?_append, List.head?_eq_some_head second.tokens_ne_nil, Option.some_or,
        ← List.head?_eq_some_head second.tokens_ne_nil] at starts
    -- the intersection becomes part of the first item on the right
    have rightFlow := flowRight nesting allowed (some middle) true
      (.crosses startsRange (by simpa using endsRange))
    exact leftFlow.append rightFlow

theorem FlowsAsValue.mono
    {required stronger : Nesting → Prop} {tokens : List Token}
    (value : FlowsAsValue required tokens)
    (implies : ∀ nesting, stronger nesting → required nesting) :
    FlowsAsValue stronger tokens := by
  obtain ⟨first, items, last, split, ending, starts, ends, flow⟩ := value
  refine ⟨first, items, last, split, ending, starts, ends, ?_⟩
  intro nesting allowed
  exact flow nesting (implies nesting allowed)

/-- A value can stand inside a group. -/
theorem FlowsAsValue.inside
    {required : Nesting → Prop} {tokens : List Token}
    (value : FlowsAsValue required tokens) :
    FlowsInside required tokens := by
  obtain ⟨first, items, last, rfl, -, starts, -, flow⟩ := value
  refine ⟨⟨false, first⟩ :: items, by simp [Item.tokens], ?_⟩
  intro nesting allowed before fresh
  exact ⟨some last, flow nesting allowed before false
    (fits_of_startsValue starts.1 fresh starts.2)⟩

/-- An argument, a separator and more arguments can stand inside a call. -/
theorem FlowsInside.separated
    {required : Nesting → Prop} {tokens others : List Token} {mark : Char}
    (argument : FlowsInside required tokens)
    (isMark : mark = ',' ∨ mark = ';')
    (later : FlowsInside required others)
    (separates : ∀ nesting, required nesting → nesting.topKind? = some .function) :
    FlowsInside required (tokens ++ separator mark :: others) := by
  obtain ⟨items, rfl, flow⟩ := argument
  obtain ⟨more, rfl, flowLater⟩ := later
  refine ⟨items ++ ⟨false, .separator mark isMark⟩ :: more, ?_, ?_⟩
  · simp [Item.tokens, Lexeme.tokens]
  · intro nesting allowed before fresh
    obtain ⟨last, first⟩ := flow nesting allowed before fresh
    obtain ⟨final, second⟩ :=
      flowLater nesting allowed (some (.separator mark isMark)) (by simp [Lexeme.endsValue,
        Lexeme.endsRange])
    have behind : Fits last ⟨false, .separator mark isMark⟩ :=
      .continues rfl (by simp [Lexeme.joins]) (by simp [Lexeme.isSign])
    have turns : Turns nesting (.separator mark isMark) nesting :=
      .separator isMark fun _ => separates nesting allowed
    exact ⟨final, first.append (.cons behind turns second)⟩

/-- Whether a comma joins a union, given the open groups. -/
def CommaJoins (unions : Bool) (nesting : Nesting) : Prop :=
  unions = true ↔ nesting.topKind? ≠ some .function

def Phrase.Flows : Phrase → List Token → Prop
  | .expression unions => FlowsAsValue (CommaJoins unions)
  | .optional unions => FlowsInside (CommaJoins unions)
  | .arguments => FlowsInside (CommaJoins false)
  | .unit => FlowsAsValue fun _ => True
  | .primary => FlowsAsValue fun _ => True

theorem IsOperand.flows
    {token : Token} (isOperand : IsOperand token) :
    FlowsAsValue (fun _ => True) [token] := by
  cases isOperand with
  | text isLine =>
      exact @flowsAsValue_lexeme (.text _ isLine) ⟨rfl, rfl⟩ ⟨rfl, rfl⟩ fun _ => .text isLine
  | error known =>
      exact @flowsAsValue_lexeme (.error _ known) ⟨rfl, rfl⟩ ⟨rfl, rfl⟩ fun _ => .error known
  | word isWord =>
      have isReference := isWord.isReference
      exact @flowsAsValue_lexeme (.reference _ isReference)
        ⟨rfl, by simp [Lexeme.startsVisible, isWord.head_visible]⟩
        ⟨rfl, by simp [Lexeme.endsVisible, isWord.last_visible]⟩ fun _ => .reference isReference

theorem IsInfix.joins
    {unions : Bool} {operator : Token} {left right : List Token}
    (isInfix : IsInfix unions operator)
    (leftValue : FlowsAsValue (CommaJoins unions) left)
    (rightValue : FlowsAsValue (CommaJoins unions) right) :
    FlowsAsValue (CommaJoins unions) (left ++ operator :: right) := by
  cases isInfix with
  | @operator mark isOperator =>
      have stays : ∀ nesting, CommaJoins unions nesting →
          Turns nesting (.operator mark isOperator) nesting := fun _ _ => .operator isOperator
      exact leftValue.joined rightValue rfl rfl stays
  | @comparison pair known =>
      have stays : ∀ nesting, CommaJoins unions nesting →
          Turns nesting (.comparison pair known) nesting := fun _ _ => .comparison known
      exact leftValue.joined rightValue rfl rfl stays
  | union joins =>
      have stays : ∀ nesting, CommaJoins unions nesting → Turns nesting .union nesting :=
        fun _ allowed => .union (allowed.mp joins)
      exact leftValue.joined rightValue rfl rfl stays

/-- The tokens of every phrase flow. -/
theorem Derives.flows
    {phrase : Phrase} {tokens : List Token}
    (derives : Derives phrase tokens) :
    phrase.Flows tokens := by
  induction derives with
  | operand isOperand => exact isOperand.flows
  | subexpression _ ih =>
      refine @FlowsInside.group _ _ .parenthesis .closeParenthesis ih ⟨rfl, rfl⟩ rfl ⟨rfl, rfl⟩
        rfl rfl ?_
      exact fun nesting =>
        ⟨_, .parenthesis, by simp [CommaJoins, Nesting.topKind?, Nesting.top?,
          subexpressionStart], .closeParenthesis⟩
  | call isName _ ih =>
      have isCalled := isName.isFunctionName
      refine @FlowsInside.group _ _ (.call _ isCalled) .closeCall ih
        ⟨rfl, by simp [Lexeme.startsVisible, isName.head_visible]⟩ rfl ⟨rfl, rfl⟩ rfl rfl ?_
      exact fun nesting =>
        ⟨_, .call isCalled, by simp [CommaJoins, Nesting.topKind?, Nesting.top?, functionStart],
          .closeCall isCalled⟩
  | array _ ih =>
      refine @FlowsInside.group _ _ .brace .closeBrace ih ⟨rfl, rfl⟩ rfl ⟨rfl, rfl⟩ rfl rfl ?_
      exact fun nesting =>
        ⟨_, .brace, by simp [CommaJoins, Nesting.topKind?, Nesting.top?, arrayRowStart],
          .closeBrace⟩
  | unit signs percents _ ih => exact FlowsAsValue.unit ih signs percents
  | single _ ih => exact FlowsAsValue.mono ih fun _ _ => trivial
  | joined _ isInfix _ ihLeft ihRight =>
      exact isInfix.joins (FlowsAsValue.mono ihLeft fun _ _ => trivial) ihRight
  | @crossed unions left right _ ends _ starts ihLeft ihRight =>
      have leftValue : FlowsAsValue (CommaJoins unions) left :=
        FlowsAsValue.mono ihLeft fun _ _ => trivial
      exact leftValue.crossed ends ihRight starts
  | nothing =>
      refine ⟨[], rfl, ?_⟩
      intro nesting _ before fresh
      refine ⟨before, .nil ?_⟩
      cases before with
      | none => rfl
      | some lexeme => exact Lexeme.endsVisible_of_fresh fresh
  | something _ ih => exact FlowsAsValue.inside ih
  | lastArgument _ ih => exact ih
  | moreArguments _ isMark _ ihArgument ihLater =>
      refine FlowsInside.separated ihArgument isMark ihLater ?_
      intro nesting allowed
      simpa [CommaJoins] using allowed

/-- The tokens of a formula are those of items that flow outside of all groups. -/
theorem Grammatical.flows
    {tokens : List Token}
    (grammatical : Grammatical tokens) :
    ∃ first items last,
      tokens = (first :: items).flatMap Item.tokens ∧
        Flows [] none (first :: items) [] last := by
  obtain ⟨first, items, last, rfl, -, starts, -, flow⟩ := Derives.flows grammatical
  refine ⟨⟨false, first⟩, items, some last, by simp [Item.tokens], ?_⟩
  have joins : CommaJoins true [] := by simp [CommaJoins, Nesting.topKind?, Nesting.top?]
  exact flow [] joins none false (fits_of_startsValue starts.1 rfl starts.2)

end SheetFormula.RoundTrip
