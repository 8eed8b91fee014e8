import Mathlib.Data.List.Forall2
import SheetFormula.Proofs.Layout.Attachment
import SheetFormula.Proofs.RoundTrip.Operands

/-!
# Array literals

An array literal has rows of cells, and a cell is a constant with minus signs
before it.  It is written without blanks: the cells of a row with commas between
them, the rows with semicolons.

A formula without operators between values is read from the spellings of its
tokens alone.  In the layout of a literal each row becomes a line behind some
spaces.  Inside a row only the first sign or constant of a cell is led by
something, which is one space behind a comma: neither a logical value nor an
error value makes a difference there.

Main statement: the layout of an array literal is a line for each row between two
lines with the braces.
-/

namespace SheetFormula.RoundTrip

/-! ## Formulas without spaces -/

/-- A lexeme is written as its tokens are. -/
theorem Lexeme.spelling_eq (lexeme : Lexeme) :
    lexeme.spelling = lexeme.tokens.flatMap Layout.spelling := by
  cases lexeme with
  | reference value isReference =>
      rcases operandSubkind_cases value with subkind | subkind | subkind <;>
        simp [spelling, tokens, Layout.spelling, subkind]
  | operator mark isOperator =>
      rcases infixSubkind_cases [mark] with subkind | ⟨subkind, -⟩ | ⟨subkind, -⟩ <;>
        simp [spelling, tokens, Layout.spelling, subkind]
  | comparison pair known =>
      rcases infixSubkind_cases pair with subkind | ⟨subkind, -⟩ | ⟨subkind, -⟩ <;>
        simp [spelling, tokens, Layout.spelling, subkind]
  | call name isName =>
      simp [spelling, tokens, Layout.spelling, functionStart, Token.isArrayWrapper, Token.isStart,
        Token.isArrayRow, isName.unreserved, Text.without_of_notMem isName.noSpace]
  | text | error | union => simp [spelling, tokens, Layout.spelling]
  | _ => rfl

/-- Only operators between values take a space. -/
theorem Item.spaced_of_noInfix
    {item : Item} (noInfix : ∀ token ∈ item.tokens, token.kind ≠ .infixOp) :
    item.spaced = false := by
  rcases item with ⟨crosses, lexeme⟩
  cases crosses with
  | true => exact absurd rfl (noInfix intersection (by simp [Item.tokens]))
  | false =>
      cases lexeme with
      | operator => simp [Item.tokens, Lexeme.tokens] at noInfix
      | comparison => simp [Item.tokens, Lexeme.tokens] at noInfix
      | union => simp [Item.tokens, Lexeme.tokens] at noInfix
      | _ => rfl

/-- Without operators between values, items can be placed without gaps. -/
theorem exists_places_bare
    {items : List Item}
    (noInfix : ∀ token ∈ items.flatMap Item.tokens, token.kind ≠ .infixOp) :
    ∃ places : List Placed,
      places.map Placed.item = items ∧ (∀ place ∈ places, place.gap = 0) ∧
        places.flatMap Placed.text = (items.flatMap Item.tokens).flatMap Layout.spelling := by
  induction items with
  | nil => exact ⟨[], rfl, by simp, rfl⟩
  | cons item items ih =>
      rw [List.flatMap_cons, List.forall_mem_append] at noInfix
      rcases ih noInfix.2 with ⟨places, rfl, bare, text_eq⟩
      have unspaced := Item.spaced_of_noInfix noInfix.1
      have uncrossed : item.crosses = false := (Bool.or_eq_false_iff.mp unspaced).1
      refine ⟨⟨item, 0, by simp [unspaced]⟩ :: places, rfl, by simpa using bare, ?_⟩
      simp [Placed.text, Item.tokens, uncrossed, text_eq, Lexeme.spelling_eq]

/-- Items without gaps have no blank at their ends. -/
theorem isTrimmed_places
    {places : List Placed} {nesting outer : Nesting} {last : Option Lexeme}
    (flows : Flows nesting none (places.map Placed.item) outer last)
    (bare : ∀ place ∈ places, place.gap = 0) :
    Layout.IsTrimmed (places.flatMap Placed.text) := by
  cases places with
  | nil => exact Layout.isTrimmed_nil
  | cons place places =>
      constructor
      · have visible : place.item.lexeme.startsVisible := by
          cases flows with
          | cons fits _ _ => exact fits.startsVisible
        rcases place.item.lexeme.exists_begins with ⟨char, others, spelled, begins⟩
        simp [Placed.text, bare place List.mem_cons_self, spelled, begins.visible visible]
      · have visible := flows.endsVisible
        rw [List.getLast?_map, Option.all_map] at visible
        exact @last_places (place :: places) [] visible (by simp)

/-- Without operators between values, tokens that flow are read from their spellings. -/
theorem tokens_spelled
    {items : List Item} {last : Option Lexeme}
    (flows : Flows [] none items [] last)
    (noInfix : ∀ token ∈ items.flatMap Item.tokens, token.kind ≠ .infixOp)
    (isStrict : Bool) :
    Formula.tokens isStrict ('=' :: (items.flatMap Item.tokens).flatMap Layout.spelling) =
      .ok (items.flatMap Item.tokens) := by
  rcases exists_places_bare noInfix with ⟨places, rfl, bare, text_eq⟩
  have isLine : IsLine (places.flatMap Placed.text) := by
    intro char member
    rcases List.mem_flatMap.mp member with ⟨place, -, inside⟩
    exact ((isLine_gap place.gap).append place.item.lexeme.isLine_spelling) char inside
  have trimmed := isTrimmed_places flows bare
  have resolved : Intersection.resolve (places.flatMap Placed.scanned) =
      (places.map Placed.item).flatMap Item.resolved :=
    resolveAfter_places flows rfl
  have classified : Classification.classify ((places.map Placed.item).flatMap Item.resolved) =
      (places.map Placed.item).flatMap Item.tokens :=
    classifyAfter_items flows rfl
  rw [← text_eq, (yields_of_flows flows rfl).tokens_eq isLine trimmed isStrict,
    resolved, classified]

/-- Tokens with separators between them can stand inside a call. -/
theorem flowsInside_intercalate
    {required : Nesting → Prop} {mark : Char} {parts : List (List Token)}
    (isMark : mark = ',' ∨ mark = ';')
    (separates : ∀ nesting, required nesting → nesting.topKind? = some .function)
    (nonempty : parts ≠ [])
    (inside : ∀ part ∈ parts, FlowsInside required part) :
    FlowsInside required (List.intercalate [separator mark] parts) := by
  induction parts with
  | nil => exact absurd rfl nonempty
  | cons part parts ih =>
      rcases List.forall_mem_cons.mp inside with ⟨here, later⟩
      cases parts with
      | nil => simpa using here
      | cons next others =>
          rw [List.intercalate_cons_cons, List.append_assoc, List.singleton_append]
          exact here.separated isMark (ih (List.cons_ne_nil _ _) later) separates

end SheetFormula.RoundTrip

namespace SheetFormula

open Layout RoundTrip

/-! ## Literals -/

/-- The constants that stand in array literals. -/
inductive Constant where
  | word (value : List Char) (isWord : IsWord value)
  | text (value : List Char) (isLine : IsLine value)
  | error (code : List Char) (known : code ∈ errorCodes)

namespace Constant

def spelling : Constant → List Char
  | .word value _ => value
  | .text value _ => '"' :: Text.doubled '"' value ++ ['"']
  | .error code _ => code

def token : Constant → Token
  | .word value _ => operandOf value
  | .text value _ => ⟨.operand, value, some .text⟩
  | .error code _ => ⟨.operand, code, some .error⟩

theorem isOperand (constant : Constant) : IsOperand constant.token := by
  cases constant with
  | word value isWord => exact .word isWord
  | text value isLine => exact .text isLine
  | error code known => exact .error known

theorem isPlain_token (constant : Constant) : IsPlain constant.token := by
  cases constant with
  | word value isWord =>
      apply isPlain_operand
      · simpa using operandSubkind_noMark value
      · exact .inr isWord.nonempty
  | text value isLine => exact isPlain_operand (by simp) (.inl rfl)
  | error code known =>
      have codes : ∀ code ∈ errorCodes, code ≠ [] := by decide +kernel
      exact isPlain_operand (by simp) (.inr (codes code known))

theorem kind_token (constant : Constant) : constant.token.kind = .operand := by
  cases constant with
  | _ => rfl

theorem unattached (constant : Constant) : attaches constant.token = false := by
  simp [attaches, constant.kind_token]

theorem spelling_token (constant : Constant) :
    Layout.spelling constant.token = constant.spelling := by
  cases constant with
  | word value isWord =>
      rcases operandSubkind_cases value with subkind | subkind | subkind <;>
        simp [spelling, token, Layout.spelling, operandOf, subkind, quoteSheetName_word isWord]
  | text value isLine => rfl
  | error code known => rfl

end Constant

/-- A constant with minus signs before it. -/
structure ArrayCell where
  signs : Nat
  constant : Constant

namespace ArrayCell

def spelling (cell : ArrayCell) : List Char :=
  List.replicate cell.signs '-' ++ cell.constant.spelling

def tokens (cell : ArrayCell) : List Token :=
  List.replicate cell.signs minus ++ [cell.constant.token]

end ArrayCell

/-- Rows of cells; there is a row, and every row has a cell. -/
structure ArrayLiteral where
  rows : List (List ArrayCell)
  nonempty : rows ≠ []
  filled : [] ∉ rows

namespace ArrayLiteral

def rowTokens (row : List ArrayCell) : List Token :=
  List.intercalate [separator ','] (row.map ArrayCell.tokens)

def innerTokens (rows : List (List ArrayCell)) : List Token :=
  List.intercalate [separator ';'] (rows.map rowTokens)

theorem innerTokens_cons_cons (row next : List ArrayCell) (rows : List (List ArrayCell)) :
    innerTokens (row :: next :: rows) =
      rowTokens row ++ separator ';' :: innerTokens (next :: rows) := by
  simp [innerTokens, List.intercalate_cons_cons]

/-- The classified tokens of a literal. -/
def tokens (literal : ArrayLiteral) : List Token :=
  arrayStart :: arrayRowStart :: innerTokens literal.rows ++ [arrayRowStop, arrayStop]

/-- A literal as it is written without blanks. -/
def text (literal : ArrayLiteral) : List Char :=
  '{' :: Text.join ';' (literal.rows.map fun row => Text.join ',' (row.map ArrayCell.spelling)) ++
    ['}']

/-- A row with a space behind each comma. -/
def rowLine (row : List ArrayCell) : List Char :=
  List.intercalate [',', ' '] (row.map ArrayCell.spelling)

/-! ## Reading literals -/

/-- No row of a literal is empty. -/
theorem row_ne_nil
    {literal : ArrayLiteral} {row : List ArrayCell} (member : row ∈ literal.rows) :
    row ≠ [] :=
  fun empty => literal.filled (empty ▸ member)

theorem flowsAsValue_cell (cell : ArrayCell) : FlowsAsValue (fun _ => True) cell.tokens := by
  have value := cell.constant.isOperand.flows.unit cell.signs 0
  simpa [ArrayCell.tokens] using value

/-- The rows of a literal can stand inside a call. -/
theorem flowsInside_rows (literal : ArrayLiteral) :
    FlowsInside (fun nesting => nesting.topKind? = some .function) (innerTokens literal.rows) := by
  apply flowsInside_intercalate (.inr rfl) (fun _ allowed => allowed)
  · simpa using literal.nonempty
  · rw [List.forall_mem_map]
    intro row member
    apply flowsInside_intercalate (.inl rfl) (fun _ allowed => allowed)
    · simpa using row_ne_nil member
    · rw [List.forall_mem_map]
      intro cell _
      exact ((flowsAsValue_cell cell).mono fun _ _ => trivial).inside

theorem flowsAsValue_tokens (literal : ArrayLiteral) :
    FlowsAsValue (fun _ => True) literal.tokens := by
  refine @FlowsInside.group _ _ .brace .closeBrace (flowsInside_rows literal) ⟨rfl, rfl⟩ rfl
    ⟨rfl, rfl⟩ rfl rfl ?_
  exact fun nesting => ⟨_, .brace, rfl, .closeBrace⟩

/-- Inside a literal there are separators, signs and constants. -/
theorem mem_innerTokens
    {rows : List (List ArrayCell)} {token : Token} (member : token ∈ innerTokens rows) :
    (∃ mark, token = separator mark) ∨ token = minus ∨
      ∃ constant : Constant, token = constant.token := by
  rcases Text.mem_intercalate member with between | ⟨part, found, inRow⟩
  · exact .inl ⟨';', List.mem_singleton.mp between⟩
  · rcases List.mem_map.mp found with ⟨row, -, rfl⟩
    rcases Text.mem_intercalate inRow with between | ⟨part, found, inCell⟩
    · exact .inl ⟨',', List.mem_singleton.mp between⟩
    · rcases List.mem_map.mp found with ⟨cell, -, rfl⟩
      rcases List.mem_append.mp inCell with isSign | isConstant
      · exact .inr (.inl (List.eq_of_mem_replicate isSign))
      · exact .inr (.inr ⟨cell.constant, List.mem_singleton.mp isConstant⟩)

theorem noInfix_tokens (literal : ArrayLiteral) :
    ∀ token ∈ literal.tokens, token.kind ≠ .infixOp := by
  intro token member
  simp only [tokens, List.cons_append, List.mem_cons, List.mem_append, List.not_mem_nil,
    or_false] at member
  rcases member with rfl | rfl | inside | rfl | rfl
  · decide
  · decide
  · rcases mem_innerTokens inside with ⟨mark, rfl⟩ | rfl | ⟨constant, rfl⟩
    · simp [separator]
    · decide
    · simp [constant.kind_token]
  · decide
  · decide

theorem spelling_cell (cell : ArrayCell) :
    cell.tokens.flatMap Layout.spelling = cell.spelling := by
  have sign : Layout.spelling minus = ['-'] := rfl
  rw [ArrayCell.tokens, List.flatMap_append, List.flatMap_replicate, sign,
    List.flatten_replicate_singleton, List.flatMap_singleton, cell.constant.spelling_token]
  rfl

theorem spelling_row (row : List ArrayCell) :
    (rowTokens row).flatMap Layout.spelling = Text.join ',' (row.map ArrayCell.spelling) := by
  rw [rowTokens, Text.flatMap_intercalate, List.map_map]
  exact congrArg _ (List.map_congr_left fun cell _ => spelling_cell cell)

/-- A literal is written without blanks as its tokens are spelled. -/
theorem spelling_tokens (literal : ArrayLiteral) :
    literal.tokens.flatMap Layout.spelling = literal.text := by
  have inner : (innerTokens literal.rows).flatMap Layout.spelling =
      Text.join ';' (literal.rows.map fun row => Text.join ',' (row.map ArrayCell.spelling)) := by
    rw [innerTokens, Text.flatMap_intercalate, List.map_map]
    exact congrArg _ (List.map_congr_left fun row _ => spelling_row row)
  rw [tokens, List.flatMap_append, List.flatMap_cons, List.flatMap_cons, inner]
  rfl

/-- A literal is read as its tokens. -/
theorem tokens_text (literal : ArrayLiteral) (isStrict : Bool) :
    Formula.tokens isStrict ('=' :: literal.text) = .ok literal.tokens := by
  rcases flowsAsValue_tokens literal with ⟨first, items, last, split, -, starts, -, flow⟩
  have flows := flow [] trivial none false (fits_of_startsValue starts.1 rfl starts.2)
  have same : literal.tokens = (⟨false, first⟩ :: items).flatMap Item.tokens := by
    rw [split]
    simp [Item.tokens]
  rw [← spelling_tokens, same]
  apply tokens_spelled flows
  rw [← same]
  exact noInfix_tokens literal

end ArrayLiteral

namespace Layout

/-! ## Inside a row -/

/-- States inside an array row, behind a token that the next one is not attached to. -/
structure InRow (state : State) : Prop where
  inArray : state.inArray = true
  unattached : state.last.any attaches = false

section InRow

variable {width : Nat} {rest : List Token} {state : State} {token : Token}
  {following : Option Token}

theorem InRow.inArrayAt_eq (inRow : InRow state) (isPlain : IsPlain token) :
    inArrayAt state token = true := by
  rw [inArrayAt_plain isPlain, inRow.inArray]

/-- A plain token keeps the row open. -/
theorem InRow.step
    (inRow : InRow state)
    (isPlain : IsPlain token)
    (unattached : attaches token = false) :
    InRow (Layout.step (List.replicate width ' ') state token following).2 where
  inArray := inRow.inArrayAt_eq isPlain
  unattached := unattached

/-- In a row a comma ends no line, and a semicolon does. -/
theorem InRow.step_separator
    {mark : Char}
    (inRow : InRow state)
    (isMark : mark = ',' ∨ mark = ';') :
    (Layout.step (List.replicate width ' ') state (separator mark) following).1 =
      mark :: (if mark = ',' then [] else ['\n']) := by
  have isPlain : IsPlain (separator mark) := isPlain_separator isMark
  have spelled : spelling (separator mark) = [mark] := rfl
  rw [step_separator_eq _ _ _ isPlain rfl, separatorLead, inRow.inArrayAt_eq isPlain, spelled]
  simp [separator]

theorem InRow.atLineStart_comma (inRow : InRow state) :
    (Layout.step (List.replicate width ' ') state (separator ',') following).2.atLineStart =
      false := by
  have isOpen : inArrayAt state (separator ',') = true :=
    inRow.inArrayAt_eq (isPlain_separator (.inl rfl))
  have isSeparator : ((separator ',').kind == .argument) = true := rfl
  have stays : breaksBehind state (separator ',') following = false := by
    simp [breaksBehind, isOpen, isSeparator]
  have ended : (Layout.step (List.replicate width ' ') state (separator ',') following).1.getLast? =
      some ',' := by
    rw [inRow.step_separator (.inl rfl)]
    rfl
  have broken := Bool.or_eq_false_iff.mpr ⟨stays, (rfl : (',' == '\n') = false)⟩
  simp only [Layout.step] at ended ⊢
  rw [ended]
  exact broken

/-- Behind a token that the next one is not attached to there are spaces, one within a line. -/
theorem exists_lead (unattached : state.last.any attaches = false) :
    ∃ gap,
      (state.atLineStart = false → gap = 1) ∧
        lead (List.replicate width ' ') (entering state token) = List.replicate gap ' ' := by
  cases starts : state.atLineStart with
  | true =>
      rcases lead_spaces width (entering state token) with ⟨gap, spaces⟩
      exact ⟨gap, by simp, spaces⟩
  | false =>
      refine ⟨1, fun _ => rfl, ?_⟩
      simp [lead, entering, unattached, starts]

theorem exists_operandLead (unattached : state.last.any attaches = false) :
    ∃ gap,
      (state.atLineStart = false → gap = 1) ∧
        operandLead (List.replicate width ' ') state token = List.replicate gap ' ' := by
  unfold operandLead
  split
  · refine ⟨1, fun _ => rfl, ?_⟩
    rw [unattached]
    rfl
  · exact exists_lead unattached

/-- Behind a sign nothing separates the signs and the constant of a cell. -/
theorem textBefore_attached
    (attached : state.last.any attaches)
    (constant : Constant)
    (signs : Nat) :
    textBefore (List.replicate width ' ') rest state
        (List.replicate signs minus ++ [constant.token]) =
      List.replicate signs '-' ++ constant.spelling := by
  induction signs generalizing state with
  | zero =>
      rw [List.replicate_zero, List.nil_append, textBefore_cons,
        step_operand_behind constant.isPlain_token constant.kind_token attached,
        constant.spelling_token]
      simp [textBefore]
  | succ signs ih =>
      have noLead : lead (List.replicate width ' ') (entering state minus) = [] :=
        lead_behind attached
      rw [List.replicate_succ, List.cons_append, textBefore_cons, step_led _ _ _ rfl (.inl rfl),
        noLead, ih rfl]
      rfl

/-- Inside a row, tokens that are written as a text behind spaces, one within a line. -/
structure WritesInRow
    (width : Nat) (rest : List Token) (state : State) (tokens : List Token) (text : List Char) :
    Prop where
  inRow : InRow (stateBefore (List.replicate width ' ') rest state tokens)
  written : ∃ gap,
    (state.atLineStart = false → gap = 1) ∧
      textBefore (List.replicate width ' ') rest state tokens = List.replicate gap ' ' ++ text

theorem inArray_stateBefore
    {unit : List Char} {tokens : List Token}
    (plain : ∀ token ∈ tokens, IsPlain token) :
    (stateBefore unit rest state tokens).inArray = state.inArray := by
  induction tokens generalizing state with
  | nil => rfl
  | cons token others ih =>
      rcases List.forall_mem_cons.mp plain with ⟨here, later⟩
      rw [stateBefore_cons, ih later]
      exact inArrayAt_plain here

theorem isPlain_minus : IsPlain minus :=
  isPlain_sign (by simp) (.inr (.inl rfl)) (by decide)

theorem InRow.behind_cell (inRow : InRow state) (cell : ArrayCell) :
    InRow (stateBefore (List.replicate width ' ') rest state cell.tokens) where
  inArray := by
    rw [inArray_stateBefore, inRow.inArray]
    intro token member
    rcases List.mem_append.mp member with isSign | isConstant
    · rw [List.eq_of_mem_replicate isSign]
      exact isPlain_minus
    · rw [List.mem_singleton.mp isConstant]
      exact cell.constant.isPlain_token
  unattached := by
    rw [last_stateBefore, ArrayCell.tokens, List.getLast?_concat]
    exact cell.constant.unattached

theorem InRow.writes_cell (inRow : InRow state) (cell : ArrayCell) :
    WritesInRow width rest state cell.tokens cell.spelling := by
  refine ⟨inRow.behind_cell cell, ?_⟩
  rcases cell with ⟨signs, constant⟩
  cases signs with
  | zero =>
      rcases exists_operandLead inRow.unattached with ⟨gap, single, spaces⟩
      refine ⟨gap, single, ?_⟩
      rw [ArrayCell.tokens, List.replicate_zero, List.nil_append, textBefore_cons,
        step_operand _ _ _ constant.isPlain_token.noMark constant.kind_token, spaces,
        constant.spelling_token]
      simp [textBefore, ArrayCell.spelling]
  | succ signs =>
      rcases exists_lead inRow.unattached with ⟨gap, single, spaces⟩
      refine ⟨gap, single, ?_⟩
      rw [ArrayCell.tokens, List.replicate_succ, List.cons_append, textBefore_cons,
        step_led _ _ _ rfl (.inl rfl), spaces, textBefore_attached rfl]
      simp [ArrayCell.spelling, List.replicate_succ, show spelling minus = ['-'] from rfl]

/-- Behind a comma the line goes on with one space. -/
theorem WritesInRow.comma
    {tokens others : List Token} {text behind : List Char}
    (first : WritesInRow width (separator ',' :: (others ++ rest)) state tokens text)
    (later : ∀ next, InRow next → WritesInRow width rest next others behind) :
    WritesInRow width rest state (tokens ++ separator ',' :: others)
      (text ++ ',' :: ' ' :: behind) := by
  have inRow : InRow (Layout.step (List.replicate width ' ') _ (separator ',')
      (others ++ rest).head?).2 :=
    first.inRow.step (isPlain_separator (.inl rfl)) rfl
  have second := later _ inRow
  rcases first.written with ⟨gap, single, firstText⟩
  rcases second.written with ⟨between, one, secondText⟩
  constructor
  · rw [stateBefore_append, stateBefore_cons]
    exact second.inRow
  · refine ⟨gap, single, ?_⟩
    rw [textBefore_append, textBefore_cons, List.cons_append, firstText, secondText,
      first.inRow.step_separator (.inl rfl), one first.inRow.atLineStart_comma]
    simp

/-- The cells of a row are written on one line. -/
theorem InRow.writes_row
    {row : List ArrayCell}
    (inRow : InRow state)
    (nonempty : row ≠ []) :
    WritesInRow width rest state (ArrayLiteral.rowTokens row) (ArrayLiteral.rowLine row) := by
  induction row generalizing state with
  | nil => exact absurd rfl nonempty
  | cons cell row ih =>
      cases row with
      | nil => simpa [ArrayLiteral.rowTokens, ArrayLiteral.rowLine] using inRow.writes_cell cell
      | cons next others =>
          have whole := (inRow.writes_cell cell).comma
            fun state inRow => ih inRow (List.cons_ne_nil _ _)
          simpa [ArrayLiteral.rowTokens, ArrayLiteral.rowLine,
            List.intercalate_cons_cons] using whole

/-- Lines on which a row can stand: behind spaces, and with a semicolon if another row follows. -/
def IsLineOf (line : List Char) (row : List ArrayCell) : Prop :=
  ∃ gap ending,
    (ending = [] ∨ ending = [';']) ∧
      line = List.replicate gap ' ' ++ ArrayLiteral.rowLine row ++ ending

/-- The rows of a literal are written on lines of their own. -/
theorem InRow.exists_lines
    {rows : List (List ArrayCell)}
    (inRow : InRow state)
    (nonempty : rows ≠ [])
    (filled : [] ∉ rows)
    (width : Nat)
    (rest : List Token) :
    ∃ lines,
      List.Forall₂ IsLineOf lines rows ∧
        textBefore (List.replicate width ' ') rest state (ArrayLiteral.innerTokens rows) =
          Text.join '\n' lines := by
  induction rows generalizing state with
  | nil => exact absurd rfl nonempty
  | cons row rows ih =>
      rw [List.mem_cons, not_or] at filled
      have rowFilled : row ≠ [] := fun empty => filled.1 empty.symm
      cases rows with
      | nil =>
          have writes : WritesInRow width rest state _ _ := inRow.writes_row rowFilled
          rcases writes.written with ⟨gap, -, written⟩
          have only : ArrayLiteral.innerTokens [row] = ArrayLiteral.rowTokens row :=
            List.intercalate_singleton
          rw [only]
          refine ⟨[_], .cons ⟨gap, [], .inl rfl, rfl⟩ .nil, ?_⟩
          rw [written, Text.join_singleton, List.append_nil]
      | cons next others =>
          have writes : WritesInRow width
              (separator ';' :: (ArrayLiteral.innerTokens (next :: others) ++ rest)) state _ _ :=
            inRow.writes_row rowFilled
          rcases writes.written with ⟨gap, -, written⟩
          have behind : InRow (Layout.step (List.replicate width ' ') _ (separator ';')
              (ArrayLiteral.innerTokens (next :: others) ++ rest).head?).2 :=
            writes.inRow.step (isPlain_separator (.inr rfl)) rfl
          rcases ih behind (List.cons_ne_nil _ _) filled.2 with ⟨lines, each, later⟩
          refine ⟨_ :: lines, .cons ⟨gap, [';'], .inr rfl, rfl⟩ each, ?_⟩
          cases each with
          | cons _ _ =>
              rw [ArrayLiteral.innerTokens_cons_cons, textBefore_append, textBefore_cons,
                List.cons_append, written, later, writes.inRow.step_separator (.inr rfl),
                Text.join_cons_cons]
              simp

end InRow

end Layout

/-! ## The layout of a literal -/

namespace ArrayLiteral

variable (literal : ArrayLiteral)

theorem innerTokens_ne_nil : innerTokens literal.rows ≠ [] := by
  apply Text.intercalate_ne_nil
  · simpa using literal.nonempty
  · intro empty
    rcases List.mem_map.mp empty with ⟨row, member, nothing⟩
    refine absurd nothing (Text.intercalate_ne_nil (by simpa using row_ne_nil member) ?_ _)
    simp [ArrayCell.tokens]

/-- The opening brace stands on a line of its own. -/
theorem textBefore_open
    {rest : List Token} (unit : List Char)
    (filled : opensEmpty arrayRowStart rest.head? = false) :
    textBefore unit rest .initial [arrayStart, arrayRowStart] = ['{', '\n'] := by
  have unwritten : (step unit .initial arrayStart (some arrayRowStart)).1 = [] :=
    step_wrapper _ _ _ rfl rfl rfl
  have brace : (step unit (step unit .initial arrayStart (some arrayRowStart)).2 arrayRowStart
      rest.head?).1 = ['{', '\n'] := by
    rw [step_start _ _ _ rfl rfl (fun _ => rfl), lead_row (level_initial _), filled]
    rfl
  rw [textBefore_cons, textBefore_cons]
  exact congrArg₂ (· ++ ·) unwritten (congrArg (· ++ []) brace)

/-- The rows begin behind the opening brace. -/
theorem inRow_open (unit : List Char) (rest : List Token) :
    InRow (stateBefore unit rest .initial [arrayStart, arrayRowStart]) :=
  ⟨rfl, rfl⟩

/-- The closing brace begins a line behind whatever opens no group. -/
theorem exists_textBefore_close
    {state : State} (width : Nat)
    (noStart : state.last.any Token.isStart = false) :
    ∃ gap,
      textBefore (List.replicate width ' ') [] state [arrayRowStop, arrayStop] =
        '\n' :: List.replicate gap ' ' ++ ['}'] := by
  have filled : closesEmpty state arrayRowStop = false := by
    cases last : state.last with
    | none => simp [closesEmpty, last]
    | some token =>
        rw [last, Option.any_some] at noStart
        simp [closesEmpty, last, Token.closes, noStart]
  have brace : (step (List.replicate width ' ') state arrayRowStop (some arrayStop)).1 =
      '\n' :: List.replicate (depthAt state arrayRowStop * width) ' ' ++ ['}'] := by
    rw [step_stop _ _ _ rfl rfl rfl (fun _ => rfl), filled, indentation_spaces]
    rfl
  have unwritten : (step (List.replicate width ' ')
      (step (List.replicate width ' ') state arrayRowStop (some arrayStop)).2 arrayStop none).1 =
        [] :=
    step_wrapper _ _ _ rfl rfl rfl
  refine ⟨depthAt state arrayRowStop * width, ?_⟩
  rw [textBefore_cons, textBefore_cons]
  exact (congrArg₂ (· ++ ·) brace (congrArg (· ++ []) unwritten)).trans (List.append_nil _)

/-- What stands in a literal neither opens nor ends a group. -/
theorem unmarked_inner
    {rows : List (List ArrayCell)} {token : Token} (member : token ∈ innerTokens rows) :
    token.isStart = false ∧ token.isStop = false := by
  rcases mem_innerTokens member with ⟨mark, rfl⟩ | rfl | ⟨constant, rfl⟩
  · exact ⟨rfl, rfl⟩
  · exact ⟨rfl, rfl⟩
  · exact ⟨constant.isPlain_token.noStart, constant.isPlain_token.noStop⟩

/-- Inside a row, the rows and the closing brace of a literal are written on lines. -/
theorem exists_lines_close
    {state : State} (inRow : InRow state) (width : Nat) :
    ∃ lines gap,
      List.Forall₂ IsLineOf lines literal.rows ∧
        textBefore (List.replicate width ' ') [] state
            (innerTokens literal.rows ++ [arrayRowStop, arrayStop]) =
          Text.join '\n' lines ++ ('\n' :: List.replicate gap ' ' ++ ['}']) := by
  rcases inRow.exists_lines literal.nonempty literal.filled width [arrayRowStop, arrayStop] with
    ⟨lines, each, written⟩
  have noStart : (stateBefore (List.replicate width ' ') [arrayRowStop, arrayStop] state
      (innerTokens literal.rows)).last.any Token.isStart = false := by
    have last := List.getLast?_eq_some_getLast (innerTokens_ne_nil literal)
    rw [last_stateBefore, last, Option.some_or, Option.any_some]
    exact (unmarked_inner (List.getLast_mem _)).1
  rcases exists_textBefore_close width noStart with ⟨gap, closed⟩
  refine ⟨lines, gap, each, ?_⟩
  rw [textBefore_append, List.append_nil, written, closed]

/-- The layout of a literal has a line for each row between the braces. -/
theorem exists_lines_render (width : Nat) :
    ∃ lines gap,
      List.Forall₂ IsLineOf lines literal.rows ∧
        render (List.replicate width ' ') literal.tokens =
          '=' :: '{' :: ('\n' :: Text.join '\n' lines ++ '\n' :: List.replicate gap ' ') ++
            ['}'] := by
  have filled : opensEmpty arrayRowStart
      (innerTokens literal.rows ++ [arrayRowStop, arrayStop]).head? = false := by
    rcases List.exists_cons_of_ne_nil (innerTokens_ne_nil literal) with ⟨first, others, inner⟩
    have noStop := (unmarked_inner (inner ▸ List.mem_cons_self)).2
    simp [inner, opensEmpty, Token.closes, noStop]
  have inRow := inRow_open (List.replicate width ' ')
    (innerTokens literal.rows ++ [arrayRowStop, arrayStop])
  rcases exists_lines_close literal inRow width with ⟨lines, gap, each, written⟩
  refine ⟨lines, gap, each, ?_⟩
  have split : literal.tokens =
      [arrayStart, arrayRowStart] ++ (innerTokens literal.rows ++ [arrayRowStop, arrayStop]) := rfl
  have whole : textBefore (List.replicate width ' ') [] .initial literal.tokens =
      '{' :: ('\n' :: Text.join '\n' lines ++ '\n' :: List.replicate gap ' ') ++ ['}'] := by
    rw [split, textBefore_append, List.append_nil, textBefore_open _ filled, written]
    simp
  have trimmed := isTrimmed_between '{' '}'
    ('\n' :: Text.join '\n' lines ++ '\n' :: List.replicate gap ' ') rfl rfl
  rw [render_eq, whole, Text.trim_eq_self trimmed.1 trimmed.2]
  rfl

/-- A literal is formatted to a line for each row between the braces. -/
theorem exists_lines_format (settings : Settings) :
    ∃ lines gap,
      List.Forall₂ IsLineOf lines literal.rows ∧
        Formula.format settings ('=' :: literal.text) =
          .ok ('=' :: '{' :: ('\n' :: Text.join '\n' lines ++ '\n' :: List.replicate gap ' ') ++
            ['}']) := by
  rcases exists_lines_render literal settings.indentWidth with ⟨lines, gap, each, written⟩
  refine ⟨lines, gap, each, ?_⟩
  rw [format_of_tokens (List.cons_ne_nil _ _) (tokens_text literal settings.strict), ← written]
  rfl

end ArrayLiteral

end SheetFormula
