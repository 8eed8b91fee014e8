import SheetFormula.Proofs.RoundTrip.Scanning

/-!
# What a scan leaves

A scan that departs nowhere leaves the tokens of lexemes, apart from what is
still open before classification: signs, operands, marked names, texts before
a literal and blanks.  `Segments` is the list of such tokens over the open
groups.

While a text is read, the buffer is always the beginning of something that
can be read back (`Collecting`), and the nesting of the scanner is that of
the lexemes, up to the marks of implicit intersection (`Frames`).  One step
adds the tokens it emits in front of whatever the rest of the text leaves
(`adds_step`), provided that a name it calls can be read back.
-/

namespace SheetFormula.RoundTrip

open Scan

/-! ## Names of functions -/

/-- The name that a move calls: one opener by itself, since an array literal leaves two. -/
def calledName? (move : Move) : Option (List Char) :=
  match move.emitted with
  | [some ⟨.function, name, some .start⟩] => some name
  | _ => none

/-- The names that are called in a text, as they are collected. -/
def calledNames (text : List Char) : List (List Char) :=
  (reading false .initial text).filterMap calledName?

/-- A name without one mark of implicit intersection before it. -/
def unmarkedName : List Char → List Char
  | '@' :: name => name
  | name => name

theorem unmarkedName_cases (name : List Char) :
    unmarkedName name = name ∨ name = '@' :: unmarkedName name := by
  unfold unmarkedName
  split
  · exact .inr rfl
  · exact .inl rfl

/-- Names that the layout writes as they are collected. -/
structure IsCallable (name : List Char) : Prop where
  nonempty : name ≠ []
  noSpace : ' ' ∉ name
  unmarked : name.head? ≠ some '@'
  unreserved : name ≠ arrayText ∧ name ≠ arrayRowText ∧ name ≠ arrayStopText
  unescaped : name.head? = some '\'' → name.count '\'' ≤ 2

instance (name : List Char) : Decidable (IsCallable name) :=
  decidable_of_iff
    (name ≠ [] ∧ ' ' ∉ name ∧ name.head? ≠ some '@' ∧
      (name ≠ arrayText ∧ name ≠ arrayRowText ∧ name ≠ arrayStopText) ∧
      (name.head? = some '\'' → name.count '\'' ≤ 2))
    ⟨fun ⟨nonempty, noSpace, unmarked, unreserved, unescaped⟩ =>
        ⟨nonempty, noSpace, unmarked, unreserved, unescaped⟩,
      fun ⟨nonempty, noSpace, unmarked, unreserved, unescaped⟩ =>
        ⟨nonempty, noSpace, unmarked, unreserved, unescaped⟩⟩

/-- A callable name is a name of a function, whether it was collected with a mark or without. -/
theorem IsCallable.isFunctionName
    {slice buffer : List Char}
    (callable : IsCallable (unmarkedName buffer))
    (collected : Collected slice buffer)
    (isLine : IsLine buffer) :
    IsFunctionName (unmarkedName buffer) := by
  have itself : Collected (unmarkedName buffer) (unmarkedName buffer) := by
    rcases unmarkedName_cases buffer with same | marked
    · rw [same] at callable ⊢
      rwa [collected.eq_of_few_quotes callable.unescaped] at collected
    · rw [marked] at collected
      exact collected.behind_mark
  have line : IsLine (unmarkedName buffer) := by
    rcases unmarkedName_cases buffer with same | marked
    · rwa [same]
    · intro char member
      apply isLine
      rw [marked]
      exact List.mem_cons_of_mem _ member
  exact ⟨callable.nonempty, line, callable.noSpace, callable.unmarked, callable.unreserved, itself⟩

/-! ## Segments -/

/-- Lexemes whose tokens do not depend on what stands before them. -/
def Lexeme.IsSettled (lexeme : Lexeme) : Prop :=
  lexeme ≠ .minus ∧ lexeme.isSign = false

/-- Tokens that a scan leaves, given the groups that are open before them. -/
inductive Segments : Nesting → List Token → Prop where
  | nil : Segments [] []
  | lexeme {nesting inner : Nesting} {lexeme : Lexeme} {rest : List Token}
      (settled : lexeme.IsSettled)
      (turns : Turns nesting lexeme inner)
      (later : Segments inner rest) :
      Segments nesting (lexeme.scanned ++ rest)
  | sign {nesting : Nesting} {mark : Char} {rest : List Token}
      (isSign : mark = '+' ∨ mark = '-')
      (later : Segments nesting rest) :
      Segments nesting (⟨.infixOp, [mark], none⟩ :: rest)
  | operand {nesting : Nesting} {slice value : List Char} {rest : List Token}
      (nonempty : value ≠ [])
      (isLine : IsLine value)
      (collected : Collected slice value)
      (later : Segments nesting rest) :
      Segments nesting (⟨.operand, value, none⟩ :: rest)
  | marked {nesting : Nesting} {name : List Char} {rest : List Token}
      (isName : IsFunctionName name)
      (later : Segments (functionStart name :: nesting) rest) :
      Segments nesting (functionStart ('@' :: name) :: rest)
  | unknown {nesting : Nesting} {value : List Char} {rest : List Token}
      (later : Segments nesting rest) :
      Segments nesting (⟨.unknown, value, none⟩ :: rest)
  | blank {nesting : Nesting} {rest : List Token}
      (visible : rest.head?.any Token.isBlank = false)
      (later : Segments nesting rest) :
      Segments nesting (⟨.blank, [' '], none⟩ :: rest)

/-- The nesting of the scanner and that of the lexemes: names can have a mark in the first. -/
inductive Frames : Nesting → Nesting → Prop where
  | nil : Frames [] []
  | parenthesis {nesting inner : Nesting}
      (outer : Frames nesting inner) :
      Frames (subexpressionStart :: nesting) (subexpressionStart :: inner)
  | call {nesting inner : Nesting} {buffer name : List Char}
      (isName : IsFunctionName name)
      (marked : buffer = name ∨ buffer = '@' :: name)
      (outer : Frames nesting inner) :
      Frames (functionStart buffer :: nesting) (functionStart name :: inner)
  | brace {nesting inner : Nesting}
      (outer : Frames nesting inner) :
      Frames (arrayRowStart :: arrayStart :: nesting) (arrayRowStart :: arrayStart :: inner)

namespace Frames

variable {nesting inner : Nesting}

theorem topKind?_eq (frames : Frames nesting inner) : nesting.topKind? = inner.topKind? := by
  cases frames with
  | nil => rfl
  | parenthesis => rfl
  | call => rfl
  | brace => rfl

/-- A called name is not that of an array row, with a mark or without. -/
theorem noRow_of_call
    {buffer name : List Char}
    (isName : IsFunctionName name)
    (marked : buffer = name ∨ buffer = '@' :: name) :
    (functionStart buffer).isArrayRow = false := by
  rcases marked with rfl | rfl
  · simp [functionStart, Token.isArrayRow, isName.unreserved]
  · simp [functionStart, Token.isArrayRow, arrayRowText_eq]

/-- A closing brace ends an array row in its wrapper. -/
theorem closeBrace
    {row : Token} {outer : Nesting}
    (frames : Frames (row :: outer) inner)
    (isRow : row.isArrayRow) :
    ∃ others rest,
      row = arrayRowStart ∧ outer = arrayStart :: others ∧
        inner = arrayRowStart :: arrayStart :: rest ∧ Frames others rest := by
  cases frames with
  | parenthesis => simp [subexpressionStart, Token.isArrayRow] at isRow
  | call isName marked => simp [noRow_of_call isName marked] at isRow
  | brace outer => exact ⟨_, _, rfl, rfl, rfl, outer⟩

/-- A closing parenthesis ends a call or a parenthesis. -/
theorem closeParenthesis
    {opener : Token} {outer : Nesting}
    (frames : Frames (opener :: outer) inner)
    (noRow : opener.isArrayRow = false) :
    ∃ lexeme rest,
      Lexeme.IsSettled lexeme ∧ Turns inner lexeme rest ∧
        lexeme.scanned = [Nesting.stopFor opener []] ∧ Frames outer rest := by
  cases frames with
  | parenthesis outer =>
      exact ⟨.closeParenthesis, _, ⟨by simp, rfl⟩, .closeParenthesis, rfl, outer⟩
  | call isName _ outer =>
      exact ⟨.closeCall, _, ⟨by simp, rfl⟩, .closeCall isName, rfl, outer⟩
  | brace => simp [arrayRowStart, Token.isArrayRow] at noRow

end Frames

/-! ## The buffer -/

/-- Texts behind a bracket, with the number of brackets that are open in them. -/
inductive Unclosed : Nat → List Char → Prop where
  | nested {inner : List Char}
      (nested : Balance.Nested inner) :
      Unclosed 0 inner
  | opened {depth : Nat} {outer inner : List Char}
      (outside : Unclosed depth outer)
      (nested : Balance.Nested inner) :
      Unclosed (depth + 1) (outer ++ '[' :: inner)

theorem nested_append
    {first second : List Char}
    (nested : Balance.Nested first)
    (later : Balance.Nested second) :
    Balance.Nested (first ++ second) := by
  induction nested with
  | nil => exact later
  | character noOpener noCloser _ ih => exact .character noOpener noCloser ih
  | bracketed inside _ _ ih =>
      have whole := Balance.Nested.bracketed inside ih
      simpa using whole

theorem Unclosed.append
    {depth : Nat} {text inner : List Char}
    (unclosed : Unclosed depth text)
    (nested : Balance.Nested inner) :
    Unclosed depth (text ++ inner) := by
  cases unclosed with
  | nested before => exact .nested (nested_append before nested)
  | opened outside before =>
      have longer := outside.opened (nested_append before nested)
      simpa using longer

theorem Unclosed.close
    {depth : Nat} {text : List Char}
    (unclosed : Unclosed (depth + 1) text) :
    Unclosed depth (text ++ [']']) := by
  cases unclosed with
  | opened outside nested =>
      have closed := outside.append (.bracketed nested .nil)
      simpa using closed

/-- What the buffer holds, mode by mode: the beginning of something that can be read back. -/
def Collects (state : Scan.State) : Prop :=
  match state.mode with
  | .normal => ∃ slice, Collected slice state.buffer
  | .inside .sheetPath => ∃ name, state.buffer = '\'' :: name
  | .inside .bracketRange =>
      ∃ depth slice before inner,
        Collected slice before ∧ state.bracketDepth = depth + 1 ∧
          state.buffer = before ++ '[' :: inner ∧ Unclosed depth inner
  | .inside .text | .inside .errorCode => True

/-- The buffer holds what can be read back, on one line. -/
structure Collecting (state : Scan.State) : Prop where
  isLine : IsLine state.buffer
  collects : Collects state

theorem collecting_of_empty
    {state : Scan.State}
    (mode : state.mode = .normal)
    (empty : state.buffer = []) :
    Collecting state where
  isLine := by simp [empty, IsLine]
  collects := by
    simp only [Collects, mode, empty]
    exact ⟨[], .nil⟩

theorem isLine_concat
    {text : List Char} {char : Char} (isLine : IsLine text) (inLine : IsLine [char]) :
    IsLine (text ++ [char]) := by
  intro other member
  rcases List.mem_append.mp member with before | last
  · exact isLine other before
  · exact inLine other last

/-- A character goes into the buffer. -/
theorem Collecting.collect
    {state next : Scan.State} {char : Char}
    (collecting : Collecting state)
    (inLine : IsLine [char])
    (longer : next.buffer = state.buffer ++ [char])
    (collects : Collects next) :
    Collecting next where
  isLine := by
    rw [longer]
    exact isLine_concat collecting.isLine inLine
  collects := collects

theorem Collecting.exists_slice
    {state : Scan.State}
    (collecting : Collecting state)
    (mode : state.mode = .normal) :
    ∃ slice, Collected slice state.buffer := by
  have collects := collecting.collects
  simpa only [Collects, mode] using collects

/-- A buffer that is completed is an operand, or nothing. -/
theorem Collecting.operand
    {state : Scan.State}
    (collecting : Collecting state)
    (mode : state.mode = .normal) :
    ∃ made : List Token,
      state.flush .operand = made.map some ∧
        ∀ nesting later, Segments nesting later → Segments nesting (made ++ later) := by
  unfold State.flush
  split
  · exact ⟨[], rfl, fun _ _ segments => segments⟩
  · next nonempty =>
      rcases collecting.exists_slice mode with ⟨slice, collected⟩
      refine ⟨[⟨.operand, state.buffer, none⟩], rfl, ?_⟩
      intro nesting later segments
      exact .operand (by simpa using nonempty) collecting.isLine collected segments

/-- A buffer before a literal is of unknown kind, or nothing. -/
theorem flush_unknown (state : Scan.State) :
    ∃ made : List Token,
      state.flush .unknown = made.map some ∧
        ∀ nesting later, Segments nesting later → Segments nesting (made ++ later) := by
  unfold State.flush
  split
  · exact ⟨[], rfl, fun _ _ segments => segments⟩
  · exact ⟨[_], rfl, fun _ _ segments => .unknown segments⟩

/-! ## Steps -/

/-- What a move adds in front of the segments that the rest of the text leaves. -/
structure Adds (move : Move) (nesting : Nesting) (made : List Token) (inner : Nesting) :
    Prop where
  emits : move.emitted = made.map some
  frames : Frames move.next.nesting inner
  collecting : Collecting move.next
  prepends : ∀ later, Segments inner later →
    (made.getLast?.any Token.isBlank → later.head?.any Token.isBlank = false) →
      Segments nesting (made ++ later)

/-- A move that only collects adds nothing. -/
theorem adds_nothing
    {state : Scan.State} {move : Move} {nesting : Nesting}
    (frames : Frames state.nesting nesting)
    (emits : move.emitted = [])
    (same : move.next.nesting = state.nesting)
    (collecting : Collecting move.next) :
    Adds move nesting [] nesting where
  emits := emits
  frames := by rwa [same]
  collecting := collecting
  prepends := fun _ segments _ => segments

/-- A lexeme that is left by itself. -/
theorem adds_lexeme
    {move : Move} {nesting inner : Nesting} {lexeme : Lexeme}
    (settled : lexeme.IsSettled)
    (turns : Turns nesting lexeme inner)
    (emits : move.emitted = lexeme.scanned.map some)
    (frames : Frames move.next.nesting inner)
    (collecting : Collecting move.next) :
    Adds move nesting lexeme.scanned inner where
  emits := emits
  frames := frames
  collecting := collecting
  prepends := fun _ segments _ => .lexeme settled turns segments

/-- What is flushed before the tokens of a move is a segment of its own. -/
theorem Adds.behind
    {move whole : Move} {nesting inner : Nesting} {flushed made : List Token}
    (adds : Adds move nesting made inner)
    (before : ∀ nesting later, Segments nesting later → Segments nesting (flushed ++ later))
    (emits : whole.emitted = flushed.map some ++ move.emitted)
    (same : whole.next = move.next)
    (nonempty : made ≠ []) :
    Adds whole nesting (flushed ++ made) inner where
  emits := by rw [emits, adds.emits, List.map_append]
  frames := by
    rw [same]
    exact adds.frames
  collecting := by
    rw [same]
    exact adds.collecting
  prepends := by
    intro later segments visible
    rw [List.append_assoc]
    apply before
    apply adds.prepends later segments
    rwa [List.getLast?_append, List.getLast?_eq_some_getLast nonempty, Option.some_or,
      ← List.getLast?_eq_some_getLast nonempty] at visible

theorem mem_comparisons
    {char : Char} {tail pair : List Char}
    (found : pairOperator? char tail = some pair) :
    pair ∈ comparisons := by
  unfold pairOperator? at found
  split at found
  · cases found
    simp [comparisons]
  · cases found
    simp [comparisons]
  · cases found
    simp [comparisons]
  · cases found

/-- A delimiter that is a token by itself adds this token. -/
theorem adds_separator
    {state : Scan.State} {nesting : Nesting} {char : Char} {tail : List Char} {token : Token}
    {extra : Nat}
    (mode : state.mode = .normal)
    (frames : Frames state.nesting nesting)
    (separates : Separates state.nesting char tail token extra) :
    Adds { next := state.cleared, emitted := [some token] } nesting [token] nesting := by
  have empty : Collecting state.cleared := collecting_of_empty mode rfl
  cases separates with
  | @pair _ _ pair found =>
      have known := mem_comparisons found
      exact @adds_lexeme _ _ _ (.comparison pair known) ⟨by simp, rfl⟩ (.comparison known) rfl
        frames empty
  | rowSeparator =>
      have turns : Turns nesting (.separator ';' (.inr rfl)) nesting := .separator _ (by simp)
      exact @adds_lexeme _ _ _ (.separator ';' (.inr rfl)) ⟨by simp, rfl⟩ turns rfl frames empty
  | blank =>
      refine ⟨rfl, frames, empty, ?_⟩
      intro later segments visible
      exact .blank (visible rfl) segments
  | percent => exact @adds_lexeme _ _ _ .percent ⟨by simp, rfl⟩ .percent rfl frames empty
  | comma =>
      unfold commaToken
      rw [frames.topKind?_eq]
      split
      · next inCall =>
          have turns : Turns nesting (.separator ',' (.inl rfl)) nesting :=
            .separator _ fun _ => inCall
          exact @adds_lexeme _ _ _ (.separator ',' (.inl rfl)) ⟨by simp, rfl⟩ turns rfl frames empty
      · next noCall =>
          exact @adds_lexeme _ _ _ .union ⟨by simp, rfl⟩ (.union noCall) rfl frames empty
  | operator _ isOperator =>
      by_cases isSign : char = '+' ∨ char = '-'
      · refine ⟨rfl, frames, empty, ?_⟩
        intro later segments _
        exact .sign isSign segments
      · have noSign : (Lexeme.operator char isOperator).isSign = false := by
          simpa [Lexeme.isSign] using isSign
        exact @adds_lexeme _ _ _ (.operator char isOperator) ⟨by simp, noSign⟩
          (.operator isOperator) rfl frames empty

/-- An opening parenthesis adds a call or a parenthesis. -/
theorem adds_openParenthesis
    {state : Scan.State} {nesting : Nesting}
    (mode : state.mode = .normal)
    (frames : Frames state.nesting nesting)
    (collecting : Collecting state)
    (callable : ∀ name ∈ calledName? (openParenthesis state), IsCallable (unmarkedName name)) :
    ∃ made inner, Adds (openParenthesis state) nesting made inner := by
  have empty : Collecting (openParenthesis state).next := collecting_of_empty mode rfl
  cases buffer : state.buffer with
  | nil =>
      have opener : openParenthesis state =
          { next := (openParenthesis state).next, emitted := [some subexpressionStart] } := by
        simp [openParenthesis, buffer, subexpressionStart]
      have opened : (openParenthesis state).next.nesting = subexpressionStart :: state.nesting := by
        simp [openParenthesis, buffer, Nesting.push, subexpressionStart]
      refine ⟨_, _, @adds_lexeme _ _ _ .parenthesis ⟨by simp, rfl⟩ .parenthesis ?_ ?_ empty⟩
      · rw [opener]
        rfl
      · rw [opened]
        exact .parenthesis frames
  | cons first others =>
      have emitted : (openParenthesis state).emitted = [some (functionStart state.buffer)] := by
        simp [openParenthesis, buffer, functionStart]
      have opened : (openParenthesis state).next.nesting =
          functionStart state.buffer :: state.nesting := by
        simp [openParenthesis, buffer, Nesting.push, functionStart]
      have called : calledName? (openParenthesis state) = some state.buffer := by
        simp [calledName?, emitted, functionStart]
      rcases collecting.exists_slice mode with ⟨slice, collected⟩
      have isName := (callable _ called).isFunctionName collected collecting.isLine
      refine ⟨[functionStart state.buffer], functionStart (unmarkedName state.buffer) :: nesting,
        emitted, ?_, empty, ?_⟩
      · rw [opened]
        exact .call isName ((unmarkedName_cases _).imp_left Eq.symm) frames
      · intro later segments _
        rcases unmarkedName_cases state.buffer with same | marked
        · rw [same] at isName segments
          exact @Segments.lexeme _ _ (.call state.buffer isName) _ ⟨by simp, rfl⟩ (.call isName)
            segments
        · rw [marked]
          exact .marked isName segments

/-- Outside literals a move adds segments. -/
theorem adds_of_normal
    {state : Scan.State} {nesting : Nesting} {char : Char} {tail : List Char} {move : Move}
    (rule : Rule state char tail move)
    (mode : state.mode = .normal)
    (remains : move.departure = none)
    (frames : Frames state.nesting nesting)
    (collecting : Collecting state)
    (inLine : IsLine [char])
    (callable : ∀ name ∈ calledName? move, IsCallable (unmarkedName name)) :
    ∃ made inner, Adds move nesting made inner := by
  rcases collecting.operand mode with ⟨flushed, flushes, before⟩
  cases rule with
  | collect _ plain =>
      rcases collecting.exists_slice mode with ⟨slice, collected⟩
      refine ⟨_, _, adds_nothing frames rfl rfl (collecting.collect inLine rfl ?_)⟩
      simp only [Collects, State.collect_mode, mode]
      exact ⟨_, collected.character plain⟩
  | separate _ _ separates =>
      have adds := adds_separator mode frames separates
      refine ⟨_, _, adds.behind before ?_ rfl (by simp)⟩
      rw [← flushes]
      rfl
  | @openLiteral _ _ kept literal _ opens =>
      rcases flush_unknown state with ⟨unknown, leaves, prepends⟩
      refine ⟨unknown, nesting, leaves, frames, ?_, fun later segments _ => prepends _ _ segments⟩
      cases opens with
      | text => exact ⟨by simp [Scan.openLiteral, IsLine], trivial⟩
      | sheetPath => exact ⟨by simp [Scan.openLiteral, IsLine], [], rfl⟩
      | errorCode => exact ⟨by simp [Scan.openLiteral, IsLine], trivial⟩
  | openBracketRange =>
      rcases collecting.exists_slice mode with ⟨slice, collected⟩
      refine ⟨_, _, adds_nothing frames rfl rfl (collecting.collect inLine rfl ?_)⟩
      exact ⟨0, slice, state.buffer, [], collected, rfl, rfl, .nested .nil⟩
  | openArray =>
      rcases flush_unknown state with ⟨unknown, leaves, prepends⟩
      have adds := @adds_lexeme
        { next := (Scan.openArray state).next, emitted := [some arrayStart, some arrayRowStart] }
        nesting _ .brace ⟨by simp, rfl⟩ .brace rfl (.brace frames) (collecting_of_empty mode rfl)
      refine ⟨_, _, adds.behind prepends ?_ rfl (by simp [Lexeme.scanned, Lexeme.tokens])⟩
      rw [← leaves]
      rfl
  | openParenthesis => exact adds_openParenthesis mode frames collecting callable
  | @closeArray _ row outer _ groups isRow =>
      rw [groups] at frames
      rcases frames.closeBrace isRow with ⟨others, rest, rfl, rfl, rfl, framesOuter⟩
      have adds := @adds_lexeme
        { next := { state.cleared with nesting := others },
          emitted := [some arrayRowStop, some arrayStop] }
        _ rest .closeBrace ⟨by simp, rfl⟩ .closeBrace rfl framesOuter
        (collecting_of_empty mode rfl)
      refine ⟨_, _, adds.behind before ?_ rfl (by simp [Lexeme.scanned, Lexeme.tokens])⟩
      rw [← flushes]
      rfl
  | @closeParenthesis _ opener outer _ groups noRow =>
      rw [groups] at frames
      rcases frames.closeParenthesis noRow with ⟨lexeme, rest, settled, turns, left, framesOuter⟩
      have adds := @adds_lexeme
        { next := { state.cleared with nesting := outer },
          emitted := [some (Nesting.stopFor opener [])] }
        _ rest lexeme settled turns (by simp [left]) framesOuter (collecting_of_empty mode rfl)
      refine ⟨_, _, adds.behind before ?_ rfl (by simp [left])⟩
      rw [← flushes]
  | unbalancedArray => cases remains
  | unbalancedParenthesis => cases remains
  | _ => simp_all

/-- Inside literals a move adds segments. -/
theorem adds_of_literal
    {state : Scan.State} {nesting : Nesting} {char : Char} {tail : List Char} {move : Move}
    {literal : Literal}
    (rule : Rule state char tail move)
    (mode : state.mode = .inside literal)
    (frames : Frames state.nesting nesting)
    (collecting : Collecting state)
    (inLine : IsLine [char]) :
    ∃ made inner, Adds move nesting made inner := by
  have collects := collecting.collects
  cases rule with
  | escapedQuote isText =>
      refine ⟨_, _, adds_nothing frames rfl rfl (collecting.collect inLine rfl ?_)⟩
      simp [Collects, isText]
  | endText isText =>
      exact ⟨_, _, @adds_lexeme _ _ _ (.text state.buffer collecting.isLine) ⟨by simp, rfl⟩
        (.text _) rfl frames (collecting_of_empty rfl rfl)⟩
  | textCharacter isText =>
      refine ⟨_, _, adds_nothing frames rfl rfl (collecting.collect inLine rfl ?_)⟩
      simp [Collects, isText]
  | escapedApostrophe isPath =>
      simp only [Collects, isPath] at collects
      rcases collects with ⟨name, held⟩
      refine ⟨_, _, adds_nothing frames rfl rfl (collecting.collect inLine rfl ?_)⟩
      simp [Collects, isPath, held]
  | endSheetPath isPath =>
      simp only [Collects, isPath] at collects
      rcases collects with ⟨name, held⟩
      refine ⟨_, _, adds_nothing frames rfl rfl (collecting.collect inLine rfl ?_)⟩
      show ∃ slice, Collected slice (state.buffer ++ ['\''])
      rw [held]
      exact ⟨_, .quoted name⟩
  | sheetPathCharacter isPath =>
      simp only [Collects, isPath] at collects
      rcases collects with ⟨name, held⟩
      refine ⟨_, _, adds_nothing frames rfl rfl (collecting.collect inLine rfl ?_)⟩
      simp [Collects, isPath, held]
  | innerBracket isRange =>
      simp only [Collects, isRange] at collects
      rcases collects with ⟨depth, slice, first, inner, collected, counted, held, unclosed⟩
      refine ⟨_, _, adds_nothing frames rfl rfl (collecting.collect inLine rfl ?_)⟩
      simp only [Collects, State.collect_mode, isRange, State.collect_buffer]
      refine ⟨depth + 1, slice, first, inner ++ ['['], collected, by simp [counted], ?_,
        unclosed.opened .nil⟩
      simp [held]
  | endInnerBracket isRange deeper =>
      simp only [Collects, isRange] at collects
      rcases collects with ⟨depth, slice, first, inner, collected, counted, held, unclosed⟩
      refine ⟨_, _, adds_nothing frames rfl rfl (collecting.collect inLine rfl ?_)⟩
      simp only [Collects, State.collect_mode, isRange, State.collect_buffer]
      cases depth with
      | zero => omega
      | succ depth =>
          refine ⟨depth, slice, first, inner ++ [']'], collected, by simp [counted], ?_,
            unclosed.close⟩
          simp [held]
  | endBracketRange isRange outermost =>
      simp only [Collects, isRange] at collects
      rcases collects with ⟨depth, slice, first, inner, collected, counted, held, unclosed⟩
      refine ⟨_, _, adds_nothing frames rfl rfl (collecting.collect inLine rfl ?_)⟩
      show ∃ slice, Collected slice (state.buffer ++ [']'])
      cases unclosed with
      | nested nested =>
          have whole := collected.bracketed nested
          rw [held]
          exact ⟨_, by simpa using whole⟩
      | opened => omega
  | bracketCharacter isRange noOpener noCloser =>
      simp only [Collects, isRange] at collects
      rcases collects with ⟨depth, slice, first, inner, collected, counted, held, unclosed⟩
      refine ⟨_, _, adds_nothing frames rfl rfl (collecting.collect inLine rfl ?_)⟩
      simp only [Collects, State.collect_mode, isRange, State.collect_buffer]
      refine ⟨depth, slice, first, inner ++ [char], collected, counted, ?_,
        unclosed.append (.character noOpener noCloser .nil)⟩
      simp [held]
  | endErrorCode isCode complete =>
      exact ⟨_, _, @adds_lexeme _ _ _ (.error _ complete) ⟨by simp, rfl⟩ (.error complete) rfl
        frames (collecting_of_empty rfl rfl)⟩
  | errorCodeCharacter isCode =>
      refine ⟨_, _, adds_nothing frames rfl rfl (collecting.collect inLine rfl ?_)⟩
      simp [Collects, isCode]
  | _ => simp_all

/-- A step that departs nowhere adds segments. -/
theorem adds_step
    {state : Scan.State} {nesting : Nesting} {char : Char} {tail : List Char}
    (remains : (step state char tail).departure = none)
    (frames : Frames state.nesting nesting)
    (collecting : Collecting state)
    (inLine : IsLine [char])
    (callable : ∀ name ∈ calledName? (step state char tail), IsCallable (unmarkedName name)) :
    ∃ made inner, Adds (step state char tail) nesting made inner := by
  have rule := stepMode_rule state char tail
  have added : ∃ made inner, Adds (stepMode state char tail) nesting made inner := by
    cases mode : state.mode with
    | normal => exact adds_of_normal rule mode remains frames collecting inLine callable
    | inside literal => exact adds_of_literal rule mode frames collecting inLine
  -- the position plays no part in what is collected
  rcases added with ⟨made, inner, adds⟩
  exact ⟨made, inner, adds.emits, adds.frames,
    ⟨adds.collecting.isLine, adds.collecting.collects⟩, adds.prepends⟩

end SheetFormula.RoundTrip
