import SheetFormula.Layout
import SheetFormula.Proofs.RoundTrip.Lexemes

/-!
# How the layout writes lexemes

Without its line breaks, the text that the layout gives to a lexeme is its
spelling with a gap of spaces before it, whatever the state of the layout is
and whatever follows.  A gap can be empty, but not before an intersection and
not before an operator that takes a space.

So the layout of a list of items, on one line, is a list of placed items.
-/

namespace SheetFormula.RoundTrip

open Layout

/-! ## Texts on one line -/

/-- A text without its line breaks. -/
def unbroken (text : List Char) : List Char :=
  text.filter fun char => char ≠ '\r' ∧ char ≠ '\n'

@[simp]
theorem unbroken_append (first second : List Char) :
    unbroken (first ++ second) = unbroken first ++ unbroken second :=
  List.filter_append first second

@[simp]
theorem unbroken_nil : unbroken [] = [] := rfl

@[simp]
theorem unbroken_break : unbroken ['\n'] = [] := by
  simp [unbroken]

theorem IsLine.unbroken_eq
    {value : List Char} (isLine : IsLine value) : unbroken value = value := by
  refine List.filter_eq_self.mpr ?_
  intro char member
  simpa using isLine char member

theorem isLine_of_unbroken {value : List Char} (same : unbroken value = value) :
    IsLine value := by
  intro char member
  simpa using List.filter_eq_self.mp same char member

theorem isLine_gap (gap : Nat) : IsLine (List.replicate gap ' ') := by
  intro char member
  rw [List.eq_of_mem_replicate member]
  decide

theorem IsLine.append
    {first second : List Char} (isLine : IsLine first) (later : IsLine second) :
    IsLine (first ++ second) := by
  intro char member
  rcases List.mem_append.mp member with before | behind
  · exact isLine char before
  · exact later char behind

theorem IsLine.doubled
    {mark : Char} {value : List Char} (isLine : IsLine value) :
    IsLine (Text.doubled mark value) := by
  intro char member
  obtain ⟨original, inside, written⟩ := List.mem_flatMap.mp member
  have same : char = original := by
    split at written <;> simp_all
  rw [same]
  exact isLine original inside

theorem isLine_errorCode {code : List Char} (known : code ∈ errorCodes) : IsLine code := by
  have all : ∀ code ∈ errorCodes, unbroken code = code := by decide +kernel
  exact isLine_of_unbroken (all code known)

theorem isLine_mark {mark : Char} (isOperator : Scan.isInfixChar mark) : IsLine [mark] := by
  have same := Scan.check_infixChar (fun mark => unbroken [mark] = [mark]) (by decide) isOperator
  exact isLine_of_unbroken (of_decide_eq_true same)

/-- No lexeme is broken into lines. -/
theorem Lexeme.isLine_spelling (lexeme : Lexeme) : IsLine lexeme.spelling := by
  cases lexeme with
  | reference value isReference =>
      intro char member
      exact isReference.isLine char (isReference.collected.mem_of_mem member)
  | text value isLine =>
      have quote : IsLine ['"'] := by simp [IsLine]
      exact (quote.append isLine.doubled).append quote
  | error code known => exact isLine_errorCode known
  | operator mark isOperator => exact isLine_mark isOperator
  | comparison pair known =>
      have all : ∀ pair ∈ comparisons, unbroken pair = pair := by decide
      exact isLine_of_unbroken (all pair known)
  | separator mark isMark =>
      rcases isMark with rfl | rfl
      · simp [IsLine, spelling]
      · simp [IsLine, spelling]
  | call name isName =>
      have opener : IsLine ['('] := by simp [IsLine]
      exact isName.isLine.append opener
  | _ => simp [IsLine, spelling]

/-! ## What a step of the layout writes -/

/-- The text that a step writes for a token. -/
inductive StepText (unit : List Char) (state : State) (token : Token)
    (following : Option Token) : List Char → Prop where
  | opensEmpty (here : State)
      (empty : following.any fun next => next.closes token) :
      StepText unit state token following (emptyOpener unit here token)
  | closesEmpty
      (empty : state.last.any token.closes) :
      StepText unit state token following [closer token]
  | piece (here : State) (lineBreak : Bool) :
      StepText unit state token following (Layout.piece unit here token lineBreak)

theorem step_text
    (unit : List Char) (state : State) (token : Token) (following : Option Token) :
    StepText unit state token following (step unit state token following).1 := by
  simp only [step]
  split
  · next empty => exact .opensEmpty _ empty
  · split
    · next empty => exact .closesEmpty empty
    · exact .piece _ _

section Unmarked

variable {unit : List Char} {state : State} {token : Token} {following : Option Token}
  {text : List Char}

theorem StepText.of_noStart
    (written : StepText unit state token following text)
    (noStart : token.isStart = false) :
    (token.isStop ∧ text = [closer token]) ∨
      ∃ here lineBreak, text = Layout.piece unit here token lineBreak := by
  cases written with
  | opensEmpty here empty =>
      cases following <;> simp [Token.closes, noStart] at empty
  | closesEmpty empty =>
      have isStop : token.isStop := by
        cases last : state.last <;> simp_all [Token.closes]
      exact .inl ⟨isStop, rfl⟩
  | piece here lineBreak => exact .inr ⟨here, lineBreak, rfl⟩

theorem StepText.of_noStop
    (written : StepText unit state token following text)
    (noStop : token.isStop = false) :
    ∃ here, text = emptyOpener unit here token ∨
      ∃ lineBreak, text = Layout.piece unit here token lineBreak := by
  cases written with
  | opensEmpty here _ => exact ⟨here, .inl rfl⟩
  | closesEmpty empty =>
      cases last : state.last <;> simp [Token.closes, noStop, last] at empty
  | piece here lineBreak => exact ⟨here, .inr ⟨lineBreak, rfl⟩⟩

/-- A token that neither opens nor ends a group is written as a piece. -/
theorem StepText.eq_piece
    (written : StepText unit state token following text)
    (noStart : token.isStart = false)
    (noStop : token.isStop = false) :
    ∃ here lineBreak, text = Layout.piece unit here token lineBreak := by
  rcases written.of_noStart noStart with ⟨isStop, -⟩ | piece
  · simp [noStop] at isStop
  · exact piece

theorem StepText.eq_piece_of_subkind
    {kind : Kind} {value : List Char} {subkind : Subkind}
    (written : StepText unit state ⟨kind, value, some subkind⟩ following text)
    (noMark : subkind ≠ .start ∧ subkind ≠ .stop) :
    ∃ here lineBreak, text = Layout.piece unit here ⟨kind, value, some subkind⟩ lineBreak :=
  written.eq_piece (by simp [Token.isStart, noMark]) (by simp [Token.isStop, noMark])

end Unmarked

theorem flatten_run_cons
    (unit : List Char) (state : State) (token : Token) (rest : List Token) :
    (run unit state (token :: rest)).1.flatten =
      (step unit state token rest.head?).1 ++
        (run unit (step unit state token rest.head?).2 rest).1.flatten := by
  simp [run]

/-! ## What is written for a lexeme -/

/-- Whether an operator takes a space before it. -/
def Lexeme.spaced : Lexeme → Bool
  | .operator mark _ => mark != '&'
  | .comparison .. | .union => true
  | _ => false

/-- On one line, a text is a spelling behind a gap; `spaced` asks for a gap that is not empty. -/
def Writes (text spelling : List Char) (spaced : Bool) : Prop :=
  ∃ gap, (spaced → 0 < gap) ∧ unbroken text = List.replicate gap ' ' ++ spelling

theorem writes_bare {spelling : List Char} (isLine : IsLine spelling) :
    Writes spelling spelling false :=
  ⟨0, by simp, isLine.unbroken_eq⟩

theorem writes_spaced {spelling : List Char} (isLine : IsLine spelling) (spaced : Bool) :
    Writes (' ' :: spelling) spelling spaced :=
  ⟨1, by simp, ((isLine_gap 1).append isLine).unbroken_eq⟩

/-- Line breaks at the end make no difference. -/
theorem Writes.broken
    {text spelling ending : List Char} {spaced : Bool}
    (writes : Writes text spelling spaced)
    (ends : unbroken ending = []) :
    Writes (text ++ ending) spelling spaced := by
  obtain ⟨gap, enough, written⟩ := writes
  exact ⟨gap, enough, by rw [unbroken_append, ends, List.append_nil, written]⟩

section Spaces

variable (width : Nat)

theorem indentation_spaces (depth : Nat) :
    indentation (List.replicate width ' ') depth = List.replicate (depth * width) ' ' := by
  simp [indentation]

theorem lead_spaces (state : State) :
    ∃ gap, lead (List.replicate width ' ') state = List.replicate gap ' ' := by
  unfold lead
  split
  · exact ⟨0, rfl⟩
  · split
    · exact ⟨_, indentation_spaces width state.depth⟩
    · exact ⟨1, rfl⟩

theorem writes_lead
    (state : State) {spelling : List Char}
    (isLine : IsLine spelling) :
    Writes (lead (List.replicate width ' ') state ++ spelling) spelling false := by
  obtain ⟨gap, spaces⟩ := lead_spaces width state
  refine ⟨gap, by simp, ?_⟩
  rw [spaces]
  exact ((isLine_gap gap).append isLine).unbroken_eq

/-- A closer stands on a line of its own. -/
theorem writes_closer
    (state : State) {char : Char}
    (isLine : IsLine [char]) :
    Writes ('\n' :: indentation (List.replicate width ' ') state.depth ++ [char])
      [char] false := by
  refine ⟨state.depth * width, by simp, ?_⟩
  rw [indentation_spaces]
  have split : '\n' :: List.replicate (state.depth * width) ' ' ++ [char] =
      ['\n'] ++ (List.replicate (state.depth * width) ' ' ++ [char]) := rfl
  rw [split, unbroken_append, unbroken_break, List.nil_append]
  exact ((isLine_gap _).append isLine).unbroken_eq

end Spaces

theorem operandSubkind_cases (value : List Char) :
    Classification.operandSubkind value = .number ∨
      Classification.operandSubkind value = .logical ∨
      Classification.operandSubkind value = .range := by
  unfold Classification.operandSubkind
  split
  · exact .inl rfl
  · split
    · exact .inr (.inl rfl)
    · exact .inr (.inr rfl)

theorem infixSubkind_cases (value : List Char) :
    Classification.infixSubkind value = .logical ∨
      (Classification.infixSubkind value = .concatenate ∧ value = ['&']) ∨
      (Classification.infixSubkind value = .math ∧ value ≠ ['&']) := by
  unfold Classification.infixSubkind
  split
  · exact .inl rfl
  · split
    · next same => exact .inr (.inl ⟨rfl, same⟩)
    · next different => exact .inr (.inr ⟨rfl, different⟩)

theorem operandSubkind_noMark (value : List Char) :
    Classification.operandSubkind value ≠ .start ∧
      Classification.operandSubkind value ≠ .stop := by
  rcases operandSubkind_cases value with found | found | found <;> simp [found]

section Pieces

variable (unit : List Char) (state : State) (lineBreak : Bool)

theorem piece_reference (value : List Char) :
    piece unit state ⟨.operand, value, some (Classification.operandSubkind value)⟩ lineBreak =
      lead unit state ++ quoteSheetName value := by
  rcases operandSubkind_cases value with subkind | subkind | subkind <;>
    simp [piece, operandPiece, subkind]

theorem piece_text (value : List Char) :
    piece unit state ⟨.operand, value, some .text⟩ lineBreak =
      lead unit state ++ '"' :: Text.doubled '"' value ++ ['"'] := by
  simp [piece, operandPiece]

theorem piece_error (code : List Char) :
    piece unit state ⟨.operand, code, some .error⟩ lineBreak =
      (if state.last.any attaches then [] else [' ']) ++ code := by
  simp [piece, operandPiece]

theorem piece_minus :
    piece unit state minus lineBreak = lead unit state ++ ['-'] := by
  simp [piece, minus]

theorem piece_percent : piece unit state percent lineBreak = ['%'] := by
  simp [piece, percent]

/-- The operator that joins texts stands directly behind its left side. -/
theorem piece_concatenation :
    piece unit state ⟨.infixOp, ['&'], some (Classification.infixSubkind ['&'])⟩ lineBreak =
      ['&'] := by
  simp [piece, infixPiece, Classification.infixSubkind]

theorem piece_joining
    {value : List Char} {subkind : Subkind}
    (noSpace : ' ' ∉ value)
    (joins : subkind = .logical ∨ subkind = .math ∨ subkind = .union) :
    piece unit state ⟨.infixOp, value, some subkind⟩ lineBreak =
      ' ' :: value ++ (if lineBreak then ['\n'] else []) := by
  have name : Text.without ' ' value = value := Text.without_of_notMem noSpace
  rcases joins with rfl | rfl | rfl <;> simp [piece, infixPiece, nameOf, name]

theorem piece_intersection : piece unit state intersection lineBreak = [' '] := by
  simp [piece, infixPiece, intersection]

theorem piece_separator {mark : Char} (isMark : mark = ',' ∨ mark = ';') :
    ∃ ending, unbroken ending = [] ∧
      (piece unit state (separator mark) lineBreak = [mark] ++ ending ∨
        piece unit state (separator mark) lineBreak =
          lead unit state ++ [mark] ++ ending) := by
  by_cases inArray : state.inArray
  · rcases isMark with rfl | rfl
    · exact ⟨[], rfl, .inl (by simp [piece, separator, inArray])⟩
    · exact ⟨['\n'], unbroken_break, .inl (by simp [piece, separator, inArray])⟩
  · refine ⟨['\n'], unbroken_break, ?_⟩
    simp only [piece, separator, argumentPiece, inArray, Bool.false_and, Bool.false_eq_true,
      if_false]
    split
    · exact .inl rfl
    · exact .inr rfl

end Pieces

section Groups

variable {width : Nat} {state : State} {following : Option Token} {text : List Char}

/-- An operator that joins values is written behind a space, and maybe at the end of a line. -/
theorem StepText.writes_joining
    {unit value : List Char} {subkind : Subkind}
    (written : StepText unit state ⟨.infixOp, value, some subkind⟩ following text)
    (isLine : IsLine value)
    (noSpace : ' ' ∉ value)
    (joins : subkind = .logical ∨ subkind = .math ∨ subkind = .union)
    (spaced : Bool) :
    Writes text value spaced := by
  have noMark : subkind ≠ .start ∧ subkind ≠ .stop := by
    rcases joins with rfl | rfl | rfl <;> simp
  obtain ⟨here, lineBreak, rfl⟩ := written.eq_piece_of_subkind noMark
  rw [piece_joining _ _ _ noSpace joins]
  refine (writes_spaced isLine spaced).broken ?_
  split <;> simp

/-- A parenthesis is written behind the name of its call, if it has one. -/
theorem StepText.writes_opener
    {kind : Kind} {name : List Char}
    (written : StepText (List.replicate width ' ') state ⟨kind, name, some .start⟩ following text)
    (isGroup : kind = .function ∨ kind = .subexpression)
    (isLine : IsLine name)
    (noSpace : ' ' ∉ name)
    (unreserved : name ≠ arrayText ∧ name ≠ arrayRowText ∧ name ≠ arrayStopText) :
    Writes text (name ++ ['(']) false := by
  have opener : IsLine (name ++ ['(']) := isLine.append (by simp [IsLine])
  have written_name : Text.without ' ' name = name := Text.without_of_notMem noSpace
  obtain ⟨noWrapper, noRow, noStop⟩ := unreserved
  obtain ⟨here, rfl | ⟨lineBreak, rfl⟩⟩ := written.of_noStop rfl
  · simpa [emptyOpener, Token.isArrayRow, noRow, nameOf, written_name] using
      writes_lead width here opener
  · have piece_eq :
        Layout.piece (List.replicate width ' ') here ⟨kind, name, some .start⟩ lineBreak =
          lead (List.replicate width ' ') here ++ (name ++ ['(']) ++ ['\n'] := by
      rcases isGroup with rfl | rfl <;>
        simp [Layout.piece, groupPiece, Token.isArrayWrapper, Token.isStart,
          noWrapper, noRow, noStop, nameOf, written_name]
    rw [piece_eq]
    exact (writes_lead width here opener).broken unbroken_break

/-- A stop that is no part of the wrapper of an array is written as its closer. -/
theorem StepText.writes_stop
    {kind : Kind} {value : List Char}
    (written : StepText (List.replicate width ' ') state ⟨kind, value, some .stop⟩ following text)
    (isGroup : kind = .function ∨ kind = .subexpression)
    (noWrapper : value ≠ arrayText ∧ value ≠ arrayStopText) :
    Writes text [closer ⟨kind, value, some .stop⟩] false := by
  have isLine : IsLine [closer ⟨kind, value, some .stop⟩] := by
    unfold closer
    split <;> simp [IsLine]
  rcases written.of_noStart rfl with ⟨-, rfl⟩ | ⟨here, lineBreak, rfl⟩
  · exact writes_bare isLine
  · have piece_eq :
        Layout.piece (List.replicate width ' ') here ⟨kind, value, some .stop⟩ lineBreak =
          '\n' :: indentation (List.replicate width ' ') here.depth ++
            [closer ⟨kind, value, some .stop⟩] := by
      rcases isGroup with rfl | rfl <;>
        simp [Layout.piece, groupPiece, Token.isArrayWrapper, Token.isStart,
          Token.isStop, noWrapper]
    rw [piece_eq]
    exact writes_closer width here isLine

/-- The row of an array literal is written as a brace. -/
theorem StepText.writes_arrayRow
    (written : StepText (List.replicate width ' ') state arrayRowStart following text) :
    Writes text ['{'] false := by
  have isLine : IsLine ['{'] := by simp [IsLine]
  obtain ⟨here, rfl | ⟨lineBreak, rfl⟩⟩ := written.of_noStop rfl
  · have opener_eq : emptyOpener (List.replicate width ' ') here arrayRowStart =
        lead (List.replicate width ' ') here ++ ['{'] := by
      rw [emptyOpener, if_pos (by decide)]
    rw [opener_eq]
    exact writes_lead width here isLine
  · have piece_eq : Layout.piece (List.replicate width ' ') here arrayRowStart lineBreak =
        lead (List.replicate width ' ') here ++ ['{'] ++ ['\n'] := by
      have noArgument : (here.inArray && arrayRowStart.kind == .argument) = false := by
        simp [arrayRowStart]
      rw [Layout.piece, noArgument, if_neg (by simp)]
      show groupPiece (List.replicate width ' ') here arrayRowStart = _
      have isRow : arrayRowStart.value = arrayRowText := rfl
      rw [groupPiece, if_neg (by decide), if_pos (by decide), if_pos isRow, List.append_assoc]
      rfl
    rw [piece_eq]
    exact (writes_lead width here isLine).broken unbroken_break

/-- A part of the wrapper of an array literal that is no empty group is not written. -/
theorem StepText.wrapper_eq_nil
    {unit : List Char} {token : Token}
    (written : StepText unit state token following text)
    (isWrapper : token.isArrayWrapper)
    (opensNone : (following.any fun next => next.closes token) = false)
    (closesNone : state.last.any token.closes = false) :
    text = [] := by
  cases written with
  | opensEmpty here empty => simp [opensNone] at empty
  | closesEmpty empty => simp [closesNone] at empty
  | piece here lineBreak =>
      have kind : token.kind = .function := by
        simp only [Token.isArrayWrapper, Bool.and_eq_true, beq_iff_eq] at isWrapper
        exact isWrapper.1
      simp [Layout.piece, kind, groupPiece, isWrapper]

end Groups

/-! ## Runs of the layout -/

/-- A lexeme of one token is written as its spelling. -/
theorem Lexeme.writes_step
    {lexeme : Lexeme} {token : Token}
    (single : lexeme.tokens = [token])
    (width : Nat) (state : State) (following : Option Token) :
    Writes (step (List.replicate width ' ') state token following).1
      lexeme.spelling lexeme.spaced := by
  have written := step_text (List.replicate width ' ') state token following
  have isLine := lexeme.isLine_spelling
  generalize (step (List.replicate width ' ') state token following).1 = text at written
  cases lexeme with
  | reference value _ =>
      cases single
      obtain ⟨here, lineBreak, rfl⟩ := written.eq_piece_of_subkind (operandSubkind_noMark value)
      rw [piece_reference]
      exact writes_lead width here isLine
  | text value _ =>
      cases single
      obtain ⟨here, lineBreak, rfl⟩ := written.eq_piece rfl rfl
      rw [piece_text, List.append_assoc]
      exact writes_lead width here isLine
  | error code _ =>
      cases single
      obtain ⟨here, lineBreak, rfl⟩ := written.eq_piece rfl rfl
      rw [piece_error]
      split
      · exact writes_bare isLine
      · exact writes_spaced isLine false
  | minus =>
      cases single
      obtain ⟨here, lineBreak, rfl⟩ := written.eq_piece rfl rfl
      rw [piece_minus]
      exact writes_lead width here isLine
  | percent =>
      cases single
      obtain ⟨here, lineBreak, rfl⟩ := written.eq_piece rfl rfl
      rw [piece_percent]
      exact writes_bare isLine
  | operator mark isOperator =>
      cases single
      by_cases concatenates : mark = '&'
      · subst concatenates
        obtain ⟨here, lineBreak, rfl⟩ := written.eq_piece rfl rfl
        rw [piece_concatenation]
        exact writes_bare isLine
      · have noSpace : ' ' ∉ [mark] := by
          intro member
          obtain rfl := List.mem_singleton.mp member
          simp [Scan.isInfixChar] at isOperator
        have joins : Classification.infixSubkind [mark] = .logical ∨
            Classification.infixSubkind [mark] = .math ∨
            Classification.infixSubkind [mark] = .union := by
          rcases infixSubkind_cases [mark] with found | ⟨-, same⟩ | ⟨found, -⟩
          · exact .inl found
          · simp [concatenates] at same
          · exact .inr (.inl found)
        exact written.writes_joining isLine noSpace joins _
  | comparison pair known =>
      cases single
      have compares : ' ' ∉ pair ∧ Classification.infixSubkind pair = .logical := by
        have all : ∀ pair ∈ comparisons,
            ' ' ∉ pair ∧ Classification.infixSubkind pair = .logical := by decide
        exact all pair known
      exact written.writes_joining isLine compares.1 (.inl compares.2) _
  | union =>
      cases single
      exact written.writes_joining isLine (by simp) (.inr (.inr rfl)) _
  | separator mark isMark =>
      cases single
      obtain ⟨here, lineBreak, rfl⟩ := written.eq_piece rfl rfl
      obtain ⟨ending, ends, piece_eq | piece_eq⟩ :=
        piece_separator (List.replicate width ' ') here lineBreak isMark
      · rw [piece_eq]
        exact (writes_bare isLine).broken ends
      · rw [piece_eq]
        exact (writes_lead width here isLine).broken ends
  | parenthesis =>
      cases single
      exact written.writes_opener (.inr rfl) (by simp [IsLine]) (by simp) (by decide)
  | call name isName =>
      cases single
      exact written.writes_opener (.inl rfl) isName.isLine isName.noSpace isName.unreserved
  | brace => cases single
  | closeParenthesis =>
      cases single
      exact written.writes_stop (.inr rfl) (by decide)
  | closeCall =>
      cases single
      exact written.writes_stop (.inl rfl) (by decide)
  | closeBrace => cases single

section Runs

variable (width : Nat) (state : State) (rest : List Token)

theorem Lexeme.exists_run_of_single
    {lexeme : Lexeme} {token : Token}
    (single : lexeme.tokens = [token]) :
    ∃ gap next,
      (lexeme.spaced → 0 < gap) ∧
        unbroken (run (List.replicate width ' ') state (lexeme.tokens ++ rest)).1.flatten =
          List.replicate gap ' ' ++ lexeme.spelling ++
            unbroken (run (List.replicate width ' ') next rest).1.flatten := by
  obtain ⟨gap, enough, written⟩ := lexeme.writes_step single width state rest.head?
  refine ⟨gap, (step (List.replicate width ' ') state token rest.head?).2, enough, ?_⟩
  rw [single, List.singleton_append, flatten_run_cons, unbroken_append, written]

theorem exists_run_brace :
    ∃ gap next,
      unbroken (run (List.replicate width ' ') state
          (arrayStart :: arrayRowStart :: rest)).1.flatten =
        List.replicate gap ' ' ++ ['{'] ++
          unbroken (run (List.replicate width ' ') next rest).1.flatten := by
  have closesNone : state.last.any arrayStart.closes = false := by
    cases state.last <;> rfl
  have wrapper := (step_text (List.replicate width ' ') state arrayStart
    (some arrayRowStart)).wrapper_eq_nil (by decide) (by decide) closesNone
  generalize inside : (step (List.replicate width ' ') state arrayStart
    (some arrayRowStart)).2 = middle
  obtain ⟨gap, -, written⟩ :=
    (step_text (List.replicate width ' ') middle arrayRowStart rest.head?).writes_arrayRow
  refine ⟨gap, (step (List.replicate width ' ') middle arrayRowStart rest.head?).2, ?_⟩
  rw [flatten_run_cons, List.head?_cons, wrapper, inside, List.nil_append, flatten_run_cons,
    unbroken_append, written]

theorem exists_run_closeBrace :
    ∃ gap next,
      unbroken (run (List.replicate width ' ') state
          (arrayRowStop :: arrayStop :: rest)).1.flatten =
        List.replicate gap ' ' ++ ['}'] ++
          unbroken (run (List.replicate width ' ') next rest).1.flatten := by
  have row : Writes (step (List.replicate width ' ') state arrayRowStop (some arrayStop)).1
      ['}'] false :=
    (step_text (List.replicate width ' ') state arrayRowStop
      (some arrayStop)).writes_stop (.inl rfl) (by decide)
  have opensNone : (rest.head?.any fun next => next.closes arrayStop) = false := by
    cases rest with
    | nil => rfl
    | cons next others => simp [Token.closes, Token.isStart, arrayStop]
  have closesNone : (step (List.replicate width ' ') state arrayRowStop
      (some arrayStop)).2.last.any arrayStop.closes = false := rfl
  generalize outside : (step (List.replicate width ' ') state arrayRowStop
    (some arrayStop)).2 = middle at closesNone
  have wrapper := (step_text (List.replicate width ' ') middle arrayStop
    rest.head?).wrapper_eq_nil (by decide) opensNone closesNone
  obtain ⟨gap, -, written⟩ := row
  refine ⟨gap, (step (List.replicate width ' ') middle arrayStop rest.head?).2, ?_⟩
  rw [flatten_run_cons, List.head?_cons, unbroken_append, written, outside, flatten_run_cons,
    wrapper, List.nil_append]

/--
The layout of a lexeme before other tokens: a gap, its spelling and the layout
of the others from a state of their own.
-/
theorem Lexeme.exists_run (lexeme : Lexeme) :
    ∃ gap next,
      (lexeme.spaced → 0 < gap) ∧
        unbroken (run (List.replicate width ' ') state (lexeme.tokens ++ rest)).1.flatten =
          List.replicate gap ' ' ++ lexeme.spelling ++
            unbroken (run (List.replicate width ' ') next rest).1.flatten := by
  cases lexeme with
  | brace =>
      obtain ⟨gap, next, written⟩ := exists_run_brace width state rest
      exact ⟨gap, next, by simp [spaced], written⟩
  | closeBrace =>
      obtain ⟨gap, next, written⟩ := exists_run_closeBrace width state rest
      exact ⟨gap, next, by simp [spaced], written⟩
  | _ => exact exists_run_of_single width state rest rfl

theorem exists_run_intersection :
    ∃ next,
      unbroken (run (List.replicate width ' ') state (intersection :: rest)).1.flatten =
        ' ' :: unbroken (run (List.replicate width ' ') next rest).1.flatten := by
  obtain ⟨here, lineBreak, text⟩ :=
    (step_text (List.replicate width ' ') state intersection rest.head?).eq_piece rfl rfl
  refine ⟨(step (List.replicate width ' ') state intersection rest.head?).2, ?_⟩
  rw [flatten_run_cons, text, piece_intersection, unbroken_append]
  rfl

end Runs

/-! ## Placed items -/

/-- Whether there has to be a gap before an item. -/
def Item.spaced (item : Item) : Bool :=
  item.crosses || item.lexeme.spaced

/-- An item with the number of spaces before it. -/
structure Placed where
  item : Item
  gap : Nat
  enough : item.spaced → 0 < gap

/-- The text of a placed item. -/
def Placed.text (placed : Placed) : List Char :=
  List.replicate placed.gap ' ' ++ placed.item.lexeme.spelling

/-- On one line, the layout of items is the text of placed items. -/
theorem exists_placed (width : Nat) (state : State) (items : List Item) :
    ∃ places : List Placed,
      places.map Placed.item = items ∧
        unbroken (run (List.replicate width ' ') state
          (items.flatMap Item.tokens)).1.flatten = places.flatMap Placed.text := by
  induction items generalizing state with
  | nil => exact ⟨[], rfl, rfl⟩
  | cons item items ih =>
      obtain ⟨crosses, lexeme⟩ := item
      cases crosses with
      | false =>
          obtain ⟨gap, next, enough, written⟩ :=
            lexeme.exists_run width state (items.flatMap Item.tokens)
          obtain ⟨places, rfl, later⟩ := ih next
          refine ⟨⟨⟨false, lexeme⟩, gap, by simpa [Item.spaced] using enough⟩ :: places, rfl, ?_⟩
          simpa [Item.tokens, Placed.text, later] using written
      | true =>
          -- the space of the intersection is a part of the gap
          obtain ⟨between, space⟩ := exists_run_intersection width state
            (lexeme.tokens ++ items.flatMap Item.tokens)
          obtain ⟨gap, next, -, written⟩ :=
            lexeme.exists_run width between (items.flatMap Item.tokens)
          obtain ⟨places, rfl, later⟩ := ih next
          refine ⟨⟨⟨true, lexeme⟩, gap + 1, by simp⟩ :: places, rfl, ?_⟩
          rw [written, later] at space
          simpa [Item.tokens, Placed.text, List.replicate_succ] using space

end SheetFormula.RoundTrip
