import SheetFormula.Proofs.Nesting.Passes
import SheetFormula.Proofs.RoundTrip.Segments

/-!
# The groups of classified tokens

A parenthesis opens a call or a subexpression and leaves one opener; a brace
opens an array literal and leaves two, a wrapper and its row.  As long as no
call has a name that array literals use, the two can be told apart in the list
of tokens, in formulas that are well formed and in all others.

`Grouped` is the path of the open groups along a list of tokens.  Every step of
a scan continues such a path, and the passes behind the scan keep it.

Main statement: the classified tokens of a formula are a path of groups that
begins outside of all groups, and it ends there when the formula is well formed.
-/

namespace SheetFormula.Layout

open Scan RoundTrip

/-! ## Names of array literals -/

/-- The names that the openers and stops of array literals are told by. -/
def arrayNames : List (List Char) :=
  [arrayText, arrayRowText, arrayStopText]

/-- No call in a text has one of some names, a mark of implicit intersection apart. -/
def Avoids (names : List (List Char)) (text : List Char) : Prop :=
  ∀ name ∈ calledNames text, unmarkedName name ∉ names

instance (names : List (List Char)) (text : List Char) : Decidable (Avoids names text) :=
  inferInstanceAs (Decidable (∀ name ∈ calledNames text, unmarkedName name ∉ names))

theorem Avoids.mono
    {names fewer : List (List Char)} {text : List Char}
    (avoids : Avoids names text) (subset : fewer ⊆ names) :
    Avoids fewer text := by
  intro name called member
  exact avoids name called (subset member)

/-! ## A formula with groups of all sorts -/

/-- A call with a subexpression, an array literal that holds a call, and an empty one. -/
def sampleFormula : List Char :=
  "=SUM(-A1:B2 (C3)&\x7b1,F()\x7d,\x7b\x7d)".toList

/-- Its tokens up to the separator in the array literal. -/
def sampleBefore : List Token :=
  [functionStart ['S', 'U', 'M'], minus, ⟨.operand, ['A', '1', ':', 'B', '2'], some .range⟩,
    intersection, subexpressionStart, ⟨.operand, ['C', '3'], some .range⟩, subexpressionStop,
    ⟨.infixOp, ['&'], some .concatenate⟩, arrayStart, arrayRowStart,
    ⟨.operand, ['1'], some .number⟩]

/-- Its tokens behind that separator. -/
def sampleBehind : List Token :=
  [functionStart ['F'], functionStop, arrayRowStop, arrayStop, separator ',', arrayStart,
    arrayRowStart, arrayRowStop, arrayStop, functionStop]

theorem sampleFormula_checked :
    (Formula.tokens true sampleFormula).toOption =
        some (sampleBefore ++ separator ',' :: sampleBehind) ∧
      Avoids (arrayRowStopText :: arrayNames) (Formula.normalize sampleFormula) := by
  decide +kernel

theorem tokens_sampleFormula :
    Formula.tokens true sampleFormula = .ok (sampleBefore ++ separator ',' :: sampleBehind) :=
  eq_ok_of_toOption sampleFormula_checked.1

theorem avoids_sampleFormula : Avoids arrayNames (Formula.normalize sampleFormula) :=
  sampleFormula_checked.2.mono (List.subset_cons_self _ _)

/-! ## Tokens by themselves -/

/-- Whether a token is an operator or a separator that is written as its text. -/
def isSymbol (token : Token) : Bool :=
  (token.kind == .infixOp && token.subkind != some .intersect) || token.kind == .prefixOp ||
    token.kind == .postfixOp || token.kind == .argument

/-- Whether a token is the intersection operator. -/
def isIntersection (token : Token) : Bool :=
  token.kind == .infixOp && token.subkind == some .intersect

/--
Tokens that neither open nor end a group, with what is known of their texts.
Blanks and signs without a meaning are not among them.
-/
structure IsPlain (token : Token) : Prop where
  noMark : token.isMark = false
  noGroup : token.isGroup = false
  symbol : isSymbol token → token.value.any Text.isBlank = false
  separator : token.kind = .argument → token.value = [','] ∨ token.value = [';']
  operand : token.kind = .operand → token.subkind = some .text ∨ token.value ≠ []
  crossing : isIntersection token → token = intersection
  written : token.kind ≠ .blank ∧ token.kind ≠ .noOp ∧ token.kind ≠ .unionOp

theorem IsPlain.noStart {token : Token} (isPlain : IsPlain token) : token.isStart = false := by
  have noMark := isPlain.noMark
  rw [Token.isMark, Bool.or_eq_false_iff] at noMark
  exact noMark.1

theorem IsPlain.noStop {token : Token} (isPlain : IsPlain token) : token.isStop = false := by
  have noMark := isPlain.noMark
  rw [Token.isMark, Bool.or_eq_false_iff] at noMark
  exact noMark.2

theorem IsPlain.noBlank {token : Token} (isPlain : IsPlain token) : token.isBlank = false := by
  simpa [Token.isBlank] using isPlain.written.1

section Plain

variable {value : List Char} {subkind : Option Subkind}

theorem isPlain_operand
    (unmarked : subkind ≠ some .start ∧ subkind ≠ some .stop)
    (written : subkind = some .text ∨ value ≠ []) :
    IsPlain ⟨.operand, value, subkind⟩ where
  noMark := by simp [Token.isMark, Token.isStart, Token.isStop, unmarked]
  noGroup := rfl
  symbol := by simp [isSymbol]
  separator := by simp
  operand := fun _ => written
  crossing := by simp [isIntersection]
  written := by simp

theorem isPlain_unknown : IsPlain ⟨.unknown, value, none⟩ where
  noMark := rfl
  noGroup := rfl
  symbol := by simp [isSymbol]
  separator := by simp
  operand := by simp
  crossing := by simp [isIntersection]
  written := by simp

/-- Signs other than intersections are plain if they hold no blank. -/
theorem isPlain_sign
    {kind : Kind}
    (unmarked : subkind ≠ some .start ∧ subkind ≠ some .stop ∧ subkind ≠ some .intersect)
    (isSign : kind = .infixOp ∨ kind = .prefixOp ∨ kind = .postfixOp)
    (visible : value.any Text.isBlank = false) :
    IsPlain ⟨kind, value, subkind⟩ := by
  have noMark : Token.isMark ⟨kind, value, subkind⟩ = false := by
    simp [Token.isMark, Token.isStart, Token.isStop, unmarked]
  have uncrossed : isIntersection ⟨kind, value, subkind⟩ = false := by
    simp [isIntersection, unmarked]
  rcases isSign with rfl | rfl | rfl
  all_goals
    refine ⟨noMark, rfl, fun _ => visible, by simp, by simp, ?_, by simp⟩
    rw [uncrossed]
    intro absurd
    cases absurd

theorem isPlain_separator
    {char : Char}
    (separates : char = ',' ∨ char = ';') :
    IsPlain ⟨.argument, [char], none⟩ where
  noMark := rfl
  noGroup := rfl
  symbol := by
    intro _
    rcases separates with rfl | rfl <;> decide
  separator := by
    intro _
    rcases separates with rfl | rfl
    · exact .inl rfl
    · exact .inr rfl
  operand := by simp
  crossing := by simp [isIntersection]
  written := by simp

theorem isPlain_intersection : IsPlain intersection where
  noMark := rfl
  noGroup := rfl
  symbol := by simp [isSymbol, intersection]
  separator := by simp [intersection]
  operand := by simp [intersection]
  crossing := fun _ => rfl
  written := by simp [intersection]

end Plain

/-- Such tokens as a scan leaves them: there are blanks, and none is an intersection yet. -/
inductive IsRaw : Token → Prop where
  | blank : IsRaw ⟨.blank, [' '], none⟩
  | plain {token : Token}
      (isPlain : IsPlain token)
      (uncrossed : isIntersection token = false) :
      IsRaw token

/-- Openers of parentheses: of a subexpression, or of a call by a name of some class. -/
inductive IsParenthesis (called : List Char → Prop) : Token → Prop where
  | subexpression : IsParenthesis called subexpressionStart
  | call {name : List Char}
      (isCalled : called name) :
      IsParenthesis called (functionStart name)

section Openers

variable {called : List Char → Prop} {opener : Token}

theorem IsParenthesis.isStart (isParenthesis : IsParenthesis called opener) :
    opener.isStart := by
  cases isParenthesis with
  | subexpression => rfl
  | call => rfl

theorem IsParenthesis.isArrayRow_eq
    (isParenthesis : IsParenthesis called opener) (noRow : ¬ called arrayRowText) :
    opener.isArrayRow = false := by
  cases isParenthesis with
  | subexpression => rfl
  | @call name isCalled =>
      have different : name ≠ arrayRowText := by
        rintro rfl
        exact noRow isCalled
      simp [functionStart, Token.isArrayRow, different]

theorem IsParenthesis.noWrapper
    (isParenthesis : IsParenthesis called opener)
    (unreserved : ∀ name, called name → name ∉ arrayNames) :
    opener.isArrayWrapper = false := by
  cases isParenthesis with
  | subexpression => rfl
  | @call name isCalled =>
      have different := unreserved name isCalled
      simp only [arrayNames, List.mem_cons, not_or] at different
      simp [functionStart, Token.isArrayWrapper, different]

theorem IsParenthesis.isOpener (isParenthesis : IsParenthesis called opener) :
    opener.isOpener := by
  cases isParenthesis with
  | subexpression => rfl
  | call => rfl

theorem IsParenthesis.isGroup (isParenthesis : IsParenthesis called opener) :
    opener.isGroup := by
  cases isParenthesis with
  | subexpression => rfl
  | call => rfl

theorem IsParenthesis.row_isFunction (isParenthesis : IsParenthesis called opener) :
    opener.value = arrayRowText → opener.kind = .function := by
  cases isParenthesis with
  | subexpression =>
      intro same
      cases same
  | call => exact fun _ => rfl

theorem IsParenthesis.stop_isGroup (isParenthesis : IsParenthesis called opener) :
    (Nesting.stopFor opener []).isGroup := by
  cases isParenthesis with
  | subexpression => rfl
  | call => rfl

theorem stopFor_noWrapper (opener : Token) :
    (Nesting.stopFor opener []).isArrayWrapper = false :=
  Bool.and_false _

end Openers

/-! ## Paths of groups -/

/--
Tokens that lead from some open groups to others.  Tokens by themselves and the
names of calls are of some classes; the openers and the stops of an array
literal stand together.
-/
inductive Grouped (plain : Token → Prop) (called : List Char → Prop) :
    Nesting → List Token → Nesting → Prop where
  | nil {nesting : Nesting} :
      Grouped plain called nesting [] nesting
  | plain {nesting final : Nesting} {token : Token} {rest : List Token}
      (isPlain : plain token)
      (later : Grouped plain called nesting rest final) :
      Grouped plain called nesting (token :: rest) final
  | opens {nesting final : Nesting} {opener : Token} {rest : List Token}
      (isParenthesis : IsParenthesis called opener)
      (later : Grouped plain called (opener :: nesting) rest final) :
      Grouped plain called nesting (opener :: rest) final
  | closes {nesting final : Nesting} {opener : Token} {rest : List Token}
      (isParenthesis : IsParenthesis called opener)
      (later : Grouped plain called nesting rest final) :
      Grouped plain called (opener :: nesting) (Nesting.stopFor opener [] :: rest) final
  | brace {nesting final : Nesting} {rest : List Token}
      (later : Grouped plain called (arrayRowStart :: arrayStart :: nesting) rest final) :
      Grouped plain called nesting (arrayStart :: arrayRowStart :: rest) final
  | closeBrace {nesting final : Nesting} {rest : List Token}
      (later : Grouped plain called nesting rest final) :
      Grouped plain called (arrayRowStart :: arrayStart :: nesting)
        (arrayRowStop :: arrayStop :: rest) final

/-- Open groups: parentheses by themselves, and the rows of array literals in their wrappers. -/
inductive Framed (called : List Char → Prop) : Nesting → Prop where
  | nil : Framed called []
  | parenthesis {nesting : Nesting} {opener : Token}
      (isParenthesis : IsParenthesis called opener)
      (outer : Framed called nesting) :
      Framed called (opener :: nesting)
  | brace {nesting : Nesting}
      (outer : Framed called nesting) :
      Framed called (arrayRowStart :: arrayStart :: nesting)

section Paths

variable {plain : Token → Prop} {called : List Char → Prop} {nesting middle final : Nesting}
  {tokens others : List Token}

theorem Grouped.append
    (first : Grouped plain called nesting tokens middle)
    (second : Grouped plain called middle others final) :
    Grouped plain called nesting (tokens ++ others) final := by
  induction first with
  | nil => exact second
  | plain isPlain _ ih => exact .plain isPlain (ih second)
  | opens isParenthesis _ ih => exact .opens isParenthesis (ih second)
  | closes isParenthesis _ ih => exact .closes isParenthesis (ih second)
  | brace _ ih => exact .brace (ih second)
  | closeBrace _ ih => exact .closeBrace (ih second)

theorem isParenthesis_of_framed
    {opener : Token}
    (framed : Framed called (opener :: nesting))
    (noRow : opener.isArrayRow = false) :
    IsParenthesis called opener ∧ Framed called nesting := by
  cases framed with
  | parenthesis isParenthesis outer => exact ⟨isParenthesis, outer⟩
  | brace => cases noRow

theorem brace_of_framed
    {row : Token}
    (framed : Framed called (row :: nesting))
    (unnamed : ¬ called arrayRowText)
    (isRow : row.isArrayRow) :
    ∃ outer, row = arrayRowStart ∧ nesting = arrayStart :: outer ∧ Framed called outer := by
  cases framed with
  | parenthesis isParenthesis =>
      rw [isParenthesis.isArrayRow_eq unnamed] at isRow
      cases isRow
  | @brace outer framedOuter => exact ⟨outer, rfl, rfl, framedOuter⟩

/-- A path from groups in their frames leads to groups in their frames. -/
theorem Grouped.framed
    (grouped : Grouped plain called nesting tokens final)
    (unnamed : ¬ called arrayRowText)
    (framed : Framed called nesting) :
    Framed called final := by
  induction grouped with
  | nil => exact framed
  | plain _ _ ih => exact ih framed
  | opens isParenthesis _ ih => exact ih (.parenthesis isParenthesis framed)
  | closes isParenthesis _ ih =>
      apply ih
      exact (isParenthesis_of_framed framed (isParenthesis.isArrayRow_eq unnamed)).2
  | brace _ ih => exact ih (.brace framed)
  | closeBrace _ ih =>
      rcases brace_of_framed framed unnamed rfl with ⟨outer, -, same, framedOuter⟩
      cases same
      exact ih framedOuter

end Paths

/-! ## Steps of the scanner -/

theorem isRaw_operand
    {value : List Char} (nonempty : value ≠ []) :
    IsRaw ⟨.operand, value, none⟩ :=
  .plain (isPlain_operand (by simp) (.inr nonempty)) rfl

theorem isRaw_unknown (value : List Char) : IsRaw ⟨.unknown, value, none⟩ :=
  .plain isPlain_unknown rfl

theorem isRaw_separates
    {nesting : Nesting} {char : Char} {tail : List Char} {token : Token} {extra : Nat}
    (separates : Separates nesting char tail token extra) :
    IsRaw token := by
  cases separates with
  | pair found =>
      have visible : ∀ pair ∈ comparisons, pair.any Text.isBlank = false := by decide
      exact .plain (isPlain_sign (by simp) (.inl rfl) (visible _ (mem_comparisons found))) rfl
  | rowSeparator => exact .plain (isPlain_separator (.inr rfl)) rfl
  | blank => exact .blank
  | percent => exact .plain (isPlain_sign (by simp) (.inr (.inr rfl)) (by decide)) rfl
  | comma =>
      rw [commaToken]
      split
      · exact .plain (isPlain_separator (.inl rfl)) rfl
      · exact .plain (isPlain_sign (by simp) (.inl rfl) (by decide)) rfl
  | operator _ isOperator =>
      have visible := check_infixChar (fun char => !Text.isBlank char) (by decide) isOperator
      exact .plain (isPlain_sign (by simp) (.inl rfl) (by simpa using visible)) rfl

theorem isRaw_text (value : List Char) : IsRaw ⟨.operand, value, some .text⟩ :=
  .plain (isPlain_operand (by simp) (.inl rfl)) rfl

theorem isRaw_error
    {code : List Char} (known : code ∈ errorCodes) :
    IsRaw ⟨.operand, code, some .error⟩ := by
  have nonempty : ∀ code ∈ errorCodes, code ≠ [] := by decide
  exact .plain (isPlain_operand (by simp) (.inr (nonempty code known))) rfl

section Steps

variable {called : List Char → Prop}

/-- A token by itself leaves the open groups as they are. -/
theorem grouped_plain
    {token : Token} (isRaw : IsRaw token) (nesting : Nesting) :
    Grouped IsRaw called nesting [token] nesting :=
  .plain isRaw .nil

/-- What is flushed is a token by itself, or nothing. -/
theorem exists_flush
    (state : Scan.State) {kind : Kind}
    (isWord : kind = .operand ∨ kind = .unknown) :
    ∃ made : List Token,
      state.flush kind = made.map some ∧ ∀ nesting, Grouped IsRaw called nesting made nesting := by
  rw [State.flush]
  split
  · exact ⟨[], rfl, fun _ => .nil⟩
  · next nonempty =>
      have isRaw : IsRaw ⟨kind, state.buffer, none⟩ := by
        rcases isWord with rfl | rfl
        · exact isRaw_operand (by simpa using nonempty)
        · exact isRaw_unknown state.buffer
      exact ⟨[_], rfl, grouped_plain isRaw⟩

/-- What is flushed stands before the other tokens of a move. -/
theorem exists_behind_flush
    (state : Scan.State) {kind : Kind} {nesting final : Nesting} {tokens : List Token}
    (isWord : kind = .operand ∨ kind = .unknown)
    (grouped : Grouped IsRaw called nesting tokens final) :
    ∃ made : List Token,
      state.flush kind ++ tokens.map some = made.map some ∧
        Grouped IsRaw called nesting made final := by
  rcases exists_flush state isWord with ⟨flushed, flushes, before⟩
  refine ⟨flushed ++ tokens, ?_, (before nesting).append grouped⟩
  rw [flushes, List.map_append]

theorem exists_unbalanced (state : Scan.State) (closer : Char) :
    ∃ made : List Token,
      (unbalanced state closer).entries false = made.map some ∧
        Grouped IsRaw called state.nesting made state.nesting :=
  exists_behind_flush state (.inl rfl) (grouped_plain (isRaw_unknown [closer]) state.nesting)

/-- A parenthesis opens a call by a name of the class, or a subexpression. -/
theorem exists_openParenthesis
    (state : Scan.State)
    (names : ∀ name ∈ calledName? (openParenthesis state), called name) :
    ∃ made : List Token,
      (openParenthesis state).entries false = made.map some ∧
        Grouped IsRaw called state.nesting made (openParenthesis state).next.nesting := by
  cases buffer : state.buffer with
  | nil =>
      have opened : (openParenthesis state).next.nesting =
          subexpressionStart :: state.nesting := by
        simp [openParenthesis, buffer, Nesting.push, subexpressionStart]
      rw [opened]
      refine ⟨[subexpressionStart], ?_, .opens .subexpression .nil⟩
      simp [openParenthesis, Move.entries, buffer, subexpressionStart]
  | cons first rest =>
      have isCalled : called state.buffer := by
        apply names
        simp [calledName?, openParenthesis, buffer]
      have opened : (openParenthesis state).next.nesting =
          functionStart state.buffer :: state.nesting := by
        simp [openParenthesis, buffer, Nesting.push, functionStart]
      rw [opened]
      refine ⟨[functionStart state.buffer], ?_, .opens (.call isCalled) .nil⟩
      simp [openParenthesis, Move.entries, buffer, functionStart]

/-- A step continues the path of the open groups. -/
theorem exists_grouped_of_rule
    {state : Scan.State} {char : Char} {tail : List Char} {move : Move}
    (rule : Rule state char tail move)
    (unnamed : ¬ called arrayRowText)
    (framed : Framed called state.nesting)
    (names : ∀ name ∈ calledName? move, called name) :
    ∃ made : List Token,
      move.entries false = made.map some ∧
        Grouped IsRaw called state.nesting made move.next.nesting := by
  cases rule with
  | separate _ _ separates =>
      have grouped : Grouped IsRaw called state.nesting [_] state.nesting :=
        grouped_plain (isRaw_separates separates) state.nesting
      simpa [Move.entries, Scan.separate] using exists_behind_flush state (.inl rfl) grouped
  | openLiteral =>
      rcases exists_flush state (.inr rfl) with ⟨made, flushes, grouped⟩
      exact ⟨made, by simpa [Move.entries, Scan.openLiteral] using flushes, grouped _⟩
  | openArray =>
      have grouped : Grouped IsRaw called state.nesting [arrayStart, arrayRowStart]
          (arrayRowStart :: arrayStart :: state.nesting) := .brace .nil
      simpa [Move.entries, Scan.openArray, Nesting.push, arrayStart, arrayRowStart] using
        exists_behind_flush state (.inr rfl) grouped
  | openParenthesis => exact exists_openParenthesis state names
  | @closeArray _ row outer _ nesting isRow =>
      rw [nesting] at framed
      rcases brace_of_framed framed unnamed isRow with ⟨others, rfl, rfl, -⟩
      have grouped : Grouped IsRaw called (arrayRowStart :: arrayStart :: others)
          [arrayRowStop, arrayStop] others := .closeBrace .nil
      rcases exists_behind_flush state (.inl rfl) grouped with ⟨made, left, path⟩
      refine ⟨made, ?_, by rwa [nesting]⟩
      simpa [Move.entries, Nesting.stopFor, arrayRowStart, arrayStart, arrayRowStop,
        arrayStop] using left
  | @closeParenthesis _ opener outer _ nesting noRow =>
      rw [nesting] at framed
      rcases isParenthesis_of_framed framed noRow with ⟨isParenthesis, -⟩
      have grouped : Grouped IsRaw called (opener :: outer) [Nesting.stopFor opener []] outer :=
        .closes isParenthesis .nil
      rw [nesting]
      simpa [Move.entries] using exists_behind_flush state (.inl rfl) grouped
  | unbalancedArray => exact exists_unbalanced state '}'
  | unbalancedParenthesis => exact exists_unbalanced state ')'
  | endText => exact ⟨[_], rfl, grouped_plain (isRaw_text _) _⟩
  | endErrorCode _ complete => exact ⟨[_], rfl, grouped_plain (isRaw_error complete) _⟩
  | _ => exact ⟨[], rfl, .nil⟩

/-- At the end of a text, what is collected or left open is a token by itself. -/
theorem exists_closeLiteral (text : List Char) (state : Scan.State) :
    ∃ made : List Token,
      (closeLiteral text state).entries false = made.map some ∧
        ∀ nesting, Grouped IsRaw called nesting made nesting := by
  rw [closeLiteral]
  split
  · rcases exists_flush state (.inl rfl) with ⟨made, flushes, grouped⟩
    exact ⟨made, by simpa [Move.entries] using flushes, grouped⟩
  · exact ⟨[_], rfl, grouped_plain (isRaw_unknown _)⟩

/-- As long as calls have names of the class, the entries of a scan are a path of groups. -/
theorem kept_grouped (text : List Char) (unnamed : ¬ called arrayRowText) :
    Kept text fun made state =>
      (∀ name ∈ made.filterMap calledName?, called name) →
        ∃ tokens : List Token,
          entries false made = tokens.map some ∧ Grouped IsRaw called [] tokens state.nesting where
  initial := by
    intro _
    exact ⟨[], rfl, .nil⟩
  step := by
    intro made state char tail before names
    simp only [List.filterMap_append, List.mem_append] at names
    rcases before fun name member => names name (.inl member) with ⟨tokens, left, grouped⟩
    have named : ∀ name ∈ calledName? (stepMode state char tail), called name := by
      intro name isCalled
      apply names name
      exact .inr (List.mem_filterMap.mpr ⟨Scan.step state char tail, by simp, isCalled⟩)
    rcases exists_grouped_of_rule (stepMode_rule state char tail) unnamed
      (grouped.framed unnamed .nil) named with ⟨others, leaves, later⟩
    refine ⟨tokens ++ others, ?_, grouped.append later⟩
    rw [entries_append, left, entries_cons, entries_nil, List.append_nil, List.map_append]
    exact congrArg _ leaves
  closeLiteral := by
    intro made state before names
    simp only [List.filterMap_append, List.mem_append] at names
    rcases before fun name member => names name (.inl member) with ⟨tokens, left, grouped⟩
    rcases exists_closeLiteral text state with ⟨others, leaves, later⟩
    refine ⟨tokens ++ others, ?_, ?_⟩
    · rw [entries_append, left, entries_cons, entries_nil, List.append_nil, List.map_append, leaves]
    · rw [closeLiteral_nesting]
      exact grouped.append (later state.nesting)
  closeGroups := by
    intro made state before names
    simp only [List.filterMap_append, List.mem_append] at names
    rcases before fun name member => names name (.inl member) with ⟨tokens, left, grouped⟩
    rw [closeGroups, entries_append, left]
    split
    · exact ⟨tokens, by simp [Move.entries], grouped⟩
    · exact ⟨tokens, by simp [Move.entries], grouped⟩

end Steps

/-! ## The passes behind the scan -/

section Passes

variable {called : List Char → Prop} {nesting final : Nesting} {tokens : List Token}

/-- Resolving intersections changes nothing about the groups. -/
theorem Grouped.resolveAfter
    (grouped : Grouped IsRaw called nesting tokens final)
    (left : Option Token) :
    Grouped IsPlain called nesting (Intersection.resolveAfter left tokens) final := by
  induction grouped generalizing left with
  | nil => exact .nil
  | plain isRaw _ ih =>
      cases isRaw with
      | blank =>
          rw [Intersection.resolveAfter, if_pos (by rfl)]
          simp only
          split
          · exact .plain isPlain_intersection (ih left)
          · exact ih left
      | plain isPlain =>
          rw [Intersection.resolveAfter, isPlain.noBlank, if_neg Bool.false_ne_true]
          exact .plain isPlain (ih _)
  | opens isParenthesis _ ih =>
      cases isParenthesis with
      | subexpression => exact .opens .subexpression (ih _)
      | call isCalled => exact .opens (.call isCalled) (ih _)
  | closes isParenthesis _ ih =>
      cases isParenthesis with
      | subexpression => exact .closes .subexpression (ih _)
      | call isCalled => exact .closes (.call isCalled) (ih _)
  | brace _ ih => exact .brace (ih _)
  | closeBrace _ ih => exact .closeBrace (ih _)

theorem infixSubkind_unmarked (value : List Char) :
    some (Classification.infixSubkind value) ≠ some .start ∧
      some (Classification.infixSubkind value) ≠ some .stop ∧
      some (Classification.infixSubkind value) ≠ some .intersect := by
  rcases infixSubkind_cases value with found | ⟨found, -⟩ | ⟨found, -⟩
  · simp [found]
  · simp [found]
  · simp [found]

/-- What classification makes of a token. -/
inductive Classified : Token → Token → Prop where
  | same (token : Token) : Classified token token
  | binary {value : List Char} {subkind : Option Subkind}
      (isSign : value = ['-'] ∨ value = ['+']) :
      Classified ⟨.infixOp, value, subkind⟩ ⟨.infixOp, value, some .math⟩
  | minus {subkind : Option Subkind} :
      Classified ⟨.infixOp, ['-'], subkind⟩ ⟨.prefixOp, ['-'], none⟩
  | plus {subkind : Option Subkind} :
      Classified ⟨.infixOp, ['+'], subkind⟩ ⟨.noOp, ['+'], none⟩
  | operator (value : List Char) :
      Classified ⟨.infixOp, value, none⟩
        ⟨.infixOp, value, some (Classification.infixSubkind value)⟩
  | operand (value : List Char) :
      Classified ⟨.operand, value, none⟩
        ⟨.operand, value, some (Classification.operandSubkind value)⟩
  | call {subkind : Option Subkind} (name : List Char) :
      Classified ⟨.function, '@' :: name, subkind⟩ ⟨.function, name, subkind⟩

theorem classified_classifyToken (behindValue : Bool) (token : Token) :
    Classified token (Classification.classifyToken behindValue token) := by
  rcases token with ⟨kind, value, subkind⟩
  cases kind with
  | infixOp =>
      simp only [Classification.classifyToken]
      split
      · next isMinus =>
          subst isMinus
          split
          · exact .binary (.inl rfl)
          · exact .minus
      · split
        · next isPlus =>
            subst isPlus
            split
            · exact .binary (.inr rfl)
            · exact .plus
        · cases subkind with
          | none => exact .operator value
          | some subkind => exact .same _
  | operand =>
      cases subkind with
      | none => exact .operand value
      | some subkind => exact .same _
  | function =>
      simp only [Classification.classifyToken]
      split
      · split
        · exact .call _
        · exact .same _
      · exact .same _
  | _ => exact .same _

/-- A token by itself stays one when it is classified, unless it loses its meaning. -/
theorem IsPlain.classified
    {token final : Token}
    (isPlain : IsPlain token)
    (classified : Classified token final)
    (stays : final.kind ≠ .noOp) :
    IsPlain final := by
  cases classified with
  | same => exact isPlain
  | binary isSign =>
      apply isPlain_sign (by simp) (.inl rfl)
      rcases isSign with rfl | rfl <;> decide
  | minus => exact isPlain_sign (by simp) (.inr (.inl rfl)) (by decide)
  | plus => cases stays rfl
  | operator value =>
      apply isPlain_sign (infixSubkind_unmarked value) (.inl rfl)
      exact isPlain.symbol rfl
  | operand value =>
      have noMark := operandSubkind_noMark value
      have nonempty : value ≠ [] := by
        rcases isPlain.operand rfl with isText | nonempty
        · cases isText
        · exact nonempty
      exact isPlain_operand (by simp [noMark]) (.inr nonempty)
  | call => cases isPlain.noGroup

theorem unmarked_functionStart (name : List Char) :
    (functionStart name).unmarked = functionStart (unmarkedName name) := by
  cases name with
  | nil => rfl
  | cons char rest =>
      by_cases isMark : char = '@'
      · subst isMark
        rfl
      · have stays : unmarkedName (char :: rest) = char :: rest := by
          rcases unmarkedName_cases (char :: rest) with same | marked
          · exact same
          · exact absurd (List.cons.inj marked).1 isMark
        rw [stays, Token.unmarked, if_neg]
        rintro ⟨-, -, marked⟩
        exact isMark (Option.some.inj marked)

/-- Classification takes marks off names and changes nothing else about the groups. -/
theorem Grouped.classifyAfter
    (grouped : Grouped IsPlain (fun name => called (unmarkedName name)) nesting tokens final)
    (previous : Option Token) :
    Grouped IsPlain called (nesting.map Token.unmarked)
      (Classification.classifyAfter previous tokens) (final.map Token.unmarked) := by
  induction grouped generalizing previous with
  | nil => exact .nil
  | plain isPlain _ ih =>
      rw [Classification.classifyAfter]
      split
      · exact ih _
      · next stays => exact .plain (isPlain.classified (classified_classifyToken _ _) stays) (ih _)
  | @opens _ _ opener rest isParenthesis _ ih =>
      cases isParenthesis with
      | subexpression => exact .opens .subexpression (ih _)
      | @call name isCalled =>
          have classified : Classification.classifyAfter previous (functionStart name :: rest) =
              (functionStart name).unmarked ::
                Classification.classifyAfter (some (functionStart name)) rest := by
            have lawful : (functionStart name).IsLawful := rfl
            have stays : (functionStart name).unmarked.kind ≠ .noOp := by
              simp [functionStart]
            rw [Classification.classifyAfter, lawful.classifyToken_eq rfl, if_neg stays]
          have later := ih (some (functionStart name))
          rw [List.map_cons, unmarked_functionStart] at later
          rw [classified, unmarked_functionStart]
          exact .opens (.call isCalled) later
  | @closes _ _ opener rest isParenthesis _ ih =>
      cases isParenthesis with
      | subexpression => exact .closes .subexpression (ih _)
      | @call name isCalled =>
          rw [List.map_cons, unmarked_functionStart]
          exact .closes (.call isCalled) (ih _)
  | brace _ ih => exact .brace (ih _)
  | closeBrace _ ih => exact .closeBrace (ih _)

end Passes

/-! ## The groups of a formula -/

theorem calledName?_closeLiteral (text : List Char) (state : Scan.State) :
    calledName? (closeLiteral text state) = none := by
  rw [closeLiteral]
  split
  · rw [calledName?, State.flush]
    split
    · next opener => split at opener <;> cases opener
    · rfl
  · rfl

theorem calledName?_closeGroups (text : List Char) (state : Scan.State) :
    calledName? (closeGroups text state) = none := by
  rw [closeGroups]
  split <;> rfl

/-- No call at the end of a text. -/
theorem filterMap_moves (text : List Char) :
    (moves false text).filterMap calledName? = calledNames text := by
  rw [moves_lenient, List.filterMap_append, List.filterMap_cons, List.filterMap_cons,
    calledName?_closeLiteral, calledName?_closeGroups, List.filterMap_nil, List.append_nil]
  rfl

/-- The scanned tokens of a formula are a path of groups that begins outside of all groups. -/
theorem exists_scanned
    {isStrict : Bool} {formula : List Char} {tokens : List Token} {names : List (List Char)}
    (found : Formula.tokens isStrict formula = .ok tokens)
    (avoids : Avoids names (Formula.normalize formula))
    (reserved : arrayNames ⊆ names) :
    ∃ scanned final,
      Grouped IsRaw (fun name => unmarkedName name ∉ names) [] scanned final ∧
        tokens = Classification.classify (Intersection.resolve scanned) ∧
        (isStrict = true → final = []) := by
  rcases Formula.tokens_eq_ok_iff.mp found with ⟨scanned, scans, rfl⟩
  have left : entries false (moves false (Formula.normalize formula)) = scanned.map some :=
    (scan_eq_ok_iff.mp scans).1
  have unnamed : ¬ unmarkedName arrayRowText ∉ names := by
    intro unreserved
    exact unreserved (reserved (by simp [arrayNames, unmarkedName, arrayRowText_eq]))
  have kept := @kept_grouped (fun name => unmarkedName name ∉ names)
    (Formula.normalize formula) unnamed
  have path := kept.of_isPrefix (List.prefix_refl (moves false (Formula.normalize formula)))
  rw [filterMap_moves] at path
  rcases path avoids with ⟨others, same, grouped⟩
  rw [left] at same
  cases (List.map_inj_right fun _ _ => Option.some.inj).mp same
  refine ⟨scanned, _, grouped, rfl, ?_⟩
  rintro rfl
  rw [Nesting.lastState_moves_nesting, Nesting.nesting_of_strict scans]

/--
The tokens of a formula without calls by the names of array literals are a path
of groups.  It begins outside of all groups, and it ends there when the formula
has to be well formed.
-/
theorem exists_grouped
    {isStrict : Bool} {formula : List Char} {tokens : List Token} {names : List (List Char)}
    (found : Formula.tokens isStrict formula = .ok tokens)
    (avoids : Avoids names (Formula.normalize formula))
    (reserved : arrayNames ⊆ names) :
    ∃ final,
      Grouped IsPlain (fun name => name ∉ names) [] tokens final ∧
        (isStrict = true → final = []) := by
  rcases exists_scanned found avoids reserved with ⟨scanned, final, grouped, rfl, ends⟩
  have classified : Grouped IsPlain (fun name => name ∉ names) []
      (Classification.classify (Intersection.resolve scanned)) _ :=
    @Grouped.classifyAfter (fun name => name ∉ names) [] _ _ (grouped.resolveAfter none) none
  refine ⟨_, classified, ?_⟩
  intro isStrict
  rw [ends isStrict, List.map_nil]

end SheetFormula.Layout
