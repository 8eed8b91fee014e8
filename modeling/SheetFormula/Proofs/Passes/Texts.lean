import SheetFormula.Proofs.Layout.Groups
import SheetFormula.Proofs.Passes.Classification
import SheetFormula.Proofs.Passes.Intersections
import SheetFormula.Proofs.RoundTrip.Stability

/-!
# The texts of the tokens of a formula

The layout writes the texts of the tokens between its own spaces and line
breaks.  It can be told apart from them because of what a scan leaves in these
texts: no line break, for a formula has lost its own before the scan; no space
at the beginning of an operand, for a space completes what is collected; and no
blank at the end of the last operand, for a formula is trimmed.

Main statement: all of this holds of the classified tokens of every formula,
well formed or not.
-/

namespace SheetFormula.Scan

open Layout RoundTrip

/-! ## Scanned tokens -/

/--
What is known of a token before it is classified.  Tokens by themselves are of some
class, and an operand without a subkind was collected.
-/
structure IsScanned (plain : Token → Prop) (token : Token) : Prop where
  shape : token.isGroup ∨ plain token
  isLine : IsLine token.value
  subkind : token.kind = .operand →
    token.subkind = none ∨ token.subkind = some .text ∨ token.subkind = some .error
  begins : token.kind = .operand → token.subkind = none → token.value.head? ≠ some ' '

/-- What is collected is on one line, and a space is not the first of it except in a text. -/
structure Tidy (state : State) : Prop where
  isLine : IsLine state.buffer
  begins : state.mode ≠ .inside .text → state.buffer.head? ≠ some ' '
  begun : state.mode ≠ .normal → state.mode ≠ .inside .text → state.buffer ≠ []

section Scanned

variable {state next : State} {char : Char} {tail : List Char} {move : Move} {token : Token}

theorem isScanned_group
    {plain : Token → Prop}
    (isGroup : token.isGroup)
    (isLine : IsLine token.value) :
    IsScanned plain token := by
  have noOperand : token.kind ≠ .operand := by
    intro isOperand
    simp [Token.isGroup, isOperand] at isGroup
  exact ⟨.inl isGroup, isLine, fun isOperand => absurd isOperand noOperand,
    fun isOperand => absurd isOperand noOperand⟩

theorem isScanned_unknown {value : List Char} (isLine : IsLine value) :
    IsScanned IsRaw ⟨.unknown, value, none⟩ where
  shape := .inr (isRaw_unknown value)
  isLine := isLine
  subkind := by simp
  begins := by simp

/-- The characters that stand for themselves are no operands, and they break no line. -/
theorem isScanned_separates
    {nesting : Nesting} {extra : Nat}
    (separates : Separates nesting char tail token extra) :
    IsScanned IsRaw token := by
  have noOperand : token.kind ≠ .operand := by
    cases separates with
    | comma =>
        unfold commaToken
        split <;> simp
    | _ => simp
  have isLine : IsLine token.value := by
    cases separates with
    | pair found =>
        have broken : ∀ pair ∈ comparisons, IsLine pair := by
          simp [comparisons, IsLine]
        exact broken _ (mem_comparisons found)
    | comma =>
        unfold commaToken
        split <;> simp [IsLine]
    | operator _ isOperator => exact isLine_mark isOperator
    | _ => simp [IsLine]
  exact ⟨.inr (isRaw_separates separates), isLine, fun isOperand => absurd isOperand noOperand,
    fun isOperand => absurd isOperand noOperand⟩

/-- The texts that array literals and stops are told by. -/
theorem isLine_reserved :
    ∀ text ∈ [[], arrayText, arrayRowText, arrayRowStopText, arrayStopText], IsLine text := by
  have checked :
      [[], arrayText, arrayRowText, arrayRowStopText, arrayStopText].all
        (fun text => text.all fun char => char != '\r' && char != '\n') = true := by decide
  intro text member
  simpa [IsLine] using List.all_eq_true.mp checked text member

/-- What a step completes in a tidy state. -/
theorem Tidy.isScanned
    (tidy : Tidy state)
    (opened : Opened state.nesting)
    (completed : Completed state char tail token) :
    IsScanned IsRaw token := by
  cases completed with
  | operand mode nonempty =>
      exact ⟨.inr (isRaw_operand nonempty), tidy.isLine, fun _ => .inl rfl,
        fun _ _ => tidy.begins (by simp [mode])⟩
  | unknown => exact isScanned_unknown tidy.isLine
  | separator _ separates => exact isScanned_separates separates
  | @array name reserved =>
      have isLine : IsLine name := by
        apply isLine_reserved
        rcases reserved with same | same <;> simp [same]
      exact isScanned_group rfl isLine
  | subexpression => exact isScanned_group rfl (by simp [IsLine])
  | call => exact isScanned_group rfl tidy.isLine
  | @stop opener value isOpen known =>
      have isOpener := opened opener isOpen
      rw [Token.isOpener, Bool.and_eq_true] at isOpener
      have isGroup : (Nesting.stopFor opener value).isGroup := isOpener.2
      have isLine : IsLine value := by
        apply isLine_reserved
        simp only [List.mem_cons, List.not_mem_nil, or_false] at known
        rcases known with same | same | same <;> simp [same]
      exact isScanned_group isGroup isLine
  | closer isCloser =>
      apply isScanned_unknown
      rcases isCloser with rfl | rfl
      · simp [IsLine]
      · simp [IsLine]
  | text =>
      exact ⟨.inr (isRaw_text _), tidy.isLine, fun _ => .inr (.inl rfl), by simp⟩
  | error complete =>
      exact ⟨.inr (isRaw_error complete), isLine_errorCode complete,
        fun _ => .inr (.inr rfl), by simp⟩

theorem tidy_of_empty
    (mode : next.mode = .normal ∨ next.mode = .inside .text)
    (empty : next.buffer = []) :
    Tidy next where
  isLine := by simp [empty, IsLine]
  begins := by simp [empty]
  begun := by
    intro noNormal noText
    rcases mode with normal | text
    · exact absurd normal noNormal
    · exact absurd text noText

/-- A character goes into the buffer: outside of texts it is no space, or it is not the first. -/
theorem Tidy.collect
    (tidy : Tidy state)
    (inLine : IsLine [char])
    (longer : next.buffer = state.buffer ++ [char])
    (within : next.mode ≠ .inside .text → state.mode ≠ .inside .text)
    (follows : state.mode = .normal → char ≠ ' ') :
    Tidy next where
  isLine := by
    rw [longer]
    exact isLine_concat tidy.isLine inLine
  begins := by
    intro noText
    rw [longer]
    cases buffer : state.buffer with
    | nil =>
        have mode : state.mode = .normal := by
          by_cases normal : state.mode = .normal
          · exact normal
          · exact absurd buffer (tidy.begun normal (within noText))
        simpa using follows mode
    | cons first rest =>
        have visible := tidy.begins (within noText)
        rwa [buffer] at visible
  begun := by simp [longer]

/-- A step leaves a tidy state. -/
theorem Rule.tidy
    (rule : Rule state char tail move)
    (tidy : Tidy state)
    (inLine : IsLine [char]) :
    Tidy move.next := by
  have outside (noText : state.mode ≠ .inside .text) :
      move.next.mode ≠ .inside .text → state.mode ≠ .inside .text := fun _ => noText
  cases rule with
  | collect mode plain =>
      apply tidy.collect inLine rfl (outside (by simp [mode]))
      rintro _ rfl
      rcases plain with noDelimiter | sign
      · cases noDelimiter
      · rcases sign.1 with isPlus | isMinus
        · cases isPlus
        · cases isMinus
  | openLiteral _ opens =>
      cases opens with
      | text => exact tidy_of_empty (.inr rfl) rfl
      | sheetPath | errorCode =>
          exact ⟨by simp [Scan.openLiteral, IsLine], by simp [Scan.openLiteral],
            by simp [Scan.openLiteral]⟩
  | openBracketRange mode =>
      exact tidy.collect inLine rfl (outside (by simp [mode])) (fun _ => by simp)
  | escapedQuote mode | textCharacter mode =>
      exact tidy.collect inLine rfl id (by simp [mode])
  | escapedApostrophe mode | endSheetPath mode | sheetPathCharacter mode | innerBracket mode
  | endInnerBracket mode | endBracketRange mode | bracketCharacter mode
  | errorCodeCharacter mode =>
      exact tidy.collect inLine rfl (outside (by simp [mode])) (by simp [mode])
  | separate mode | openArray mode | openParenthesis mode | closeArray mode
  | closeParenthesis mode | unbalancedArray mode | unbalancedParenthesis mode =>
      exact tidy_of_empty (.inl mode) rfl
  | endText | endErrorCode => exact tidy_of_empty (.inl rfl) rfl

end Scanned

/-! ## Runs -/

section Runs

variable {state final : State} {char : Char} {text tail rest : List Char} {move : Move}
  {moves : List Move} {token : Token}

theorem Reads.isScanned
    (run : Reads state text moves final rest)
    (tidy : Tidy state)
    (opened : Opened state.nesting)
    (isLine : IsLine text) :
    Tidy final ∧ ∀ token, some token ∈ entries false moves → IsScanned IsRaw token := by
  induction run with
  | done =>
      refine ⟨tidy, ?_⟩
      intro token member
      cases member
  | @move state final char tail rest moves later ih =>
      have rule := stepMode_rule state char tail
      rcases List.forall_mem_cons.mp isLine with ⟨inLine, isLineLater⟩
      have stepTidy : Tidy (stepMode state char tail).next :=
        rule.tidy tidy (by simpa [IsLine] using inLine)
      rcases ih ⟨stepTidy.isLine, stepTidy.begins, stepTidy.begun⟩ (rule.opened opened)
        (fun char member => isLineLater char (List.mem_of_mem_drop member)) with
        ⟨finalTidy, scanned⟩
      refine ⟨finalTidy, ?_⟩
      intro token member
      rw [entries_cons] at member
      rcases List.mem_append.mp member with here | behind
      · exact tidy.isScanned opened (rule.completed here)
      · exact scanned token behind

theorem Tidy.isScanned_closeLiteral
    (tidy : Tidy state)
    (isLine : IsLine text)
    (member : some token ∈ (closeLiteral text state).entries false) :
    IsScanned IsRaw token := by
  unfold closeLiteral at member
  split at member
  · next mode =>
      rw [Move.entries, List.append_nil] at member
      rcases State.mem_flush member with ⟨nonempty, rfl⟩
      exact ⟨.inr (isRaw_operand nonempty), tidy.isLine, fun _ => .inl rfl,
        fun _ _ => tidy.begins (by simp [mode])⟩
  · next literal mode =>
      cases List.mem_singleton.mp member
      apply isScanned_unknown
      cases literal with
      | text | sheetPath => exact fun char member => isLine char (List.mem_of_mem_drop member)
      | bracketRange | errorCode => exact tidy.isLine

/-- The last token of a step is no operand that was only collected. -/
theorem Rule.last_entry
    (rule : Rule state char tail move)
    (last : (move.entries false).getLast? = some (some token)) :
    ¬ (token.kind = .operand ∧ token.subkind = none) := by
  cases departure : move.departure with
  | none =>
      rw [Move.entries, rule.recovered_eq_nil departure, if_neg Bool.false_ne_true,
        List.append_nil] at last
      exact last_emitted rule departure last
  | some departed =>
      cases rule with
      | unbalancedArray | unbalancedParenthesis =>
          rw [Move.entries, unbalanced, if_neg Bool.false_ne_true, List.getLast?_concat] at last
          cases last
          simp
      | _ => cases departure

/-- Nor is it a blank, if the step reads the end of a text that ends visibly. -/
theorem Rule.endsVisibly
    (rule : Rule state char tail move)
    (opened : Opened state.nesting)
    (visible : (char :: tail).getLast?.any Text.isBlank = false)
    (ended : tail.drop move.extra = [])
    (last : (move.entries false).getLast? = some (some token)) :
    EndsVisibly token := by
  refine ⟨?_, fun isOperand noSubkind => absurd ⟨isOperand, noSubkind⟩ (rule.last_entry last)⟩
  have noSpace : state.mode = .normal → char ≠ ' ' := by
    rintro mode rfl
    have spaces := take_spaces tail
    rw [← rule.stepMode_eq, stepMode_space mode] at ended
    rw [← List.append_nil (tail.take _), ← ended, List.take_append_drop] at spaces
    rw [spaces, ← List.replicate_succ, List.getLast?_replicate] at visible
    cases visible
  exact rule.visible opened noSpace _ (List.mem_of_getLast? last)

/-- At the end of a text that ends visibly, what is collected or left last does so too. -/
theorem Reads.endsVisibly
    (run : Reads state text moves final rest)
    (ended : rest = [])
    (opened : Opened state.nesting)
    (visible : (if text = [] then state.buffer else text).getLast?.any Text.isBlank = false) :
    final.buffer.getLast?.any Text.isBlank = false ∧
      (text ≠ [] → final.mode = .normal → final.buffer = [] →
        ∃ entry, (entries false moves).getLast? = some entry ∧
          ∀ token, entry = some token → EndsVisibly token) := by
  induction run with
  | done =>
      subst ended
      exact ⟨visible, fun nonempty => absurd rfl nonempty⟩
  | @move state final char tail rest moves later ih =>
      have rule := stepMode_rule state char tail
      rw [if_neg (List.cons_ne_nil _ _)] at visible
      have visibleBehind := visible_behind_step rule visible
      rcases ih ended (rule.opened opened) visibleBehind with ⟨collected, ends⟩
      refine ⟨collected, ?_⟩
      intro _ mode empty
      by_cases finished : tail.drop (stepMode state char tail).extra = []
      · -- the step reads the end of the text, so that no other follows
        have same : moves = [] ∧ final = (step state char tail).next := by
          have rest : Reads (step state char tail).next [] moves final rest := by
            rw [← finished]
            exact later
          cases rest
          exact ⟨rfl, rfl⟩
        rcases same with ⟨rfl, rfl⟩
        rw [entries_cons, entries_nil, List.append_nil]
        have something : (step state char tail).entries false ≠ [] := by
          intro nothing
          exact absurd empty (rule.fills nothing mode)
        refine ⟨_, List.getLast?_eq_some_getLast something, ?_⟩
        intro token isLast
        apply rule.endsVisibly opened visible finished
        rw [← isLast]
        exact List.getLast?_eq_some_getLast something
      · rcases ends finished mode empty with ⟨entry, last, endsVisibly⟩
        refine ⟨entry, ?_, endsVisibly⟩
        rw [entries_cons, List.getLast?_append, last, Option.some_or]

end Runs

/-- What a scan of a text on one line leaves. -/
theorem isScanned_lenient
    {text : List Char} {token : Token}
    (isLine : IsLine text)
    (member : some token ∈ (lenient text).entries) :
    IsScanned IsRaw token := by
  have initial : Tidy State.initial := tidy_of_empty (.inl rfl) rfl
  rcases (reads_finalState text).isScanned initial (by simp [Opened, State.initial]) isLine with
    ⟨tidy, scanned⟩
  rw [lenient_entries] at member
  rcases List.mem_append.mp member with read | closed
  · exact scanned token read
  · exact tidy.isScanned_closeLiteral isLine closed

/-- What a scan leaves last, if the text ends visibly. -/
theorem endsVisibly_lenient
    {text : List Char} {token : Token}
    (visible : text.getLast?.any Text.isBlank = false)
    (last : (lenient text).entries.getLast? = some (some token)) :
    EndsVisibly token := by
  have visibleHere : (if text = [] then State.initial.buffer else text).getLast?.any Text.isBlank =
      false := by
    split
    · rfl
    · exact visible
  rcases (reads_finalState text).endsVisibly rfl (by simp [Opened, State.initial])
    visibleHere with ⟨collected, ends⟩
  rw [lenient_entries] at last
  cases mode : (finalState text).mode with
  | normal =>
      have closed : (closeLiteral text (finalState text)).entries false =
          (finalState text).flush .operand := by
        simp [closeLiteral, mode, Move.entries]
      rw [closed, State.flush] at last
      split at last
      · next empty =>
          rw [List.append_nil] at last
          by_cases nothing : text = []
          · rw [nothing, reading_nil] at last
            cases last
          · rcases ends nothing mode (by simpa using empty) with ⟨entry, isLast, endsVisibly⟩
            rw [last] at isLast
            exact endsVisibly token (Option.some.inj isLast).symm
      · rw [List.getLast?_concat] at last
        cases last
        exact ⟨rfl, fun _ _ => collected⟩
  | inside literal =>
      have closed : ∃ value, (closeLiteral text (finalState text)).entries false =
          [some ⟨.unknown, value, none⟩] := by
        simp [closeLiteral, mode, Move.entries]
      rcases closed with ⟨value, closed⟩
      rw [closed, List.getLast?_concat] at last
      cases last
      exact ⟨rfl, by simp⟩

end SheetFormula.Scan

/-! ## The passes behind the scan -/

namespace SheetFormula

open Layout RoundTrip Scan

/-- Resolving keeps tokens or makes intersections of blanks. -/
theorem Intersection.mem_resolveAfter
    {left : Option Token} {tokens : List Token} {token : Token}
    (member : token ∈ resolveAfter left tokens) :
    token ∈ tokens ∧ token.isBlank = false ∨
      ∃ blank ∈ tokens, blank.isBlank ∧ token = blank.asIntersection := by
  induction tokens generalizing left with
  | nil => cases member
  | cons first rest ih =>
      have later {other : Option Token} (behind : token ∈ resolveAfter other rest) :
          token ∈ first :: rest ∧ token.isBlank = false ∨
            ∃ blank ∈ first :: rest, blank.isBlank ∧ token = blank.asIntersection := by
        rcases ih behind with ⟨found, visible⟩ | ⟨blank, found, isBlank, same⟩
        · exact .inl ⟨List.mem_cons_of_mem _ found, visible⟩
        · exact .inr ⟨blank, List.mem_cons_of_mem _ found, isBlank, same⟩
      simp only [resolveAfter] at member
      split at member
      · next isBlank =>
          split at member
          · rcases List.mem_cons.mp member with same | behind
            · exact .inr ⟨first, List.mem_cons_self, isBlank, same⟩
            · exact later behind
          · exact later member
      · next visible =>
          rcases List.mem_cons.mp member with rfl | behind
          · exact .inl ⟨List.mem_cons_self, by simpa using visible⟩
          · exact later behind

theorem Intersection.exists_resolveAfter_concat
    {token : Token}
    (visible : token.isBlank = false)
    (left : Option Token)
    (tokens : List Token) :
    ∃ before, resolveAfter left (tokens ++ [token]) = before ++ [token] := by
  induction tokens generalizing left with
  | nil => exact ⟨[], by simp [resolveAfter, visible]⟩
  | cons first rest ih =>
      rw [List.cons_append, resolveAfter]
      split
      · rcases ih left with ⟨before, same⟩
        rw [same]
        simp only
        split
        · exact ⟨_, List.cons_append.symm⟩
        · exact ⟨before, rfl⟩
      · rcases ih (some first) with ⟨before, same⟩
        rw [same]
        exact ⟨_, List.cons_append.symm⟩

/-- What is known of a token once intersections are resolved. -/
theorem isScanned_of_mem_resolve
    {tokens : List Token} {token : Token}
    (scanned : ∀ token ∈ tokens, IsScanned IsRaw token)
    (member : token ∈ Intersection.resolve tokens) :
    IsScanned IsPlain token := by
  rcases Intersection.mem_resolveAfter member with ⟨found, visible⟩ | ⟨blank, found, isBlank, rfl⟩
  · have known := scanned token found
    refine ⟨?_, known.isLine, known.subkind, known.begins⟩
    rcases known.shape with isGroup | isRaw
    · exact .inl isGroup
    · cases isRaw with
      | blank => cases visible
      | plain isPlain => exact .inr isPlain
  · have same : blank.asIntersection = intersection := by
      rcases (scanned blank found).shape with isGroup | isRaw
      · simp only [Token.isBlank, beq_iff_eq] at isBlank
        simp [Token.isGroup, isBlank] at isGroup
      · cases isRaw with
        | blank => rfl
        | plain isPlain =>
            rw [isPlain.noBlank] at isBlank
            cases isBlank
    rw [same]
    exact ⟨.inr isPlain_intersection, by simp [intersection, IsLine], by simp [intersection],
      by simp [intersection]⟩

namespace Layout

/-- What is known of the text of a classified token. -/
structure IsWritten (token : Token) : Prop where
  shape : token.isGroup ∨ IsPlain token
  isLine : IsLine token.value
  begins : token.kind = .operand → token.subkind ≠ some .text → token.subkind ≠ some .error →
    token.value.head? ≠ some ' '

section Classifying

variable {token final : Token}

/-- An operand that is no text and no error value was collected. -/
theorem collected_of_classified
    (scanned : IsScanned IsPlain token)
    (classified : Classified token final)
    (isOperand : final.kind = .operand)
    (noText : final.subkind ≠ some .text)
    (noError : final.subkind ≠ some .error) :
    token.kind = .operand ∧ token.subkind = none ∧ token.value = final.value := by
  cases classified with
  | same =>
      rcases scanned.subkind isOperand with noSubkind | isText | isError
      · exact ⟨isOperand, noSubkind, rfl⟩
      · exact absurd isText noText
      · exact absurd isError noError
  | operand => exact ⟨rfl, rfl, rfl⟩
  | binary | minus | plus | operator | call => cases isOperand

theorem isWritten_of_classified
    (scanned : IsScanned IsPlain token)
    (classified : Classified token final)
    (stays : final.kind ≠ .noOp) :
    IsWritten final where
  shape := by
    rcases scanned.shape with isGroup | isPlain
    · cases classified with
      | same => exact .inl isGroup
      | call => exact .inl rfl
      | binary | minus | plus | operator | operand => cases isGroup
    · exact .inr (isPlain.classified classified stays)
  isLine := by
    have isLine := scanned.isLine
    cases classified with
    | call => exact (List.forall_mem_cons.mp isLine).2
    | same | binary | minus | plus | operator | operand => exact isLine
  begins := by
    intro isOperand noText noError
    rcases collected_of_classified scanned classified isOperand noText noError with
      ⟨wasOperand, noSubkind, same⟩
    rw [← same]
    exact scanned.begins wasOperand noSubkind

end Classifying

/-- An operand that comes last behind classification came last in the scan. -/
theorem eq_last_of_resolved
    {scanned before behind : List Token} {token last : Token}
    (resolved : ∀ other ∈ Intersection.resolve scanned, IsScanned IsPlain other)
    (split : Intersection.resolve scanned = before ++ token :: behind)
    (isOperand : token.kind = .operand)
    (nothing : Classification.classifyAfter (some token) behind = [])
    (ends : scanned.getLast? = some last)
    (noBlank : last.isBlank = false) :
    token = last := by
  have meaningful : ∀ other ∈ behind, other.kind ≠ .noOp := by
    intro other member isNoOp
    rcases (resolved other (by simp [split, member])).shape with isGroup | isPlain
    · simp [Token.isGroup, isNoOp] at isGroup
    · exact isPlain.written.2.1 isNoOp
  have value : (some token).any Classification.endsValue := by
    simp [Classification.endsValue, isOperand]
  cases Classification.eq_nil_of_classifyAfter_eq_nil value meaningful nothing
  rcases List.getLast?_eq_some_iff.mp ends with ⟨others, rfl⟩
  rcases Intersection.exists_resolveAfter_concat noBlank none others with ⟨kept, ended⟩
  rw [Intersection.resolve, ended] at split
  cases (List.append_inj' split rfl).2
  rfl

/--
The texts of the tokens of a formula.  None holds a line break, what was collected
begins with no space, and if it comes last it ends in no blank.
-/
theorem texts_of_tokens
    {isStrict : Bool} {formula : List Char} {tokens : List Token}
    (found : Formula.tokens isStrict formula = .ok tokens) :
    (∀ token ∈ tokens, IsWritten token) ∧
      ∀ token, tokens.getLast? = some token →
        token.kind = .operand → token.subkind ≠ some .text → token.subkind ≠ some .error →
          token.value.getLast?.any Text.isBlank = false := by
  rcases Formula.tokens_eq_ok_iff.mp found with ⟨scanned, scans, rfl⟩
  have left : (lenient (Formula.normalize formula)).entries = scanned.map some :=
    (scan_eq_ok_iff.mp scans).1
  have known : ∀ token ∈ scanned, IsScanned IsRaw token := by
    intro token member
    apply isScanned_lenient (isLine_normalize formula)
    rw [left]
    exact List.mem_map_of_mem member
  have resolved : ∀ token ∈ Intersection.resolve scanned, IsScanned IsPlain token :=
    fun _ member => isScanned_of_mem_resolve known member
  constructor
  · intro final member
    rcases List.append_of_mem member with ⟨earlier, later, classified⟩
    rcases Classification.exists_of_classifyAfter_eq classified with
      ⟨before, token, behind, split, -, rfl, stays, -⟩
    exact isWritten_of_classified (resolved token (by simp [split]))
      (classified_classifyToken _ _) stays
  · intro final last isOperand noText noError
    rcases List.getLast?_eq_some_iff.mp last with ⟨earlier, classified⟩
    rcases Classification.exists_of_classifyAfter_eq classified with
      ⟨before, token, behind, split, -, rfl, -, nothing⟩
    have origin := classified_classifyToken
      ((before.getLast?.or none).any Classification.endsValue) token
    rcases collected_of_classified (resolved token (by simp [split])) origin isOperand noText
      noError with ⟨wasOperand, noSubkind, same⟩
    rcases List.eq_nil_or_concat scanned with rfl | ⟨others, lastScanned, rfl⟩
    · simp [Intersection.resolve, Intersection.resolveAfter] at split
    · rw [List.concat_eq_append] at left split resolved
      have ends : EndsVisibly lastScanned := by
        apply endsVisibly_lenient (last_normalize formula)
        rw [left, List.map_append, List.map_cons, List.map_nil, List.getLast?_concat]
      cases eq_last_of_resolved resolved split wasOperand nothing List.getLast?_concat ends.noBlank
      rw [← same]
      exact ends.visible wasOperand noSubkind

end Layout

end SheetFormula
