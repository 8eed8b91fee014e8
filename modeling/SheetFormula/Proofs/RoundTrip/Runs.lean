import SheetFormula.Proofs.RoundTrip.Segments

/-!
# What a text leaves

A text that is read to its end without departure leaves segments
(`leaves_of_reads`).  Besides, it says where blanks are: a blank takes all
spaces at its place, so that no two blanks stand together; and the last token
ends in a visible character when the text does, so that no blank and no operand
with a blank at its end comes last.
-/

namespace SheetFormula.RoundTrip

open Scan

/-! ## Blanks -/

/-- A move that leaves a blank: it reads all the spaces at its place. -/
structure Spaces (state : Scan.State) (char : Char) (tail : List Char) (move : Move)
    (entry : Entry) : Prop where
  mode : state.mode = .normal
  emits : move.emitted = state.flush .operand ++ [entry]
  spaces : ∀ other ∈ char :: tail.take move.extra, other = ' '
  ends : (tail.drop move.extra).head? ≠ some ' '

/-- No lexeme is a blank. -/
theorem Lexeme.isBlank_scanned (lexeme : Lexeme) :
    ∀ token ∈ lexeme.scanned, token.isBlank = false := by
  cases lexeme with
  | _ => simp [scanned, Lexeme.tokens, Token.isBlank, RoundTrip.percent, RoundTrip.separator,
      subexpressionStart, subexpressionStop, functionStart, functionStop, arrayStart,
      arrayRowStart, arrayRowStop, arrayStop]

theorem isBlank_flush
    {state : Scan.State} {kind : Kind} {token : Token}
    (noBlank : kind ≠ .blank)
    (member : some token ∈ state.flush kind) :
    token.isBlank = false := by
  unfold State.flush at member
  split at member
  · cases member
  · cases List.mem_singleton.mp member
    simp [Token.isBlank, noBlank]

/-- A blank is left only where spaces are read. -/
theorem spaces_of_blank
    {state : Scan.State} {nesting : Nesting} {char : Char} {tail : List Char} {move : Move}
    {token : Token}
    (rule : Rule state char tail move)
    (frames : Frames state.nesting nesting)
    (member : some token ∈ move.emitted)
    (isBlank : token.isBlank) :
    Spaces state char tail move (some token) := by
  have noOperand : some token ∉ state.flush .operand := by
    intro flushed
    rw [isBlank_flush (by decide) flushed] at isBlank
    cases isBlank
  have noUnknown : some token ∉ state.flush .unknown := by
    intro flushed
    rw [isBlank_flush (by decide) flushed] at isBlank
    cases isBlank
  cases rule with
  | separate mode _ separates =>
      rcases List.mem_append.mp member with flushed | last
      · exact absurd flushed noOperand
      · cases List.mem_singleton.mp last
        cases separates with
        | blank =>
            refine ⟨mode, rfl, ?_, head_behindSpaces tail⟩
            rw [take_spaces, ← List.replicate_succ]
            intro other found
            exact List.eq_of_mem_replicate found
        | comma =>
            unfold commaToken at isBlank
            split at isBlank <;> cases isBlank
        | _ => cases isBlank
  | openLiteral => exact absurd member noUnknown
  | openArray =>
      rcases List.mem_append.mp member with flushed | opener
      · exact absurd flushed noUnknown
      · simp only [List.mem_cons, Option.some.injEq, List.not_mem_nil, or_false] at opener
        rcases opener with rfl | rfl <;> cases isBlank
  | openParenthesis =>
      have opener := List.mem_singleton.mp member
      split at opener <;> cases opener <;> cases isBlank
  | @closeArray _ row outer _ groups isRow =>
      rcases List.mem_append.mp member with flushed | stop
      · exact absurd flushed noOperand
      · rw [groups] at frames
        rcases frames.closeBrace isRow with ⟨others, rest, rfl, rfl, -, -⟩
        simp only [List.head?_cons, Option.map_some, List.mem_cons, Option.some.injEq,
          List.not_mem_nil, or_false] at stop
        rcases stop with rfl | rfl <;> cases isBlank
  | @closeParenthesis _ opener outer _ groups noRow =>
      rcases List.mem_append.mp member with flushed | stop
      · exact absurd flushed noOperand
      · rw [groups] at frames
        rcases frames.closeParenthesis noRow with ⟨lexeme, rest, -, -, left, -⟩
        cases List.mem_singleton.mp stop
        rw [lexeme.isBlank_scanned _ (by simp [left])] at isBlank
        cases isBlank
  | unbalancedArray => exact absurd member noOperand
  | unbalancedParenthesis => exact absurd member noOperand
  | endText =>
      cases List.mem_singleton.mp member
      cases isBlank
  | endErrorCode =>
      cases List.mem_singleton.mp member
      cases isBlank
  | _ => cases member

/-- The first token of a move is a blank only where nothing is in the buffer. -/
theorem Spaces.buffer_eq_nil
    {state : Scan.State} {char : Char} {tail : List Char} {move : Move} {token : Token}
    {others : List Token}
    (spaces : Spaces state char tail move (some token))
    (emits : move.emitted = (token :: others).map some)
    (isBlank : token.isBlank) :
    state.buffer = [] := by
  cases buffer : state.buffer with
  | nil => rfl
  | cons first collected =>
      have flushed : state.flush .operand = [some ⟨.operand, state.buffer, none⟩] := by
        simp [State.flush, buffer]
      have left := spaces.emits
      rw [emits, flushed] at left
      simp only [List.map_cons, List.cons_append, List.cons.injEq, Option.some.injEq] at left
      rw [left.1] at isBlank
      cases isBlank

/-- Spaces are not at the end of a text that ends visibly. -/
theorem Spaces.drop_ne_nil
    {state : Scan.State} {char : Char} {tail : List Char} {move : Move} {entry : Entry}
    (spaces : Spaces state char tail move entry)
    (visible : (char :: tail).getLast?.any Text.isBlank = false) :
    tail.drop move.extra ≠ [] := by
  intro nothing
  have whole : char :: tail = char :: tail.take move.extra := by
    rw [← List.append_nil (tail.take move.extra), ← nothing, List.take_append_drop]
  have last := List.getLast?_eq_some_getLast (List.cons_ne_nil char tail)
  have isSpace : (char :: tail).getLast (by simp) = ' ' := by
    apply spaces.spaces
    rw [← whole]
    exact List.getLast_mem _
  rw [last, isSpace] at visible
  exact absurd visible (by decide)

/-! ## The end of a text -/

/-- A move that leaves nothing goes on inside a literal or with a buffer. -/
theorem collects_of_silent
    {state : Scan.State} {char : Char} {tail : List Char} {move : Move}
    (rule : Rule state char tail move)
    (remains : move.departure = none)
    (silent : move.emitted = [])
    (mode : move.next.mode = .normal) :
    move.next.buffer ≠ [] := by
  cases rule with
  | unbalancedArray => cases remains
  | unbalancedParenthesis => cases remains
  | openLiteral => cases mode
  | _ => simp_all [Scan.separate, openArray, openParenthesis, openBracketRange]

/-- What is collected ends in the last character that was read. -/
theorem last_collected
    {state : Scan.State} {char : Char} {tail : List Char} {move : Move}
    (rule : Rule state char tail move) :
    move.next.buffer = [] ∨
      move.next.buffer.getLast? = (char :: tail.take move.extra).getLast? := by
  cases rule with
  | openLiteral _ opens =>
      cases opens with
      | text => exact .inl rfl
      | sheetPath => exact .inr rfl
      | errorCode => exact .inr rfl
  | _ => simp [Scan.separate, openBracketRange, openArray, openParenthesis, unbalanced]

/-- Scanned tokens that end visibly; apart from blanks, only what is collected may not. -/
structure EndsVisibly (token : Token) : Prop where
  noBlank : token.isBlank = false
  visible : token.kind = .operand → token.subkind = none →
    token.value.getLast?.any Text.isBlank = false

/-- The last token of a move is no operand that was only collected. -/
theorem last_emitted
    {state : Scan.State} {char : Char} {tail : List Char} {move : Move} {token : Token}
    (rule : Rule state char tail move)
    (remains : move.departure = none)
    (last : move.emitted.getLast? = some (some token)) :
    ¬ (token.kind = .operand ∧ token.subkind = none) := by
  rintro ⟨isOperand, noSubkind⟩
  cases rule with
  | separate _ _ separates =>
      simp only [Scan.separate, List.getLast?_concat, Option.some.injEq] at last
      subst last
      cases separates with
      | comma =>
          unfold commaToken at isOperand
          split at isOperand <;> cases isOperand
      | _ => cases isOperand
  | openLiteral =>
      have member := List.mem_of_getLast? last
      simp only [Scan.openLiteral, State.flush] at member
      split at member
      · cases member
      · cases List.mem_singleton.mp member
        cases isOperand
  | openArray =>
      simp only [Scan.openArray, List.getLast?_append] at last
      cases last
      cases isOperand
  | openParenthesis =>
      have opener := List.mem_singleton.mp (List.mem_of_getLast? last)
      split at opener <;> cases opener <;> cases isOperand
  | @closeArray _ row outer =>
      simp only [List.getLast?_append] at last
      cases outer with
      | nil => cases last
      | cons wrapper others =>
          cases last
          cases noSubkind
  | closeParenthesis =>
      simp only [List.getLast?_concat, Option.some.injEq] at last
      subst last
      cases noSubkind
  | unbalancedArray => cases remains
  | unbalancedParenthesis => cases remains
  | endText =>
      cases last
      cases noSubkind
  | endErrorCode =>
      cases last
      cases noSubkind
  | _ => cases last

/-! ## Runs -/

/-- What a text leaves from a state on. -/
structure Leaves (state : Scan.State) (text : List Char) (nesting : Nesting)
    (tokens : List Token) : Prop where
  segments : Segments nesting tokens
  /-- Whatever is collected or read leaves something. -/
  nonempty : (state.mode = .normal → state.buffer = [] → text ≠ []) → tokens ≠ []
  first : (state.mode = .normal → state.buffer = [] → text.head? ≠ some ' ') →
    tokens.head?.any Token.isBlank = false
  last : (if text = [] then state.buffer else text).getLast?.any Text.isBlank = false →
    ∀ token, tokens.getLast? = some token → EndsVisibly token

/-- At the end of a text, what is collected is left. -/
theorem leaves_nil
    {state : Scan.State} {nesting : Nesting} {made : List Token}
    (mode : state.mode = .normal)
    (flushes : state.flush .operand = made.map some)
    (segments : Segments nesting made) :
    Leaves state [] nesting made := by
  cases buffer : state.buffer with
  | nil =>
      have nothing : state.flush .operand = [] := by simp [State.flush, buffer]
      rw [nothing] at flushes
      cases List.map_eq_nil_iff.mp flushes.symm
      refine ⟨segments, ?_, fun _ => rfl, ?_⟩
      · intro something
        exact absurd rfl (something mode buffer)
      · intro _ token last
        cases last
  | cons char rest =>
      have flushed : state.flush .operand = [some ⟨.operand, state.buffer, none⟩] := by
        simp [State.flush, buffer]
      rw [flushed] at flushes
      rcases List.map_eq_singleton_iff.mp flushes.symm with ⟨token, rfl, same⟩
      cases same
      refine ⟨segments, by simp, fun _ => rfl, ?_⟩
      intro visible token last
      cases last
      exact ⟨rfl, fun _ _ => visible⟩

/-- What stands behind a step ends visibly when the whole text does. -/
theorem visible_behind_step
    {state : Scan.State} {char : Char} {tail : List Char} {move : Move}
    (rule : Rule state char tail move)
    (visible : (char :: tail).getLast?.any Text.isBlank = false) :
    (if tail.drop move.extra = [] then move.next.buffer else tail.drop move.extra).getLast?.any
      Text.isBlank = false := by
  have split : char :: tail = (char :: tail.take move.extra) ++ tail.drop move.extra := by
    simp
  rw [split] at visible
  split
  · next nothing =>
      rw [nothing, List.append_nil] at visible
      rcases last_collected rule with empty | same
      · simp [empty]
      · rwa [same]
  · next something =>
      rw [List.getLast?_append, List.getLast?_eq_some_getLast something] at visible
      rwa [List.getLast?_eq_some_getLast something]

/-- A step in front of what the rest of a text leaves. -/
theorem Leaves.step
    {state : Scan.State} {char : Char} {tail : List Char} {nesting inner : Nesting}
    {made others : List Token}
    (remains : (Scan.step state char tail).departure = none)
    (frames : Frames state.nesting nesting)
    (adds : Adds (Scan.step state char tail) nesting made inner)
    (later : Leaves (Scan.step state char tail).next
      (tail.drop (Scan.step state char tail).extra) inner others) :
    Leaves state (char :: tail) nesting (made ++ others) := by
  have rule := stepMode_rule state char tail
  have emits : (stepMode state char tail).emitted = made.map some := adds.emits
  have spaces : ∀ token ∈ made, token.isBlank →
      Spaces state char tail (stepMode state char tail) (some token) := by
    intro token member isBlank
    apply spaces_of_blank rule frames _ isBlank
    rw [emits]
    exact List.mem_map_of_mem member
  constructor
  · apply adds.prepends others later.segments
    -- a blank takes all spaces, so that no blank follows
    intro lastBlank
    rw [Option.any_eq_true] at lastBlank
    rcases lastBlank with ⟨token, last, isBlank⟩
    exact later.first fun _ _ => (spaces token (List.mem_of_getLast? last) isBlank).ends
  · intro _
    cases made with
    | nil =>
        apply later.nonempty
        intro mode empty
        have collected := collects_of_silent rule remains emits mode
        exact absurd empty collected
    | cons token more => simp
  · intro noSpace
    cases made with
    | nil =>
        apply later.first
        intro mode empty
        have collected := collects_of_silent rule remains emits mode
        exact absurd empty collected
    | cons token more =>
        show token.isBlank = false
        rw [Bool.eq_false_iff]
        intro isBlank
        have spaced := spaces token (by simp) isBlank
        apply noSpace spaced.mode (spaced.buffer_eq_nil emits isBlank)
        rw [List.head?_cons, spaced.spaces char (by simp)]
  · intro visible token last
    rw [if_neg (by simp)] at visible
    have visibleBehind := visible_behind_step rule visible
    cases others with
    | cons next more =>
        rw [List.getLast?_append, List.getLast?_eq_some_getLast (List.cons_ne_nil next more),
          Option.some_or, ← List.getLast?_eq_some_getLast] at last
        exact later.last visibleBehind token last
    | nil =>
        rw [List.append_nil] at last
        have lastEntry : (stepMode state char tail).emitted.getLast? = some (some token) := by
          rw [emits, List.getLast?_map, last, Option.map_some]
        refine ⟨?_, fun isOperand noSubkind =>
          absurd ⟨isOperand, noSubkind⟩ (last_emitted rule remains lastEntry)⟩
        rw [Bool.eq_false_iff]
        intro isBlank
        have spaced := spaces token (List.mem_of_getLast? last) isBlank
        exact absurd rfl (later.nonempty fun _ _ => spaced.drop_ne_nil visible)

/--
A run to the end of a text that departs nowhere and closes all groups leaves
segments, when the names it calls are callable.
-/
theorem leaves_of_reads
    {state final : Scan.State} {text rest : List Char} {moves : List Move}
    (run : Reads state text moves final rest)
    (ended : rest = [])
    (mode : final.mode = .normal)
    (closed : final.nesting = [])
    (quiet : ∀ move ∈ moves, move.departure = none)
    (isLine : IsLine text)
    (callable : ∀ name ∈ moves.filterMap calledName?, IsCallable (unmarkedName name))
    {nesting : Nesting}
    (frames : Frames state.nesting nesting)
    (collecting : Collecting state) :
    ∃ tokens : List Token,
      entries false moves ++ final.flush .operand = tokens.map some ∧
        Leaves state text nesting tokens := by
  induction run generalizing nesting with
  | @done state text =>
      subst ended
      rw [closed] at frames
      cases frames
      rcases collecting.operand mode with ⟨made, flushes, prepends⟩
      refine ⟨made, by simpa using flushes, leaves_nil mode flushes ?_⟩
      simpa using prepends [] [] .nil
  | @move state final char tail rest moves later ih =>
      rcases List.forall_mem_cons.mp quiet with ⟨remains, quietLater⟩
      rcases List.forall_mem_cons.mp isLine with ⟨inLine, isLineLater⟩
      have calledNow : ∀ name ∈ calledName? (step state char tail),
          IsCallable (unmarkedName name) := by
        intro name called
        exact callable name (List.mem_filterMap.mpr ⟨_, by simp, called⟩)
      have calledLater : ∀ name ∈ moves.filterMap calledName?, IsCallable (unmarkedName name) := by
        intro name member
        rcases List.mem_filterMap.mp member with ⟨move, found, called⟩
        exact callable name (List.mem_filterMap.mpr ⟨move, by simp [found], called⟩)
      rcases adds_step remains frames collecting (by simpa [IsLine] using inLine) calledNow with
        ⟨made, inner, adds⟩
      rcases ih ended mode closed quietLater
        (fun char member => isLineLater char (List.mem_of_mem_drop member)) calledLater
        adds.frames adds.collecting with ⟨others, left, leaves⟩
      refine ⟨made ++ others, ?_, leaves.step remains frames adds⟩
      have nothing : (step state char tail).recovered = [] :=
        (stepMode_rule state char tail).recovered_eq_nil remains
      rw [entries_cons, List.append_assoc, left, List.map_append, Move.entries, adds.emits, nothing]
      simp

/-- What a text leaves that is scanned without departure, when it calls only callable names. -/
theorem leaves_of_scan
    {text : List Char} {entries : List Entry}
    (isLine : IsLine text)
    (callable : ∀ name ∈ calledNames text, IsCallable (unmarkedName name))
    (scans : Scan.scan true text = .ok entries) :
    ∃ scanned : List Token, entries = scanned.map some ∧ Leaves .initial text [] scanned := by
  rcases scan_eq_ok_iff.mp scans with ⟨left, departs⟩
  rcases (lenient_departures_eq_nil_iff text).mp (departs rfl) with ⟨quiet, mode, closed⟩
  rcases leaves_of_reads (reads_finalState text) rfl mode closed quiet isLine callable .nil
    (collecting_of_empty rfl rfl) with ⟨scanned, made, leaves⟩
  refine ⟨scanned, ?_, leaves⟩
  rw [← left, ← made]
  simp [lenient, moves_lenient, closeLiteral, closeGroups, mode, closed, Move.entries]

end SheetFormula.RoundTrip
