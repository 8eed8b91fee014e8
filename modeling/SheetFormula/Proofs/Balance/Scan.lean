import SheetFormula.Proofs.Balance.Grammar
import SheetFormula.Proofs.Scan.Departures

/-!
# Strict scans accept the balanced texts

The scanner follows the walk that decides whether a text is balanced.  The
mode of the scanner is the region of the place, and its nesting is the list of
open groups: an array literal is a row in its wrapper, every other opener is a
parenthesis (`Tracks`).  A step that departs is a closer that leads nowhere.

A call with the name of an array row cannot be told from an array literal.
Texts that contain such a call are set aside; among all others, the strict
scan succeeds on the balanced ones.
-/

namespace SheetFormula.Balance

open SheetFormula.Scan

/-! ## The place of a state -/

/-- The open groups that a nesting stands for. -/
inductive Holds : Nesting → List Group → Prop where
  | nil : Holds [] []
  | parenthesis {opener : Token} {nesting : Nesting} {groups : List Group}
      (noRow : opener.isArrayRow = false)
      (outer : Holds nesting groups) :
      Holds (opener :: nesting) (.parenthesis :: groups)
  | brace {row wrapper : Token} {nesting : Nesting} {groups : List Group}
      (isRow : row.isArrayRow)
      (outer : Holds nesting groups) :
      Holds (row :: wrapper :: nesting) (.brace :: groups)

/-- The region that a state of the scanner is in. -/
def regionOf (state : State) : Region :=
  match state.mode with
  | .normal => .outside
  | .inside .text => .quoted '"'
  | .inside .sheetPath => .quoted '\''
  | .inside .bracketRange => .bracketed (state.bracketDepth - 1)
  | .inside .errorCode => .errorCode state.buffer

/-- The place that a state of the scanner stands for. -/
structure Tracks (state : State) (place : Place) : Prop where
  region : place.region = regionOf state
  groups : Holds state.nesting place.groups
  /-- Inside brackets at least one of them is open. -/
  depth : state.mode = .inside .bracketRange → 0 < state.bracketDepth

theorem tracks_initial : Tracks .initial .start where
  region := rfl
  groups := .nil
  depth := by simp [State.initial]

theorem regionOf_eq_outside_iff (state : State) :
    regionOf state = .outside ↔ state.mode = .normal := by
  unfold regionOf
  split <;> simp_all

theorem Holds.eq_nil_iff
    {nesting : Nesting} {groups : List Group}
    (holds : Holds nesting groups) :
    groups = [] ↔ nesting = [] := by
  cases holds <;> simp

/-- A closing brace leads nowhere when no array row is innermost. -/
theorem Holds.close_brace
    {nesting : Nesting} {groups : List Group}
    (holds : Holds nesting groups)
    (noRow : nesting.head?.any Token.isArrayRow = false) :
    close .brace groups = none := by
  cases holds with
  | nil => rfl
  | parenthesis => rfl
  | brace isRow => simp [isRow] at noRow

/-- A closing parenthesis leads nowhere when an array row is innermost, or nothing. -/
theorem Holds.close_parenthesis
    {nesting : Nesting} {groups : List Group}
    (holds : Holds nesting groups)
    (noGroup : nesting.head?.all Token.isArrayRow) :
    close .parenthesis groups = none := by
  cases holds with
  | nil => rfl
  | parenthesis noRow => simp [noRow] at noGroup
  | brace => rfl

theorem tracks_regionOf
    {state : State} {groups : List Group}
    (holds : Holds state.nesting groups)
    (depth : state.mode = .inside .bracketRange → 0 < state.bracketDepth) :
    Tracks state ⟨regionOf state, groups⟩ :=
  ⟨rfl, holds, depth⟩

theorem tracks_of_normal
    {state : State} {groups : List Group}
    (mode : state.mode = .normal)
    (holds : Holds state.nesting groups) :
    Tracks state ⟨.outside, groups⟩ where
  region := ((regionOf_eq_outside_iff state).mpr mode).symm
  groups := holds
  depth := by simp [mode]

/-- The scanner has come to an end of everything when the walk has. -/
theorem Tracks.eq_start_iff
    {state : State} {place : Place}
    (tracks : Tracks state place) :
    place = .start ↔ state.mode = .normal ∧ state.nesting = [] := by
  rw [← tracks.groups.eq_nil_iff, ← regionOf_eq_outside_iff, ← tracks.region]
  obtain ⟨region, groups⟩ := place
  simp [Place.start]

/-! ## Steps -/

theorem walk_plain
    {text : List Char}
    (plain : ∀ char ∈ text, isPlain char)
    (groups : List Group) :
    walk ⟨.outside, groups⟩ text = some ⟨.outside, groups⟩ := by
  induction text with
  | nil => rfl
  | cons char rest ih =>
      rw [walk_cons (advance_plain (plain char (by simp)) groups)]
      exact ih fun other member => plain other (by simp [member])

theorem isPlain_of_isInfixChar {char : Char} (isOperator : isInfixChar char) :
    isPlain char :=
  check_infixChar isPlain (by decide) isOperator

/-- Delimiters that are tokens themselves are plain characters. -/
theorem isPlain_of_separates
    {nesting : Nesting} {char : Char} {tail : List Char} {token : Token} {extra : Nat}
    (separates : Separates nesting char tail token extra) :
    ∀ other ∈ char :: tail.take extra, isPlain other := by
  cases separates with
  | pair found =>
      unfold pairOperator? at found
      split at found
      · simp [isPlain]
      · simp [isPlain]
      · simp [isPlain]
      · cases found
  | blank =>
      rw [take_spaces, ← List.replicate_succ]
      intro other member
      rw [List.eq_of_mem_replicate member]
      decide
  | operator _ isOperator => simpa using isPlain_of_isInfixChar isOperator
  | _ => simp [isPlain]

/--
A move and the walk over the text it reads: they go on together, or the move
departs and the walk leads nowhere.
-/
inductive Follows (move : Move) (place : Place) (text : List Char) : Prop where
  | goesOn {next : Place}
      (remains : move.departure = none)
      (walked : walk place text = some next)
      (tracks : Tracks move.next next)
  | stops {departure : Departure}
      (departs : move.departure = some departure)
      (walked : walk place text = none)

/-- A move outside literals that keeps the groups has read plain characters. -/
theorem follows_of_plain
    {state : State} {move : Move} {groups : List Group} {text : List Char}
    (holds : Holds state.nesting groups)
    (plain : ∀ char ∈ text, isPlain char)
    (remains : move.departure = none)
    (mode : move.next.mode = .normal)
    (nesting : move.next.nesting = state.nesting) :
    Follows move ⟨.outside, groups⟩ text :=
  .goesOn remains (walk_plain plain groups) (tracks_of_normal mode (nesting ▸ holds))

/-- Outside literals the scanner follows the walk. -/
theorem follows_of_normal
    {state : State} {char : Char} {tail : List Char} {move : Move} {groups : List Group}
    (rule : Rule state char tail move)
    (mode : state.mode = .normal)
    (holds : Holds state.nesting groups)
    (noRowCall : char = '(' → state.buffer ≠ arrayRowText) :
    Follows move ⟨.outside, groups⟩ (char :: tail.take move.extra) := by
  cases rule with
  | collect _ plain =>
      refine follows_of_plain holds ?_ rfl mode rfl
      rcases plain with noDelimiter | ⟨isSign, _⟩
      · simp_all [isDelimiter, isPlain]
      · rcases isSign with rfl | rfl <;> simp [isPlain]
  | separate _ _ separates =>
      exact follows_of_plain holds (isPlain_of_separates separates) rfl mode rfl
  | openLiteral _ opens =>
      cases opens with
      | text => exact .goesOn rfl rfl ⟨rfl, holds, by simp [openLiteral]⟩
      | sheetPath => exact .goesOn rfl rfl ⟨rfl, holds, by simp [openLiteral]⟩
      | errorCode => exact .goesOn rfl rfl ⟨rfl, holds, by simp [openLiteral]⟩
  | openBracketRange => exact .goesOn rfl rfl ⟨rfl, holds, by simp [openBracketRange]⟩
  | openArray => exact .goesOn rfl rfl (tracks_of_normal mode (.brace (by decide) holds))
  | openParenthesis =>
      refine .goesOn rfl rfl (tracks_of_normal mode (.parenthesis ?_ holds))
      have noRow := noRowCall rfl
      split <;> simp [Token.isArrayRow, noRow]
  | @closeArray _ row outer _ nesting isRow =>
      rw [nesting] at holds
      cases holds with
      | parenthesis noRow => simp [isRow] at noRow
      | brace _ holds => exact .goesOn rfl rfl (tracks_of_normal mode holds)
  | @closeParenthesis _ opener outer _ nesting noRow =>
      rw [nesting] at holds
      cases holds with
      | brace isRow => simp [isRow] at noRow
      | parenthesis _ holds => exact .goesOn rfl rfl (tracks_of_normal mode holds)
  | unbalancedArray _ noRow =>
      exact .stops rfl (by simp [walk, advance, advanceOutside, holds.close_brace noRow])
  | unbalancedParenthesis _ noGroup =>
      exact .stops rfl (by simp [walk, advance, advanceOutside, holds.close_parenthesis noGroup])
  | _ => simp_all

/-- Inside literals the scanner follows the walk. -/
theorem follows_of_literal
    {state : State} {char : Char} {tail : List Char} {move : Move} {place : Place}
    {literal : Literal}
    (rule : Rule state char tail move)
    (mode : state.mode = .inside literal)
    (tracks : Tracks state place) :
    Follows move place (char :: tail.take move.extra) := by
  obtain ⟨region, groups⟩ := place
  obtain ⟨rfl, holds, depth⟩ := tracks
  cases rule with
  | escapedQuote isText =>
      -- a quote written twice leaves the quoted text and enters it again
      refine .goesOn rfl ?_ (tracks_regionOf holds (by simp [isText]))
      simp [walk, advance, advanceOutside, regionOf, isText]
  | endText isText =>
      refine .goesOn rfl ?_ (tracks_of_normal rfl holds)
      simp [walk, advance, regionOf, isText]
  | textCharacter isText noQuote =>
      refine .goesOn rfl ?_ (tracks_regionOf holds (by simp [isText]))
      simp [walk, advance, regionOf, isText, noQuote]
  | escapedApostrophe isPath =>
      refine .goesOn rfl ?_ (tracks_regionOf holds (by simp [isPath]))
      simp [walk, advance, advanceOutside, regionOf, isPath]
  | endSheetPath isPath =>
      refine .goesOn rfl ?_ (tracks_of_normal rfl holds)
      simp [walk, advance, regionOf, isPath]
  | sheetPathCharacter isPath noQuote =>
      refine .goesOn rfl ?_ (tracks_regionOf holds (by simp [isPath]))
      simp [walk, advance, regionOf, isPath, noQuote]
  | innerBracket isRange =>
      refine .goesOn rfl ?_ (tracks_regionOf holds (by simp))
      obtain ⟨around, opened⟩ : ∃ around, state.bracketDepth = around + 1 :=
        Nat.exists_eq_succ_of_ne_zero (Nat.ne_of_gt (depth isRange))
      simp [walk, advance, regionOf, isRange, opened]
  | endInnerBracket isRange inner =>
      refine .goesOn rfl ?_ (tracks_regionOf holds fun _ => ?_)
      · obtain ⟨around, opened⟩ : ∃ around, state.bracketDepth = around + 2 :=
          ⟨state.bracketDepth - 2, by omega⟩
        simp [walk, advance, regionOf, isRange, opened, Region.behindBracket]
      · show 0 < state.bracketDepth - 1
        omega
  | endBracketRange isRange outermost =>
      refine .goesOn rfl ?_ (tracks_of_normal rfl holds)
      have last : state.bracketDepth - 1 = 0 := by omega
      simp [walk, advance, regionOf, isRange, last, Region.behindBracket]
  | bracketCharacter isRange noOpener noCloser =>
      refine .goesOn rfl ?_ (tracks_regionOf holds depth)
      simp [walk, advance, regionOf, isRange, noOpener, noCloser]
  | endErrorCode isCode complete =>
      refine .goesOn rfl ?_ (tracks_of_normal rfl holds)
      simp [walk, advance, regionOf, isCode, complete]
  | errorCodeCharacter isCode incomplete =>
      refine .goesOn rfl ?_ (tracks_regionOf holds (by simp [isCode]))
      simp [walk, advance, regionOf, isCode, incomplete]
  | _ => simp_all

/-! ## Runs -/

/-- Before a parenthesis the name of an array row is collected only where it is called. -/
theorem buffer_ne_of_no_row_call
    {state : State} {read : List Char} {entries : List Entry} {tail : List Char}
    (before : Scanned read entries state)
    (mode : state.mode = .normal)
    (noRowCall : ¬ "ARRAYROW(".toList <:+: read ++ '(' :: tail) :
    state.buffer ≠ arrayRowText := by
  intro rowName
  have unquoted : state.buffer.head? ≠ some '\'' := by
    simp [rowName, arrayRowText_eq]
  obtain ⟨earlier, rfl⟩ := before.ends_in_buffer mode unquoted
  refine noRowCall ⟨earlier, tail, ?_⟩
  simp [rowName, arrayRowText_eq]

/-- A step follows the walk unless it opens a call with the name of an array row. -/
theorem follows_step
    {state : State} {place : Place} {read : List Char} {entries : List Entry}
    {char : Char} {tail : List Char}
    (tracks : Tracks state place)
    (before : Scanned read entries state)
    (noRowCall : ¬ "ARRAYROW(".toList <:+: read ++ char :: tail) :
    Follows (step state char tail) place
      (char :: tail.take (step state char tail).extra) := by
  have rule := stepMode_rule state char tail
  have follows : Follows (stepMode state char tail) place
      (char :: tail.take (stepMode state char tail).extra) := by
    cases mode : state.mode with
    | inside literal => exact follows_of_literal rule mode tracks
    | normal =>
        obtain ⟨region, groups⟩ := place
        obtain rfl : region = .outside :=
          tracks.region.trans ((regionOf_eq_outside_iff state).mpr mode)
        refine follows_of_normal rule mode tracks.groups ?_
        intro opens
        subst opens
        exact buffer_ne_of_no_row_call before mode noRowCall
  -- the position plays no part in where the scanner is
  cases follows with
  | goesOn remains walked tracks =>
      exact .goesOn remains walked ⟨tracks.region, tracks.groups, tracks.depth⟩
  | stops departs walked => exact .stops departs walked

/-- A run to the end of a text follows the walk over it. -/
theorem walk_of_reads
    {state final : State} {remaining rest : List Char} {moves : List Move}
    (run : Reads state remaining moves final rest)
    (ended : rest = [])
    {read : List Char} {entries : List Entry} {place : Place}
    (tracks : Tracks state place)
    (before : Scanned read entries state)
    (noRowCall : ¬ "ARRAYROW(".toList <:+: read ++ remaining) :
    match walk place remaining with
    | none => ∃ move ∈ moves, move.departure ≠ none
    | some last => (∀ move ∈ moves, move.departure = none) ∧ Tracks final last := by
  induction run generalizing read entries place with
  | done =>
      subst ended
      exact ⟨by simp, tracks⟩
  | @move state final char tail rest moves later ih =>
      have split : char :: tail =
          (char :: tail.take (step state char tail).extra) ++
            tail.drop (step state char tail).extra := by
        rw [List.cons_append, List.take_append_drop]
      cases follows_step tracks before noRowCall with
      | @stops departure departs walked =>
          rw [split, walk_append, walked]
          exact ⟨step state char tail, by simp, by simp [departs]⟩
      | @goesOn next remains walked tracks =>
          rw [split, walk_append, walked, Option.bind_some]
          rw [split, ← List.append_assoc] at noRowCall
          have later := ih ended tracks (before.step char tail) noRowCall
          split at later
          · next walked =>
              obtain ⟨move, member, departs⟩ := later
              exact ⟨move, by simp [member], departs⟩
          · next last walked =>
              obtain ⟨others, tracks⟩ := later
              exact ⟨by simpa [remains] using others, tracks⟩

/--
Strict scans accept exactly the balanced texts, among those that do not call
the name of an array row.
-/
theorem strict_succeeds_iff_balanced
    (text : List Char)
    (noRowCall : ¬ "ARRAYROW(".toList <:+: text) :
    (∃ entries, strict text = .ok entries) ↔ Balanced text := by
  have succeeds : (∃ entries, strict text = .ok entries) ↔ (lenient text).departures = [] := by
    rw [strict_eq]
    cases (lenient text).departures <;> simp
  rw [succeeds, lenient_departures_eq_nil_iff, ← accepts_iff, Accepts]
  have followed :=
    walk_of_reads (reads_finalState text) rfl tracks_initial scanned_initial noRowCall
  split at followed
  · next walked =>
      obtain ⟨move, member, departs⟩ := followed
      simp only [walked, reduceCtorEq, iff_false]
      rintro ⟨quiet, -⟩
      exact departs (quiet move member)
  · next last walked =>
      obtain ⟨quiet, tracks⟩ := followed
      rw [walked, Option.some.injEq, tracks.eq_start_iff]
      exact and_iff_right quiet

/-- An array, a quoted sheet, nested brackets, a quoted parenthesis and an error code. -/
theorem strict_succeeds_on_call :
    ¬ "ARRAYROW(".toList <:+: "F({1;2},'a b'!A1,T[[#All]],\"(\",#N/A)".toList ∧
      ∃ entries, strict "F({1;2},'a b'!A1,T[[#All]],\"(\",#N/A)".toList = .ok entries := by
  have noRowCall :
      ¬ "ARRAYROW(".toList <:+: "F({1;2},'a b'!A1,T[[#All]],\"(\",#N/A)".toList := by
    intro called
    have member : 'W' ∈ "F({1;2},'a b'!A1,T[[#All]],\"(\",#N/A)".toList :=
      called.subset (by decide +kernel)
    exact absurd member (by decide +kernel)
  have accepted : Accepts "F({1;2},'a b'!A1,T[[#All]],\"(\",#N/A)".toList := by
    unfold Accepts
    decide +kernel
  exact ⟨noRowCall,
    (strict_succeeds_iff_balanced _ noRowCall).mpr ((accepts_iff _).mp accepted)⟩

end SheetFormula.Balance
