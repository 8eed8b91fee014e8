import SheetFormula.Token

/-!
# Balanced texts

A text is balanced when its parentheses and braces match each other and its
quotes, brackets and error codes are complete.  `Balanced` is the grammar of
these texts.

Whether a text is balanced can be decided in one walk over its characters with
a stack of the open groups.  A walk from the outside reads a balanced text
without a trace (`Balanced.walk_append`).  In the other direction, a walk that
ends well from a stack of open groups has read a balanced text up to each
closer of the stack (`Completes`).  So the walk accepts exactly the balanced
texts (`accepts_iff`).
-/

namespace SheetFormula.Balance

/-! ## The grammar -/

/-- Groups that nest. -/
inductive Group where
  | parenthesis
  | brace
deriving DecidableEq, Repr

/-- The character that opens a group. -/
def Group.opener : Group → Char
  | .parenthesis => '('
  | .brace => '{'

/-- The character that closes a group. -/
def Group.closer : Group → Char
  | .parenthesis => ')'
  | .brace => '}'

/-- Characters that stand for themselves outside quotes, brackets and error codes. -/
def isPlain (char : Char) : Bool :=
  !"\"'[#(){}".toList.contains char

/-- Texts between matching brackets. -/
inductive Nested : List Char → Prop where
  | nil : Nested []
  | character {char : Char} {rest : List Char}
      (noOpener : char ≠ '[')
      (noCloser : char ≠ ']')
      (later : Nested rest) :
      Nested (char :: rest)
  | bracketed {inner rest : List Char}
      (inside : Nested inner)
      (later : Nested rest) :
      Nested ('[' :: inner ++ ']' :: rest)

/-- Texts in which everything that opens is closed. -/
inductive Balanced : List Char → Prop where
  | nil : Balanced []
  | plain {char : Char} {rest : List Char}
      (plain : isPlain char)
      (later : Balanced rest) :
      Balanced (char :: rest)
  | quoted {mark : Char} {content rest : List Char}
      (isQuote : mark = '"' ∨ mark = '\'')
      (inside : mark ∉ content)
      (later : Balanced rest) :
      Balanced (mark :: content ++ mark :: rest)
  | bracketed {inner rest : List Char}
      (inside : Nested inner)
      (later : Balanced rest) :
      Balanced ('[' :: inner ++ ']' :: rest)
  | errorCode {code rest : List Char}
      (known : code ∈ errorCodes)
      (later : Balanced rest) :
      Balanced (code ++ rest)
  | group {inner rest : List Char} (group : Group)
      (inside : Balanced inner)
      (later : Balanced rest) :
      Balanced (group.opener :: inner ++ group.closer :: rest)

/-! ## Walking over a text -/

/--
What surrounds a place in a text.  Inside brackets, the number tells how many
brackets are open around the innermost one.
-/
inductive Region where
  | outside
  | quoted (mark : Char)
  | bracketed (around : Nat)
  | errorCode (beginning : List Char)
deriving DecidableEq, Repr

/-- A place in a text: what surrounds it and the groups that are open, innermost first. -/
structure Place where
  region : Region
  groups : List Group
deriving DecidableEq, Repr

/-- The place outside of everything. -/
def Place.start : Place := ⟨.outside, []⟩

/-- Close the innermost group, which has to be the given one. -/
def close (group : Group) : List Group → Option Place
  | [] => none
  | innermost :: outer => if innermost = group then some ⟨.outside, outer⟩ else none

/-- The region behind the bracket that closes the innermost one. -/
def Region.behindBracket : Nat → Region
  | 0 => .outside
  | around + 1 => .bracketed around

/-- One character outside of quotes, brackets and error codes. -/
def advanceOutside (groups : List Group) (char : Char) : Option Place :=
  match char with
  | '"' => some ⟨.quoted '"', groups⟩
  | '\'' => some ⟨.quoted '\'', groups⟩
  | '[' => some ⟨.bracketed 0, groups⟩
  | '#' => some ⟨.errorCode ['#'], groups⟩
  | '(' => some ⟨.outside, .parenthesis :: groups⟩
  | '{' => some ⟨.outside, .brace :: groups⟩
  | ')' => close .parenthesis groups
  | '}' => close .brace groups
  | _ => some ⟨.outside, groups⟩

/-- The place behind one more character; a closer without its group leads nowhere. -/
def advance (place : Place) (char : Char) : Option Place :=
  match place.region with
  | .outside => advanceOutside place.groups char
  | .quoted mark =>
      some (if char = mark then ⟨.outside, place.groups⟩ else place)
  | .bracketed around =>
      if char = '[' then some ⟨.bracketed (around + 1), place.groups⟩
      else if char = ']' then some ⟨.behindBracket around, place.groups⟩
      else some place
  | .errorCode beginning =>
      if beginning ++ [char] ∈ errorCodes then some ⟨.outside, place.groups⟩
      else some ⟨.errorCode (beginning ++ [char]), place.groups⟩

/-- The place behind a text. -/
def walk (place : Place) : List Char → Option Place
  | [] => some place
  | char :: rest => (advance place char).bind fun next => walk next rest

/-- A text is accepted when the walk over it ends outside of everything. -/
def Accepts (text : List Char) : Prop :=
  walk .start text = some .start

theorem walk_cons
    {place next : Place} {char : Char}
    (advances : advance place char = some next)
    (rest : List Char) :
    walk place (char :: rest) = walk next rest := by
  simp [walk, advances]

theorem walk_append (place : Place) (first second : List Char) :
    walk place (first ++ second) =
      (walk place first).bind fun next => walk next second := by
  induction first generalizing place with
  | nil => rfl
  | cons char rest ih =>
      cases advances : advance place char with
      | none => simp [walk, advances]
      | some next => simp [walk, advances, ih]

theorem advance_plain
    {char : Char} (plain : isPlain char) (groups : List Group) :
    advance ⟨.outside, groups⟩ char = some ⟨.outside, groups⟩ := by
  simp only [advance, advanceOutside]
  split <;> simp_all [isPlain]

/-! ## Balanced texts leave no trace -/

theorem walk_quoted
    {mark : Char} {content : List Char}
    (inside : mark ∉ content)
    (groups : List Group) (rest : List Char) :
    walk ⟨.quoted mark, groups⟩ (content ++ mark :: rest) = walk ⟨.outside, groups⟩ rest := by
  induction content with
  | nil => exact walk_cons (by simp [advance]) rest
  | cons char others ih =>
      simp only [List.mem_cons, not_or] at inside
      have stays : advance ⟨.quoted mark, groups⟩ char = some ⟨.quoted mark, groups⟩ := by
        simp [advance, Ne.symm inside.1]
      rw [List.cons_append, walk_cons stays, ih inside.2]

theorem Nested.walk_append
    {inner : List Char}
    (nested : Nested inner)
    (around : Nat) (groups : List Group) (rest : List Char) :
    walk ⟨.bracketed around, groups⟩ (inner ++ rest) =
      walk ⟨.bracketed around, groups⟩ rest := by
  induction nested generalizing around rest with
  | nil => rfl
  | @character char others noOpener noCloser _ ih =>
      have stays : advance ⟨.bracketed around, groups⟩ char =
          some ⟨.bracketed around, groups⟩ := by
        simp [advance, noOpener, noCloser]
      rw [List.cons_append, walk_cons stays, ih]
  | @bracketed inner others _ _ ihInside ihLater =>
      have opens : advance ⟨.bracketed around, groups⟩ '[' =
          some ⟨.bracketed (around + 1), groups⟩ := by
        simp [advance]
      have closes : advance ⟨.bracketed (around + 1), groups⟩ ']' =
          some ⟨.bracketed around, groups⟩ := by
        simp [advance, Region.behindBracket]
      rw [List.cons_append, List.cons_append, walk_cons opens, List.append_assoc, ihInside,
        List.cons_append, walk_cons closes, ihLater]

theorem walk_errorCode
    {code : List Char}
    (known : code ∈ errorCodes)
    (groups : List Group) (rest : List Char) :
    walk ⟨.outside, groups⟩ (code ++ rest) = walk ⟨.outside, groups⟩ rest := by
  have alone : walk ⟨.outside, groups⟩ code = some ⟨.outside, groups⟩ := by
    simp only [errorCodes, List.map_cons, List.map_nil, List.mem_cons, List.not_mem_nil,
      or_false] at known
    rcases known with rfl | rfl | rfl | rfl | rfl | rfl | rfl <;> rfl
  rw [walk_append, alone, Option.bind_some]

theorem advance_opener (group : Group) (groups : List Group) :
    advance ⟨.outside, groups⟩ group.opener = some ⟨.outside, group :: groups⟩ := by
  cases group <;> rfl

theorem advance_closer (group : Group) (groups : List Group) :
    advance ⟨.outside, group :: groups⟩ group.closer = some ⟨.outside, groups⟩ := by
  cases group <;> rfl

/-- A balanced text changes nothing about what surrounds it. -/
theorem Balanced.walk_append
    {text : List Char}
    (balanced : Balanced text)
    (groups : List Group) (rest : List Char) :
    walk ⟨.outside, groups⟩ (text ++ rest) = walk ⟨.outside, groups⟩ rest := by
  induction balanced generalizing groups rest with
  | nil => rfl
  | plain plain _ ih => rw [List.cons_append, walk_cons (advance_plain plain groups), ih]
  | @quoted mark content others isQuote inside _ ih =>
      have opens : advance ⟨.outside, groups⟩ mark = some ⟨.quoted mark, groups⟩ := by
        rcases isQuote with rfl | rfl <;> rfl
      rw [List.cons_append, List.cons_append, walk_cons opens, List.append_assoc,
        List.cons_append, walk_quoted inside, ih]
  | @bracketed inner others inside _ ih =>
      have opens : advance ⟨.outside, groups⟩ '[' = some ⟨.bracketed 0, groups⟩ := rfl
      have closes : advance ⟨.bracketed 0, groups⟩ ']' = some ⟨.outside, groups⟩ := by
        simp [advance, Region.behindBracket]
      rw [List.cons_append, List.cons_append, walk_cons opens, List.append_assoc,
        inside.walk_append, List.cons_append, walk_cons closes, ih]
  | errorCode known _ ih => rw [List.append_assoc, walk_errorCode known, ih]
  | group group _ _ ihInside ihLater =>
      rw [List.cons_append, List.cons_append, walk_cons (advance_opener group groups),
        List.append_assoc, ihInside, List.cons_append,
        walk_cons (advance_closer group groups), ihLater]

/-! ## Accepted walks have read balanced texts -/

theorem walk_cons_eq_some
    {place final : Place} {char : Char} {rest : List Char}
    (walked : walk place (char :: rest) = some final) :
    ∃ next, advance place char = some next ∧ walk next rest = some final :=
  Option.bind_eq_some_iff.mp walked

/-- A walk that leaves a quoted text has read the closing quote. -/
theorem walk_quoted_inversion
    {mark : Char} {groups : List Group} {text : List Char}
    (walked : walk ⟨.quoted mark, groups⟩ text = some .start) :
    ∃ content rest,
      text = content ++ mark :: rest ∧ mark ∉ content ∧
        walk ⟨.outside, groups⟩ rest = some .start := by
  induction text with
  | nil => simp [walk, Place.start] at walked
  | cons char others ih =>
      obtain ⟨next, advances, later⟩ := walk_cons_eq_some walked
      simp only [advance, Option.some.injEq] at advances
      subst advances
      by_cases closes : char = mark
      · rw [if_pos closes] at later
        exact ⟨[], others, by simp [closes], by simp, later⟩
      · rw [if_neg closes] at later
        obtain ⟨content, rest, rfl, inside, after⟩ := ih later
        exact ⟨char :: content, rest, rfl, by simp [Ne.symm closes, inside], after⟩

/-- A walk that leaves an error code has read all of it. -/
theorem walk_errorCode_inversion
    {beginning : List Char} {groups : List Group} {text : List Char}
    (walked : walk ⟨.errorCode beginning, groups⟩ text = some .start) :
    ∃ ending rest,
      text = ending ++ rest ∧ beginning ++ ending ∈ errorCodes ∧
        walk ⟨.outside, groups⟩ rest = some .start := by
  induction text generalizing beginning with
  | nil => simp [walk, Place.start] at walked
  | cons char others ih =>
      obtain ⟨next, advances, later⟩ := walk_cons_eq_some walked
      simp only [advance] at advances
      by_cases complete : beginning ++ [char] ∈ errorCodes
      · rw [if_pos complete, Option.some.injEq] at advances
        subst advances
        exact ⟨[char], others, rfl, complete, later⟩
      · rw [if_neg complete, Option.some.injEq] at advances
        subst advances
        obtain ⟨ending, rest, rfl, known, after⟩ := ih later
        exact ⟨char :: ending, rest, rfl, by simpa using known, after⟩

/-- A walk that leaves the innermost bracket has read a nested text and the closing bracket. -/
theorem walk_bracketed_inversion
    {around : Nat} {groups : List Group} {text : List Char}
    (walked : walk ⟨.bracketed around, groups⟩ text = some .start) :
    ∃ inner rest,
      text = inner ++ ']' :: rest ∧ Nested inner ∧
        walk ⟨.behindBracket around, groups⟩ rest = some .start := by
  -- the text behind an inner bracket is shorter, but no tail of the list at hand
  induction length : text.length using Nat.strongRecOn generalizing text around with
  | ind bound ih =>
    subst length
    cases text with
    | nil => simp [walk, Place.start] at walked
    | cons char others =>
        obtain ⟨next, advances, later⟩ := walk_cons_eq_some walked
        simp only [advance] at advances
        by_cases opens : char = '['
        · rw [if_pos opens, Option.some.injEq] at advances
          subst advances opens
          obtain ⟨first, middle, rfl, firstNested, between⟩ :=
            ih others.length (by simp) later rfl
          obtain ⟨second, rest, rfl, secondNested, after⟩ :=
            ih middle.length (by grind) between rfl
          exact ⟨'[' :: first ++ ']' :: second, rest, by simp,
            .bracketed firstNested secondNested, after⟩
        · by_cases closes : char = ']'
          · rw [if_neg opens, if_pos closes, Option.some.injEq] at advances
            subst advances closes
            exact ⟨[], others, rfl, .nil, later⟩
          · rw [if_neg opens, if_neg closes, Option.some.injEq] at advances
            subst advances
            obtain ⟨inner, rest, rfl, nested, after⟩ :=
              ih others.length (by simp) later rfl
            exact ⟨char :: inner, rest, rfl, .character opens closes nested, after⟩

/--
Texts that close a list of open groups: a balanced text before each closer,
and one behind the last of them.
-/
inductive Completes : List Group → List Char → Prop where
  | outermost {text : List Char}
      (balanced : Balanced text) :
      Completes [] text
  | closing {group : Group} {groups : List Group} {inner rest : List Char}
      (inside : Balanced inner)
      (later : Completes groups rest) :
      Completes (group :: groups) (inner ++ group.closer :: rest)

/-- A beginning that keeps texts balanced can be put before a completing text. -/
theorem Completes.prepend
    {beginning : List Char} {groups : List Group} {text : List Char}
    (completes : Completes groups text)
    (keeps : ∀ {rest}, Balanced rest → Balanced (beginning ++ rest)) :
    Completes groups (beginning ++ text) := by
  cases completes with
  | outermost balanced => exact .outermost (keeps balanced)
  | closing inside later =>
      rw [← List.append_assoc]
      exact .closing (keeps inside) later

/-- What one character outside of quotes, brackets and error codes can do. -/
inductive AdvancesOutside : List Group → Char → Place → Prop where
  | plain {groups : List Group} {char : Char}
      (plain : isPlain char) :
      AdvancesOutside groups char ⟨.outside, groups⟩
  | quote {groups : List Group} {mark : Char}
      (isQuote : mark = '"' ∨ mark = '\'') :
      AdvancesOutside groups mark ⟨.quoted mark, groups⟩
  | bracket {groups : List Group} :
      AdvancesOutside groups '[' ⟨.bracketed 0, groups⟩
  | errorCode {groups : List Group} :
      AdvancesOutside groups '#' ⟨.errorCode ['#'], groups⟩
  | opener {groups : List Group} (group : Group) :
      AdvancesOutside groups group.opener ⟨.outside, group :: groups⟩
  | closer {groups : List Group} (group : Group) :
      AdvancesOutside (group :: groups) group.closer ⟨.outside, groups⟩

private theorem advancesOutside_of_close
    {group : Group} {groups : List Group} {next : Place}
    (closes : close group groups = some next) :
    AdvancesOutside groups group.closer next := by
  cases groups with
  | nil => simp [close] at closes
  | cons innermost outer =>
      by_cases same : innermost = group
      · simp only [close, if_pos same, Option.some.injEq] at closes
        subst closes same
        exact .closer innermost
      · simp [close, same] at closes

theorem advancesOutside_of_eq_some
    {groups : List Group} {char : Char} {next : Place}
    (advances : advanceOutside groups char = some next) :
    AdvancesOutside groups char next := by
  unfold advanceOutside at advances
  split at advances
  · cases advances
    exact .quote (.inl rfl)
  · cases advances
    exact .quote (.inr rfl)
  · cases advances
    exact .bracket
  · cases advances
    exact .errorCode
  · cases advances
    exact .opener .parenthesis
  · cases advances
    exact .opener .brace
  · exact advancesOutside_of_close advances
  · exact advancesOutside_of_close advances
  · cases advances
    refine .plain ?_
    simp_all [isPlain]

/-- A walk that ends well has read a text that closes the groups it began with. -/
theorem completes_of_walk
    {groups : List Group} {text : List Char}
    (walked : walk ⟨.outside, groups⟩ text = some .start) :
    Completes groups text := by
  -- behind a literal the walk goes on with a shorter text, so the length is what decreases
  induction length : text.length using Nat.strongRecOn generalizing text groups with
  | ind bound ih =>
    subst length
    cases text with
    | nil =>
        simp only [walk, Place.start, Option.some.injEq, Place.mk.injEq] at walked
        rw [walked.2]
        exact .outermost .nil
    | cons char others =>
        obtain ⟨next, advances, later⟩ := walk_cons_eq_some walked
        cases advancesOutside_of_eq_some advances with
        | plain plain =>
            have completes := ih others.length (by simp) later rfl
            have keeps : ∀ {text}, Balanced text → Balanced ([char] ++ text) :=
              fun balanced => .plain plain balanced
            exact completes.prepend keeps
        | quote isQuote =>
            obtain ⟨content, rest, rfl, inside, after⟩ := walk_quoted_inversion later
            have completes := ih rest.length (by grind) after rfl
            have keeps : ∀ {text}, Balanced text →
                Balanced (char :: content ++ [char] ++ text) := by
              intro text balanced
              simpa using Balanced.quoted isQuote inside balanced
            simpa using completes.prepend keeps
        | bracket =>
            obtain ⟨inner, rest, rfl, nested, after⟩ := walk_bracketed_inversion later
            have completes := ih rest.length (by grind) after rfl
            have keeps : ∀ {text}, Balanced text →
                Balanced ('[' :: inner ++ [']'] ++ text) := by
              intro text balanced
              simpa using Balanced.bracketed nested balanced
            simpa using completes.prepend keeps
        | errorCode =>
            obtain ⟨ending, rest, rfl, known, after⟩ := walk_errorCode_inversion later
            have completes := ih rest.length (by grind) after rfl
            have keeps : ∀ {text}, Balanced text → Balanced ('#' :: ending ++ text) :=
              fun balanced => .errorCode known balanced
            exact completes.prepend keeps
        | opener group =>
            -- the rest closes the new group first and then the ones before it
            cases ih others.length (by simp) later rfl with
            | @closing _ _ inner rest inside completes =>
                have keeps : ∀ {text}, Balanced text →
                    Balanced (group.opener :: inner ++ [group.closer] ++ text) := by
                  intro text balanced
                  simpa using Balanced.group group inside balanced
                simpa using completes.prepend keeps
        | closer group =>
            have completes := ih others.length (by simp) later rfl
            exact .closing .nil completes

/-- The walk accepts exactly the balanced texts. -/
theorem accepts_iff (text : List Char) : Accepts text ↔ Balanced text := by
  constructor
  · intro accepted
    cases completes_of_walk accepted with
    | outermost balanced => exact balanced
  · intro balanced
    have read := balanced.walk_append [] []
    rw [List.append_nil] at read
    exact read

end SheetFormula.Balance
