import SheetFormula.Pattern.Basic
import SheetFormula.Pattern.Reader
import SheetFormula.Text.Identifier
import SheetFormula.Text.Integer

/-!
# Parsing patterns

`parse` turns pattern text into a pattern.  Parsing keeps track of the groups
that were opened: their names, the widths of those already closed, and which
of them a look-behind may refer to.

The functions that go down into groups take a bound on their depth.  Every
step of theirs reads at least one unit of text, so that a bound of a few
times the length of the text is never reached.
-/

namespace SheetFormula.Pattern

/-- What parsing knows at a place in the text. -/
structure Building where
  reader : Reader
  flags : Flags := []
  names : List (List Char × Nat) := []
  widths : List (Option Width) := []
  lookBehindLimit : Option Nat := none
  conditions : List (Nat × Nat) := []

/-- Parsing reads text, opens groups and can fail. -/
abbrev Build := StateT Building (Except Fault)

namespace Build

/-- Groups are numbered from one; this is the number of the next group. -/
def nextGroup : Build Nat := do
  return (← get).widths.length + 1

/-- Fail a number of characters before the unit in view. -/
def fail {α : Type} (reason : Reason) (back : Nat) : Build α := do
  throw ((← get).reader.fault reason back)

/-- Fail at an offset. -/
def failAt {α : Type} (reason : Reason) (place : Nat) : Build α := do
  throw ((← get).reader.faultAt reason place)

/-- Apply a reading function. -/
def read {α : Type} (reading : Reader → Except Fault (α × Reader)) : Build α := do
  let state ← get
  let (result, reader) ← (reading state.reader : Except Fault (α × Reader))
  set { state with reader := reader }
  return result

/-- The unit in view. -/
def view : Build (Option (List Char)) := do
  return (← get).reader.view

/-- The offset of the unit in view. -/
def place : Build Nat := do
  return (← get).reader.place

/-- Take the unit in view. -/
def next : Build (Option (List Char)) := do
  let unit ← view
  read fun reader => do return ((), ← reader.skip)
  return unit

/-- Take a character if it is in view. -/
def accept (char : Char) : Build Bool :=
  read fun reader => reader.accept char

/-- Whether a character is in view. -/
def sees (char : Char) : Build Bool := do
  return (← get).reader.sees char

/-- Take up to a number of characters of a class. -/
def takeUpTo (count : Nat) (inClass : Char → Bool) : Build (List Char) :=
  read fun reader => reader.takeUpTo inClass count

/-- The text up to a terminator. -/
def name (terminator : Char) (what : String) : Build (List Char) :=
  read fun reader => reader.name terminator what

/-- Go back to an offset. -/
def seek (place : Nat) : Build Unit :=
  read fun reader => do
    return ((), ← Reader.look reader.source (reader.source.drop place) place)

end Build

open Build

/-! ## Groups -/

/-- The width of a group that has been closed. -/
def Building.closedWidth? (state : Building) (number : Nat) : Option Width :=
  match number with
  | 0 => none
  | index + 1 => state.widths[index]?.join

/-- The width of a pattern under the groups closed so far. -/
def widthOf (node : Node) : Build Width := do
  let state ← get
  return node.width fun number => (state.closedWidth? number).getD ⟨0, 0⟩

/-- Open a group, which may have a name. -/
def openGroup (name : Option (List Char)) : Build Nat := do
  let number ← nextGroup
  modify fun state => { state with widths := state.widths ++ [none] }
  match name with
  | none => return number
  | some name =>
      match (← get).names.lookup name with
      | some earlier => fail (.redefinedGroup name number earlier) (name.length + 1)
      | none =>
          modify fun state => { state with names := state.names ++ [(name, number)] }
          return number

/-- Close a group that holds a given pattern. -/
def closeGroup (number : Nat) (node : Node) : Build Unit := do
  let width ← widthOf node
  modify fun state => { state with widths := state.widths.set (number - 1) (some width) }

/-- A look-behind may refer only to groups that were closed before it. -/
def checkLookBehind (number : Nat) : Build Unit := do
  let state ← get
  match state.lookBehindLimit with
  | none => return ()
  | some limit =>
      if (state.closedWidth? number).isNone then fail .openReference 0
      else if limit ≤ number then fail .lookBehindReference 0
      else return ()

/-! ## Escapes -/

/-- A pattern for one character. -/
def literal (flags : Flags) (code : Nat) : Node :=
  .set flags false [.code code]

/-- An escape that gives a code point in hexadecimal digits. -/
def hexEscape (escape : List Char) (length : Nat) : Build Nat := do
  let digits ← takeUpTo length isHexDigit
  let whole := escape ++ digits
  if digits.length ≠ length then fail (.incompleteEscape whole) whole.length
  else if 0x10FFFF < numberOf 16 digits then fail (.badEscape whole) whole.length
  else return numberOf 16 digits

/-- An escape that gives a character by its name; no names are known. -/
def nameEscape : Build Nat := do
  if ← accept '{' then
    let name ← name '}' "character name"
    fail (.undefinedCharacter name) (name.length + 4)
  else
    fail .missingBrace 0

/-- Escapes that mean the same inside and outside character classes. -/
def codeEscape? (escape : List Char) (letter : Char) : Build (Option Nat) :=
  match letter with
  | 'x' => some <$> hexEscape escape 2
  | 'u' => some <$> hexEscape escape 4
  | 'U' => some <$> hexEscape escape 8
  | 'N' => some <$> nameEscape
  | _ => return none

/-- The class that a letter stands for. -/
def category? : Char → Option ClassItem
  | 'd' => some (.category false .digit)
  | 'D' => some (.category true .digit)
  | 's' => some (.category false .space)
  | 'S' => some (.category true .space)
  | 'w' => some (.category false .word)
  | 'W' => some (.category true .word)
  | _ => none

/-- The condition that a letter stands for. -/
def anchor? : Char → Option Anchor
  | 'A' => some .textStart
  | 'b' => some .boundary
  | 'B' => some .notBoundary
  | 'Z' => some .textEnd
  | _ => none

/-- An octal number, which has to be the code of a byte. -/
def octalCode (escape : List Char) : Build Nat := do
  let code := numberOf 8 (escape.drop 1)
  if 0o377 < code then fail (.octalTooLarge escape) escape.length else return code

/-- An escape inside a character class. -/
def classEscape (escape : List Char) (letter : Char) : Build ClassItem := do
  match controlEscape? letter, category? letter with
  | some code, _ => return .code code
  | none, some item => return item
  | none, none =>
      match ← codeEscape? escape letter with
      | some code => return .code code
      | none =>
          if isOctalDigit letter then
            let digits ← takeUpTo 2 isOctalDigit
            return .code (← octalCode (escape ++ digits))
          else if letter.isAlphanum then
            fail (.badEscape escape) escape.length
          else
            return .code letter.toNat

/-- A digit behind a backslash: a reference to a group, or an octal number. -/
def digitEscape (flags : Flags) (escape : List Char) (digit : Char) : Build Node := do
  let second ← takeUpTo 1 Text.isAsciiDigit
  let third ←
    if isOctalDigit digit && !second.isEmpty && second.all isOctalDigit then
      takeUpTo 1 isOctalDigit
    else
      pure []
  let whole := escape ++ second ++ third
  if !third.isEmpty then
    return literal flags (← octalCode whole)
  else
    let number := numberOf 10 (whole.drop 1)
    if number < (← nextGroup) then
      if ((← get).closedWidth? number).isNone then fail .openReference whole.length
      else
        checkLookBehind number
        return .reference flags number
    else
      fail (.invalidReference number) (whole.length - 1)

/-- An escape outside character classes. -/
def escapeNode (flags : Flags) (escape : List Char) (letter : Char) : Build Node := do
  match anchor? letter, category? letter, controlEscape? letter with
  | some anchor, _, _ => return .anchor flags anchor
  | none, some item, _ => return .set flags false [item]
  | none, none, some code => return literal flags code
  | none, none, none =>
      match ← codeEscape? escape letter with
      | some code => return literal flags code
      | none =>
          if letter = '0' then
            let digits ← takeUpTo 2 isOctalDigit
            return literal flags (numberOf 8 digits)
          else if Text.isAsciiDigit letter then
            digitEscape flags escape letter
          else if letter.isAlpha then
            fail (.badEscape escape) escape.length
          else
            return literal flags letter.toNat

/-! ## Character classes -/

/-- A member of a class given by the unit it starts with. -/
def classItem : List Char → Build ClassItem
  | ['\\', letter] => classEscape ['\\', letter] letter
  | [char] => return .code char.toNat
  | _ => return .code 0

/-- The range between two members, which have to be characters in order. -/
def classRange (first last : List Char) (lower upper : ClassItem) : Build ClassItem :=
  match lower, upper with
  | .code lower, .code upper =>
      if upper < lower then
        fail (.badRange first last) (first.length + 1 + last.length)
      else
        return .range lower upper
  | _, _ => fail (.badRange first last) (first.length + 1 + last.length)

/-- The members of a class up to its closing bracket. -/
def classItems (start : Nat) : Nat → List ClassItem → Build (List ClassItem)
  | 0, _ => failAt .unterminatedSet start
  | bound + 1, items => do
      match ← next with
      | none => failAt .unterminatedSet start
      | some first =>
          if first = [']'] ∧ items ≠ [] then return items
          else
            let lower ← classItem first
            if ← accept '-' then
              match ← next with
              | none => failAt .unterminatedSet start
              | some [']'] => return items ++ [lower, .code '-'.toNat]
              | some last =>
                  let upper ← classItem last
                  let range ← classRange first last lower upper
                  classItems start bound (items ++ [range])
            else
              classItems start bound (items ++ [lower])

/-- A character class behind its opening bracket. -/
def classNode (flags : Flags) : Build Node := do
  let start := (← place) - 1
  let negated ← accept '^'
  let items ← classItems start ((← get).reader.source.length + 1) []
  return .set flags negated items

/-! ## Repetitions -/

/-- Bounds of a repetition in braces behind the opening one; none if it is no repetition. -/
def bracedBounds (start : Nat) : Build (Option (Nat × Option Nat)) := do
  if ← sees '}' then return none
  let length := (← get).reader.source.length
  let lower ← takeUpTo length Text.isAsciiDigit
  let upper ← if ← accept ',' then takeUpTo length Text.isAsciiDigit else pure lower
  if !(← accept '}') then
    seek start
    return none
  let least := numberOf 10 lower
  let most := numberOf 10 upper
  if !lower.isEmpty && unlimited ≤ least then throw .repetitionTooLarge
  else if upper.isEmpty then return some (least, none)
  else if unlimited ≤ most then throw .repetitionTooLarge
  else if most < least then failAt .leastAboveMost start
  else return some (least, some most)

/-- Bounds of a repetition behind its operator; none for a brace that is no operator. -/
def repetitionBounds (operator : Char) (start : Nat) : Build (Option (Nat × Option Nat)) :=
  match operator with
  | '?' => return some (0, some 1)
  | '*' => return some (0, none)
  | '+' => return some (1, none)
  | _ => bracedBounds start

/-- What is tried first, from the mark behind the operator. -/
def greedMark : Build Greed := do
  if ← accept '?' then return .lazy
  else if ← accept '+' then return .possessive
  else return .greedy

/-- Repeat the last of the items read so far, which are kept last first. -/
def repeatLast (flags : Flags) (items : List Node) (operator : Char) :
    Build (List Node) := do
  let start ← place
  match ← repetitionBounds operator start with
  | none => return literal flags operator.toNat :: items
  | some (least, most) =>
      match items with
      | [] | .anchor _ _ :: _ => failAt .nothingToRepeat (start - 1)
      | .repetition _ _ _ _ :: _ => failAt .multipleRepeat (start - 1)
      | item :: others =>
          return .repetition (← greedMark) least most item :: others

/-! ## Flags -/

/-- Flags that a group may not turn on or off for itself. -/
def isGlobalFlag (flag : Flag) : Bool :=
  flag == .template

/-- The flag of a unit; otherwise a fault, which is one for letters and one for the rest. -/
def flagOf (unit : List Char) (otherwise : Reason) : Build Flag :=
  match unit with
  | [char] =>
      match Flag.ofChar? char with
      | some flag => return flag
      | none => fail (if Text.isLetter char then .unknownFlag else otherwise) 1
  | _ => fail otherwise unit.length

/-- Flags that are turned on, from a first one to the unit that ends them. -/
def flagsOn : Nat → Flags → Flag → Build (Flags × Char)
  | 0, _, _ => fail .missingFlagEnd 0
  | bound + 1, flags, flag => do
      if flag = .locale then fail .localeFlag 0
      let all := flag :: flags
      if flag.isAlphabet && flags.any fun other => other.isAlphabet && other != flag then
        fail .conflictingFlags 0
      match ← next with
      | none => fail .missingFlagEnd 0
      | some [')'] => return (all, ')')
      | some ['-'] => return (all, '-')
      | some [':'] => return (all, ':')
      | some unit => flagsOn bound all (← flagOf unit .missingFlagEnd)

/-- Flags that are turned off, from a first one to the colon. -/
def flagsOff : Nat → Flags → Flag → Build Flags
  | 0, _, _ => fail .missingColon 0
  | bound + 1, flags, flag => do
      if flag.isAlphabet then fail .alphabetFlagOff 0
      match ← next with
      | none => fail .missingColon 0
      | some [':'] => return flag :: flags
      | some unit => flagsOff bound (flag :: flags) (← flagOf unit .missingColon)

/-- The flags of a group: turned on and off.  None if they are for the whole pattern. -/
def groupFlags (first : Option Flag) : Build (Option (Flags × Flags)) := do
  let bound := (← get).reader.source.length + 1
  let (added, stop) ←
    match first with
    | some flag => flagsOn bound [] flag
    | none => pure ([], '-')
  if stop = ')' then
    modify fun state => { state with flags := added ++ state.flags }
    return none
  if added.any isGlobalFlag then fail .globalFlagOn 1
  let removed ←
    if stop = '-' then
      match ← next with
      | none => fail .missingFlag 0
      | some unit => flagsOff bound [] (← flagOf unit .missingFlag)
    else
      pure []
  if removed.any isGlobalFlag then fail .globalFlagOff 1
  if added.any removed.contains then fail .flagOnAndOff 1
  return some (added, removed)

/-! ## Groups and sequences -/

/-- What an opening parenthesis leads to. -/
inductive Opened where
  | node (node : Node)
  | nothing
  | globalFlags

/-- How the inside of a group is kept. -/
inductive Grouping where
  | capturing (name : Option (List Char))
  | plain (added removed : Flags)
  | atomic

/-- The name of a group has to be an identifier. -/
def checkName (name : List Char) : Build Unit :=
  if Text.isIdentifier name then return ()
  else fail (.badGroupName name) (name.length + 1)

/-- A reference to a group by its name, behind the equals sign. -/
def namedReference (flags : Flags) : Build Node := do
  let name ← name ')' "group name"
  checkName name
  match (← get).names.lookup name with
  | none => fail (.unknownGroup name) (name.length + 1)
  | some number =>
      if ((← get).closedWidth? number).isNone then
        fail .openReference (name.length + 1)
      else
        checkLookBehind number
        return .reference flags number

/-- The greatest number of groups. -/
def groupLimit : Nat := 1073741823

/-- The group that a condition asks for, up to its closing parenthesis. -/
def conditionGroup : Build Nat := do
  let name ← name ')' "group name"
  if Text.isIdentifier name then
    match (← get).names.lookup name with
    | some number => return number
    | none => fail (.unknownGroup name) (name.length + 1)
  else
    match Text.integer? name with
    | none => fail (.badGroupName name) (name.length + 1)
    | some number =>
        if number < 0 then fail (.badGroupName name) (name.length + 1)
        else if number = 0 then fail .badGroupNumber (name.length + 1)
        else if (groupLimit : Int) ≤ number then
          fail (.invalidReference number.toNat) (name.length + 1)
        else
          let start := (← place) - name.length - 1
          modify fun state =>
            if (state.conditions.lookup number.toNat).isSome then state
            else { state with conditions := state.conditions ++ [(number.toNat, start)] }
          return number.toNat

/-- The parenthesis that ends a group. -/
def closeParenthesis (start : Nat) : Build Unit := do
  if !(← accept ')') then failAt .unterminatedGroup start

/-- The items of a plain pattern between delimiters, and what opens behind a parenthesis. -/
structure Inner where
  /-- Alternatives up to a closing parenthesis or the end. -/
  choices : Flags → Build Node
  /-- Items up to a bar, a closing parenthesis or the end. -/
  items : Flags → Build Node

/-- A condition on what lies ahead or behind. -/
def lookAround
    (inner : Inner)
    (flags : Flags)
    (start : Nat)
    (behind negated : Bool) :
    Build Node := do
  let saved := (← get).lookBehindLimit
  if behind && saved.isNone then
    let limit ← nextGroup
    modify fun state => { state with lookBehindLimit := some limit }
  let body ← inner.choices flags
  if behind then
    modify fun state => { state with lookBehindLimit := saved }
  closeParenthesis start
  if behind then
    let width ← widthOf body
    return .lookBehind negated width.least width.most body
  else
    return .lookAhead negated body

/-- A pattern that depends on whether a group took part. -/
def conditional (inner : Inner) (flags : Flags) (start : Nat) : Build Node := do
  let number ← conditionGroup
  checkLookBehind number
  let met ← inner.items flags
  let unmet ←
    if ← accept '|' then
      let unmet ← inner.items flags
      if ← sees '|' then fail .tooManyBranches 0
      pure unmet
    else
      pure .empty
  closeParenthesis start
  return .condition number met unmet

/-- The inside of a group and its closing parenthesis. -/
def groupBody
    (inner : Inner)
    (flags : Flags)
    (start : Nat)
    (grouping : Grouping) :
    Build Node := do
  match grouping with
  | .capturing name =>
      let number ← openGroup name
      let body ← inner.choices flags
      closeParenthesis start
      closeGroup number body
      return .group (some number) body
  | .plain added removed =>
      let body ← inner.choices (flags.change added removed)
      closeParenthesis start
      return .group none body
  | .atomic =>
      let body ← inner.choices flags
      closeParenthesis start
      return .atomic body

/-- What stands behind `(?<`. -/
def lookBehindOrFault (inner : Inner) (flags : Flags) (start : Nat) : Build Node := do
  match ← next with
  | none => fail .unexpectedEnd 0
  | some ['='] => lookAround inner flags start true false
  | some ['!'] => lookAround inner flags start true true
  | some unit => fail (.unknownExtension (['?', '<'] ++ unit)) (unit.length + 2)

/-- What stands behind `(?P`. -/
def namedExtension (inner : Inner) (flags : Flags) (start : Nat) : Build Node := do
  if ← accept '<' then
    let name ← name '>' "group name"
    checkName name
    groupBody inner flags start (.capturing (some name))
  else if ← accept '=' then
    namedReference flags
  else
    match ← next with
    | none => fail .unexpectedEnd 0
    | some unit => fail (.unknownExtension (['?', 'P'] ++ unit)) (unit.length + 2)

/-- Flags behind `(?`, for a group or for the whole pattern. -/
def flagExtension
    (inner : Inner)
    (flags : Flags)
    (start : Nat)
    (atStart : Bool)
    (first : Option Flag) :
    Build Opened := do
  match ← groupFlags first with
  | some (added, removed) =>
      return .node (← groupBody inner flags start (.plain added removed))
  | none =>
      if atStart then return .globalFlags
      else failAt .lateFlags start

/-- What stands behind `(?`. -/
def extension
    (inner : Inner)
    (flags : Flags)
    (start : Nat)
    (atStart : Bool) :
    Build Opened := do
  match ← next with
  | none => fail .unexpectedEnd 0
  | some ['P'] => return .node (← namedExtension inner flags start)
  | some [':'] => return .node (← groupBody inner flags start (.plain [] []))
  | some ['#'] =>
      let bound := (← get).reader.source.length + 1
      let closed ← read fun reader => reader.skipPast (· == [')']) bound
      if closed then return .nothing else failAt .unterminatedComment start
  | some ['='] => return .node (← lookAround inner flags start false false)
  | some ['!'] => return .node (← lookAround inner flags start false true)
  | some ['<'] => return .node (← lookBehindOrFault inner flags start)
  | some ['('] => return .node (← conditional inner flags start)
  | some ['>'] => return .node (← groupBody inner flags start .atomic)
  | some ['-'] => flagExtension inner flags start atStart none
  | some [char] =>
      match Flag.ofChar? char with
      | some flag => flagExtension inner flags start atStart (some flag)
      | none => fail (.unknownExtension ['?', char]) 2
  | some unit => fail (.unknownExtension ('?' :: unit)) (unit.length + 1)

/-- What stands behind an opening parenthesis. -/
def opened (inner : Inner) (flags : Flags) (atStart : Bool) : Build Opened := do
  let start := (← place) - 1
  if ← accept '?' then extension inner flags start atStart
  else return .node (← groupBody inner flags start (.capturing none))

/-- Blanks that mean nothing in a verbose pattern. -/
def isLayoutBlank (char : Char) : Bool :=
  char == ' ' || ('\t' ≤ char && char ≤ '\r')

mutual

/-- Alternatives; `outermost` tells those of the whole pattern. -/
def parseChoices : Nat → Bool → Bool → Flags → Build (List Node)
  | 0, _, _, _ => throw .repetitionTooLarge
  | bound + 1, outermost, first, flags => do
      let branch := Node.ofItems (← parseItems bound (outermost && first) flags []).reverse
      if ← accept '|' then
        let state ← get
        let later := if outermost then state.flags else flags
        let others ← parseChoices bound outermost false later
        return branch :: others
      else
        return [branch]

/--
Items up to a delimiter, kept last first.  Flags for the whole pattern may
stand only where `atStart` holds and no item has been read.
-/
def parseItems : Nat → Bool → Flags → List Node → Build (List Node)
  | 0, _, _, _ => throw .repetitionTooLarge
  | bound + 1, atStart, flags, items => do
      match ← view with
      | none | some ['|'] | some [')'] => return items
      | some unit =>
          let _ ← next
          let goOn (item : Node) := parseItems bound atStart flags (item :: items)
          match unit with
          | [char] =>
              if flags.contains .verbose && isLayoutBlank char then
                parseItems bound atStart flags items
              else if flags.contains .verbose && char == '#' then
                let length := (← get).reader.source.length + 1
                let _ ← read fun reader => reader.skipPast (· == ['\n']) length
                parseItems bound atStart flags items
              else
                match char with
                | '[' => goOn (← classNode flags)
                | '.' => goOn (.any flags)
                | '^' => goOn (.anchor flags .lineStart)
                | '$' => goOn (.anchor flags .lineEnd)
                | '(' =>
                    let inner : Inner :=
                      { choices := fun flags => do
                          return Node.ofChoices (← parseChoices bound false false flags)
                        items := fun flags => do
                          return Node.ofItems (← parseItems bound false flags []).reverse }
                    match ← opened inner flags (atStart && items.isEmpty) with
                    | .node node => goOn node
                    | .nothing => parseItems bound atStart flags items
                    | .globalFlags => parseItems bound atStart (← get).flags items
                | '?' | '*' | '+' | '{' =>
                    let repeated ← repeatLast flags items char
                    parseItems bound atStart flags repeated
                | char => goOn (literal flags char.toNat)
          | escape => goOn (← escapeNode flags escape (escape.getLastD '\\'))

end

/-! ## Whole patterns -/

/-- The name of a repetition in faults. -/
def Greed.operator : Greed → String
  | .greedy => "MAX_REPEAT"
  | .lazy => "MIN_REPEAT"
  | .possessive => "POSSESSIVE_REPEAT"

/-- The first part of a pattern that cannot be matched. -/
def Node.objection (isTemplate : Bool) : Node → Option Reason
  | .empty | .any _ | .set _ _ _ | .reference _ _ | .anchor _ _ => none
  | .sequence first second | .choice first second | .condition _ first second =>
      (first.objection isTemplate).or (second.objection isTemplate)
  | .repetition greed _ _ body =>
      if isTemplate then some (.repetitionInTemplate greed.operator)
      else body.objection isTemplate
  | .group _ body | .atomic body | .lookAhead _ body => body.objection isTemplate
  | .lookBehind _ least most body =>
      if unlimited < least then some .longLookBehind
      else if least ≠ most then some .variableLookBehind
      else body.objection isTemplate

/-- The whole pattern in view. -/
def wholePattern (bound : Nat) : Build Compiled := do
  let root := Node.ofChoices (← parseChoices bound true true [])
  let state ← get
  if state.flags.contains .ascii && state.flags.contains .unicode then
    throw .incompatibleAlphabets
  if (← view).isSome then fail .unbalancedParenthesis 0
  let count ← nextGroup
  match state.conditions.find? fun condition => count ≤ condition.1 with
  | some (number, place) => failAt (.invalidReference number) place
  | none =>
      match root.objection (state.flags.contains .template) with
      | some reason => throw (.invalid reason state.reader.source none)
      | none => return ⟨root, count - 1, state.names⟩

/-- Read a pattern. -/
def parse (source : List Char) : Except Fault Compiled := do
  let reader ← Reader.start source
  let bound := 4 * (source.length + 2)
  let (compiled, _) ← (wholePattern bound).run { reader := reader }
  return compiled

end SheetFormula.Pattern
