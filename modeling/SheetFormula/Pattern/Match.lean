import SheetFormula.Pattern.Basic
import SheetFormula.Text.Blank
import SheetFormula.Text.Digit
import SheetFormula.Text.LetterCase
import SheetFormula.Text.Word

/-!
# Matching patterns

A pattern is matched from the left, trying its ways in order and going back
to the last choice when the rest does not match.  `Node.run` takes what is to
happen behind the pattern as a function; it follows the structure of the
pattern, and a repetition is a loop over the function of its body.
-/

namespace SheetFormula.Pattern

/-! ## Characters -/

/-- Whether a character belongs to a class with a letter of its own. -/
def Category.contains (isAscii : Bool) (category : Category) (char : Char) : Bool :=
  match category with
  | .digit => if isAscii then Text.isAsciiDigit char else Text.isDigit char
  | .space =>
      if isAscii then char == ' ' || ('\t' ≤ char && char ≤ '\r') else Text.isBlank char
  | .word => if isAscii then Text.isAsciiWord char else Text.isWord char

/-- The characters that count as a character when case is ignored. -/
def variants (isAscii : Bool) (char : Char) : List Char :=
  if isAscii then [char.toLower, char.toUpper] else Text.caseVariants char

/-- Whether a member of a class holds one of some characters. -/
def ClassItem.holds (isAscii : Bool) (chars : List Char) : ClassItem → Bool
  | .code wanted => chars.any fun char => char.toNat == wanted
  | .range first last => chars.any fun char => first ≤ char.toNat && char.toNat ≤ last
  | .category negated wanted =>
      chars.head?.any fun char => wanted.contains isAscii char != negated

/-- Whether a class holds a character under some flags. -/
def classHolds
    (flags : Flags)
    (negated : Bool)
    (items : List ClassItem)
    (char : Char) :
    Bool :=
  let isAscii := flags.contains .ascii
  let chars := if flags.contains .ignoreCase then variants isAscii char else [char]
  items.any (ClassItem.holds isAscii chars) != negated

/-- Whether two characters are taken for the same in a reference. -/
def sameInReference (flags : Flags) (left right : Char) : Bool :=
  if flags.contains .ignoreCase then
    if flags.contains .ascii then left.toLower == right.toLower
    else Text.lowerChar left == Text.lowerChar right
  else
    left == right

/-! ## Places -/

/-- What each group matched: the offsets of its start and its end. -/
abbrev Captures := Array (Option (Nat × Nat))

/-- A place in a text, with what the groups matched on the way. -/
structure Place where
  position : Nat
  captures : Captures
deriving Repr

/-- What a group matched. -/
def Place.capture? (place : Place) (number : Nat) : Option (Nat × Nat) :=
  (place.captures[number]?).join

/-- The place with a group set. -/
def Place.withCapture (place : Place) (number start : Nat) : Place :=
  { place with captures := place.captures.setIfInBounds number (some (start, place.position)) }

/-- Whether the character at an offset is a word character. -/
def wordAt (isAscii : Bool) (text : Array Char) (offset : Nat) : Bool :=
  text[offset]?.any (Category.contains isAscii .word)

/-- Whether a place is at the border of a word. -/
def atBorder (isAscii : Bool) (text : Array Char) (position : Nat) : Bool :=
  let before := position != 0 && wordAt isAscii text (position - 1)
  before != wordAt isAscii text position

/-- Whether a condition holds at a place; an empty text has no borders and no inside. -/
def Anchor.holds (flags : Flags) (text : Array Char) (position : Nat) : Anchor → Bool
  | .lineStart =>
      position == 0 ||
        (flags.contains .multiline && text[position - 1]? == some '\n')
  | .lineEnd =>
      position == text.size ||
        (text[position]? == some '\n' &&
          (flags.contains .multiline || position + 1 == text.size))
  | .textStart => position == 0
  | .textEnd => position == text.size
  | .boundary => !text.isEmpty && atBorder (flags.contains .ascii) text position
  | .notBoundary => !text.isEmpty && !atBorder (flags.contains .ascii) text position

/-- Whether the characters from two offsets on are the same, for a length. -/
def sameText (flags : Flags) (text : Array Char) : Nat → Nat → Nat → Bool
  | 0, _, _ => true
  | length + 1, first, second =>
      match text[first]?, text[second]? with
      | some left, some right =>
          sameInReference flags left right && sameText flags text length (first + 1) (second + 1)
      | _, _ => false

/-! ## Repetitions -/

/-- What is to happen behind a place; none if it does not work out. -/
abbrev Continuation := Place → Option Place

/-- A way to match something: from a place, with what is to happen behind it. -/
abbrev Matcher := Place → Continuation → Option Place

/-- Whether one more repetition is allowed. -/
def below (count : Nat) (most : Option Nat) : Bool :=
  most.all fun most => count < most

/--
As many repetitions as possible first.  Once there are enough, a repetition is
tried only at a place where none was tried before; so the number of
repetitions is bounded.
-/
def greedyLoop (body : Matcher) (least : Nat) (most : Option Nat) :
    Nat → Nat → Option Nat → Matcher
  | 0, _, _, _, _ => none
  | bound + 1, count, tried, place, behind =>
      if count < least then
        body place fun next => greedyLoop body least most bound (count + 1) tried next behind
      else if below count most && tried != some place.position then
        let more := body place fun next =>
          greedyLoop body least most bound (count + 1) (some place.position) next behind
        more.or (behind place)
      else
        behind place

/-- As few repetitions as possible first. -/
def lazyLoop (body : Matcher) (least : Nat) (most : Option Nat) :
    Nat → Nat → Option Nat → Matcher
  | 0, _, _, _, _ => none
  | bound + 1, count, tried, place, behind =>
      if count < least then
        body place fun next => lazyLoop body least most bound (count + 1) tried next behind
      else
        match behind place with
        | some final => some final
        | none =>
            if below count most && tried != some place.position then
              body place fun next =>
                lazyLoop body least most bound (count + 1) (some place.position) next behind
            else
              none

/-- As many repetitions as possible, each matched in its first way only. -/
def possessiveLoop (body : Matcher) (least : Nat) (most : Option Nat) :
    Nat → Nat → Option Nat → Place → Option Place
  | 0, _, _, _ => none
  | bound + 1, count, tried, place =>
      if count < least then
        match body place some with
        | some next => possessiveLoop body least most bound (count + 1) tried next
        | none => none
      else if below count most && tried != some place.position then
        match body place some with
        | some next =>
            possessiveLoop body least most bound (count + 1) (some place.position) next
        | none => some place
      else
        some place

/-! ## Patterns -/

/-- One character of a class. -/
def oneChar (text : Array Char) (holds : Char → Bool) : Matcher :=
  fun place behind =>
    match text[place.position]? with
    | some char =>
        if holds char then behind { place with position := place.position + 1 } else none
    | none => none

/-- Match a pattern at a place. -/
def Node.run (text : Array Char) : Node → Matcher
  | .empty, place, behind => behind place
  | .any flags, place, behind =>
      oneChar text (fun char => flags.contains .dotAll || char != '\n') place behind
  | .set flags negated items, place, behind =>
      oneChar text (classHolds flags negated items) place behind
  | .sequence first second, place, behind =>
      first.run text place fun next => second.run text next behind
  | .choice first second, place, behind =>
      match first.run text place behind with
      | some final => some final
      | none => second.run text place behind
  | .repetition greed least most body, place, behind =>
      let bound := least + text.size + 3
      match greed with
      | .greedy =>
          greedyLoop (fun place behind => body.run text place behind) least most bound 0 none
            place behind
      | .lazy =>
          lazyLoop (fun place behind => body.run text place behind) least most bound 0 none
            place behind
      | .possessive =>
          (possessiveLoop (fun place behind => body.run text place behind) least most bound 0
            none place).bind behind
  | .group number body, place, behind =>
      body.run text place fun next =>
        match number with
        | some number => behind (next.withCapture number place.position)
        | none => behind next
  | .atomic body, place, behind => (body.run text place some).bind behind
  | .reference flags number, place, behind =>
      match place.capture? number with
      | none => none
      | some (start, stop) =>
          if sameText flags text (stop - start) start place.position then
            behind { place with position := place.position + (stop - start) }
          else none
  | .condition number met unmet, place, behind =>
      if (place.capture? number).isSome then met.run text place behind
      else unmet.run text place behind
  | .lookAhead negated body, place, behind =>
      match body.run text place some with
      | some seen =>
          if negated then none else behind { place with captures := seen.captures }
      | none => if negated then behind place else none
  | .lookBehind negated least _ body, place, behind =>
      let seen :=
        if place.position < least then none
        else body.run text { place with position := place.position - least } some
      match seen with
      | some seen =>
          if negated then none else behind { place with captures := seen.captures }
      | none => if negated then behind place else none
  | .anchor flags required, place, behind =>
      if required.holds flags text place.position then behind place else none

namespace Compiled

/-- A match of a whole pattern; its captures start with the match itself. -/
structure Found where
  start : Nat
  stop : Nat
  captures : Captures
deriving Repr

/-- Match at an offset; if asked for, only matches that are not empty count. -/
def matchAt (pattern : Compiled) (text : Array Char) (mustAdvance : Bool) (start : Nat) :
    Option Found :=
  let captures := Array.replicate (pattern.groupCount + 1) none
  let final := pattern.root.run text ⟨start, captures⟩ fun place =>
    if mustAdvance && place.position == start then none else some place
  final.map fun place =>
    ⟨start, place.position, place.captures.setIfInBounds 0 (some (start, place.position))⟩

/-- The first match from an offset on, looking at a number of offsets. -/
def search (pattern : Compiled) (text : Array Char) : Nat → Bool → Nat → Option Found
  | 0, _, _ => none
  | count + 1, mustAdvance, start =>
      match pattern.matchAt text mustAdvance start with
      | some found => some found
      | none => search pattern text count false (start + 1)

/-- The matches from an offset on, none of which overlap. -/
def findAll (pattern : Compiled) (text : Array Char) : Nat → Bool → Nat → List Found
  | 0, _, _ => []
  | bound + 1, mustAdvance, start =>
      match pattern.search text (text.size + 1 - start) mustAdvance start with
      | none => []
      | some found =>
          found :: findAll pattern text bound (found.start == found.stop) found.stop

end Compiled

end SheetFormula.Pattern
