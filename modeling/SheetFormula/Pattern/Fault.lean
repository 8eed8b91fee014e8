import SheetFormula.Text.Quoted

/-!
# Faults in patterns

A fault says what is wrong with a pattern or with a replacement, and most
faults say where.  Places are given as offsets; in a text of several lines
also by line and column.
-/

namespace SheetFormula.Pattern

/-- What is wrong with a pattern or a replacement. -/
inductive Reason where
  | unterminatedGroup
  | unbalancedParenthesis
  | unterminatedSet
  | nothingToRepeat
  | multipleRepeat
  | badRange (first last : List Char)
  | badEscapeAtEnd
  | badEscape (escape : List Char)
  | incompleteEscape (escape : List Char)
  | octalTooLarge (escape : List Char)
  | missingBrace
  | undefinedCharacter (name : List Char)
  | leastAboveMost
  | redefinedGroup (name : List Char) (number earlier : Nat)
  | badGroupName (name : List Char)
  | badGroupNumber
  | invalidReference (number : Nat)
  | openReference
  | lookBehindReference
  | unknownGroup (name : List Char)
  | unknownExtension (extension : List Char)
  | missingName (what : String)
  | unterminatedName (terminator : Char)
  | unterminatedComment
  | unexpectedEnd
  | tooManyBranches
  | lateFlags
  | missingFlagEnd
  | unknownFlag
  | missingFlag
  | missingColon
  | localeFlag
  | conflictingFlags
  | globalFlagOn
  | globalFlagOff
  | alphabetFlagOff
  | flagOnAndOff
  | variableLookBehind
  | longLookBehind
  | repetitionInTemplate (operator : String)
  | missingAngle
deriving DecidableEq, Repr

/-- The wording of a reason. -/
def Reason.text : Reason → String
  | .unterminatedGroup => "missing ), unterminated subpattern"
  | .unbalancedParenthesis => "unbalanced parenthesis"
  | .unterminatedSet => "unterminated character set"
  | .nothingToRepeat => "nothing to repeat"
  | .multipleRepeat => "multiple repeat"
  | .badRange first last =>
      s!"bad character range {String.ofList first}-{String.ofList last}"
  | .badEscapeAtEnd => "bad escape (end of pattern)"
  | .badEscape escape => s!"bad escape {String.ofList escape}"
  | .incompleteEscape escape => s!"incomplete escape {String.ofList escape}"
  | .octalTooLarge escape =>
      s!"octal escape value {String.ofList escape} outside of range 0-0o377"
  | .missingBrace => "missing \x7b"
  | .undefinedCharacter name =>
      s!"undefined character name {String.ofList (Text.quoted name)}"
  | .leastAboveMost => "min repeat greater than max repeat"
  | .redefinedGroup name number earlier =>
      let shown := String.ofList (Text.quoted name)
      s!"redefinition of group name {shown} as group {number}; was group {earlier}"
  | .badGroupName name =>
      s!"bad character in group name {String.ofList (Text.quoted name)}"
  | .badGroupNumber => "bad group number"
  | .invalidReference number => s!"invalid group reference {number}"
  | .openReference => "cannot refer to an open group"
  | .lookBehindReference =>
      "cannot refer to group defined in the same lookbehind subpattern"
  | .unknownGroup name => s!"unknown group name {String.ofList (Text.quoted name)}"
  | .unknownExtension extension => s!"unknown extension {String.ofList extension}"
  | .missingName what => s!"missing {what}"
  | .unterminatedName terminator => s!"missing {terminator}, unterminated name"
  | .unterminatedComment => "missing ), unterminated comment"
  | .unexpectedEnd => "unexpected end of pattern"
  | .tooManyBranches => "conditional backref with more than two branches"
  | .lateFlags => "global flags not at the start of the expression"
  | .missingFlagEnd => "missing -, : or )"
  | .unknownFlag => "unknown flag"
  | .missingFlag => "missing flag"
  | .missingColon => "missing :"
  | .localeFlag => "bad inline flags: cannot use 'L' flag with a str pattern"
  | .conflictingFlags => "bad inline flags: flags 'a', 'u' and 'L' are incompatible"
  | .globalFlagOn => "bad inline flags: cannot turn on global flag"
  | .globalFlagOff => "bad inline flags: cannot turn off global flag"
  | .alphabetFlagOff => "bad inline flags: cannot turn off flags 'a', 'u' and 'L'"
  | .flagOnAndOff => "bad inline flags: flag turned on and off"
  | .variableLookBehind => "look-behind requires fixed-width pattern"
  | .longLookBehind => "looks too much behind"
  | .repetitionInTemplate operator =>
      s!"internal: unsupported template operator {operator}"
  | .missingAngle => "missing <"

/-- Why a replacement cannot be made. -/
inductive Fault where
  /-- The pattern or the replacement, `source`, has an error. -/
  | invalid (reason : Reason) (source : List Char) (position : Option Nat)
  /-- A number of repetitions is out of bounds. -/
  | repetitionTooLarge
  /-- The whole pattern is to be both ASCII and Unicode. -/
  | incompatibleAlphabets
  /-- The replacement uses the name of no group. -/
  | unknownReplacementName (name : List Char)
deriving DecidableEq, Repr

/-- The place of a fault in words. -/
def placeText (source : List Char) (position : Nat) : String :=
  let before := source.take position
  let line := before.count '\n' + 1
  let column := (before.reverse.takeWhile (· ≠ '\n')).length + 1
  if source.contains '\n' then
    s!" at position {position} (line {line}, column {column})"
  else
    s!" at position {position}"

/-- The wording of a fault. -/
def Fault.message : Fault → String
  | .invalid reason _ none => reason.text
  | .invalid reason source (some position) => reason.text ++ placeText source position
  | .repetitionTooLarge => "the repetition number is too large"
  | .incompatibleAlphabets => "ASCII and UNICODE flags are incompatible"
  | .unknownReplacementName name =>
      s!"unknown group name {String.ofList (Text.quoted name)}"

end SheetFormula.Pattern
