import SheetFormula.Text.Pieces

/-!
# Options on a command line

Words that start with a dash are options.  A long option may have its value
behind an equals sign, short options may be put together, and a value may
follow directly behind a short option.  An option that needs a value takes the
next word, whatever it is.  Two dashes end the options.
-/

namespace SheetFormula.Command

/-- A word of a command line. -/
abbrev Word := List Char

/-- Why a command line is not understood. -/
inductive UsageError where
  | missingCommand
  | unknownCommand (name : Word)
  | unknownOption (name : Word)
  | missingValue (option : String)
  | unexpectedValue (option : String)
  | missingOption (option : String)
  | missingArgument
  | extraArgument (word : Word)
  | notAnInteger (option : String) (value : Word)
  | outOfRange (option : String) (value : Word)
deriving DecidableEq, Repr

/-- The wording of a usage error. -/
def UsageError.message : UsageError → String
  | .missingCommand => "Missing command."
  | .unknownCommand name => s!"No such command '{String.ofList name}'."
  | .unknownOption name => s!"No such option: {String.ofList name}"
  | .missingValue option => s!"Option '{option}' requires an argument."
  | .unexpectedValue option => s!"Option '{option}' does not take a value."
  | .missingOption option => s!"Missing option '{option}'."
  | .missingArgument => "Missing argument."
  | .extraArgument word => s!"Got unexpected extra argument ({String.ofList word})"
  | .notAnInteger option value =>
      s!"Invalid value for '{option}': '{String.ofList value}' is not a valid integer."
  | .outOfRange option value =>
      s!"Invalid value for '{option}': {String.ofList value} is not in the range."

/-- An option that a command knows. -/
structure Switch where
  long : String
  short : Option Char := none
  takesValue : Bool := false

/-- Options in the order in which they were given, with their values. -/
abbrev Settled := List (String × Word)

/-- Options read from one word, and the option that still waits for its value. -/
structure OptionWord where
  settled : Settled
  waiting : Option String

/-- Short options put together in one word, without the dash. -/
def readShort (switches : List Switch) : Word → Except UsageError OptionWord
  | [] => .ok ⟨[], none⟩
  | letter :: rest =>
      match switches.find? fun switch => switch.short == some letter with
      | none => .error (.unknownOption ['-', letter])
      | some switch =>
          if switch.takesValue then
            if rest.isEmpty then .ok ⟨[], some switch.long⟩
            else .ok ⟨[(switch.long, rest)], none⟩
          else
            match readShort switches rest with
            | .ok word => .ok { word with settled := (switch.long, []) :: word.settled }
            | .error error => .error error

/-- A long option, which may have its value in the same word. -/
def readLong (switch : Switch) (value : Option Word) : Except UsageError OptionWord :=
  match switch.takesValue, value with
  | true, some value => .ok ⟨[(switch.long, value)], none⟩
  | true, none => .ok ⟨[], some switch.long⟩
  | false, some _ => .error (.unexpectedValue switch.long)
  | false, none => .ok ⟨[(switch.long, [])], none⟩

/-- The options in a word that starts with a dash. -/
def readOption (switches : List Switch) (word : Word) : Except UsageError OptionWord :=
  let (name, value) :=
    match Text.cutFirst? '=' word with
    | some (name, value) => (name, some value)
    | none => (word, none)
  match switches.find? fun switch => switch.long.toList == name with
  | some switch => readLong switch value
  | none =>
      match word with
      | '-' :: '-' :: _ => .error (.unknownOption name)
      | _ => readShort switches (word.drop 1)

/-- Options and other words of a command line. -/
structure Parsed where
  settled : Settled := []
  words : List Word := []

/-- The parsed rest of a command line with some options in front. -/
def Parsed.withOptions (settled : Settled) (parsed : Parsed) : Parsed :=
  { parsed with settled := settled ++ parsed.settled }

/-- Whether a word is an option. -/
def isOption (word : Word) : Bool :=
  word.head? == some '-' && 1 < word.length

/--
Read a command line.  If options may not be mixed with other words, the first
word that is no option ends them.
-/
def parseOptions (switches : List Switch) (mixed : Bool) :
    List Word → Except UsageError Parsed
  | [] => .ok {}
  | word :: rest =>
      if word = ['-', '-'] then .ok { words := rest }
      else if isOption word then
        match readOption switches word with
        | .error error => .error error
        | .ok ⟨settled, none⟩ =>
            (parseOptions switches mixed rest).map (Parsed.withOptions settled)
        | .ok ⟨settled, some option⟩ =>
            match rest with
            | [] => .error (.missingValue option)
            | value :: others =>
                (parseOptions switches mixed others).map
                  (Parsed.withOptions (settled ++ [(option, value)]))
      else if mixed then
        (parseOptions switches mixed rest).map fun parsed =>
          { parsed with words := word :: parsed.words }
      else
        .ok { words := word :: rest }

/-- The last value of an option. -/
def Parsed.value? (parsed : Parsed) (option : String) : Option Word :=
  parsed.settled.reverse.lookup option

/-- Whether an option was given. -/
def Parsed.has (parsed : Parsed) (option : String) : Bool :=
  (parsed.value? option).isSome

end SheetFormula.Command
