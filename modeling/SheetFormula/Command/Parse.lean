import SheetFormula.Cells.Axis
import SheetFormula.Command.Options
import SheetFormula.Settings
import SheetFormula.Text.Integer

/-!
# Commands

A command line names a command and gives it arguments and options.
`parseCommand` reads it; whatever it does not understand is a usage error.
-/

namespace SheetFormula.Command

/-- Where a command takes its text from: an argument, a file, or the input. -/
structure Source where
  argument : Option Word := none
  file : Option Word := none
deriving DecidableEq, Repr

/-- What the program is asked to do. -/
inductive Request where
  | format (source : Source) (strict : Option Bool) (indent : Option Settings.IndentWidth)
  | tokens (source : Source) (strict : Bool)
  | sheetId (source : Source)
  | sheetLink (source : Source) (launch : Bool)
  | reference (source : Source)
  | repetition (source : Source) (axis : Cells.Axis) (times : Nat) (gap : Bool)
  | dedupe (source : Source) (axis : Cells.Axis)
  | wildcard (source : Source) (remove : Bool)
  | splitArray (source : Source)
  | replace (source : Source) (pattern template : Word) (perLine : Bool)
  | configShow
  | configSet (key value : Word)
deriving DecidableEq, Repr

/-- A request and whether the program is to tell what it does. -/
structure Invocation where
  request : Request
  verbose : Bool
deriving DecidableEq, Repr

/-- The option for a file. -/
def fileSwitch : Switch := ⟨"--file", some 'f', true⟩

/-- An option without a value. -/
def flagSwitch (long : String) : Switch := { long := long }

/-- The text source of a parsed command line with at most one argument. -/
def sourceOf (parsed : Parsed) : Except UsageError Source :=
  match parsed.words with
  | [] => .ok ⟨none, parsed.value? "--file"⟩
  | [word] => .ok ⟨some word, parsed.value? "--file"⟩
  | _ :: extra :: _ => .error (.extraArgument extra)

/-- The text source of a parsed command line without arguments. -/
def fileSource (parsed : Parsed) : Except UsageError Source :=
  match parsed.words with
  | [] => .ok ⟨none, parsed.value? "--file"⟩
  | extra :: _ => .error (.extraArgument extra)

/-- The last of two opposite options. -/
def lastOf (parsed : Parsed) (yes no : String) : Option Bool :=
  (parsed.settled.reverse.find? fun option => option.1 == yes || option.1 == no).map
    fun option => option.1 == yes

/-- An option with an integer. -/
def integerOption? (parsed : Parsed) (option : String) : Except UsageError (Option Int) :=
  match parsed.value? option with
  | none => .ok none
  | some value =>
      match Text.integer? value with
      | some number => .ok (some number)
      | none => .error (.notAnInteger option value)

/-- The option for the width of an indentation. -/
def indentOption (parsed : Parsed) : Except UsageError (Option Settings.IndentWidth) := do
  match ← integerOption? parsed "--indent" with
  | none => return none
  | some number =>
      match Settings.boundedWidth number with
      | .ok width => return some width
      | .error _ => throw (.outOfRange "--indent" ((parsed.value? "--indent").getD []))

/-- The option for a number of repetitions, which is needed. -/
def timesOption (parsed : Parsed) : Except UsageError Nat := do
  match ← integerOption? parsed "--times" with
  | none => throw (.missingOption "--times")
  | some number =>
      if number < 0 then
        throw (.outOfRange "--times" ((parsed.value? "--times").getD []))
      else return number.toNat

/-- Repeating rows or columns. -/
def parseRepetition (axis : Cells.Axis) (words : List Word) : Except UsageError Request := do
  let switches := [⟨"--times", some 'n', true⟩, flagSwitch "--gap", fileSwitch]
  let parsed ← parseOptions switches true words
  let source ← fileSource parsed
  let times ← timesOption parsed
  return .repetition source axis times (parsed.has "--gap")

/-- Commands on copied cells. -/
def parseText (name : Word) (words : List Word) : Except UsageError Request := do
  match String.ofList name with
  | "repeat-rows" => parseRepetition .rows words
  | "repeat-cols" => parseRepetition .columns words
  | "dedupe" =>
      let parsed ← parseOptions [flagSwitch "--columns", fileSwitch] true words
      let axis := if parsed.has "--columns" then Cells.Axis.columns else Cells.Axis.rows
      return .dedupe (← fileSource parsed) axis
  | "wildcard" =>
      let parsed ← parseOptions [flagSwitch "--remove", fileSwitch] true words
      return .wildcard (← fileSource parsed) (parsed.has "--remove")
  | "split-array" =>
      let parsed ← parseOptions [fileSwitch] true words
      return .splitArray (← fileSource parsed)
  | "replace" =>
      let parsed ← parseOptions [flagSwitch "--per-line", fileSwitch] true words
      match parsed.words with
      | [pattern, template] =>
          let source : Source := ⟨none, parsed.value? "--file"⟩
          return .replace source pattern template (parsed.has "--per-line")
      | _ :: _ :: extra :: _ => throw (.extraArgument extra)
      | _ => throw .missingArgument
  | _ => throw (.unknownCommand name)

/-- Commands on the configuration. -/
def parseConfig (name : Word) (words : List Word) : Except UsageError Request := do
  match String.ofList name with
  | "show" =>
      let parsed ← parseOptions [] true words
      match parsed.words with
      | [] => return .configShow
      | extra :: _ => throw (.extraArgument extra)
  | "set" =>
      let parsed ← parseOptions [] true words
      match parsed.words with
      | [key, value] => return .configSet key value
      | _ :: _ :: extra :: _ => throw (.extraArgument extra)
      | _ => throw .missingArgument
  | _ => throw (.unknownCommand name)

/-- A command of a group. -/
def parseGroup
    (parseMember : Word → List Word → Except UsageError Request)
    (words : List Word) :
    Except UsageError Request := do
  let parsed ← parseOptions [] false words
  match parsed.words with
  | [] => throw .missingCommand
  | name :: rest => parseMember name rest

/-- Commands that stand for themselves, and the groups of the others. -/
def parseNamed (name : Word) (words : List Word) : Except UsageError Request := do
  match String.ofList name with
  | "format" =>
      let switches :=
        [fileSwitch, flagSwitch "--strict", flagSwitch "--lenient", ⟨"--indent", none, true⟩]
      let parsed ← parseOptions switches true words
      let source ← sourceOf parsed
      return .format source (lastOf parsed "--strict" "--lenient") (← indentOption parsed)
  | "tokens" =>
      let parsed ← parseOptions [fileSwitch, flagSwitch "--strict"] true words
      return .tokens (← sourceOf parsed) (parsed.has "--strict")
  | "sheet-id" =>
      let parsed ← parseOptions [fileSwitch] true words
      return .sheetId (← sourceOf parsed)
  | "sheet-url" =>
      let parsed ← parseOptions [flagSwitch "--open"] true words
      return .sheetLink (← sourceOf parsed) (parsed.has "--open")
  | "reference" =>
      let parsed ← parseOptions [] true words
      return .reference (← sourceOf parsed)
  | "text" => parseGroup parseText words
  | "config" => parseGroup parseConfig words
  | _ => throw (.unknownCommand name)

/-- Read a whole command line, without the name of the program. -/
def parseCommand (words : List Word) : Except UsageError Invocation := do
  let parsed ← parseOptions [⟨"--verbose", some 'v', false⟩] false words
  match parsed.words with
  | [] => throw .missingCommand
  | name :: rest => return ⟨← parseNamed name rest, parsed.has "--verbose"⟩

/-- The source of a command's text, if it reads any. -/
def Request.source? : Request → Option Source
  | .format source _ _ | .tokens source _ | .sheetId source | .sheetLink source _
  | .reference source | .repetition source _ _ _ | .dedupe source _ | .wildcard source _
  | .splitArray source | .replace source _ _ _ => some source
  | .configShow | .configSet _ _ => none

end SheetFormula.Command
