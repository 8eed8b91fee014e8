import SheetFormula.Cells.ArrayFormula
import SheetFormula.Cells.Distinct
import SheetFormula.Cells.Repeat
import SheetFormula.Cells.Wildcard
import SheetFormula.Command.Files
import SheetFormula.Command.Parse
import SheetFormula.Config
import SheetFormula.Console
import SheetFormula.Formula
import SheetFormula.Link
import SheetFormula.Pattern.Replace

/-!
# Running commands

A command reads its text and the configuration, and ends with its output, with
a reported error, or with a failure that it does not handle.
-/

namespace SheetFormula.Command

/-- Failures that a command does not handle. -/
inductive Failure where
  | vacantEntry
  | undecodable (fault : Utf8.Fault)
  | blockedConfig
  | pattern (fault : Pattern.Fault)
  | badPath
deriving DecidableEq, Repr

/-- The wording of a failure. -/
def Failure.message (names : Config.Names) : Failure → String
  | .vacantEntry => "a stop stands where no group is open"
  | .undecodable fault => fault.message
  | .blockedConfig => Config.Error.isBlocked.message names
  | .pattern fault => fault.message
  | .badPath => "embedded null byte"

/-- Why a command ends without its output. -/
inductive Trouble where
  | reported (message : List Char)
  | failed (failure : Failure)
deriving DecidableEq, Repr

/-- What a command finds around it. -/
structure Surroundings where
  config : Config.Store
  names : Config.Names := {}
  input : List Char
  read : List Char → Except FileError FileText

/-- What stands in the place of the configuration file, by an attempt to read it. -/
def storeOf : Except FileError FileText → Config.Store
  | .ok content => .file content
  | .error .isDirectory => .directory
  | .error .notDirectory => .blocked
  | .error .missing => .absent

/-- The configuration that a tree of files holds. -/
def Tree.store (tree : Tree) : Config.Store :=
  storeOf (tree.read ".sheetfmt/config".toList)

/-- A tree of files with what stands in the place of the configuration file. -/
def withConfig (tree : Tree) : Config.Store → Tree
  | .absent => tree
  | .file content => tree.add ".sheetfmt/config".toList content
  | .directory =>
      { tree with directories := segments ".sheetfmt/config".toList :: tree.directories }
  | .blocked => tree.add ".sheetfmt".toList ⟨[], none⟩

/-- The surroundings of a command that runs in a tree of files. -/
def Surroundings.inTree (tree : Tree) (store : Config.Store) (input : List Char) :
    Surroundings where
  config := store
  input := input
  read := (withConfig tree store).read

/-- What a command leaves: its output, a link to open, and the configuration. -/
structure Result where
  output : List Char
  launched : Option (List Char) := none
  config : Config.Store

/-- An error that is reported to the user. -/
def reported {α : Type} (message : String) : Except Trouble α :=
  .error (.reported message.toList)

/-- The settings, with configuration errors reported. -/
def loadSettings (around : Surroundings) : Except Trouble Settings :=
  match Config.load around.config with
  | .ok settings => .ok settings
  | .error (.undecodable fault) => .error (.failed (.undecodable fault))
  | .error error => reported (error.message around.names)

/-- A text without the line feed at its end. -/
def withoutLastBreak (text : List Char) : List Char :=
  Text.dropLastChar '\n' text

/-- The text a command works on. -/
def readSource (around : Surroundings) (source : Source) : Except Trouble (List Char) :=
  match source.argument, source.file with
  | some text, _ => .ok text
  | none, some word =>
      let path := cleanPath word
      match around.read path with
      | .error error =>
          reported s!"could not read {String.ofList path}: {error.message path}"
      | .ok content =>
          match content.read with
          | .ok text => .ok (withoutLastBreak text)
          | .error fault => .error (.failed (.undecodable fault))
  | none, none => .ok (withoutLastBreak (lineFeeds around.input))

/-- The result of a formula, with malformed ones reported. -/
def formulaResult {α : Type} : Except FormulaError α → Except Trouble α
  | .ok value => .ok value
  | .error (.malformed departure) => reported departure.message
  | .error .vacantEntry => .error (.failed .vacantEntry)

/-- Settings with those that were given on the command line. -/
def overridden
    (settings : Settings)
    (strict : Option Bool)
    (indent : Option Settings.IndentWidth) :
    Settings :=
  let width : Settings.IndentWidth :=
    indent.getD
      ⟨settings.indentWidth, settings.one_le_indentWidth, settings.indentWidth_le⟩
  Settings.ofWidth width (strict.getD settings.strict)

/-- The table of the tokens of a formula. -/
def tokenTable (tokens : List Token) : Console.Table where
  title := "Tokens".toList
  columns :=
    [⟨"#".toList, .right⟩, ⟨"Type".toList, .left⟩, ⟨"Subtype".toList, .left⟩,
      ⟨"Value".toList, .left⟩]
  rows := tokens.zipIdx.map fun (token, index) =>
    [(toString index).toList, token.kind.name.toList,
      ((token.subkind.map Subkind.name).getD "").toList, Text.quoted token.value]

/-- The table of the settings. -/
def settingsTable (names : Config.Names) (settings : Settings) : Console.Table where
  title := "Config (".toList ++ names.file ++ [')']
  columns := [⟨"Key".toList, .left⟩, ⟨"Value".toList, .left⟩]
  rows :=
    [[SettingName.key .indentWidth, (toString settings.indentWidth).toList],
      [SettingName.key .strict, (if settings.strict then "True" else "False").toList]]

/-- The message behind a changed setting. -/
def changedMessage (key value : List Char) : List Char :=
  Console.message ("✓ ".toList ++ Text.upper key ++ " set to ".toList ++ value) ++ ['\n']

/-- Change a setting, with errors reported. -/
def changeConfig (around : Surroundings) (key value : List Char) :
    Except Trouble Config.Store :=
  match Config.change key value around.config with
  | .ok store => .ok store
  | .error (.undecodable fault) => .error (.failed (.undecodable fault))
  | .error .isBlocked => .error (.failed .blockedConfig)
  | .error error => reported (error.message around.names)

/-- Replace matches, with errors of the pattern reported. -/
def replaceText (pattern template : List Char) (perLine : Bool) (text : List Char) :
    Except Trouble (List Char) :=
  match Pattern.replace pattern template perLine text with
  | .ok replaced => .ok replaced
  | .error error =>
      match error.fault with
      | .invalid _ _ _ => reported error.message
      | fault => .error (.failed (.pattern fault))

/-- The output of a command that turns one text into another. -/
def transform
    (around : Surroundings)
    (source : Source)
    (change : List Char → Except Trouble (List Char)) :
    Except Trouble Result := do
  let text ← readSource around source
  let changed ← change text
  return { output := Console.output changed, config := around.config }

/-- Repeat rows or columns; the number is not negative here. -/
def repeatText (axis : Cells.Axis) (times : Nat) (gap : Bool) (text : List Char) :
    Except Trouble (List Char) :=
  match Cells.repeatItems axis times gap text with
  | .ok repeated => .ok repeated
  | .error error => reported error.message

/-- What a command does once its path is known to be sound. -/
def perform (around : Surroundings) : Request → Except Trouble Result
  | .format source strict indent => do
      let settings ← loadSettings around
      transform around source fun text =>
        formulaResult (Formula.format (overridden settings strict indent) text)
  | .tokens source strict => do
      let text ← readSource around source
      let tokens ← formulaResult (Formula.tokens strict text)
      return { output := (tokenTable tokens).render, config := around.config }
  | .sheetId source => transform around source fun text => .ok (Link.extractIds text)
  | .sheetLink source launch => do
      let text ← readSource around source
      let link := Link.ofText text
      let launched := if launch then some link else none
      return { output := Console.output link, launched := launched, config := around.config }
  | .reference source =>
      transform around source fun text =>
        match Reference.convert text with
        | .ok converted => .ok converted
        | .error error => reported error.message
  | .repetition source axis times gap => transform around source (repeatText axis times gap)
  | .dedupe source axis =>
      transform around source fun text => .ok (Cells.removeDuplicates axis text)
  | .wildcard source remove =>
      transform around source fun text => .ok (Cells.wildcards remove text)
  | .splitArray source =>
      transform around source fun text => .ok (Cells.splitArrayFormula text)
  | .replace source pattern template perLine =>
      transform around source (replaceText pattern template perLine)
  | .configShow => do
      let settings ← loadSettings around
      let table := settingsTable around.names settings
      return { output := table.render, config := around.config }
  | .configSet key value => do
      let store ← changeConfig around key value
      return { output := changedMessage key value, config := store }

/-- Run a command.  A path with a NUL character is refused before anything else. -/
def run (around : Surroundings) (request : Request) : Except Trouble Result :=
  let file := request.source?.bind Source.file
  if file.any fun path => path.contains (Char.ofNat 0) then .error (.failed .badPath)
  else perform around request

/-- What is remarked on while a command runs, for those who want to know. -/
def remarks (around : Surroundings) : Request → List Remark
  | .format source strict indent =>
      match loadSettings around, readSource around source with
      | .ok settings, .ok text => Formula.remarks (overridden settings strict indent) text
      | _, _ => []
  | .tokens source strict =>
      match readSource around source with
      | .ok text => (Scan.remarks strict (Formula.normalize text)).map Remark.departed
      | .error _ => []
  | _ => []

/-- A reported error as the console shows it. -/
def errorText (message : List Char) : List Char :=
  Console.message ("Error: ".toList ++ message)

end SheetFormula.Command
