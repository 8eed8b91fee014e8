import SheetFormula.FileText
import SheetFormula.Settings
import SheetFormula.Text.LetterCase
import SheetFormula.Text.Pieces
import SheetFormula.Text.Quoted

/-!
# The configuration file

Settings are kept in a file with one `key=value` pair on a line.  Other pairs
in the file are none of the program's business and stay when a setting is
changed; lines that hold no pair go.

A file that cannot be read counts as one without pairs.  A value that does not
pass validation is never written.

A setting is changed by an action that works on the file step by step: it reads
the pairs, opens the file, which empties it, and writes the pairs line by line.
-/

namespace SheetFormula

/-- The key of a setting in the file. -/
def SettingName.key : SettingName → List Char
  | .indentWidth => "SHEETFMT_INDENT_WIDTH".toList
  | .strict => "SHEETFMT_STRICT".toList

/-- All settings, in their order. -/
def SettingName.all : List SettingName := [.indentWidth, .strict]

/-- The setting with a given key. -/
def SettingName.ofKey? (key : List Char) : Option SettingName :=
  SettingName.all.find? fun name => name.key == key

namespace Config

/-- Keys with their values, in the order of their first appearance. -/
abbrev Pairs := List (List Char × List Char)

/-- Set a key; a key that is there keeps its place. -/
def put (key value : List Char) : Pairs → Pairs
  | [] => [(key, value)]
  | pair :: rest =>
      if pair.1 = key then (key, value) :: rest else pair :: put key value rest

/-- The pair on a line: the first equals sign divides it. -/
def linePair? (line : List Char) : Option (List Char × List Char) :=
  Text.cutFirst? '=' (Text.trim line)

/-- The pairs of a text; of a repeated key the last value counts. -/
def parse (text : List Char) : Pairs :=
  ((text.splitOn '\n').filterMap linePair?).foldl
    (fun pairs pair => put pair.1 pair.2 pairs) []

/-- A pair as a line of text, without the line feed. -/
def pairText (pair : List Char × List Char) : List Char :=
  pair.1 ++ '=' :: pair.2

/-- Pairs as text, one on a line. -/
def render (pairs : Pairs) : List Char :=
  pairs.flatMap fun pair => pairText pair ++ ['\n']

/-- What stands in the place of the configuration file. -/
inductive Store where
  /-- Nothing; its directory can be made. -/
  | absent
  /-- A file. -/
  | file (content : FileText)
  /-- A directory with the name of the file. -/
  | directory
  /-- A file with the name of the file's directory. -/
  | blocked
deriving DecidableEq, Repr

/-- Names that messages use for the file and its directory. -/
structure Names where
  file : List Char := ".sheetfmt/config".toList
  directory : List Char := ".sheetfmt".toList

/-- Why the configuration cannot be read or changed. -/
inductive Error where
  | unknownKey (key : List Char)
  | invalidValue (name : SettingName) (value : List Char)
  | invalidFile (faults : List (SettingName × SettingFault))
  | undecodable (fault : Utf8.Fault)
  | isDirectory
  | isBlocked
deriving DecidableEq, Repr

/-- The number of faults in words. -/
def faultCount (count : Nat) : String :=
  if count = 1 then "1 validation error" else s!"{count} validation errors"

/-- The wording of an error; of a list of faults its first line. -/
def Error.message (names : Names) : Error → String
  | .unknownKey key =>
      let keys := SettingName.all.map fun name => String.ofList name.key
      let expected := ", ".intercalate keys
      s!"unknown config key '{String.ofList key}', expected one of: {expected}"
  | .invalidValue name value =>
      let shown := String.ofList (Text.quoted value)
      s!"invalid value for {String.ofList name.key}: {shown}"
  | .invalidFile faults =>
      let count := faultCount faults.length
      s!"invalid value in {String.ofList names.file}: {count} for FormatSettings"
  | .undecodable fault => fault.message
  | .isDirectory =>
      let shown := String.ofList (Text.quoted names.file)
      s!"failed to write config file: [Errno 21] Is a directory: {shown}"
  | .isBlocked =>
      let shown := String.ofList (Text.quoted names.directory)
      s!"[Errno 17] File exists: {shown}"

/--
A fault as a reader reports it that goes through a file in blocks.  What comes
before a sequence that the end cuts short has been passed on by then, so that
the fault lies at the start of what is left.
-/
def streamFault (fault : Utf8.Fault) : Utf8.Fault :=
  match fault.reason with
  | .unexpectedEnd => { fault with position := 0 }
  | _ => fault

/-- The pairs in the file. -/
def read : Store → Except Error Pairs
  | .file content =>
      match content.read with
      | .ok text => .ok (parse text)
      | .error fault => .error (.undecodable (streamFault fault))
  | .absent | .directory | .blocked => .ok []

/-- The settings that some pairs hold. -/
def settingsOf (pairs : Pairs) : Except (List (SettingName × SettingFault)) Settings :=
  let raw (name : SettingName) := (pairs.lookup name.key).map RawSetting.text
  Settings.validate (raw .indentWidth) (raw .strict)

/-- The settings in the file. -/
def load (store : Store) : Except Error Settings :=
  match read store with
  | .error error => .error error
  | .ok pairs =>
      match settingsOf pairs with
      | .ok settings => .ok settings
      | .error faults => .error (.invalidFile faults)

/-- Whether a text is accepted for a setting. -/
def accepts (name : SettingName) (value : List Char) : Bool :=
  match name with
  | .indentWidth => (Settings.validate (some (.text value)) none).toOption.isSome
  | .strict => (Settings.validate none (some (.text value))).toOption.isSome

/-! ## Changing a setting -/

/-- What works on the store and may fail.  A failure does not undo what came before it. -/
abbrev Action := ExceptT Error (StateM Store)

/-- The outcome of an action and the store it leaves. -/
def Action.perform {α : Type} (action : Action α) (store : Store) : Except Error α × Store :=
  action.run.run store

/-- Read the pairs in the file. -/
def readPairs : Action Pairs := do
  match read (← get) with
  | .ok pairs => return pairs
  | .error error => throw error

/-- Make the directory of the file if it is missing. -/
def makeDirectory : Action Unit := do
  if (← get) = .blocked then throw .isBlocked

/-- Open the file for writing, which makes it or empties it. -/
def openFile : Action Unit := do
  match ← get with
  | .absent | .file _ => set (Store.file ⟨[], none⟩)
  | .directory => throw .isDirectory
  | .blocked => throw .isBlocked

/-- Add a line to the file. -/
def writeLine (line : List Char) : Action Unit :=
  modify fun store =>
    match store with
    | .file content => .file { content with text := content.text ++ line ++ ['\n'] }
    | other => other

/-- Write pairs to the file in the place of what it holds, one after the other. -/
def writePairs (pairs : Pairs) : Action Unit := do
  makeDirectory
  openFile
  pairs.forM fun pair => writeLine (pairText pair)

/-- Set a value in the file; the case of its key does not matter. -/
def update (key value : List Char) : Action Unit := do
  match SettingName.ofKey? (Text.upper key) with
  | none => throw (.unknownKey (Text.upper key))
  | some name =>
      if accepts name value then
        let pairs ← readPairs
        writePairs (put name.key value pairs)
      else
        throw (.invalidValue name value)

/-- The store with a setting changed. -/
def change (key value : List Char) (store : Store) : Except Error Store :=
  match (update key value).perform store with
  | (.ok _, changed) => .ok changed
  | (.error error, _) => .error error

end Config

end SheetFormula
