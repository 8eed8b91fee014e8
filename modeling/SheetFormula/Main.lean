import SheetFormula.Command.Run

/-!
# The program

Commands are read from the command line.  Files, the configuration and the
standard streams are touched here and nowhere else; what is done with them is
decided by `Command.run`.
-/

namespace SheetFormula.Program

open SheetFormula.Command

/-- The code of the system for a directory that is read as a file. -/
def isDirectoryCode : UInt32 := 21

/-- Read a file. -/
def readFile (path : List Char) : IO (Except FileError FileText) := do
  try
    let bytes ← IO.FS.readBinFile (String.ofList path)
    return .ok (.ofBytes bytes.toList)
  catch error =>
    match error with
    | .inappropriateType _ code _ =>
        return .error (if code = isDirectoryCode then .isDirectory else .notDirectory)
    | _ => return .error .missing

/-- What stands in the place of the configuration file. -/
def readConfig (names : Config.Names) : IO Config.Store := do
  return storeOf (← readFile names.file)

/-- Put a changed configuration in place. -/
def writeConfig (names : Config.Names) (before after : Config.Store) : IO Unit := do
  match after with
  | .file content =>
      if after ≠ before then
        IO.FS.createDirAll (String.ofList names.directory)
        IO.FS.writeFile (String.ofList names.file) (String.ofList content.text)
  | _ => return ()

/-- The names of the configuration file, in the directory of the user. -/
def configNames : IO Config.Names := do
  let home := (← IO.getEnv "HOME").getD "."
  return ⟨home.toList ++ "/.sheetfmt/config".toList, home.toList ++ "/.sheetfmt".toList⟩

/-- The standard input, for commands that are given no other text. -/
def readInput (source : Option Source) : IO (List Char) := do
  match source with
  | some ⟨none, none⟩ =>
      let bytes ← (← IO.getStdin).readBinToEnd
      return Utf8.decodeLossy bytes.toList
  | _ => return []

/-- The file that a command names. -/
def readNamedFile (source : Option Source) : IO (Except FileError FileText) := do
  match source.bind Source.file with
  | some path =>
      if path.contains (Char.ofNat 0) then return .error .missing
      else readFile (cleanPath path)
  | none => return .error .missing

/-- Write the result of a command and give its exit code. -/
def finish
    (names : Config.Names)
    (before : Config.Store) :
    Except Trouble Result → IO UInt32
  | .ok result => do
      writeConfig names before result.config
      IO.print (String.ofList result.output)
      return 0
  | .error (.reported message) => do
      IO.eprintln (String.ofList (errorText message))
      return 1
  | .error (.failed failure) => do
      IO.eprintln (failure.message names)
      return 1

/-- Run a command in its surroundings. -/
def execute (invocation : Invocation) : IO UInt32 := do
  let names ← configNames
  let store ← readConfig names
  let source := invocation.request.source?
  let input ← readInput source
  let file ← readNamedFile source
  let around : Surroundings :=
    { config := store, names := names, input := input, read := fun _ => file }
  if invocation.verbose then
    for remark in remarks around invocation.request do
      IO.eprintln remark.message
  finish names store (run around invocation.request)

end SheetFormula.Program

/-- Read the command line and run the command it names. -/
def main (arguments : List String) : IO UInt32 := do
  match SheetFormula.Command.parseCommand (arguments.map String.toList) with
  | .ok invocation => SheetFormula.Program.execute invocation
  | .error error =>
      IO.eprintln error.message
      return 2
