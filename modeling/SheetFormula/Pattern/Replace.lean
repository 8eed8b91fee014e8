import SheetFormula.Pattern.Match
import SheetFormula.Pattern.Parse
import SheetFormula.Pattern.Template
import SheetFormula.Text.Pieces

/-!
# Replacing matches

Every match of a pattern is replaced by a template with the groups of the
match filled in.  An empty match directly behind a match counts, unless that
match was empty too.
-/

namespace SheetFormula.Pattern

/-- The text between two offsets. -/
def slice (text : Array Char) (start stop : Nat) : List Char :=
  (text.extract start stop).toList

/-- A template filled in; a group that took no part is empty. -/
def fillIn (text : Array Char) (captures : Captures) (parts : List TemplatePart) : List Char :=
  parts.flatMap fun part =>
    match part with
    | .text text => text
    | .group number =>
        match captures[number]?.join with
        | some (start, stop) => slice text start stop
        | none => []

/-- The text from an offset on with the given matches replaced. -/
def replaceFrom (text : Array Char) (parts : List TemplatePart) :
    Nat → List Compiled.Found → List Char
  | start, [] => slice text start text.size
  | start, found :: rest =>
      slice text start found.start ++ fillIn text found.captures parts ++
        replaceFrom text parts found.stop rest

/-- Replace every match in a text. -/
def replaceAll (pattern : Compiled) (parts : List TemplatePart) (text : List Char) :
    List Char :=
  let chars := text.toArray
  replaceFrom chars parts 0 (pattern.findAll chars (2 * chars.size + 2) false 0)

/-- A replacement that could not be made, with the text of its pattern. -/
structure ReplaceError where
  pattern : List Char
  fault : Fault
deriving DecidableEq, Repr

/-- The wording of the error.  Faults of the pattern and the template name the pattern. -/
def ReplaceError.message (error : ReplaceError) : String :=
  match error.fault with
  | .invalid _ _ _ =>
      s!"invalid pattern '{String.ofList error.pattern}': {error.fault.message}"
  | _ => error.fault.message

/-- Pattern and template, read. -/
def prepare (pattern template : List Char) : Except Fault (Compiled × List TemplatePart) := do
  let compiled ← parse pattern
  let parts ← parseTemplate compiled template
  return (compiled, parts)

/--
Replace the matches of a pattern in a text, or in each of its lines.  Without
text or without a pattern nothing happens.
-/
def replace
    (pattern template : List Char)
    (perLine : Bool)
    (text : List Char) :
    Except ReplaceError (List Char) :=
  if text.isEmpty || pattern.isEmpty then .ok text
  else
    match prepare pattern template with
    | .error fault => .error ⟨pattern, fault⟩
    | .ok (compiled, parts) =>
        if perLine then
          .ok (Text.join '\n' ((text.splitOn '\n').map (replaceAll compiled parts)))
        else
          .ok (replaceAll compiled parts text)

end SheetFormula.Pattern
