import SheetFormula.FileText
import SheetFormula.Text.Pieces
import SheetFormula.Text.Quoted

/-!
# Files that a command reads

A path is shown without empty segments and without segments that stay where
they are.  A small tree of files stands for the directory a command runs in.
-/

namespace SheetFormula.Command

/-- Segments of a path that lead somewhere. -/
def segments (path : List Char) : List (List Char) :=
  (path.splitOn '/').filter fun segment => segment ≠ [] ∧ segment ≠ ['.']

/-- What a path starts with: two slashes count as such, three or more as one. -/
def rootOf (path : List Char) : List Char :=
  match (path.takeWhile (· = '/')).length with
  | 0 => []
  | 2 => ['/', '/']
  | _ => ['/']

/-- A path in its shortest form with the same segments. -/
def cleanPath (path : List Char) : List Char :=
  let body := Text.join '/' (segments path)
  let whole := rootOf path ++ body
  if whole.isEmpty then ['.'] else whole

/-- Why a file cannot be read. -/
inductive FileError where
  | missing
  | isDirectory
  | notDirectory
deriving DecidableEq, Repr

/-- The wording of the error for a path. -/
def FileError.message (path : List Char) (error : FileError) : String :=
  let shown := String.ofList (Text.quoted path)
  match error with
  | .missing => s!"[Errno 2] No such file or directory: {shown}"
  | .isDirectory => s!"[Errno 21] Is a directory: {shown}"
  | .notDirectory => s!"[Errno 20] Not a directory: {shown}"

/-- A tree of files: the paths of the files as segments, with their contents. -/
structure Tree where
  files : List (List (List Char) × FileText) := []
  directories : List (List (List Char)) := []

namespace Tree

/-- The file at a path. -/
def file? (tree : Tree) (path : List (List Char)) : Option FileText :=
  tree.files.lookup path

/-- Whether a path is that of a directory. -/
def isDirectory (tree : Tree) (path : List (List Char)) : Bool :=
  path.isEmpty || tree.directories.any (fun directory => path.isPrefixOf directory) ||
    tree.files.any fun file => path.isPrefixOf file.1 && path.length < file.1.length

/-- Follow the segments of a path from a directory of the tree. -/
def follow (tree : Tree) (here : List (List Char)) :
    List (List Char) → Except FileError FileText
  | [] =>
      match tree.file? here with
      | some content => .ok content
      | none => .error (if tree.isDirectory here then .isDirectory else .missing)
  | segment :: rest =>
      if tree.isDirectory here then
        if segment = ['.', '.'] then tree.follow here.dropLast rest
        else tree.follow (here ++ [segment]) rest
      else
        .error (if (tree.file? here).isSome then .notDirectory else .missing)

/-- Read the file at a path; outside the tree there are no files. -/
def read (tree : Tree) (path : List Char) : Except FileError FileText :=
  match rootOf path, segments path with
  | [], parts => tree.follow [] parts
  | _, [] => .error .isDirectory
  | _, _ => .error .missing

/-- A tree with a file added. -/
def add (tree : Tree) (path : List Char) (content : FileText) : Tree :=
  { tree with files := (segments path, content) :: tree.files }

end Tree

end SheetFormula.Command
