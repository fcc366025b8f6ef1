import NoteTemplate.Text.Basic

namespace NoteTemplate

inductive FileNode where
  | file (content : ByteArray)
  | directory (entries : List (Text × FileNode))

inductive FileFault where
  | notFound
  | notDirectory
  | isDirectory
  | notUtf8
  | other (message : String)
  deriving DecidableEq, Repr

def FileFault.message : FileFault → String
  | .notFound => "No such file or directory (os error 2)"
  | .notDirectory => "Not a directory (os error 20)"
  | .isDirectory => "Is a directory (os error 21)"
  | .notUtf8 => "stream did not contain valid UTF-8"
  | .other message => message

namespace FileNode

def empty : FileNode := .directory []

def readText : FileNode → Except FileFault Text
  | .directory _ => .error .isDirectory
  | .file content =>
    match String.fromUTF8? content with
    | some s => .ok s.toList
    | none => .error .notUtf8

def insert (leaf : FileNode) : List Text → FileNode → FileNode
  | [], _ => leaf
  | name :: path, node =>
    let entries := match node with
      | .directory entries => entries
      | .file _ => []
    let inner := (entries.lookup name).getD empty
    .directory (entries.filter (·.1 ≠ name) ++ [(name, leaf.insert path inner)])

/-- Follows a path; `above` holds the directories that lead to a node, the nearest first. -/
def follow : List Text → List FileNode → FileNode → Except FileFault FileNode
  | [], _, node => .ok node
  | _ :: _, _, .file _ => .error .notDirectory
  | name :: path, above, .directory entries =>
    if name = [] ∨ name = ['.'] then follow path above (.directory entries)
    else if name = ['.', '.'] then
      match above with
      | parent :: above => follow path above parent
      | [] => .error .notFound
    else match entries.lookup name with
      | some node => follow path (.directory entries :: above) node
      | none => .error .notFound

def find (root : FileNode) (path : Text) : Except FileFault FileNode :=
  match path with
  | [] | '/' :: _ => .error .notFound
  | path => follow (path.splitOn '/') [] root

end FileNode

def joinPath (directory name : Text) : Text :=
  if directory.getLast?.all (· = '/') then directory ++ name else directory ++ '/' :: name

/-- The last name of a path; blanks between slashes and single dots do not count. -/
def lastName? (path : Text) : Option Text :=
  ((path.splitOn '/').filter fun name => name ≠ [] ∧ name ≠ ['.']).getLast?

end NoteTemplate
