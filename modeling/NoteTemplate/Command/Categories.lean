import NoteTemplate.Command.Files

namespace NoteTemplate

structure FoundTest where
  /-- The names that lead to it from that directory, its own one last. -/
  names : List Text
  path : Text
  file : FileNode

def testSuffix : Text := ".test.md".toList

def testsAmong (names : List Text) (path : Text) : List (Text × FileNode) → List FoundTest
  | [] => []
  | (name, .file content) :: rest =>
    let found : List FoundTest :=
      if (name.stripSuffix? testSuffix).isSome then
        [⟨names ++ [name], joinPath path name, .file content⟩]
      else []
    found ++ testsAmong names path rest
  | (name, .directory entries) :: rest =>
    testsAmong (names ++ [name]) (joinPath path name) entries ++ testsAmong names path rest

def FileNode.tests (path : Text) : FileNode → List FoundTest
  | .file _ => []
  | .directory entries => testsAmong [] path entries

def FoundTest.category (t : FoundTest) : Text :=
  (Text.join ['/'] t.names.dropLast).map fun c => if c = '\\' then '/' else c

/-- The names with a character between them that comes before all others. -/
def FoundTest.sortKey (t : FoundTest) : Text := Text.join ['\x00'] t.names

structure Category where
  name : Text
  tests : List FoundTest

def categoriesOf (tests : List FoundTest) : List Category :=
  let sorted := tests.mergeSort fun a b => a.sortKey.precedes b.sortKey
  let names := ((tests.map (·.category)).mergeSort Text.precedes).eraseDups
  names.map fun name => ⟨name, sorted.filter (·.category = name)⟩

def Category.label (c : Category) : Text := if c.name.isEmpty then "(root)".toList else c.name

def Category.answers (request : Text) (c : Category) : Bool :=
  c.name == request || (c.name.stripPrefix? (request ++ ['/'])).isSome

structure Selection where
  chosen : List Text
  unanswered : List Text
  deriving DecidableEq, Repr

def trimRequest (request : Text) : Text :=
  ((request.dropWhile (· = '/')).reverse.dropWhile (· = '/')).reverse

def Selection.add (all : List Category) (s : Selection) (request : Text) : Selection :=
  let request := trimRequest request
  let answers := (all.filter (·.answers request)).map (·.name)
  match answers.filter fun name => !s.chosen.contains name with
  | [] => { s with unanswered := s.unanswered ++ [request] }
  | added => { s with chosen := s.chosen ++ added }

/-- The requested categories in their order, or all of them if there is no request; and the requests
that added none. -/
def selectCategories (all : List Category) (requests : List Text) : List Category × List Text :=
  match requests with
  | [] => (all, [])
  | requests =>
    let s := requests.foldl (Selection.add all) ⟨[], []⟩
    (all.filter fun c => s.chosen.contains c.name, s.unanswered)

end NoteTemplate
