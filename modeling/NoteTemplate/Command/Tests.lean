import NoteTemplate.Command.Categories
import NoteTemplate.TestFile.Check

namespace NoteTemplate

structure Outcome where
  exit : Nat
  out : Text
  err : Text
  deriving DecidableEq, Repr

def unlines (lines : List Text) : Text := lines.flatMap fun line => line ++ ['\n']

def Outcome.ofErr (exit : Nat) (lines : List Text) : Outcome := ⟨exit, [], unlines lines⟩

def paint (color : Bool) (code : String) (t : Text) : Text :=
  if color then "\x1b[".toList ++ code.toList ++ 'm' :: t ++ "\x1b[0m".toList else t

structure FinishedTest where
  path : Text
  report : TestReport

namespace FinishedTest

def run (path : Text) (file : FileNode) : FinishedTest :=
  ⟨path, runTest (file.readText.mapError FileFault.message)⟩

def label (t : FinishedTest) : Text :=
  match t.report.description with
  | some description => description
  | none => ((lastName? t.path).bind (Text.stripSuffix? · testSuffix)).getD ['?']

def failed (t : FinishedTest) : Bool := t.report.failure.isSome

def line (color : Bool) (t : FinishedTest) : Text :=
  let verdict :=
    if t.failed then paint color "31" "FAIL".toList else paint color "32" "PASS".toList
  "  ".toList ++ verdict ++ "  ".toList ++ t.label

def details (t : FinishedTest) : List Text :=
  match t.report.failure with
  | none => []
  | some failure =>
    [[], "  --- ".toList ++ t.path ++ " ---".toList] ++
      (Text.lines failure.message.toList).map ("  ".toList ++ ·)

end FinishedTest

def summary (color : Bool) (tests : List FinishedTest) : List Text :=
  let failures := tests.filter (·.failed)
  let count (n : Nat) : Text := Nat.toDigits 10 n
  let passed := count (tests.length - failures.length) ++ " passed, ".toList
  let details :=
    if failures.isEmpty then [] else [[], "failures:".toList] ++ failures.flatMap (·.details)
  let result :=
    if failures.isEmpty then
      paint color "32" "ok".toList ++ ". ".toList ++ passed ++ "0 failed".toList
    else
      paint color "31" "FAILED".toList ++ ". ".toList ++ passed ++ count failures.length ++
        " failed (of ".toList ++ count tests.length ++ [')']
  details ++ [[], "test result: ".toList ++ result]

def reportTests (color : Bool) (before : List Text)
    (groups : List (List Text × List FinishedTest)) : Outcome :=
  let tests := groups.flatMap Prod.snd
  let lines := groups.flatMap fun (heading, tests) => heading ++ tests.map (·.line color)
  .ofErr (if tests.any (·.failed) then 1 else 0) (before ++ lines ++ summary color tests)

def noTests (path : Text) : Text := "no .test.md files found in ".toList ++ path

def unansweredWarning (all : List Category) (request : Text) : Text :=
  "warning: category '".toList ++ request ++ "' not found (available: ".toList ++
    Text.join [',', ' '] (all.map (·.label)) ++ [')']

def runCategories (color : Bool) (path : Text) (all : List Category) (requests : List Text) :
    Outcome :=
  let (selected, unanswered) := selectCategories all requests
  let warnings := unanswered.map (unansweredWarning all)
  if all.isEmpty then .ofErr 1 [noTests path]
  else if selected.isEmpty then .ofErr 1 (warnings ++ ["no matching categories found".toList])
  else
    reportTests color warnings
      (selected.map fun c =>
        ([[], paint color "1" c.label], c.tests.map fun t => .run t.path t.file))

def listCategories (path : Text) (all : List Category) : List Text :=
  if all.isEmpty then [noTests path]
  else
    "available categories:".toList :: all.map fun c =>
      "  ".toList ++ c.label ++ " (".toList ++ Nat.toDigits 10 c.tests.length ++ " tests)".toList

def runTests (color : Bool) (path : Text) (node : Except FileFault FileNode)
    (requests : List Text) (listOnly : Bool) : Outcome :=
  match node with
  | .ok (.file content) =>
    if listOnly then .ofErr 0 ["(single file, no categories)".toList]
    else reportTests color [] [([], [.run path (.file content)])]
  | found =>
    let all := categoriesOf ((found.toOption.map (FileNode.tests path)).getD [])
    if listOnly then .ofErr 0 (listCategories path all) else runCategories color path all requests

end NoteTemplate
