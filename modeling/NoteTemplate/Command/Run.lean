import NoteTemplate.Command.Arguments
import NoteTemplate.Command.Tests
import NoteTemplate.Json.Result
import NoteTemplate.Pattern.Outline
import NoteTemplate.Template.Report

namespace NoteTemplate

namespace Outcome

def ofOut (exit : Nat) (lines : List Text) : Outcome := ⟨exit, unlines lines, []⟩

def failure (message : String) : Outcome := .ofErr 1 ["error: ".toList ++ message.toList]

end Outcome

def reportErrors (name source : Text) (errors : List CompileError) : Text :=
  errors.flatMap (·.report name source)

def withTemplate (template : Text) (next : Pattern → Outcome) : Outcome :=
  match compile template [] with
  | .ok p => next p
  | .error errors => ⟨1, [], reportErrors "<template>".toList template errors⟩

def padLeft (width : Nat) (n : Nat) : Text :=
  let digits := Nat.toDigits 10 n
  blanks (width - digits.length) ++ digits

def fieldLine (f : Field) : Text :=
  "  ".toList ++ f.name.getD ['_'] ++ " (".toList ++ f.inputType.name ++ ") = ".toList ++
    f.value.render

def resultLines (input : Text) (rule : Option Text) (style : MatchStyle) :
    Option MatchResult → List Text
  | none => [input ++ ": no match".toList]
  | some r =>
    let heading := match rule with
      | some name => input ++ ": matched '".toList ++ name ++ ['\'']
      | none => input ++ [':']
    let highlight := "  ".toList ++ r.highlight input ['['] [']']
    let combination :=
      "  via ".toList ++ r.combination.render ++ " (score ".toList ++
        Nat.toDigits 10 r.combination.score ++ [')']
    [heading] ++ (if style.highlight then [highlight] else []) ++
      (if style.combination then [combination] else []) ++ r.fields.map fieldLine

def plainStyle : MatchStyle := ⟨false, false, false⟩

def answerJson (input : Text) (result : Option MatchResult) : Json :=
  .ofEntries [("input", .string input), ("result", .ofOption MatchResult.json result)]

def ruleAnswerJson (input : Text) (answer : Option (Text × MatchResult)) : Json :=
  .ofEntries
    [("input", .string input), ("rule", .ofOption (.string ·.1) answer),
      ("result", .ofOption (·.2.json) answer)]

def matchInputs (template : Text) (inputs : List Text) (style : MatchStyle) : Outcome :=
  withTemplate template fun p =>
    match Registry.builtin.validate p with
    | .error e => .failure e.message
    | .ok () =>
      let combinations := expand p
      match inputs.mapM fun input => matchCombinations input combinations .builtin with
      | .error e => .failure e.message
      | .ok results =>
        let answers := inputs.zip results
        let lines :=
          if style.json then
            [Json.render (.array (answers.map fun (input, r) => answerJson input r))]
          else answers.flatMap fun (input, r) => resultLines input none style r
        .ofOut (if results.all Option.isSome then 0 else 1) lines

def expandTemplate (template : Text) : Outcome :=
  withTemplate template fun p =>
    let combinations := expand p
    let width := (Nat.toDigits 10 combinations.length).length
    .ofOut 0 (combinations.zipIdx.map fun (c, rank) =>
      padLeft width (rank + 1) ++ ". [".toList ++ padLeft 3 c.score ++ "] ".toList ++ c.render)

def checkTemplate (template : Text) (showTree : Bool) : Outcome :=
  withTemplate template fun p =>
    if showTree then .ofOut 0 [Pattern.tree p]
    else .ofErr 0 ["ok: ".toList ++ Pattern.render p]

def ruleAnswers : RuleSet → List Text →
    List (Text × Option (Text × MatchResult)) × Option RuleError
  | _, [] => ([], none)
  | rules, input :: inputs =>
    match rules.matchInput input with
    | (.error e, _) => ([], some e)
    | (.ok answer, rules) =>
      let (answers, e) := ruleAnswers rules inputs
      ((input, answer) :: answers, e)

def ruleLines (answers : List (Text × Option (Text × MatchResult))) : List Text :=
  answers.flatMap fun (input, answer) =>
    resultLines input (answer.map Prod.fst) plainStyle (answer.map Prod.snd)

/-- Answers inputs by the rules of a file. Before an error, only lines are written, but no JSON. -/
def answerByRules (rules : RuleSet) (inputs : List Text) (json : Bool) : Outcome :=
  match ruleAnswers rules inputs with
  | (answers, some e) =>
    { Outcome.failure e.message with out := if json then [] else unlines (ruleLines answers) }
  | (answers, none) =>
    let lines :=
      if json then
        [Json.render
          (.array (answers.map fun (input, answer) => (ruleAnswerJson input answer).sortKeys))]
      else ruleLines answers
    .ofOut (if answers.all (·.2.isSome) then 0 else 1) lines

def matchRules (path : Text) (node : Except FileFault FileNode) (inputs : List Text)
    (json : Bool) : Outcome :=
  match node >>= FileNode.readText with
  | .error fault => .failure (RuleError.unreadable path fault.message).message
  | .ok content =>
    match RulesFile.parse content with
    | .error fault => .failure (RuleError.file fault).message
    | .ok file =>
      match RuleSet.ofFile file with
      | .ok rules => answerByRules rules inputs json
      | .error (.compile rule template errors) =>
        let failure := Outcome.failure (RuleError.compile rule template errors).message
        let name := "rule '".toList ++ rule ++ ['\'']
        { failure with err := failure.err ++ reportErrors name template errors }
      | .error e => .failure e.message

def Task.path? : Task → Option Text
  | .matchRules file _ _ => some file
  | .runTests path _ _ => some path
  | _ => none

def Invocation.run (find : Text → Except FileFault FileNode) (i : Invocation) : Outcome :=
  match i.task with
  | .matchInputs template inputs style => matchInputs template inputs style
  | .expandTemplate template => expandTemplate template
  | .checkTemplate template showTree => checkTemplate template showTree
  | .matchRules file inputs json => matchRules file (find file) inputs json
  | .runTests path categories listOnly => runTests i.color path (find path) categories listOnly

def usage : Text :=
  "Usage: notepat [--no-color] [-v] <match|expand|check|rules|test> [OPTIONS] <ARGS>".toList

def ArgumentStop.outcome : ArgumentStop → Outcome
  | .misuse => .ofErr 2 [usage]
  | .help => .ofOut 0 [usage]
  | .version => .ofOut 0 ["notepat 0.1.0".toList]

def runCommand (find : Text → Except FileFault FileNode) (args : List Text) : Outcome :=
  match Invocation.ofArguments args with
  | .error stop => stop.outcome
  | .ok invocation => invocation.run find

end NoteTemplate
