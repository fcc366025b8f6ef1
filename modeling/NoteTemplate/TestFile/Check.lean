import NoteTemplate.Rules.Set
import NoteTemplate.TestFile.Case

/-!
Running a test: its template is the one rule of a rule set, and what the rule set answers to the
inputs is compared with what is expected.
-/
namespace NoteTemplate

inductive TestFailure where
  | unreadable (reason : String)
  | file (fault : TestFileFault)
  | otherError (e : RuleError)
  | compiled
  | notCompiled (errors : List CompileError)
  | rules (e : RuleError)
  | matched (input : Text) (fields : Nat)
  | noMatch (input : Text)
  | differentValue (input name : Text) (expected : ExpectedValue) (actual : FieldValue)
  | missingField (input name : Text) (expected : ExpectedValue)
  | unexpectedFields (input : Text) (names : List Text)

namespace TestFailure

private def ofInput (input : Text) (reason : String) : String :=
  "input \"" ++ String.ofList input ++ "\": " ++ reason

def message : TestFailure → String
  | .unreadable reason => "cannot read file: " ++ reason
  | .file fault => "test file error: " ++ fault.message
  | .otherError e => "expected compile error, got: " ++ e.message
  | .compiled => "expected compile error, but the template compiled"
  | .notCompiled errors =>
    "unexpected compile error: " ++ "; ".intercalate (errors.map (·.message))
  | .rules e => e.message
  | .matched input fields =>
    ofInput input ("expected no match, matched with " ++ toString fields ++ " field(s)")
  | .noMatch input => ofInput input "no match"
  | .differentValue input name expected actual =>
    ofInput input ("field '" ++ String.ofList name ++ "'\n  expected: " ++
      String.ofList expected.render ++ "\n  actual:   " ++ String.ofList actual.render)
  | .missingField input name expected =>
    ofInput input ("field '" ++ String.ofList name ++ "' missing (expected " ++
      String.ofList expected.render ++ ")")
  | .unexpectedFields input names =>
    ofInput input ("unexpected field(s): " ++ String.ofList (Text.join [',', ' '] names))

end TestFailure

def faultyField? (input : Text) (result : MatchResult) :
    List (Text × ExpectedValue) → Option TestFailure
  | [] => none
  | (name, expected) :: rest =>
    match result.value? name with
    | none => some (.missingField input name expected)
    | some actual =>
      if expected.accepts actual then faultyField? input result rest
      else some (.differentValue input name expected actual)

/-- Each expected field has its value, and there is no other named field. -/
def checkFields (input : Text) (result : MatchResult) (expected : List (Text × ExpectedValue)) :
    Option TestFailure :=
  match faultyField? input result expected with
  | some failure => some failure
  | none =>
    let extra := (result.fields.filterMap (·.name)).filter fun name =>
      !(expected.map Prod.fst).contains name
    if extra.isEmpty then none else some (.unexpectedFields input extra)

def checkAnswer (config : TestConfig) (input : Text) : Option MatchResult → Option TestFailure
  | none => if config.expectNoMatch then none else some (.noMatch input)
  | some result =>
    if config.expectNoMatch then some (.matched input result.fields.length)
    else config.expectFields.bind (checkFields input result)

def checkInputs (config : TestConfig) : RuleSet → List Text → Option TestFailure
  | _, [] => none
  | rules, input :: inputs =>
    match rules.matchInput input with
    | (.error e, _) => some (.rules e)
    | (.ok answer, rules) =>
      match checkAnswer config input (answer.map Prod.snd) with
      | some failure => some failure
      | none => checkInputs config rules inputs

namespace TestCase

def rulesFile (case : TestCase) : RulesFile :=
  ⟨case.config.customTypes, [⟨"template".toList, case.template⟩]⟩

def check (case : TestCase) : Option TestFailure :=
  match RuleSet.ofFile case.rulesFile with
  | .error (.compile _ _ errors) =>
    if case.config.expectCompileError then none else some (.notCompiled errors)
  | .error e => some (if case.config.expectCompileError then .otherError e else .rules e)
  | .ok rules =>
    if case.config.expectCompileError then some .compiled
    else checkInputs case.config rules case.inputs

end TestCase

structure TestReport where
  description : Option Text
  failure : Option TestFailure

def runTest (content : Except String Text) : TestReport :=
  match content with
  | .error reason => ⟨none, some (.unreadable reason)⟩
  | .ok content =>
    match TestCase.parse content with
    | .error fault => ⟨none, some (.file fault)⟩
    | .ok case => ⟨case.config.description, case.check⟩

end NoteTemplate
