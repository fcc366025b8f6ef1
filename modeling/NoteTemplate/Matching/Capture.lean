import NoteTemplate.Expansion.Combination

namespace NoteTemplate

inductive MatchError where
  | missingMatcher (inputType : InputType)
  | missingSubPattern (name : Option Text)
  | invalidRegex (name : Text) (reason : String)
  deriving DecidableEq, Repr

def MatchError.message : MatchError → String
  | .missingMatcher inputType =>
    "no matcher registered for input type '" ++ String.ofList inputType.name ++ "'"
  | .missingSubPattern name =>
    "variable '" ++ String.ofList (name.getD ['_']) ++
      "' has input type 'match' but no sub-pattern"
  | .invalidRegex name reason =>
    "invalid regex for input type '" ++ String.ofList name ++ "': " ++ reason

inductive Capture where
  | single (value : Text)
  /-- Captures to be tried in order until what follows matches as well. -/
  | candidates (values : List (Except MatchError Text))

def Capture.values : Option Capture → List (Except MatchError Text)
  | none => []
  | some (.single value) => [.ok value]
  | some (.candidates values) => values

abbrev Proposer := Text → Variable → List Segment → Except MatchError (Option Capture)

inductive Matcher where
  /-- Proposes what a predicate accepts up to the literal that follows. -/
  | boundary (accepts : Text → Bool)
  /-- Accepts what matches the variable's own nested pattern. -/
  | subPattern
  | plugin (propose : Proposer)

/-- The matchers of input types, the one registered last first. -/
structure Registry where
  entries : List (InputType × Matcher)

namespace Registry

def empty : Registry := ⟨[]⟩

def register (r : Registry) (inputType : InputType) (matcher : Matcher) : Registry :=
  ⟨(inputType, matcher) :: r.entries⟩

def find? (r : Registry) (inputType : InputType) : Option Matcher :=
  (r.entries.find? (·.1 = inputType)).map Prod.snd

def contains (r : Registry) (inputType : InputType) : Bool := (r.find? inputType).isSome

def get (r : Registry) (inputType : InputType) : Except MatchError Matcher :=
  match r.find? inputType with
  | some matcher => .ok matcher
  | none => .error (.missingMatcher inputType)

def faultOf? (r : Registry) (v : Variable) : Option MatchError :=
  if !r.contains v.inputType then some (.missingMatcher v.inputType)
  else if v.inputType = .match ∧ v.pattern.isNone then some (.missingSubPattern v.name)
  else none

def validate (r : Registry) (p : Pattern) : Except MatchError Unit :=
  match (Pattern.variables p).findSome? r.faultOf? with
  | some e => .error e
  | none => .ok ()

end Registry

end NoteTemplate
