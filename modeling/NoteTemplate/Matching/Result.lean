import NoteTemplate.Expansion.Combination

namespace NoteTemplate

inductive FieldValue where
  | single (value : Text)
  | list (values : List Text)
  deriving DecidableEq, Repr

namespace FieldValue

def push (value : Text) : FieldValue → FieldValue
  | .single first => .list [first, value]
  | .list values => .list (values ++ [value])

def asSingle? : FieldValue → Option Text
  | .single value => some value
  | .list _ => none

def values : FieldValue → List Text
  | .single value => [value]
  | .list values => values

def render : FieldValue → Text
  | .single value => value
  | .list values => '[' :: Text.join [',', ' '] values ++ [']']

end FieldValue

structure Field where
  name : Option Text
  inputType : InputType
  value : FieldValue
  deriving DecidableEq, Repr

structure Captured where
  slot : Variable
  value : Text
  span : Span

structure MatchResult where
  fields : List Field
  combination : Combination
  spans : List Span
  deriving DecidableEq

/-- Adds a capture to the field of its name, which keeps the type it had first. -/
def addCapture (c : Captured) : List Field → List Field
  | [] => [⟨c.slot.name, c.slot.inputType, .single c.value⟩]
  | f :: fs =>
    if f.name = c.slot.name then { f with value := f.value.push c.value } :: fs
    else f :: addCapture c fs

/-- Wraps the text under each span in markers; spans that lie outside the text, cut a character or
go back behind an earlier one are passed over. -/
def highlightFrom (input opening closing : Text) : Nat → List Span → Text
  | offset, [] => (input.dropBytes? offset).getD []
  | offset, span :: spans =>
    match input.slice? ⟨offset, span.start⟩, input.slice? span with
    | some before, some value =>
      before ++ opening ++ value ++ closing ++ highlightFrom input opening closing span.stop spans
    | _, _ => highlightFrom input opening closing offset spans

namespace MatchResult

def ofCaptured (combination : Combination) (captured : List Captured) : MatchResult :=
  let kept := captured.filter (·.slot.isCaptured)
  ⟨kept.foldl (fun fields c => addCapture c fields) [], combination, kept.map (·.span)⟩

def field? (r : MatchResult) (name : Text) : Option Field :=
  r.fields.find? (·.name = some name)

def value? (r : MatchResult) (name : Text) : Option FieldValue :=
  (r.field? name).map (·.value)

def highlight (r : MatchResult) (input opening closing : Text) : Text :=
  highlightFrom input opening closing 0 r.spans

end MatchResult

end NoteTemplate
