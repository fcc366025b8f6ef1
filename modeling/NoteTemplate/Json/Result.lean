import NoteTemplate.Json.Basic
import NoteTemplate.Matching.Result

namespace NoteTemplate

namespace Json

def ofText? : Option Text → Json := ofOption .string

def ofSpan (span : Span) : Json :=
  .ofEntries [("start", .number span.start), ("end", .number span.stop)]

def ofKind (kind : String) (value : Json) : Json :=
  .ofEntries [("kind", .string kind.toList), ("value", value)]

def ofTokens (tokens : List Json) : Json := .ofEntries [("tokens", .array tokens)]

def ofVariable (name : Option Text) (inputType : InputType) (pattern : Json) : Json :=
  .ofEntries
    [("name", ofText? name), ("input_type", .string inputType.name), ("pattern", pattern)]

end Json

mutual

def Pattern.jsonTokens : List Token → List Json
  | [] => []
  | t :: p => Token.json t :: Pattern.jsonTokens p

def Token.json : Token → Json
  | .text literal => .ofKind "text" (.string literal)
  | .variable v => .ofKind "variable" (Variable.json v)
  | .optional body => .ofKind "optional" (.ofTokens (Pattern.jsonTokens body))
  | .variational branches => .ofKind "variational" (.array (Pattern.jsonBranches branches))
  | .anyOrder branches => .ofKind "any_order" (.array (Pattern.jsonBranches branches))

def Variable.json : Variable → Json
  | ⟨name, inputType, none⟩ => .ofVariable name inputType .null
  | ⟨name, inputType, some p⟩ => .ofVariable name inputType (.ofTokens (Pattern.jsonTokens p))

def Pattern.jsonBranches : List (List Token) → List Json
  | [] => []
  | p :: ps => .ofTokens (Pattern.jsonTokens p) :: Pattern.jsonBranches ps

end

def Segment.json : Segment → Json
  | .text literal => .ofKind "text" (.string literal)
  | .variable v => .ofKind "variable" v.json

def Combination.json (c : Combination) : Json :=
  .ofEntries [("segments", .array (c.segments.map Segment.json)), ("score", .number c.score)]

def FieldValue.json : FieldValue → Json
  | .single value => .string value
  | .list values => .array (values.map .string)

def Field.json (f : Field) : Json :=
  .ofEntries
    [("name", .ofText? f.name), ("input_type", .string f.inputType.name), ("value", f.value.json)]

def MatchResult.json (r : MatchResult) : Json :=
  .ofEntries
    [("fields", .array (r.fields.map Field.json)), ("combination", r.combination.json),
      ("spans", .array (r.spans.map .ofSpan))]

end NoteTemplate
