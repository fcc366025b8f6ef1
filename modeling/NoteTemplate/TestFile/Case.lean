import NoteTemplate.Markdown.Block
import NoteTemplate.Matching.Result
import NoteTemplate.Toml.Decode

namespace NoteTemplate

inductive ExpectedValue where
  | single (value : Text)
  | list (values : List Text)
  deriving DecidableEq, Repr

namespace ExpectedValue

def accepts : ExpectedValue → FieldValue → Bool
  | .single expected, .single actual => expected == actual
  | .list expected, .list actual => expected == actual
  | _, _ => false

def render : ExpectedValue → Text
  | .single value => value
  | .list values => '[' :: Text.join [',', ' '] values ++ [']']

def ofToml? (v : Toml.Value) : Option ExpectedValue :=
  match v.text? with
  | some t => some (.single t)
  | none => v.texts?.map .list

end ExpectedValue

structure TestConfig where
  description : Option Text
  /-- The named fields that every input has to yield, and no others, in the order of the names. -/
  expectFields : Option (List (Text × ExpectedValue))
  expectNoMatch : Bool
  expectCompileError : Bool
  /-- The regular expressions of custom types, in the order of the names. -/
  customTypes : List (Text × Text)
  deriving DecidableEq, Repr

namespace TestConfig

def keys : List Text :=
  ["description", "expect_fields", "expect_no_match", "expect_compile_error", "custom_types"].map
    String.toList

/-- Every key may be missing; a key that is not known is a fault. -/
def ofTable? (t : Toml.Table) : Option TestConfig := do
  if !t.entries.all (keys.contains ·.1) then none
  let description ← match t.find? "description".toList with
    | some v => v.text?.map some
    | none => some none
  let expectFields ← match t.find? "expect_fields".toList with
    | some v => (v.map? ExpectedValue.ofToml?).map some
    | none => some none
  let expectNoMatch ← match t.find? "expect_no_match".toList with
    | some v => v.bool?
    | none => some false
  let expectCompileError ← match t.find? "expect_compile_error".toList with
    | some v => v.bool?
    | none => some false
  let customTypes ← match t.find? "custom_types".toList with
    | some v => v.map? Toml.Value.text?
    | none => some []
  return ⟨description, expectFields, expectNoMatch, expectCompileError, customTypes⟩

end TestConfig

structure TestCase where
  config : TestConfig
  template : Text
  inputs : List Text
  deriving DecidableEq, Repr

inductive TestFileFault where
  | missingOpening
  | missingClosing
  | config (fault : Toml.ReadFault)
  | secondTemplate
  | missingTemplate
  | missingInput
  deriving DecidableEq, Repr

def TestFileFault.message : TestFileFault → String
  | .missingOpening => "missing opening --- frontmatter delimiter"
  | .missingClosing => "missing closing --- frontmatter delimiter"
  | .config fault => "TOML parse error: " ++ fault.message
  | .secondTemplate => "more than one template block"
  | .missingTemplate => "missing template block"
  | .missingInput => "missing input block"

def splitFront (t : Text) : Except TestFileFault (Text × Text) :=
  match Text.stripPrefix? (t.dropWhile (· = '\uFEFF')) "---".toList with
  | none => .error .missingOpening
  | some opened =>
    match Text.splitAtFirst? "\n---".toList opened with
    | none => .error .missingClosing
    | some (front, body) => .ok ((front.reverse.dropWhile (· = '\r')).reverse, body)

def blocksNamed (name : String) (blocks : List Markdown.FencedBlock) : List Text :=
  (blocks.filter (·.name = name.toList)).map fun b =>
    if b.content.getLast? = some '\n' then b.content.dropLast else b.content

/-- A file needs one block for the template and at least one for an input, the latter only if the
template is expected to compile. -/
def TestCase.parse (t : Text) : Except TestFileFault TestCase :=
  match splitFront t with
  | .error fault => .error fault
  | .ok (front, body) =>
    match Toml.read TestConfig.ofTable? front with
    | .error fault => .error (.config fault)
    | .ok config =>
      let blocks := Markdown.fencedBlocks body
      let inputs := blocksNamed "input" blocks
      match blocksNamed "template" blocks with
      | _ :: _ :: _ => .error .secondTemplate
      | [] => .error .missingTemplate
      | [template] =>
        if inputs.isEmpty && !config.expectCompileError then .error .missingInput
        else .ok ⟨config, template, inputs⟩

end NoteTemplate
