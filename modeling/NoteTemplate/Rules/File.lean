import NoteTemplate.Toml.Decode

namespace NoteTemplate

structure Rule where
  name : Text
  template : Text
  deriving DecidableEq, Repr

structure RulesFile where
  /-- The regular expressions of the custom types, in the order of the names. -/
  types : List (Text × Text)
  rules : List Rule
  deriving DecidableEq, Repr

namespace RulesFile

def readType (v : Toml.Value) : Option Text :=
  match v.parts? ["regex".toList] with
  | some [some regex] => regex.text?
  | _ => none

def readRule (v : Toml.Value) : Option Rule :=
  match v.parts? ["name".toList, "template".toList] with
  | some [some name, some template] => do return ⟨← name.text?, ← template.text?⟩
  | _ => none

def ofTable? (t : Toml.Table) : Option RulesFile := do
  let types ← match t.find? "types".toList with
    | some v => v.map? readType
    | none => some []
  let rules ← match t.find? "rule".toList with
    | some v => v.items?.bind (·.mapM readRule)
    | none => some []
  return ⟨types, rules⟩

def parse (t : Text) : Except Toml.ReadFault RulesFile := Toml.read ofTable? t

def customTypes (file : RulesFile) : List Text := file.types.map Prod.fst

end RulesFile

end NoteTemplate
