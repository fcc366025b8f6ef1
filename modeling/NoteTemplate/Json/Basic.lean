import NoteTemplate.Outline
import NoteTemplate.Text.Quoted

namespace NoteTemplate

inductive Json where
  | null
  | number (n : Nat)
  | string (text : Text)
  | array (items : List Json)
  /-- The keys of an object and, in the same order, its values. -/
  | object (keys : List Text) (values : List Json)

namespace Json

def ofOption {α : Type} (f : α → Json) : Option α → Json
  | some a => f a
  | none => .null

def ofEntries (entries : List (String × Json)) : Json :=
  .object (entries.map (·.1.toList)) (entries.map Prod.snd)

mutual

def sortKeys : Json → Json
  | .null => .null
  | .number n => .number n
  | .string text => .string text
  | .array items => .array (sortAll items)
  | .object keys values =>
    let entries := (keys.zip (sortAll values)).mergeSort fun a b => a.1.precedes b.1
    .object (entries.map Prod.fst) (entries.map Prod.snd)

def sortAll : List Json → List Json
  | [] => []
  | item :: items => sortKeys item :: sortAll items

end

mutual

def outline : Json → Outline
  | .null => .leaf "null".toList
  | .number n => .leaf (Nat.toDigits 10 n)
  | .string text => .leaf (Text.jsonString text)
  | .array items => .group ['['] (outlines items) [']']
  | .object keys values =>
    .group ['\x7b']
      ((keys.zip (outlines values)).map fun (key, value) =>
        .labelled (Text.jsonString key ++ [':', ' ']) value)
      ['\x7d']

def outlines : List Json → List Outline
  | [] => []
  | item :: items => outline item :: outlines items

end

def render (json : Json) : Text := json.outline.render ⟨2, false⟩ []

end Json

end NoteTemplate
