import NoteTemplate.Toml.Document

namespace NoteTemplate.Toml

namespace Value

def text? : Value → Option Text
  | .string t => some t
  | _ => none

def bool? : Value → Option Bool
  | .boolean b => some b
  | _ => none

def items? : Value → Option (List Value)
  | .array items => some items
  | .tables contents => some (contents.map .table)
  | _ => none

/-- The entries of a table. A date counts as a table with its text under a key of its own. -/
def entries? : Value → Option (List (Text × Value))
  | .table content => some content.entries
  | .datetime text => some [("$__toml_private_datetime".toList, .string text)]
  | _ => none

/-- The parts of a record, which is a table with keys or an array of the parts in their order. What
lies beyond them is passed over. -/
def parts? (keys : List Text) (v : Value) : Option (List (Option Value)) :=
  match v.items? with
  | some items => some ((List.range keys.length).map (items[·]?))
  | none => v.entries?.map fun entries => keys.map (List.lookup · entries)

def texts? (v : Value) : Option (List Text) := v.items?.bind (·.mapM text?)

end Value

def sortEntries {α : Type} (entries : List (Text × α)) : List (Text × α) :=
  entries.mergeSort fun a b => a.1.precedes b.1

def Value.map? {α : Type} (read : Value → Option α) (v : Value) :
    Option (List (Text × α)) := do
  let entries ← v.entries?
  let values ← entries.mapM fun entry => read entry.2
  return sortEntries ((entries.map Prod.fst).zip values)

inductive ReadFault where
  | document (fault : Fault)
  /-- Something is missing in the document, or of another kind than expected. -/
  | shape
  deriving DecidableEq, Repr

def ReadFault.message : ReadFault → String
  | .document fault => fault.message
  | .shape => "unexpected value"

def read {α : Type} (ofTable? : Table → Option α) (t : Text) : Except ReadFault α :=
  match parse t with
  | .error fault => .error (.document fault)
  | .ok table =>
    match ofTable? table with
    | some a => .ok a
    | none => .error .shape

end NoteTemplate.Toml
