import NoteTemplate.Text.Basic

namespace NoteTemplate.Toml

inductive Origin where
  /-- By a header of its own, or the table of the whole document. -/
  | header
  /-- As a part of the path of some header. -/
  | implied
  /-- By a dotted key. -/
  | dotted
  | inline
  deriving DecidableEq, Repr

mutual

inductive Value where
  | string (text : Text)
  | integer (value : Int)
  /-- Floating-point numbers are kept as they are written. -/
  | float (text : Text)
  | boolean (value : Bool)
  /-- Dates and times are kept in their canonical spelling. -/
  | datetime (text : Text)
  | array (items : List Value)
  | table (content : Table)
  | tables (contents : List Table)

structure Table where
  origin : Origin
  entries : List (Text × Value)

end

namespace Table

def empty (origin : Origin) : Table := ⟨origin, []⟩

def find? (t : Table) (key : Text) : Option Value := (t.entries.find? (·.1 = key)).map Prod.snd

def insert (t : Table) (key : Text) (value : Value) : Table :=
  if (t.find? key).isSome then
    { t with entries := t.entries.map fun (k, v) => if k = key then (k, value) else (k, v) }
  else { t with entries := t.entries ++ [(key, value)] }

end Table

inductive Fault where
  | unexpectedCharacter
  | unexpectedEnd
  | badString
  | badNumber
  | badDate
  | badKey
  | duplicateKey (key : Text)
  | notATable (key : Text)
  | tooDeep
  deriving DecidableEq, Repr

def Fault.message : Fault → String
  | .unexpectedCharacter => "unexpected character"
  | .unexpectedEnd => "unexpected end of input"
  | .badString => "invalid string"
  | .badNumber => "invalid number"
  | .badDate => "invalid date or time"
  | .badKey => "invalid key"
  | .duplicateKey key => "duplicate key '" ++ String.ofList key ++ "'"
  | .notATable key => "'" ++ String.ofList key ++ "' is not a table"
  | .tooDeep => "nested too deeply"

end NoteTemplate.Toml
