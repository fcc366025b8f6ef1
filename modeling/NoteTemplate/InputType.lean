import NoteTemplate.Text.Basic

namespace NoteTemplate

inductive InputType where
  | text
  /-- A run of non-blank characters. -/
  | word
  | number
  | url
  | email
  | phone
  /-- A word that is captured even without a variable name. -/
  | database
  /-- The captured text has to match the variable's own nested pattern. -/
  | match
  /-- A type served by a matcher registered under its name. -/
  | custom (name : Text)
  deriving DecidableEq, Repr, Inhabited

namespace InputType

def builtins : List InputType :=
  [.text, .word, .number, .url, .email, .phone, .database, .match]

def name : InputType → Text
  | .text => "text".toList
  | .word => "word".toList
  | .number => "number".toList
  | .url => "url".toList
  | .email => "email".toList
  | .phone => "phone".toList
  | .database => "database".toList
  | .match => "match".toList
  | .custom name => name

def ofBuiltinName? (name : Text) : Option InputType :=
  builtins.find? (·.name = name)

def isBuiltin : InputType → Bool
  | .custom _ => false
  | _ => true

def weight : InputType → Nat
  | .text => 1
  | .word | .database => 2
  | _ => 3

end InputType

end NoteTemplate
