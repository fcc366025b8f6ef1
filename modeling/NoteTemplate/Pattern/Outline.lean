import NoteTemplate.Outline
import NoteTemplate.Pattern.Basic
import NoteTemplate.Text.Quoted

namespace NoteTemplate

namespace Outline

def tuple (name : String) (part : Outline) : Outline :=
  .group (name.toList ++ ['(']) [part] [')']

def record (name : String) (parts : List (String × Outline)) : Outline :=
  .group (name.toList ++ [' ', '\x7b'])
    (parts.map fun (field, part) => .labelled (field.toList ++ [':', ' ']) part) ['\x7d']

def list (items : List Outline) : Outline := .group ['['] items [']']

def ofText (t : Text) : Outline := .leaf (Text.shown t)

def ofOption : Option Outline → Outline
  | some part => tuple "Some" part
  | none => .leaf "None".toList

def ofInputType : InputType → Outline
  | .text => .leaf "Text".toList
  | .word => .leaf "Word".toList
  | .number => .leaf "Number".toList
  | .url => .leaf "Url".toList
  | .email => .leaf "Email".toList
  | .phone => .leaf "Phone".toList
  | .database => .leaf "Database".toList
  | .match => .leaf "Match".toList
  | .custom name => tuple "Custom" (ofText name)

def ofTokens (tokens : List Outline) : Outline := record "Pattern" [("tokens", list tokens)]

def ofVariable (name : Option Text) (inputType : InputType) (pattern : Option Outline) : Outline :=
  record "Variable"
    [("name", ofOption (name.map ofText)), ("input_type", ofInputType inputType),
      ("pattern", ofOption pattern)]

end Outline

mutual

def Pattern.outlines : List Token → List Outline
  | [] => []
  | t :: p => Token.outline t :: Pattern.outlines p

def Token.outline : Token → Outline
  | .text literal => .tuple "Text" (.ofText literal)
  | .variable v => .tuple "Variable" (Variable.outline v)
  | .optional body => .tuple "Optional" (.ofTokens (Pattern.outlines body))
  | .variational branches => .tuple "Variational" (.list (Pattern.branchOutlines branches))
  | .anyOrder branches => .tuple "AnyOrder" (.list (Pattern.branchOutlines branches))

def Variable.outline : Variable → Outline
  | ⟨name, inputType, none⟩ => .ofVariable name inputType none
  | ⟨name, inputType, some p⟩ =>
    .ofVariable name inputType (some (.ofTokens (Pattern.outlines p)))

def Pattern.branchOutlines : List (List Token) → List Outline
  | [] => []
  | p :: ps => .ofTokens (Pattern.outlines p) :: Pattern.branchOutlines ps

end

def Pattern.outline (p : Pattern) : Outline := .ofTokens (Pattern.outlines p)

def Pattern.tree (p : Pattern) : Text := (Pattern.outline p).render ⟨4, true⟩ []

end NoteTemplate
