import NoteTemplate.Pattern.Basic
import NoteTemplate.Template.Bracket

namespace NoteTemplate

def Variable.renderName : Option Text → Text
  | none => []
  | some name => escape (fun c => isSpecial c || c == ':') name

/-- A nested pattern spelled like a type name gets a backslash, so that it reads as a pattern. -/
def Variable.renderNested (rendered : Text) : Text :=
  if (InputType.ofBuiltinName? rendered).isSome then ':' :: '\\' :: rendered else ':' :: rendered

mutual

def Pattern.render : List Token → Text
  | [] => []
  | t :: p => Token.render t ++ Pattern.render p

def Token.render : Token → Text
  | .text literal => escape isSpecial literal
  | .variable v => Variable.render v
  | .optional body => '[' :: Pattern.render body ++ [']']
  | .variational branches => '(' :: Pattern.renderBranches branches ++ [')']
  | .anyOrder branches => '<' :: Pattern.renderBranches branches ++ ['>']

def Variable.render : Variable → Text
  | ⟨_, .database, _⟩ => '{' :: InputType.database.name ++ ['}']
  | ⟨name, .text, _⟩ => '{' :: Variable.renderName name ++ ['}']
  | ⟨name, .match, some p⟩ =>
    '{' :: Variable.renderName name ++ Variable.renderNested (Pattern.render p) ++ ['}']
  | ⟨name, inputType, _⟩ => '{' :: Variable.renderName name ++ ':' :: inputType.name ++ ['}']

def Pattern.renderBranches : List (List Token) → Text
  | [] => []
  | p :: ps => Pattern.render p ++ Pattern.renderMoreBranches ps

def Pattern.renderMoreBranches : List (List Token) → Text
  | [] => []
  | p :: ps => '|' :: Pattern.render p ++ Pattern.renderMoreBranches ps

end

end NoteTemplate
