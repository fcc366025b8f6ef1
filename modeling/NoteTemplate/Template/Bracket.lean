import NoteTemplate.Text.Basic

namespace NoteTemplate

inductive Bracket where
  | curly
  | square
  | round
  | angle
  deriving DecidableEq, Repr, Inhabited

namespace Bracket

def opener : Bracket → Char
  | .curly => '{'
  | .square => '['
  | .round => '('
  | .angle => '<'

def closer : Bracket → Char
  | .curly => '}'
  | .square => ']'
  | .round => ')'
  | .angle => '>'

def ofOpener? : Char → Option Bracket
  | '{' => some .curly
  | '[' => some .square
  | '(' => some .round
  | '<' => some .angle
  | _ => none

def ofCloser? : Char → Option Bracket
  | '}' => some .curly
  | ']' => some .square
  | ')' => some .round
  | '>' => some .angle
  | _ => none

end Bracket

def isSpecial (c : Char) : Bool :=
  (Bracket.ofOpener? c).isSome || (Bracket.ofCloser? c).isSome || c == '|' || c == '\\'

def escape (special : Char → Bool) : Text → Text
  | [] => []
  | c :: t => if special c then '\\' :: c :: escape special t else c :: escape special t

/-- A backslash stands for the character after it, and for itself at the end. -/
def unescape : Text → Text
  | '\\' :: c :: t => c :: unescape t
  | c :: t => c :: unescape t
  | [] => []

end NoteTemplate
