import NoteTemplate.Text.Blank
import NoteTemplate.Text.CaseFolding
import NoteTemplate.Text.DecimalDigit
import NoteTemplate.Text.Named

namespace NoteTemplate.Regex

inductive CharClass where
  | none
  | range (first last : Char)
  | word
  | digit
  | blank
  | table (members : Text.CharTable)
  | categories (members : List Text.GeneralCategory)
  | union (a b : CharClass)
  | inter (a b : CharClass)
  | diff (a b : CharClass)
  | negate (a : CharClass)
  /-- The class together with the other letter cases of its members. -/
  | caseless (a : CharClass)
  | caselessAscii (a : CharClass)
  deriving DecidableEq

namespace CharClass

def single (c : Char) : CharClass := .range c c

def any : CharClass := .negate .none

def ofRanges (ranges : List (Char × Char)) : CharClass :=
  ranges.foldr (fun (a, b) cls => .union (.range a b) cls) .none

def symmetricDiff (a b : CharClass) : CharClass := .union (.diff a b) (.diff b a)

def negateIf (negated : Bool) (a : CharClass) : CharClass := if negated then .negate a else a

def contains : CharClass → Char → Bool
  | .none, _ => false
  | .range first last, c => first ≤ c && c ≤ last
  | .word, c => Text.isWordChar c
  | .digit, c => Text.isDecimalDigit c
  | .blank, c => Text.isBlank c
  | .table members, c => members.contains c
  | .categories members, c => members.any fun g => g.table.contains c
  | .union a b, c => a.contains c || b.contains c
  | .inter a b, c => a.contains c && b.contains c
  | .diff a b, c => a.contains c && !b.contains c
  | .negate a, c => !a.contains c
  | .caseless a, c => (Text.caseVariants c).any fun d => a.contains d
  | .caselessAscii a, c => a.contains c || a.contains c.toLower || a.contains c.toUpper

def isAscii (a : CharClass) : Bool :=
  (List.range 128).all fun n => !a.contains (Char.ofNat (128 + n))

end CharClass

end NoteTemplate.Regex
