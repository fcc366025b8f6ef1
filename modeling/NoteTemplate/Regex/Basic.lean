import NoteTemplate.Regex.CharClass

/-!
Regular expressions with assertions about the place between two characters, and the search for a
match anywhere in a text. The search goes through the text once with the expressions that are still
to be matched.
-/
namespace NoteTemplate

namespace Regex

inductive Look where
  | start
  | stop
  | lineStart
  | lineStop
  /-- Lines end in CR, in LF or in both. -/
  | crlfStart
  | crlfStop
  | wordBoundary (ascii : Bool)
  | notWordBoundary (ascii : Bool)
  | wordStart (ascii : Bool)
  | wordStop (ascii : Bool)
  | wordStartHalf (ascii : Bool)
  | wordStopHalf (ascii : Bool)
  deriving DecidableEq, Repr

namespace Look

def isWord (ascii : Bool) (c : Option Char) : Bool :=
  c.any fun c => if ascii then c.isAlphanum || c == '_' else Text.isWordChar c

def holds (previous next : Option Char) : Look → Bool
  | .start => previous.isNone
  | .stop => next.isNone
  | .lineStart => previous.isNone || previous == some '\n'
  | .lineStop => next.isNone || next == some '\n'
  | .crlfStart =>
    previous.isNone || previous == some '\n' || (previous == some '\r' && next != some '\n')
  | .crlfStop =>
    next.isNone || next == some '\r' || (next == some '\n' && previous != some '\r')
  | .wordBoundary ascii => isWord ascii previous != isWord ascii next
  | .notWordBoundary ascii => isWord ascii previous == isWord ascii next
  | .wordStart ascii => !isWord ascii previous && isWord ascii next
  | .wordStop ascii => isWord ascii previous && !isWord ascii next
  | .wordStartHalf ascii => !isWord ascii previous
  | .wordStopHalf ascii => !isWord ascii next

end Look

end Regex

inductive Regex where
  | empty
  | chars (members : Regex.CharClass)
  | look (assertion : Regex.Look)
  | cat (a b : Regex)
  | alt (a b : Regex)
  | star (a : Regex)
  deriving DecidableEq

namespace Regex

def seq : Regex → Regex → Regex
  | .empty, b => b
  | a, .empty => a
  | a, b => .cat a b

def power (a : Regex) : Nat → Regex
  | 0 => .empty
  | n + 1 => seq a (power a n)

def optional (a : Regex) : Regex := .alt a .empty

def upTo (a : Regex) : Nat → Regex
  | 0 => .empty
  | n + 1 => optional (seq a (upTo a n))

def nullable (previous next : Option Char) : Regex → Bool
  | .empty => true
  | .chars _ => false
  | .look assertion => assertion.holds previous next
  | .cat a b => a.nullable previous next && b.nullable previous next
  | .alt a b => a.nullable previous next || b.nullable previous next
  | .star _ => true

/-- What may follow once the character `c` is matched. -/
def after (previous : Option Char) (c : Char) : Regex → List Regex
  | .empty | .look _ => []
  | .chars members => if members.contains c then [.empty] else []
  | .cat a b =>
    (a.after previous c).map (seq · b) ++
      if a.nullable previous (some c) then b.after previous c else []
  | .alt a b => a.after previous c ++ b.after previous c
  | .star a => (a.after previous c).map (seq · (.star a))

/-- Some expression of `active`, or a new start of `r`, matches up to some place. -/
def searchFrom (r : Regex) (previous : Option Char) (active : List Regex) : Text → Bool
  | [] => (r :: active).any (nullable previous none)
  | c :: t =>
    (r :: active).any (nullable previous (some c)) ||
      searchFrom r (some c) ((r :: active).flatMap (after previous c)).eraseDups t

def isMatch (r : Regex) (t : Text) : Bool := searchFrom r none [] t

end Regex

end NoteTemplate
