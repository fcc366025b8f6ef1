import NoteTemplate.Text.LowerCase

/-!
Comparison of literal text up to letter case. Characters are compared one by one, so a literal
always covers as many characters of the input as it has itself.
-/
namespace NoteTemplate

def sameLetter (a b : Char) : Bool :=
  a == b || Text.lowerCase a == Text.lowerCase b

namespace Text

def stripPrefixCaseless? : (text start : Text) → Option Text
  | t, [] => some t
  | [], _ :: _ => none
  | c :: t, p :: ps => if sameLetter c p then stripPrefixCaseless? t ps else none

/--
Occurrences from left to right that do not overlap, given the characters still covered by the last
one and the offset of the text.
-/
def occurrencesFrom (needle : Text) (covered offset : Nat) : Text → List Nat
  | [] => []
  | c :: t =>
    let next := offset + c.utf8Size
    match covered with
    | k + 1 => occurrencesFrom needle k next t
    | 0 =>
      if (stripPrefixCaseless? (c :: t) needle).isSome then
        offset :: occurrencesFrom needle (needle.length - 1) next t
      else occurrencesFrom needle 0 next t

/-- Byte offsets of the occurrences of a text up to letter case. The empty text has none. -/
def findAllCaseless (haystack needle : Text) : List Nat :=
  if needle.isEmpty then [] else occurrencesFrom needle 0 0 haystack

end Text

end NoteTemplate
