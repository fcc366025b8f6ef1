import NoteTemplate.Text.Basic

namespace NoteTemplate.Text

def isBlank (c : Char) : Bool :=
  let n := c.toNat
  (0x09 ≤ n && n ≤ 0x0D) || n == 0x20 || n == 0x85 || n == 0xA0 || n == 0x1680 ||
    (0x2000 ≤ n && n ≤ 0x200A) || n == 0x2028 || n == 0x2029 || n == 0x202F || n == 0x205F ||
    n == 0x3000

/-- The stretches between blanks, given the one that ends before the text, in reverse. -/
def wordsFrom (word : Text) : Text → List Text
  | [] => if word.isEmpty then [] else [word.reverse]
  | c :: t =>
    if !isBlank c then wordsFrom (c :: word) t
    else if word.isEmpty then wordsFrom [] t
    else word.reverse :: wordsFrom [] t

def words (t : Text) : List Text := wordsFrom [] t

end NoteTemplate.Text
