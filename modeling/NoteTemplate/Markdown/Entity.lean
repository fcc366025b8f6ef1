import NoteTemplate.Markdown.Reference
import NoteTemplate.Text.Blank
import NoteTemplate.Text.Digits

namespace NoteTemplate.Markdown

def blankReferences : List (String × Nat) :=
  [("Tab", 0x09), ("NewLine", 0x0A), ("nbsp", 0xA0), ("NonBreakingSpace", 0xA0), ("ensp", 0x2002),
    ("emsp", 0x2003), ("emsp13", 0x2004), ("emsp14", 0x2005), ("numsp", 0x2007),
    ("puncsp", 0x2008), ("thinsp", 0x2009), ("ThinSpace", 0x2009), ("hairsp", 0x200A),
    ("VeryThinSpace", 0x200A), ("MediumSpace", 0x205F), ("ThickSpace", 0x205F)]

def numberedChar? (n : Nat) : Option Char :=
  if n = 0 then some '\uFFFD' else if n.isValidChar then some (Char.ofNat n) else none

def closeReference? (c : Option Char) (rest : Text) : Option (Char × Text) :=
  match c, rest with
  | some c, ';' :: rest => some (c, rest)
  | _, _ => none

def reference? (t : Text) : Option (Char × Text) :=
  match t with
  | '#' :: 'x' :: t | '#' :: 'X' :: t =>
    let digits := (t.take 6).takeWhile Text.isHexDigit
    if digits.isEmpty then none
    else closeReference? (numberedChar? (Text.ofHexDigits digits)) (t.drop digits.length)
  | '#' :: t =>
    let digits := (t.take 7).takeWhile Char.isDigit
    if digits.isEmpty then none
    else closeReference? (numberedChar? (Text.ofDecimalDigits digits)) (t.drop digits.length)
  | t =>
    let name := t.takeWhile Char.isAlphanum
    closeReference? ((blankReferences.lookup (String.ofList name)).map Char.ofNat)
      (t.drop name.length)

/-- Resolves the references and the escapes of punctuation, and drops carriage returns. -/
def resolveFrom : Nat → Text → Text
  | 0, t => t
  | _ + 1, [] => []
  | fuel + 1, c :: t =>
    if c = '\\' then
      match t with
      | d :: rest => if isPunctuation d then d :: resolveFrom fuel rest else c :: resolveFrom fuel t
      | [] => [c]
    else if c = '&' then
      match reference? t with
      | some (d, rest) => d :: resolveFrom fuel rest
      | none => c :: resolveFrom fuel t
    else if c = '\r' then resolveFrom fuel t
    else c :: resolveFrom fuel t

def resolve (t : Text) : Text := resolveFrom t.length t

end NoteTemplate.Markdown
