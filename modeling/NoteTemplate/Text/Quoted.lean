import NoteTemplate.Text.Named

namespace NoteTemplate.Text

def hexDigits (n : Nat) : Text := Nat.toDigits 16 n

def unseenCategories : List GeneralCategory :=
  [.space, .lineSeparator, .paragraphSeparator, .control, .format, .privateUse, .unassigned]

def isPrintable (c : Char) : Bool :=
  c == ' ' || !unseenCategories.any fun g => g.table.contains c

/-- The character in quotes that are meant to show what is there: marks that join another character
and what cannot be seen are given by their number. -/
def shownChar (c : Char) : Text :=
  if c = '\x00' then ['\\', '0']
  else if c = '\t' then ['\\', 't']
  else if c = '\r' then ['\\', 'r']
  else if c = '\n' then ['\\', 'n']
  else if c = '\\' ∨ c = '"' then ['\\', c]
  else if graphemeExtend.contains c || !isPrintable c then
    ['\\', 'u', '\x7b'] ++ hexDigits c.toNat ++ ['\x7d']
  else [c]

def shown (t : Text) : Text := '"' :: t.flatMap shownChar ++ ['"']

def jsonChar (c : Char) : Text :=
  if c = '\x08' then ['\\', 'b']
  else if c = '\t' then ['\\', 't']
  else if c = '\n' then ['\\', 'n']
  else if c = '\x0C' then ['\\', 'f']
  else if c = '\r' then ['\\', 'r']
  else if c = '\\' ∨ c = '"' then ['\\', c]
  else if c.toNat < 0x20 then
    let digits := hexDigits c.toNat
    ['\\', 'u'] ++ List.replicate (4 - digits.length) '0' ++ digits
  else [c]

def jsonString (t : Text) : Text := '"' :: t.flatMap jsonChar ++ ['"']

end NoteTemplate.Text
