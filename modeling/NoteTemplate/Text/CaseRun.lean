import NoteTemplate.Text.CharTable

namespace NoteTemplate.Text

structure CaseRun where
  run : CharRun
  shift : Int
  deriving DecidableEq, Repr

/-- How far the counterpart of a code point lies, in an ascending table. -/
def shiftIn (n : Nat) : List CaseRun → Int
  | [] => 0
  | r :: rs =>
    if n < r.run.first then 0 else if r.run.holds n then r.shift else shiftIn n rs

def mapCase (runs : List CaseRun) (c : Char) : Char :=
  Char.ofNat (c.toNat + shiftIn c.toNat runs).toNat

end NoteTemplate.Text
