import NoteTemplate.Text.Blank
import NoteTemplate.Text.Digits

/-!
Sets of characters as ascending tables of runs. A table is written as words `A-B` for every code
point from `A` to `B` and `A/B` for every second one, in hexadecimal.
-/
namespace NoteTemplate.Text

structure CharRun where
  first : Nat
  last : Nat
  step : Nat
  deriving DecidableEq, Repr

namespace CharRun

def holds (run : CharRun) (n : Nat) : Bool :=
  run.first ≤ n && n ≤ run.last && (n - run.first) % run.step == 0

end CharRun

def CharRun.ofText (t : Text) : CharRun :=
  let first := ofHexDigits (t.takeWhile isHexDigit)
  match t.dropWhile isHexDigit with
  | [] => ⟨first, first, 1⟩
  | separator :: last => ⟨first, ofHexDigits last, if separator = '/' then 2 else 1⟩

/-- Runs in ascending order, none of which begins before the last one has ended. -/
abbrev CharTable := List CharRun

namespace CharTable

def ofString (s : String) : CharTable := (words s.toList).map CharRun.ofText

def containsCode : CharTable → Nat → Bool
  | [], _ => false
  | run :: runs, n =>
    if n < run.first then false
    else if n ≤ run.last then (n - run.first) % run.step == 0
    else containsCode runs n

def contains (table : CharTable) (c : Char) : Bool := table.containsCode c.toNat

end CharTable

end NoteTemplate.Text
