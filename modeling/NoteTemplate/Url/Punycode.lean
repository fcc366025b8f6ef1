import NoteTemplate.Text.Basic

/-!
Punycode: labels of any characters written in letters, digits and hyphens. Each character outside
ASCII is a number that tells how far to go on, through places and code points, from the one before.
-/
namespace NoteTemplate.Url.Punycode

def digitChar (n : Nat) : Char :=
  Char.ofNat (if n < 26 then 'a'.toNat + n else '0'.toNat + (n - 26))

def digitValue? (c : Char) : Option Nat :=
  if 'a' ≤ c ∧ c ≤ 'z' then some (c.toNat - 'a'.toNat)
  else if 'A' ≤ c ∧ c ≤ 'Z' then some (c.toNat - 'A'.toNat)
  else if '0' ≤ c ∧ c ≤ '9' then some (c.toNat - '0'.toNat + 26)
  else none

def initialBias : Nat := 72

/-- The digit at place `k` ends its number if it is below the threshold. -/
def threshold (k bias : Nat) : Nat :=
  if k ≤ bias then 1 else if bias + 26 ≤ k then 26 else k - bias

theorem threshold_pos (k bias : Nat) : 1 ≤ threshold k bias := by
  unfold threshold
  split
  · omega
  · split <;> omega

theorem threshold_le (k bias : Nat) : threshold k bias ≤ 26 := by
  unfold threshold
  split
  · omega
  · split <;> omega

def scaleDown (delta k : Nat) : Nat :=
  if 455 < delta then scaleDown (delta / 35) (k + 36) else k + 36 * delta / (delta + 38)
termination_by delta
decreasing_by omega

def adapt (delta count : Nat) (first : Bool) : Nat :=
  let delta := if first then delta / 700 else delta / 2
  scaleDown (delta + delta / count) 0

def encodeNumber (bias k n : Nat) : Text :=
  let t := threshold k bias
  if n < t then [digitChar n]
  else digitChar (t + (n - t) % (36 - t)) :: encodeNumber bias (k + 36) ((n - t) / (36 - t))
termination_by n
decreasing_by
  have low := threshold_pos k bias
  have high := threshold_le k bias
  exact Nat.lt_of_le_of_lt (Nat.div_le_self _ _) (by omega)

/-- How far the encoding has come: the digits so far in reverse, the steps since the last number,
the bias, and how many characters are written. -/
structure Progress where
  output : Text
  delta : Nat
  bias : Nat
  handled : Nat

def encodePlaces (basic point : Nat) (p : Progress) : List Nat → Progress
  | [] => p
  | n :: ns =>
    if n < point then encodePlaces basic point { p with delta := p.delta + 1 } ns
    else if n = point then
      encodePlaces basic point
        ⟨(encodeNumber p.bias 36 p.delta).reverse ++ p.output, 0,
          adapt p.delta (p.handled + 1) (p.handled == basic), p.handled + 1⟩ ns
    else encodePlaces basic point p ns

def encodePoints (label : List Nat) (basic next : Nat) (p : Progress) : List Nat → Progress
  | [] => p
  | point :: points =>
    let p := { p with delta := p.delta + (point - next) * (p.handled + 1) }
    let p := encodePlaces basic point p label
    encodePoints label basic (point + 1) { p with delta := p.delta + 1 } points

def encode (label : Text) : Text :=
  let basic := label.filter fun c => c.toNat < 128
  let points := ((label.map Char.toNat).filter fun n => 128 ≤ n).eraseDups.mergeSort
  let start := if basic.isEmpty then [] else basic ++ ['-']
  let p := encodePoints (label.map Char.toNat) basic.length 128
    ⟨start.reverse, 0, initialBias, basic.length⟩ points
  p.output.reverse

structure Pending where
  start : Nat
  weight : Nat
  place : Nat

def decodeDigits (point position bias : Nat) (output : Text) (pending : Option Pending) :
    Text → Option Text
  | [] => if pending.isNone then some output else none
  | c :: t => do
    let digit ← digitValue? c
    let p := pending.getD ⟨position, 1, 36⟩
    let position := position + digit * p.weight
    let limit := threshold p.place bias
    if limit ≤ digit then
      decodeDigits point position bias output
        (some ⟨p.start, p.weight * (36 - limit), p.place + 36⟩) t
    else
      let count := output.length + 1
      let point := point + position / count
      let place := position % count
      if point.isValidChar ∧ point ≤ 0x10FFFF then
        decodeDigits point (place + 1) (adapt (position - p.start) count (p.start == 0))
          (output.take place ++ Char.ofNat point :: output.drop place) none t
      else none

/-- The part after the last hyphen holds the numbers, the part before it the ASCII characters. -/
def decode? (t : Text) : Option Text :=
  let digits := (t.reverse.takeWhile (· ≠ '-')).reverse
  let basic := t.take (t.length - digits.length - 1)
  if basic.all fun c => c.toNat < 128 then decodeDigits 128 0 initialBias basic none digits
  else none

end NoteTemplate.Url.Punycode
