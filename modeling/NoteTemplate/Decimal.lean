import NoteTemplate.Text.Digits

/-!
Unsigned decimal text with an exponent, and whether the nearest binary64 value is finite.
-/
namespace NoteTemplate

structure Decimal where
  mantissa : Nat
  exponent : Int
  deriving DecidableEq, Repr

namespace Decimal

def dropSign : Text → Text
  | '+' :: t => t
  | '-' :: t => t
  | t => t

def exponentOf? (t : Text) : Option Int :=
  let digits := dropSign t
  if digits.isEmpty || !digits.all Char.isDigit then none
  else if t.head? = some '-' then some (-(Text.ofDecimalDigits digits : Int))
  else some (Text.ofDecimalDigits digits)

def ofText? (t : Text) : Option Decimal :=
  let whole := t.takeWhile Char.isDigit
  let rest := t.dropWhile Char.isDigit
  let (fraction, tail) := match rest with
    | '.' :: r => (r.takeWhile Char.isDigit, r.dropWhile Char.isDigit)
    | r => ([], r)
  if whole.isEmpty && fraction.isEmpty then none
  else
    let withExponent (e : Int) : Decimal :=
      ⟨Text.ofDecimalDigits (whole ++ fraction), e - fraction.length⟩
    match tail with
    | [] => some (withExponent 0)
    | c :: r => if c = 'e' ∨ c = 'E' then (exponentOf? r).map withExponent else none

/-- The least value that binary64 rounds to infinity. -/
def overflowBound : Nat := Nat.pow 2 1024 - Nat.pow 2 970

def digitCount (n : Nat) : Nat := (Nat.toDigits 10 n).length

/-- Below the overflow bound. A value of at most 300 places before the point is, one of more than
310 is not; only in between does the comparison need the powers of ten. -/
def isFinite (d : Decimal) : Bool :=
  let places : Int := digitCount d.mantissa + d.exponent
  if d.mantissa = 0 ∨ places ≤ 300 then true
  else if 310 < places then false
  else if 0 ≤ d.exponent then d.mantissa * Nat.pow 10 d.exponent.toNat < overflowBound
  else d.mantissa < overflowBound * Nat.pow 10 (-d.exponent).toNat

end Decimal

end NoteTemplate
