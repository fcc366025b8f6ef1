import NoteTemplate.Text.Digits
import NoteTemplate.Url.Domain

namespace NoteTemplate.Url

open Text

inductive Host where
  | domain (name : Text)
  | ipv4 (address : Nat)
  | ipv6
  deriving DecidableEq, Repr

-- Version four

def addressPart? (t : Text) : Option Nat :=
  match t with
  | [] => none
  | '0' :: x :: digits =>
    if x = 'x' ∨ x = 'X' then
      if digits.all isHexDigit then some (ofHexDigits digits) else none
    else if (x :: digits).all fun c => '0' ≤ c && c ≤ '7' then
      some ((x :: digits).foldl (fun n c => 8 * n + (c.toNat - '0'.toNat)) 0)
    else none
  | digits => if digits.all Char.isDigit then some (ofDecimalDigits digits) else none

def dropLastEmpty (parts : List Text) : List Text :=
  if parts.getLast? = some [] then parts.dropLast else parts

def endsInNumber (domain : Text) : Bool :=
  let parts := splitOn '.' domain
  match (dropLastEmpty parts).getLast? with
  | none => false
  | some last => (!last.isEmpty && last.all Char.isDigit) || (addressPart? last).isSome

/-- The last part fills all bytes that the others leave. -/
def ipv4? (domain : Text) : Option Nat := do
  let numbers ← (dropLastEmpty (splitOn '.' domain)).mapM addressPart?
  let leading := numbers.dropLast
  let last ← numbers.getLast?
  if 4 < numbers.length || leading.any (255 < ·) then none
  else if Nat.pow 256 (4 - leading.length) ≤ last then none
  else some (leading.foldl (fun (n, weight) part => (n + part * weight, weight / 256))
    (last, 0x1000000)).1

-- Version six

def isDottedBytes (t : Text) : Bool :=
  let parts := splitOn '.' t
  parts.length == 4 && parts.all fun part =>
    !part.isEmpty && part.all Char.isDigit && (part.length == 1 || part.head? != some '0') &&
      ofDecimalDigits part ≤ 255

/-- Groups of up to four digits, the last two of which may be given as bytes. The number of pieces
that are read so far and whether a run of zeros was left out are carried along. -/
def ipv6Pieces : (fuel : Nat) → (count : Nat) → (compressed : Bool) → Text → Bool
  | 0, _, _, _ => false
  | _ + 1, count, compressed, [] => compressed || count == 8
  | fuel + 1, count, compressed, t =>
    if count = 8 then false
    else match t with
      | ':' :: rest => !compressed && ipv6Pieces fuel (count + 1) true rest
      | t =>
        let digits := (t.take 4).takeWhile isHexDigit
        match t.drop digits.length with
        | [] => ipv6Pieces fuel (count + 1) compressed []
        | ':' :: rest => !rest.isEmpty && ipv6Pieces fuel (count + 1) compressed rest
        | '.' :: _ =>
          !digits.isEmpty && count ≤ 6 && isDottedBytes t && (compressed || count == 6)
        | _ => false

def isIpv6 (t : Text) : Bool :=
  match t with
  | ':' :: ':' :: rest => ipv6Pieces (t.length + 1) 1 true rest
  | ':' :: _ => false
  | t => 2 ≤ t.length && ipv6Pieces (t.length + 1) 0 false t

-- Hosts

def percentDecode : Text → List UInt8
  | [] => []
  | '%' :: a :: b :: t =>
    if isHexDigit a && isHexDigit b then
      UInt8.ofNat (16 * hexValue a + hexValue b) :: percentDecode t
    else 37 :: percentDecode (a :: b :: t)
  | c :: t => (String.utf8EncodeChar c) ++ percentDecode t

def percentDecoded? (t : Text) : Option Text :=
  (String.fromUTF8? (ByteArray.mk (percentDecode t).toArray)).map String.toList

def host? (t : Text) : Option Host :=
  match t with
  | '[' :: rest =>
    if rest.getLast? = some ']' && isIpv6 rest.dropLast then some .ipv6 else none
  | t => do
    let domain ← domainToAscii? (← percentDecoded? t)
    if domain.isEmpty then none
    else if endsInNumber domain then (ipv4? domain).map Host.ipv4
    else some (.domain domain)

end NoteTemplate.Url
