/-!
Text as a list of characters, measured in bytes of its UTF-8 encoding. Offsets and spans count
bytes; a cut that would split a character has no result.
-/
namespace NoteTemplate

abbrev Text := List Char

/-- A range of byte offsets, the end not included. -/
structure Span where
  start : Nat
  stop : Nat
  deriving DecidableEq, Repr, Inhabited

namespace Text

def byteLength : Text → Nat
  | [] => 0
  | c :: t => c.utf8Size + byteLength t

/-- The text before and after a byte offset, if that offset is a character boundary. -/
def splitAtByte? : Nat → Text → Option (Text × Text)
  | 0, t => some ([], t)
  | _ + 1, [] => none
  | n + 1, c :: t =>
    if c.utf8Size ≤ n + 1 then
      (splitAtByte? (n + 1 - c.utf8Size) t).map fun (before, after) => (c :: before, after)
    else none

/-- The text under a span, if the span is in order and lies on character boundaries. -/
def slice? (t : Text) (span : Span) : Option Text :=
  if span.start ≤ span.stop then
    (splitAtByte? span.start t).bind fun (_, rest) =>
      (splitAtByte? (span.stop - span.start) rest).map Prod.fst
  else none

def dropBytes? (t : Text) (n : Nat) : Option Text :=
  (splitAtByte? n t).map Prod.snd

def takeBytes (n : Nat) (t : Text) : Text :=
  ((splitAtByte? n t).map Prod.fst).getD []

def stripPrefix? : (text start : Text) → Option Text
  | t, [] => some t
  | [], _ :: _ => none
  | c :: t, p :: ps => if c = p then stripPrefix? t ps else none

def splitOn (separator : Char) : Text → List Text
  | [] => [[]]
  | c :: t =>
    if c = separator then [] :: splitOn separator t
    else match splitOn separator t with
      | [] => [[c]]
      | part :: parts => (c :: part) :: parts

def splitAtFirst? (part : Text) : Text → Option (Text × Text)
  | [] => if part.isEmpty then some ([], []) else none
  | c :: t =>
    match stripPrefix? (c :: t) part with
    | some after => some ([], after)
    | none => (splitAtFirst? part t).map fun (before, after) => (c :: before, after)

def stripSuffix? (t stop : Text) : Option Text :=
  (stripPrefix? t.reverse stop.reverse).map List.reverse

def lines (t : Text) : List Text :=
  let parts := splitOn '\n' t
  let ended := parts.dropLast.map fun line => (stripSuffix? line ['\r']).getD line
  ended ++ (parts.getLast?.toList.filter fun line => !line.isEmpty)

/-- The order by the numbers of the characters; a text stands before what goes on from it. -/
def precedes : Text → Text → Bool
  | [], _ => true
  | _ :: _, [] => false
  | c :: s, d :: t => c.toNat < d.toNat || (c.toNat == d.toNat && precedes s t)

def join (separator : Text) : List Text → Text
  | [] => []
  | [t] => t
  | t :: u :: ts => t ++ separator ++ join separator (u :: ts)

theorem byteLength_append (s t : Text) : byteLength (s ++ t) = byteLength s + byteLength t := by
  induction s with
  | nil => simp [byteLength]
  | cons c s ih => simp [byteLength, ih, Nat.add_assoc]

theorem eq_append_of_stripPrefix? {t p rest : Text} (h : stripPrefix? t p = some rest) :
    t = p ++ rest := by
  fun_induction stripPrefix? t p with
  | case1 t => simp_all
  | case2 => simp at h
  | case3 t c ps ih => simp [ih h]
  | case4 => simp at h

end Text

end NoteTemplate
