import NoteTemplate.Text.Basic

namespace NoteTemplate.Markdown

def isSpace (c : Char) : Bool := c == ' ' || c == '\t' || c == '\x0B' || c == '\x0C'

def isSpaceOrBreak (c : Char) : Bool := isSpace c || c == '\n' || c == '\r'

/-- The text after a line break; the end of the text counts as one. -/
def lineEnd? : Text → Option Text
  | [] => some []
  | '\n' :: t => some t
  | '\r' :: '\n' :: t => some t
  | '\r' :: t => some t
  | _ => none

def blankLine? (t : Text) : Option Text := lineEnd? (t.dropWhile isSpace)

def splitLine (t : Text) : Text × Text :=
  match t.dropWhile (· ≠ '\n') with
  | [] => (t, [])
  | c :: rest => (t.takeWhile (· ≠ '\n') ++ [c], rest)

def dropTextLine (t : Text) : Text :=
  let rest := t.dropWhile fun c => c ≠ '\n' ∧ c ≠ '\r'
  (lineEnd? rest).getD rest

structure Margin where
  rest : Text
  /-- The characters that are read since the last tab. -/
  column : Nat
  /-- Columns of the last tab that are not used up. -/
  pending : Nat

namespace Margin

def ofLine (t : Text) : Margin := ⟨t, 0, 0⟩

/-- Reads up to `n` columns of blanks, and tells how many of them are missing. -/
def spacesFrom (column : Nat) : Nat → Text → Nat × Margin
  | 0, t => (0, ⟨t, column, 0⟩)
  | n + 1, [] => (n + 1, ⟨[], column, 0⟩)
  | n + 1, c :: t =>
    let width := 4 - column % 4
    if c = ' ' then spacesFrom (column + 1) n t
    else if c ≠ '\t' then (n + 1, ⟨c :: t, column, 0⟩)
    else if width ≤ n + 1 then spacesFrom 0 (n + 1 - width) t
    else (0, ⟨t, 0, width - (n + 1)⟩)

def spaces (n : Nat) (m : Margin) : Nat × Margin :=
  if n ≤ m.pending then (n, { m with pending := m.pending - n })
  else
    let (missing, m) := spacesFrom m.column (n - m.pending) m.rest
    (n - missing, m)

def mark (m : Margin) : Margin := { m with rest := m.rest.drop 1, column := m.column + 1 }

def atLineEnd (m : Margin) : Bool := m.rest.head?.all fun c => c == '\n' || c == '\r'

end Margin

end NoteTemplate.Markdown
