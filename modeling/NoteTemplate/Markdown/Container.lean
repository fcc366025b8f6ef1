import NoteTemplate.Markdown.Line
import NoteTemplate.Text.Digits

/-!
Blocks that hold other blocks: quotes and list items, the marks that open them and the margins by
which later lines stay inside.
-/
namespace NoteTemplate.Markdown

inductive Container where
  | quote
  /-- A list item, and the columns of margin that its lines have. -/
  | item (indent : Nat)
  deriving DecidableEq, Repr

def quoteMark? (m : Margin) : Option Margin :=
  match m.rest with
  | '>' :: _ => some (m.mark.spaces 1).2
  | _ => none

/-- The margin of a line that stays inside a container. A blank line stays inside a list item. -/
def Container.resume? (m : Margin) : Container → Option Margin
  | .quote => quoteMark? (m.spaces 3).2
  | .item indent =>
    let (count, after) := m.spaces indent
    if count = indent || after.atLineEnd then some after else none

def resume : List Container → Margin → List Container × Margin
  | [], m => ([], m)
  | c :: cs, m =>
    match c.resume? m with
    | none => ([], m)
    | some after =>
      let (kept, rest) := resume cs after
      (c :: kept, rest)

def resumeAll? (containers : List Container) (t : Text) : Option Margin :=
  let (kept, m) := resume containers (.ofLine t)
  if kept = containers then some m else none

def thematicBreakFrom? (mark : Char) (count : Nat) : Text → Option Text
  | [] => if count < 3 then none else some []
  | c :: t =>
    if c = mark then thematicBreakFrom? mark (count + 1) t
    else if c = ' ' ∨ c = '\t' then thematicBreakFrom? mark count t
    else if count < 3 then none
    else lineEnd? (c :: t)

def thematicBreak? (t : Text) : Option Text :=
  match t with
  | c :: rest => if c = '*' ∨ c = '-' ∨ c = '_' then thematicBreakFrom? c 1 rest else none
  | [] => none

def isBullet (c : Char) : Bool := c == '-' || c == '+' || c == '*'

def number? (t : Text) : Option (Text × Text) :=
  let digits := t.takeWhile Char.isDigit
  match t.drop digits.length with
  | c :: rest =>
    if digits ≠ [] ∧ digits.length ≤ 9 ∧ (c = '.' ∨ c = ')') then some (digits, rest) else none
  | [] => none

/-- The list item whose mark is `width` wide and stands behind `indent` columns. Its text starts
after up to four more blanks; with more of them it starts with indented code. -/
def itemAfter? (indent width : Nat) (m : Margin) : Option (Container × Margin) :=
  let after : Margin := ⟨m.rest.drop width, m.column + width, m.pending⟩
  let (count, start) := after.spaces 1
  let margin := indent + width + 1
  if count = 0 && !after.atLineEnd then none
  else if (blankLine? start.rest).isSome then some (.item margin, start)
  else
    let (more, text) := start.spaces 4
    some (if more < 4 then (.item (margin + more), text) else (.item margin, start))

def itemMark? (indent : Nat) (m : Margin) : Option (Container × Margin) :=
  match m.rest with
  | [] => none
  | c :: _ =>
    if isBullet c then
      if (thematicBreak? m.rest).isSome then none else itemAfter? indent 1 m
    else match number? m.rest with
      | some (digits, _) => itemAfter? indent (digits.length + 1) m
      | none => none

end NoteTemplate.Markdown
