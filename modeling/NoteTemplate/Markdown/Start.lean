import NoteTemplate.Markdown.Container
import NoteTemplate.Markdown.Html

namespace NoteTemplate.Markdown

def startsHeading (t : Text) : Bool :=
  let level := (t.takeWhile (· = '#')).length
  0 < level && level ≤ 6 && (t.drop level).head?.all isSpaceOrBreak

def headingUnderline? (t : Text) : Option Text :=
  match t with
  | c :: _ => if c = '=' ∨ c = '-' then blankLine? (t.dropWhile (· = c)) else none
  | [] => none

/-- The fence that opens a code block: its character, how often that stands there, and the text
behind it. A line with a backtick behind a fence of backticks opens no block. -/
def openingFence? (t : Text) : Option (Char × Nat × Text) :=
  match t with
  | [] => none
  | c :: _ =>
    let count := (t.takeWhile (· = c)).length
    let rest := t.drop count
    if (c ≠ '\x60' ∧ c ≠ '~') ∨ count < 3 then none
    else if c = '\x60' && (splitLine rest).1.contains '\x60' then none
    else some (c, count, rest)

def closingFence? (mark : Char) (count : Nat) (t : Text) : Option Text :=
  let found := (t.takeWhile (· = mark)).length
  let rest := (t.drop found).dropWhile (· = ' ')
  if t.isEmpty then some []
  else if found < count || (lineEnd? rest).isNone then none
  else some rest

def startsHtml (t : Text) : Bool :=
  match t with
  | '<' :: rest => (htmlCloser? rest).isSome || opensBlockTag rest
  | _ => false

/-- A list item behind a line of a paragraph. If the line is in the same containers, the item has to
be a bullet or number one, and not be followed by a second blank line at once. -/
def startsItem (inside : Bool) (t : Text) : Bool :=
  match t with
  | [] => false
  | c :: rest =>
    if isBullet c then isItem true rest
    else match number? t with
      | some (digits, rest) => isItem (Text.ofDecimalDigits digits == 1) rest
      | none => false
where
  isItem (first : Bool) (after : Text) : Bool :=
    (after.head?.all fun c => c == ' ' || c == '\t' || c == '\n' || c == '\r') &&
      (!inside || (first && ((blankLine? after).bind blankLine?).isNone))

def endsParagraph (inside : Bool) (t : Text) : Bool :=
  (lineEnd? t).isSome || (thematicBreak? t).isSome || startsHeading t || (openingFence? t).isSome ||
    t.head? == some '>' || startsItem inside t || startsHtml t

end NoteTemplate.Markdown
