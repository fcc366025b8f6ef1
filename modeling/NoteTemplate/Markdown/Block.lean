import NoteTemplate.Markdown.Entity
import NoteTemplate.Markdown.Reference

/-!
The fenced code blocks of a Markdown document, also those inside quotes and list items. Other blocks
are read as far as they decide where fenced code can start.
-/
namespace NoteTemplate.Markdown

structure FencedBlock where
  /-- The first word behind the opening fence. -/
  name : Text
  content : Text
  deriving DecidableEq, Repr

def codeLine (line : Text) : Text :=
  match line.reverse with
  | c :: '\r' :: rest => if c.utf8Size = 1 then (c :: rest).reverse else line
  | _ => line

/-- The lines of a fenced code block and the text after it. The block ends with its fence or with
one of its containers. -/
def fencedLines (containers : List Container) (indent : Nat) (mark : Char) (count : Nat) :
    Nat → Text → Text × Text
  | 0, t => ([], t)
  | fuel + 1, t =>
    match resumeAll? containers t with
    | none => ([], t)
    | some m =>
      let m := (m.spaces indent).2
      let (more, close) := m.spaces (4 - indent)
      match if more < 4 - indent then closingFence? mark count close.rest else none with
      | some rest => ([], (blankLine? rest).getD rest)
      | none =>
        let (line, rest) := splitLine m.rest
        let (content, rest) := fencedLines containers indent mark count fuel rest
        (List.replicate m.pending ' ' ++ codeLine line ++ content, rest)

def skipHtmlTo (containers : List Container) (close : Text) : Nat → Text → Text
  | 0, t => t
  | fuel + 1, t =>
    let (line, rest) := splitLine t
    match resumeAll? containers rest with
    | none => rest
    | some m =>
      if (Text.splitAtFirst? close line).isSome || m.rest.isEmpty then rest
      else skipHtmlTo containers close fuel m.rest

def skipHtml (containers : List Container) : Nat → Text → Text
  | 0, t => t
  | fuel + 1, t =>
    let rest := (splitLine t).2
    match resumeAll? containers rest with
    | none => rest
    | some m => if (blankLine? m.rest).isSome then rest else skipHtml containers fuel m.rest

def skipIndented (containers : List Container) : Nat → Text → Text
  | 0, t => t
  | fuel + 1, t =>
    let rest := (splitLine t).2
    match resumeAll? containers rest with
    | none => rest
    | some m =>
      let (count, m) := m.spaces 4
      if (count < 4 && !m.atLineEnd) || m.rest.isEmpty then rest
      else skipIndented containers fuel m.rest

def skipParagraph (containers : List Container) : Nat → Text → Text
  | 0, t => t
  | fuel + 1, t =>
    let rest := dropTextLine t
    let (kept, m) := resume containers (.ofLine rest)
    let inside := kept = containers
    let (count, m) := m.spaces 4
    match if count < 4 ∧ inside then headingUnderline? m.rest else none with
    | some rest => rest
    | none =>
      let text := m.rest.dropWhile fun c => c == ' ' || c == '\t'
      if (count < 4 && endsParagraph inside m.rest) || (lineEnd? text).isSome then rest
      else skipParagraph containers fuel text

def skipHtmlBlock? (containers : List Container) (t : Text) : Option Text :=
  match t with
  | '<' :: rest =>
    match htmlCloser? rest with
    | some close => some (skipHtmlTo containers close (t.length + 1) t)
    | none =>
      if opensBlockTag rest || opensTagLine rest then some (skipHtml containers (t.length + 1) t)
      else none
  | _ => none

def skipBlock (containers : List Container) (t : Text) : Text :=
  match skipHtmlBlock? containers t, thematicBreak? t, definition? containers t with
  | some rest, _, _ => rest
  | none, some rest, _ => rest
  | none, none, some rest => rest
  | none, none, none =>
    if startsHeading t then dropTextLine t else skipParagraph containers (t.length + 1) t

structure Nesting where
  containers : List Container
  /-- The first line of the innermost list item was blank, and nothing came after it. -/
  bare : Bool

def openContainers : Nat → Nesting → Margin → Nesting × Margin
  | 0, n, m => (n, m)
  | fuel + 1, n, m =>
    let (indent, text) := m.spaces 4
    if 4 ≤ indent then (n, m)
    else match itemMark? indent text with
      | some (item, after) =>
        let bare := (blankLine? after.rest).isSome
        let opened : Nesting := ⟨n.containers ++ [item], bare⟩
        if bare then (opened, after) else openContainers fuel opened after
      | none =>
        match quoteMark? text with
        | some after => openContainers fuel ⟨n.containers ++ [.quote], false⟩ after
        | none => (n, m)

/-- The block at the start of a line: fenced code if it is that, what is open after it, and the text
after it. -/
def block (n : Nesting) (t : Text) : Option FencedBlock × Nesting × Text :=
  let (kept, m) := resume n.containers (.ofLine t)
  let before : Nesting := ⟨kept, n.bare⟩
  let (opened, m) := openContainers (m.rest.length + 1) before m
  match blankLine? m.rest with
  | some rest =>
    -- A list item starts with one blank line at most.
    if opened.containers = kept ∧ opened.bare ∧ isItem kept.getLast? then
      (none, ⟨kept.dropLast, false⟩, rest)
    else (none, opened, rest)
  | none =>
    let inside : Nesting := ⟨opened.containers, false⟩
    let (indent, text) := m.spaces 4
    let containers := opened.containers
    if indent = 4 then (none, inside, skipIndented containers (t.length + 1) text.rest)
    else match openingFence? text.rest with
      | some (mark, count, info) =>
        let (line, rest) := splitLine info
        let name := (Text.words (resolve line)).head?.getD []
        let (content, rest) := fencedLines containers indent mark count (t.length + 1) rest
        (some ⟨name, content⟩, inside, rest)
      | none => (none, inside, skipBlock containers text.rest)
where
  isItem : Option Container → Bool
    | some (.item _) => true
    | _ => false

def blocksFrom : Nat → Nesting → Text → List FencedBlock
  | 0, _, _ => []
  | fuel + 1, n, t =>
    if t.isEmpty then []
    else
      let (found, n, rest) := block n t
      found.toList ++ blocksFrom fuel n rest

def fencedBlocks (t : Text) : List FencedBlock := blocksFrom (t.length + 1) ⟨[], false⟩ t

end NoteTemplate.Markdown
