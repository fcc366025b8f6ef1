import NoteTemplate.Markdown.Start

namespace NoteTemplate.Markdown

def isPunctuation (c : Char) : Bool :=
  let n := c.toNat
  (0x21 ≤ n && n ≤ 0x2F) || (0x3A ≤ n && n ≤ 0x40) || (0x5B ≤ n && n ≤ 0x60) ||
    (0x7B ≤ n && n ≤ 0x7E)

def nextLine? (containers : List Container) (t : Text) : Option Text :=
  let (kept, m) := resume containers (.ofLine t)
  let inside := kept = containers
  let (count, m) := m.spaces 4
  if count < 4 &&
      (endsParagraph inside m.rest || (inside && (headingUnderline? m.rest).isSome)) then none
  else some m.rest

def labelEnd? (containers : List Container) : Nat → Bool → Text → Option Text
  | 0, _, _ => none
  | fuel + 1, shown, t =>
    match t with
    | [] | '[' :: _ => none
    | ']' :: rest => if shown then some rest else none
    | '\\' :: _ :: rest => labelEnd? containers fuel true rest
    | c :: rest =>
      if isSpace c then labelEnd? containers fuel shown rest
      else match lineEnd? t with
        | some rest => (nextLine? containers rest).bind (labelEnd? containers fuel shown)
        | none => labelEnd? containers fuel true rest

/-- Skips blanks and at most one line break, and counts the breaks. -/
def skipBreak? (containers : List Container) (t : Text) : Option (Nat × Text) :=
  let rest := t.dropWhile isSpace
  match lineEnd? rest with
  | none => some (0, rest)
  | some next => (nextLine? containers next).map fun rest => (1, rest.dropWhile isSpace)

def pointedEnd? : Text → Option Text
  | [] => none
  | ['\\'] => none
  | '\\' :: c :: t =>
    if isPunctuation c then pointedEnd? t
    else if c = '\n' ∨ c = '\r' ∨ c = '<' then none
    else pointedEnd? t
  | c :: t =>
    if c = '>' then some t
    else if c = '\n' ∨ c = '\r' ∨ c = '<' then none
    else pointedEnd? t

def plainEnd? (depth : Nat) : Text → Option Text
  | [] => if depth = 0 then some [] else none
  | '\\' :: c :: t =>
    if isPunctuation c then plainEnd? depth t
    else if c.toNat ≤ 0x20 then if depth = 0 then some (c :: t) else none
    else plainEnd? depth t
  | c :: t =>
    if c.toNat ≤ 0x20 then if depth = 0 then some (c :: t) else none
    else if c = '(' then plainEnd? (depth + 1) t
    else if c ≠ ')' then plainEnd? depth t
    else match depth with
      | 0 => some (c :: t)
      | depth + 1 => plainEnd? depth t

def targetEnd? (t : Text) : Option Text :=
  match t with
  | '<' :: rest => pointedEnd? rest
  | t => (plainEnd? 0 t).bind fun rest => if rest.length < t.length then some rest else none

def titleEnd? (containers : List Container) (close : Char) : Nat → Text → Option Text
  | 0, _ => none
  | fuel + 1, t =>
    match t with
    | [] => none
    | '\\' :: _ :: rest => titleEnd? containers close fuel rest
    | c :: rest =>
      if c = close then some rest
      else if c = '(' ∧ close = ')' then none
      else match lineEnd? t with
        | some rest => (nextLine? containers rest).bind (titleEnd? containers close fuel)
        | none => titleEnd? containers close fuel rest

def title? (containers : List Container) (t : Text) : Option Text :=
  match t with
  | [] => none
  | c :: rest =>
    if c = '"' ∨ c = '\'' then titleEnd? containers c (rest.length + 1) rest
    else if c = '(' then titleEnd? containers ')' (rest.length + 1) rest
    else none

/-- The rest of the text after a definition and the blanks behind it. Without a title on a line of
its own that ends there, the definition ends with its target. -/
def definition? (containers : List Container) (t : Text) : Option Text := do
  let ('[' :: label) := t | none
  let (':' :: rest) ← labelEnd? containers (label.length + 1) false label | none
  let (_, target) ← skipBreak? containers rest
  let rest ← targetEnd? target
  let untitled := (blankLine? rest).getD rest
  match skipBreak? containers rest with
  | none => some untitled
  | some (breaks, title) =>
    if breaks = 0 ∧ title.length = rest.length then none
    else
      match (title? containers title).bind blankLine? with
      | some rest => some rest
      | none => if breaks = 0 then none else some untitled

end NoteTemplate.Markdown
