import NoteTemplate.Regex.Escape

/-!
Reading regular expressions. Only whether an expression matches is of interest, so capture groups
and greed leave no trace in what is read, but their syntax is checked.
-/
namespace NoteTemplate.Regex

def sizeLimit : Nat := 327680

def depthLimit : Nat := 250

structure Item where
  regex : Regex
  depth : Nat
  size : Nat
  repeatable : Bool

def CharClass.size : CharClass → Nat
  | .none | .range _ _ => 1
  | .word => 600
  | .digit => 150
  | .blank => 15
  | .table members => members.length
  | .categories members => members.foldr (fun g n => g.table.length + n) 0
  | .union a b | .inter a b | .diff a b => a.size + b.size
  | .negate a | .caseless a | .caselessAscii a => a.size + 4

namespace Item

def ofRegex (regex : Regex) (size : Nat) : Item := ⟨regex, 0, size, true⟩

def ofClass (cls : CharClass) : Item := ofRegex (.chars cls) cls.size

def ofAtom (flags : Flags) : Atom → Except SyntaxError Item
  | .literal c byte =>
    if byte && !flags.unicode && 128 ≤ c.toNat then .error .notText
    else .ok (ofRegex (.chars (flags.fold (.single c))) c.utf8Size)
  | .look assertion => .ok (ofRegex (.look assertion) 1)
  | .set cls => .ok (ofClass cls)

/-- What a change of flags leaves in a sequence. -/
def marker : Item := ⟨.empty, 0, 0, false⟩

def maxDepth (items : List Item) : Nat := (items.map (·.depth)).foldr max 0

def totalSize (items : List Item) : Nat := items.foldr (fun item n => item.size + n) 0

def sequence : List Item → Item
  | [] => ofRegex .empty 1
  | [item] => { item with repeatable := true }
  | items =>
    let regex := items.foldr (fun item r => seq item.regex r) .empty
    ⟨regex, maxDepth items + 1, totalSize items, true⟩

def alternatives : List Item → Item
  | [] => ofRegex .empty 1
  | [item] => item
  | item :: items =>
    ⟨items.foldl (fun r next => .alt r next.regex) item.regex, maxDepth (item :: items) + 1,
      totalSize (item :: items) + 1, true⟩

def group (item : Item) : Item := { item with depth := item.depth + 1, size := item.size + 2 }

def repeated (item : Item) (low : Nat) (high : Option Nat) : Except SyntaxError Item :=
  if !item.repeatable then .error .nothingToRepeat
  else
    let count := high.getD (low + 1)
    let size := (item.size + 1) * max count 1
    if sizeLimit < size then .error .tooLarge
    else
      let tail := match high with
        | none => .star item.regex
        | some high => upTo item.regex (high - low)
      .ok ⟨seq (power item.regex low) tail, item.depth + 1, size, true⟩

end Item

/-- An open group: its finished branches and its current branch, both in reverse, and the flags that
hold again after it. -/
structure Group where
  branches : List Item
  items : List Item
  outer : Flags

structure State where
  flags : Flags
  /-- The groups that are open, the innermost first; the last one is the whole expression. -/
  current : Group
  enclosing : List Group
  names : List Text

namespace State

def push (s : State) (item : Item) : State :=
  { s with current := { s.current with items := item :: s.current.items } }

def closeBranch (g : Group) : Item := .sequence g.items.reverse

def contents (g : Group) : Item := .alternatives ((closeBranch g :: g.branches).reverse)

def alternate (s : State) : State :=
  { s with current := ⟨closeBranch s.current :: s.current.branches, [], s.current.outer⟩ }

def openGroup (s : State) (inner : Flags) : State :=
  { s with flags := inner, current := ⟨[], [], s.flags⟩, enclosing := s.current :: s.enclosing }

def closeGroup (s : State) : Except SyntaxError State :=
  match s.enclosing with
  | [] => .error .unopenedGroup
  | outer :: enclosing =>
    .ok (push { s with flags := s.current.outer, current := outer, enclosing := enclosing }
      (contents s.current).group)

def repeatLast (s : State) (low : Nat) (high : Option Nat) : Except SyntaxError State :=
  match s.current.items with
  | [] => .error .nothingToRepeat
  | item :: items =>
    match item.repeated low high with
    | .error e => .error e
    | .ok item => .ok { s with current := { s.current with items := item :: items } }

def finish (s : State) : Except SyntaxError Regex :=
  if !s.enclosing.isEmpty then .error .unclosedGroup
  else
    let whole := contents s.current
    if depthLimit < whole.depth then .error .tooDeep
    else if sizeLimit < whole.size then .error .tooLarge
    else .ok whole.regex

end State

def isNameStart (c : Char) : Bool := c == '_' || Text.isAlphabetic c

def isNamePart (c : Char) : Bool :=
  c == '_' || c == '.' || c == '[' || c == ']' || Text.isAlphanumeric c

def groupName (t : Text) : Parse Text :=
  let name := t.takeWhile (· ≠ '>')
  match name, t.dropWhile (· ≠ '>') with
  | c :: more, _ :: rest =>
    if isNameStart c && more.all isNamePart then .ok (name, rest) else .error .badGroupName
  | _, _ => .error .badGroupName

/-- Flags up to `:` or `)`, which is the last part of the result. -/
def flagItems (flags : Flags) (seen : List Char) (negative dangling : Bool) :
    Text → Except SyntaxError (Flags × List Char × Char × Text)
  | [] => .error .badFlags
  | c :: t =>
    if c = ':' ∨ c = ')' then
      if dangling then .error .badFlags else .ok (flags, seen, c, t)
    else if c ∈ seen then .error .badFlags
    else if c = '-' then flagItems flags (c :: seen) true true t
    else match flags.set? (!negative) c with
      | some flags => flagItems flags (c :: seen) negative false t
      | none => .error .badFlags

def addName (s : State) (name : Text) : Except SyntaxError State :=
  if s.names.contains name then .error .duplicateGroupName
  else .ok { s with names := name :: s.names }

def namedGroup (s : State) (t : Text) : Except SyntaxError (State × Text) := do
  let (name, rest) ← groupName t
  let s ← addName s name
  return (s.openGroup s.flags, rest)

def groupStart (s : State) (t : Text) : Except SyntaxError (State × Text) :=
  match s.flags.skip t with
  | '?' :: '=' :: _ | '?' :: '!' :: _ | '?' :: '<' :: '=' :: _ | '?' :: '<' :: '!' :: _ =>
    .error .unsupportedLookAround
  | '?' :: 'P' :: '<' :: t | '?' :: '<' :: t => namedGroup s t
  | '?' :: t =>
    match flagItems s.flags [] false false t with
    | .error e => .error e
    | .ok (flags, seen, stop, rest) =>
      if stop = ':' then .ok (s.openGroup flags, rest)
      else if seen.isEmpty then .error .nothingToRepeat
      else .ok ({ s with flags := flags }.push .marker, rest)
  | t => .ok (s.openGroup s.flags, t)

def repetitionCount (flags : Flags) (t : Text) : Parse (Option Nat) :=
  let (digits, rest) := flags.collect Char.isDigit (t.dropWhile Text.isBlank)
  let count := Text.ofDecimalDigits digits
  if 0x100000000 ≤ count then .error .badRepetition
  else .ok (if digits.isEmpty then none else some count,
    flags.skip (rest.dropWhile Text.isBlank))

def dropLazy : Text → Text
  | '?' :: t => t
  | t => t

def repetitionBounds (flags : Flags) (t : Text) :
    Except SyntaxError ((Nat × Option Nat) × Text) := do
  let (low, rest) ← repetitionCount flags (flags.skip t)
  let (bounds, rest) ← match low, rest with
    | some low, ',' :: rest =>
      match flags.skip rest with
      | '}' :: _ => pure ((low, none), flags.skip rest)
      | rest =>
        let (high, rest) ← repetitionCount flags rest
        match high with
        | some high => pure ((low, some high), rest)
        | none => .error .badRepetition
    | some low, rest => pure ((low, some low), rest)
    | none, _ => .error .badRepetition
  match rest with
  | '}' :: rest =>
    if bounds.2.any (· < bounds.1) then .error .badRepetition
    else return (bounds, dropLazy (flags.skip rest))
  | _ => .error .badRepetition

def step (s : State) (c : Char) (t : Text) : Except SyntaxError (State × Text) :=
  match c with
  | '(' => groupStart s t
  | ')' => s.closeGroup.map (·, t)
  | '|' => .ok (s.alternate, t)
  | '[' => (bracketClass s.flags t).map fun (cls, t) => (s.push (.ofClass cls), t)
  | '?' => (s.repeatLast 0 (some 1)).map (·, dropLazy t)
  | '*' => (s.repeatLast 0 none).map (·, dropLazy t)
  | '+' => (s.repeatLast 1 none).map (·, dropLazy t)
  | '{' => do
    if s.current.items.isEmpty then .error .nothingToRepeat
    else
      let ((low, high), t) ← repetitionBounds s.flags t
      return (← s.repeatLast low high, t)
  | '\\' => do
    let (atom, t) ← escapeSequence s.flags t
    return (s.push (← Item.ofAtom s.flags atom), t)
  | '.' => s.flags.dot.map fun cls => (s.push (.ofClass cls), t)
  | '^' => .ok (s.push (.ofRegex (.look s.flags.lineStart) 1), t)
  | '$' => .ok (s.push (.ofRegex (.look s.flags.lineStop) 1), t)
  | c => (Item.ofAtom s.flags (.literal c false)).map fun item => (s.push item, t)

/-- Every element takes at least one character, so as many steps as there are characters do. -/
def readFrom : Nat → State → Text → Except SyntaxError Regex
  | 0, _, _ => .error .tooLarge
  | fuel + 1, s, t =>
    match s.flags.skip t with
    | [] => s.finish
    | c :: t =>
      match step s c t with
      | .error e => .error e
      | .ok (s, t) => readFrom fuel s t

def ofText (t : Text) : Except SyntaxError Regex :=
  readFrom (t.length + 1) ⟨.default, ⟨[], [], .default⟩, [], []⟩ t

end NoteTemplate.Regex
