import NoteTemplate.Toml.Scalar

/-!
TOML documents: lines of keys and values under headers, read into one table.
-/
namespace NoteTemplate.Toml

def depthLimit : Nat := 80

-- Keys

def isBareKeyChar (c : Char) : Bool := c.isAlphanum || c == '_' || c == '-'

def simpleKey (t : Text) : Except Fault (Text × Text) :=
  match t with
  | '"' :: _ | '\'' :: _ => string.singleLineString t
  | t =>
    let key := t.takeWhile isBareKeyChar
    if key.isEmpty then .error .badKey else .ok (key, t.drop key.length)

def keyParts : Nat → Text → Except Fault (List Text × Text)
  | 0, _ => .error .badKey
  | fuel + 1, t => do
    let (part, rest) ← simpleKey (skipSpaces t)
    match skipSpaces rest with
    | '.' :: rest =>
      let (parts, rest) ← keyParts fuel rest
      .ok (part :: parts, rest)
    | rest => .ok ([part], rest)

def key (t : Text) : Except Fault (List Text × Text) := do
  let (parts, rest) ← keyParts (t.length + 1) t
  if parts.length < depthLimit then .ok (parts, rest) else .error .tooDeep

-- Tables

def replaceLast (ts : List Table) (t : Table) : List Table := ts.dropLast ++ [t]

/-- Changes the table at the end of a path. Tables on the way are made if they are missing; a dotted
key does not enter a table that has a header. -/
def Table.update (byDots : Bool) (change : Table → Except Fault Table) (t : Table) :
    List Text → Except Fault Table
  | [] => change t
  | k :: path =>
    match t.find? k with
    | none => do
      let made := Table.empty (if byDots then .dotted else .implied)
      return t.insert k (.table (← made.update byDots change path))
    | some (.tables ts) =>
      match ts.getLast? with
      | some last => do
        let last ← last.update byDots change path
        return t.insert k (.tables (replaceLast ts last))
      | none => .error (.notATable k)
    | some (.table inner) =>
      if inner.origin = .inline then .error (.notATable k)
      else if byDots && inner.origin == .header then .error (.duplicateKey k)
      else do return t.insert k (.table (← inner.update byDots change path))
    | some _ => .error (.notATable k)

def splitKey : List Text → List Text × Text
  | [] => ([], [])
  | [k] => ([], k)
  | k :: ks => let (path, last) := splitKey ks; (k :: path, last)

/-- Adds the value of a key. A dotted key adds only to tables that dotted keys have made. -/
def Table.assign (t : Table) (parts : List Text) (value : Value) : Except Fault Table :=
  let (path, k) := splitKey parts
  t.update true
    (fun inner =>
      if !path.isEmpty && inner.origin != .dotted then .error (.duplicateKey k)
      else if (inner.find? k).isSome then .error (.duplicateKey k)
      else .ok (inner.insert k value))
    path

/-- Opens the table of a header; it may be there already as a part of a path. -/
def Table.openTable (t : Table) (parts : List Text) : Except Fault Table :=
  let (path, k) := splitKey parts
  t.update false
    (fun inner =>
      match inner.find? k with
      | none => .ok (inner.insert k (.table (.empty .header)))
      | some (.table found) =>
        if found.origin = .implied then .ok (inner.insert k (.table ⟨.header, found.entries⟩))
        else .error (.duplicateKey k)
      | some _ => .error (.duplicateKey k))
    path

def Table.pushTable (t : Table) (parts : List Text) : Except Fault Table :=
  let (path, k) := splitKey parts
  t.update false
    (fun inner =>
      match inner.find? k with
      | none => .ok (inner.insert k (.tables [.empty .header]))
      | some (.tables ts) => .ok (inner.insert k (.tables (ts ++ [.empty .header])))
      | some _ => .error (.duplicateKey k))
    path

-- Values

def skipComment (t : Text) : Text :=
  match t with
  | '#' :: rest => rest.dropWhile isPlain
  | t => t

def skipFiller : Nat → Text → Text
  | 0, t => t
  | fuel + 1, t =>
    match skipSpacesAndNewlines t with
    | '#' :: rest =>
      match newline? (rest.dropWhile isPlain) with
      | some rest => skipFiller fuel rest
      | none => '#' :: rest
    | t => t

mutual

def value : Nat → Nat → Text → Except Fault (Value × Text)
  | 0, _, _ => .error .tooDeep
  | fuel + 1, depth, t =>
    match t with
    | [] => .error .unexpectedEnd
    | '"' :: _ | '\'' :: _ => do
      let (s, rest) ← string t
      .ok (.string s, rest)
    | '[' :: rest =>
      match depth with
      | 0 => .error .tooDeep
      | depth + 1 => arrayItems fuel depth [] (skipFiller rest.length rest)
    | '{' :: rest =>
      match depth with
      | 0 => .error .tooDeep
      | depth + 1 =>
        match skipSpaces rest with
        | '}' :: rest => .ok (.table (.empty .inline), rest)
        | rest => inlineEntries fuel depth (.empty .inline) rest
    | 't' :: 'r' :: 'u' :: 'e' :: rest => .ok (.boolean true, rest)
    | 'f' :: 'a' :: 'l' :: 's' :: 'e' :: rest => .ok (.boolean false, rest)
    | t => (datetime? t).getD (number t)

def arrayItems : Nat → Nat → List Value → Text → Except Fault (Value × Text)
  | 0, _, _, _ => .error .tooDeep
  | fuel + 1, depth, items, t =>
    match t with
    | ']' :: rest => .ok (.array items.reverse, rest)
    | t => do
      let (item, rest) ← value fuel depth t
      match skipFiller rest.length rest with
      | ',' :: rest => arrayItems fuel depth (item :: items) (skipFiller rest.length rest)
      | ']' :: rest => .ok (.array (item :: items).reverse, rest)
      | _ => .error .unexpectedCharacter

def inlineEntries : Nat → Nat → Table → Text → Except Fault (Value × Text)
  | 0, _, _, _ => .error .tooDeep
  | fuel + 1, depth, table, t => do
    let (parts, rest) ← key t
    match rest with
    | '=' :: rest =>
      let (v, rest) ← value fuel depth (skipSpaces rest)
      let table ← table.assign parts v
      match skipSpaces rest with
      | ',' :: rest => inlineEntries fuel depth table rest
      | '}' :: rest => .ok (.table table, rest)
      | _ => .error .unexpectedCharacter
    | _ => .error .unexpectedCharacter

end

-- Documents

/-- A document that is being read, and the header whose table the next keys go to. -/
structure Draft where
  root : Table
  header : List Text

def lineEnd (t : Text) : Except Fault Text :=
  match skipComment (skipSpaces t) with
  | [] => .ok []
  | t =>
    match newline? t with
    | some rest => .ok rest
    | none => .error .unexpectedCharacter

def Draft.assign (d : Draft) (parts : List Text) (v : Value) : Except Fault Draft := do
  let root ← d.root.update false (fun t => t.assign parts v) d.header
  return { d with root := root }

def headerLine (d : Draft) (t : Text) : Except Fault (Draft × Text) :=
  match t with
  | '[' :: t => do
    let (parts, rest) ← key t
    match rest with
    | ']' :: ']' :: rest =>
      let rest ← lineEnd rest
      return (⟨← d.root.pushTable parts, parts⟩, rest)
    | _ => .error .unexpectedCharacter
  | t => do
    let (parts, rest) ← key t
    match rest with
    | ']' :: rest =>
      let rest ← lineEnd rest
      return (⟨← d.root.openTable parts, parts⟩, rest)
    | _ => .error .unexpectedCharacter

def keyLine (d : Draft) (t : Text) : Except Fault (Draft × Text) := do
  let (parts, rest) ← key t
  match rest with
  | '=' :: rest =>
    let t := skipSpaces rest
    let (v, rest) ← value (2 * t.length + 2) (depthLimit - 1) t
    let rest ← lineEnd rest
    return (← d.assign parts v, rest)
  | _ => .error .unexpectedCharacter

def lines : Nat → Draft → Text → Except Fault Table
  | 0, _, _ => .error .tooDeep
  | fuel + 1, d, t =>
    match skipSpaces t with
    | [] => .ok d.root
    | '#' :: rest => do lines fuel d (← lineEnd ('#' :: rest))
    | '[' :: rest => do
      let (d, rest) ← headerLine d rest
      lines fuel d rest
    | t =>
      match newline? t with
      | some rest => lines fuel d rest
      | none => do
        let (d, rest) ← keyLine d t
        lines fuel d rest

def parse (t : Text) : Except Fault Table :=
  let t := (t.stripPrefix? ['\uFEFF']).getD t
  lines (t.length + 1) ⟨.empty .header, []⟩ t

end NoteTemplate.Toml
