import NoteTemplate.Regex.Flags

namespace NoteTemplate.Regex

abbrev Parse (α : Type) := Except SyntaxError (α × Text)

def skipFrom (inComment : Bool) : Text → Text
  | [] => []
  | c :: t =>
    if inComment then skipFrom (c != '\n') t
    else if Text.isBlank c then skipFrom false t
    else if c = '#' then skipFrom true t
    else c :: t

def Flags.skip (flags : Flags) (t : Text) : Text := if flags.verbose then skipFrom false t else t

def collect (verbose inComment : Bool) (wanted : Char → Bool) : Text → Text × Text
  | [] => ([], [])
  | c :: t =>
    if inComment then collect verbose (c != '\n') wanted t
    else if verbose && Text.isBlank c then collect verbose false wanted t
    else if verbose && c == '#' then collect verbose true wanted t
    else if wanted c then
      let (taken, rest) := collect verbose false wanted t
      (c :: taken, rest)
    else ([], c :: t)

def Flags.collect (flags : Flags) (wanted : Char → Bool) (t : Text) : Text × Text :=
  Regex.collect flags.verbose false wanted t

inductive Atom where
  /-- `byte` tells a character that is written as the number of a byte. -/
  | literal (c : Char) (byte : Bool)
  | look (assertion : Look)
  | set (members : CharClass)

def charOfCode? (n : Nat) : Option Char :=
  if n.isValidChar then some (Char.ofNat n) else none

def fixedHex (flags : Flags) : Nat → Text → Parse Text
  | 0, t => .ok ([], flags.skip t)
  | n + 1, t =>
    match flags.skip t with
    | c :: rest =>
      if Text.isHexDigit c then
        match fixedHex flags n rest with
        | .ok (digits, rest) => .ok (c :: digits, rest)
        | .error e => .error e
      else .error .badEscape
    | [] => .error .badEscape

def hexEscape (flags : Flags) (count : Nat) (t : Text) : Parse Atom :=
  match flags.skip t with
  | '{' :: t =>
    let (digits, rest) := flags.collect (· ≠ '}') t
    if digits.isEmpty || rest.isEmpty || !digits.all Text.isHexDigit then .error .badEscape
    else match charOfCode? (Text.ofHexDigits digits) with
      | some c => .ok (.literal c false, flags.skip (rest.drop 1))
      | none => .error .badEscape
  | t =>
    match fixedHex flags count t with
    | .error e => .error e
    | .ok (digits, rest) =>
      match charOfCode? (Text.ofHexDigits digits) with
      | some c => .ok (.literal c (count = 2), rest)
      | none => .error .badEscape

def cutAt? (mark : Text) : Text → Option (Text × Text)
  | [] => none
  | c :: t =>
    match Text.stripPrefix? (c :: t) mark with
    | some rest => some ([], rest)
    | none => (cutAt? mark t).map fun (before, rest) => (c :: before, rest)

def propertyClass? (name : Text) : Option (CharClass × Bool) :=
  match cutAt? ['!', '='] name with
  | some (property, value) => (valuedProperty? property value).map (·, true)
  | none =>
    match (cutAt? [':'] name).orElse fun _ => cutAt? ['='] name with
    | some (property, value) => (valuedProperty? property value).map (·, false)
    | none => (binaryProperty? name).map (·, false)

def propertyEscape (flags : Flags) (negated : Bool) (t : Text) : Parse Atom :=
  let found (name rest : Text) : Parse Atom :=
    if !flags.unicode then .error .unicodeNotAllowed
    else match propertyClass? name with
      | some (cls, complement) =>
        .ok (.set (.negateIf (negated != complement) (flags.fold cls)), rest)
      | none => .error .unknownProperty
  match flags.skip t with
  | [] => .error .badEscape
  | '{' :: t =>
    let (name, rest) := flags.collect (· ≠ '}') t
    if rest.isEmpty then .error .badEscape else found name (rest.drop 1)
  | c :: rest => if c = '\\' then .error .unknownProperty else found [c] (flags.skip rest)

def boundaryEscape (flags : Flags) (t : Text) : Parse Atom :=
  let ascii := !flags.unicode
  let plain : Parse Atom := .ok (.look (.wordBoundary ascii), t)
  let isNameChar (c : Char) : Bool := c.isAlpha || c == '-'
  match t with
  | '{' :: inner =>
    match flags.skip inner with
    | [] => .error .badRepetition
    | c :: inner =>
      if !isNameChar c then plain
      else
        let (name, rest) := flags.collect isNameChar (c :: inner)
        match String.ofList name, rest with
        | "start", '}' :: rest => .ok (.look (.wordStart ascii), rest)
        | "end", '}' :: rest => .ok (.look (.wordStop ascii), rest)
        | "start-half", '}' :: rest => .ok (.look (.wordStartHalf ascii), rest)
        | "end-half", '}' :: rest => .ok (.look (.wordStopHalf ascii), rest)
        | _, _ => .error .badEscape
  | _ => plain

/-- Any ASCII character but letters, digits, `<` and `>` may follow a backslash for itself. -/
def isEscapable (c : Char) : Bool := c.toNat < 128 && !c.isAlphanum && c != '<' && c != '>'

def escapeSequence (flags : Flags) : Text → Parse Atom
  | [] => .error .badEscape
  | c :: t =>
    match c with
    | 'x' => hexEscape flags 2 t
    | 'u' => hexEscape flags 4 t
    | 'U' => hexEscape flags 8 t
    | 'p' => propertyEscape flags false t
    | 'P' => propertyEscape flags true t
    | 'd' | 's' | 'w' | 'D' | 'S' | 'W' =>
      match flags.shorthandClass c with
      | .ok cls => .ok (.set cls, t)
      | .error e => .error e
    | 'a' => .ok (.literal '\x07' false, t)
    | 'f' => .ok (.literal '\x0C' false, t)
    | 't' => .ok (.literal '\t' false, t)
    | 'n' => .ok (.literal '\n' false, t)
    | 'r' => .ok (.literal '\r' false, t)
    | 'v' => .ok (.literal '\x0B' false, t)
    | 'A' => .ok (.look .start, t)
    | 'z' => .ok (.look .stop, t)
    | 'b' => boundaryEscape flags t
    | 'B' => .ok (.look (.notWordBoundary !flags.unicode), t)
    | '<' => .ok (.look (.wordStart !flags.unicode), t)
    | '>' => .ok (.look (.wordStop !flags.unicode), t)
    | c =>
      if c.isDigit then .error .backreference
      else if isEscapable c then .ok (.literal c false, t)
      else .error .badEscape

-- Character classes

inductive ClassOperator where
  | intersection
  | difference
  | symmetricDifference

inductive ClassFrame where
  | bracket (negated : Bool) (outer : CharClass)
  | operation (operator : ClassOperator) (left : CharClass)

def ClassOperator.apply (flags : Flags) (a b : CharClass) : ClassOperator → CharClass
  | .intersection => .inter (flags.fold a) (flags.fold b)
  | .difference => .diff (flags.fold a) (flags.fold b)
  | .symmetricDifference => .symmetricDiff (flags.fold a) (flags.fold b)

def applyOperation (flags : Flags) (cls : CharClass) :
    List ClassFrame → CharClass × List ClassFrame
  | .operation operator left :: frames => (operator.apply flags left cls, frames)
  | frames => (cls, frames)

/-- Hyphens right after the opening bracket are members. -/
def leadingHyphens (flags : Flags) (cls : CharClass) (t : Text) : CharClass × Text :=
  let (hyphens, rest) := flags.collect (· = '-') t
  (if hyphens.isEmpty then cls else .union cls (.single '-'), rest)

def openClass (flags : Flags) (t : Text) : Parse (Bool × CharClass) :=
  let (negated, t) := match flags.skip t with
    | '^' :: t => (true, flags.skip t)
    | t => (false, t)
  match t with
  | [] => .error .unclosedClass
  | ']' :: t => .ok ((negated, .single ']'), flags.skip t)
  | t =>
    let (cls, t) := leadingHyphens flags .none t
    .ok ((negated, cls), t)

def classItem (flags : Flags) : Text → Parse Atom
  | [] => .error .unclosedClass
  | '\\' :: t => escapeSequence flags t
  | c :: t => .ok (.literal c false, t)

/-- Outside Unicode mode only ASCII characters may be members. -/
def Atom.member (flags : Flags) : Atom → Except SyntaxError CharClass
  | .literal c _ => if flags.unicode || c.toNat < 128 then .ok (.single c) else .error .notText
  | .set cls => .ok cls
  | .look _ => .error .badClassItem

def rangeClass (flags : Flags) (first last : Atom) : Except SyntaxError CharClass :=
  match first, last with
  | .literal a _, .literal b _ =>
    if b < a then .error .badClassRange
    else if flags.unicode || b.toNat < 128 then .ok (.range a b)
    else .error .notText
  | _, _ => .error .badClassRange

/-- One member, or a range when a hyphen follows that is not the last character of the class. -/
def classRange (flags : Flags) (t : Text) : Except SyntaxError (CharClass × Text) := do
  let (first, rest) ← classItem flags t
  match flags.skip rest with
  | [] => .error .unclosedClass
  | '-' :: after =>
    match flags.skip after with
    | [] => .error .unclosedClass
    | ']' :: _ | '-' :: _ => return (← first.member flags, '-' :: after)
    | after =>
      let (last, rest) ← classItem flags after
      return (← rangeClass flags first last, rest)
  | rest => return (← first.member flags, rest)

def namedClass? (flags : Flags) : Text → Option (Except SyntaxError CharClass × Text)
  | ':' :: t =>
    let (negated, t) := match t with
      | '^' :: t => (true, t)
      | t => (false, t)
    let name := t.takeWhile (· ≠ ':')
    match t.dropWhile (· ≠ ':') with
    | ':' :: ']' :: rest =>
      (asciiClass? (String.ofList name)).map fun cls => (flags.close negated cls, rest)
    | _ => none
  | _ => none

/-- Reads a class to its closing bracket, given what encloses the part that is being read. -/
def classBody (flags : Flags) :
    Nat → List ClassFrame → CharClass → Text → Except SyntaxError (CharClass × Text)
  | 0, _, _, _ => .error .unclosedClass
  | fuel + 1, frames, cls, t => do
    let operation (operator : ClassOperator) (rest : Text) :=
      let (left, frames) := applyOperation flags cls frames
      classBody flags fuel (.operation operator left :: frames) .none rest
    match flags.skip t with
    | [] => .error .unclosedClass
    | '[' :: rest =>
      match namedClass? flags rest with
      | some (named, rest) => classBody flags fuel frames (.union cls (← named)) rest
      | none =>
        let ((negated, inner), rest) ← openClass flags rest
        classBody flags fuel (.bracket negated cls :: frames) inner rest
    | ']' :: rest =>
      match applyOperation flags cls frames with
      | (cls, .bracket negated outer :: frames) =>
        let closed ← flags.close negated cls
        if frames.isEmpty then return (closed, rest)
        else classBody flags fuel frames (.union outer closed) rest
      | _ => .error .unclosedClass
    | '&' :: '&' :: rest => operation .intersection rest
    | '-' :: '-' :: rest => operation .difference rest
    | '~' :: '~' :: rest => operation .symmetricDifference rest
    | t =>
      let (member, rest) ← classRange flags t
      classBody flags fuel frames (.union cls member) rest

def bracketClass (flags : Flags) (t : Text) : Except SyntaxError (CharClass × Text) := do
  let ((negated, cls), rest) ← openClass flags t
  classBody flags (t.length + 1) [.bracket negated .none] cls rest

end NoteTemplate.Regex
