import NoteTemplate.Markdown.Line
import NoteTemplate.Text.Blank

namespace NoteTemplate.Markdown

def lowerAscii (t : Text) : Text := t.map Char.toLower

def verbatimTags : List Text := ["pre", "style", "script", "textarea"].map String.toList

/-- What closes the HTML block that opens with this text after `<`, if the block goes on over blank
lines: a closing tag, or the end of a comment, an instruction, a declaration or a section. -/
def htmlCloser? (t : Text) : Option Text :=
  match verbatimTags.find? opens with
  | some tag => some ('<' :: '/' :: tag ++ ['>'])
  | none =>
    match t with
    | '!' :: '-' :: '-' :: _ => some "-->".toList
    | '?' :: _ => some "?>".toList
    | '!' :: c :: rest =>
      if c.isAlpha then some [('>' : Char)]
      else if (Text.stripPrefix? (c :: rest) "[CDATA[".toList).isSome then some "]]>".toList
      else none
    | _ => none
where
  opens (tag : Text) : Bool :=
    lowerAscii (t.take tag.length) == tag &&
      (t.drop tag.length).head?.all fun c => isSpaceOrBreak c || c == '>'

def blockTags : List Text :=
  Text.words <| String.toList <|
  "address article aside base basefont blockquote body caption center col colgroup dd details dialog
   dir div dl dt fieldset figcaption figure footer form frame frameset h1 h2 h3 h4 h5 h6 head header
   hr html iframe legend li link main menu menuitem nav noframes ol optgroup option p param search
   section summary table tbody td tfoot th thead title tr track ul"

def opensBlockTag (t : Text) : Bool :=
  let t := match t with
    | '/' :: rest => rest
    | t => t
  let name := t.takeWhile Char.isAlphanum
  blockTags.contains (lowerAscii name) &&
    match t.drop name.length with
    | [] => true
    | '/' :: '>' :: _ => true
    | c :: _ => c == ' ' || c == '\t' || c == '\r' || c == '\n' || c == '>'

def attributeValue? (t : Text) : Option Text :=
  let special := ['"', '\'', ' ', '=', '<', '>', '\x60', '\n', '\r']
  match t with
  | [] => none
  | c :: rest =>
    if c = '"' ∨ c = '\'' then
      match rest.dropWhile fun d => d ≠ c ∧ d ≠ '\n' ∧ d ≠ '\r' with
      | d :: rest => if d = c then some rest else none
      | [] => none
    else if special.contains c then none
    else some (t.dropWhile fun d => !special.contains d)

def attribute? (t : Text) : Option Text :=
  match t with
  | [] => none
  | c :: rest =>
    if c.isAlpha ∨ c = '_' ∨ c = ':' then
      let named := rest.dropWhile fun d => d.isAlphanum || "_.:-".toList.contains d
      match named.dropWhile isSpace with
      | '=' :: value => attributeValue? (value.dropWhile isSpace)
      | [] => none
      | d :: _ => if d = '\n' ∨ d = '\r' then none else some named
    else none

def attributes? : Nat → Text → Option Text
  | 0, _ => none
  | fuel + 1, t =>
    let rest := t.dropWhile isSpace
    match rest with
    | [] => none
    | c :: _ =>
      if c = '/' ∨ c = '>' then some rest
      else if rest.length = t.length ∨ c = '\n' ∨ c = '\r' then none
      else (attribute? rest).bind (attributes? fuel)

def opensTagLine (t : Text) : Bool :=
  let (closing, t) := match t with
    | '/' :: rest => (true, rest)
    | t => (false, t)
  let letters := t.takeWhile Char.isAlpha
  let named := t.dropWhile fun c => c.isAlphanum || c == '-'
  if letters.isEmpty then false
  else
    let close? := if closing then some (named.dropWhile isSpace)
      else (attributes? (named.length + 1) named).map fun rest =>
        match rest with
        | '/' :: rest => rest
        | rest => rest
    match close? with
    | some ('>' :: rest) => (blankLine? rest).isSome
    | _ => false

end NoteTemplate.Markdown
