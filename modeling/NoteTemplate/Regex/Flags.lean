import NoteTemplate.Regex.Basic

namespace NoteTemplate.Regex

inductive SyntaxError where
  | unclosedGroup
  | unopenedGroup
  | unsupportedLookAround
  | nothingToRepeat
  | badFlags
  | badGroupName
  | duplicateGroupName
  | badRepetition
  | badEscape
  | backreference
  | unclosedClass
  | badClassRange
  | badClassItem
  | unknownProperty
  | unicodeNotAllowed
  /-- The expression could match a part of a character. -/
  | notText
  | tooDeep
  | tooLarge
  deriving DecidableEq, Repr

def SyntaxError.message : SyntaxError → String
  | .unclosedGroup => "unclosed group"
  | .unopenedGroup => "unopened group"
  | .unsupportedLookAround => "look-around is not supported"
  | .nothingToRepeat => "repetition operator missing expression"
  | .badFlags => "invalid flags"
  | .badGroupName => "invalid capture group name"
  | .duplicateGroupName => "duplicate capture group name"
  | .badRepetition => "invalid repetition count"
  | .badEscape => "invalid escape sequence"
  | .backreference => "backreferences are not supported"
  | .unclosedClass => "unclosed character class"
  | .badClassRange => "invalid character class range"
  | .badClassItem => "invalid item in character class"
  | .unknownProperty => "unknown character property"
  | .unicodeNotAllowed => "character class not allowed here"
  | .notText => "pattern can match invalid text"
  | .tooDeep => "nested too deeply"
  | .tooLarge => "compiled expression is too large"

structure Flags where
  caseless : Bool
  multiLine : Bool
  dotAll : Bool
  swapGreed : Bool
  unicode : Bool
  crlf : Bool
  verbose : Bool
  deriving DecidableEq, Repr

namespace Flags

def default : Flags := ⟨false, false, false, false, true, false, false⟩

def set? (flags : Flags) (value : Bool) : Char → Option Flags
  | 'i' => some { flags with caseless := value }
  | 'm' => some { flags with multiLine := value }
  | 's' => some { flags with dotAll := value }
  | 'U' => some { flags with swapGreed := value }
  | 'u' => some { flags with unicode := value }
  | 'R' => some { flags with crlf := value }
  | 'x' => some { flags with verbose := value }
  | _ => none

def fold (flags : Flags) (cls : CharClass) : CharClass :=
  if !flags.caseless then cls
  else if flags.unicode then .caseless cls
  else .caselessAscii cls

/-- A class that is case-folded first and negated after. -/
def close (flags : Flags) (negated : Bool) (cls : CharClass) : Except SyntaxError CharClass :=
  let closed := CharClass.negateIf negated (flags.fold cls)
  if flags.unicode || closed.isAscii then .ok closed else .error .notText

def dot (flags : Flags) : Except SyntaxError CharClass :=
  if !flags.unicode then .error .notText
  else if flags.dotAll then .ok .any
  else if flags.crlf then .ok (.negate (.ofRanges [('\n', '\n'), ('\r', '\r')]))
  else .ok (.negate (.single '\n'))

def lineStart (flags : Flags) : Look :=
  if !flags.multiLine then .start else if flags.crlf then .crlfStart else .lineStart

def lineStop (flags : Flags) : Look :=
  if !flags.multiLine then .stop else if flags.crlf then .crlfStop else .lineStop

def shorthand (flags : Flags) (c : Char) : CharClass :=
  match flags.unicode, c with
  | true, 'd' => .digit
  | true, 's' => .blank
  | true, _ => .word
  | false, 'd' => .range '0' '9'
  | false, 's' => .ofRanges [('\t', '\r'), (' ', ' ')]
  | false, _ => .ofRanges [('0', '9'), ('A', 'Z'), ('_', '_'), ('a', 'z')]

def shorthandClass (flags : Flags) (c : Char) : Except SyntaxError CharClass :=
  let cls := CharClass.negateIf c.isUpper (flags.shorthand c.toLower)
  if flags.unicode || cls.isAscii then .ok cls else .error .notText

end Flags

def asciiClass? (name : String) : Option CharClass :=
  (match name with
    | "alnum" => some [('0', '9'), ('A', 'Z'), ('a', 'z')]
    | "alpha" => some [('A', 'Z'), ('a', 'z')]
    | "ascii" => some [('\x00', '\x7F')]
    | "blank" => some [('\t', '\t'), (' ', ' ')]
    | "cntrl" => some [('\x00', '\x1F'), ('\x7F', '\x7F')]
    | "digit" => some [('0', '9')]
    | "graph" => some [('!', '~')]
    | "lower" => some [('a', 'z')]
    | "print" => some [(' ', '~')]
    | "punct" => some [('!', '/'), (':', '@'), ('[', '\x60'), ('\x7B', '~')]
    | "space" => some [('\t', '\r'), (' ', ' ')]
    | "upper" => some [('A', 'Z')]
    | "word" => some [('0', '9'), ('A', 'Z'), ('_', '_'), ('a', 'z')]
    | "xdigit" => some [('0', '9'), ('A', 'F'), ('a', 'f')]
    | _ => none).map CharClass.ofRanges

def binaryProperty? (name : Text) : Option CharClass :=
  let key := Text.looseName name
  let ambiguous := key = "cf".toList ∨ key = "sc".toList ∨ key = "lc".toList
  let property := if ambiguous then none else (Text.named? Text.properties key).map CharClass.table
  property.orElse fun _ => (category? key).orElse fun _ =>
    (Text.named? Text.scripts key).map CharClass.table
where
  category? (key : Text) : Option CharClass :=
    if key = "any".toList then some .any
    else if key = "assigned".toList then some (.negate (.categories [.unassigned]))
    else if key = "ascii".toList then some (.range '\x00' '\x7F')
    else (Text.named? Text.GeneralCategory.named key).map CharClass.categories

def valuedProperty? (property value : Text) : Option CharClass :=
  let key := Text.looseName property
  let value := Text.looseName value
  if key = "gc".toList ∨ key = "generalcategory".toList then binaryProperty?.category? value
  else if key = "sc".toList ∨ key = "script".toList then
    (Text.named? Text.scripts value).map CharClass.table
  else if key = "scx".toList ∨ key = "scriptextensions".toList then
    (Text.named? Text.scriptExtensions value).map CharClass.table
  else none

end NoteTemplate.Regex
