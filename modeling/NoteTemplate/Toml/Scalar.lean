import NoteTemplate.Decimal
import NoteTemplate.Toml.Value

namespace NoteTemplate.Toml

open Text

-- Strings

def isPlain (c : Char) : Bool := c == '\t' || (0x20 ≤ c.toNat && c.toNat != 0x7F)

def unicodeEscape (count : Nat) (t : Text) : Except Fault (Char × Text) :=
  let digits := t.take count
  let code := ofHexDigits digits
  if digits.length = count ∧ digits.all isHexDigit ∧ code.isValidChar then
    .ok (Char.ofNat code, t.drop count)
  else .error .badString

def escape : Text → Except Fault (Char × Text)
  | 'b' :: t => .ok ('\x08', t)
  | 't' :: t => .ok ('\t', t)
  | 'n' :: t => .ok ('\n', t)
  | 'f' :: t => .ok ('\x0C', t)
  | 'r' :: t => .ok ('\r', t)
  | '"' :: t => .ok ('"', t)
  | '\\' :: t => .ok ('\\', t)
  | 'u' :: t => unicodeEscape 4 t
  | 'U' :: t => unicodeEscape 8 t
  | _ => .error .badString

def isSpace (c : Char) : Bool := c == ' ' || c == '\t'

def skipSpaces (t : Text) : Text := t.dropWhile isSpace

def newline? : Text → Option Text
  | '\n' :: t => some t
  | '\r' :: '\n' :: t => some t
  | _ => none

def skipSpacesAndNewlines : Text → Text
  | [] => []
  | '\r' :: '\n' :: t => skipSpacesAndNewlines t
  | c :: t => if isSpace c || c == '\n' then skipSpacesAndNewlines t else c :: t

def basicBody : Nat → Text → Except Fault (Text × Text)
  | 0, _ => .error .badString
  | _ + 1, [] => .error .badString
  | fuel + 1, c :: t =>
    if c = '"' then .ok ([], t)
    else if c = '\\' then do
      let (d, rest) ← escape t
      let (body, rest) ← basicBody fuel rest
      .ok (d :: body, rest)
    else if isPlain c then do
      let (body, rest) ← basicBody fuel t
      .ok (c :: body, rest)
    else .error .badString

/-- Up to two quotes may stand right before the three that close a string. -/
def closingQuotes? (quote : Char) (t : Text) : Option (Text × Text) :=
  let count := (t.takeWhile (· = quote)).length
  if count < 3 then none
  else
    let inner := min (count - 3) 2
    some (List.replicate inner quote, t.drop (inner + 3))

def multiLineBasicBody : Nat → Text → Except Fault (Text × Text)
  | 0, _ => .error .badString
  | _ + 1, [] => .error .badString
  | fuel + 1, c :: t =>
    let more (d : Char) (rest : Text) : Except Fault (Text × Text) := do
      let (body, rest) ← multiLineBasicBody fuel rest
      .ok (d :: body, rest)
    if c = '"' then
      match closingQuotes? '"' (c :: t) with
      | some (body, rest) => .ok (body, rest)
      | none => more '"' t
    else if c = '\\' then
      match newline? (skipSpaces t) with
      | some rest => multiLineBasicBody fuel (skipSpacesAndNewlines rest)
      | none => do
        let (d, rest) ← escape t
        more d rest
    else match newline? (c :: t) with
      | some rest => more '\n' rest
      | none => if isPlain c then more c t else .error .badString

def literalBody (t : Text) : Except Fault (Text × Text) :=
  let body := t.takeWhile fun c => isPlain c && c != '\''
  match t.drop body.length with
  | '\'' :: rest => .ok (body, rest)
  | _ => .error .badString

def multiLineLiteralBody : Nat → Text → Except Fault (Text × Text)
  | 0, _ => .error .badString
  | _ + 1, [] => .error .badString
  | fuel + 1, c :: t =>
    let more (d : Char) (rest : Text) : Except Fault (Text × Text) := do
      let (body, rest) ← multiLineLiteralBody fuel rest
      .ok (d :: body, rest)
    if c = '\'' then
      match closingQuotes? '\'' (c :: t) with
      | some (body, rest) => .ok (body, rest)
      | none => more c t
    else match newline? (c :: t) with
      | some rest => more '\n' rest
      | none => if isPlain c then more c t else .error .badString

/-- A line break right after the opening quotes does not count. -/
def dropFirstNewline (t : Text) : Text := (newline? t).getD t

def string (t : Text) : Except Fault (Text × Text) :=
  let fuel := t.length + 1
  match t with
  | '"' :: '"' :: '"' :: t => multiLineBasicBody fuel (dropFirstNewline t)
  | '\'' :: '\'' :: '\'' :: t => multiLineLiteralBody fuel (dropFirstNewline t)
  | t => singleLineString t
where
  singleLineString : Text → Except Fault (Text × Text)
    | '"' :: t => basicBody (t.length + 1) t
    | '\'' :: t => literalBody t
    | _ => .error .badString

-- Numbers

def digitRun (isDigit : Char → Bool) : Text → Except Fault (Text × Text)
  | [] => .ok ([], [])
  | c :: t =>
    if isDigit c then
      match t with
      | '_' :: d :: rest =>
        if isDigit d then do
          let (digits, rest) ← digitRun isDigit (d :: rest)
          .ok (c :: digits, rest)
        else .error .badNumber
      | ['_'] => .error .badNumber
      | t => do
        let (digits, rest) ← digitRun isDigit t
        .ok (c :: digits, rest)
    else .ok ([], c :: t)

def nonEmptyRun (isDigit : Char → Bool) (t : Text) : Except Fault (Text × Text) := do
  let (digits, rest) ← digitRun isDigit t
  if digits.isEmpty then .error .badNumber else .ok (digits, rest)

/-- An integer of base ten without leading zeros; after a zero the digits end. -/
def wholePart (t : Text) : Except Fault (Text × Text) :=
  match t with
  | '0' :: rest => .ok (['0'], rest)
  | t => nonEmptyRun Char.isDigit t

def exponentPart (t : Text) : Except Fault (Text × Text) := do
  let sign := (t.take 1).filter fun c => c == '+' || c == '-'
  let (digits, rest) ← nonEmptyRun Char.isDigit (t.drop sign.length)
  .ok (sign ++ digits, rest)

def int64 (n : Int) : Except Fault Value :=
  if -0x8000000000000000 ≤ n ∧ n < 0x8000000000000000 then .ok (.integer n)
  else .error .badNumber

/-- Positive numbers have to be finite; negative ones may go to infinity. -/
def floatValue (negative : Bool) (sign body : Text) : Except Fault Value :=
  if negative || (Decimal.ofText? body).any Decimal.isFinite then .ok (.float (sign ++ body))
  else .error .badNumber

def radixInteger (radix : Nat) (isDigit : Char → Bool) (t : Text) :
    Except Fault (Value × Text) := do
  let (digits, rest) ← nonEmptyRun isDigit t
  let value ← int64 (digits.foldl (fun n c => radix * n + hexValue c) 0)
  .ok (value, rest)

def decimalNumber (sign t : Text) : Except Fault (Value × Text) := do
  let negative := sign = ['-']
  let (whole, rest) ← wholePart t
  let float (fraction : Text) (rest : Text) : Except Fault (Value × Text) :=
    match rest with
    | c :: rest' =>
      if c = 'e' ∨ c = 'E' then do
        let (exponent, rest) ← exponentPart rest'
        let value ← floatValue negative sign (whole ++ fraction ++ 'e' :: exponent)
        .ok (value, rest)
      else do .ok (← floatValue negative sign (whole ++ fraction), rest)
    | [] => do .ok (← floatValue negative sign (whole ++ fraction), [])
  match rest with
  | '.' :: rest => do
    let (digits, rest) ← nonEmptyRun Char.isDigit rest
    float ('.' :: digits) rest
  | 'e' :: _ | 'E' :: _ => float [] rest
  | rest =>
    let n : Int := ofDecimalDigits whole
    .ok (← int64 (if negative then -n else n), rest)

def number (t : Text) : Except Fault (Value × Text) :=
  let sign := (t.take 1).filter fun c => c == '+' || c == '-'
  match sign, t.drop sign.length with
  | _, 'i' :: 'n' :: 'f' :: rest => .ok (.float (sign ++ "inf".toList), rest)
  | _, 'n' :: 'a' :: 'n' :: rest => .ok (.float (sign ++ "nan".toList), rest)
  | [], '0' :: 'x' :: rest => radixInteger 16 isHexDigit rest
  | [], '0' :: 'o' :: rest => radixInteger 8 (fun c => '0' ≤ c && c ≤ '7') rest
  | [], '0' :: 'b' :: rest => radixInteger 2 (fun c => c == '0' || c == '1') rest
  | _, unsigned => decimalNumber sign unsigned

-- Dates and times

def fixedNumber (count low high : Nat) (t : Text) : Except Fault (Text × Text) :=
  let digits := t.take count
  let n := ofDecimalDigits digits
  if digits.length = count ∧ digits.all Char.isDigit ∧ low ≤ n ∧ n ≤ high then
    .ok (digits, t.drop count)
  else .error .badDate

def expect (c : Char) : Text → Except Fault Text
  | d :: t => if d = c then .ok t else .error .badDate
  | [] => .error .badDate

def daysInMonth (year month : Nat) : Nat :=
  if month = 2 then if year % 4 = 0 ∧ (year % 100 ≠ 0 ∨ year % 400 = 0) then 29 else 28
  else if month ∈ [4, 6, 9, 11] then 30
  else 31

def date (t : Text) : Except Fault (Text × Text) := do
  let year := t.take 4
  let (month, rest) ← fixedNumber 2 1 12 (t.drop 5)
  let rest ← expect '-' rest
  let (day, rest) ←
    fixedNumber 2 1 (daysInMonth (ofDecimalDigits year) (ofDecimalDigits month)) rest
  .ok (year ++ '-' :: month ++ '-' :: day, rest)

/-- Nine places of a fraction count; zeros at its end are not shown. -/
def fractionText (digits : Text) : Text :=
  let shown := ((digits.take 9).reverse.dropWhile (· = '0')).reverse
  if shown.isEmpty then [] else '.' :: shown

def time (t : Text) : Except Fault (Text × Text) := do
  let (hour, rest) ← fixedNumber 2 0 23 t
  let (minute, rest) ← fixedNumber 2 0 59 (rest.drop 1)
  let rest ← expect ':' rest
  let (second, rest) ← fixedNumber 2 0 60 rest
  let shown := hour ++ ':' :: minute ++ ':' :: second
  match rest with
  | '.' :: fraction =>
    let digits := fraction.takeWhile Char.isDigit
    if digits.isEmpty then .ok (shown, rest)
    else .ok (shown ++ fractionText digits, fraction.drop digits.length)
  | rest => .ok (shown, rest)

def startsDate (t : Text) : Bool :=
  (t.take 4).length == 4 && (t.take 4).all Char.isDigit && (t.drop 4).head? == some '-'

def startsTime (t : Text) : Bool :=
  (t.take 2).length == 2 && (t.take 2).all Char.isDigit && (t.drop 2).head? == some ':'

def offset (t : Text) : Except Fault (Text × Text) :=
  match t with
  | 'Z' :: rest | 'z' :: rest => .ok (['Z'], rest)
  | sign :: rest =>
    let hour := rest.take 2
    if (sign = '+' ∨ sign = '-') ∧ hour.all Char.isDigit ∧ hour.length = 2 then do
      let (hour, rest) ← fixedNumber 2 0 23 rest
      let rest ← expect ':' rest
      let (minute, rest) ← fixedNumber 2 0 59 rest
      .ok (sign :: hour ++ ':' :: minute, rest)
    else .ok ([], t)
  | [] => .ok ([], [])

def datetime? (t : Text) : Option (Except Fault (Value × Text)) :=
  if startsDate t then some do
    let (day, rest) ← date t
    match rest with
    | c :: rest' =>
      if (c = 'T' ∨ c = 't' ∨ c = ' ') ∧ startsTime rest' then
        let (clock, rest) ← time rest'
        let (zone, rest) ← offset rest
        .ok (.datetime (day ++ 'T' :: clock ++ zone), rest)
      else .ok (.datetime day, rest)
    | [] => .ok (.datetime day, [])
  else if startsTime t then some do
    let (clock, rest) ← time t
    .ok (.datetime clock, rest)
  else none

end NoteTemplate.Toml
