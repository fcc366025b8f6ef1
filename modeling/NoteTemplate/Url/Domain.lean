import NoteTemplate.Text.Category
import NoteTemplate.Text.Composition
import NoteTemplate.Text.Direction
import NoteTemplate.Text.Joining
import NoteTemplate.Url.Preparation
import NoteTemplate.Url.Punycode

/-!
Domain names in ASCII form. Characters are prepared, labels are checked, and labels with characters
outside ASCII are written in Punycode behind `xn--`.
-/
namespace NoteTemplate.Url

open Text

def isForbiddenInDomain (c : Char) : Bool :=
  c.toNat ≤ 0x20 || c == '\x7F' || "%#/:<>?@[\\]^|".toList.contains c

def prepareAll : Text → Option Text
  | [] => some []
  | c :: t =>
    match prepare c with
    | .kept => (prepareAll t).map (c :: ·)
    | .replaced u => (prepareAll t).map (u ++ ·)
    | .rejected => none

/-- A character that stands before or after a joiner, beyond those that join transparently. -/
def joinsAcross (tables : List CharTable) (t : Text) : Bool :=
  match t.dropWhile joinsTransparently.contains with
  | c :: _ => tables.any fun table => table.contains c
  | [] => false

/-- Joiners follow a virama; the non-joiner may also part two letters that would join. -/
def joinersFit (before : Text) : Text → Bool
  | [] => true
  | c :: t =>
    let afterVirama := before.head?.any fun d => combiningClass d == 9
    let fits :=
      if c = '\u200D' then afterVirama
      else if c = '\u200C' then
        afterVirama || (joinsAcross [joinsLeft, joinsBothSides] before &&
          joinsAcross [joinsRight, joinsBothSides] t)
      else true
    fits && joinersFit (c :: before) t

def isSoundLabel (label : Text) : Bool :=
  !label.head?.any isMark && joinersFit [] label

/-- A label read from Punycode has to be prepared and composed already. -/
def isPrepared (label : Text) : Bool :=
  label.all (fun c => prepare c = .kept) && compose label = label

def acePrefix : Text := "xn--".toList

def readLabel? (label : Text) : Option Text :=
  match stripPrefix? label acePrefix with
  | none => if isSoundLabel label then some label else none
  | some encoded =>
    match Punycode.decode? encoded with
    | some decoded =>
      if decoded.all (fun c => c.toNat < 128) then none
      else if isPrepared decoded && isSoundLabel decoded then some decoded
      else none
    | none => none

def writeLabel (label : Text) : Text :=
  if label.all fun c => c.toNat < 128 then label else acePrefix ++ Punycode.encode label

def lastDirection? (label : Text) : Option Direction :=
  ((label.map Direction.ofChar).reverse.dropWhile (· == .mark)).head?

/-- Labels of a domain in which some character runs from right to left keep to one direction. -/
def isDirected (label : Text) : Bool :=
  let directions := label.map Direction.ofChar
  let common : List Direction :=
    [.europeanNumber, .separator, .commonSeparator, .terminator, .neutral, .boundaryNeutral, .mark]
  match directions.head? with
  | none => true
  | some .leftToRight =>
    directions.all (fun d => d == .leftToRight || common.contains d) &&
      (lastDirection? label).any fun d => d == .leftToRight || d == .europeanNumber
  | some .rightToLeft | some .arabicLetter =>
    directions.all (fun d => [.rightToLeft, .arabicLetter, .arabicNumber].contains d ||
        common.contains d) &&
      (lastDirection? label).any (fun d =>
        [.rightToLeft, .arabicLetter, .arabicNumber, .europeanNumber].contains d) &&
      !(directions.contains .arabicNumber && directions.contains .europeanNumber)
  | some _ => false

def isRightToLeft (c : Char) : Bool :=
  [Direction.rightToLeft, .arabicLetter, .arabicNumber].contains (Direction.ofChar c)

def domainToAscii? (t : Text) : Option Text := do
  let prepared := compose (← prepareAll t)
  if prepared.any isForbiddenInDomain then none
  else
    let labels ← (splitOn '.' prepared).mapM readLabel?
    if labels.any (fun label => label.any isRightToLeft) && !labels.all isDirected then none
    else some (join ['.'] (labels.map writeLabel))

end NoteTemplate.Url
