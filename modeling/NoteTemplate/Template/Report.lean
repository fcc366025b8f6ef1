import NoteTemplate.Template.Error
import NoteTemplate.Text.Blank
import NoteTemplate.Text.Width

/-!
Compile errors as text for a terminal: the message, the marked lines of the template between rules,
and the notes.
-/
namespace NoteTemplate

structure SourceLine where
  number : Nat
  /-- The byte offset of the line in the source. -/
  start : Nat
  text : Text

def sourceLinesFrom (number start : Nat) : List Text → List SourceLine
  | [] => []
  | line :: lines =>
    let ends (c : Char) : Bool := c == '\r' || c == '\x00'
    ⟨number, start, (line.reverse.dropWhile ends).reverse⟩ ::
      sourceLinesFrom (number + 1) (start + Text.byteLength line + 1) lines

def sourceLines (source : Text) : List SourceLine :=
  sourceLinesFrom 1 0 (source.splitOn '\n')

def linesUnder (span : Span) (lines : List SourceLine) : List SourceLine :=
  let firsts := lines.takeWhile (·.start ≤ span.start)
  let later := lines.drop firsts.length
  firsts.getLast?.toList ++ later.takeWhile (·.start ≤ span.stop)

structure Cell where
  char : Char
  offset : Nat
  columns : Nat

def cellsFrom (column offset : Nat) : Text → List Cell
  | [] => []
  | c :: t =>
    let width := if c = '\t' then 4 - column % 4 else Text.columns c
    ⟨c, offset, width⟩ :: cellsFrom (column + width) (offset + c.utf8Size) t

def cells (line : Text) : List Cell := cellsFrom 0 0 line

def blanks (n : Nat) : Text := List.replicate n ' '

def showCells (cells : List Cell) : Text :=
  cells.flatMap fun cell => if cell.char = '\t' then blanks cell.columns else [cell.char]

def columnsBefore (offset : Nat) (cells : List Cell) : Nat :=
  (cells.filter (·.offset < offset)).foldr (fun cell n => cell.columns + n) 0

/-- Carets under the cells of a span, with one more cell at the end of the line. -/
def caretsUnder (span : Span) (line : Text) : Text :=
  let mark (cell : Cell) : Text :=
    if cell.offset < span.stop ∧ span.start < cell.offset + cell.char.utf8Size then
      List.replicate cell.columns '^'
    else if cell.offset < span.stop then blanks cell.columns
    else []
  let last : Cell := ⟨'\x00', Text.byteLength line, 1⟩
  (cells line ++ [last]).flatMap mark

/-- The part of a line that goes through all of a report, left of the source. -/
structure Gutter where
  width : Nat

namespace Gutter

def blank (g : Gutter) : Text := blanks (g.width + 1)

def numbered (g : Gutter) (n : Nat) : Text :=
  let digits := Nat.toDigits 10 n
  blanks (g.width - digits.length) ++ digits ++ [' ']

def ruled (g : Gutter) (content : Text) : Text := g.blank ++ '│' :: content ++ ['\n']

def source (g : Gutter) (line : SourceLine) (mark : Text) : Text :=
  g.numbered line.number ++ '│' :: mark ++ ' ' :: showCells (cells line.text) ++ ['\n']

end Gutter

def markOne (g : Gutter) (span : Span) (line : SourceLine) : Text :=
  let start := span.start - line.start
  let stop := max (span.stop - line.start) (start + 1)
  g.source line [] ++ g.ruled (' ' :: caretsUnder ⟨start, stop⟩ line.text)

/-- The first line of a span of several lines. If only blanks stand before the span, the bracket on
the left begins at this line. -/
def markFirst (g : Gutter) (start : Nat) (line : SourceLine) : Text :=
  let offset := start - line.start
  if offset ≤ Text.byteLength (line.text.takeWhile Text.isBlank) then g.source line [' ', '╭']
  else
    let bar := List.replicate (columnsBefore (offset + 1) (cells line.text)) '─'
    g.source line [' ', ' '] ++ g.ruled (' ' :: '╭' :: bar ++ ['^'])

def markLast (g : Gutter) (stop : Nat) (line : SourceLine) : Text :=
  let bar := List.replicate (columnsBefore (stop - line.start) (cells line.text)) '─'
  g.source line [' ', '│'] ++ g.ruled (' ' :: '╰' :: bar ++ ['^'])

/-- The lines between them: if there are more than five, the first three and the last one. -/
def markBetween (g : Gutter) (lines : List SourceLine) : Text :=
  let all (ls : List SourceLine) : Text := ls.flatMap (g.source · [' ', '│'])
  if lines.length ≤ 5 then all lines
  else all (lines.take 3) ++ g.blank ++ ['·', ' ', '│', '\n'] ++ all (lines.drop (lines.length - 1))

def markSpan (g : Gutter) (span : Span) : List SourceLine → Text
  | [] => []
  | [line] => g.ruled [] ++ markOne g span line ++ g.ruled []
  | first :: rest =>
    g.ruled [' ', ' '] ++ markFirst g span.start first ++ markBetween g rest.dropLast ++
      (rest.getLast?.map (markLast g span.stop)).getD [] ++ g.ruled [' ', ' ']

def CompileError.report (name source : Text) (e : CompileError) : Text :=
  let lines := linesUnder e.span (sourceLines source)
  let digits (line : SourceLine) : Nat := (Nat.toDigits 10 line.number).length
  let gutter : Gutter := ⟨(lines.map digits).foldl max 0⟩
  let place := lines.head?.map fun line =>
    let column := (Text.takeBytes (e.span.start - line.start) line.text).length + 1
    ':' :: Nat.toDigits 10 line.number ++ ':' :: Nat.toDigits 10 column
  let note (text : String) : Text := gutter.blank ++ '=' :: ' ' :: text.toList ++ ['\n']
  "error: ".toList ++ e.message.toList ++ ['\n'] ++
    gutter.blank ++ '┌' :: '─' :: ' ' :: name ++ place.getD [] ++ ['\n'] ++
    markSpan gutter e.span lines ++ e.notes.flatMap note ++ ['\n']

end NoteTemplate
