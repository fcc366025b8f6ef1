import NoteTemplate.Template.Bracket

namespace NoteTemplate

inductive CompileFault where
  | unexpected (found : Bracket)
  | mismatched (opened : Bracket) (offset : Nat) (found : Bracket)
  | unclosed (opened : Bracket)
  | missingType
  | missingSubPattern
  deriving DecidableEq, Repr

namespace CompileFault

private def quoted (c : Char) : String := "'" ++ c.toString ++ "'"

def message : CompileFault → String
  | .unexpected found => "unexpected " ++ quoted found.closer
  | .mismatched opened _ found =>
    "expected " ++ quoted opened.closer ++ " but found " ++ quoted found.closer
  | .unclosed opened => "unclosed " ++ quoted opened.opener
  | .missingType => "missing input type after ':'"
  | .missingSubPattern => "input type 'match' needs a sub-pattern"

def note : CompileFault → String
  | .unexpected found =>
    "write '\\" ++ found.closer.toString ++ "' to match a literal " ++ quoted found.closer
  | .mismatched opened offset _ => quoted opened.opener ++ " opened at offset " ++ toString offset
  | .unclosed opened => "expected a matching " ++ quoted opened.closer
  | .missingType => "remove the ':' to capture free text"
  | .missingSubPattern =>
    "write the sub-pattern itself after ':', e.g. \x7bqty:\x7bn:number\x7d kg\x7d"

end CompileFault

structure CompileError where
  fault : CompileFault
  span : Span
  deriving DecidableEq, Repr

namespace CompileError

def message (e : CompileError) : String := e.fault.message

def notes (e : CompileError) : List String := [e.fault.note]

end CompileError

inductive Severity where
  | error
  deriving DecidableEq, Repr

inductive LabelStyle where
  | primary
  deriving DecidableEq, Repr

structure Label where
  style : LabelStyle
  fileId : Nat
  span : Span
  message : String
  deriving DecidableEq, Repr

structure Diagnostic where
  severity : Severity
  message : String
  labels : List Label
  notes : List String
  deriving DecidableEq, Repr

def CompileError.diagnostic (e : CompileError) (fileId : Nat) : Diagnostic :=
  ⟨.error, e.message, [⟨.primary, fileId, e.span, ""⟩], e.notes⟩

end NoteTemplate
