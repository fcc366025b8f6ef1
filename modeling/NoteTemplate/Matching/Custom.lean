import NoteTemplate.Matching.Capture
import NoteTemplate.Regex.Parser

namespace NoteTemplate

def regexMatcher (name pattern : Text) : Except MatchError Matcher :=
  match Regex.ofText pattern with
  | .ok regex => .ok (.boundary regex.isMatch)
  | .error e => .error (.invalidRegex name e.message)

end NoteTemplate
