import NoteTemplate.Matching.Capture
import NoteTemplate.Value.Email
import NoteTemplate.Value.Number
import NoteTemplate.Value.Phone
import NoteTemplate.Value.Url
import NoteTemplate.Value.Word

namespace NoteTemplate

def builtinMatcher? : InputType → Option Matcher
  | .text => some (.boundary fun _ => true)
  | .word | .database => some (.boundary Value.isWord)
  | .number => some (.boundary Value.isNumber)
  | .url => some (.boundary Value.isUrl)
  | .email => some (.boundary Value.isEmail)
  | .phone => some (.boundary Value.isPhone)
  | .match => some .subPattern
  | .custom _ => none

def Registry.builtin : Registry :=
  ⟨InputType.builtins.filterMap fun t => (builtinMatcher? t).map (t, ·)⟩

end NoteTemplate
