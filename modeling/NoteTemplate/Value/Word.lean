import NoteTemplate.Text.Blank

namespace NoteTemplate.Value

def isWord (t : Text) : Bool := !t.any Text.isBlank

end NoteTemplate.Value
