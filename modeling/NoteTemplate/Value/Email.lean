import NoteTemplate.Text.Blank

namespace NoteTemplate.Value

/-- The last dot stands neither first nor last. -/
def isMailDomain (t : Text) : Bool :=
  let reversed := t.reverse
  let top := reversed.takeWhile (· ≠ '.')
  let rest := (reversed.dropWhile (· ≠ '.')).drop 1
  !top.isEmpty && !rest.isEmpty

def isEmail (t : Text) : Bool :=
  let localPart := t.takeWhile (· ≠ '@')
  let domain := (t.dropWhile (· ≠ '@')).drop 1
  !t.any Text.isBlank && !localPart.isEmpty && !domain.contains '@' && isMailDomain domain

end NoteTemplate.Value
