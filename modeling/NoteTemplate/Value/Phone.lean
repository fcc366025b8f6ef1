import NoteTemplate.Text.DecimalDigit

namespace NoteTemplate.Value

def isPhoneSeparator (c : Char) : Bool :=
  c == ' ' || c == '(' || c == ')' || c == '.' || c == '-'

def isPhoneBody (t : Text) : Bool :=
  t.head?.any Text.isDecimalDigit && t.getLast?.any Text.isDecimalDigit &&
    t.all fun c => Text.isDecimalDigit c || isPhoneSeparator c

def isPhone (t : Text) : Bool :=
  let body := match t with
    | '+' :: r => r
    | r => r
  let digits := t.countP Char.isDigit
  isPhoneBody body && 7 ≤ digits && digits ≤ 15

end NoteTemplate.Value
