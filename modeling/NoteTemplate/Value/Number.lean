import NoteTemplate.Decimal

namespace NoteTemplate.Value

def isNumber (t : Text) : Bool := (Decimal.ofText? (Decimal.dropSign t)).any Decimal.isFinite

end NoteTemplate.Value
