import NoteTemplate.Text.Category
import NoteTemplate.Text.Property
import NoteTemplate.Text.Script
import NoteTemplate.Text.ScriptExtension

namespace NoteTemplate.Text

/-- `isc` is left alone, since it would else be read as the one-letter name `c`. -/
def looseName (name : Text) : Text :=
  let key (t : Text) : Text :=
    (t.filter fun c => c != ' ' && c != '_' && c != '-' && c.toNat < 128).map Char.toLower
  match name with
  | i :: s :: rest =>
    if i.toLower = 'i' ∧ s.toLower = 's' then
      if key rest = ['c'] then ['i', 's', 'c'] else key rest
    else key name
  | _ => key name

def named? {α : Type} (entries : List (List String × α)) (name : Text) : Option α :=
  (entries.find? fun e => e.1.any fun n => looseName n.toList = name).map Prod.snd

def property (name : String) : CharTable := (named? properties (looseName name.toList)).getD []

def alphabetic : CharTable := property "Alphabetic"

def graphemeExtend : CharTable := property "Grapheme_Extend"

def defaultIgnorable : CharTable := property "Default_Ignorable_Code_Point"

def isAlphabetic (c : Char) : Bool := alphabetic.contains c

def isAlphanumeric (c : Char) : Bool := isAlphabetic c || isNumeric c

def isWordChar (c : Char) : Bool :=
  isAlphabetic c || isMark c || GeneralCategory.decimalNumber.table.contains c ||
    GeneralCategory.connector.table.contains c || c == '\u200C' || c == '\u200D'

end NoteTemplate.Text
