import NoteTemplate.Url.Basic
import NoteTemplate.Value.Word

namespace NoteTemplate.Value

def hasSchemeMark : Text → Bool
  | [] => false
  | c :: t => (Text.stripPrefix? (c :: t) "://".toList).isSome || hasSchemeMark t

/-- A domain with a dot in it that ends in at least two letters. -/
def hasTopLevelDomain (domain : Text) : Bool :=
  let top := (domain.reverse.takeWhile (· ≠ '.')).reverse
  let rest := domain.take (domain.length - top.length - 1)
  !rest.isEmpty && 2 ≤ top.length && top.all Char.isAlpha

def isFullUrl (t : Text) : Bool :=
  (Url.ofText? t).any fun u =>
    ["http".toList, "https".toList, "ftp".toList].contains u.scheme

def isBareDomain (t : Text) : Bool :=
  (Url.ofText? ("http://".toList ++ t)).any fun u =>
    u.username.isEmpty && u.password.isNone &&
      match u.host with
      | .domain name => hasTopLevelDomain name
      | .ipv4 _ | .ipv6 => false

def isUrl (t : Text) : Bool :=
  !t.isEmpty && isWord t && if hasSchemeMark t then isFullUrl t else isBareDomain t

end NoteTemplate.Value
