import NoteTemplate.Url.Host

namespace NoteTemplate

structure Url where
  scheme : Text
  username : Text
  password : Option Text
  host : Url.Host
  deriving DecidableEq, Repr

namespace Url

def scheme? (t : Text) : Option (Text × Text) :=
  let isPart (c : Char) : Bool := c.isAlphanum || c == '+' || c == '-' || c == '.'
  match t.takeWhile isPart, t.dropWhile isPart with
  | c :: part, ':' :: rest =>
    if c.isAlpha then some ((c :: part).map Char.toLower, rest) else none
  | _, _ => none

def hostSchemes : List Text :=
  ["http".toList, "https".toList, "ftp".toList, "ws".toList, "wss".toList]

def isSlash (c : Char) : Bool := c == '/' || c == '\\'

def endsAuthority (c : Char) : Bool := isSlash c || c == '?' || c == '#'

def splitCredentials (authority : Text) : Option Text × Text :=
  let host := (authority.reverse.takeWhile (· ≠ '@')).reverse
  if host.length = authority.length then (none, authority)
  else (some (authority.take (authority.length - host.length - 1)), host)

/-- The host text ends at the first colon outside brackets. -/
def hostText (inBrackets : Bool) : Text → Text
  | [] => []
  | c :: t =>
    if c = ':' ∧ !inBrackets then []
    else c :: hostText (if c = '[' then true else if c = ']' then false else inBrackets) t

/-- After a host comes nothing, or a colon and a number of 16 bits that may be left out. -/
def endsHost : Text → Bool
  | [] => true
  | _ :: digits => digits.all Char.isDigit && Text.ofDecimalDigits digits < 0x10000

def ofAuthority? (scheme rest : Text) : Option Url := do
  let authority := (rest.dropWhile isSlash).takeWhile fun c => !endsAuthority c
  let (credentials, place) := splitCredentials authority
  let userinfo := credentials.getD []
  let username := userinfo.takeWhile (· ≠ ':')
  let password := (userinfo.dropWhile (· ≠ ':')).drop 1
  let name := hostText false place
  if name.isEmpty then none
  else
    let host ← host? name
    if endsHost (place.drop name.length) then
      some ⟨scheme, username, if password.isEmpty then none else some password, host⟩
    else none

def trimControls (t : Text) : Text :=
  let isOuter (c : Char) : Bool := c.toNat ≤ 0x20
  ((t.dropWhile isOuter).reverse.dropWhile isOuter).reverse

def ofText? (t : Text) : Option Url := do
  let (scheme, rest) ← scheme? (trimControls t)
  if hostSchemes.contains scheme then ofAuthority? scheme rest else none

end Url

end NoteTemplate
