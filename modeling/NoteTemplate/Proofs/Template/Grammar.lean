import NoteTemplate.Pattern.Basic
import NoteTemplate.Template.Bracket

/-!
The grammar of templates: which stretch of text derives which phrase, said without a scan.
-/
namespace NoteTemplate

def IsPlain (c : Char) : Prop :=
  Bracket.ofOpener? c = none ∧ Bracket.ofCloser? c = none ∧ c ≠ '\\'

instance : DecidablePred IsPlain := fun c =>
  inferInstanceAs (Decidable (Bracket.ofOpener? c = none ∧ Bracket.ofCloser? c = none ∧ c ≠ '\\'))

/-- How literal text is written: bare characters stand for themselves, and so does any character
behind a backslash. The backslash that ends a template, and only that, may stand alone. -/
inductive Spells (bare : Char → Prop) (last : Bool) : Text → Text → Prop
  | nil : Spells bare last [] []
  | bare {c : Char} {t u : Text} (allowed : bare c) (unescaped : c ≠ '\\')
      (rest : Spells bare last t u) : Spells bare last (c :: t) (c :: u)
  | escaped (c : Char) {t u : Text} (rest : Spells bare last t u) :
      Spells bare last ('\\' :: c :: t) (c :: u)
  | backslash (final : last = true) : Spells bare last ['\\'] ['\\']

def Bracket.enclose (b : Bracket) (t : Text) : Text := b.opener :: t ++ [b.closer]

/-- Brackets pair up by kind. A barred character stands only inside brackets or behind a
backslash. -/
inductive Balanced : (barred : Option Char) → Text → Prop
  | nil {barred : Option Char} : Balanced barred []
  | plain {barred : Option Char} {c : Char} {t : Text} (bare : IsPlain c) (free : barred ≠ some c)
      (rest : Balanced barred t) : Balanced barred (c :: t)
  | escaped {barred : Option Char} (c : Char) {t : Text} (rest : Balanced barred t) :
      Balanced barred ('\\' :: c :: t)
  | scope {barred : Option Char} (b : Bracket) {s t : Text} (inside : Balanced none s)
      (rest : Balanced barred t) : Balanced barred (b.enclose s ++ t)

inductive Phrase where
  /-- A sequence of tokens, which may be the last of its template. -/
  | pattern (last : Bool) (p : Pattern)
  | scope (token : Token)
  | branches (ps : List Pattern)
  | variable (v : Variable)

/-- The text before the first `:` outside brackets, and the name that it spells. -/
def Names (t name : Text) : Prop := Balanced (some ':') t ∧ Spells (fun _ => True) false t name

def givenName (name : Text) : Option Text := if name.isEmpty then none else some name

inductive Derives (customTypes : List Text) : Phrase → Text → Prop
  | empty {last : Bool} : Derives customTypes (.pattern last []) []
  | literal {last : Bool} {t u : Text} (spelled : Spells IsPlain last t u) (nonempty : u ≠ []) :
      Derives customTypes (.pattern last [.text u]) t
  | scope {last : Bool} {s t : Text} {token : Token} {p : Pattern}
      (first : Derives customTypes (.scope token) s)
      (rest : Derives customTypes (.pattern last p) t) :
      Derives customTypes (.pattern last (token :: p)) (s ++ t)
  | literalScope {last : Bool} {r s t u : Text} {token : Token} {p : Pattern}
      (spelled : Spells IsPlain false r u) (nonempty : u ≠ [])
      (first : Derives customTypes (.scope token) s)
      (rest : Derives customTypes (.pattern last p) t) :
      Derives customTypes (.pattern last (.text u :: token :: p)) (r ++ (s ++ t))
  | slot {t : Text} {v : Variable} (inside : Derives customTypes (.variable v) t) :
      Derives customTypes (.scope (.variable v)) (Bracket.curly.enclose t)
  | optional {t : Text} {p : Pattern} (inside : Derives customTypes (.pattern false p) t) :
      Derives customTypes (.scope (.optional p)) (Bracket.square.enclose t)
  | variational {t : Text} {ps : List Pattern} (inside : Derives customTypes (.branches ps) t) :
      Derives customTypes (.scope (.variational ps)) (Bracket.round.enclose t)
  | anyOrder {t : Text} {ps : List Pattern} (inside : Derives customTypes (.branches ps) t) :
      Derives customTypes (.scope (.anyOrder ps)) (Bracket.angle.enclose t)
  | lastBranch {t : Text} {p : Pattern} (whole : Balanced (some '|') t)
      (branch : Derives customTypes (.pattern false p) t) :
      Derives customTypes (.branches [p]) t
  | branch {s t : Text} {p : Pattern} {ps : List Pattern} (whole : Balanced (some '|') s)
      (branch : Derives customTypes (.pattern false p) s)
      (rest : Derives customTypes (.branches ps) t) :
      Derives customTypes (.branches (p :: ps)) (s ++ '|' :: t)
  | database {n : Text} (named : Names n InputType.database.name) :
      Derives customTypes (.variable (.plain none .database)) n
  | typedDatabase {n t : Text} (named : Names n InputType.database.name)
      (balanced : Balanced none t) :
      Derives customTypes (.variable (.plain none .database)) (n ++ ':' :: t)
  | untyped {n name : Text} (named : Names n name) (other : name ≠ InputType.database.name) :
      Derives customTypes (.variable (.plain (givenName name) .text)) n
  | builtin {n name t : Text} {inputType : InputType} (named : Names n name)
      (other : name ≠ InputType.database.name)
      (known : InputType.ofBuiltinName? t = some inputType) (allowed : inputType ≠ .match) :
      Derives customTypes (.variable (.plain (givenName name) inputType)) (n ++ ':' :: t)
  | custom {n name t : Text} (named : Names n name) (other : name ≠ InputType.database.name)
      (nonempty : t ≠ []) (balanced : Balanced none t)
      (unknown : InputType.ofBuiltinName? t = none) (member : t ∈ customTypes) :
      Derives customTypes (.variable (.plain (givenName name) (.custom t))) (n ++ ':' :: t)
  | nested {n name t : Text} {p : Pattern} (named : Names n name)
      (other : name ≠ InputType.database.name) (nonempty : t ≠ [])
      (unknown : InputType.ofBuiltinName? t = none) (foreign : t ∉ customTypes)
      (inside : Derives customTypes (.pattern false p) t) :
      Derives customTypes (.variable (.nested (givenName name) p)) (n ++ ':' :: t)

end NoteTemplate
