import NoteTemplate.Pattern.Basic
import NoteTemplate.Template.Error
import NoteTemplate.Template.Split

/-!
Compiling a template. One scan with a stack of open brackets cuts a level into literal characters,
whole scopes and bracket faults; the content of each scope is then compiled in the same way. A
scope that holds a bracket fault adds nothing else, so each fault is reported once.
-/
namespace NoteTemplate

structure Opened where
  bracket : Bracket
  offset : Nat
  deriving DecidableEq, Repr

namespace CompileError

def unexpected (found : Bracket) (offset : Nat) : CompileError :=
  ⟨.unexpected found, ⟨offset, offset + 1⟩⟩

def mismatched (o : Opened) (found : Bracket) (offset : Nat) : CompileError :=
  ⟨.mismatched o.bracket o.offset found, ⟨offset, offset + 1⟩⟩

def unclosed (o : Opened) : CompileError := ⟨.unclosed o.bracket, ⟨o.offset, o.offset + 1⟩⟩

end CompileError

inductive Piece where
  | literal (c : Char)
  | scope (bracket : Bracket) (content : Fragment)
  | fault (error : CompileError)
  deriving DecidableEq, Repr

def Piece.closed (sound : Bool) (o : Opened) (content : Text) : List Piece :=
  if sound then [.scope o.bracket ⟨o.offset + 1, content⟩] else []

/--
The pieces of a text, given the open brackets with the innermost first, the characters read since
the outermost of them in reverse, and whether no fault was met in between.
-/
def pieces (offset : Nat) (opened : List Opened) (body : Text) (sound : Bool) : Text → List Piece
  | [] => opened.reverse.map fun o => .fault (.unclosed o)
  | ['\\'] =>
    if opened.isEmpty then [.literal '\\'] else opened.reverse.map fun o => .fault (.unclosed o)
  | '\\' :: c :: t =>
    let next := offset + 1 + c.utf8Size
    if opened.isEmpty then .literal c :: pieces next [] [] true t
    else pieces next opened (c :: '\\' :: body) sound t
  | c :: t =>
    let next := offset + c.utf8Size
    match Bracket.ofOpener? c, Bracket.ofCloser? c, opened with
    | some b, _, [] => pieces next [⟨b, offset⟩] [] true t
    | some b, _, _ :: _ => pieces next (⟨b, offset⟩ :: opened) (c :: body) sound t
    | none, some b, [] => .fault (.unexpected b offset) :: pieces next [] [] true t
    | none, some b, o :: outer =>
      if o.bracket = b then
        if outer.isEmpty then Piece.closed sound o body.reverse ++ pieces next [] [] true t
        else pieces next outer (c :: body) sound t
      else .fault (.mismatched o b offset) :: pieces next outer (c :: body) false t
    | none, none, [] => .literal c :: pieces next [] [] true t
    | none, none, _ :: _ => pieces next opened (c :: body) sound t

namespace Fragment

def pieces (f : Fragment) : List Piece := NoteTemplate.pieces f.offset [] [] true f.text

end Fragment

theorem length_lt_of_scope_mem_pieces (offset : Nat) (opened : List Opened) (body : Text)
    (sound : Bool) (t : Text) (b : Bracket) (content : Fragment)
    (member : .scope b content ∈ pieces offset opened body sound t) :
    content.text.length < body.length + t.length := by
  fun_induction pieces offset opened body sound t <;> grind [Piece.closed]

inductive VariableForm where
  | plain (v : Variable)
  | nested (name : Option Text) (pattern : Fragment)
  | invalid (fault : CompileFault)

namespace VariableForm

def typeFragment? (content : Fragment) : Option Fragment :=
  match content.splitAt ':' with
  | name :: type :: _ => some ⟨type.offset, content.text.drop (name.text.length + 1)⟩
  | _ => none

def ofType (customTypes : List Text) (name : Option Text) (type : Fragment) : VariableForm :=
  if type.text.isEmpty then .invalid .missingType
  else match InputType.ofBuiltinName? type.text with
    | some .match => .invalid .missingSubPattern
    | some inputType => .plain (.plain name inputType)
    | none =>
      if type.text ∈ customTypes then .plain (.plain name (.custom type.text))
      else .nested name type

def nameText (content : Fragment) : Text :=
  match content.splitAt ':' with
  | name :: _ => unescape name.text
  | [] => []

def name? (content : Fragment) : Option Text :=
  if (nameText content).isEmpty then none else some (nameText content)

/-- The name `database` makes a database variable whatever follows it. -/
def ofFragment (customTypes : List Text) (content : Fragment) : VariableForm :=
  if nameText content = InputType.database.name then .plain (.plain none .database)
  else match typeFragment? content with
    | none => .plain (.plain (name? content) .text)
    | some type => ofType customTypes (name? content) type

theorem length_le_of_typeFragment? {content type : Fragment}
    (h : typeFragment? content = some type) : type.text.length ≤ content.text.length := by
  unfold typeFragment? at h
  split at h
  · cases h
    simp
  · cases h

theorem length_le_of_ofFragment {customTypes : List Text} {content type : Fragment}
    {name : Option Text} (h : ofFragment customTypes content = .nested name type) :
    type.text.length ≤ content.text.length := by
  unfold ofFragment at h
  split at h
  · cases h
  · split at h
    · cases h
    · rename_i type' found
      have := length_le_of_typeFragment? found
      unfold ofType at h
      split at h
      · cases h
      · split at h
        · cases h
        · cases h
        · split at h
          · cases h
          · cases h
            exact this

end VariableForm

/-- Joins token lists, and a last literal with a first one. -/
def Pattern.glue : Pattern → Pattern → Pattern
  | [], q => q
  | [.text s], .text t :: q => .text (s ++ t) :: q
  | t :: p, q => t :: Pattern.glue p q

structure Compiled where
  pattern : Pattern
  errors : List CompileError

namespace Compiled

def append (a b : Compiled) : Compiled :=
  ⟨Pattern.glue a.pattern b.pattern, a.errors ++ b.errors⟩

def concat (parts : List Compiled) : Compiled :=
  parts.foldr append ⟨[], []⟩

def wrap (token : Pattern → Token) (part : Compiled) : Compiled :=
  ⟨[token part.pattern], part.errors⟩

def wrapBranches (token : List Pattern → Token) (branches : List Compiled) : Compiled :=
  ⟨[token (branches.map (·.pattern))], branches.flatMap (·.errors)⟩

end Compiled

def Fragment.braced (content : Fragment) : Span := ⟨content.offset - 1, content.stop + 1⟩

def compileFragment (customTypes : List Text) (f : Fragment) : Compiled :=
  .concat <| f.pieces.attach.map fun ⟨piece, member⟩ =>
    match piece, member with
    | .literal c, _ => ⟨[.text [c]], []⟩
    | .fault e, _ => ⟨[], [e]⟩
    | .scope .curly content, _member =>
      match _form : VariableForm.ofFragment customTypes content with
      | .plain v => ⟨[.variable v], []⟩
      | .nested name type =>
        .wrap (fun p => .variable (.nested name p)) (compileFragment customTypes type)
      | .invalid fault => ⟨[], [⟨fault, content.braced⟩]⟩
    | .scope .square content, _member => .wrap .optional (compileFragment customTypes content)
    | .scope .round content, _member =>
      .wrapBranches .variational
        ((content.splitAt '|').attach.map fun ⟨branch, _⟩ => compileFragment customTypes branch)
    | .scope .angle content, _member =>
      .wrapBranches .anyOrder
        ((content.splitAt '|').attach.map fun ⟨branch, _⟩ => compileFragment customTypes branch)
termination_by f.text.length
decreasing_by
  all_goals
    have shorter := length_lt_of_scope_mem_pieces _ _ _ _ _ _ _ _member
    simp only [List.length_nil, Nat.zero_add] at shorter
  · exact Nat.lt_of_le_of_lt (VariableForm.length_le_of_ofFragment _form) shorter
  · exact shorter
  · exact Nat.lt_of_le_of_lt (length_le_of_mem_splitTopLevel _ _ _ _ _ (by assumption)) shorter
  · exact Nat.lt_of_le_of_lt (length_le_of_mem_splitTopLevel _ _ _ _ _ (by assumption)) shorter

def compile (template : Text) (customTypes : List Text) : Except (List CompileError) Pattern :=
  let compiled := compileFragment customTypes ⟨0, template⟩
  if compiled.errors.isEmpty then .ok compiled.pattern else .error compiled.errors

end NoteTemplate
