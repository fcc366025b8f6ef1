import NoteTemplate.Proofs.Template.Splitting
import NoteTemplate.Proofs.Text.Caseless

/-!
The compiler on ranges. The same compilation works on byte ranges of one template and cuts the
template anew wherever it needs text; each of these cuts could fail, and none does.
-/
namespace NoteTemplate

inductive RangedPiece where
  | literal (c : Char)
  | scope (bracket : Bracket) (content : Span)
  | fault (error : CompileError)

namespace RangedPiece

def closed (sound : Bool) (o : Opened) (offset : Nat) : List RangedPiece :=
  if sound then [.scope o.bracket ⟨o.offset + 1, offset⟩] else []

end RangedPiece

/-- The scan of a level that keeps no text, only the offsets of the open brackets. -/
def rangedPieces (offset : Nat) (opened : List Opened) (sound : Bool) : Text → List RangedPiece
  | [] => opened.reverse.map fun o => .fault (.unclosed o)
  | ['\\'] =>
    if opened.isEmpty then [.literal '\\'] else opened.reverse.map fun o => .fault (.unclosed o)
  | '\\' :: c :: t =>
    let next := offset + 1 + c.utf8Size
    if opened.isEmpty then .literal c :: rangedPieces next [] true t
    else rangedPieces next opened sound t
  | c :: t =>
    let next := offset + c.utf8Size
    match Bracket.ofOpener? c, Bracket.ofCloser? c, opened with
    | some b, _, [] => rangedPieces next [⟨b, offset⟩] true t
    | some b, _, _ :: _ => rangedPieces next (⟨b, offset⟩ :: opened) sound t
    | none, some b, [] => .fault (.unexpected b offset) :: rangedPieces next [] true t
    | none, some b, o :: outer =>
      if o.bracket = b then
        if outer.isEmpty then RangedPiece.closed sound o offset ++ rangedPieces next [] true t
        else rangedPieces next outer sound t
      else .fault (.mismatched o b offset) :: rangedPieces next outer false t
    | none, none, [] => .literal c :: rangedPieces next [] true t
    | none, none, _ :: _ => rangedPieces next opened sound t

def splitRanges (separator : Char) (depth start offset : Nat) : Text → List Span
  | [] => [⟨start, offset⟩]
  | ['\\'] => [⟨start, offset + 1⟩]
  | '\\' :: c :: t => splitRanges separator depth start (offset + 1 + c.utf8Size) t
  | c :: t =>
    let next := offset + c.utf8Size
    if (Bracket.ofOpener? c).isSome then splitRanges separator (depth + 1) start next t
    else if (Bracket.ofCloser? c).isSome then splitRanges separator (depth - 1) start next t
    else if c = separator ∧ depth = 0 then ⟨start, offset⟩ :: splitRanges separator 0 next next t
    else splitRanges separator depth start next t

def splitRange? (template : Text) (range : Span) (separator : Char) : Option (List Span) :=
  (template.slice? range).map (splitRanges separator 0 range.start range.start)

def formRange? (customTypes : List Text) (template : Text) (content : Span) :
    Option VariableForm := do
  let parts ← splitRange? template content ':'
  let name ← template.slice? (parts.head?.getD content)
  if unescape name = InputType.database.name then
    some (.plain (.plain none .database))
  else match parts[1]? with
    | none => some (.plain (.plain (givenName (unescape name)) .text))
    | some first => do
      let type ← template.slice? ⟨first.start, content.stop⟩
      some (.ofType customTypes (givenName (unescape name)) ⟨first.start, type⟩)

def RangedPiece.compile? (customTypes : List Text) (template : Text)
    (inner : Span → Option Compiled) : RangedPiece → Option Compiled
  | .literal c => some ⟨[.text [c]], []⟩
  | .fault e => some ⟨[], [e]⟩
  | .scope .curly content => do
    match ← formRange? customTypes template content with
    | .plain v => some ⟨[.variable v], []⟩
    | .nested name type => do
      let part ← inner ⟨type.offset, content.stop⟩
      some (.wrap (fun p => .variable (.nested name p)) part)
    | .invalid why => some ⟨[], [⟨why, ⟨content.start - 1, content.stop + 1⟩⟩]⟩
  | .scope .square content => do
    let part ← inner content
    some (.wrap .optional part)
  | .scope .round content => do
    let branches ← splitRange? template content '|'
    let parts ← branches.mapM inner
    some (.wrapBranches .variational parts)
  | .scope .angle content => do
    let branches ← splitRange? template content '|'
    let parts ← branches.mapM inner
    some (.wrapBranches .anyOrder parts)

/-- Compiles what stands under a range of a template. A cut outside the template or inside a
character has no result, and neither have scopes nested deeper than is allowed for. -/
def compileRange? (customTypes : List Text) (template : Text) :
    (depth : Nat) → (range : Span) → Option Compiled
  | 0, _ => none
  | depth + 1, range => do
    let text ← template.slice? range
    let parts ← (rangedPieces range.start [] true text).mapM
      (RangedPiece.compile? customTypes template (compileRange? customTypes template depth))
    some (.concat parts)

def Fragment.range (f : Fragment) : Span := ⟨f.offset, f.stop⟩

section Pieces

def Piece.ranged : Piece → RangedPiece
  | .literal c => .literal c
  | .scope b content => .scope b content.range
  | .fault e => .fault e

/-- What was read since the outermost bracket was opened ends at the offset. -/
def ReadSince (opened : List Opened) (body : Text) (offset : Nat) : Prop :=
  ∀ o, opened.getLast? = some o → o.offset + 1 + body.byteLength = offset

theorem Text.byteLength_reverse (t : Text) : Text.byteLength t.reverse = t.byteLength := by
  induction t with
  | nil => rfl
  | cons c t ih =>
      rw [List.reverse_cons, Text.byteLength_append, ih]
      simp only [Text.byteLength]
      omega

variable {offset : Nat} {opened : List Opened} {body : Text} {sound : Bool} {t : Text}

theorem readSince_nil (offset : Nat) (body : Text) : ReadSince [] body offset := nofun

theorem ReadSince.cons (read : ReadSince opened body offset) (c : Char) :
    ReadSince opened (c :: body) (offset + c.utf8Size) := by
  intro o last
  rw [← read o last, Text.byteLength]
  omega

theorem ReadSince.tail {o : Opened} (read : ReadSince (o :: opened) body offset) :
    ReadSince opened body offset := by
  cases opened with
  | nil => exact readSince_nil offset body
  | cons o' outer => exact read

theorem readSince_opener (b : Bracket) (offset : Nat) :
    ReadSince [⟨b, offset⟩] [] (offset + 1) := by
  intro o last
  cases last
  rfl

theorem map_ranged_closed {o : Opened} (read : ReadSince [o] body offset) :
    (Piece.closed sound o body.reverse).map Piece.ranged = RangedPiece.closed sound o offset := by
  have stop := read o rfl
  rw [← Text.byteLength_reverse] at stop
  cases sound with
  | false => rfl
  | true =>
      rw [← stop]
      rfl

theorem map_ranged_unclosed (opened : List Opened) :
    (opened.reverse.map fun o => Piece.fault (.unclosed o)).map Piece.ranged =
      opened.reverse.map fun o => .fault (.unclosed o) := by
  rw [List.map_map]
  rfl

theorem rangedPieces_cons {c : Char} (unescaped : c ≠ '\\') (t : Text) :
    rangedPieces offset opened sound (c :: t) =
      match Bracket.ofOpener? c, Bracket.ofCloser? c, opened with
      | some b, _, [] => rangedPieces (offset + c.utf8Size) [⟨b, offset⟩] true t
      | some b, _, _ :: _ => rangedPieces (offset + c.utf8Size) (⟨b, offset⟩ :: opened) sound t
      | none, some b, [] =>
        .fault (.unexpected b offset) :: rangedPieces (offset + c.utf8Size) [] true t
      | none, some b, o :: outer =>
        if o.bracket = b then
          if outer.isEmpty then
            RangedPiece.closed sound o offset ++ rangedPieces (offset + c.utf8Size) [] true t
          else rangedPieces (offset + c.utf8Size) outer sound t
        else .fault (.mismatched o b offset) :: rangedPieces (offset + c.utf8Size) outer false t
      | none, none, [] => .literal c :: rangedPieces (offset + c.utf8Size) [] true t
      | none, none, _ :: _ => rangedPieces (offset + c.utf8Size) opened sound t := by
  cases opens : Bracket.ofOpener? c <;> cases closes : Bracket.ofCloser? c <;>
    cases opened <;> simp [rangedPieces, opens, closes, unescaped]

theorem rangedPieces_eq (read : ReadSince opened body offset) (t : Text) :
    rangedPieces offset opened sound t = (pieces offset opened body sound t).map Piece.ranged := by
  induction t using unit_induction generalizing offset opened body sound with
  | nil => exact (map_ranged_unclosed opened).symm
  | backslash =>
      cases opened with
      | nil => rfl
      | cons o outer => exact (map_ranged_unclosed (o :: outer)).symm
  | unit u t unit ih =>
      cases unit with
      | escaped c =>
          cases opened with
          | nil => exact congrArg _ (ih (readSince_nil _ []))
          | cons o outer => exact ih ((read.cons '\\').cons c)
      | @single c unescaped =>
          have next := read.cons c
          have fresh : rangedPieces (offset + c.utf8Size) [] true t =
              (pieces (offset + c.utf8Size) [] [] true t).map Piece.ranged :=
            ih (readSince_nil _ [])
          rw [List.singleton_append, rangedPieces_cons unescaped, pieces_cons unescaped]
          cases opens : Bracket.ofOpener? c with
          | some b =>
              cases opened with
              | nil =>
                  rw [Bracket.eq_opener opens, Bracket.utf8Size_opener]
                  exact ih (readSince_opener b offset)
              | cons o outer => exact ih next
          | none =>
              cases closes : Bracket.ofCloser? c with
              | some b =>
                  rcases opened with _ | ⟨o, outer⟩
                  · exact congrArg _ fresh
                  · by_cases same : o.bracket = b
                    · cases outer with
                      | nil =>
                          simp only [same, if_true, List.isEmpty_nil, List.map_append,
                            map_ranged_closed read]
                          exact congrArg _ fresh
                      | cons o' outer =>
                          simp only [same, if_true, List.isEmpty_cons]
                          exact ih next.tail
                    · simp only [same, if_false]
                      exact congrArg _ (ih next.tail)
              | none =>
                  cases opened with
                  | nil => exact congrArg _ fresh
                  | cons o outer => exact ih next

end Pieces
section Split

variable {separator : Char} {depth start offset : Nat}

/-- Lets the first of some ranges start elsewhere. -/
def startFirst (start : Nat) : List Span → List Span
  | [] => []
  | range :: ranges => ⟨start, range.stop⟩ :: ranges

theorem head?_splitTopLevel (t : Text) :
    (splitTopLevel separator depth offset t).head?.map Fragment.offset = some offset := by
  obtain ⟨s, fs, first⟩ : ∃ s fs, splitTopLevel separator depth offset t = ⟨offset, s⟩ :: fs :=
    exists_splitTopLevel t
  rw [first]
  rfl

theorem head?_consFirst (c : Char) (fs : List Fragment) :
    (consFirst offset c fs).head?.map Fragment.offset = some offset := by
  cases fs <;> rfl

theorem startFirst_consFirst {c : Char} {fs : List Fragment}
    (first : fs.head?.map Fragment.offset = some (offset + c.utf8Size)) :
    startFirst start ((consFirst offset c fs).map Fragment.range) =
      startFirst start (fs.map Fragment.range) := by
  rcases fs with _ | ⟨f, fs⟩
  · cases first
  · have place : f.offset = offset + c.utf8Size := Option.some.inj first
    have stop : Fragment.stop ⟨offset, c :: f.text⟩ = f.stop := by
      rw [Fragment.stop, Fragment.stop, Text.byteLength, place, Nat.add_assoc]
    simp only [consFirst, List.map_cons, startFirst, Fragment.range, stop]

theorem startFirst_self (t : Text) :
    startFirst offset ((splitTopLevel separator depth offset t).map Fragment.range) =
      (splitTopLevel separator depth offset t).map Fragment.range := by
  obtain ⟨s, fs, first⟩ : ∃ s fs, splitTopLevel separator depth offset t = ⟨offset, s⟩ :: fs :=
    exists_splitTopLevel t
  rw [first]
  rfl

theorem splitRanges_cons {c : Char} (unescaped : c ≠ '\\') (t : Text) :
    splitRanges separator depth start offset (c :: t) =
      if (Bracket.ofOpener? c).isSome then
        splitRanges separator (depth + 1) start (offset + c.utf8Size) t
      else if (Bracket.ofCloser? c).isSome then
        splitRanges separator (depth - 1) start (offset + c.utf8Size) t
      else if c = separator ∧ depth = 0 then
        ⟨start, offset⟩ ::
          splitRanges separator 0 (offset + c.utf8Size) (offset + c.utf8Size) t
      else splitRanges separator depth start (offset + c.utf8Size) t := by
  rw [splitRanges]
  · exact fun escape _ => unescaped escape
  · exact fun _ _ escape _ => unescaped escape

theorem splitRanges_eq (t : Text) : splitRanges separator depth start offset t =
    startFirst start ((splitTopLevel separator depth offset t).map Fragment.range) := by
  induction t using unit_induction generalizing depth start offset with
  | nil => rfl
  | backslash => rfl
  | unit u t unit ih =>
      cases unit with
      | escaped c =>
          let parts := splitTopLevel separator depth (offset + 1 + c.utf8Size) t
          have outer : startFirst start
              ((consFirst offset '\\' (consFirst (offset + 1) c parts)).map Fragment.range) =
                startFirst start ((consFirst (offset + 1) c parts).map Fragment.range) :=
            startFirst_consFirst (c := '\\') (head?_consFirst c parts)
          calc
            splitRanges separator depth start offset ('\\' :: c :: t) =
                startFirst start (parts.map Fragment.range) := ih
            _ = startFirst start ((consFirst (offset + 1) c parts).map Fragment.range) :=
              (startFirst_consFirst (head?_splitTopLevel t)).symm
            _ = _ := outer.symm
      | @single c unescaped =>
          rw [List.singleton_append, splitRanges_cons unescaped, splitTopLevel_cons unescaped]
          split
          · rw [startFirst_consFirst (head?_splitTopLevel t), ih]
          · split
            · rw [startFirst_consFirst (head?_splitTopLevel t), ih]
            · split
              · rw [ih, startFirst_self]
                simp only [List.map_cons, startFirst, Fragment.range, Fragment.stop,
                  Text.byteLength, Nat.add_zero]
              · rw [startFirst_consFirst (head?_splitTopLevel t), ih]

end Split

section Cuts

variable {template : Text} {f : Fragment} {offset : Nat}

def Fragment.CutFrom (f : Fragment) (template : Text) : Prop :=
  ∃ before after, template = before ++ (f.text ++ after) ∧ f.offset = before.byteLength

theorem cutFrom_self (t : Text) : Fragment.CutFrom ⟨0, t⟩ t := ⟨[], [], by simp, rfl⟩

theorem Fragment.CutFrom.slice? (cut : f.CutFrom template) :
    template.slice? f.range = some f.text := by
  obtain ⟨before, after, rfl, place⟩ := cut
  rw [Fragment.range, Fragment.stop, place]
  exact Text.slice?_append before f.text after

theorem Fragment.CutFrom.part {u v w : Text} (cut : f.CutFrom template)
    (text : f.text = u ++ (v ++ w)) (place : offset = f.offset + u.byteLength) :
    Fragment.CutFrom ⟨offset, v⟩ template := by
  obtain ⟨before, after, rfl, start⟩ := cut
  refine ⟨before ++ u, w ++ after, by simp [text], ?_⟩
  rw [Text.byteLength_append, place, start]

theorem splitRange?_eq (cut : f.CutFrom template) (separator : Char) :
    splitRange? template f.range separator =
      some ((f.splitAt separator).map Fragment.range) := by
  rw [splitRange?, cut.slice?, Option.map_some]
  exact congrArg some ((splitRanges_eq f.text).trans (startFirst_self f.text))

theorem cutFrom_of_mem_splitAt {t : Text} (balanced : Balanced none t)
    (cut : Fragment.CutFrom ⟨offset, t⟩ template) :
    ∀ branch ∈ Fragment.splitAt ⟨offset, t⟩ '|', branch.CutFrom template := by
  intro branch member
  obtain ⟨_, _, text, place, _⟩ :=
    (parts_splitAt isPlain_bar balanced).exists_of_mem isPlain_bar member
  exact cut.part text place

end Cuts

section Ranges

variable {customTypes : List Text} {template : Text} {f : Fragment}

theorem stop_second (separator : Char) (offset : Nat) (n type : Text) :
    Fragment.stop ⟨offset + n.byteLength + separator.utf8Size, type⟩ =
      Fragment.stop ⟨offset, n ++ separator :: type⟩ := by
  simp only [Fragment.stop, Text.byteLength_append, Text.byteLength]
  omega

theorem Fragment.CutFrom.type {offset : Nat} {n type : Text}
    (cut : Fragment.CutFrom ⟨offset, n ++ ':' :: type⟩ template) :
    Fragment.CutFrom ⟨offset + n.byteLength + 1, type⟩ template ∧
      Fragment.stop ⟨offset + n.byteLength + 1, type⟩ =
        Fragment.stop ⟨offset, n ++ ':' :: type⟩ := by
  have colon : n ++ ':' :: type = (n ++ [':']) ++ (type ++ []) := by simp
  refine ⟨cut.part colon ?_, stop_second ':' offset n type⟩
  rw [Text.byteLength_append, ← Nat.add_assoc]
  rfl

theorem formRange?_eq {content : Fragment} (cut : content.CutFrom template)
    (balanced : Balanced none content.text) :
    formRange? customTypes template content.range =
      some (.ofFragment customTypes content) := by
  obtain ⟨offset, t⟩ := content
  rw [formRange?, splitRange?_eq cut]
  rcases balanced.split ':' with whole | ⟨n, type, rfl, whole, _⟩
  · have name : Text.slice? template (Fragment.range ⟨offset, t⟩) = some t := cut.slice?
    rw [splitAt_whole whole, ofFragment_untyped whole]
    simp only [Option.bind_eq_bind, Option.bind_some, List.map_cons, List.map_nil,
      List.head?_cons, Option.getD_some, name]
    split <;> rfl
  · obtain ⟨s, fs, first⟩ : ∃ s fs, splitTopLevel ':' 0 (offset + n.byteLength + 1) type =
        ⟨offset + n.byteLength + 1, s⟩ :: fs := exists_splitTopLevel type
    have behind : Fragment.splitAt ⟨offset + n.byteLength + ':'.utf8Size, type⟩ ':' =
        ⟨offset + n.byteLength + 1, s⟩ :: fs := first
    have nameCut : Fragment.CutFrom ⟨offset, n⟩ template := cut.part (u := []) rfl rfl
    obtain ⟨typeCut, stop⟩ := cut.type
    have typed : Text.slice? template ⟨offset + n.byteLength + 1,
        Fragment.stop ⟨offset, n ++ ':' :: type⟩⟩ = some type := stop ▸ typeCut.slice?
    rw [splitAt_separator isPlain_colon whole, ofFragment_typed whole, behind]
    simp only [Option.bind_eq_bind, Option.bind_some, List.map_cons, List.head?_cons,
      Option.getD_some, nameCut.slice?, List.getElem?_cons_succ, List.getElem?_cons_zero]
    simp only [Fragment.range, typed, Option.bind_some]
    split <;> rfl

theorem exists_of_ofFragment_nested {content type : Fragment} {name : Option Text}
    (balanced : Balanced none content.text)
    (form : VariableForm.ofFragment customTypes content = .nested name type) :
    ∃ n t, content.text = n ++ ':' :: t ∧ Balanced (some ':') n ∧
      type = ⟨content.offset + n.byteLength + 1, t⟩ := by
  rcases content with ⟨offset, text⟩
  rcases balanced.split ':' with whole | ⟨n, t, rfl, whole, _⟩
  · rw [ofFragment_untyped whole] at form
    split at form <;> cases form
  · refine ⟨n, t, rfl, whole, ?_⟩
    rw [ofFragment_typed whole] at form
    split at form
    · cases form
    · unfold VariableForm.ofType at form
      repeat' split at form
      all_goals cases form
      rfl

theorem cutFrom_of_ofFragment_nested {content type : Fragment} {name : Option Text}
    (cut : content.CutFrom template) (balanced : Balanced none content.text)
    (form : VariableForm.ofFragment customTypes content = .nested name type) :
    type.CutFrom template ∧ type.stop = content.stop := by
  rcases exists_of_ofFragment_nested balanced form with ⟨n, t, text, _, rfl⟩
  rcases content with ⟨offset, _⟩
  subst text
  exact cut.type

theorem mapM_map_eq_some {α β γ : Type} {f : β → Option γ} {r : α → β} {g : α → γ}
    {xs : List α} (each : ∀ x ∈ xs, f (r x) = some (g x)) :
    (xs.map r).mapM f = some (xs.map g) := by
  induction xs with
  | nil => rfl
  | cons x xs ih =>
      obtain ⟨first, rest⟩ := List.forall_mem_cons.mp each
      simp only [List.map_cons, List.mapM_cons, first, ih rest]
      rfl

theorem cutFrom_of_scope_mem_pieces {b : Bracket} {content : Fragment} (cut : f.CutFrom template)
    (member : .scope b content ∈ f.pieces) :
    content.CutFrom template ∧ Balanced none content.text := by
  obtain ⟨before, after, text, place, balanced⟩ :=
    (level_pieces f.offset f.text).exists_of_scope_mem member
  have parts : f.text = (before ++ [b.opener]) ++ (content.text ++ (b.closer :: after)) := by
    simp [text, Bracket.enclose]
  refine ⟨cut.part parts ?_, balanced⟩
  rw [place, Text.byteLength_append, byteLength_opener, Nat.add_assoc]

section Scope

variable {inner : Span → Option Compiled} {content : Fragment}

theorem compile?_curly (cut : content.CutFrom template) (balanced : Balanced none content.text)
    (nested : ∀ type : Fragment, type.CutFrom template →
      type.text.length ≤ content.text.length →
        inner type.range = some (compileFragment customTypes type)) :
    RangedPiece.compile? customTypes template inner (.scope .curly content.range) =
      some ((Piece.scope .curly content).compile customTypes) := by
  simp only [RangedPiece.compile?, Piece.compile, formRange?_eq cut balanced,
    Option.bind_eq_bind, Option.bind_some]
  cases form : VariableForm.ofFragment customTypes content with
  | plain v => rfl
  | nested name type =>
      obtain ⟨typeCut, stop⟩ := cutFrom_of_ofFragment_nested cut balanced form
      have part := nested type typeCut (VariableForm.length_le_of_ofFragment form)
      have range : type.range = ⟨type.offset, content.range.stop⟩ :=
        congrArg (Span.mk type.offset) stop
      rw [range] at part
      simp only [part, Option.bind_some]
  | invalid why => rfl

theorem mapM_branches (cut : content.CutFrom template) (balanced : Balanced none content.text)
    (nested : ∀ branch : Fragment, branch.CutFrom template →
      branch.text.length ≤ content.text.length →
        inner branch.range = some (compileFragment customTypes branch)) :
    ((content.splitAt '|').map Fragment.range).mapM inner =
      some ((content.splitAt '|').map (compileFragment customTypes)) := by
  refine mapM_map_eq_some fun branch part => ?_
  exact nested branch (cutFrom_of_mem_splitAt balanced cut branch part)
    (length_le_of_mem_splitTopLevel _ _ _ _ _ part)

theorem compile?_scope (b : Bracket) (cut : content.CutFrom template)
    (balanced : Balanced none content.text)
    (nested : ∀ part : Fragment, part.CutFrom template →
      part.text.length ≤ content.text.length →
        inner part.range = some (compileFragment customTypes part)) :
    RangedPiece.compile? customTypes template inner (.scope b content.range) =
      some ((Piece.scope b content).compile customTypes) := by
  have whole := nested content cut (Nat.le_refl _)
  have branches := mapM_branches cut balanced nested
  cases b with
  | curly => exact compile?_curly cut balanced nested
  | square =>
      simp only [RangedPiece.compile?, Piece.compile, whole, Option.bind_eq_bind,
        Option.bind_some]
  | round | angle =>
      simp only [RangedPiece.compile?, Piece.compile, splitRange?_eq cut, branches,
        Option.bind_eq_bind, Option.bind_some]

end Scope

/-- No cut fails: on the range of any part of a template the compiler gives what it gives on the
text of that part. -/
theorem compileRange?_eq (customTypes : List Text) {depth : Nat} (cut : f.CutFrom template)
    (deep : f.text.length < depth) : compileRange? customTypes template depth f.range =
      some (compileFragment customTypes f) := by
  induction depth generalizing f with
  | zero => exact absurd deep (Nat.not_lt_zero _)
  | succ depth ih =>
      have fresh : rangedPieces f.range.start [] true f.text = f.pieces.map Piece.ranged :=
        rangedPieces_eq (readSince_nil f.offset []) f.text
      rw [compileRange?, cut.slice?, compileFragment_eq]
      simp only [Option.bind_eq_bind, Option.bind_some, fresh]
      rw [mapM_map_eq_some (g := Piece.compile customTypes)]
      · rfl
      rintro (c | ⟨b, content⟩ | e) member
      · rfl
      · obtain ⟨inside, balanced⟩ := cutFrom_of_scope_mem_pieces cut member
        have bound := length_lt_of_scope_mem_pieces _ _ _ _ _ _ _ member
        rw [List.length_nil, Nat.zero_add] at bound
        exact compile?_scope b inside balanced fun part partCut shorter =>
          ih partCut (by omega)
      · rfl

end Ranges

end NoteTemplate
