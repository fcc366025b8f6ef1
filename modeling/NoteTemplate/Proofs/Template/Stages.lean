import NoteTemplate.Proofs.Template.Ranges

/-!
The stages of a compilation: the ranges that it scans as levels, the scopes that it finds closed
there, and the ranges that it splits at separators. Every range that is split holds paired brackets
and whole escapes, so the splitter, which only counts brackets, stays in step with the scan of
levels, which keeps them on a stack.
-/
namespace NoteTemplate

inductive Stage where
  | level (range : Span)
  | scope (bracket : Bracket) (content : Span)
  | split (separator : Char) (range : Span)

inductive Reaches (customTypes : List Text) (template : Text) : Stage → Prop
  | whole : Reaches customTypes template (.level ⟨0, template.byteLength⟩)
  | scope {range content : Span} {text : Text} {b : Bracket}
      (level : Reaches customTypes template (.level range))
      (cut : template.slice? range = some text)
      (closed : .scope b content ∈ rangedPieces range.start [] true text) :
      Reaches customTypes template (.scope b content)
  | square {content : Span} (scope : Reaches customTypes template (.scope .square content)) :
      Reaches customTypes template (.level content)
  | curly {content : Span} (scope : Reaches customTypes template (.scope .curly content)) :
      Reaches customTypes template (.split ':' content)
  | nested {content : Span} {name : Option Text} {type : Fragment}
      (scope : Reaches customTypes template (.scope .curly content))
      (form : formRange? customTypes template content = some (.nested name type)) :
      Reaches customTypes template (.level ⟨type.offset, content.stop⟩)
  | round {content : Span} (scope : Reaches customTypes template (.scope .round content)) :
      Reaches customTypes template (.split '|' content)
  | angle {content : Span} (scope : Reaches customTypes template (.scope .angle content)) :
      Reaches customTypes template (.split '|' content)
  | branch {content range : Span} {ranges : List Span}
      (split : Reaches customTypes template (.split '|' content))
      (parts : splitRange? template content '|' = some ranges) (member : range ∈ ranges) :
      Reaches customTypes template (.level range)

/-- Behind a beginning of a text the scan of a level has some brackets open, whatever follows. -/
def OpenBehind (offset : Nat) (u : Text) (opened : List Opened) : Prop :=
  ∃ ps sound, ∀ t, rangedPieces offset [] true (u ++ t) =
    ps ++ rangedPieces (offset + u.byteLength) opened sound t

def DepthBehind (separator : Char) (offset : Nat) (u : Text) (depth : Nat) : Prop :=
  ∃ ranges start, ∀ t, splitRanges separator 0 offset offset (u ++ t) =
    ranges ++ splitRanges separator depth start (offset + u.byteLength) t

/-- The text under a range of a template, which cuts no escape at either end and leaves no bracket
without its partner. -/
def Intact (template : Text) (range : Span) (text : Text) : Prop :=
  ∃ before after, template = before ++ (text ++ after) ∧
    range = ⟨before.byteLength, before.byteLength + text.byteLength⟩ ∧
    endsInBackslash before = false ∧ endsInBackslash (before ++ text) = false ∧ Balanced none text

structure Tiles (template : Text) (separator : Char) (range : Span) (text : Text)
    (ranges : List Span) : Prop where
  first : ranges.head?.map Span.start = some range.start
  last : ranges.getLast?.map Span.stop = some range.stop
  next : ranges.IsChain fun r r' => r'.start = r.stop + separator.utf8Size
  apart : ranges.Pairwise fun r r' => r.stop < r'.start
  joined : ∃ parts, List.Forall₂ (Intact template) ranges parts ∧
    Text.join [separator] parts = text

section Step

variable {u : Text}

theorem ScanUnit.rangedPieces_step (unit : ScanUnit u) (offset : Nat) (opened : List Opened)
    (sound : Bool) : ∃ ps sound', ∀ t, rangedPieces offset opened sound (u ++ t) = ps ++
      rangedPieces (offset + u.byteLength) (openAfter opened (marks offset u)) sound' t := by
  cases unit with
  | escaped c =>
      rw [byteLength_escaped, ← Nat.add_assoc]
      cases opened with
      | nil => exact ⟨[.literal c], true, fun t => rfl⟩
      | cons o outer => exact ⟨[], sound, fun t => rfl⟩
  | @single c unescaped =>
      have cons (t : Text) : rangedPieces offset opened sound (c :: t) = _ :=
        rangedPieces_cons unescaped t
      simp only [List.singleton_append, cons]
      rcases char_cases c with rfl | ⟨b, rfl⟩ | ⟨b, rfl⟩ | plain
      · exact absurd rfl unescaped
      · rw [marks_opener, byteLength_opener, Bracket.ofOpener?_opener, Bracket.utf8Size_opener]
        cases opened with
        | nil => exact ⟨[], true, fun t => rfl⟩
        | cons o outer => exact ⟨[], sound, fun t => rfl⟩
      · rw [marks_closer, byteLength_closer, Bracket.ofOpener?_closer, Bracket.ofCloser?_closer,
          Bracket.utf8Size_closer]
        cases opened with
        | nil => exact ⟨[.fault (.unexpected b offset)], true, fun t => rfl⟩
        | cons o outer =>
            by_cases same : o.bracket = b
            · cases outer with
              | nil => exact ⟨RangedPiece.closed sound o offset, true, fun t => by simp [same]; rfl⟩
              | cons o' outer => exact ⟨[], sound, fun t => by simp [same]; rfl⟩
            · exact ⟨[.fault (.mismatched o b offset)], false, fun t => by simp [same]; rfl⟩
      · rw [marks_plain plain]
        rcases plain with ⟨opens, closes, _⟩
        rw [opens, closes]
        cases opened with
        | nil => exact ⟨[.literal c], true, fun t => rfl⟩
        | cons o outer => exact ⟨[], sound, fun t => rfl⟩

theorem rangedPieces_run (awake : endsInBackslash u = false) (offset : Nat) (opened : List Opened)
    (sound : Bool) : ∃ ps sound', ∀ t, rangedPieces offset opened sound (u ++ t) = ps ++
      rangedPieces (offset + u.byteLength) (openAfter opened (marks offset u)) sound' t := by
  induction u using unit_induction generalizing offset opened sound with
  | nil => exact ⟨[], sound, fun _ => rfl⟩
  | backslash => cases awake
  | unit u s unit ih =>
      rw [unit.endsInBackslash_append] at awake
      rcases unit.rangedPieces_step offset opened sound with ⟨ps, sound₁, first⟩
      rcases ih awake (offset + u.byteLength) (openAfter opened (marks offset u)) sound₁ with
        ⟨qs, sound₂, second⟩
      refine ⟨ps ++ qs, sound₂, fun t => ?_⟩
      rw [List.append_assoc, first, second, unit.marks_append, openAfter_append,
        Text.byteLength_append, List.append_assoc, Nat.add_assoc]

theorem ScanUnit.splitRanges_step (unit : ScanUnit u) (separator : Char) (opened : List Opened)
    (start offset : Nat) : ∃ ranges start', ∀ t,
      splitRanges separator opened.length start offset (u ++ t) = ranges ++
        splitRanges separator (openAfter opened (marks offset u)).length start'
          (offset + u.byteLength) t := by
  cases unit with
  | escaped c =>
      rw [byteLength_escaped, ← Nat.add_assoc]
      exact ⟨[], start, fun t => rfl⟩
  | @single c unescaped =>
      have cons (t : Text) : splitRanges separator opened.length start offset (c :: t) = _ :=
        splitRanges_cons unescaped t
      rcases char_cases c with rfl | ⟨b, rfl⟩ | ⟨b, rfl⟩ | plain
      · exact absurd rfl unescaped
      · rw [marks_opener]
        refine ⟨[], start, fun t => (cons t).trans ?_⟩
        simp [Bracket.ofOpener?_opener, Text.byteLength, openAfter, marks]
      · rw [marks_closer]
        refine ⟨[], start, fun t => (cons t).trans ?_⟩
        simp [Bracket.ofOpener?_closer, Bracket.ofCloser?_closer, Text.byteLength, openAfter, marks]
      · rw [marks_plain plain]
        rcases plain with ⟨opens, closes, _⟩
        by_cases ends : c = separator ∧ opened.length = 0
        · refine ⟨[⟨start, offset⟩], offset + c.utf8Size, fun t => ?_⟩
          rw [List.singleton_append, cons, opens, closes, if_pos ends]
          simp [Text.byteLength, openAfter, marks, ends.2]
        · refine ⟨[], start, fun t => ?_⟩
          rw [List.singleton_append, cons, opens, closes, if_neg ends]
          simp [Text.byteLength, openAfter, marks]

theorem splitRanges_run (separator : Char) (awake : endsInBackslash u = false)
    (opened : List Opened) (start offset : Nat) : ∃ ranges start', ∀ t,
      splitRanges separator opened.length start offset (u ++ t) = ranges ++
        splitRanges separator (openAfter opened (marks offset u)).length start'
          (offset + u.byteLength) t := by
  induction u using unit_induction generalizing opened start offset with
  | nil => exact ⟨[], start, fun _ => rfl⟩
  | backslash => cases awake
  | unit u s unit ih =>
      rw [unit.endsInBackslash_append] at awake
      obtain ⟨ranges, start', first⟩ := unit.splitRanges_step separator opened start offset
      obtain ⟨ranges', start'', second⟩ := ih awake (openAfter opened (marks offset u)) start'
        (offset + u.byteLength)
      refine ⟨ranges ++ ranges', start'', fun t => ?_⟩
      rw [List.append_assoc, first, second, unit.marks_append, openAfter_append,
        Text.byteLength_append, List.append_assoc, Nat.add_assoc]

end Step

section Behind

variable {u : Text}

def closers (n : Nat) : Text := List.replicate n Bracket.round.closer

theorem awake_closers (n : Nat) : endsInBackslash (closers n) = false := by
  induction n with
  | zero => rfl
  | succ n ih => exact ((scanUnit_closer .round).endsInBackslash_append (closers n)).trans ih

theorem openAfter_closers (n offset : Nat) (opened : List Opened) :
    openAfter opened (marks offset (closers n)) = opened.drop n := by
  induction n generalizing offset opened with
  | zero => rfl
  | succ n ih =>
      have first : marks offset (closers (n + 1)) =
          .closing .round offset :: marks (offset + 1) (closers n) := marks_closer .round _
      rw [first, openAfter, ih, List.drop_tail]

theorem getLast?_rangedPieces_closed {n : Nat} {opened : List Opened}
    (closed : opened.length ≤ n) (offset : Nat) (sound : Bool) :
    (rangedPieces offset opened sound (closers n ++ ['a'])).getLast? = some (.literal 'a') := by
  rcases rangedPieces_run (awake_closers n) offset opened sound with ⟨ps, sound', run⟩
  rw [run, openAfter_closers, List.drop_eq_nil_of_le closed, List.getLast?_append]
  rfl

theorem getLast?_rangedPieces_open {n : Nat} {opened : List Opened}
    (higher : n < opened.length) (offset : Nat) (sound : Bool) : ∃ e,
      (rangedPieces offset opened sound (closers n ++ ['a'])).getLast? = some (.fault e) := by
  rcases rangedPieces_run (awake_closers n) offset opened sound with ⟨ps, sound', run⟩
  rw [run, openAfter_closers, List.getLast?_append]
  cases left : opened.drop n with
  | nil =>
      have none := List.drop_eq_nil_iff.mp left
      omega
  | cons o outer =>
      have ends : rangedPieces (offset + (closers n).byteLength) (o :: outer) sound' ['a'] =
          (o :: outer).reverse.map fun o => .fault (.unclosed o) := rfl
      simp [ends]

theorem splitRanges_closers (separator : Char) (n depth start offset : Nat) (t : Text) :
    splitRanges separator depth start offset (closers n ++ t) =
      splitRanges separator (depth - n) start (offset + n) t := by
  induction n generalizing depth offset with
  | zero => rfl
  | succ n ih =>
      have first : splitRanges separator depth start offset (closers (n + 1) ++ t) =
          splitRanges separator (depth - 1) start (offset + 1) (closers n ++ t) :=
        splitRanges_cons Bracket.round.closer_ne_backslash _
      rw [first, ih, Nat.sub_sub, Nat.add_assoc, Nat.add_comm 1 n]

theorem OpenBehind.length_le {offset : Nat} {opened opened' : List Opened}
    (behind : OpenBehind offset u opened) (behind' : OpenBehind offset u opened') :
    opened'.length ≤ opened.length := by
  rcases behind with ⟨ps, sound, run⟩
  rcases behind' with ⟨ps', sound', run'⟩
  apply Nat.le_of_not_lt
  intro higher
  -- Behind closers for the lower stack a letter is a literal, and inside brackets for the higher.
  have same := (run (closers opened.length ++ ['a'])).symm.trans (run' _)
  have lower := getLast?_rangedPieces_closed (Nat.le_refl opened.length)
    (offset + u.byteLength) sound
  rcases getLast?_rangedPieces_open higher (offset + u.byteLength) sound' with ⟨e, last⟩
  have ends := congrArg List.getLast? same
  rw [List.getLast?_append, List.getLast?_append, lower, last] at ends
  cases ends

/-- What is open behind a beginning of a text does not hang on how the scan is taken apart. -/
theorem OpenBehind.unique {offset : Nat} {opened opened' : List Opened}
    (behind : OpenBehind offset u opened) (behind' : OpenBehind offset u opened') :
    opened = opened' := by
  have height := Nat.le_antisymm (behind'.length_le behind) (behind.length_le behind')
  rcases behind with ⟨ps, sound, run⟩
  rcases behind' with ⟨ps', sound', run'⟩
  have ends : ps ++ opened.reverse.map (fun o => RangedPiece.fault (.unclosed o)) =
      ps' ++ opened'.reverse.map fun o => RangedPiece.fault (.unclosed o) :=
    (run []).symm.trans (run' [])
  have faults := List.append_inj_right' ends (by simp [height])
  have injective : Function.Injective fun o => RangedPiece.fault (.unclosed o) := by
    intro o o' same
    cases o
    cases o'
    cases same
    rfl
  exact List.reverse_injective (List.map_injective_iff.mpr injective faults)

theorem DepthBehind.le {separator : Char} (plain : IsPlain separator) {offset depth depth' : Nat}
    (behind : DepthBehind separator offset u depth)
    (behind' : DepthBehind separator offset u depth') : depth' ≤ depth := by
  rcases behind with ⟨ranges, start, run⟩
  rcases behind' with ⟨ranges', start', run'⟩
  apply Nat.le_of_not_lt
  intro deeper
  -- Behind as many closers as the lower depth only that one lets a separator split.
  have ends := congrArg List.length ((run []).symm.trans (run' []))
  have parts := congrArg List.length
    ((run (closers depth ++ [separator])).symm.trans (run' _))
  have inside : depth' - depth ≠ 0 := by omega
  rcases plain with ⟨opens, closes, unescaped⟩
  simp [splitRanges_closers, splitRanges_cons unescaped, opens, closes, splitRanges, inside]
    at ends parts
  omega

theorem openBehind_iff (awake : endsInBackslash u = false) {offset : Nat} {opened : List Opened} :
    OpenBehind offset u opened ↔ opened = openAfter [] (marks offset u) := by
  have behind : OpenBehind offset u (openAfter [] (marks offset u)) :=
    rangedPieces_run awake offset [] true
  constructor
  · intro other
    exact other.unique behind
  · intro same
    rwa [same]

theorem depthBehind_iff {separator : Char} (plain : IsPlain separator)
    (awake : endsInBackslash u = false) {offset depth : Nat} :
    DepthBehind separator offset u depth ↔ depth = (openAfter [] (marks offset u)).length := by
  have behind : DepthBehind separator offset u (openAfter [] (marks offset u)).length :=
    splitRanges_run separator awake [] offset offset
  constructor
  · intro other
    exact Nat.le_antisymm (behind.le plain other) (other.le plain behind)
  · intro same
    rwa [same]

theorem Balanced.opened_ne_nil {v : Text} {b : Bracket}
    (balanced : Balanced none (u ++ b.closer :: v)) (awake : endsInBackslash u = false)
    (offset : Nat) : openAfter [] (marks offset u) ≠ [] := by
  intro empty
  have faults := balanced.closerErrors_marks offset []
  rw [marks_append awake, closerErrors_append, empty, marks_closer, closerErrors] at faults
  exact List.cons_ne_nil _ _ (List.append_eq_nil_iff.mp faults).2

end Behind

section Places

variable {template : Text} {f : Fragment}

/-- The template has the text of a fragment at its offset, and no escape reaches into it. -/
def Fragment.Placed (f : Fragment) (template : Text) : Prop :=
  ∃ before after, template = before ++ (f.text ++ after) ∧ f.offset = before.byteLength ∧
    endsInBackslash before = false

theorem Fragment.Placed.cutFrom (placed : f.Placed template) : f.CutFrom template := by
  rcases placed with ⟨before, after, split, place, _⟩
  exact ⟨before, after, split, place⟩

theorem Fragment.Placed.part {offset : Nat} {u v w : Text} (placed : f.Placed template)
    (text : f.text = u ++ (v ++ w)) (place : offset = f.offset + u.byteLength)
    (awake : endsInBackslash u = false) : Fragment.Placed ⟨offset, v⟩ template := by
  rcases placed with ⟨before, after, rfl, start, awake'⟩
  refine ⟨before ++ u, w ++ after, by simp [text], ?_, ?_⟩
  · rw [Text.byteLength_append, place, start]
  · rw [endsInBackslash_append awake', awake]

theorem Fragment.Placed.intact (placed : f.Placed template) (balanced : Balanced none f.text) :
    Intact template f.range f.text := by
  rcases placed with ⟨before, after, split, place, awake⟩
  refine ⟨before, after, split, ?_, awake, ?_, balanced⟩
  · rw [Fragment.range, Fragment.stop, place]
  · rw [endsInBackslash_append awake, balanced.awake]

theorem Intact.exists_placed {range : Span} {text : Text} (intact : Intact template range text) :
    ∃ f : Fragment, f.range = range ∧ f.text = text ∧ f.Placed template ∧
      Balanced none f.text := by
  rcases intact with ⟨before, after, split, rfl, awake, _, balanced⟩
  exact ⟨⟨before.byteLength, text⟩, rfl, rfl, ⟨before, after, split, rfl, awake⟩, balanced⟩

theorem Fragment.Placed.scope (placed : f.Placed template) {b : Bracket} {content : Span}
    (closed : .scope b content ∈ rangedPieces f.offset [] true f.text) :
    ∃ text, Intact template content text := by
  have same : rangedPieces f.offset [] true f.text = f.pieces.map Piece.ranged :=
    rangedPieces_eq (readSince_nil f.offset []) f.text
  rw [same] at closed
  rcases List.mem_map.mp closed with ⟨piece, member, ranged⟩
  cases piece with
  | literal c => cases ranged
  | fault e => cases ranged
  | scope b' part =>
      cases ranged
      rcases (level_pieces f.offset f.text).exists_awake_of_scope_mem member with
        ⟨before, after, text, place, awake, balanced⟩
      have front : f.text = (before ++ [b.opener]) ++ (part.text ++ (b.closer :: after)) := by
        simp [text, Bracket.enclose]
      have inside : part.Placed template := by
        apply placed.part front
        · rw [place, Text.byteLength_append, byteLength_opener, Nat.add_assoc]
        · rw [endsInBackslash_append awake]
          exact (scanUnit_opener b).awake
      exact ⟨part.text, inside.intact balanced⟩

theorem Fragment.Placed.second {separator : Char} (plain : IsPlain separator) {offset : Nat}
    {n rest : Text} (placed : Fragment.Placed ⟨offset, n ++ separator :: rest⟩ template)
    (whole : Balanced (some separator) n) :
    Fragment.Placed ⟨offset + n.byteLength + separator.utf8Size, rest⟩ template := by
  have front : n ++ separator :: rest = (n ++ [separator]) ++ (rest ++ []) := by simp
  apply placed.part front
  · rw [Text.byteLength_append, ← Nat.add_assoc]
    rfl
  · rw [endsInBackslash_append whole.awake]
    exact (ScanUnit.single plain.2.2).awake

theorem Fragment.Placed.nested {customTypes : List Text} {type : Fragment} {name : Option Text}
    (placed : f.Placed template) (balanced : Balanced none f.text)
    (form : formRange? customTypes template f.range = some (.nested name type)) :
    type.Placed template ∧ type.stop = f.stop := by
  rw [formRange?_eq placed.cutFrom balanced] at form
  rcases exists_of_ofFragment_nested balanced (Option.some.inj form) with
    ⟨n, t, text, whole, rfl⟩
  rcases f with ⟨offset, _⟩
  subst text
  exact ⟨placed.second isPlain_colon whole, stop_second ':' offset n t⟩

theorem Fragment.Placed.exists_branch {separator : Char} (plain : IsPlain separator)
    {range : Span} {ranges : List Span} (placed : f.Placed template)
    (balanced : Balanced none f.text)
    (parts : splitRange? template f.range separator = some ranges) (member : range ∈ ranges) :
    ∃ branch : Fragment, branch.range = range ∧ branch.Placed template := by
  rw [splitRange?_eq placed.cutFrom] at parts
  cases parts
  rcases List.mem_map.mp member with ⟨branch, listed, rfl⟩
  rcases (parts_splitAt plain balanced).exists_of_mem plain listed with
    ⟨before, after, text, place, awake, _⟩
  exact ⟨branch, rfl, placed.part text place awake⟩

theorem Parts.tiles {separator : Char} (plain : IsPlain separator) {fs : List Fragment}
    (placed : f.Placed template) (parts : Parts separator f.offset f.text fs) :
    Tiles template separator f.range f.text (fs.map Fragment.range) where
  first := by
    rcases parts.exists_cons with ⟨s, later, rfl⟩
    rfl
  last := by
    rw [List.getLast?_map, Option.map_map]
    exact parts.getLast?_stop
  next := (List.isChain_map Fragment.range).mpr parts.isChain
  apart := List.pairwise_map.mpr (parts.pairwise plain)
  joined := by
    refine ⟨fs.map Fragment.text, ?_, parts.join_eq⟩
    rw [List.forall₂_map_left_iff, List.forall₂_map_right_iff, List.forall₂_same]
    intro part member
    rcases parts.exists_of_mem plain member with ⟨before, after, text, place, awake, balanced⟩
    exact (placed.part text place awake).intact balanced

end Places

def Stage.Sound (template : Text) : Stage → Prop
  | .level range => ∃ f : Fragment, f.range = range ∧ f.Placed template
  | .scope _ content => ∃ text, Intact template content text
  | .split separator range => IsPlain separator ∧ ∃ text, Intact template range text

section Run

theorem mapM_congr {α β : Type} {f g : α → Option β} {xs : List α} (same : ∀ x ∈ xs, f x = g x) :
    xs.mapM f = xs.mapM g := by
  induction xs with
  | nil => rfl
  | cons x xs ih =>
      rcases List.forall_mem_cons.mp same with ⟨first, rest⟩
      rw [List.mapM_cons, List.mapM_cons, first, ih rest]

variable {customTypes : List Text} {template : Text}

theorem Reaches.sound {stage : Stage} (reached : Reaches customTypes template stage) :
    stage.Sound template := by
  induction reached with
  | whole =>
      refine ⟨⟨0, template⟩, ?_, [], [], by simp, rfl, rfl⟩
      rw [Fragment.range, Fragment.stop, Nat.zero_add]
  | scope level cut closed ih =>
      rcases ih with ⟨f, rfl, placed⟩
      cases placed.cutFrom.slice?.symm.trans cut
      exact placed.scope closed
  | square scope ih =>
      rcases ih with ⟨text, intact⟩
      rcases intact.exists_placed with ⟨f, range, _, placed, _⟩
      exact ⟨f, range, placed⟩
  | curly scope ih => exact ⟨isPlain_colon, ih⟩
  | nested scope form ih =>
      rcases ih with ⟨text, intact⟩
      rcases intact.exists_placed with ⟨f, rfl, rfl, placed, balanced⟩
      rcases placed.nested balanced form with ⟨inside, stop⟩
      exact ⟨_, congrArg _ stop, inside⟩
  | round scope ih => exact ⟨isPlain_bar, ih⟩
  | angle scope ih => exact ⟨isPlain_bar, ih⟩
  | branch split parts member ih =>
      rcases ih with ⟨plain, text, intact⟩
      rcases intact.exists_placed with ⟨f, rfl, rfl, placed, balanced⟩
      exact placed.exists_branch plain balanced parts member

theorem Reaches.compile?_congr {b : Bracket} {content : Span}
    (reached : Reaches customTypes template (.scope b content))
    {inner inner' : Span → Option Compiled}
    (same : ∀ range, Reaches customTypes template (.level range) → inner range = inner' range) :
    RangedPiece.compile? customTypes template inner (.scope b content) =
      RangedPiece.compile? customTypes template inner' (.scope b content) := by
  have branches (split : Reaches customTypes template (.split '|' content)) (ranges : List Span)
      (parts : splitRange? template content '|' = some ranges) :
      ranges.mapM inner = ranges.mapM inner' := by
    apply mapM_congr
    intro range member
    exact same range (split.branch parts member)
  cases b with
  | curly =>
      cases form : formRange? customTypes template content with
      | none => simp [RangedPiece.compile?, form]
      | some v =>
          cases v with
          | plain v => simp [RangedPiece.compile?, form]
          | invalid why => simp [RangedPiece.compile?, form]
          | nested name type =>
              simp [RangedPiece.compile?, form, same _ (reached.nested form)]
  | square => simp [RangedPiece.compile?, same _ reached.square]
  | round =>
      cases parts : splitRange? template content '|' with
      | none => simp [RangedPiece.compile?, parts]
      | some ranges => simp [RangedPiece.compile?, parts, branches reached.round ranges parts]
  | angle =>
      cases parts : splitRange? template content '|' with
      | none => simp [RangedPiece.compile?, parts]
      | some ranges => simp [RangedPiece.compile?, parts, branches reached.angle ranges parts]

def compileWithin? (customTypes : List Text) (template : Text) (levels : Span → Prop)
    [DecidablePred levels] : (depth : Nat) → (range : Span) → Option Compiled
  | 0, _ => none
  | depth + 1, range =>
    if levels range then do
      let text ← template.slice? range
      let parts ← (rangedPieces range.start [] true text).mapM
        (RangedPiece.compile? customTypes template
          (compileWithin? customTypes template levels depth))
      some (.concat parts)
    else none

variable {levels : Span → Prop} [DecidablePred levels]

theorem compileWithin?_eq
    (known : ∀ range, Reaches customTypes template (.level range) → levels range) {range : Span}
    (reached : Reaches customTypes template (.level range)) (depth : Nat) :
    compileWithin? customTypes template levels depth range =
      compileRange? customTypes template depth range := by
  induction depth generalizing range with
  | zero => rfl
  | succ depth ih =>
      rw [compileWithin?, compileRange?, if_pos (known range reached)]
      cases cut : template.slice? range with
      | none => rfl
      | some text =>
          simp only [Option.bind_eq_bind, Option.bind_some]
          rw [mapM_congr]
          intro piece found
          cases piece with
          | literal c => rfl
          | fault e => rfl
          | scope b content =>
              apply (reached.scope cut found).compile?_congr
              intro inner reached'
              exact ih reached'

/-- The compilation of a template goes through the stages that are reached, and through no level
besides. -/
theorem compileWithin?_whole
    (known : ∀ range, Reaches customTypes template (.level range) → levels range) :
    compileWithin? customTypes template levels (template.length + 1) ⟨0, template.byteLength⟩ =
      some (compileFragment customTypes ⟨0, template⟩) := by
  have range : Fragment.range ⟨0, template⟩ = ⟨0, template.byteLength⟩ := by
    rw [Fragment.range, Fragment.stop, Nat.zero_add]
  rw [compileWithin?_eq known .whole, ← range]
  exact compileRange?_eq customTypes (cutFrom_self template) (Nat.lt_succ_self _)

/-- Wherever the compilation splits a range, the splitter stays in step with the scan of levels, and
what it returns tiles the range with text that is whole. -/
theorem split_in_step {separator : Char} {range : Span}
    (reached : Reaches customTypes template (.split separator range)) :
    ∃ text ranges, Intact template range text ∧ template.slice? range = some text ∧
      splitRange? template range separator = some ranges ∧
      (∀ u v, text = u ++ v → endsInBackslash u = false → ∃ opened,
        (∀ other, OpenBehind range.start u other ↔ other = opened) ∧
          (∀ depth, DepthBehind separator range.start u depth ↔ depth = opened.length) ∧
          (∀ b t, v = Bracket.closer b :: t → opened ≠ []) ∧ (v = [] → opened = [])) ∧
      Tiles template separator range text ranges ∧
      ∀ second, ranges[1]? = some second →
        ∃ type, Intact template ⟨second.start, range.stop⟩ type := by
  rcases reached.sound with ⟨plain, text, intact⟩
  rcases intact.exists_placed with ⟨f, rfl, rfl, placed, balanced⟩
  have parts : Parts separator f.offset f.text (f.splitAt separator) := parts_splitAt plain balanced
  refine ⟨f.text, (f.splitAt separator).map Fragment.range, intact, placed.cutFrom.slice?,
    splitRange?_eq placed.cutFrom separator, ?_, parts.tiles plain placed, ?_⟩
  · intro u v whole awake
    rw [whole] at balanced
    refine ⟨openAfter [] (marks f.offset u), ?_, ?_, ?_, ?_⟩
    · exact fun other => openBehind_iff awake
    · exact fun depth => depthBehind_iff plain awake
    · intro b t behind
      subst behind
      exact balanced.opened_ne_nil awake f.offset
    · intro ended
      rw [ended, List.append_nil] at balanced
      exact balanced.openAfter_marks f.offset []
  · intro second found
    rw [List.getElem?_map] at found
    rcases Option.map_eq_some_iff.mp found with ⟨g, listed, rfl⟩
    rcases f with ⟨offset, text⟩
    rcases parts.exists_second plain listed with ⟨s, type, rfl, whole, inside, place⟩
    have intact := (placed.second plain whole).intact inside
    rw [Fragment.range, stop_second] at intact
    rw [Fragment.range, place]
    exact ⟨type, intact⟩

theorem split_in_step_escaped :
    Reaches [] "(a\\||[b|c])".toList (.split '|' ⟨1, 10⟩) ∧
      Tiles "(a\\||[b|c])".toList '|' ⟨1, 10⟩ "a\\||[b|c]".toList [⟨1, 4⟩, ⟨5, 10⟩] := by
  have cut : Text.slice? "(a\\||[b|c])".toList ⟨0, 11⟩ = some "(a\\||[b|c])".toList := by decide
  have content : Text.slice? "(a\\||[b|c])".toList ⟨1, 10⟩ = some "a\\||[b|c]".toList := by decide
  have parts : splitRange? "(a\\||[b|c])".toList ⟨1, 10⟩ '|' = some [⟨1, 4⟩, ⟨5, 10⟩] := by decide
  have level : Reaches [] "(a\\||[b|c])".toList (.level ⟨0, 11⟩) := .whole
  have reached : Reaches [] "(a\\||[b|c])".toList (.split '|' ⟨1, 10⟩) :=
    .round (.scope level cut (List.mem_singleton_self _))
  rcases split_in_step reached with ⟨text, ranges, _, cut', parts', _, tiles, _⟩
  cases content.symm.trans cut'
  cases parts.symm.trans parts'
  exact ⟨reached, tiles⟩

end Run

end NoteTemplate
