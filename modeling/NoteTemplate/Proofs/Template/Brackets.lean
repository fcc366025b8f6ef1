import NoteTemplate.Proofs.Template.Level

/-!
One scan over the brackets of a template, with nothing but a stack: which brackets stay open and
which faults there are. The scan that cuts a level into pieces meets the same faults, and it starts
anew wherever no bracket is open.
-/
namespace NoteTemplate

inductive Mark where
  | opening (o : Opened)
  | closing (b : Bracket) (offset : Nat)
  deriving DecidableEq

def marks (offset : Nat) : Text → List Mark
  | [] => []
  | ['\\'] => []
  | '\\' :: c :: t => marks (offset + 1 + c.utf8Size) t
  | c :: t =>
    match Bracket.ofOpener? c, Bracket.ofCloser? c with
    | some b, _ => .opening ⟨b, offset⟩ :: marks (offset + c.utf8Size) t
    | none, some b => .closing b offset :: marks (offset + c.utf8Size) t
    | none, none => marks (offset + c.utf8Size) t

/-- The open brackets behind some marks, the innermost first. A closer of any kind ends the
innermost one. -/
def openAfter : List Opened → List Mark → List Opened
  | opened, [] => opened
  | opened, .opening o :: ms => openAfter (o :: opened) ms
  | opened, .closing _ _ :: ms => openAfter opened.tail ms

def closerErrors : List Opened → List Mark → List CompileError
  | _, [] => []
  | opened, .opening o :: ms => closerErrors (o :: opened) ms
  | [], .closing b offset :: ms => .unexpected b offset :: closerErrors [] ms
  | o :: outer, .closing b offset :: ms =>
    if o.bracket = b then closerErrors outer ms
    else .mismatched o b offset :: closerErrors outer ms

/-- The faults of one scan: those at closers, then the brackets left open, the outermost first. -/
def scanErrors (opened : List Opened) (ms : List Mark) : List CompileError :=
  closerErrors opened ms ++ (openAfter opened ms).reverse.map .unclosed

def endsInBackslash : Text → Bool
  | [] => false
  | ['\\'] => true
  | '\\' :: _ :: t => endsInBackslash t
  | _ :: t => endsInBackslash t

def Closes (offset : Nat) (opened : List Opened) (s : Text) : Prop :=
  endsInBackslash s = false ∧ openAfter opened (marks offset s) = []

instance (offset : Nat) (opened : List Opened) : DecidablePred (Closes offset opened) := fun s =>
  inferInstanceAs (Decidable (endsInBackslash s = false ∧ openAfter opened (marks offset s) = []))

theorem closes_nil (offset : Nat) : Closes offset [] [] := ⟨rfl, rfl⟩

section Marks

variable {opened : List Opened} {offset : Nat}

theorem openAfter_append (ms ms' : List Mark) :
    openAfter opened (ms ++ ms') = openAfter (openAfter opened ms) ms' := by
  fun_induction openAfter opened ms with
  | case1 => rfl
  | case2 opened o ms ih => exact ih
  | case3 opened b offset ms ih => exact ih

theorem closerErrors_append (ms ms' : List Mark) : closerErrors opened (ms ++ ms') =
    closerErrors opened ms ++ closerErrors (openAfter opened ms) ms' := by
  fun_induction closerErrors opened ms with
  | case1 => rfl
  | case2 opened o ms ih => exact ih
  | case3 b offset ms ih => exact congrArg _ ih
  | case4 o outer offset ms ih => simpa [closerErrors, openAfter] using ih
  | case5 o outer b offset ms other ih => simpa [closerErrors, openAfter, other] using ih

theorem scanErrors_closing (o : Opened) (outer : List Opened) (b : Bracket) (offset : Nat)
    (ms : List Mark) : scanErrors (o :: outer) (.closing b offset :: ms) =
      if o.bracket = b then scanErrors outer ms
      else .mismatched o b offset :: scanErrors outer ms := by
  simp only [scanErrors, closerErrors, openAfter, List.tail_cons]
  split <;> rfl

theorem marks_cons {c : Char} (unescaped : c ≠ '\\') (t : Text) :
    marks offset (c :: t) =
      match Bracket.ofOpener? c, Bracket.ofCloser? c with
      | some b, _ => .opening ⟨b, offset⟩ :: marks (offset + c.utf8Size) t
      | none, some b => .closing b offset :: marks (offset + c.utf8Size) t
      | none, none => marks (offset + c.utf8Size) t := by
  rw [marks]
  · exact fun escape _ => unescaped escape
  · exact fun _ _ escape _ => unescaped escape

theorem marks_opener (b : Bracket) (t : Text) :
    marks offset (b.opener :: t) = .opening ⟨b, offset⟩ :: marks (offset + 1) t := by
  simp only [marks_cons b.opener_ne_backslash, Bracket.ofOpener?_opener, Bracket.utf8Size_opener]

theorem marks_closer (b : Bracket) (t : Text) :
    marks offset (b.closer :: t) = .closing b offset :: marks (offset + 1) t := by
  simp only [marks_cons b.closer_ne_backslash, Bracket.ofOpener?_closer, Bracket.ofCloser?_closer,
    Bracket.utf8Size_closer]

theorem marks_plain {c : Char} (plain : IsPlain c) (t : Text) :
    marks offset (c :: t) = marks (offset + c.utf8Size) t := by
  obtain ⟨opens, closes, escapes⟩ := plain
  simp only [marks_cons escapes, opens, closes]

end Marks

inductive ScanUnit : Text → Prop
  | single {c : Char} (unescaped : c ≠ '\\') : ScanUnit [c]
  | escaped (c : Char) : ScanUnit ['\\', c]

theorem unit_induction {motive : Text → Prop} (nil : motive []) (backslash : motive ['\\'])
    (unit : ∀ u t, ScanUnit u → motive t → motive (u ++ t)) (t : Text) : motive t := by
  induction size : t.length using Nat.strongRecOn generalizing t with
  | ind n ih =>
      rcases t with _ | ⟨c, t⟩
      · exact nil
      · by_cases escapes : c = '\\'
        · subst escapes
          rcases t with _ | ⟨c, t⟩
          · exact backslash
          · have shorter : t.length < n := by
              simp only [← size, List.length_cons]
              omega
            exact unit ['\\', c] t (.escaped c) (ih t.length shorter t rfl)
        · exact unit [c] t (.single escapes) (ih t.length (by simp [← size]) t rfl)

theorem scanUnit_opener (b : Bracket) : ScanUnit [b.opener] := .single b.opener_ne_backslash

theorem scanUnit_closer (b : Bracket) : ScanUnit [b.closer] := .single b.closer_ne_backslash

theorem byteLength_escaped (c : Char) : Text.byteLength ['\\', c] = 1 + c.utf8Size := rfl

theorem byteLength_opener (b : Bracket) : Text.byteLength [b.opener] = 1 := b.utf8Size_opener

theorem byteLength_closer (b : Bracket) : Text.byteLength [b.closer] = 1 := b.utf8Size_closer

namespace ScanUnit

variable {u : Text} {offset : Nat}

theorem endsInBackslash_append (unit : ScanUnit u) (t : Text) :
    endsInBackslash (u ++ t) = endsInBackslash t := by
  cases unit with
  | @single c unescaped =>
      rw [List.singleton_append, endsInBackslash]
      · exact fun escape _ => unescaped escape
      · exact fun _ _ escape _ => unescaped escape
  | escaped c => rfl

theorem awake (unit : ScanUnit u) : endsInBackslash u = false := by
  have alone := unit.endsInBackslash_append []
  rwa [List.append_nil] at alone

theorem marks_append (unit : ScanUnit u) (t : Text) :
    marks offset (u ++ t) = marks offset u ++ marks (offset + u.byteLength) t := by
  cases unit with
  | @single c unescaped =>
      rw [List.singleton_append, marks_cons unescaped, marks_cons unescaped]
      cases Bracket.ofOpener? c <;> cases Bracket.ofCloser? c <;> rfl
  | escaped c =>
      rw [byteLength_escaped, ← Nat.add_assoc]
      rfl

end ScanUnit

section Append

variable {offset : Nat} {s : Text}

theorem endsInBackslash_append (awake : endsInBackslash s = false) (t : Text) :
    endsInBackslash (s ++ t) = endsInBackslash t := by
  induction s using unit_induction with
  | nil => rfl
  | backslash => cases awake
  | unit u s unit ih =>
      rw [unit.endsInBackslash_append] at awake
      rw [List.append_assoc, unit.endsInBackslash_append, ih awake]

theorem marks_append (awake : endsInBackslash s = false) (t : Text) :
    marks offset (s ++ t) = marks offset s ++ marks (offset + s.byteLength) t := by
  induction s using unit_induction generalizing offset with
  | nil => rfl
  | backslash => cases awake
  | unit u s unit ih =>
      rw [unit.endsInBackslash_append] at awake
      rw [List.append_assoc, unit.marks_append, ih awake, unit.marks_append, List.append_assoc,
        Text.byteLength_append, Nat.add_assoc]

end Append

def Piece.fault? : Piece → Option CompileError
  | .fault e => some e
  | _ => none

section Steps

variable {offset : Nat} {opened : List Opened} {body : Text} {sound : Bool}

/-- With no bracket open nothing is kept of what was read. -/
theorem pieces_outside (t : Text) :
    pieces offset [] body sound t = pieces offset [] [] true t := by
  induction t using unit_induction with
  | nil => rfl
  | backslash => rfl
  | unit u t unit _ =>
      cases unit with
      | escaped c => rfl
      | @single c unescaped =>
          rw [List.singleton_append, pieces_cons unescaped, pieces_cons unescaped]
          cases Bracket.ofOpener? c <;> cases Bracket.ofCloser? c <;> rfl

/-- One step of the scan of a level. What it does to the open brackets and which faults it meets
does not hang on the text that follows; a scope that holds a fault adds nothing but faults. -/
theorem ScanUnit.pieces_step {u : Text} (unit : ScanUnit u) (offset : Nat) (opened : List Opened)
    (body : Text) (sound : Bool) : ∃ ps body' sound',
      (∀ t, pieces offset opened body sound (u ++ t) =
        ps ++ pieces (offset + u.byteLength) (openAfter opened (marks offset u)) body' sound' t) ∧
      ps.filterMap Piece.fault? = closerErrors opened (marks offset u) ∧
      (opened ≠ [] → sound = false →
        sound' = false ∧ ps = (closerErrors opened (marks offset u)).map .fault) := by
  cases unit with
  | escaped c =>
      rw [byteLength_escaped, ← Nat.add_assoc]
      cases opened with
      | nil => exact ⟨[.literal c], [], true, fun t => rfl, rfl, (absurd rfl ·)⟩
      | cons o outer =>
          exact ⟨[], c :: '\\' :: body, sound, fun t => rfl, rfl, fun _ unsound => ⟨unsound, rfl⟩⟩
  | @single c unescaped =>
      rcases char_cases c with rfl | ⟨b, rfl⟩ | ⟨b, rfl⟩ | plain
      · exact absurd rfl unescaped
      · rw [marks_opener, byteLength_opener]
        cases opened with
        | nil => exact ⟨[], [], true, fun t => pieces_opener b t, rfl, (absurd rfl ·)⟩
        | cons o outer =>
            exact ⟨[], b.opener :: body, sound, fun t => pieces_opener_inside b t, rfl,
              fun _ unsound => ⟨unsound, rfl⟩⟩
      · rw [marks_closer, byteLength_closer]
        rcases opened with _ | ⟨o, outer⟩
        · exact ⟨[.fault (.unexpected b offset)], [], true, fun t => pieces_closer_outside b t,
            rfl, (absurd rfl ·)⟩
        by_cases same : o.bracket = b
        · subst same
          cases outer with
          | nil =>
              refine ⟨Piece.closed sound o body.reverse, [], sound, fun t => ?_, ?_, ?_⟩
              · exact (pieces_closer t).trans (congrArg _ (pieces_outside t).symm)
              · cases sound <;> simp [Piece.closed, Piece.fault?, closerErrors, marks]
              · rintro _ rfl
                simp [Piece.closed, closerErrors, marks]
          | cons o' outer =>
              refine ⟨[], o.bracket.closer :: body, sound, fun t => pieces_closer_inside o t, ?_⟩
              simp [closerErrors, marks]
        · refine ⟨[.fault (.mismatched o b offset)], b.closer :: body, false,
            fun t => pieces_mismatched same t, ?_⟩
          rw [closerErrors, if_neg same]
          exact ⟨rfl, fun _ _ => ⟨rfl, rfl⟩⟩
      · rw [marks_plain plain]
        cases opened with
        | nil => exact ⟨[.literal c], [], true, fun t => pieces_plain plain t, rfl, (absurd rfl ·)⟩
        | cons o outer =>
            exact ⟨[], c :: body, sound, fun t => pieces_plain_inside plain t, rfl,
              fun _ unsound => ⟨unsound, rfl⟩⟩

theorem pieces_run {s : Text} (awake : endsInBackslash s = false) (offset : Nat)
    (opened : List Opened) (body : Text) (sound : Bool) : ∃ ps body' sound', ∀ t,
      pieces offset opened body sound (s ++ t) = ps ++
        pieces (offset + s.byteLength) (openAfter opened (marks offset s)) body' sound' t := by
  induction s using unit_induction generalizing offset opened body sound with
  | nil => exact ⟨[], body, sound, fun _ => rfl⟩
  | backslash => cases awake
  | unit u s unit ih =>
      rw [unit.endsInBackslash_append] at awake
      obtain ⟨ps, body₁, sound₁, first, _⟩ := unit.pieces_step offset opened body sound
      obtain ⟨qs, body₂, sound₂, second⟩ := ih awake (offset + u.byteLength)
        (openAfter opened (marks offset u)) body₁ sound₁
      refine ⟨ps ++ qs, body₂, sound₂, fun t => ?_⟩
      rw [List.append_assoc, first, second, unit.marks_append, openAfter_append,
        Text.byteLength_append, List.append_assoc, Nat.add_assoc]

theorem Closes.pieces_append {s : Text} (closes : Closes offset opened s) (t : Text) :
    pieces offset opened body sound (s ++ t) =
      pieces offset opened body sound s ++ pieces (offset + s.byteLength) [] [] true t := by
  obtain ⟨ps, body', sound', run⟩ := pieces_run closes.1 offset opened body sound
  have alone := run []
  rw [List.append_nil, closes.2, pieces_outside] at alone
  rw [run, closes.2, pieces_outside, alone]
  simp [pieces]

/-- The faults that the scan of a level meets are those of the scan over its brackets. -/
theorem filterMap_pieces (t : Text) : (pieces offset opened body sound t).filterMap Piece.fault? =
    scanErrors opened (marks offset t) := by
  have ending (opened : List Opened) :
      (opened.reverse.map fun o => Piece.fault (.unclosed o)).filterMap Piece.fault? =
        opened.reverse.map .unclosed := by
    rw [List.filterMap_map]
    exact congrFun List.filterMap_eq_map opened.reverse
  induction t using unit_induction generalizing offset opened body sound with
  | nil => exact ending opened
  | backslash =>
      cases opened with
      | nil => rfl
      | cons o outer => exact ending (o :: outer)
  | unit u t unit ih =>
      obtain ⟨ps, body', sound', step, faults, _⟩ := unit.pieces_step offset opened body sound
      rw [step, List.filterMap_append, faults, ih, unit.marks_append, scanErrors, scanErrors,
        closerErrors_append, openAfter_append, List.append_assoc]

example : scanErrors [] (marks 0 "(a] \x7bb [\\]".toList) =
    [.mismatched ⟨.round, 0⟩ .square 2, .unclosed ⟨.curly, 4⟩, .unclosed ⟨.square, 7⟩] := by decide

end Steps

end NoteTemplate
