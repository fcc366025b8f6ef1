import NoteTemplate.Proofs.Template.Brackets

/-!
How the scan of a level takes a text apart, faults included, and that it starts anew behind a
stretch that leaves no bracket open: what such a stretch compiles to does not hang on what follows.
-/
namespace NoteTemplate

section Broken

variable {offset : Nat} {opened : List Opened} {body : Text} {t : Text} {ps : List Piece}

/-- The scan meets nothing but faults until the open brackets are closed or the text ends. -/
def Broken (offset : Nat) (opened : List Opened) (t : Text) (ps : List Piece) : Prop :=
  ∃ (es : List CompileError) (s rest : Text), t = s ++ rest ∧ (Closes offset opened s ∨ rest = []) ∧
    ps = es.map .fault ++ pieces (offset + s.byteLength) [] [] true rest

theorem Broken.prepend {s : Text} (awake : endsInBackslash s = false)
    (broken : Broken (offset + s.byteLength) (openAfter opened (marks offset s)) t ps)
    (es : List CompileError) : Broken offset opened (s ++ t) (es.map .fault ++ ps) := by
  obtain ⟨es', s', rest, rfl, ends, rfl⟩ := broken
  refine ⟨es ++ es', s ++ s', rest, (List.append_assoc s s' rest).symm, ?_, ?_⟩
  · refine ends.imp_left fun closes => ⟨?_, ?_⟩
    · rw [endsInBackslash_append awake, closes.1]
    · rw [marks_append awake, openAfter_append, closes.2]
  · rw [List.map_append, Text.byteLength_append, List.append_assoc, Nat.add_assoc]

theorem broken_closed {s : Text} (closes : Closes offset opened s) (t : Text)
    (es : List CompileError) : Broken offset opened (s ++ t)
      (es.map .fault ++ pieces (offset + s.byteLength) [] [] true t) :=
  ⟨es, s, t, rfl, .inl closes, rfl⟩

theorem broken_end (opened : List Opened) (s : Text) :
    Broken offset opened s (opened.reverse.map fun o => .fault (.unclosed o)) := by
  refine ⟨opened.reverse.map .unclosed, s, [], by simp, .inr rfl, ?_⟩
  simp [pieces, Function.comp_def]

theorem broken_of_unsound (offset : Nat) (opened : List Opened) (body t : Text) :
    Broken offset opened t (pieces offset opened body false t) := by
  induction t using unit_induction generalizing offset opened body with
  | nil => exact broken_end opened []
  | backslash =>
      cases opened with
      | nil => exact broken_closed (closes_nil offset) ['\\'] []
      | cons o outer => exact broken_end (o :: outer) ['\\']
  | unit u t unit ih =>
      cases opened with
      | nil =>
          rw [pieces_outside]
          exact broken_closed (closes_nil offset) (u ++ t) []
      | cons o outer =>
          obtain ⟨ps, body', sound', step, _, unsound⟩ :=
            unit.pieces_step offset (o :: outer) body false
          obtain ⟨rfl, rfl⟩ := unsound (List.cons_ne_nil _ _) rfl
          rw [step]
          exact Broken.prepend unit.awake (ih _ _ _) _

theorem Broken.prepend_unit {u : Text} (unit : ScanUnit u)
    (broken : Broken (offset + u.byteLength) (openAfter opened (marks offset u)) t ps) :
    Broken offset opened (u ++ t) ps :=
  broken.prepend unit.awake []

end Broken

theorem Balanced.enclose {s : Text} (inside : Balanced none s) (b : Bracket) :
    Balanced none (b.enclose s) := by
  have alone : Balanced none (b.enclose s ++ []) := .scope b inside .nil
  rwa [List.append_nil] at alone

theorem Spells.awake {bare : Char → Prop} {s u : Text} (spelled : Spells bare false s u) :
    endsInBackslash s = false := by
  induction spelled with
  | nil => rfl
  | bare _ unescaped _ ih => exact ((ScanUnit.single unescaped).endsInBackslash_append _).trans ih
  | escaped c _ ih => exact ih
  | backslash final => cases final

theorem Balanced.awake {barred : Option Char} {s : Text} (balanced : Balanced barred s) :
    endsInBackslash s = false := by
  induction balanced with
  | nil => rfl
  | @plain barred c t bare _ _ ih => 
      exact ((ScanUnit.single bare.2.2).endsInBackslash_append t).trans ih
  | escaped c _ ih => exact ih
  | @scope barred b s t _ _ inside rest =>
      rw [Bracket.enclose_append]
      have opened := (scanUnit_opener b).endsInBackslash_append (s ++ b.closer :: t)
      have closed := (scanUnit_closer b).endsInBackslash_append t
      rw [List.singleton_append] at opened closed
      rw [opened, endsInBackslash_append inside, closed, rest]

theorem Balanced.openAfter_marks {barred : Option Char} {s : Text} (balanced : Balanced barred s)
    (offset : Nat) (opened : List Opened) : openAfter opened (marks offset s) = opened := by
  induction balanced generalizing offset opened with
  | nil => rfl
  | plain bare _ _ ih => rw [marks_plain bare, ih]
  | escaped c _ ih => exact ih _ _
  | @scope barred b s t inner _ inside rest =>
      rw [Bracket.enclose_append, marks_opener, marks_append inner.awake, marks_closer, openAfter,
        openAfter_append, inside, openAfter, List.tail_cons, rest]

theorem Balanced.closerErrors_marks {barred : Option Char} {s : Text} (balanced : Balanced barred s)
    (offset : Nat) (opened : List Opened) : closerErrors opened (marks offset s) = [] := by
  induction balanced generalizing offset opened with
  | nil => rfl
  | plain bare _ _ ih => rw [marks_plain bare, ih]
  | escaped c _ ih => exact ih _ _
  | @scope barred b s t inner _ inside rest =>
      rw [Bracket.enclose_append, marks_opener, marks_append inner.awake, marks_closer,
        closerErrors, closerErrors_append, inside, inner.openAfter_marks, closerErrors, if_pos rfl,
        rest, List.append_nil]

/-- Behind an opening bracket its scope is closed with brackets paired up, or the scan meets faults
only, until the outermost bracket is closed or the text ends. -/
def ClosedOrBroken (offset : Nat) (o : Opened) (outer : List Opened) (t : Text)
    (ps : List Piece) : Prop :=
  (∃ s rest, t = s ++ o.bracket.closer :: rest ∧ Balanced none s) ∨
    Broken offset (o :: outer) t ps

theorem ClosedOrBroken.prepend {offset : Nat} {o : Opened} {outer : List Opened} {u t : Text}
    {ps : List Piece} (behind : ClosedOrBroken (offset + u.byteLength) o outer t ps)
    (balanced : Balanced none u) : ClosedOrBroken offset o outer (u ++ t) ps := by
  rcases behind with ⟨s, rest, rfl, inside⟩ | broken
  · exact .inl ⟨u ++ s, rest, (List.append_assoc _ _ _).symm, balanced.append inside⟩
  · refine .inr (Broken.prepend balanced.awake ?_ [])
    rwa [balanced.openAfter_marks]

theorem closedOrBroken_pieces (offset : Nat) (o : Opened) (outer : List Opened) (body : Text)
    (sound : Bool) (t : Text) :
    ClosedOrBroken offset o outer t (pieces offset (o :: outer) body sound t) := by
  induction size : t.length using Nat.strongRecOn generalizing t offset o outer body sound with
  | ind n ih =>
      have pass {u rest : Text} (balanced : Balanced none u) (shorter : rest.length < n) :
          ClosedOrBroken offset o outer (u ++ rest)
            (pieces offset (o :: outer) body sound (u ++ rest)) := by
        rw [pieces_balanced balanced]
        exact (ih rest.length shorter _ o outer _ sound rest rfl).prepend balanced
      rcases t with _ | ⟨c, t⟩
      · exact .inr (broken_end (o :: outer) [])
      · rw [List.length_cons] at size
        rcases char_cases c with rfl | ⟨b, rfl⟩ | ⟨b, rfl⟩ | plain
        · rcases t with _ | ⟨c, t⟩
          · exact .inr (broken_end (o :: outer) ['\\'])
          · rw [List.length_cons] at size
            exact pass (.escaped c .nil) (by omega)
        · -- The inner scope comes first: if it is closed the scan goes on behind it.
          rcases ih t.length (by omega) (offset + 1) ⟨b, offset⟩ (o :: outer)
            (b.opener :: body) sound t rfl with ⟨s, rest, rfl, inside⟩ | broken
          · have whole : b.opener :: (s ++ b.closer :: rest) = b.enclose s ++ rest :=
              (Bracket.enclose_append b s rest).symm
            rw [List.length_append, List.length_cons] at size
            rw [whole]
            exact pass (inside.enclose b) (by omega)
          · rw [pieces_opener_inside]
            refine .inr (Broken.prepend_unit (scanUnit_opener b) ?_)
            rwa [marks_opener, byteLength_opener]
        · by_cases same : o.bracket = b
          · exact .inl ⟨[], t, by rw [same]; rfl, .nil⟩
          · rw [pieces_mismatched same]
            refine .inr (Broken.prepend (scanUnit_closer b).awake ?_ [.mismatched o b offset])
            rw [marks_closer, byteLength_closer]
            exact broken_of_unsound _ _ _ _
        · exact pass (u := [c]) (.cons plain .nil) (by omega)

/-- How the scan takes a level apart: characters, scopes in which brackets pair up, and stretches
that add nothing but faults, which leave no bracket open or end the text. -/
inductive Level : Nat → Text → List Piece → Prop
  | nil {offset : Nat} : Level offset [] []
  | backslash {offset : Nat} : Level offset ['\\'] [.literal '\\']
  | literal {offset : Nat} {s t : Text} {c : Char} {ps : List Piece}
      (spelled : Spells IsPlain false s [c]) (rest : Level (offset + s.byteLength) t ps) :
      Level offset (s ++ t) (.literal c :: ps)
  | scope {offset : Nat} (b : Bracket) {s t : Text} {ps : List Piece}
      (inside : Balanced none s) (rest : Level (offset + (b.enclose s).byteLength) t ps) :
      Level offset (b.enclose s ++ t) (.scope b ⟨offset + 1, s⟩ :: ps)
  | broken {offset : Nat} {s t : Text} {ps : List Piece} (es : List CompileError)
      (nonempty : s ≠ []) (ends : Closes offset [] s ∨ t = [])
      (rest : Level (offset + s.byteLength) t ps) : Level offset (s ++ t) (es.map .fault ++ ps)

theorem closes_opener {b : Bracket} {offset : Nat} {s : Text}
    (closes : Closes (offset + 1) [⟨b, offset⟩] s) : Closes offset [] (b.opener :: s) := by
  obtain ⟨awake, closed⟩ := closes
  refine ⟨((scanUnit_opener b).endsInBackslash_append s).trans awake, ?_⟩
  rwa [marks_opener]

theorem closes_closer (b : Bracket) (offset : Nat) : Closes offset [] [b.closer] := by
  refine ⟨(scanUnit_closer b).awake, ?_⟩
  rw [marks_closer]
  rfl

theorem level_pieces (offset : Nat) (t : Text) : Level offset t (pieces offset [] [] true t) := by
  induction size : t.length using Nat.strongRecOn generalizing t offset with
  | ind n ih =>
      rcases t with _ | ⟨c, t⟩
      · exact .nil
      rw [List.length_cons] at size
      rcases char_cases c with rfl | ⟨b, rfl⟩ | ⟨b, rfl⟩ | plain
      · rcases t with _ | ⟨c, t⟩
        · exact .backslash
        · rw [List.length_cons] at size
          rw [pieces_escaped]
          refine Level.literal (.escaped c .nil) ?_
          rw [byteLength_escaped, ← Nat.add_assoc]
          exact ih t.length (by omega) _ t rfl
      · rcases closedOrBroken_pieces (offset + 1) ⟨b, offset⟩ [] [] true t with
          ⟨s, rest, rfl, inside⟩ | ⟨es, s, rest, rfl, ends, broken⟩
        · rw [List.length_append, List.length_cons] at size
          rw [← Bracket.enclose_append, pieces_scope b inside]
          exact .scope b inside (ih rest.length (by omega) _ rest rfl)
        · have place : offset + 1 + s.byteLength = offset + Text.byteLength (b.opener :: s) := by
            rw [Text.byteLength, Bracket.utf8Size_opener, Nat.add_assoc]
          rw [List.length_append] at size
          rw [pieces_opener, broken, place]
          exact Level.broken (s := b.opener :: s) es (List.cons_ne_nil _ _)
            (ends.imp_left closes_opener) (ih rest.length (by omega) _ rest rfl)
      · rw [pieces_closer_outside]
        refine Level.broken (s := [b.closer]) [.unexpected b offset] (List.cons_ne_nil _ _)
          (.inl (closes_closer b offset)) ?_
        rw [byteLength_closer]
        exact ih t.length (by omega) _ t rfl
      · rw [pieces_plain plain]
        exact Level.literal (.bare plain plain.2.2 .nil) (ih t.length (by omega) _ t rfl)

namespace Level

variable {offset : Nat} {t : Text} {ps : List Piece}

theorem eq_nil (level : Level offset [] ps) : ps = [] := by
  generalize whole : ([] : Text) = t at level
  cases level with
  | nil => rfl
  | backslash => cases whole
  | literal spelled =>
      rw [(List.append_eq_nil_iff.mp whole.symm).1] at spelled
      cases spelled
  | scope => simp [Bracket.enclose] at whole
  | broken es nonempty => exact absurd (List.append_eq_nil_iff.mp whole.symm).1 nonempty

theorem exists_awake_of_scope_mem (level : Level offset t ps) {b : Bracket} {content : Fragment}
    (member : .scope b content ∈ ps) : ∃ before after,
      t = before ++ (b.enclose content.text ++ after) ∧
        content.offset = offset + before.byteLength + 1 ∧ endsInBackslash before = false ∧
        Balanced none content.text := by
  have further {offset : Nat} {s t : Text} (awake : endsInBackslash s = false)
      (found : ∃ before after, t = before ++ (b.enclose content.text ++ after) ∧
        content.offset = offset + s.byteLength + before.byteLength + 1 ∧
          endsInBackslash before = false ∧ Balanced none content.text) : ∃ before after,
      s ++ t = before ++ (b.enclose content.text ++ after) ∧
        content.offset = offset + before.byteLength + 1 ∧ endsInBackslash before = false ∧
          Balanced none content.text := by
    obtain ⟨before, after, rfl, place, awake', inside⟩ := found
    refine ⟨s ++ before, after, (List.append_assoc _ _ _).symm, ?_, ?_, inside⟩
    · rw [place, Text.byteLength_append, Nat.add_assoc offset]
    · rw [endsInBackslash_append awake, awake']
  induction level with
  | nil => cases member
  | backslash => cases List.mem_singleton.mp member
  | literal spelled rest ih =>
      rcases List.mem_cons.mp member with same | later
      · cases same
      · exact further spelled.awake (ih later)
  | scope b' inside rest ih =>
      rcases List.mem_cons.mp member with same | later
      · cases same
        exact ⟨[], _, rfl, rfl, rfl, inside⟩
      · exact further (inside.enclose b').awake (ih later)
  | broken es nonempty ends rest ih =>
      rcases List.mem_append.mp member with fault | later
      · obtain ⟨e, _, other⟩ := List.mem_map.mp fault
        cases other
      · rcases ends with closes | empty
        · exact further closes.1 (ih later)
        · subst empty
          rw [rest.eq_nil] at later
          cases later

theorem exists_of_scope_mem (level : Level offset t ps) {b : Bracket} {content : Fragment}
    (member : .scope b content ∈ ps) : ∃ before after,
      t = before ++ (b.enclose content.text ++ after) ∧
        content.offset = offset + before.byteLength + 1 ∧ Balanced none content.text := by
  obtain ⟨before, after, split, place, _, inside⟩ := level.exists_awake_of_scope_mem member
  exact ⟨before, after, split, place, inside⟩

end Level

namespace Pattern

theorem glue_nil (p : Pattern) : glue p [] = p := by
  induction p with
  | nil => rfl
  | cons token p ih =>
      have step : glue (token :: p) [] = token :: glue p [] := by
        cases token <;> cases p <;> rfl
      rw [step, ih]

/-- Only the last token meets what follows. -/
theorem glue_cons (token : Token) {p : Pattern} (longer : p ≠ []) (q : Pattern) :
    glue (token :: p) q = token :: glue p q := by
  cases p with
  | nil => exact absurd rfl longer
  | cons next p => cases token <;> rfl

theorem glue_ne_nil {p : Pattern} (longer : p ≠ []) (q : Pattern) : glue p q ≠ [] := by
  rcases p with _ | ⟨token, _ | ⟨next, p⟩⟩
  · exact absurd rfl longer
  · cases token <;> rcases q with _ | ⟨_ | _, q⟩ <;> simp [glue]
  · rw [glue_cons token (List.cons_ne_nil _ _)]
    exact List.cons_ne_nil _ _

theorem glue_assoc (p q r : Pattern) : glue (glue p q) r = glue p (glue q r) := by
  induction p with
  | nil => rfl
  | cons token p ih =>
      by_cases longer : p = []
      · subst longer
        rcases q with _ | ⟨next, q⟩
        · rw [glue_nil]
          rfl
        · rcases q with _ | ⟨later, q⟩
          · rcases r with _ | ⟨last, r⟩
            · rw [glue_nil, glue_nil]
            · cases token <;> cases next <;> cases last <;> simp [glue]
          · cases token <;> cases next <;> simp [glue]
      · rw [glue_cons token longer, glue_cons token (glue_ne_nil longer q), ih,
          glue_cons token longer]

end Pattern

namespace Compiled

theorem append_assoc (a b c : Compiled) : (a.append b).append c = a.append (b.append c) := by
  simp only [append, Pattern.glue_assoc, List.append_assoc]

theorem concat_append (xs ys : List Compiled) :
    concat (xs ++ ys) = (concat xs).append (concat ys) := by
  induction xs with
  | nil => rfl
  | cons x xs ih =>
      have step (parts : List Compiled) : concat (x :: parts) = x.append (concat parts) := rfl
      rw [List.cons_append, step, step, ih, append_assoc]

end Compiled

theorem compileFragment_append {customTypes : List Text} {offset : Nat} {s : Text}
    (closes : Closes offset [] s) (t : Text) :
    compileFragment customTypes ⟨offset, s ++ t⟩ =
      (compileFragment customTypes ⟨offset, s⟩).append
        (compileFragment customTypes ⟨offset + s.byteLength, t⟩) := by
  simp only [compileFragment_eq, Fragment.pieces, closes.pieces_append, List.map_append,
    Compiled.concat_append]

end NoteTemplate
