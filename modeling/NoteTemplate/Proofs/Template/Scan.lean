import NoteTemplate.Template.Compile
import NoteTemplate.Proofs.Template.Grammar

namespace NoteTemplate

namespace Bracket

@[simp] theorem ofOpener?_opener (b : Bracket) : ofOpener? b.opener = some b := by cases b <;> rfl

@[simp] theorem ofOpener?_closer (b : Bracket) : ofOpener? b.closer = none := by cases b <;> rfl

@[simp] theorem ofCloser?_closer (b : Bracket) : ofCloser? b.closer = some b := by cases b <;> rfl

@[simp] theorem opener_ne_backslash (b : Bracket) : b.opener ≠ '\\' := by cases b <;> decide

@[simp] theorem closer_ne_backslash (b : Bracket) : b.closer ≠ '\\' := by cases b <;> decide

theorem utf8Size_opener (b : Bracket) : b.opener.utf8Size = 1 := by cases b <;> rfl

theorem utf8Size_closer (b : Bracket) : b.closer.utf8Size = 1 := by cases b <;> rfl

theorem enclose_append (b : Bracket) (s t : Text) :
    b.enclose s ++ t = b.opener :: (s ++ b.closer :: t) := by
  simp [enclose]

theorem byteLength_enclose (b : Bracket) (t : Text) :
    (b.enclose t).byteLength = 1 + (t.byteLength + 1) := by
  simp [enclose, Text.byteLength, Text.byteLength_append, utf8Size_opener, utf8Size_closer]

theorem eq_opener {c : Char} {b : Bracket} (opens : ofOpener? c = some b) : c = b.opener := by
  unfold ofOpener? at opens
  split at opens <;> cases opens <;> rfl

theorem eq_closer {c : Char} {b : Bracket} (closes : ofCloser? c = some b) : c = b.closer := by
  unfold ofCloser? at closes
  split at closes <;> cases closes <;> rfl

end Bracket

theorem char_cases (c : Char) :
    c = '\\' ∨ (∃ b : Bracket, c = b.opener) ∨ (∃ b : Bracket, c = b.closer) ∨ IsPlain c := by
  cases opens : Bracket.ofOpener? c with
  | some b => exact .inr (.inl ⟨b, Bracket.eq_opener opens⟩)
  | none =>
      cases closes : Bracket.ofCloser? c with
      | some b => exact .inr (.inr (.inl ⟨b, Bracket.eq_closer closes⟩))
      | none =>
          by_cases escapes : c = '\\'
          · exact .inl escapes
          · exact .inr (.inr (.inr ⟨opens, closes, escapes⟩))

theorem Balanced.cons {c : Char} {t : Text} (plain : IsPlain c) (rest : Balanced none t) :
    Balanced none (c :: t) :=
  .plain plain (Option.some_ne_none c).symm rest

theorem Balanced.append {barred : Option Char} {s t : Text} (first : Balanced barred s)
    (second : Balanced barred t) : Balanced barred (s ++ t) := by
  induction first with
  | nil => exact second
  | plain bare free _ ih => exact .plain bare free (ih second)
  | escaped c _ ih => exact .escaped c (ih second)
  | scope b inside _ _ ih =>
      rw [List.append_assoc]
      exact .scope b inside (ih second)

theorem Balanced.unbar {barred : Option Char} {t : Text} (balanced : Balanced barred t) :
    Balanced none t := by
  induction balanced with
  | nil => exact .nil
  | plain bare _ _ ih => exact .cons bare ih
  | escaped c _ ih => exact .escaped c ih
  | scope b inside _ _ ih => exact .scope b inside ih

theorem not_isPlain_opener (b : Bracket) : ¬ IsPlain b.opener := fun plain => by
  simpa using plain.1

section Inversion

variable {barred : Option Char} {c : Char} {t : Text}

theorem Balanced.cons_cases (balanced : Balanced barred (c :: t)) :
    IsPlain c ∧ Balanced barred t ∨
      (∃ d rest, c = '\\' ∧ t = d :: rest ∧ Balanced barred rest) ∨
      ∃ b s rest, c = Bracket.opener b ∧ t = s ++ b.closer :: rest ∧ Balanced none s ∧
        Balanced barred rest := by
  generalize whole : c :: t = u at balanced
  cases balanced with
  | nil => cases whole
  | plain bare _ rest =>
      cases whole
      exact .inl ⟨bare, rest⟩
  | escaped d rest =>
      cases whole
      exact .inr (.inl ⟨d, _, rfl, rfl, rest⟩)
  | scope b inside rest =>
      rw [Bracket.enclose_append] at whole
      cases whole
      exact .inr (.inr ⟨b, _, _, rfl, rfl, inside, rest⟩)

theorem Balanced.tail (plain : IsPlain c) (balanced : Balanced barred (c :: t)) :
    Balanced barred t := by
  obtain ⟨_, rest⟩ | ⟨d, rest, rfl, _⟩ | ⟨b, s, rest, rfl, _⟩ := balanced.cons_cases
  · exact rest
  · exact absurd rfl plain.2.2
  · exact absurd plain (not_isPlain_opener b)

theorem Balanced.exists_escaped (balanced : Balanced barred ('\\' :: t)) :
    ∃ c rest, t = c :: rest ∧ Balanced barred rest := by
  obtain ⟨plain, _⟩ | ⟨d, rest, _, rfl, ending⟩ | ⟨b, s, rest, same, _⟩ := balanced.cons_cases
  · exact absurd rfl plain.2.2
  · exact ⟨d, rest, rfl, ending⟩
  · exact absurd same.symm b.opener_ne_backslash

theorem Balanced.exists_scope {b : Bracket} (balanced : Balanced barred (b.opener :: t)) :
    ∃ s rest, t = s ++ b.closer :: rest ∧ Balanced none s ∧ Balanced barred rest := by
  obtain ⟨plain, _⟩ | ⟨d, rest, same, _⟩ | ⟨b', s, rest, same, rfl, inside, ending⟩ :=
    balanced.cons_cases
  · exact absurd plain (not_isPlain_opener b)
  · exact absurd same b.opener_ne_backslash
  · have kinds := congrArg Bracket.ofOpener? same
    simp only [Bracket.ofOpener?_opener, Option.some.injEq] at kinds
    exact ⟨s, rest, by rw [kinds], inside, ending⟩

end Inversion

section Pieces

variable {offset : Nat} {o : Opened} {outer : List Opened} {body : Text} {sound : Bool}

theorem pieces_cons {opened : List Opened} {c : Char} (unescaped : c ≠ '\\') (t : Text) :
    pieces offset opened body sound (c :: t) =
      match Bracket.ofOpener? c, Bracket.ofCloser? c, opened with
      | some b, _, [] => pieces (offset + c.utf8Size) [⟨b, offset⟩] [] true t
      | some b, _, _ :: _ =>
        pieces (offset + c.utf8Size) (⟨b, offset⟩ :: opened) (c :: body) sound t
      | none, some b, [] =>
        .fault (.unexpected b offset) :: pieces (offset + c.utf8Size) [] [] true t
      | none, some b, o :: outer =>
        if o.bracket = b then
          if outer.isEmpty then
            Piece.closed sound o body.reverse ++ pieces (offset + c.utf8Size) [] [] true t
          else pieces (offset + c.utf8Size) outer (c :: body) sound t
        else
          .fault (.mismatched o b offset) :: pieces (offset + c.utf8Size) outer (c :: body) false t
      | none, none, [] => .literal c :: pieces (offset + c.utf8Size) [] [] true t
      | none, none, _ :: _ => pieces (offset + c.utf8Size) opened (c :: body) sound t := by
  cases opens : Bracket.ofOpener? c <;> cases closes : Bracket.ofCloser? c <;>
    cases opened <;> simp [pieces, opens, closes, unescaped]

theorem pieces_escaped (c : Char) (t : Text) :
    pieces offset [] body sound ('\\' :: c :: t) =
      .literal c :: pieces (offset + 1 + c.utf8Size) [] [] true t := rfl

theorem pieces_escaped_inside (c : Char) (t : Text) :
    pieces offset (o :: outer) body sound ('\\' :: c :: t) =
      pieces (offset + 1 + c.utf8Size) (o :: outer) (c :: '\\' :: body) sound t := rfl

theorem pieces_plain {c : Char} (plain : IsPlain c) (t : Text) :
    pieces offset [] body sound (c :: t) =
      .literal c :: pieces (offset + c.utf8Size) [] [] true t := by
  obtain ⟨opens, closes, escapes⟩ := plain
  simp only [pieces_cons escapes, opens, closes]

theorem pieces_plain_inside {c : Char} (plain : IsPlain c) (t : Text) :
    pieces offset (o :: outer) body sound (c :: t) =
      pieces (offset + c.utf8Size) (o :: outer) (c :: body) sound t := by
  obtain ⟨opens, closes, escapes⟩ := plain
  simp only [pieces_cons escapes, opens, closes]

theorem pieces_opener (b : Bracket) (t : Text) :
    pieces offset [] body sound (b.opener :: t) =
      pieces (offset + 1) [⟨b, offset⟩] [] true t := by
  simp only [pieces_cons b.opener_ne_backslash, Bracket.ofOpener?_opener, Bracket.utf8Size_opener]

theorem pieces_opener_inside (b : Bracket) (t : Text) :
    pieces offset (o :: outer) body sound (b.opener :: t) =
      pieces (offset + 1) (⟨b, offset⟩ :: o :: outer) (b.opener :: body) sound t := by
  simp only [pieces_cons b.opener_ne_backslash, Bracket.ofOpener?_opener, Bracket.utf8Size_opener]

theorem pieces_closer_outside (b : Bracket) (t : Text) :
    pieces offset [] body sound (b.closer :: t) =
      .fault (.unexpected b offset) :: pieces (offset + 1) [] [] true t := by
  simp only [pieces_cons b.closer_ne_backslash, Bracket.ofOpener?_closer,
    Bracket.ofCloser?_closer, Bracket.utf8Size_closer]

theorem pieces_closer (t : Text) :
    pieces offset [o] body sound (o.bracket.closer :: t) =
      Piece.closed sound o body.reverse ++ pieces (offset + 1) [] [] true t := by
  simp only [pieces_cons o.bracket.closer_ne_backslash, Bracket.ofOpener?_closer,
    Bracket.ofCloser?_closer, Bracket.utf8Size_closer, if_true, List.isEmpty_nil]

theorem pieces_closer_inside (o' : Opened) (t : Text) :
    pieces offset (o' :: o :: outer) body sound (o'.bracket.closer :: t) =
      pieces (offset + 1) (o :: outer) (o'.bracket.closer :: body) sound t := by
  simp [pieces_cons, Bracket.utf8Size_closer]

theorem pieces_mismatched {b : Bracket} (other : o.bracket ≠ b) (t : Text) :
    pieces offset (o :: outer) body sound (b.closer :: t) =
      .fault (.mismatched o b offset) ::
        pieces (offset + 1) outer (b.closer :: body) false t := by
  simp [pieces_cons, Bracket.utf8Size_closer, other]

/-- Inside brackets the scan passes over text in which brackets pair up. -/
theorem pieces_balanced {barred : Option Char} {s : Text} (balanced : Balanced barred s)
    (t : Text) :
    pieces offset (o :: outer) body sound (s ++ t) =
      pieces (offset + s.byteLength) (o :: outer) (s.reverse ++ body) sound t := by
  induction balanced generalizing offset o outer body t with
  | nil => rfl
  | @plain _ c s bare _ _ ih =>
      rw [List.cons_append, pieces_plain_inside bare, ih]
      simp [Text.byteLength, Nat.add_assoc]
  | @escaped _ c s _ ih =>
      rw [List.cons_append, List.cons_append, pieces_escaped_inside, ih]
      have size : '\\'.utf8Size = 1 := rfl
      simp [Text.byteLength, Nat.add_assoc, size]
  | @scope _ b s s' _ _ inside rest =>
      have close : pieces (offset + 1 + s.byteLength) (⟨b, offset⟩ :: o :: outer)
          (s.reverse ++ b.opener :: body) sound (b.closer :: (s' ++ t)) = _ :=
        pieces_closer_inside _ _
      rw [List.append_assoc, Bracket.enclose_append, pieces_opener_inside, inside, close, rest,
        Text.byteLength_append, Bracket.byteLength_enclose]
      simp [Bracket.enclose, Nat.add_assoc]

theorem pieces_scope (b : Bracket) {s : Text} (balanced : Balanced none s) (t : Text) :
    pieces offset [] body sound (b.enclose s ++ t) =
      .scope b ⟨offset + 1, s⟩ :: pieces (offset + (b.enclose s).byteLength) [] [] true t := by
  have close : pieces (offset + 1 + s.byteLength) [⟨b, offset⟩] (s.reverse ++ []) true
      (b.closer :: t) = _ := pieces_closer _
  rw [Bracket.enclose_append, pieces_opener, pieces_balanced balanced, close]
  simp [Piece.closed, Bracket.byteLength_enclose, Nat.add_assoc]

def Faultless (ps : List Piece) : Prop := ∀ e, .fault e ∉ ps

/-- Without a fault the innermost open bracket is closed, and brackets pair up until then. -/
theorem exists_closer {t : Text} (faultless : Faultless (pieces offset (o :: outer) body sound t)) :
    ∃ s rest, t = s ++ o.bracket.closer :: rest ∧ Balanced none s := by
  -- An inner scope is closed first, and then what follows its closer: both are shorter texts.
  induction size : t.length using Nat.strongRecOn
    generalizing t offset o outer body sound with
  | ind n ih =>
      have unclosed : ¬ Faultless ((o :: outer).reverse.map fun o => .fault (.unclosed o)) :=
        fun faultless => faultless _ (List.mem_map.mpr ⟨o, by simp, rfl⟩)
      rcases t with _ | ⟨c, t⟩
      · exact absurd faultless unclosed
      · rcases char_cases c with rfl | ⟨b, rfl⟩ | ⟨b, rfl⟩ | plain
        · rcases t with _ | ⟨c, t⟩
          · exact absurd faultless unclosed
          · rw [pieces_escaped_inside] at faultless
            have shorter : t.length < n := by
              simp only [← size, List.length_cons]
              omega
            obtain ⟨s, rest, rfl, balanced⟩ := ih t.length shorter faultless rfl
            exact ⟨'\\' :: c :: s, rest, rfl, .escaped c balanced⟩
        · rw [pieces_opener_inside] at faultless
          obtain ⟨s, rest, rfl, inside⟩ := ih t.length (by simp [← size]) faultless rfl
          have close : pieces (offset + 1 + s.byteLength) (⟨b, offset⟩ :: o :: outer)
              (s.reverse ++ b.opener :: body) sound (b.closer :: rest) = _ :=
            pieces_closer_inside _ _
          rw [pieces_balanced inside, close] at faultless
          have shorter : rest.length < n := by
            simp only [← size, List.length_cons, List.length_append]
            omega
          obtain ⟨s', rest', rfl, balanced⟩ := ih rest.length shorter faultless rfl
          refine ⟨b.enclose s ++ s', rest', ?_, .scope b inside balanced⟩
          rw [List.append_assoc, Bracket.enclose_append]
        · by_cases same : o.bracket = b
          · exact ⟨[], t, by rw [same]; rfl, .nil⟩
          · rw [pieces_mismatched same] at faultless
            exact absurd List.mem_cons_self (faultless _)
        · rw [pieces_plain_inside plain] at faultless
          obtain ⟨s, rest, rfl, balanced⟩ := ih t.length (by simp [← size]) faultless rfl
          exact ⟨c :: s, rest, rfl, .cons plain balanced⟩

end Pieces

section Split

variable {separator : Char} {depth offset : Nat}

def joinFirst (offset : Nat) (s : Text) : List Fragment → List Fragment
  | [] => [⟨offset, s⟩]
  | f :: fs => ⟨offset, s ++ f.text⟩ :: fs

theorem consFirst_joinFirst (offset' : Nat) (c : Char) (s : Text) (fs : List Fragment) :
    consFirst offset c (joinFirst offset' s fs) = joinFirst offset (c :: s) fs := by
  cases fs <;> rfl

theorem joinFirst_consFirst (offset' : Nat) (c : Char) (s : Text) (fs : List Fragment) :
    joinFirst offset s (consFirst offset' c fs) = joinFirst offset (s ++ [c]) fs := by
  cases fs <;> simp [joinFirst, consFirst]

theorem joinFirst_joinFirst (offset' : Nat) (s s' : Text) (fs : List Fragment) :
    joinFirst offset s (joinFirst offset' s' fs) = joinFirst offset (s ++ s') fs := by
  cases fs <;> simp [joinFirst]

theorem splitTopLevel_cons {c : Char} (unescaped : c ≠ '\\') (t : Text) :
    splitTopLevel separator depth offset (c :: t) =
      if (Bracket.ofOpener? c).isSome then
        consFirst offset c (splitTopLevel separator (depth + 1) (offset + c.utf8Size) t)
      else if (Bracket.ofCloser? c).isSome then
        consFirst offset c (splitTopLevel separator (depth - 1) (offset + c.utf8Size) t)
      else if c = separator ∧ depth = 0 then
        ⟨offset, []⟩ :: splitTopLevel separator 0 (offset + c.utf8Size) t
      else consFirst offset c (splitTopLevel separator depth (offset + c.utf8Size) t) := by
  rw [splitTopLevel]
  · exact fun escape _ => unescaped escape
  · exact fun _ _ escape _ => unescaped escape

theorem splitTopLevel_opener (b : Bracket) (t : Text) :
    splitTopLevel separator depth offset (b.opener :: t) =
      consFirst offset b.opener (splitTopLevel separator (depth + 1) (offset + 1) t) := by
  simp [splitTopLevel_cons, Bracket.utf8Size_opener]

theorem splitTopLevel_closer (b : Bracket) (t : Text) :
    splitTopLevel separator depth offset (b.closer :: t) =
      consFirst offset b.closer (splitTopLevel separator (depth - 1) (offset + 1) t) := by
  simp [splitTopLevel_cons, Bracket.utf8Size_closer]

theorem splitTopLevel_plain {c : Char} (plain : IsPlain c) (kept : c = separator → 0 < depth)
    (t : Text) : splitTopLevel separator depth offset (c :: t) =
      consFirst offset c (splitTopLevel separator depth (offset + c.utf8Size) t) := by
  obtain ⟨opens, closes, escapes⟩ := plain
  have inside : ¬ (c = separator ∧ depth = 0) := fun ⟨same, top⟩ => by
    have := kept same
    omega
  simp [splitTopLevel_cons escapes, opens, closes, inside]

theorem splitTopLevel_separator (plain : IsPlain separator) (t : Text) :
    splitTopLevel separator 0 offset (separator :: t) =
      ⟨offset, []⟩ :: splitTopLevel separator 0 (offset + separator.utf8Size) t := by
  obtain ⟨opens, closes, escapes⟩ := plain
  simp [splitTopLevel_cons escapes, opens, closes]

theorem splitTopLevel_escaped (c : Char) (t : Text) :
    splitTopLevel separator depth offset ('\\' :: c :: t) =
      consFirst offset '\\' (consFirst (offset + 1) c
        (splitTopLevel separator depth (offset + 1 + c.utf8Size) t)) := rfl

theorem joinFirst_splitTopLevel_nil (t : Text) :
    joinFirst offset [] (splitTopLevel separator depth offset t) =
      splitTopLevel separator depth offset t := by
  have cons (c : Char) (fs : List Fragment) :
      joinFirst offset [] (consFirst offset c fs) = consFirst offset c fs := by
    cases fs <;> rfl
  fun_cases splitTopLevel separator depth offset t <;> first | exact cons _ _ | rfl

theorem exists_splitTopLevel (t : Text) :
    ∃ s fs, splitTopLevel separator depth offset t = ⟨offset, s⟩ :: fs := by
  rw [← joinFirst_splitTopLevel_nil]
  cases splitTopLevel separator depth offset t with
  | nil => exact ⟨[], [], rfl⟩
  | cons f fs => exact ⟨[] ++ f.text, fs, rfl⟩

theorem splitTopLevel_balanced {barred : Option Char} {s : Text} (balanced : Balanced barred s)
    (whole : barred = some separator ∨ 0 < depth) (t : Text) :
    splitTopLevel separator depth offset (s ++ t) =
      joinFirst offset s (splitTopLevel separator depth (offset + s.byteLength) t) := by
  induction balanced generalizing depth offset t with
  | nil => exact (joinFirst_splitTopLevel_nil t).symm
  | @plain barred c s bare free _ ih =>
      have kept : c = separator → 0 < depth := fun same =>
        whole.resolve_left fun barred => free (same ▸ barred)
      rw [List.cons_append, splitTopLevel_plain bare kept, ih whole, consFirst_joinFirst]
      simp [Text.byteLength, Nat.add_assoc]
  | @escaped _ c s _ ih =>
      have size : '\\'.utf8Size = 1 := rfl
      rw [List.cons_append, List.cons_append, splitTopLevel_escaped, ih whole,
        consFirst_joinFirst, consFirst_joinFirst]
      simp [Text.byteLength, Nat.add_assoc, size]
  | @scope _ b s s' _ _ inside rest =>
      rw [List.append_assoc, Bracket.enclose_append, splitTopLevel_opener,
        inside (.inr (Nat.succ_pos depth)), splitTopLevel_closer, Nat.succ_sub_one,
        rest whole, consFirst_joinFirst, joinFirst_consFirst, joinFirst_joinFirst,
        Text.byteLength_append, Bracket.byteLength_enclose]
      simp [Bracket.enclose, Nat.add_assoc]

theorem splitAt_whole {s : Text} (whole : Balanced (some separator) s) :
    Fragment.splitAt ⟨offset, s⟩ separator = [⟨offset, s⟩] := by
  have parts : splitTopLevel separator 0 offset (s ++ []) = [⟨offset, s ++ []⟩] :=
    splitTopLevel_balanced whole (.inl rfl) []
  rwa [List.append_nil] at parts

theorem splitAt_separator {s : Text} (plain : IsPlain separator)
    (whole : Balanced (some separator) s) (t : Text) :
    Fragment.splitAt ⟨offset, s ++ separator :: t⟩ separator =
      ⟨offset, s⟩ ::
        Fragment.splitAt ⟨offset + s.byteLength + separator.utf8Size, t⟩ separator := by
  simp only [Fragment.splitAt]
  rw [splitTopLevel_balanced whole (.inl rfl), splitTopLevel_separator plain]
  simp [joinFirst]

/-- Text in which brackets pair up is free of a separator outside them, or it has a first one. -/
theorem Balanced.split (separator : Char) {barred : Option Char} {t : Text}
    (balanced : Balanced barred t) :
    Balanced (some separator) t ∨ ∃ s rest, t = s ++ separator :: rest ∧
      Balanced (some separator) s ∧ Balanced barred rest := by
  induction balanced with
  | nil => exact .inl .nil
  | @plain barred c t bare free balanced ih =>
      by_cases same : c = separator
      · exact .inr ⟨[], t, by rw [same]; rfl, .nil, balanced⟩
      · have free : some separator ≠ some c := fun equal => same (Option.some.inj equal).symm
        rcases ih with whole | ⟨s, rest, rfl, whole, balanced⟩
        · exact .inl (.plain bare free whole)
        · exact .inr ⟨c :: s, rest, rfl, .plain bare free whole, balanced⟩
  | escaped c _ ih =>
      rcases ih with whole | ⟨s, rest, rfl, whole, balanced⟩
      · exact .inl (.escaped c whole)
      · exact .inr ⟨'\\' :: c :: s, rest, rfl, .escaped c whole, balanced⟩
  | scope b inside _ _ ih =>
      rcases ih with whole | ⟨s, rest, rfl, whole, balanced⟩
      · exact .inl (.scope b inside whole)
      · refine .inr ⟨b.enclose _ ++ s, rest, ?_, .scope b inside whole, balanced⟩
        rw [List.append_assoc]

/-- Parts of a text with one separator between neighbours and none outside brackets in a part. -/
inductive Parts (separator : Char) : Nat → Text → List Fragment → Prop
  | last {offset : Nat} {s : Text} (whole : Balanced (some separator) s) :
      Parts separator offset s [⟨offset, s⟩]
  | part {offset : Nat} {s t : Text} {fs : List Fragment} (whole : Balanced (some separator) s)
      (rest : Parts separator (offset + s.byteLength + separator.utf8Size) t fs) :
      Parts separator offset (s ++ separator :: t) (⟨offset, s⟩ :: fs)

theorem parts_splitAt {t : Text} (plain : IsPlain separator) (balanced : Balanced none t) :
    Parts separator offset t (Fragment.splitAt ⟨offset, t⟩ separator) := by
  induction size : t.length using Nat.strongRecOn generalizing t offset with
  | ind n ih =>
      rcases balanced.split separator with whole | ⟨s, rest, rfl, whole, balanced⟩
      · rw [splitAt_whole whole]
        exact .last whole
      · have shorter : rest.length < n := by
          simp only [← size, List.length_append, List.length_cons]
          omega
        rw [splitAt_separator plain whole]
        exact .part whole (ih rest.length shorter balanced rfl)

end Split

end NoteTemplate
