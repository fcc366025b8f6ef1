import NoteTemplate.Proofs.Expansion.Scores

/-!
The simple form of a reading. It depends on the variables of the reading and on the literal text
before, between and behind them, and on nothing else: two readings have one simple form where they
agree in these. A merge from left to right that only looks at the segment it wrote last comes to the
same form.
-/
namespace NoteTemplate

namespace Reading

def slots (r : Reading) : List Variable :=
  r.filterMap fun
    | .variable v => some v
    | .text _ => none

/-- The literal text before the first variable, between the variables and behind the last one. -/
def gaps : Reading → List Text
  | [] => [[]]
  | .text s :: r => (gaps r).modifyHead (s ++ ·)
  | .variable _ :: r => [] :: gaps r

def woven : List Text → List Variable → Reading
  | [], _ => []
  | gap :: _, [] => [.text gap]
  | gap :: gaps, v :: vs => .text gap :: .variable v :: woven gaps vs

def LiteralsApart (r : Reading) : Prop :=
  ∀ s t : Text, ¬ [.text s, .text t] <:+: r

def joinSegment (out : Reading) : Segment → Reading
  | .text [] => out
  | .text t =>
    match out.getLast? with
    | some (.text s) => out.dropLast ++ [.text (s ++ t)]
    | _ => out ++ [.text t]
  | .variable v => out ++ [.variable v]

section Merging

theorem simplify_cons (s : Segment) (r : Reading) :
    simplify (s :: r) = consSegment s (simplify r) := rfl

theorem simplify_append_eq_foldr (x y : Reading) :
    simplify (x ++ y) = x.foldr consSegment (simplify y) := List.foldr_append

theorem consSegment_text_append (s t : Text) (r : Reading) :
    consSegment (.text (s ++ t)) r = consSegment (.text s) (consSegment (.text t) r) := by
  cases s with
  | nil => rfl
  | cons c s =>
      cases t with
      | nil => rw [List.append_nil]; rfl
      | cons d t =>
          rcases r with _ | ⟨literal | v, r⟩
          · rfl
          · exact congrArg (fun joined => .text joined :: r) (List.append_assoc _ _ _)
          · rfl

theorem simplify_consSegment_append (s : Segment) (x y : Reading) :
    simplify (consSegment s x ++ y) = simplify (s :: x ++ y) := by
  fun_cases consSegment s x with
  | case1 => rfl
  | case2 s t x => exact consSegment_text_append s t _
  | case3 => rfl

theorem simplify_simplify_append (x y : Reading) :
    simplify (simplify x ++ y) = simplify (x ++ y) := by
  induction x with
  | nil => rfl
  | cons s x ih =>
      calc
        simplify (simplify (s :: x) ++ y) = consSegment s (simplify (simplify x ++ y)) :=
          simplify_consSegment_append s (simplify x) y
        _ = simplify (s :: x ++ y) := by rw [ih, List.cons_append, simplify_cons]

theorem simplify_simplify (x : Reading) : simplify (simplify x) = simplify x := by
  have step := simplify_simplify_append x []
  rwa [List.append_nil, List.append_nil] at step

theorem simplify_append_simplify (x y : Reading) :
    simplify (x ++ simplify y) = simplify (x ++ y) := by
  rw [simplify_append_eq_foldr, simplify_append_eq_foldr, simplify_simplify]

end Merging

section Shape

variable {r front : Reading}

theorem literalsApart_cons_text_iff {s : Text} : LiteralsApart (.text s :: r) ↔
    (∀ t r', r ≠ .text t :: r') ∧ LiteralsApart r := by
  constructor
  · intro apart
    constructor
    · intro t r' next
      apply apart s t
      exact ⟨[], r', by rw [next]; rfl⟩
    · intro t u adjacent
      apply apart t u
      exact List.infix_cons adjacent
  · intro single t u adjacent
    rcases List.infix_cons_iff.mp adjacent with first | later
    · obtain ⟨rest, equal⟩ := first
      injection equal with _ tail
      exact single.1 u rest tail.symm
    · exact single.2 t u later

theorem literalsApart_cons_variable_iff {v : Variable} :
    LiteralsApart (.variable v :: r) ↔ LiteralsApart r := by
  simp [LiteralsApart, List.infix_cons_iff, List.prefix_cons_iff]

theorem literalsApart_concat_iff {s : Segment} : LiteralsApart (front ++ [s]) ↔
    LiteralsApart front ∧ ∀ t u, s = .text u → front.getLast? ≠ some (.text t) := by
  constructor
  · intro apart
    constructor
    · intro t u adjacent
      apply apart t u
      exact adjacent.trans (List.prefix_append front [s]).isInfix
    · intro t u literal last
      obtain ⟨before, same⟩ := List.getLast?_eq_some_iff.mp last
      apply apart t u
      exact ⟨before, [], by simp [same, literal]⟩
  · intro single t u adjacent
    rcases List.infix_concat_iff.mp adjacent with last | earlier
    · obtain ⟨before, equal⟩ := last
      have ends : (before ++ [.text t]) ++ [.text u] = front ++ [s] := by simpa using equal
      obtain ⟨same, literal⟩ := List.append_inj' ends rfl
      apply single.2 t u (List.singleton_inj.mp literal).symm
      rw [← same, List.getLast?_concat]
    · exact single.1 t u earlier

theorem isSimple_iff : IsSimple r ↔ .text [] ∉ r ∧ LiteralsApart r := by
  induction r with
  | nil => simp [IsSimple, LiteralsApart]
  | cons s r ih =>
      rcases s with s | v
      · rw [IsSimple, ih, literalsApart_cons_text_iff, List.mem_cons, Segment.text.injEq]
        tauto
      · rw [IsSimple, ih, literalsApart_cons_variable_iff, List.mem_cons]
        simp

theorem isSimple_concat_iff {s : Segment} : IsSimple (front ++ [s]) ↔
    IsSimple front ∧ s ≠ .text [] ∧ ∀ t u, s = .text u → front.getLast? ≠ some (.text t) := by
  rw [isSimple_iff, isSimple_iff, literalsApart_concat_iff, List.mem_append, List.mem_singleton]
  tauto

theorem consSegment_eq_cons {s : Segment} (simple : IsSimple (s :: r)) :
    consSegment s r = s :: r := by
  fun_cases consSegment s r with
  | case1 => exact absurd rfl simple.1
  | case2 s t r => exact absurd rfl (simple.2.1 t r)
  | case3 => rfl

theorem IsSimple.tail {s : Segment} (simple : IsSimple (s :: r)) : IsSimple r := by
  rcases s with s | v
  · exact simple.2.2
  · exact simple

theorem simplify_eq_self (simple : IsSimple r) : simplify r = r := by
  induction r with
  | nil => rfl
  | cons s r ih => rw [simplify_cons, ih simple.tail, consSegment_eq_cons simple]

end Shape

section Observed

variable {gap : Text} {behind : List Text}

theorem gaps_cons_text {r : Reading} (first : gaps r = gap :: behind) (s : Text) :
    gaps (.text s :: r) = (s ++ gap) :: behind := by
  rw [gaps, first, List.modifyHead_cons]

theorem exists_gaps (r : Reading) : ∃ gap behind, gaps r = gap :: behind := by
  induction r with
  | nil => exact ⟨[], [], rfl⟩
  | cons s r ih =>
      rcases s with s | v
      · obtain ⟨gap, behind, first⟩ := ih
        exact ⟨s ++ gap, behind, gaps_cons_text first s⟩
      · exact ⟨[], gaps r, rfl⟩

theorem slots_consSegment (s : Segment) (r : Reading) :
    slots (consSegment s r) = slots (s :: r) := by
  fun_cases consSegment s r with
  | case1 => rfl
  | case2 => rfl
  | case3 => rfl

theorem gaps_consSegment (s : Segment) (r : Reading) : gaps (consSegment s r) = gaps (s :: r) := by
  fun_cases consSegment s r with
  | case1 =>
      obtain ⟨gap, behind, first⟩ := exists_gaps r
      rw [gaps_cons_text first, List.nil_append, first]
  | case2 s t r =>
      obtain ⟨gap, behind, first⟩ := exists_gaps r
      rw [gaps_cons_text first, gaps_cons_text (gaps_cons_text first t), List.append_assoc]
  | case3 => rfl

theorem slots_simplify (r : Reading) : slots (simplify r) = slots r := by
  induction r with
  | nil => rfl
  | cons s r ih =>
      rw [simplify_cons, slots_consSegment]
      rcases s with s | v
      · exact ih
      · exact congrArg (v :: ·) ih

theorem gaps_simplify (r : Reading) : gaps (simplify r) = gaps r := by
  induction r with
  | nil => rfl
  | cons s r ih =>
      rw [simplify_cons, gaps_consSegment]
      rcases s with s | v
      · exact congrArg (List.modifyHead (s ++ ·)) ih
      · exact congrArg ([] :: ·) ih

end Observed

section Woven

theorem filter_woven (gap : Text) (behind : List Text) (vs : List Variable) :
    (woven (gap :: behind) vs).filter (· ≠ .text []) =
      consSegment (.text gap) ((woven ([] :: behind) vs).filter (· ≠ .text [])) := by
  cases vs with
  | nil => cases gap <;> simp [woven, consSegment]
  | cons v vs => cases gap <;> simp [woven, consSegment]

/-- The simple form is made of the gaps and the variables in turn, without the empty gaps. -/
theorem simplify_eq_filter_woven (r : Reading) :
    simplify r = (woven (gaps r) (slots r)).filter (· ≠ .text []) := by
  induction r with
  | nil => rfl
  | cons s r ih =>
      rcases s with s | v
      · -- The literal goes into the gap before the first variable.
        obtain ⟨gap, behind, first⟩ := exists_gaps r
        calc
          simplify (.text s :: r) = consSegment (.text s) (simplify r) := simplify_cons _ r
          _ = consSegment (.text s)
              ((woven (gap :: behind) (slots r)).filter (· ≠ .text [])) := by rw [ih, first]
          _ = (woven ((s ++ gap) :: behind) (slots r)).filter (· ≠ .text []) := by
            rw [filter_woven, ← consSegment_text_append, ← filter_woven]
          _ = (woven (gaps (.text s :: r)) (slots r)).filter (· ≠ .text []) := by
            rw [gaps_cons_text first]
      · rw [simplify_cons, ih]
        simp [consSegment, gaps, slots, woven]

theorem simplify_eq_simplify_iff {x y : Reading} :
    simplify x = simplify y ↔ slots x = slots y ∧ gaps x = gaps y := by
  constructor
  · intro same
    rw [← slots_simplify x, ← gaps_simplify x, same, slots_simplify, gaps_simplify]
    exact ⟨rfl, rfl⟩
  · rintro ⟨sameSlots, sameGaps⟩
    rw [simplify_eq_filter_woven, sameSlots, sameGaps, ← simplify_eq_filter_woven]

end Woven

section Run

variable {out : Reading}

theorem joinSegment_isSimple (simple : IsSimple out) (s : Segment) :
    IsSimple (joinSegment out s) := by
  fun_cases joinSegment out s with
  | case1 => exact simple
  | case2 t nonempty s last =>
      obtain ⟨before, rfl⟩ := List.getLast?_eq_some_iff.mp last
      obtain ⟨simple, visible, single⟩ := isSimple_concat_iff.mp simple
      rw [List.dropLast_concat]
      refine isSimple_concat_iff.mpr ⟨simple, fun empty => ?_, fun t' _ _ => single t' s rfl⟩
      exact nonempty (List.append_eq_nil_iff.mp (Segment.text.inj empty)).2
  | case3 t nonempty notLiteral =>
      have visible : Segment.text t ≠ .text [] := fun empty => nonempty (Segment.text.inj empty)
      exact isSimple_concat_iff.mpr ⟨simple, visible, fun s _ _ => notLiteral s⟩
  | case4 v => exact isSimple_concat_iff.mpr ⟨simple, nofun, nofun⟩

theorem simplify_joinSegment (out : Reading) (s : Segment) :
    simplify (joinSegment out s) = simplify (out ++ [s]) := by
  fun_cases joinSegment out s with
  | case1 => exact (simplify_append_eq_foldr out [.text []]).symm
  | case2 t nonempty s last =>
      obtain ⟨before, rfl⟩ := List.getLast?_eq_some_iff.mp last
      have joined : simplify [.text (s ++ t)] = simplify [.text s, .text t] :=
        consSegment_text_append s t []
      rw [List.dropLast_concat, List.append_assoc, simplify_append_eq_foldr, joined,
        ← simplify_append_eq_foldr]
      rfl
  | case3 => rfl
  | case4 => rfl

/-- What a merge from left to right has written is simple at any time and stands for what it has
read. -/
theorem foldl_joinSegment_isSimple (r : Reading) :
    IsSimple (r.foldl joinSegment []) ∧ simplify (r.foldl joinSegment []) = simplify r := by
  -- From the end, since the merge reads the last segment last.
  induction r using List.reverseRecOn with
  | nil => exact ⟨trivial, rfl⟩
  | append_singleton r s ih =>
      obtain ⟨simple, same⟩ := ih
      rw [List.foldl_concat]
      refine ⟨joinSegment_isSimple simple s, ?_⟩
      calc
        simplify (joinSegment (r.foldl joinSegment []) s)
            = simplify (r.foldl joinSegment [] ++ [s]) := simplify_joinSegment _ s
        _ = simplify (simplify (r.foldl joinSegment []) ++ [s]) :=
          (simplify_simplify_append _ [s]).symm
        _ = simplify (r ++ [s]) := by rw [same, simplify_simplify_append]

theorem foldl_joinSegment (r : Reading) : r.foldl joinSegment [] = simplify r := by
  obtain ⟨simple, same⟩ := foldl_joinSegment_isSimple r
  rw [← same, simplify_eq_self simple]

end Run

theorem wordScore_simplify (r : Reading) : wordScore (simplify r) = wordScore r := by
  rw [← UInt32.toNat_inj, toNat_wordScore, toNat_wordScore, score_simplify]

end Reading

namespace Combination

theorem ofSegments_simplify (r : Reading) : ofSegments r.simplify = ofSegments r := by
  rw [ofSegments, ofSegments, Reading.simplify_simplify]

theorem map_ofSegments_expand (p : Pattern) :
    (expand p).map (fun c => ofSegments c.segments) = expand p := by
  have restored : ∀ c ∈ expand p, ofSegments c.segments = c := by
    intro c member
    obtain ⟨⟨r, _, rfl⟩, _⟩ := mem_expand_iff.mp member
    exact ofSegments_simplify r
  rw [List.map_congr_left restored, List.map_id']

end Combination

/-- Two readings have one simple form where they have the same variables and the same literal text
before, between and behind them. The form has no empty literals and no neighbouring ones, joining
respects it, a merge from left to right comes to it, and it keeps the score, as a number and in
words. So a combination is what its segments make. -/
theorem Reading.simplify_canonical (x y : Reading) :
    (simplify x = simplify y ↔ slots x = slots y ∧ gaps x = gaps y) ∧
      .text [] ∉ simplify x ∧ LiteralsApart (simplify x) ∧
      simplify (x ++ y) = simplify (simplify x ++ simplify y) ∧
      simplify (simplify x) = simplify x ∧
      x.foldl joinSegment [] = simplify x ∧
      score (simplify x) = score x ∧
      wordScore (simplify x) = wordScore x ∧ (wordScore x).toNat = score x % 2 ^ 32 ∧
      Combination.ofSegments (Combination.ofSegments x).segments = Combination.ofSegments x ∧
      ∀ p, (expand p).map (fun c => Combination.ofSegments c.segments) = expand p := by
  obtain ⟨full, apart⟩ := isSimple_iff.mp (simplify_isSimple x)
  refine ⟨simplify_eq_simplify_iff, full, apart, ?_, simplify_simplify x, foldl_joinSegment x,
    score_simplify x, wordScore_simplify x, toNat_wordScore x, Combination.ofSegments_simplify x,
    Combination.map_ofSegments_expand⟩
  rw [simplify_simplify_append, simplify_append_simplify]

example (v w : Variable) :
    Reading.simplify [.text ['a'], .text [], .text ['b'], .variable v, .text [], .variable w] =
      [.text ['a', 'b'], .variable v, .variable w] := rfl

end NoteTemplate
