import NoteTemplate.Proofs.Expansion.Variables
import Mathlib.Data.List.Perm.Basic

namespace NoteTemplate

mutual

inductive Pattern.Reads : List Token → Reading → Prop
  | nil : Pattern.Reads [] []
  | cons {t : Token} {p : List Token} {r r' : Reading} (first : Token.Reads t r)
      (rest : Pattern.Reads p r') : Pattern.Reads (t :: p) (r ++ r')

inductive Token.Reads : Token → Reading → Prop
  | text (literal : Text) : Token.Reads (.text literal) [.text literal]
  | variable (v : Variable) : Token.Reads (.variable v) [.variable v]
  | absent (body : List Token) : Token.Reads (.optional body) []
  | present {body : List Token} {r : Reading} (inside : Pattern.Reads body r) :
      Token.Reads (.optional body) r
  | branch {branches : List (List Token)} {p : List Token} {r : Reading} (member : p ∈ branches)
      (inside : Pattern.Reads p r) : Token.Reads (.variational branches) r
  | ordered {branches : List (List Token)} {rs order : List Reading}
      (each : Pattern.ReadEach branches rs) (rearranged : rs.Perm order) :
      Token.Reads (.anyOrder branches) order.flatten

inductive Pattern.ReadEach : List (List Token) → List Reading → Prop
  | nil : Pattern.ReadEach [] []
  | cons {p : List Token} {ps : List (List Token)} {r : Reading} {rs : List Reading}
      (first : Pattern.Reads p r) (rest : Pattern.ReadEach ps rs) :
      Pattern.ReadEach (p :: ps) (r :: rs)

end

section Orders

variable {α : Type}

theorem mem_selections_append (front : List α) (x : α) (back : List α) :
    (x, front ++ back) ∈ selections (front ++ x :: back) := by
  induction front with
  | nil => simp [selections]
  | cons y front ih =>
      simp only [List.cons_append, selections, List.mem_cons, List.mem_map]
      exact .inr ⟨_, ih, rfl⟩

theorem perm_of_mem_arrangements {xs ys : List α} {n : Nat} (length : xs.length = n)
    (member : ys ∈ arrangements n xs) : xs.Perm ys := by
  induction n generalizing xs ys with
  | zero =>
      have empty := List.length_eq_zero_iff.mp length
      have unchanged := List.mem_singleton.mp member
      rw [empty, unchanged]
  | succ n ih =>
      obtain ⟨⟨y, rest⟩, selected, inner⟩ := List.mem_flatMap.mp member
      obtain ⟨order, arranged, rfl⟩ := List.mem_map.mp inner
      have taken := perm_of_mem_selections selected
      have left : rest.length = n := by
        have total := taken.length_eq
        simp only [List.length_cons] at total
        omega
      exact taken.trans ((ih left arranged).cons y)

theorem mem_arrangements_of_perm {xs ys : List α} {n : Nat} (length : xs.length = n)
    (rearranged : xs.Perm ys) : ys ∈ arrangements n xs := by
  induction n generalizing xs ys with
  | zero =>
      have empty := List.length_eq_zero_iff.mp length
      subst empty
      have unchanged := rearranged.nil_eq
      simp [arrangements, ← unchanged]
  | succ n ih =>
      cases ys with
      | nil =>
          have total := rearranged.length_eq
          simp [length] at total
      | cons y rest =>
          -- The order starts with some element of the list and goes on with the others.
          have inside : y ∈ xs := rearranged.symm.subset List.mem_cons_self
          obtain ⟨front, back, rfl⟩ := List.append_of_mem inside
          have others : (front ++ back).Perm rest :=
            (List.perm_middle.symm.trans rearranged).cons_inv
          have left : (front ++ back).length = n := by
            simp only [List.length_append, List.length_cons] at length ⊢
            omega
          apply List.mem_flatMap.mpr
          exact ⟨_, mem_selections_append front y back, List.mem_map_of_mem (ih left others)⟩

theorem mem_arrangements_iff {xs ys : List α} :
    ys ∈ arrangements xs.length xs ↔ xs.Perm ys :=
  ⟨perm_of_mem_arrangements rfl, mem_arrangements_of_perm rfl⟩

end Orders

mutual

theorem Pattern.mem_readings_iff : ∀ (p : List Token) {r : Reading},
    r ∈ Pattern.readings p ↔ Pattern.Reads p r
  | [], r => by
      rw [Pattern.readings, List.mem_singleton]
      constructor
      · rintro rfl
        exact .nil
      · intro reads
        cases reads
        rfl
  | t :: p, r => by
      rw [Pattern.readings, mem_cross]
      constructor
      · rintro ⟨left, first, right, rest, rfl⟩
        exact .cons ((Token.mem_readings_iff t).mp first) ((Pattern.mem_readings_iff p).mp rest)
      · intro reads
        cases reads with
        | cons first rest =>
            have first := (Token.mem_readings_iff t).mpr first
            have rest := (Pattern.mem_readings_iff p).mpr rest
            exact ⟨_, first, _, rest, rfl⟩

theorem Token.mem_readings_iff : ∀ (t : Token) {r : Reading},
    r ∈ Token.readings t ↔ Token.Reads t r
  | .text literal, r => by
      rw [Token.readings, List.mem_singleton]
      constructor
      · rintro rfl
        exact .text literal
      · intro reads
        cases reads
        rfl
  | .variable v, r => by
      rw [Token.readings, List.mem_singleton]
      constructor
      · rintro rfl
        exact .variable v
      · intro reads
        cases reads
        rfl
  | .optional body, r => by
      rw [Token.readings, List.mem_cons, Pattern.mem_readings_iff body]
      constructor
      · rintro (rfl | inside)
        · exact .absent body
        · exact .present inside
      · intro reads
        cases reads with
        | absent => exact .inl rfl
        | present inside => exact .inr inside
  | .variational branches, r => by
      rw [Token.readings, Pattern.mem_branchReadings_iff branches]
      constructor
      · rintro ⟨p, member, inside⟩
        exact .branch member inside
      · intro reads
        cases reads with
        | branch member inside => exact ⟨_, member, inside⟩
  | .anyOrder branches, r => by
      simp only [Token.readings, List.mem_flatMap, List.mem_map, mem_arrangements_iff,
        Pattern.mem_tuples_branchReadings_iff branches]
      constructor
      · rintro ⟨tuple, each, order, rearranged, rfl⟩
        exact .ordered each rearranged
      · intro reads
        cases reads with
        | ordered each rearranged => exact ⟨_, each, _, rearranged, rfl⟩

theorem Pattern.mem_branchReadings_iff : ∀ (ps : List (List Token)) {r : Reading},
    r ∈ (Pattern.branchReadings ps).flatten ↔ ∃ p ∈ ps, Pattern.Reads p r
  | [], r => by simp [Pattern.branchReadings]
  | p :: ps, r => by
      rw [Pattern.branchReadings, List.flatten_cons, List.mem_append,
        Pattern.mem_readings_iff p, Pattern.mem_branchReadings_iff ps]
      simp

theorem Pattern.mem_tuples_branchReadings_iff : ∀ (ps : List (List Token)) {rs : List Reading},
    rs ∈ tuples (Pattern.branchReadings ps) ↔ Pattern.ReadEach ps rs
  | [], rs => by
      rw [Pattern.branchReadings, tuples, List.mem_singleton]
      constructor
      · rintro rfl
        exact .nil
      · intro each
        cases each
        rfl
  | p :: ps, rs => by
      simp only [Pattern.branchReadings, tuples, List.mem_flatMap, List.mem_map]
      constructor
      · rintro ⟨r, first, rest, chosen, rfl⟩
        have first := (Pattern.mem_readings_iff p).mp first
        exact .cons first ((Pattern.mem_tuples_branchReadings_iff ps).mp chosen)
      · intro each
        cases each with
        | cons first rest =>
            have first := (Pattern.mem_readings_iff p).mpr first
            have rest := (Pattern.mem_tuples_branchReadings_iff ps).mpr rest
            exact ⟨_, first, _, rest, rfl⟩

end

theorem Pattern.readEach_iff {ps : List (List Token)} {rs : List Reading} :
    Pattern.ReadEach ps rs ↔ List.Forall₂ Pattern.Reads ps rs := by
  constructor
  · intro each
    induction ps generalizing rs with
    | nil =>
        cases each
        exact .nil
    | cons p ps ih =>
        cases each with
        | cons first rest => exact .cons first (ih rest)
  · intro each
    induction each with
    | nil => exact .nil
    | cons first _ ih => exact .cons first ih

def Reading.VariablesApart (r : Reading) : Prop :=
  ∀ v w : Variable, ¬ [.variable v, .variable w] <:+: r

theorem Reading.hasAdjacentVariables_eq_false_iff {r : Reading} :
    r.hasAdjacentVariables = false ↔ r.VariablesApart := by
  fun_induction hasAdjacentVariables r with
  | case1 v w r =>
      simp only [Bool.true_eq_false, false_iff]
      intro apart
      exact apart v w ⟨[], r, rfl⟩
  | case2 s r single ih =>
      rw [ih]
      constructor
      · intro apart v w adjacent
        rcases List.infix_cons_iff.mp adjacent with first | later
        · obtain ⟨rest, equal⟩ := first
          injection equal with head tail
          exact single v w rest head.symm tail.symm
        · exact apart v w later
      · intro apart v w adjacent
        exact apart v w (List.infix_cons adjacent)
  | case3 => simp [VariablesApart]

/-- The combinations of a pattern consist of its readings, simplified, as far as no two variables
meet in them. -/
theorem mem_map_segments_expand_iff (p : Pattern) (segments : Reading) :
    segments ∈ (expand p).map Combination.segments ↔
      ∃ r, Pattern.Reads p r ∧ r.simplify = segments ∧ segments.VariablesApart := by
  rw [List.mem_map]
  constructor
  · rintro ⟨c, member, rfl⟩
    obtain ⟨⟨r, reading, rfl⟩, single⟩ := mem_expand_iff.mp member
    have reads := (Pattern.mem_readings_iff p).mp reading
    exact ⟨r, reads, rfl, Reading.hasAdjacentVariables_eq_false_iff.mp single⟩
  · rintro ⟨r, reads, rfl, apart⟩
    have reading := (Pattern.mem_readings_iff p).mpr reads
    have single := Reading.hasAdjacentVariables_eq_false_iff.mpr apart
    exact ⟨.ofSegments r, mem_expand_iff.mpr ⟨⟨r, reading, rfl⟩, single⟩, rfl⟩

end NoteTemplate
