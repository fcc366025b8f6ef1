import NoteTemplate.Expansion.Readings
import Mathlib.Data.List.Forall2

namespace NoteTemplate

theorem mem_expand_iff {p : Pattern} {c : Combination} :
    c ∈ expand p ↔ (∃ r ∈ Pattern.readings p, Combination.ofSegments r = c) ∧
      c.hasAdjacentVariables = false := by
  rw [expand, distinct_eq_eraseDups, List.mem_eraseDups, List.mem_filter, List.mem_mergeSort,
    List.mem_map, Bool.not_eq_true']

namespace Reading

def IsSimple : Reading → Prop
  | [] => True
  | .text s :: r => s ≠ [] ∧ (∀ t r', r ≠ .text t :: r') ∧ IsSimple r
  | .variable _ :: r => IsSimple r

theorem consSegment_isSimple (s : Segment) {r : Reading} (simple : IsSimple r) :
    IsSimple (consSegment s r) := by
  fun_cases consSegment s r with
  | case1 => exact simple
  | case2 s t r nonempty =>
      refine ⟨fun empty => nonempty ?_, simple.2⟩
      rw [(List.append_eq_nil_iff.mp empty).1]
  | case3 s r nonempty apart =>
      rcases s with s | v
      · exact ⟨fun empty => nonempty (by rw [empty]), fun t r' => apart s t r' rfl, simple⟩
      · exact simple

theorem simplify_isSimple (r : Reading) : IsSimple (simplify r) := by
  induction r with
  | nil => trivial
  | cons s r ih => exact consSegment_isSimple s ih

theorem hasAdjacentVariables_tail {s : Segment} {r : Reading}
    (apart : hasAdjacentVariables (s :: r) = false) : hasAdjacentVariables r = false := by
  rcases s with literal | v
  · exact apart
  · rcases r with _ | ⟨_ | _, _⟩
    · rfl
    · exact apart
    · cases apart

theorem exists_consSegment_text {s : Text} (nonempty : s ≠ []) (r : Reading) :
    ∃ literal rest, consSegment (.text s) r = .text literal :: rest ∧
      hasAdjacentVariables rest = hasAdjacentVariables r := by
  cases s with
  | nil => exact absurd rfl nonempty
  | cons c s =>
      rcases r with _ | ⟨t | v, r⟩
      · exact ⟨_, _, rfl, rfl⟩
      · exact ⟨_, _, rfl, rfl⟩
      · exact ⟨_, _, rfl, rfl⟩

theorem variable_mem_consSegment (v : Variable) (s : Segment) (r : Reading) :
    .variable v ∈ consSegment s r ↔ .variable v ∈ s :: r := by
  fun_cases consSegment s r <;> simp

theorem variable_mem_simplify (v : Variable) (r : Reading) :
    .variable v ∈ simplify r ↔ .variable v ∈ r := by
  induction r with
  | nil => rfl
  | cons s r ih =>
      rw [simplify, List.foldr_cons, variable_mem_consSegment, List.mem_cons, List.mem_cons]
      exact or_congr_right ih

end Reading

theorem isSimple_of_mem_expand {p : Pattern} {c : Combination} (member : c ∈ expand p) :
    c.segments.IsSimple := by
  obtain ⟨⟨r, _, rfl⟩, _⟩ := mem_expand_iff.mp member
  exact Reading.simplify_isSimple r

section Choices

variable {α : Type}

theorem mem_cross {left right : List (List α)} {xs : List α} :
    xs ∈ cross left right ↔ ∃ l ∈ left, ∃ r ∈ right, l ++ r = xs := by
  simp [cross]

theorem mem_tuples {xss : List (List α)} {xs : List α} :
    xs ∈ tuples xss ↔ List.Forall₂ (· ∈ ·) xs xss := by
  induction xss generalizing xs with
  | nil => simp [tuples]
  | cons ys xss ih =>
      simp only [tuples, List.mem_flatMap, List.mem_map, ih, List.forall₂_cons_right_iff]
      constructor
      · rintro ⟨y, member, rest, chosen, rfl⟩
        exact ⟨y, rest, member, chosen, rfl⟩
      · rintro ⟨y, rest, member, chosen, rfl⟩
        exact ⟨y, member, rest, chosen, rfl⟩

theorem exists_mem_of_mem_tuples {xss : List (List α)} {xs : List α} {x : α}
    (tuple : xs ∈ tuples xss) (inside : x ∈ xs) : ∃ ys ∈ xss, x ∈ ys := by
  have chosen := mem_tuples.mp tuple
  induction chosen with
  | nil => cases inside
  | cons member _ ih =>
      rcases List.mem_cons.mp inside with rfl | inside
      · exact ⟨_, List.mem_cons_self, member⟩
      · obtain ⟨ys, later, member⟩ := ih (mem_tuples.mpr ‹_›) inside
        exact ⟨ys, List.mem_cons_of_mem _ later, member⟩

theorem perm_of_mem_selections {xs ys : List α} {y : α} (selected : (y, ys) ∈ selections xs) :
    xs.Perm (y :: ys) := by
  induction xs generalizing y ys with
  | nil => cases selected
  | cons x xs ih =>
      rcases List.mem_cons.mp selected with head | tail
      · cases head
        exact List.Perm.refl _
      · obtain ⟨⟨z, zs⟩, inner, equal⟩ := List.mem_map.mp tail
        cases equal
        exact ((ih inner).cons x).trans (List.Perm.swap _ x _)

theorem subset_of_mem_arrangements {n : Nat} {xs ys : List α} (member : ys ∈ arrangements n xs) :
    ys ⊆ xs := by
  induction n generalizing xs ys with
  | zero =>
      obtain rfl := List.mem_singleton.mp member
      exact List.nil_subset xs
  | succ n ih =>
      obtain ⟨⟨z, zs⟩, selected, inner⟩ := List.mem_flatMap.mp member
      obtain ⟨rest, arranged, rfl⟩ := List.mem_map.mp inner
      have all := (perm_of_mem_selections selected).symm.subset
      refine List.cons_subset.mpr ⟨all (by simp), ?_⟩
      exact fun y inside => all (List.mem_cons_of_mem z (ih arranged inside))

end Choices

theorem Pattern.mem_branchVariables_iff {ps : List (List Token)} {v : Variable} :
    v ∈ Pattern.branchVariables ps ↔ ∃ p ∈ ps, v ∈ Pattern.variables p := by
  induction ps with
  | nil => simp [Pattern.branchVariables]
  | cons p ps ih => simp [Pattern.branchVariables, ih]

mutual

theorem Pattern.variable_mem_of_reading : ∀ (p : List Token) {r : Reading} {v : Variable},
    r ∈ Pattern.readings p → .variable v ∈ r → v ∈ Pattern.variables p
  | [], r, v, reading, inside => by
      obtain rfl := List.mem_singleton.mp reading
      cases inside
  | t :: p, r, v, reading, inside => by
      obtain ⟨left, first, right, second, rfl⟩ := mem_cross.mp reading
      rw [Pattern.variables, List.mem_append]
      rcases List.mem_append.mp inside with inside | inside
      · exact .inl (Token.variable_mem_of_reading t first inside)
      · exact .inr (Pattern.variable_mem_of_reading p second inside)

theorem Token.variable_mem_of_reading : ∀ (t : Token) {r : Reading} {v : Variable},
    r ∈ Token.readings t → .variable v ∈ r → v ∈ Token.variables t
  | .text literal, r, v, reading, inside => by
      obtain rfl := List.mem_singleton.mp reading
      simp at inside
  | .variable w, r, v, reading, inside => by
      obtain rfl := List.mem_singleton.mp reading
      obtain rfl : v = w := by simpa using inside
      exact List.mem_cons_self
  | .optional body, r, v, reading, inside => by
      rcases List.mem_cons.mp reading with rfl | reading
      · cases inside
      · exact Pattern.variable_mem_of_reading body reading inside
  | .variational branches, r, v, reading, inside => by
      obtain ⟨readings, branch, reading⟩ := List.mem_flatten.mp reading
      exact Pattern.variable_mem_of_branchReading branches branch reading inside
  | .anyOrder branches, r, v, reading, inside => by
      obtain ⟨tuple, chosen, ordered⟩ := List.mem_flatMap.mp reading
      obtain ⟨order, arranged, rfl⟩ := List.mem_map.mp ordered
      obtain ⟨part, partInside, inside⟩ := List.mem_flatten.mp inside
      obtain ⟨readings, branch, partReading⟩ :=
        exists_mem_of_mem_tuples chosen (subset_of_mem_arrangements arranged partInside)
      exact Pattern.variable_mem_of_branchReading branches branch partReading inside

theorem Pattern.variable_mem_of_branchReading : ∀ (ps : List (List Token)) {rs : List Reading}
    {r : Reading} {v : Variable}, rs ∈ Pattern.branchReadings ps → r ∈ rs → .variable v ∈ r →
      v ∈ Pattern.branchVariables ps
  | [], rs, r, v, branch, reading, inside => by cases branch
  | p :: ps, rs, r, v, branch, reading, inside => by
      rw [Pattern.branchVariables, List.mem_append]
      rcases List.mem_cons.mp branch with rfl | branch
      · exact .inl (Pattern.variable_mem_of_reading p reading inside)
      · exact .inr (Pattern.variable_mem_of_branchReading ps branch reading inside)

end

end NoteTemplate
