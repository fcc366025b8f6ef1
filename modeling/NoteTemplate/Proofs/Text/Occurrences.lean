import NoteTemplate.Proofs.Text.Caseless
import Mathlib.Data.List.Sort

/-!
The occurrences that a scan from left to right reports, said without the scan: they do not overlap,
and every other occurrence starts inside one of them. There is only one such choice.
-/
namespace NoteTemplate.Text

def OccursOver (needle t : Text) (span : Span) : Prop :=
  ∃ piece, slice? t span = some piece ∧ SameLetters piece needle

structure LeftmostOccurrences (needle t : Text) (found : List Nat) : Prop where
  ascending : found.Pairwise (· < ·)
  occurs : ∀ n ∈ found, ∃ stop, OccursOver needle t ⟨n, stop⟩
  /-- None starts before an earlier one ends. -/
  apart : ∀ m ∈ found, ∀ n ∈ found, m < n → ∀ stop, OccursOver needle t ⟨m, stop⟩ → stop ≤ n
  /-- Those left out start inside one of them. -/
  covered : ∀ n stop, OccursOver needle t ⟨n, stop⟩ →
    n ∈ found ∨ ∃ m ∈ found, ∃ stop', OccursOver needle t ⟨m, stop'⟩ ∧ m < n ∧ n < stop'

variable {needle t : Text} {found : List Nat}

theorem occursOver_iff {span : Span} :
    OccursOver needle t span ↔ ∃ before piece after, t = before ++ (piece ++ after) ∧
      SameLetters piece needle ∧ span.start = byteLength before ∧
      span.stop = byteLength before + byteLength piece := by
  constructor
  · rintro ⟨piece, sliced, same⟩
    obtain ⟨before, after, split, start, stop⟩ := slice?_eq_some_iff.mp sliced
    exact ⟨before, piece, after, split, same, start, stop⟩
  · rintro ⟨before, piece, after, split, same, start, stop⟩
    exact ⟨piece, slice?_eq_some_iff.mpr ⟨before, after, split, start, stop⟩, same⟩

theorem exists_occursOver_iff {n : Nat} :
    (∃ stop, OccursOver needle t ⟨n, stop⟩) ↔ OccursAt needle t n := by
  simp only [occursOver_iff]
  constructor
  · rintro ⟨stop, before, piece, after, split, same, start, _⟩
    exact ⟨before, piece ++ after, split, start, piece, after, rfl, same⟩
  · rintro ⟨before, after, split, start, piece, rest, rfl, same⟩
    exact ⟨_, before, piece, rest, split, same, start, rfl⟩

/-- An occurrence in front of a text that has not been scanned covers as many of its characters as
the needle has. -/
theorem OccursOver.stop_eq {front rest : Text} {stop : Nat}
    (occurs : OccursOver needle (front ++ rest) ⟨byteLength front, stop⟩) :
    stop = byteLength front + byteLength (rest.take needle.length) := by
  obtain ⟨before, piece, after, split, same, start, rfl⟩ := occursOver_iff.mp occurs
  have cut := splitAtByte?_byteLength_append before (piece ++ after)
  rw [← split, ← start, splitAtByte?_byteLength_append] at cut
  cases cut
  rw [← same.length_eq, List.take_left]

theorem OccursOver.start_lt_stop (nonempty : needle ≠ []) {span : Span}
    (occurs : OccursOver needle t span) : span.start < span.stop := by
  obtain ⟨before, piece, after, _, same, start, stop⟩ := occursOver_iff.mp occurs
  have covers : byteLength piece ≠ 0 := by
    rw [Ne, byteLength_eq_zero_iff]
    rintro rfl
    exact nonempty (List.length_eq_zero_iff.mp same.length_eq.symm)
  omega

theorem byteLength_lt_take {front rest : Text} {n : Nat} (longer : front.length < n)
    (more : rest ≠ []) : byteLength front < byteLength ((front ++ rest).take n) := by
  obtain ⟨c, rest, rfl⟩ := List.exists_cons_of_ne_nil more
  obtain ⟨k, rfl⟩ := Nat.exists_eq_add_of_lt longer
  have size := c.utf8Size_pos
  rw [Nat.add_assoc, List.take_length_add_append, byteLength_append, List.take_succ_cons,
    byteLength]
  omega

theorem le_of_mem_occurrencesFrom {covered offset n : Nat}
    (reported : n ∈ occurrencesFrom needle covered offset t) :
    offset + byteLength (t.take covered) ≤ n := by
  fun_induction occurrencesFrom needle covered offset t with
  | case1 => cases reported
  | case2 offset c t next k ih =>
      rw [List.take_succ_cons, byteLength, ← Nat.add_assoc]
      exact ih reported
  | case3 offset c t next here ih =>
      rcases List.mem_cons.mp reported with rfl | reported
      · exact Nat.le_refl _
      · have later := ih reported
        exact (Nat.le_add_right _ _).trans ((Nat.le_add_right _ _).trans later)
  | case4 offset c t next absent ih =>
      have later := ih reported
      exact (Nat.le_add_right _ _).trans ((Nat.le_add_right _ _).trans later)

theorem apart_occurrencesFrom (nonempty : needle ≠ []) (front rest : Text) (covered : Nat) :
    (occurrencesFrom needle covered (byteLength front) rest).Pairwise fun m n =>
      ∀ stop, OccursOver needle (front ++ rest) ⟨m, stop⟩ → stop ≤ n := by
  induction rest generalizing front covered with
  | nil => exact .nil
  | cons c rest ih =>
      have behind := ih (front ++ [c])
      rw [byteLength_append, byteLength, byteLength, Nat.add_zero, List.append_assoc,
        List.singleton_append] at behind
      cases covered with
      | succ k => exact behind k
      | zero =>
          rw [occurrencesFrom]
          split
          · refine List.pairwise_cons.mpr ⟨fun n reported stop occurs => ?_, behind _⟩
            have size : needle.length = needle.length - 1 + 1 := by
              have := List.length_pos_iff.mpr nonempty
              omega
            rw [occurs.stop_eq, size, List.take_succ_cons, byteLength, ← Nat.add_assoc]
            exact le_of_mem_occurrencesFrom reported
          · exact behind 0

theorem rel_of_lt {relation : Nat → Nat → Prop} {ns : List Nat} (ascending : ns.Pairwise (· < ·))
    (related : ns.Pairwise relation) {m n : Nat} (first : m ∈ ns) (second : n ∈ ns) (less : m < n) :
    relation m n := by
  induction ns with
  | nil => cases first
  | cons k ns ih =>
      obtain ⟨lower, ascending⟩ := List.pairwise_cons.mp ascending
      obtain ⟨head, related⟩ := List.pairwise_cons.mp related
      rcases List.mem_cons.mp first with rfl | later <;>
        rcases List.mem_cons.mp second with rfl | later'
      · exact absurd less (Nat.lt_irrefl _)
      · exact head n later'
      · exact absurd less (Nat.lt_asymm (lower m later))
      · exact ih ascending related later later'

theorem findAllCaseless_eq (nonempty : needle ≠ []) (t : Text) :
    findAllCaseless t needle = occurrencesFrom needle 0 0 t := by
  rw [findAllCaseless, if_neg (by simpa using nonempty)]

theorem pairwise_findAllCaseless (nonempty : needle ≠ []) (t : Text) :
    (findAllCaseless t needle).Pairwise fun m n =>
      ∀ stop, OccursOver needle t ⟨m, stop⟩ → stop ≤ n := by
  rw [findAllCaseless_eq nonempty]
  exact apart_occurrencesFrom nonempty [] t 0

theorem ascending_findAllCaseless (nonempty : needle ≠ []) (t : Text) :
    (findAllCaseless t needle).Pairwise (· < ·) := by
  refine (pairwise_findAllCaseless nonempty t).imp_of_mem fun {m n} reported _ apart => ?_
  obtain ⟨stop, occurs⟩ := exists_occursOver_iff.mpr (occursAt_of_mem_findAllCaseless reported)
  exact (occurs.start_lt_stop nonempty).trans_le (apart stop occurs)

theorem mem_findAllCaseless_or_inside (nonempty : needle ≠ []) {n stop : Nat}
    (occurs : OccursOver needle t ⟨n, stop⟩) :
    n ∈ findAllCaseless t needle ∨ ∃ m ∈ findAllCaseless t needle, ∃ stop',
      OccursOver needle t ⟨m, stop'⟩ ∧ m < n ∧ n < stop' := by
  obtain ⟨before, piece, after, rfl, same, start, -⟩ := occursOver_iff.mp occurs
  obtain rfl : n = byteLength before := start
  have starts : StartsCaseless (piece ++ after) needle := ⟨piece, after, rfl, same⟩
  have reported : FoundOrInside needle before (piece ++ after) 0
      (findAllCaseless (before ++ (piece ++ after)) needle) := by
    rw [findAllCaseless_eq nonempty]
    exact foundOrInside_occurrencesFrom nonempty 0 (Nat.zero_le _) starts
  rcases reported with reported | ⟨front, mid, rfl, apart, close, first, reported⟩
  · left
    rwa [Nat.zero_add] at reported
  · right
    rw [Nat.zero_add] at reported
    rw [List.append_assoc front] at reported ⊢
    obtain ⟨stop', whole⟩ := exists_occursOver_iff.mpr ⟨front, _, rfl, rfl, first⟩
    refine ⟨_, reported, stop', whole, ?_, ?_⟩
    · have := byteLength_eq_zero_iff.not.mpr apart
      rw [byteLength_append]
      omega
    · have apart' : piece ++ after ≠ [] := by
        intro empty
        rw [(List.append_eq_nil_iff.mp empty).1] at same
        exact nonempty (List.forall₂_nil_left_iff.mp same)
      have inside := byteLength_lt_take close apart'
      rw [whole.stop_eq, byteLength_append]
      omega

theorem leftmostOccurrences_findAllCaseless (nonempty : needle ≠ []) (t : Text) :
    LeftmostOccurrences needle t (findAllCaseless t needle) where
  ascending := ascending_findAllCaseless nonempty t
  occurs _ reported := exists_occursOver_iff.mpr (occursAt_of_mem_findAllCaseless reported)
  apart _ first _ second less := rel_of_lt (ascending_findAllCaseless nonempty t)
    (pairwise_findAllCaseless nonempty t) first second less
  covered _ _ occurs := mem_findAllCaseless_or_inside nonempty occurs

/-- An occurrence is passed over only for an earlier one, so two choices from left to right agree
on every place as far as they agree on the places before it. -/
theorem LeftmostOccurrences.unique {found' : List Nat}
    (first : LeftmostOccurrences needle t found) (second : LeftmostOccurrences needle t found') :
    found = found' := by
  have agree (n : Nat) {ns ns' : List Nat} (choice : LeftmostOccurrences needle t ns)
      (choice' : LeftmostOccurrences needle t ns') (inside : n ∈ ns) : n ∈ ns' := by
    induction n using Nat.strong_induction_on generalizing ns ns' with
    | _ n ih =>
        obtain ⟨stop, occurs⟩ := choice.occurs n inside
        rcases choice'.covered n stop occurs with same | ⟨m, other, stop', occurs', less, more⟩
        · exact same
        · have earlier := ih m less choice' choice other
          have ends := choice.apart m earlier n inside less stop' occurs'
          omega
  exact first.ascending.eq_of_mem_iff second.ascending
    fun n => ⟨agree n first second, agree n second first⟩

end NoteTemplate.Text
