import Mathlib
import NoteTemplate.Proofs.Expansion.Variables

namespace NoteTemplate

theorem InputType.weight_pos (t : InputType) : 0 < t.weight := by
  cases t <;> simp [weight]

theorem Segment.score_eq_zero_iff {s : Segment} : s.score = 0 ↔ s = .text [] := by
  rcases s with literal | v
  · rw [score, Nat.mul_eq_zero, List.length_eq_zero_iff]
    simp
  · have positive := v.inputType.weight_pos
    simp only [score, reduceCtorEq, iff_false]
    omega

namespace Reading

theorem score_cons (s : Segment) (r : Reading) : score (s :: r) = s.score + score r := rfl

theorem score_append (first second : Reading) :
    score (first ++ second) = score first + score second := by
  induction first with
  | nil => simp [score]
  | cons s first ih => rw [List.cons_append, score_cons, score_cons, ih, Nat.add_assoc]

theorem score_consSegment (segment : Segment) (r : Reading) :
    score (consSegment segment r) = segment.score + r.score := by
  fun_cases consSegment segment r with
  | case1 => simp [Segment.score]
  | case2 first second r => simp [Reading.score, Segment.score, Nat.mul_add, Nat.add_assoc]
  | case3 => rfl

theorem score_simplify (r : Reading) : score (simplify r) = score r := by
  induction r with
  | nil => rfl
  | cons s r ih =>
      calc
        score (simplify (s :: r)) = s.score + score (simplify r) := score_consSegment s _
        _ = score (s :: r) := by rw [ih, score_cons]

theorem score_pos {r : Reading} (visible : ∃ s ∈ r, s ≠ .text []) : 0 < score r := by
  obtain ⟨s, member, nonempty⟩ := visible
  obtain ⟨front, back, rfl⟩ := List.append_of_mem member
  have positive : s.score ≠ 0 := Segment.score_eq_zero_iff.not.mpr nonempty
  rw [score_append, score_cons]
  omega

end Reading

def Segment.wordScore : Segment → UInt32
  | .text literal => UInt32.ofNat literal.length * 2
  | .variable v => UInt32.ofNat v.inputType.weight

/-- The sum of the scores, which wraps around. -/
def Reading.wordScore (r : Reading) : UInt32 := (r.map Segment.wordScore).sum

theorem Segment.toNat_wordScore (s : Segment) : s.wordScore.toNat = s.score % 2 ^ 32 := by
  rcases s with literal | v
  · rw [wordScore, score, UInt32.toNat_mul, UInt32.toNat_ofNat', Nat.mod_mul_mod, Nat.mul_comm]
    rfl
  · exact UInt32.toNat_ofNat'

theorem Reading.toNat_wordScore (r : Reading) : r.wordScore.toNat = r.score % 2 ^ 32 := by
  induction r with
  | nil => rfl
  | cons s r ih =>
      have step : wordScore (s :: r) = s.wordScore + wordScore r := List.sum_cons
      rw [step, UInt32.toNat_add, ih, Segment.toNat_wordScore, score_cons]
      exact (Nat.add_mod _ _ _).symm

end NoteTemplate
