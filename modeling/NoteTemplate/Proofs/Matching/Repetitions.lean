import NoteTemplate.Proofs.Expansion.Ranking
import NoteTemplate.Proofs.Matching.Depth

namespace NoteTemplate

def Pattern.rankedCombinations (p : Pattern) : List Combination :=
  ranked Combination.score
    (((readings p).map Combination.ofSegments).filter fun c => !c.hasAdjacentVariables)

theorem expand_eq_eraseDups (p : Pattern) : expand p = (Pattern.rankedCombinations p).eraseDups := by
  rw [expand, distinct_eq_eraseDups, Pattern.rankedCombinations, ← filter_ranked]
  rfl

theorem mem_rankedCombinations_iff {p : Pattern} {c : Combination} :
    c ∈ Pattern.rankedCombinations p ↔ c ∈ expand p := by
  rw [expand_eq_eraseDups, List.mem_eraseDups]

section Repeated

variable {propose : Proposer} {input : Text}

theorem matchReadings_append (front back : List Combination) :
    matchReadings propose input (front ++ back) =
      match matchReadings propose input front with
      | .ok none => matchReadings propose input back
      | found => found := by
  induction front with
  | nil => rfl
  | cons c front ih =>
      rw [List.cons_append, matchReadings, matchReadings]
      rcases walk propose c.segments 0 input with e | _ | captured
      · rfl
      · exact ih
      · rfl

theorem walk_eq_none_of_mem {combinations : List Combination} {c : Combination}
    (unmatched : matchReadings propose input combinations = .ok none) (member : c ∈ combinations) :
    walk propose c.segments 0 input = .ok none := by
  obtain ⟨front, back, rfl⟩ := List.append_of_mem member
  rw [matchReadings_append] at unmatched
  rcases earlier : matchReadings propose input front with e | _ | result
  · rw [earlier] at unmatched
    cases unmatched
  · rw [earlier, matchReadings] at unmatched
    rcases walked : walk propose c.segments 0 input with e | _ | captured
    · rw [walked] at unmatched
      cases unmatched
    · rfl
    · rw [walked] at unmatched
      cases unmatched
  · rw [earlier] at unmatched
    cases unmatched

theorem matchReadings_eraseDups (combinations : List Combination) :
    matchReadings propose input combinations.eraseDups =
      matchReadings propose input combinations := by
  induction combinations using List.reverseRecOn with
  | nil => rfl
  | append_singleton combinations c ih =>
      rw [eraseDups_concat, matchReadings_append]
      by_cases seen : c ∈ combinations
      · rw [if_pos seen, ih]
        rcases unmatched : matchReadings propose input combinations with e | _ | result
        · rfl
        · simp only [matchReadings, walk_eq_none_of_mem unmatched seen]
        · rfl
      · rw [if_neg seen, matchReadings_append, ih]

end Repeated

/-- Matching a pattern asks its ranked readings, no matter how often each of them comes up. -/
theorem matchCombinations_expand (input : Text) (p : Pattern) (r : Registry) :
    matchCombinations input (expand p) r =
      matchReadings r.capture input (Pattern.rankedCombinations p) := by
  rw [matchCombinations_eq, expand_eq_eraseDups, matchReadings_eraseDups]

end NoteTemplate
