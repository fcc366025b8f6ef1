import NoteTemplate.Matching.Search
import NoteTemplate.Proofs.Expansion.Variables
import Mathlib.Data.List.MinMax

namespace NoteTemplate

mutual

theorem Pattern.nesting_le_of_mem_variables : ∀ (p : List Token) {v : Variable},
    v ∈ Pattern.variables p → v.nesting ≤ Pattern.nesting p
  | [], v, member => by cases member
  | t :: p, v, member => by
      rw [Pattern.nesting]
      rcases List.mem_append.mp member with member | member
      · exact le_max_of_le_left (Token.nesting_le_of_mem_variables t member)
      · exact le_max_of_le_right (Pattern.nesting_le_of_mem_variables p member)

theorem Token.nesting_le_of_mem_variables : ∀ (t : Token) {v : Variable},
    v ∈ Token.variables t → v.nesting ≤ Token.nesting t
  | .text literal, v, member => by cases member
  | .variable w, v, member => by
      rcases List.mem_cons.mp member with rfl | member
      · exact le_refl _
      · exact Variable.nesting_le_of_mem_nestedVariables w member
  | .optional body, v, member => Pattern.nesting_le_of_mem_variables body member
  | .variational branches, v, member => Pattern.nesting_le_of_mem_branchVariables branches member
  | .anyOrder branches, v, member => Pattern.nesting_le_of_mem_branchVariables branches member

theorem Variable.nesting_le_of_mem_nestedVariables : ∀ (w : Variable) {v : Variable},
    v ∈ Variable.nestedVariables w → v.nesting ≤ w.nesting
  | ⟨_, _, none⟩, v, member => by cases member
  | ⟨_, _, some p⟩, v, member => Nat.le_succ_of_le (Pattern.nesting_le_of_mem_variables p member)

theorem Pattern.nesting_le_of_mem_branchVariables : ∀ (ps : List (List Token)) {v : Variable},
    v ∈ Pattern.branchVariables ps → v.nesting ≤ Pattern.branchNesting ps
  | [], v, member => by cases member
  | p :: ps, v, member => by
      rw [Pattern.branchNesting]
      rcases List.mem_append.mp member with member | member
      · exact le_max_of_le_left (Pattern.nesting_le_of_mem_variables p member)
      · exact le_max_of_le_right (Pattern.nesting_le_of_mem_branchVariables ps member)

end

theorem Pattern.nesting_lt_of_mem_variables {p q : Pattern} {v : Variable}
    (member : v ∈ Pattern.variables p) (nested : v.pattern = some q) :
    Pattern.nesting q < Pattern.nesting p := by
  have bound := Pattern.nesting_le_of_mem_variables p member
  obtain ⟨name, inputType, _⟩ := v
  obtain rfl := nested
  exact bound

theorem variable_mem_of_mem_expand {p : Pattern} {c : Combination} {v : Variable}
    (member : c ∈ expand p) (inside : .variable v ∈ c.segments) : v ∈ Pattern.variables p := by
  obtain ⟨⟨r, reading, rfl⟩, _⟩ := mem_expand_iff.mp member
  exact Pattern.variable_mem_of_reading p reading ((Reading.variable_mem_simplify v r).mp inside)

section Agreement

variable {propose propose' : Proposer}

theorem walk_congr {segments : List Segment}
    (agree : ∀ v, .variable v ∈ segments → ∀ remaining following,
      propose remaining v following = propose' remaining v following)
    (offset : Nat) (remaining : Text) :
    walk propose segments offset remaining = walk propose' segments offset remaining := by
  induction segments generalizing offset remaining with
  | nil => rfl
  | cons segment segments ih =>
      have tail := ih fun v member => agree v (List.mem_cons_of_mem _ member)
      rcases segment with literal | v
      · simp only [walk, tail]
      · simp only [walk, agree v List.mem_cons_self, tail]

theorem matchReadings_congr {combinations : List Combination}
    (agree : ∀ c ∈ combinations, ∀ v, .variable v ∈ c.segments → ∀ remaining following,
      propose remaining v following = propose' remaining v following) (input : Text) :
    matchReadings propose input combinations = matchReadings propose' input combinations := by
  induction combinations with
  | nil => rfl
  | cons c cs ih =>
      rw [matchReadings, matchReadings, walk_congr (agree c List.mem_cons_self),
        ih fun d member => agree d (List.mem_cons_of_mem _ member)]

end Agreement

theorem nesting_le_of_mem_segments {c : Combination} {v : Variable}
    (inside : .variable v ∈ c.segments) : v.nesting ≤ c.nesting :=
  List.le_max_of_le' 0 (List.mem_map.mpr ⟨_, inside, rfl⟩) (le_refl v.nesting)

namespace Registry

theorem propose_eq_of_le (r : Registry) {depth depth' : Nat} {v : Variable}
    (deep : v.nesting ≤ depth) (deep' : v.nesting ≤ depth') (remaining : Text)
    (following : List Segment) :
    r.propose depth remaining v following = r.propose depth' remaining v following := by
  induction depth generalizing depth' v remaining following with
  | zero =>
      obtain ⟨name, inputType, none | p⟩ := v
      · unfold propose
        rfl
      · simp [Variable.nesting] at deep
  | succ depth ih =>
      obtain ⟨name, inputType, none | p⟩ := v
      · unfold propose
        rfl
      · obtain ⟨depth', rfl⟩ : ∃ n, depth' = n + 1 :=
          Nat.exists_eq_succ_of_ne_zero (by rw [Variable.nesting] at deep'; omega)
        rw [Variable.nesting, Nat.add_le_add_iff_right] at deep deep'
        have nested (t : Text) : matchReadings (r.propose depth) t (expand p) =
            matchReadings (r.propose depth') t (expand p) := by
          refine matchReadings_congr (fun c member v inside remaining following => ?_) t
          have bound := Pattern.nesting_le_of_mem_variables p
            (variable_mem_of_mem_expand member inside)
          exact ih (bound.trans deep) (bound.trans deep') remaining following
        unfold propose
        simp only [nested]

/-- The proposals of the registry, whatever depth a variable has. -/
def capture (r : Registry) : Proposer := fun remaining v following =>
  r.propose v.nesting remaining v following

theorem propose_eq_capture (r : Registry) {depth : Nat} {v : Variable} (deep : v.nesting ≤ depth)
    (remaining : Text) (following : List Segment) :
    r.propose depth remaining v following = r.capture remaining v following :=
  r.propose_eq_of_le deep (le_refl _) remaining following

theorem capture_of_missing {r : Registry} {v : Variable} (missing : r.find? v.inputType = none)
    (remaining : Text) (following : List Segment) :
    r.capture remaining v following = .error (.missingMatcher v.inputType) := by
  unfold capture propose
  simp only [missing]

theorem capture_of_boundary {r : Registry} {v : Variable} {accepts : Text → Bool}
    (found : r.find? v.inputType = some (.boundary accepts)) (remaining : Text)
    (following : List Segment) :
    r.capture remaining v following =
      selectByBoundary remaining following fun t => .ok (accepts t) := by
  unfold capture propose
  simp only [found]

end Registry

theorem matchCombinations_eq (input : Text) (combinations : List Combination) (r : Registry) :
    matchCombinations input combinations r = matchReadings r.capture input combinations := by
  refine matchReadings_congr (fun c member v inside remaining following => ?_) input
  have bound : c.nesting ≤ (combinations.map Combination.nesting).foldr max 0 :=
    List.le_max_of_le' 0 (List.mem_map.mpr ⟨c, member, rfl⟩) (le_refl _)
  exact r.propose_eq_capture ((nesting_le_of_mem_segments inside).trans bound) remaining following

theorem Registry.capture_of_subPattern {r : Registry} {v : Variable} {p : Pattern}
    (found : r.find? v.inputType = some .subPattern) (nested : v.pattern = some p)
    (remaining : Text) (following : List Segment) :
    r.capture remaining v following = selectByBoundary remaining following fun t =>
      (matchCombinations t (expand p) r).map Option.isSome := by
  obtain ⟨name, inputType, pattern⟩ := v
  obtain rfl : pattern = some p := nested
  have step (t : Text) : matchReadings (r.propose (Pattern.nesting p)) t (expand p) =
      matchCombinations t (expand p) r := by
    rw [matchCombinations_eq]
    refine matchReadings_congr (fun c member v inside remaining following => ?_) t
    have bound := Pattern.nesting_le_of_mem_variables p
      (variable_mem_of_mem_expand member inside)
    exact r.propose_eq_capture bound remaining following
  unfold capture propose
  simp only [found, Variable.nesting, step]

end NoteTemplate
