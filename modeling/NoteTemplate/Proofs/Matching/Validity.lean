import NoteTemplate.Matching.Builtin
import NoteTemplate.Proofs.Matching.Depth
import NoteTemplate.Proofs.Matching.Search

/-!
Registries whose matchers all look for the literal behind a variable, and what a validated pattern
means for them: no proposal for any of its variables fails, however deep patterns are nested.
-/
namespace NoteTemplate

mutual

theorem Pattern.nestedVariables_subset : ∀ (p : List Token) {v : Variable},
    v ∈ Pattern.variables p → v.nestedVariables ⊆ Pattern.variables p
  | [], v, member => by cases member
  | t :: p, v, member => by
      rw [Pattern.variables]
      rcases List.mem_append.mp member with member | member
      · exact List.subset_append_of_subset_left _ (Token.nestedVariables_subset t member)
      · exact List.subset_append_of_subset_right _ (Pattern.nestedVariables_subset p member)

theorem Token.nestedVariables_subset : ∀ (t : Token) {v : Variable},
    v ∈ Token.variables t → v.nestedVariables ⊆ Token.variables t
  | .text literal, v, member => by cases member
  | .variable w, v, member => by
      rcases List.mem_cons.mp member with rfl | member
      · exact List.subset_cons_self _ _
      · have nested := Variable.nestedVariables_subset w member
        exact List.Subset.trans nested (List.subset_cons_self _ _)
  | .optional body, v, member => Pattern.nestedVariables_subset body member
  | .variational branches, v, member => Pattern.nestedVariables_subset_branch branches member
  | .anyOrder branches, v, member => Pattern.nestedVariables_subset_branch branches member

theorem Variable.nestedVariables_subset : ∀ (w : Variable) {v : Variable},
    v ∈ w.nestedVariables → v.nestedVariables ⊆ w.nestedVariables
  | ⟨_, _, none⟩, v, member => by cases member
  | ⟨_, _, some p⟩, v, member => Pattern.nestedVariables_subset p member

theorem Pattern.nestedVariables_subset_branch : ∀ (ps : List (List Token)) {v : Variable},
    v ∈ Pattern.branchVariables ps → v.nestedVariables ⊆ Pattern.branchVariables ps
  | [], v, member => by cases member
  | p :: ps, v, member => by
      rw [Pattern.branchVariables]
      rcases List.mem_append.mp member with member | member
      · exact List.subset_append_of_subset_left _ (Pattern.nestedVariables_subset p member)
      · exact List.subset_append_of_subset_right _ (Pattern.nestedVariables_subset_branch ps member)

end

theorem Pattern.variables_subset_of_nested {p q : Pattern} {v : Variable}
    (member : v ∈ Pattern.variables p) (nested : v.pattern = some q) :
    Pattern.variables q ⊆ Pattern.variables p := by
  obtain ⟨name, inputType, _⟩ := v
  obtain rfl := nested
  exact Pattern.nestedVariables_subset p member

namespace Registry

/-- Nested patterns are matched as such, every other type is matched up to the next literal. -/
structure BoundaryServed (r : Registry) : Prop where
  nested : ∀ m, r.find? .match = some m → m = .subPattern
  plain : ∀ t m, t ≠ .match → r.find? t = some m → ∃ accepts, m = .boundary accepts

def validator (r : Registry) (v : Variable) (t : Text) : Except MatchError Bool :=
  match r.find? v.inputType, v.pattern with
  | some (.boundary accepts), _ => .ok (accepts t)
  | some .subPattern, some p => (matchCombinations t (expand p) r).map Option.isSome
  | _, _ => .ok false

theorem find?_builtin (t : InputType) : builtin.find? t = builtinMatcher? t := by
  cases t <;> rfl

theorem boundaryServed_builtin : builtin.BoundaryServed where
  nested m found := by
    rw [find?_builtin] at found
    cases found
    rfl
  plain t m plain found := by
    rw [find?_builtin] at found
    cases t <;> first | cases found; exact ⟨_, rfl⟩ | exact absurd rfl plain | cases found

theorem find?_register (r : Registry) (t u : InputType) (m : Matcher) :
    (r.register t m).find? u = if t = u then some m else r.find? u := by
  by_cases same : t = u
  · simp [find?, register, same]
  · simp [find?, register, same]

variable {r : Registry} {v : Variable}

theorem boundaryServed_register (served : r.BoundaryServed) {t : InputType} (plain : t ≠ .match)
    (accepts : Text → Bool) : (r.register t (.boundary accepts)).BoundaryServed where
  nested m found := by
    rw [find?_register, if_neg plain] at found
    exact served.nested m found
  plain u m other found := by
    rw [find?_register] at found
    split at found
    · cases found
      exact ⟨accepts, rfl⟩
    · exact served.plain u m other found

theorem validate_eq_ok_iff {p : Pattern} :
    r.validate p = .ok () ↔ ∀ v ∈ Pattern.variables p, r.faultOf? v = none := by
  rw [validate]
  cases found : (Pattern.variables p).findSome? r.faultOf? with
  | none => simpa using found
  | some e =>
      obtain ⟨v, member, fault⟩ := List.exists_of_findSome?_eq_some found
      simp only [reduceCtorEq, false_iff, not_forall]
      exact ⟨v, member, by simp [fault]⟩

theorem contains_iff {t : InputType} : r.contains t = true ↔ ∃ m, r.find? t = some m :=
  Option.isSome_iff_exists

theorem exists_validator (served : r.BoundaryServed) (sound : r.faultOf? v = none) :
    (∃ accepts, r.find? v.inputType = some (.boundary accepts)) ∨
      ∃ p, r.find? v.inputType = some .subPattern ∧ v.pattern = some p := by
  rw [faultOf?] at sound
  split at sound
  · cases sound
  · rename_i registered
    obtain ⟨m, found⟩ := contains_iff.mp (by simpa using registered)
    by_cases nested : v.inputType = .match
    · right
      obtain rfl := served.nested m (nested ▸ found)
      cases pattern : v.pattern with
      | none => simp [nested, pattern] at sound
      | some p => exact ⟨p, found, rfl⟩
    · left
      obtain ⟨accepts, rfl⟩ := served.plain _ m nested found
      exact ⟨accepts, found⟩

theorem capture_eq (served : r.BoundaryServed) (sound : r.faultOf? v = none)
    (remaining : Text) (following : List Segment) :
    r.capture remaining v following = selectByBoundary remaining following (r.validator v) := by
  rcases exists_validator served sound with ⟨accepts, found⟩ | ⟨p, found, pattern⟩
  · rw [capture_of_boundary found]
    congr 1
    funext t
    simp only [validator, found]
  · rw [capture_of_subPattern found pattern]
    congr 1
    funext t
    simp only [validator, found, pattern]

theorem capture_eq_error (served : r.BoundaryServed) {e : MatchError}
    (fault : r.faultOf? v = some e) (remaining : Text) (following : List Segment) :
    r.capture remaining v following = .error e := by
  rw [faultOf?] at fault
  split at fault
  · rename_i unregistered
    cases fault
    have missing : r.find? v.inputType = none := by simpa [contains] using unregistered
    exact capture_of_missing missing remaining following
  · rename_i registered
    split at fault
    · rename_i unnested
      cases fault
      obtain ⟨m, found⟩ := contains_iff.mp (by simpa using registered)
      obtain rfl := served.nested m (unnested.1 ▸ found)
      have pattern : v.pattern = none := Option.isNone_iff_eq_none.mp unnested.2
      unfold capture propose
      simp only [found, pattern]
    · cases fault

def Serves (r : Registry) (v : Variable) : Prop :=
  ∀ w ∈ v :: v.nestedVariables, r.faultOf? w = none

theorem serves_of_validate {p : Pattern} (valid : r.validate p = .ok ())
    (member : v ∈ Pattern.variables p) : r.Serves v := by
  intro w inside
  rcases List.mem_cons.mp inside with rfl | inside
  · exact validate_eq_ok_iff.mp valid w member
  · exact validate_eq_ok_iff.mp valid w (Pattern.nestedVariables_subset p member inside)

theorem neverFails_of_total (served : r.BoundaryServed) (sound : r.faultOf? v = none)
    (total : ∀ t, ∃ b, r.validator v t = .ok b) : NeverFails r.capture v := by
  intro remaining following
  obtain ⟨capture, selected⟩ := selectByBoundary_ok total remaining following
  refine ⟨capture, (capture_eq served sound remaining following).trans selected, ?_⟩
  rw [values_selectByBoundary selected]
  exact accepted_ok total _

/-- By induction on the nesting: a nested pattern is matched with proposals for its own
variables. -/
theorem validator_total (served : r.BoundaryServed) (serves : r.Serves v) (t : Text) :
    ∃ b, r.validator v t = .ok b := by
  induction depth : v.nesting using Nat.strong_induction_on generalizing v t with
  | _ n ih =>
      rcases exists_validator served (serves v List.mem_cons_self) with
        ⟨accepts, found⟩ | ⟨p, found, pattern⟩
      · exact ⟨accepts t, by simp only [validator, found]⟩
      · obtain ⟨name, inputType, _⟩ := v
        obtain rfl := pattern
        have nested : ∀ c ∈ expand p, ∀ w, .variable w ∈ c.segments → NeverFails r.capture w := by
          intro c member w inside
          have known := variable_mem_of_mem_expand member inside
          have servesW : r.Serves w := by
            intro u inner
            refine serves u (List.mem_cons_of_mem _ ?_)
            rcases List.mem_cons.mp inner with rfl | inner
            · exact known
            · exact Pattern.nestedVariables_subset p known inner
          have shallower : w.nesting < n := by
            rw [← depth, Variable.nesting, Nat.lt_succ_iff]
            exact Pattern.nesting_le_of_mem_variables p known
          exact neverFails_of_total served (servesW w List.mem_cons_self)
            fun t => ih _ shallower servesW t rfl
        obtain ⟨o, matched⟩ := matchReadings_ok nested t
        rw [← matchCombinations_eq] at matched
        exact ⟨o.isSome, by simp only [validator, found, matched]; rfl⟩

theorem neverFails (served : r.BoundaryServed) (serves : r.Serves v) : NeverFails r.capture v :=
  neverFails_of_total served (serves v List.mem_cons_self) (validator_total served serves)

theorem neverFails_of_mem_expand (served : r.BoundaryServed) {p : Pattern}
    (valid : r.validate p = .ok ()) {c : Combination} (member : c ∈ expand p)
    (inside : .variable v ∈ c.segments) : NeverFails r.capture v :=
  neverFails served (serves_of_validate valid (variable_mem_of_mem_expand member inside))

end Registry

end NoteTemplate
