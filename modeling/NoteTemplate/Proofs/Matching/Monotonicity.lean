import Mathlib
import NoteTemplate.Proofs.Matching.Editing

namespace NoteTemplate

/-- The second registry serves the same types, and each of its validators accepts what that of the
first one accepts. -/
structure Registry.Loosened (r r' : Registry) : Prop where
  types : ∀ t, r.contains t = r'.contains t
  accepts : ∀ t accepts accepts', r.find? t = some (.boundary accepts) →
    r'.find? t = some (.boundary accepts') → ∀ value, accepts value = true → accepts' value = true

theorem Reading.related_self (segments : Reading) : Reading.Related Eq segments segments := by
  apply List.forall₂_same.mpr
  intro segment _
  rcases segment with literal | v
  · exact .text literal
  · exact .variable rfl

namespace Registry

variable {r r' : Registry} {v : Variable} {p : Pattern}

theorem BoundaryServed.find?_eq_subPattern_iff (served : r.BoundaryServed) {t : InputType}
    {m : Matcher} (found : r.find? t = some m) : m = .subPattern ↔ t = .match := by
  constructor
  · rintro rfl
    by_contra plain
    obtain ⟨accepts, same⟩ := served.plain t _ plain found
    cases same
  · rintro rfl
    exact served.nested m found

theorem Loosened.faultOf?_eq (loosened : r.Loosened r') (v : Variable) :
    r.faultOf? v = r'.faultOf? v := by
  rw [faultOf?, faultOf?, loosened.types]

theorem Loosened.validate_eq_ok (loosened : r.Loosened r') (valid : r.validate p = .ok ()) :
    r'.validate p = .ok () := by
  rw [validate_eq_ok_iff] at valid ⊢
  intro v member
  rw [← loosened.faultOf?_eq]
  exact valid v member

theorem Loosened.validator_eq (served : r.BoundaryServed) (served' : r'.BoundaryServed)
    (loosened : r.Loosened r') (valid : r.validate p = .ok ()) (member : v ∈ Pattern.variables p)
    (nested : ∀ q, v.pattern = some q → ∀ t, r.Matches q t → r'.Matches q t) {t : Text}
    (accepted : r.validator v t = .ok true) : r'.validator v t = .ok true := by
  have valid' := loosened.validate_eq_ok valid
  have sound := validate_eq_ok_iff.mp valid v member
  have sound' := validate_eq_ok_iff.mp valid' v member
  rcases exists_validator served sound with ⟨accepts, found⟩ | ⟨q, found, pattern⟩
  · rcases exists_validator served' sound' with ⟨accepts', found'⟩ | ⟨_, found', _⟩
    · simp only [validator, found, found', Except.ok.injEq] at accepted ⊢
      exact loosened.accepts _ accepts accepts' found found' t accepted
    · have isMatch := (served'.find?_eq_subPattern_iff found').mp rfl
      cases (served.find?_eq_subPattern_iff found).mpr isMatch
  · have isMatch := (served.find?_eq_subPattern_iff found).mp rfl
    rcases exists_validator served' sound' with ⟨_, found'⟩ | ⟨_, found', _⟩
    · cases (served'.find?_eq_subPattern_iff found').mpr isMatch
    · obtain ⟨name, inputType, _⟩ := v
      obtain rfl := pattern
      have validQ := validate_nested valid member rfl
      have validQ' := validate_nested valid' member rfl
      have matched := (validator_nested_iff found validQ).mp accepted
      exact (validator_nested_iff found' validQ').mpr (nested q rfl t matched)

/-- The induction is on the nesting: a nested pattern is matched with the looser validators as well,
so it accepts no less. -/
theorem Matches.loosened (served : r.BoundaryServed) (served' : r'.BoundaryServed)
    (loosened : r.Loosened r') {s : Text} (matched : r.Matches p s) : r'.Matches p s := by
  induction depth : Pattern.nesting p using Nat.strong_induction_on generalizing p s with
  | _ n ih =>
      have valid := matched.validate_eq_ok
      obtain ⟨c, member, pieces, layout, found⟩ := matched.exists_layout served
      have wider (v w : Variable) (inside : .variable v ∈ c.segments)
          (_ : .variable w ∈ c.segments) (same : v = w) (t : Text)
          (accepted : r.validator v t = .ok true) : r'.validator w t = .ok true := by
        subst same
        have known := variable_mem_of_mem_expand member inside
        refine loosened.validator_eq served served' valid known ?_ accepted
        intro q nested t matchedQ
        have shallower : Pattern.nesting q < n :=
          depth ▸ Pattern.nesting_lt_of_mem_variables known nested
        exact ih _ shallower matchedQ rfl
      have layout' := layout.related (Reading.related_self c.segments) wider
      exact matches_of_layout served' (loosened.validate_eq_ok valid) member layout' found

end Registry

/-- With looser validators a pattern that was served is served, and it matches what it matched,
however deep patterns are nested in it. -/
theorem matches_of_loosened {r r' : Registry} (served : r.BoundaryServed)
    (served' : r'.BoundaryServed) (loosened : r.Loosened r') {p : Pattern}
    (valid : r.validate p = .ok ()) :
    r'.validate p = .ok () ∧ ∀ s, r.Matches p s → r'.Matches p s :=
  ⟨loosened.validate_eq_ok valid, fun _ matched => matched.loosened served served' loosened⟩

theorem matches_of_loosened_sum :
    let r := Registry.builtin
    let r' := Registry.builtin.register .number (.boundary fun _ => true)
    let sum : Pattern := [.variable (.plain (some "a".toList) .number), .text "+".toList,
      .variable (.plain (some "b".toList) .text)]
    let p : Pattern := [.text "=".toList, .variable (.nested (some "sum".toList) sum)]
    r.BoundaryServed ∧ r'.BoundaryServed ∧ r.Loosened r' ∧ r.validate p = .ok () ∧
      r.Matches p "=1+2+3".toList ∧ r'.Matches p "=1+2+3".toList := by
  intro r r' sum p
  have served := Registry.boundaryServed_builtin
  have served' : r'.BoundaryServed := Registry.boundaryServed_register served (by decide) _
  have loosened : r.Loosened r' := by
    constructor
    · intro t
      rw [Registry.contains, Registry.contains, Registry.find?_register]
      split
      · rename_i number
        subst number
        rfl
      · rfl
    · intro t accepts accepts' found found' value accepted
      rw [Registry.find?_register] at found'
      split at found'
      · cases found'
        rfl
      · rw [found] at found'
        cases found'
        exact accepted
  have valid : r.validate p = .ok () := by cbv
  let result : MatchResult := ⟨[⟨some "sum".toList, .match, .single "1+2+3".toList⟩],
    ⟨[.text "=".toList, .variable (.nested (some "sum".toList) sum)], 5⟩, [⟨1, 6⟩]⟩
  have matched : matchPattern "=1+2+3".toList p r = .ok (some result) := by cbv
  refine ⟨served, served', loosened, valid, ⟨result, matched⟩, ?_⟩
  exact (matches_of_loosened served served' loosened valid).2 _ ⟨result, matched⟩

end NoteTemplate
