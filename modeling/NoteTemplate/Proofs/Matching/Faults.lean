import Mathlib
import NoteTemplate.Proofs.Matching.Validity

namespace NoteTemplate

namespace Registry

inductive Fault (r : Registry) (v : Variable) : MatchError → Prop
  | unregistered (missing : r.find? v.inputType = none) : Fault r v (.missingMatcher v.inputType)
  | unnested {m : Matcher} (found : r.find? v.inputType = some m) (nested : v.inputType = .match)
      (absent : v.pattern = none) : Fault r v (.missingSubPattern v.name)

def FirstFault (r : Registry) (vs : List Variable) (e : MatchError) : Prop :=
  ∃ front v back, vs = front ++ v :: back ∧ r.Fault v e ∧ ∀ w ∈ front, ∀ e', ¬ r.Fault w e'

variable {r : Registry} {v : Variable} {e : MatchError} {p : Pattern}

theorem faultOf?_eq_some_iff : r.faultOf? v = some e ↔ r.Fault v e := by
  rw [faultOf?, contains]
  cases found : r.find? v.inputType with
  | none =>
      constructor
      · intro fault
        cases fault
        exact .unregistered found
      · intro fault
        cases fault with
        | unregistered => rfl
        | unnested other =>
            rw [found] at other
            cases other
  | some m =>
      have registered : ¬ (!(some m).isSome) = true := by simp
      rw [if_neg registered]
      constructor
      · intro fault
        split at fault
        · rename_i unnested
          cases fault
          exact .unnested found unnested.1 (Option.isNone_iff_eq_none.mp unnested.2)
        · cases fault
      · intro fault
        cases fault with
        | unregistered missing =>
            rw [found] at missing
            cases missing
        | unnested _ nested absent => rw [if_pos ⟨nested, Option.isNone_iff_eq_none.mpr absent⟩]

theorem faultOf?_eq_none_iff : r.faultOf? v = none ↔ ∀ e, ¬ r.Fault v e := by
  simp only [← faultOf?_eq_some_iff, Option.eq_none_iff_forall_ne_some, ne_eq]

theorem validate_eq_error_iff :
    r.validate p = .error e ↔ r.FirstFault (Pattern.variables p) e := by
  have first : r.validate p = .error e ↔ (Pattern.variables p).findSome? r.faultOf? = some e := by
    rw [validate]
    cases (Pattern.variables p).findSome? r.faultOf? <;> simp
  rw [first, List.findSome?_eq_some_iff]
  simp only [faultOf?_eq_some_iff, faultOf?_eq_none_iff, FirstFault]

theorem validate_nested {q : Pattern} (valid : r.validate p = .ok ())
    (member : v ∈ Pattern.variables p) (nested : v.pattern = some q) :
    r.validate q = .ok () := by
  apply validate_eq_ok_iff.mpr
  intro w inside
  apply validate_eq_ok_iff.mp valid w
  exact Pattern.variables_subset_of_nested member nested inside

end Registry

variable {r : Registry}

theorem matchCombinations_ok (served : r.BoundaryServed) {p : Pattern}
    (valid : r.validate p = .ok ()) (s : Text) :
    ∃ o, matchCombinations s (expand p) r = .ok o := by
  have never (c : Combination) (member : c ∈ expand p) (v : Variable)
      (inside : .variable v ∈ c.segments) : NeverFails r.capture v :=
    Registry.neverFails_of_mem_expand served valid member inside
  obtain ⟨o, matched⟩ := matchReadings_ok never s
  exact ⟨o, (matchCombinations_eq s (expand p) r).trans matched⟩

/-- Matching fails exactly if the check fails, with the error of the first faulty variable. Once a
pattern has passed the check, neither its readings nor those of a pattern nested in it at any depth
fail for any input. -/
theorem matchPattern_eq_error_iff (served : r.BoundaryServed) (p : Pattern) :
    (∀ s e, matchPattern s p r = .error e ↔ r.validate p = .error e) ∧
    (∀ e, r.validate p = .error e ↔ r.FirstFault (Pattern.variables p) e) ∧
    (r.validate p = .ok () →
      ∀ q, (q = p ∨ ∃ v ∈ Pattern.variables p, v.pattern = some q) →
        ∀ s, ∃ o, matchCombinations s (expand q) r = .ok o) := by
  refine ⟨?_, fun e => Registry.validate_eq_error_iff, ?_⟩
  · intro s e
    rw [matchPattern]
    cases valid : r.validate p with
    | error e' => simp
    | ok _ =>
        obtain ⟨o, matched⟩ := matchCombinations_ok served valid s
        simp [matched]
  · intro valid q within s
    rcases within with rfl | ⟨v, member, nested⟩
    · exact matchCombinations_ok served valid s
    · exact matchCombinations_ok served (Registry.validate_nested valid member nested) s

theorem matchPattern_eq_error_iff_date :
    let date : Pattern := [.variable (.plain (some "day".toList) (.custom "date".toList))]
    let p : Pattern := [.text "#".toList, .variable (.nested (some "on".toList) date),
      .text ";".toList, .variable ⟨some "rest".toList, .match, none⟩]
    Registry.builtin.BoundaryServed ∧
      Registry.builtin.validate p = .error (.missingMatcher (.custom "date".toList)) ∧
      matchPattern "x".toList p Registry.builtin =
        .error (.missingMatcher (.custom "date".toList)) := by
  intro date p
  have faulty : Registry.builtin.validate p = .error (.missingMatcher (.custom "date".toList)) := by
    cbv
  have served := Registry.boundaryServed_builtin
  exact ⟨served, faulty, ((matchPattern_eq_error_iff served p).1 _ _).mpr faulty⟩

end NoteTemplate
