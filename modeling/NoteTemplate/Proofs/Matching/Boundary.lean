import Mathlib
import NoteTemplate.Proofs.Matching.Search
import NoteTemplate.Proofs.Text.Occurrences

/-!
What a boundary proposes. The input is cut where a literal is reported; the cuts come up for
validation from the longest to the shortest, and the first one whose validation fails is the last.
-/
namespace NoteTemplate

def CutAt (ends : List Nat) (t value : Text) : Prop :=
  value ≠ [] ∧ (∃ rest, t = value ++ rest) ∧ value.byteLength ∈ ends

/-- A value comes up for validation if it is offered and no longer one has failed. -/
def ComesUp (validate : Text → Except MatchError Bool) (offered : Text → Prop) (value : Text) :
    Prop :=
  offered value ∧ ∀ longer, offered longer → value.byteLength < longer.byteLength →
    ∃ answer, validate longer = .ok answer

/-- The values a validator accepts of those that are offered, the longest one first, up to the first
one on which it fails. -/
structure Descending (validate : Text → Except MatchError Bool) (offered : Text → Prop)
    (values : List (Except MatchError Text)) : Prop where
  value_mem_iff : ∀ value, .ok value ∈ values ↔
    ComesUp validate offered value ∧ validate value = .ok true
  error_mem_iff : ∀ e, .error e ∈ values ↔
    ∃ value, ComesUp validate offered value ∧ validate value = .error e
  /-- Only the last one is an error, and each value is shorter than those before it. -/
  ordered : values.Pairwise fun x y =>
    ∃ longer, x = .ok longer ∧ ∀ value, y = .ok value → value.byteLength < longer.byteLength

section Accepted

variable {validate : Text → Except MatchError Bool} {values : List Text}

theorem comesUp_cons_iff {head value : Text}
    (shorter : ∀ value ∈ values, value.byteLength < head.byteLength) :
    ComesUp validate (· ∈ head :: values) value ↔ value = head ∨
      (∃ answer, validate head = .ok answer) ∧ ComesUp validate (· ∈ values) value := by
  constructor
  · intro up
    obtain ⟨offered, sound⟩ := up
    rcases List.mem_cons.mp offered with rfl | offered
    · exact .inl rfl
    · have answered := sound head List.mem_cons_self (shorter value offered)
      exact .inr ⟨answered, offered, fun longer inside => sound longer (.tail head inside)⟩
  · intro cases
    rcases cases with rfl | ⟨answered, offered, sound⟩
    · refine ⟨List.mem_cons_self, fun longer inside less => ?_⟩
      rcases List.mem_cons.mp inside with rfl | inside
      · exact absurd less (Nat.lt_irrefl _)
      · exact absurd less (Nat.lt_asymm (shorter longer inside))
    · refine ⟨.tail head offered, fun longer inside less => ?_⟩
      rcases List.mem_cons.mp inside with rfl | inside
      · exact answered
      · exact sound longer inside less

theorem descending_of_error {head : Text} {e : MatchError} (failed : validate head = .error e)
    (shorter : ∀ value ∈ values, value.byteLength < head.byteLength) :
    Descending validate (· ∈ head :: values) [.error e] := by
  have up (value : Text) : ComesUp validate (· ∈ head :: values) value ↔ value = head := by
    rw [comesUp_cons_iff shorter, failed]
    simp
  constructor
  · intro value
    rw [up]
    constructor
    · intro member
      cases List.mem_singleton.mp member
    · intro accepted
      obtain ⟨rfl, valid⟩ := accepted
      rw [failed] at valid
      cases valid
  · intro e'
    simp only [up, exists_eq_left, failed, List.mem_singleton, Except.error.injEq]
    exact eq_comm
  · exact List.pairwise_singleton _ _

theorem descending_of_ok {head : Text} {answer : Bool} (answered : validate head = .ok answer)
    (shorter : ∀ value ∈ values, value.byteLength < head.byteLength)
    {rest : List (Except MatchError Text)} (tail : Descending validate (· ∈ values) rest) :
    Descending validate (· ∈ head :: values) (if answer then .ok head :: rest else rest) := by
  have up (value : Text) : ComesUp validate (· ∈ head :: values) value ↔
      value = head ∨ ComesUp validate (· ∈ values) value := by
    rw [comesUp_cons_iff shorter, answered]
    simp
  constructor
  · intro value
    have first : value = head ∧ validate value = .ok true ↔ value = head ∧ answer = true := by
      apply and_congr_right
      intro same
      rw [same, answered, Except.ok.injEq]
    rw [up, or_and_right, ← tail.value_mem_iff, first]
    cases answer <;> simp
  · intro e
    simp only [up, or_and_right, exists_or, exists_eq_left, answered, reduceCtorEq, false_or,
      ← tail.error_mem_iff]
    cases answer <;> simp
  · cases answer with
    | false => exact tail.ordered
    | true =>
        apply List.pairwise_cons.mpr
        refine ⟨fun y later => ⟨head, rfl, fun value same => ?_⟩, tail.ordered⟩
        rw [same] at later
        exact shorter value ((tail.value_mem_iff value).mp later).1.1

theorem descending_accepted
    (descending : values.Pairwise fun longer value => value.byteLength < longer.byteLength) :
    Descending validate (· ∈ values) (accepted validate values) := by
  induction values with
  | nil =>
      constructor
      · simp [accepted, ComesUp]
      · simp [accepted, ComesUp]
      · exact .nil
  | cons head values ih =>
      obtain ⟨shorter, descending⟩ := List.pairwise_cons.mp descending
      rcases answered : validate head with e | valid | valid
      · rw [accepted, answered]
        exact descending_of_error answered shorter
      · rw [accepted, answered]
        exact descending_of_ok answered shorter (ih descending)
      · rw [accepted, answered]
        exact descending_of_ok answered shorter (ih descending)

end Accepted

section Cuts

variable {remaining literal : Text} {following : List Segment}

theorem pairwise_beginnings (nonempty : literal ≠ []) :
    (beginnings remaining (Text.findAllCaseless remaining literal)).Pairwise
      fun longer value => value.byteLength < longer.byteLength := by
  have size {n : Nat} (reported : n ∈ Text.findAllCaseless remaining literal) :
      (Text.takeBytes n remaining).byteLength = n := by
    obtain ⟨before, after, rfl, rfl, _⟩ := Text.occursAt_of_mem_findAllCaseless reported
    rw [Text.takeBytes_byteLength_append]
  rw [beginnings, List.pairwise_map, List.pairwise_filter, List.pairwise_reverse]
  apply (Text.ascending_findAllCaseless nonempty remaining).imp_of_mem
  intro m n first second less _ _
  rw [size first, size second]
  exact less

theorem mem_beginnings_iff {value : Text} :
    value ∈ beginnings remaining (Text.findAllCaseless remaining literal) ↔
      CutAt (Text.findAllCaseless remaining literal) remaining value :=
  @mem_boundaryValues remaining value literal [.text literal] rfl

theorem followingText?_eq_none (last : ∀ literal rest, following ≠ .text literal :: rest) :
    followingText? following = none := by
  fun_cases followingText? following with
  | case1 literal rest => exact absurd rfl (last literal rest)
  | case2 => rfl

theorem findAllCaseless_eq_nil_iff (nonempty : literal ≠ []) :
    Text.findAllCaseless remaining literal = [] ↔
      ∀ span, ¬ Text.OccursOver literal remaining span := by
  have scan := Text.leftmostOccurrences_findAllCaseless nonempty remaining
  rw [List.eq_nil_iff_forall_not_mem]
  constructor
  · intro empty span occurs
    rcases scan.covered span.start span.stop occurs with reported | ⟨m, reported, _⟩
    · exact empty _ reported
    · exact empty m reported
  · intro absent n reported
    obtain ⟨stop, occurs⟩ := scan.occurs n reported
    exact absent _ occurs

theorem CutAt.starts {value : Text}
    (cut : CutAt (Text.findAllCaseless remaining literal) remaining value) :
    ∃ behind, remaining = value ++ behind ∧ behind.StartsCaseless literal := by
  obtain ⟨_, ⟨rest, rfl⟩, reported⟩ := cut
  obtain ⟨before, after, split, size, starts⟩ := Text.occursAt_of_mem_findAllCaseless reported
  have cuts := Text.splitAtByte?_byteLength_append value rest
  rw [split, size, Text.splitAtByte?_byteLength_append] at cuts
  cases cuts
  exact ⟨rest, rfl, starts⟩

end Cuts

section Selection

variable {remaining : Text} {following : List Segment} {validate : Text → Except MatchError Bool}

theorem selectByBoundary_text (literal : Text) (rest : List Segment) :
    selectByBoundary remaining (.text literal :: rest) validate =
      if Text.findAllCaseless remaining literal = [] then .ok none
      else .ok (some (.candidates
        (accepted validate (beginnings remaining (Text.findAllCaseless remaining literal))))) := by
  simp only [selectByBoundary, followingText?, List.isEmpty_iff]

theorem selectByBoundary_last (last : followingText? following = none) :
    selectByBoundary remaining following validate =
      if remaining = [] then .ok none
      else (validate remaining).map fun valid => if valid then some (.single remaining) else none := by
  simp only [selectByBoundary, last, List.isEmpty_iff]
  by_cases empty : remaining = []
  · rw [if_pos empty, if_pos empty]
  · rw [if_neg empty, if_neg empty]
    rcases validate remaining with e | _ | _ <;> rfl

end Selection

/-- In front of a literal a boundary answers nothing if the literal does not occur. Otherwise it
gives the beginnings of the input that end where the literal is found from left to right and that
the validator accepts, from the longest to the shortest, up to the first failure. Without a literal
behind it gives the whole input, if there is any and it is accepted. -/
theorem selectByBoundary_spec (remaining : Text) (following : List Segment)
    (validate : Text → Except MatchError Bool) :
    (∀ literal rest, following = .text literal :: rest → literal ≠ [] →
      ((∀ span, ¬ Text.OccursOver literal remaining span) →
        selectByBoundary remaining following validate = .ok none) ∧
      ∀ span, Text.OccursOver literal remaining span →
        ∃ ends values, Text.LeftmostOccurrences literal remaining ends ∧
          selectByBoundary remaining following validate = .ok (some (.candidates values)) ∧
          Descending validate (CutAt ends remaining) values ∧
          ∀ value, .ok value ∈ values → ∃ behind, remaining = value ++ behind ∧
            behind.StartsCaseless literal) ∧
    ((∀ literal rest, following ≠ .text literal :: rest) →
      (∀ capture, selectByBoundary remaining following validate = .ok (some capture) ↔
        capture = .single remaining ∧ remaining ≠ [] ∧ validate remaining = .ok true) ∧
      ∀ e, selectByBoundary remaining following validate = .error e ↔
        remaining ≠ [] ∧ validate remaining = .error e) := by
  constructor
  · intro literal rest next nonempty
    rw [next, selectByBoundary_text]
    constructor
    · intro absent
      rw [if_pos ((findAllCaseless_eq_nil_iff nonempty).mpr absent)]
    · intro span occurs
      have found : Text.findAllCaseless remaining literal ≠ [] := by
        intro empty
        exact (findAllCaseless_eq_nil_iff nonempty).mp empty span occurs
      have offered : (· ∈ beginnings remaining (Text.findAllCaseless remaining literal)) =
          CutAt (Text.findAllCaseless remaining literal) remaining :=
        funext fun value => propext mem_beginnings_iff
      have values := @descending_accepted validate _ (@pairwise_beginnings remaining _ nonempty)
      rw [offered] at values
      have scan := Text.leftmostOccurrences_findAllCaseless nonempty remaining
      refine ⟨_, _, scan, if_neg found, values, fun value member => ?_⟩
      exact ((values.value_mem_iff value).mp member).1.1.starts
  · intro last
    rw [selectByBoundary_last (followingText?_eq_none last)]
    by_cases empty : remaining = []
    · simp [empty]
    · rw [if_neg empty]
      rcases answered : validate remaining with e | _ | _
      · simp [Except.map, empty]
      · simp [Except.map]
      · simp [Except.map, empty, eq_comm]

theorem selectByBoundary_spec_kelvin :
    let remaining := "aK\u212Abkc".toList
    let fault := MatchError.missingSubPattern none
    let validate : Text → Except MatchError Bool := fun value =>
      if value.length = 2 then .error fault else .ok true
    let following : List Segment := [.text ['k'], .variable (.plain none .text)]
    ['k'] ≠ [] ∧ Text.OccursOver ['k'] remaining ⟨2, 5⟩ ∧
      ∃ ends, Text.LeftmostOccurrences ['k'] remaining ends ∧
        selectByBoundary remaining following validate =
          .ok (some (.candidates [.ok "aK\u212Ab".toList, .error fault])) ∧
        Descending validate (CutAt ends remaining) [.ok "aK\u212Ab".toList, .error fault] := by
  intro remaining fault validate following
  have nonempty : ['k'] ≠ [] := by simp
  have letters : Text.SameLetters ['\u212A'] ['k'] := by decide
  have kelvin : Text.OccursOver ['k'] remaining ⟨2, 5⟩ :=
    Text.occursOver_iff.mpr ⟨"aK".toList, ['\u212A'], "bkc".toList, rfl, letters, rfl, rfl⟩
  have selected : selectByBoundary "aK\u212Abkc".toList
      [.text ['k'], .variable (.plain none .text)]
      (fun value => if value.length = 2 then .error (.missingSubPattern none) else .ok true) =
      .ok (some (.candidates
        [.ok "aK\u212Ab".toList, .error (.missingSubPattern none)])) := by cbv
  obtain ⟨boundary, _⟩ := selectByBoundary_spec remaining following validate
  obtain ⟨ends, values, scan, same, ordered, _⟩ :=
    (boundary ['k'] _ rfl nonempty).2 ⟨2, 5⟩ kelvin
  rw [selected] at same
  cases same
  exact ⟨nonempty, kelvin, ends, scan, selected, ordered⟩

end NoteTemplate
