import Mathlib
import NoteTemplate.Proofs.Matching.Covering
import NoteTemplate.Proofs.Matching.Faults

namespace NoteTemplate

/-- The pattern is found in the input. -/
def Registry.Matches (r : Registry) (p : Pattern) (s : Text) : Prop :=
  ∃ result, matchPattern s p r = .ok (some result)

section Matches

variable {r : Registry} {p : Pattern} {s : Text}

theorem Registry.Matches.validate_eq_ok (matched : r.Matches p s) : r.validate p = .ok () := by
  obtain ⟨result, matched⟩ := matched
  exact (matchPattern_eq_ok_some_iff.mp matched).1

theorem Registry.Matches.exists_layout (served : r.BoundaryServed) (matched : r.Matches p s) :
    ∃ c ∈ expand p, ∃ pieces, r.Layout c.segments pieces s ∧
      BoundariesFound c.segments pieces := by
  obtain ⟨result, matched⟩ := matched
  obtain ⟨_, found⟩ := matchPattern_eq_ok_some_iff.mp matched
  obtain ⟨c, member, captured, walked, _⟩ := exists_of_matchReadings found
  exact ⟨c, member, layout_of_walk served walked⟩

theorem Registry.matches_of_layout (served : r.BoundaryServed) (valid : r.validate p = .ok ())
    {c : Combination} (member : c ∈ expand p) {pieces : List Text}
    (layout : r.Layout c.segments pieces s) (found : BoundariesFound c.segments pieces) :
    r.Matches p s := by
  have serves (v : Variable) (inside : .variable v ∈ c.segments) : r.Serves v :=
    Registry.serves_of_validate valid (variable_mem_of_mem_expand member inside)
  have apart := (mem_expand_iff.mp member).2
  obtain ⟨captured, walked⟩ := walk_isSome served serves apart layout found 0
  exact exists_matchPattern_of_walk served valid member walked

end Matches

namespace Reading

def text : Reading → Text
  | [] => []
  | .text literal :: r => literal ++ text r
  | .variable _ :: r => text r

theorem text_append (first second : Reading) :
    text (first ++ second) = text first ++ text second := by
  induction first with
  | nil => rfl
  | cons segment first ih =>
      rcases segment with literal | v
      · simp only [List.cons_append, text, ih, List.append_assoc]
      · exact ih

theorem text_flatten (readings : List Reading) :
    text readings.flatten = (readings.map text).flatten := by
  induction readings with
  | nil => rfl
  | cons first readings ih =>
      rw [List.flatten_cons, text_append, ih, List.map_cons, List.flatten_cons]

theorem variablesApart_of_literals {r : Reading} (literals : ∀ v, .variable v ∉ r) :
    r.VariablesApart := by
  intro v w adjacent
  exact literals v (adjacent.subset List.mem_cons_self)

end Reading

section VariableFree

variable {r : Registry} {p : Pattern} {s : Text}

theorem Registry.covers_literals_iff {segments : Reading} (literals : ∀ v, .variable v ∉ segments)
    {chosen : List (Variable × Text)} :
    r.Covers segments chosen s ↔ chosen = [] ∧ Text.SameLetters s segments.text := by
  induction segments generalizing chosen s with
  | nil =>
      constructor
      · intro covers
        cases covers
        exact ⟨rfl, .nil⟩
      · rintro ⟨rfl, same⟩
        cases same
        exact .nil
  | cons segment segments ih =>
      have rest := fun v inside => literals v (List.mem_cons_of_mem segment inside)
      rcases segment with literal | v
      · constructor
        · intro covers
          cases covers with
          | literal same behind =>
              obtain ⟨none, same'⟩ := (ih rest).mp behind
              exact ⟨none, same.append same'⟩
        · rintro ⟨none, same⟩
          have head := List.forall₂_take_append s literal _ same
          have tail := List.forall₂_drop_append s literal _ same
          rw [← List.take_append_drop literal.length s]
          exact .literal head ((ih rest).mpr ⟨none, tail⟩)
      · exact absurd List.mem_cons_self (literals v)

theorem validate_of_variableFree (free : Pattern.variables p = []) (r : Registry) :
    r.validate p = .ok () := by
  apply Registry.validate_eq_ok_iff.mpr
  rw [free]
  exact List.forall_mem_nil _

theorem matchPattern_eq_builtin (free : Pattern.variables p = []) (r : Registry) (s : Text) :
    matchPattern s p r = matchPattern s p Registry.builtin := by
  have same : matchReadings r.capture s (expand p) =
      matchReadings Registry.builtin.capture s (expand p) := by
    apply matchReadings_congr
    intro c member v inside
    have known := variable_mem_of_mem_expand member inside
    simp [free] at known
  simp only [matchPattern, validate_of_variableFree free, matchCombinations_eq, same]

theorem literals_of_variableFree (free : Pattern.variables p = []) {reading : Reading}
    (reads : Pattern.Reads p reading) (v : Variable) : .variable v ∉ reading := by
  intro inside
  have known := Pattern.variable_mem_of_reading p ((Pattern.mem_readings_iff p).mpr reads) inside
  simp [free] at known

theorem exists_reads_of_matchPattern (free : Pattern.variables p = []) {result : MatchResult}
    (matched : matchPattern s p r = .ok (some result)) :
    result.fields = [] ∧ result.spans = [] ∧
      ∃ reading, Pattern.Reads p reading ∧ Text.SameLetters s reading.text := by
  rw [matchPattern_eq_builtin free] at matched
  obtain ⟨c, member, captured, rfl, covers⟩ :=
    exists_covers_of_matchPattern Registry.boundaryServed_builtin matched
  obtain ⟨⟨reading, listed, rfl⟩, _⟩ := mem_expand_iff.mp member
  have reads := (Pattern.mem_readings_iff p).mp listed
  have literals := literals_of_variableFree free reads
  rw [Combination.ofSegments, Registry.covers_simplify_iff,
    Registry.covers_literals_iff literals] at covers
  obtain ⟨nothing, same⟩ := covers
  obtain rfl := List.map_eq_nil_iff.mp nothing
  exact ⟨rfl, rfl, reading, reads, same⟩

theorem matches_of_reads (free : Pattern.variables p = []) {reading : Reading}
    (reads : Pattern.Reads p reading) (same : Text.SameLetters s reading.text) :
    r.Matches p s := by
  rw [Registry.Matches, matchPattern_eq_builtin free]
  have literals := literals_of_variableFree free reads
  have simplified (v : Variable) : .variable v ∉ reading.simplify := by
    rw [Reading.variable_mem_simplify]
    exact literals v
  have member : .ofSegments reading ∈ expand p := by
    have listed := (Pattern.mem_readings_iff p).mpr reads
    have apart := Reading.variablesApart_of_literals simplified
    exact mem_expand_iff.mpr ⟨⟨reading, listed, rfl⟩,
      Reading.hasAdjacentVariables_eq_false_iff.mpr apart⟩
  have covers : Registry.builtin.Covers reading.simplify [] s :=
    Registry.covers_simplify_iff.mpr ((Registry.covers_literals_iff literals).mpr ⟨rfl, same⟩)
  obtain ⟨pieces, layout, _⟩ := covers.exists_layout
  have rigid : RigidBoundaries reading.simplify := by
    intro front v literal back split
    exact absurd (by rw [split]; simp) (simplified v)
  have found := boundariesFound_of_rigid (isSimple_of_mem_expand member) rigid layout.fits
  have valid := validate_of_variableFree free Registry.builtin
  exact Registry.matches_of_layout Registry.boundaryServed_builtin valid member layout found

theorem matches_iff_reads (free : Pattern.variables p = []) :
    r.Matches p s ↔ ∃ reading, Pattern.Reads p reading ∧ Text.SameLetters s reading.text := by
  constructor
  · rintro ⟨result, matched⟩
    exact (exists_reads_of_matchPattern free matched).2.2
  · rintro ⟨reading, reads, same⟩
    exact matches_of_reads free reads same

end VariableFree

section AnyOrder

variable {r : Registry} {branches : List Pattern} {pieces : List Text} {s : Text}

theorem Text.SameLetters.exists_flatten {ts : List Text} (same : Text.SameLetters s ts.flatten) :
    ∃ pieces, pieces.flatten = s ∧ List.Forall₂ Text.SameLetters pieces ts := by
  induction ts generalizing s with
  | nil =>
      cases same
      exact ⟨[], rfl, .nil⟩
  | cons t ts ih =>
      have head := List.forall₂_take_append s t ts.flatten same
      obtain ⟨pieces, whole, tail⟩ := ih (List.forall₂_drop_append s t ts.flatten same)
      refine ⟨s.take t.length :: pieces, ?_, .cons head tail⟩
      rw [List.flatten_cons, whole, List.take_append_drop]

theorem variableFree_of_mem_anyOrder (free : Pattern.variables [.anyOrder branches] = []) :
    ∀ p ∈ branches, Pattern.variables p = [] := by
  intro p member
  apply List.eq_nil_iff_forall_not_mem.mpr
  intro v inside
  have known : v ∈ Pattern.branchVariables branches :=
    Pattern.mem_branchVariables_iff.mpr ⟨p, member, inside⟩
  have none : Pattern.branchVariables branches = [] := calc
    _ = Pattern.variables [.anyOrder branches] := (List.append_nil _).symm
    _ = [] := free
  rw [none] at known
  cases known

theorem forall₂_matches_iff (free : ∀ p ∈ branches, Pattern.variables p = []) :
    List.Forall₂ r.Matches branches pieces ↔ ∃ readings, Pattern.ReadEach branches readings ∧
      List.Forall₂ (fun reading piece => Text.SameLetters piece (Reading.text reading))
        readings pieces := by
  constructor
  · intro matched
    induction matched with
    | nil => exact ⟨[], .nil, .nil⟩
    | @cons p piece branches pieces first _ ih =>
        obtain ⟨own, others⟩ := List.forall_mem_cons.mp free
        obtain ⟨reading, reads, same⟩ := (matches_iff_reads own).mp first
        obtain ⟨readings, each, equal⟩ := ih others
        exact ⟨reading :: readings, .cons reads each, .cons same equal⟩
  · rintro ⟨readings, each, equal⟩
    induction equal generalizing branches with
    | nil =>
        cases each
        exact .nil
    | cons same _ ih =>
        cases each with
        | cons reads each =>
            obtain ⟨own, others⟩ := List.forall_mem_cons.mp free
            exact .cons (matches_of_reads own reads same) (ih others each)

/-- An any-order group without variables takes one piece for each branch, in some order. -/
theorem matches_anyOrder_iff (free : Pattern.variables [.anyOrder branches] = []) :
    r.Matches [.anyOrder branches] s ↔ ∃ pieces order,
      List.Forall₂ r.Matches branches pieces ∧ pieces.Perm order ∧ order.flatten = s := by
  simp only [forall₂_matches_iff (variableFree_of_mem_anyOrder free)]
  constructor
  · intro matched
    obtain ⟨reading, reads, same⟩ := (matches_iff_reads free).mp matched
    cases reads with
    | cons first rest =>
        cases rest
        cases first with
        | @ordered _ readings order each rearranged =>
            rw [List.append_nil, Reading.text_flatten] at same
            obtain ⟨cut, rfl, equal⟩ := same.exists_flatten
            have equal := (List.forall₂_map_right_iff.mp equal).flip
            obtain ⟨pieces, covered, perm⟩ := List.perm_comp_forall₂ rearranged equal
            exact ⟨pieces, cut, ⟨readings, each, covered⟩, perm, rfl⟩
  · rintro ⟨pieces, cut, ⟨readings, each, covered⟩, perm, rfl⟩
    obtain ⟨order, equal, rearranged⟩ := List.perm_comp_forall₂ perm.symm covered.flip
    have reads : Pattern.Reads [.anyOrder branches] (order.flatten ++ []) :=
      .cons (.ordered each rearranged.symm) .nil
    apply matches_of_reads free reads
    rw [List.append_nil, Reading.text_flatten]
    exact List.rel_flatten (List.forall₂_map_right_iff.mpr equal)

end AnyOrder

/-- A pattern without variables matches the texts of its readings in any letter case, captures
nothing and never fails, whatever the matchers are. An any-order group accepts neither a part of its
branches nor one of them twice: the input is made of one piece for each branch. -/
theorem matchPattern_of_variableFree {p : Pattern} (free : Pattern.variables p = [])
    (r : Registry) (s : Text) :
    (r.Matches p s ↔
      ∃ reading, Pattern.Reads p reading ∧ Text.SameLetters s reading.text) ∧
    (∀ result, matchPattern s p r = .ok (some result) → result.fields = [] ∧ result.spans = []) ∧
    (¬ r.Matches p s → matchPattern s p r = .ok none) ∧
    ∀ branches, p = [.anyOrder branches] →
      (r.Matches p s ↔ ∃ pieces order,
        List.Forall₂ r.Matches branches pieces ∧ pieces.Perm order ∧ order.flatten = s) := by
  refine ⟨matches_iff_reads free, ?_, ?_, ?_⟩
  · intro result matched
    obtain ⟨fields, spans, _⟩ := exists_reads_of_matchPattern free matched
    exact ⟨fields, spans⟩
  · intro unmatched
    have valid := validate_of_variableFree free Registry.builtin
    obtain ⟨answer, answered⟩ := matchCombinations_ok Registry.boundaryServed_builtin valid s
    rw [Registry.Matches, matchPattern_eq_builtin free] at unmatched
    rw [matchPattern_eq_builtin free]
    simp only [matchPattern, valid, answered] at unmatched ⊢
    cases answer with
    | none => rfl
    | some result => exact absurd ⟨result, rfl⟩ unmatched
  · rintro branches rfl
    exact matches_anyOrder_iff free

theorem matchPattern_of_variableFree_letters :
    let p : Pattern := [.text "-".toList, .anyOrder [[.text "a".toList],
      [.optional [.text "b".toList]], [.variational [[.text "c".toList], [.text "d".toList]]]]]
    Pattern.variables p = [] ∧ ∃ result,
      matchPattern "-DA".toList p Registry.empty = .ok (some result) ∧
        result.fields = [] ∧ result.spans = [] ∧
        ∃ reading, Pattern.Reads p reading ∧ Text.SameLetters "-DA".toList reading.text := by
  intro p
  let result : MatchResult := ⟨[], ⟨[.text "-da".toList], 6⟩, []⟩
  have matched : matchPattern "-DA".toList p Registry.empty = .ok (some result) := by cbv
  have free : Pattern.variables p = [] := by cbv
  obtain ⟨language, nothing, _⟩ := matchPattern_of_variableFree free Registry.empty "-DA".toList
  obtain ⟨fields, spans⟩ := nothing result matched
  exact ⟨free, result, matched, fields, spans, language.mp ⟨result, matched⟩⟩

end NoteTemplate
