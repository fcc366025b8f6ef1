import Mathlib
import NoteTemplate.Proofs.Matching.Validity

/-!
Laying a reading over an input: the input is cut into one piece for each segment. A match is such a
layout, and a layout is found unless a piece ends inside an occurrence of the next literal that the
scan from left to right has passed over.
-/
namespace NoteTemplate

namespace Registry

/-- A literal covers as many characters as it has, up to letter case; a variable covers at least one
character and what its validator accepts. -/
def Fits (r : Registry) : Segment → Text → Prop
  | .text literal, piece => Text.SameLetters piece literal
  | .variable v, piece => piece ≠ [] ∧ r.validator v piece = .ok true

structure Layout (r : Registry) (segments : Reading) (pieces : List Text) (s : Text) : Prop where
  fits : List.Forall₂ r.Fits segments pieces
  whole : pieces.flatten = s

end Registry

/-- Each piece of a variable with a literal behind it ends where the scan of the input from that
piece on reports the literal. -/
def BoundariesFound : Reading → List Text → Prop
  | .text _ :: segments, _ :: pieces => BoundariesFound segments pieces
  | .variable _ :: segments, piece :: pieces =>
    (∀ literal, followingText? segments = some literal →
      Text.byteLength piece ∈ Text.findAllCaseless (piece :: pieces).flatten literal) ∧
    BoundariesFound segments pieces
  | _, _ => True

/-- No literal behind a variable can overlap itself. -/
def RigidBoundaries (segments : Reading) : Prop :=
  ∀ front v literal back, segments = front ++ .variable v :: .text literal :: back →
    ¬ literal.OverlapsItself

variable {r : Registry}

theorem Registry.of_mem_capture (served : r.BoundaryServed) {v : Variable} {remaining value : Text}
    {following : List Segment} {capture : Option Capture}
    (proposed : r.capture remaining v following = .ok capture)
    (member : .ok value ∈ Capture.values capture) :
    value ∈ boundaryValues remaining following ∧ r.validator v value = .ok true := by
  cases fault : r.faultOf? v with
  | some e =>
      rw [capture_eq_error served fault] at proposed
      cases proposed
  | none =>
      rw [capture_eq served fault] at proposed
      rw [values_selectByBoundary proposed] at member
      exact of_mem_accepted member

def Reading.captures : Reading → List Text → (offset : Nat) → List Captured
  | .text _ :: segments, piece :: pieces, offset =>
    captures segments pieces (offset + piece.byteLength)
  | .variable v :: segments, piece :: pieces, offset =>
    let stop := offset + piece.byteLength
    ⟨v, piece, ⟨offset, stop⟩⟩ :: captures segments pieces stop
  | _, _, _ => []

/-- The pieces of an input for the segments of a reading, each of them one that the walk may take: a
literal in some letter case, or a value proposed in front of what remains. -/
inductive Reading.Proposed (propose : Proposer) : Reading → List Text → Prop
  | nil : Proposed propose [] []
  | literal {literal piece : Text} {segments : Reading} {pieces : List Text}
      (same : Text.SameLetters piece literal) (rest : Proposed propose segments pieces) :
      Proposed propose (.text literal :: segments) (piece :: pieces)
  | value {v : Variable} {piece : Text} {segments : Reading} {pieces : List Text}
      {capture : Option Capture}
      (proposed : propose (piece ++ pieces.flatten) v segments = .ok capture)
      (member : .ok piece ∈ Capture.values capture) (rest : Proposed propose segments pieces) :
      Proposed propose (.variable v :: segments) (piece :: pieces)

theorem exists_proposed_of_walk {propose : Proposer} {segments : Reading} {offset : Nat} {s : Text}
    {captured : List Captured}
    (walked : walk propose segments offset s = .ok (some captured)) :
    ∃ pieces, segments.Proposed propose pieces ∧ pieces.flatten = s ∧
      captured = segments.captures pieces offset := by
  induction segments generalizing offset s captured with
  | nil =>
      by_cases empty : s = []
      · refine ⟨[], .nil, empty.symm, ?_⟩
        simpa [walk, empty, eq_comm, Reading.captures] using walked
      · simp [walk, empty] at walked
  | cons segment segments ih =>
      rcases segment with literal | v
      · rw [walk] at walked
        split at walked
        · cases walked
        · rename_i after stripped
          obtain ⟨piece, rfl, same⟩ := Text.stripPrefixCaseless?_eq_some_iff.mp stripped
          obtain ⟨pieces, rest, rfl, rfl⟩ := ih walked
          refine ⟨piece :: pieces, .literal same rest, rfl, ?_⟩
          rw [← same.length_eq, List.take_left]
          rfl
      · rw [walk_variable] at walked
        split at walked
        · cases walked
        · rename_i capture proposed
          obtain ⟨value, member, behind⟩ := exists_of_firstAnswer walked
          obtain ⟨after, rest, rfl, walked', rfl⟩ := exists_of_walkBehind behind
          obtain ⟨pieces, rest, rfl, rfl⟩ := ih walked'
          exact ⟨value :: pieces, .value proposed member rest, rfl, rfl⟩

theorem Reading.Proposed.fits (served : r.BoundaryServed) {segments : Reading} {pieces : List Text}
    (proposed : segments.Proposed r.capture pieces) :
    List.Forall₂ r.Fits segments pieces ∧ BoundariesFound segments pieces := by
  induction proposed with
  | nil => exact ⟨.nil, trivial⟩
  | literal same _ ih => exact ⟨.cons same ih.1, ih.2⟩
  | @value v piece segments pieces capture proposed member _ ih =>
      obtain ⟨boundary, valid⟩ := Registry.of_mem_capture served proposed member
      cases next : followingText? segments with
      | none =>
          obtain ⟨_, nonempty⟩ := (mem_boundaryValues_last next).mp boundary
          refine ⟨.cons ⟨nonempty, valid⟩ ih.1, fun literal following => ?_, ih.2⟩
          rw [next] at following
          cases following
      | some literal =>
          obtain ⟨nonempty, _, reported⟩ := (mem_boundaryValues next).mp boundary
          refine ⟨.cons ⟨nonempty, valid⟩ ih.1, fun literal' following => ?_, ih.2⟩
          rw [next] at following
          cases following
          exact reported

theorem exists_layout_of_walk (served : r.BoundaryServed) {segments : Reading} {offset : Nat}
    {s : Text} {captured : List Captured}
    (walked : walk r.capture segments offset s = .ok (some captured)) :
    ∃ pieces, r.Layout segments pieces s ∧ BoundariesFound segments pieces ∧
      captured = segments.captures pieces offset := by
  obtain ⟨pieces, proposed, whole, same⟩ := exists_proposed_of_walk walked
  obtain ⟨fits, found⟩ := proposed.fits served
  exact ⟨pieces, ⟨fits, whole⟩, found, same⟩

theorem layout_of_walk (served : r.BoundaryServed) {segments : Reading} {offset : Nat} {s : Text}
    {captured : List Captured} (walked : walk r.capture segments offset s = .ok (some captured)) :
    ∃ pieces, r.Layout segments pieces s ∧ BoundariesFound segments pieces := by
  obtain ⟨pieces, layout, found, _⟩ := exists_layout_of_walk served walked
  exact ⟨pieces, layout, found⟩

theorem walk_isSome (served : r.BoundaryServed) {segments : Reading}
    (serves : ∀ v, .variable v ∈ segments → r.Serves v)
    (apart : segments.hasAdjacentVariables = false) {pieces : List Text} {s : Text}
    (layout : r.Layout segments pieces s) (found : BoundariesFound segments pieces)
    (offset : Nat) : ∃ captured, walk r.capture segments offset s = .ok (some captured) := by
  obtain ⟨fits, rfl⟩ := layout
  induction fits generalizing offset with
  | nil => exact ⟨[], rfl⟩
  | @cons segment piece segments pieces fit fits ih =>
      have tail := ih fun v inside => serves v (List.mem_cons_of_mem _ inside)
      rcases segment with literal | v
      · obtain ⟨captured, walked⟩ := tail apart found (offset + Text.byteLength piece)
        refine ⟨captured, ?_⟩
        rw [List.flatten_cons, walk, Text.stripPrefixCaseless?_append fit,
          ← Text.SameLetters.length_eq fit, List.take_left]
        exact walked
      · obtain ⟨nonempty, valid⟩ := fit
        obtain ⟨captured, walked⟩ := tail (Reading.hasAdjacentVariables_tail apart) found.2
          (offset + Text.byteLength piece)
        have boundary : piece ∈ boundaryValues (piece ++ pieces.flatten) segments := by
          cases next : followingText? segments with
          | some literal => exact (mem_boundaryValues next).mpr ⟨nonempty, ⟨_, rfl⟩, found.1 _ next⟩
          | none =>
              refine (mem_boundaryValues_last next).mpr ⟨?_, nonempty⟩
              -- Two variables do not meet, so this one is the last segment.
              rcases segments with _ | ⟨_ | _, _⟩
              · cases fits
                simp
              · cases next
              · cases apart
        have total := Registry.validator_total served (serves v List.mem_cons_self)
        have sound := serves v List.mem_cons_self v List.mem_cons_self
        obtain ⟨capture, selected⟩ := selectByBoundary_ok total (piece ++ pieces.flatten) segments
        rw [List.flatten_cons, walk_variable, Registry.capture_eq served sound, selected]
        simp only [values_selectByBoundary selected]
        refine firstAnswer_isSome (fun x member => ?_) (mem_accepted total boundary valid)
          (by rw [walkBehind_append, walked]; rfl)
        obtain ⟨value, rfl⟩ := accepted_ok total _ x member
        have walks := walk_ok fun w inside =>
          Registry.neverFails served (serves w (List.mem_cons_of_mem _ inside))
        obtain ⟨o, answered⟩ := walkBehind_ok walks v offset (piece ++ pieces.flatten) value
        exact ⟨value, o, rfl, answered⟩

theorem boundariesFound_of_rigid {segments : Reading} (simple : segments.IsSimple)
    (rigid : RigidBoundaries segments) {pieces : List Text}
    (fits : List.Forall₂ r.Fits segments pieces) : BoundariesFound segments pieces := by
  induction fits with
  | nil => trivial
  | @cons segment piece segments pieces fit fits ih =>
      have rest : RigidBoundaries segments := fun front v literal back split =>
        rigid (segment :: front) v literal back (by rw [split]; rfl)
      rcases segment with literal | v
      · exact ih simple.2.2 rest
      · refine ⟨fun literal next => ?_, ih simple rest⟩
        rcases segments with _ | ⟨_ | _, segments⟩ <;> cases next
        cases fits with
        | @cons _ following _ pieces same _ =>
            exact Text.mem_findAllCaseless simple.1 (rigid [] v _ segments rfl)
              ⟨following, pieces.flatten, rfl, same⟩

theorem matchPattern_eq_ok_some_iff {p : Pattern} {s : Text} {result : MatchResult} :
    matchPattern s p r = .ok (some result) ↔
      r.validate p = .ok () ∧ matchReadings r.capture s (expand p) = .ok (some result) := by
  rw [matchPattern, ← matchCombinations_eq]
  cases r.validate p <;> simp

/-- A match is a layout of one of the combinations over the whole input. -/
theorem matchPattern_sound (served : r.BoundaryServed) {p : Pattern} {s : Text}
    {result : MatchResult} (matched : matchPattern s p r = .ok (some result)) :
    result.combination ∈ expand p ∧ ∃ pieces, r.Layout result.combination.segments pieces s := by
  obtain ⟨_, found⟩ := matchPattern_eq_ok_some_iff.mp matched
  obtain ⟨c, member, captured, walked, rfl⟩ := exists_of_matchReadings found
  obtain ⟨pieces, layout, _⟩ := layout_of_walk served walked
  exact ⟨member, pieces, layout⟩

theorem matchPattern_sound_quantity :
    let kilograms : Pattern := [.variable (.plain none .word), .text " kg".toList]
    let p : Pattern := [.variable (.nested (some "qty".toList) kilograms), .text ";".toList]
    ∃ result, matchPattern "2 KG;".toList p Registry.builtin = .ok (some result) ∧
      result.combination ∈ expand p ∧ ∃ pieces,
        Registry.builtin.Layout result.combination.segments pieces "2 KG;".toList := by
  intro kilograms p
  let result : MatchResult := ⟨[⟨some "qty".toList, .match, .single "2 KG".toList⟩],
    ⟨[.variable (.nested (some "qty".toList) kilograms), .text ";".toList], 5⟩, [⟨0, 4⟩]⟩
  have matched : matchPattern "2 KG;".toList p Registry.builtin = .ok (some result) := by cbv
  exact ⟨result, matched, matchPattern_sound Registry.boundaryServed_builtin matched⟩

/-- A validated pattern matches exactly the inputs that one of its combinations can be laid over so
that the scan finds each boundary, which it always does for literals that cannot overlap
themselves. -/
theorem matchPattern_isSome_iff (served : r.BoundaryServed) {p : Pattern}
    (valid : r.validate p = .ok ()) (s : Text) :
    ((∃ result, matchPattern s p r = .ok (some result)) ↔
      ∃ c ∈ expand p, ∃ pieces, r.Layout c.segments pieces s ∧
        BoundariesFound c.segments pieces) ∧
    ∀ c ∈ expand p, ∀ pieces, r.Layout c.segments pieces s → RigidBoundaries c.segments →
      ∃ result, matchPattern s p r = .ok (some result) := by
  have serves (c : Combination) (member : c ∈ expand p) (v : Variable)
      (inside : .variable v ∈ c.segments) : r.Serves v :=
    Registry.serves_of_validate valid (variable_mem_of_mem_expand member inside)
  have complete (c : Combination) (member : c ∈ expand p) (pieces : List Text)
      (layout : r.Layout c.segments pieces s) (found : BoundariesFound c.segments pieces) :
      ∃ result, matchPattern s p r = .ok (some result) := by
    have apart := (mem_expand_iff.mp member).2
    obtain ⟨captured, walked⟩ := walk_isSome served (serves c member) apart layout found 0
    have never (d : Combination) (member : d ∈ expand p) (v : Variable)
        (inside : .variable v ∈ d.segments) : NeverFails r.capture v :=
      Registry.neverFails served (serves d member v inside)
    obtain ⟨result, matched⟩ := matchReadings_isSome never member walked
    exact ⟨result, matchPattern_eq_ok_some_iff.mpr ⟨valid, matched⟩⟩
  refine ⟨⟨?_, ?_⟩, ?_⟩
  · rintro ⟨result, matched⟩
    obtain ⟨_, found⟩ := matchPattern_eq_ok_some_iff.mp matched
    obtain ⟨c, member, captured, walked, _⟩ := exists_of_matchReadings found
    exact ⟨c, member, layout_of_walk served walked⟩
  · rintro ⟨c, member, pieces, layout, found⟩
    exact complete c member pieces layout found
  · intro c member pieces layout rigid
    exact complete c member pieces layout
      (boundariesFound_of_rigid (isSimple_of_mem_expand member) rigid layout.fits)

theorem matchPattern_isSome_iff_marks :
    let p : Pattern := [.variable (.plain (some ['a']) .text), .text "!!".toList]
    Registry.builtin.validate p = .ok () ∧
    ((∃ result, matchPattern "x!!!!".toList p Registry.builtin = .ok (some result)) ↔
      ∃ c ∈ expand p, ∃ pieces, Registry.builtin.Layout c.segments pieces "x!!!!".toList ∧
        BoundariesFound c.segments pieces) := by
  intro p
  have valid : Registry.builtin.validate p = .ok () := by cbv
  exact ⟨valid, (matchPattern_isSome_iff Registry.boundaryServed_builtin valid "x!!!!".toList).1⟩

/-- A layout may end a piece inside the occurrence that the scan reports. Then nothing is
matched. -/
theorem not_matched_inside_occurrence :
    let p : Pattern := [.variable (.plain (some ['a']) .text), .text "!!".toList]
    Registry.builtin.BoundaryServed ∧ Registry.builtin.validate p = .ok () ∧
      (∃ c ∈ expand p, ∃ pieces, Registry.builtin.Layout c.segments pieces "x!!!".toList) ∧
      matchPattern "x!!!".toList p Registry.builtin = .ok none := by
  intro p
  have expanded : expand p = [⟨[.variable (.plain (some ['a']) .text), .text "!!".toList], 5⟩] := by
    cbv
  refine ⟨Registry.boundaryServed_builtin, by cbv, ?_, by cbv⟩
  rw [expanded]
  refine ⟨_, List.mem_singleton.mpr rfl, ["x!".toList, "!!".toList], ?_, rfl⟩
  exact .cons ⟨by decide, by cbv⟩ (.cons (Text.SameLetters.refl _) .nil)

end NoteTemplate
