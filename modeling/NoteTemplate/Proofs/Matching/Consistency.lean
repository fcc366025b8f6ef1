import NoteTemplate.Proofs.Matching.Filling

namespace NoteTemplate

/-- What may stand under a segment with matchers of any kind: a literal in some letter case, and any
text at all under a variable. -/
def Segment.Allows : Segment → Text → Prop
  | .text literal, piece => Text.SameLetters piece literal
  | .variable _, _ => True

structure Reading.LiesOver (segments : Reading) (pieces : List Text) (s : Text) : Prop where
  allowed : List.Forall₂ Segment.Allows segments pieces
  whole : pieces.flatten = s

def Reading.keptCaptures (segments : Reading) (pieces : List Text) : List Captured :=
  (segments.captures pieces 0).filter (·.slot.isCaptured)

namespace MatchResult

def slots (r : MatchResult) : List Variable := r.combination.variables.filter (·.isCaptured)

def capturesNamed (r : MatchResult) (name : Option Text) : List (Variable × Span) :=
  (r.slots.zip r.spans).filter (·.1.name = name)

structure Gathered (r : MatchResult) (s : Text) (f : Field) : Prop where
  typed : (r.capturesNamed f.name).head?.map (·.1.inputType) = some f.inputType
  valued : ∃ values, (r.capturesNamed f.name).map (fun x => s.slice? x.2) = values.map some ∧
    f.value.Gathers values

/-- What a result says about a text is true of it. -/
structure Describes (r : MatchResult) (s : Text) : Prop where
  placed : ∃ pieces, r.combination.segments.LiesOver pieces s ∧
    r.spans = (r.combination.segments.keptCaptures pieces).map (·.span)
  counted : r.spans.length = r.slots.length
  inside : ∀ span ∈ r.spans, ∃ value, s.slice? span = some value
  ordered : r.spans.Pairwise fun a b => a.stop ≤ b.start
  /-- The fields stand in the order of the first captures under their names. -/
  named : r.fields.map (·.name) = (r.slots.map (·.name)).eraseDups
  gathered : ∀ f ∈ r.fields, r.Gathered s f

end MatchResult

section Places

theorem Reading.Proposed.allowed {propose : Proposer} {segments : Reading} {pieces : List Text}
    (proposed : segments.Proposed propose pieces) :
    List.Forall₂ Segment.Allows segments pieces := by
  induction proposed with
  | nil => exact .nil
  | literal same _ ih => exact .cons same ih
  | value _ _ _ ih => exact .cons trivial ih

theorem captures_ordered (segments : Reading) (pieces : List Text) (offset : Nat) :
    (segments.captures pieces offset).Pairwise (fun x y => x.span.stop ≤ y.span.start) ∧
      ∀ x ∈ segments.captures pieces offset, offset ≤ x.span.start := by
  fun_induction Reading.captures segments pieces offset with
  | case1 literal segments piece pieces offset ih =>
      refine ⟨ih.1, fun x member => ?_⟩
      have behind := ih.2 x member
      omega
  | case2 v segments piece pieces offset stop ih =>
      constructor
      · exact List.pairwise_cons.mpr ⟨ih.2, ih.1⟩
      · intro x member
        rcases List.mem_cons.mp member with rfl | member
        · exact le_refl offset
        · have behind := ih.2 x member
          omega
  | case3 => simp

end Places

section Result

variable {s : Text} {c : Combination} {pieces : List Text}

theorem slots_ofCaptured (sizes : c.segments.length = pieces.length) :
    (MatchResult.ofCaptured c (c.segments.captures pieces 0)).slots =
      (c.segments.keptCaptures pieces).map (·.slot) := by
  have all := map_slot_captures sizes 0 c.score
  calc
    _ = ((c.segments.captures pieces 0).map (·.slot)).filter (·.isCaptured) := by
      rw [all]
      rfl
    _ = (c.segments.keptCaptures pieces).map (·.slot) := List.filter_map

theorem capturesNamed_ofCaptured (sizes : c.segments.length = pieces.length)
    (name : Option Text) :
    (MatchResult.ofCaptured c (c.segments.captures pieces 0)).capturesNamed name =
      ((c.segments.keptCaptures pieces).filter (·.slot.name = name)).map
        fun x => (x.slot, x.span) := by
  let kept := c.segments.keptCaptures pieces
  calc
    _ = ((kept.map (·.slot)).zip (kept.map (·.span))).filter (·.1.name = name) := by
      rw [MatchResult.capturesNamed, slots_ofCaptured sizes]
      rfl
    _ = (kept.map fun x => (x.slot, x.span)).filter (·.1.name = name) := by
      rw [List.zip_map']
    _ = (kept.filter (·.slot.name = name)).map fun x => (x.slot, x.span) := List.filter_map

theorem slice?_of_mem_keptCaptures (lies : c.segments.LiesOver pieces s) {x : Captured}
    (member : x ∈ c.segments.keptCaptures pieces) : s.slice? x.span = some x.value := by
  have sliced := slice?_of_mem_captures [] (List.mem_of_mem_filter member)
  rwa [List.nil_append, lies.whole] at sliced

/-- A result that is made from the places of a reading is true of the text. -/
theorem describes_ofCaptured (lies : c.segments.LiesOver pieces s) :
    (MatchResult.ofCaptured c (c.segments.captures pieces 0)).Describes s := by
  have sizes := lies.allowed.length_eq
  let kept := c.segments.keptCaptures pieces
  constructor
  case placed => exact ⟨pieces, lies, rfl⟩
  case counted =>
    have spans : (MatchResult.ofCaptured c (c.segments.captures pieces 0)).spans =
        kept.map (·.span) := rfl
    rw [slots_ofCaptured sizes, spans, List.length_map, List.length_map]
  case inside =>
    intro span member
    obtain ⟨x, inside, rfl⟩ := List.mem_map.mp member
    exact ⟨x.value, slice?_of_mem_keptCaptures lies inside⟩
  case ordered =>
    have ordered := (captures_ordered c.segments pieces 0).1
    exact List.pairwise_map.mpr (ordered.filter _)
  case named =>
    rw [slots_ofCaptured sizes, List.map_map]
    exact names_foldl kept
  case gathered =>
    intro f member
    have collects := collects_foldl kept f member
    have own := capturesNamed_ofCaptured sizes f.name
    constructor
    · rw [own, List.head?_map, Option.map_map]
      exact collects.typed
    · refine ⟨_, ?_, collects.valued⟩
      rw [own, List.map_map, List.map_map]
      apply List.map_congr_left
      intro x inside
      exact slice?_of_mem_keptCaptures lies (List.mem_of_mem_filter inside)

variable {combinations : List Combination} {registry : Registry} {result : MatchResult}

theorem exists_liesOver_of_matchCombinations
    (matched : matchCombinations s combinations registry = .ok (some result)) :
    ∃ c ∈ combinations, ∃ pieces, c.segments.LiesOver pieces s ∧
      result = .ofCaptured c (c.segments.captures pieces 0) := by
  rw [matchCombinations_eq] at matched
  obtain ⟨c, member, captured, walked, rfl⟩ := exists_of_matchReadings matched
  obtain ⟨pieces, proposed, whole, rfl⟩ := exists_proposed_of_walk walked
  exact ⟨c, member, pieces, ⟨proposed.allowed, whole⟩, rfl⟩

/-- Whatever matchers a registry has, an answer is for one of the combinations, and all that it says
about the input is true. -/
theorem matchCombinations_describes
    (matched : matchCombinations s combinations registry = .ok (some result)) :
    result.combination ∈ combinations ∧ result.Describes s := by
  obtain ⟨c, member, pieces, lies, rfl⟩ := exists_liesOver_of_matchCombinations matched
  exact ⟨member, describes_ofCaptured lies⟩

end Result

theorem matchCombinations_describes_tags :
    let proposer : Proposer := fun _ _ _ => .ok (some (.candidates [.ok "zz".toList, .ok ['a']]))
    let registry := Registry.builtin.register (.custom ['x']) (.plugin proposer)
    let segments : Reading := [.variable (.plain (some "tag".toList) (.custom ['x'])),
      .text ", ".toList, .variable (.plain none .word), .text "#".toList,
      .variable (.plain (some "tag".toList) .word), .text ";".toList,
      .variable (.plain none .database)]
    let tag : Field := ⟨some "tag".toList, .custom ['x'], .list [['a'], ['c']]⟩
    let result : MatchResult :=
      ⟨[tag, ⟨none, .database, .single ['d']⟩], ⟨segments, 17⟩, [⟨0, 1⟩, ⟨5, 6⟩, ⟨7, 8⟩]⟩
    matchCombinations "a, b#c;d".toList [⟨segments, 17⟩] registry = .ok (some result) ∧
      result.combination ∈ [⟨segments, 17⟩] ∧ result.Describes "a, b#c;d".toList := by
  intro proposer registry segments tag result
  have matched : matchCombinations "a, b#c;d".toList [⟨segments, 17⟩] registry =
      .ok (some result) := by cbv
  exact ⟨matched, matchCombinations_describes matched⟩

end NoteTemplate
