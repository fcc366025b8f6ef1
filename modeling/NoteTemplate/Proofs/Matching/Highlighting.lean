import NoteTemplate.Proofs.Matching.Consistency

namespace NoteTemplate

/-- A text with the markers around the given spans, which follow one another from an offset on; the
text starts at this offset. -/
inductive Text.Marked (opening closing : Text) : (offset : Nat) → Text → List Span → Text → Prop
  | rest (offset : Nat) (t : Text) : Marked opening closing offset t [] t
  | wrap {offset start stop : Nat} {before value t marked : Text} {spans : List Span}
      (first : start = offset + before.byteLength) (last : stop = start + value.byteLength)
      (behind : Marked opening closing stop t spans marked) :
      Marked opening closing offset (before ++ (value ++ t)) (⟨start, stop⟩ :: spans)
        (before ++ opening ++ value ++ closing ++ marked)

/-- The spans that can be marked one after the other: each lies in the text, on character
boundaries, and starts no earlier than the last one has ended. -/
def Text.markable (t : Text) : (offset : Nat) → List Span → List Span
  | _, [] => []
  | offset, span :: spans =>
    if offset ≤ span.start ∧ (t.slice? span).isSome then span :: markable t span.stop spans
    else markable t offset spans

namespace Text

section Marked

variable {opening closing t marked : Text} {offset : Nat} {spans : List Span}

theorem Marked.ordered (marks : Marked opening closing offset t spans marked) :
    spans.Pairwise (fun a b => a.stop ≤ b.start) ∧ ∀ span ∈ spans, offset ≤ span.start := by
  induction marks with
  | rest => simp
  | @wrap offset start stop before value t marked spans first last behind ih =>
      constructor
      · exact List.pairwise_cons.mpr ⟨ih.2, ih.1⟩
      · intro span member
        rcases List.mem_cons.mp member with rfl | member
        · change offset ≤ start
          omega
        · have later := ih.2 span member
          omega

theorem Marked.eq_self (marks : Marked [] [] offset t spans marked) : marked = t := by
  induction marks with
  | rest => rfl
  | wrap _ _ _ ih => simp [ih]

end Marked

section Markable

variable {t : Text} {spans : List Span}

theorem markable_sublist (t : Text) (offset : Nat) (spans : List Span) :
    (t.markable offset spans).Sublist spans := by
  fun_induction markable t offset spans with
  | case1 => exact .slnil
  | case2 offset span spans fits ih => exact ih.cons_cons span
  | case3 offset span spans unfit ih => exact ih.cons span

theorem markable_eq_self {offset : Nat}
    (inside : ∀ span ∈ spans, ∃ value, t.slice? span = some value)
    (ordered : spans.Pairwise fun a b => a.stop ≤ b.start)
    (behind : ∀ span ∈ spans, offset ≤ span.start) : t.markable offset spans = spans := by
  induction spans generalizing offset with
  | nil => rfl
  | cons span spans ih =>
      obtain ⟨value, sliced⟩ := inside span List.mem_cons_self
      have later := List.pairwise_cons.mp ordered
      have rest := ih (fun other member => inside other (List.mem_cons_of_mem span member))
        later.2 later.1
      have fits : offset ≤ span.start ∧ (t.slice? span).isSome := by
        constructor
        · exact behind span List.mem_cons_self
        · rw [sliced]
          rfl
      rw [markable, if_pos fits, rest]

theorem exists_of_byteLength_le {front rest before after : Text}
    (same : front ++ rest = before ++ after) (shorter : front.byteLength ≤ before.byteLength) :
    ∃ mid, before = front ++ mid ∧ rest = mid ++ after := by
  rcases List.append_eq_append_iff.mp same with ⟨mid, longer, split⟩ | ⟨mid, longer, split⟩
  · exact ⟨mid, longer, split⟩
  · rw [longer, byteLength_append] at shorter
    have nothing : mid = [] := byteLength_eq_zero_iff.mp (by omega)
    subst nothing
    exact ⟨[], by simpa using longer.symm, by simpa using split.symm⟩

theorem exists_of_slice? {front rest value : Text} {span : Span}
    (sliced : (front ++ rest).slice? span = some value)
    (behind : front.byteLength ≤ span.start) :
    ∃ before after, rest = before ++ (value ++ after) ∧
      span.start = front.byteLength + before.byteLength ∧
      span.stop = span.start + value.byteLength := by
  obtain ⟨earlier, after, split, start, stop⟩ := slice?_eq_some_iff.mp sliced
  rw [start] at behind
  obtain ⟨before, rfl, remains⟩ := exists_of_byteLength_le split behind
  rw [byteLength_append] at start stop
  exact ⟨before, after, remains, start, by omega⟩

end Markable

end Text

section Highlight

variable {opening closing : Text}

theorem highlightFrom_wrap (front before value after : Text) (spans : List Span) :
    let start := front.byteLength + before.byteLength
    let stop := start + value.byteLength
    highlightFrom (front ++ (before ++ (value ++ after))) opening closing front.byteLength
        (⟨start, stop⟩ :: spans) =
      before ++ opening ++ value ++ closing ++
        highlightFrom (front ++ (before ++ (value ++ after))) opening closing stop spans := by
  intro start stop
  have gap : (front ++ (before ++ (value ++ after))).slice? ⟨front.byteLength, start⟩ =
      some before := Text.slice?_append front before (value ++ after)
  have sliced : (front ++ (before ++ (value ++ after))).slice? ⟨start, stop⟩ = some value := by
    apply Text.slice?_eq_some_iff.mpr
    refine ⟨front ++ before, after, by simp, ?_, ?_⟩
    · simp [start, Text.byteLength_append]
    · simp [stop, start, Text.byteLength_append]
  rw [highlightFrom, gap, sliced]

theorem highlightFrom_skip {t : Text} {offset : Nat} {span : Span}
    (unfit : ¬ (offset ≤ span.start ∧ (t.slice? span).isSome)) (spans : List Span) :
    highlightFrom t opening closing offset (span :: spans) =
      highlightFrom t opening closing offset spans := by
  rw [highlightFrom]
  split
  · rename_i before value gap sliced
    exfalso
    apply unfit
    obtain ⟨front, after, _, start, stop⟩ := Text.slice?_eq_some_iff.mp gap
    constructor
    · simp only at start stop
      omega
    · rw [sliced]
      rfl
  · rfl

theorem marked_highlightFrom (front rest : Text) (spans : List Span) :
    Text.Marked opening closing front.byteLength rest
      ((front ++ rest).markable front.byteLength spans)
      (highlightFrom (front ++ rest) opening closing front.byteLength spans) := by
  induction spans generalizing front rest with
  | nil =>
      have remains : (front ++ rest).dropBytes? front.byteLength = some rest := by
        simp [Text.dropBytes?, Text.splitAtByte?_byteLength_append]
      rw [Text.markable, highlightFrom, remains]
      exact .rest _ rest
  | cons span spans ih =>
      rw [Text.markable]
      by_cases fits : front.byteLength ≤ span.start ∧ ((front ++ rest).slice? span).isSome
      · obtain ⟨value, sliced⟩ := Option.isSome_iff_exists.mp fits.2
        obtain ⟨before, after, rfl, start, stop⟩ := Text.exists_of_slice? sliced fits.1
        obtain ⟨start', stop'⟩ := span
        simp only at start stop
        subst stop start
        rw [if_pos fits, highlightFrom_wrap]
        apply Text.Marked.wrap rfl rfl
        have behind := ih (front ++ (before ++ value)) after
        simpa [Text.byteLength_append, Nat.add_assoc] using behind
      · rw [if_neg fits, highlightFrom_skip fits]
        exact ih front rest

/-- Highlighting gives the text with the markers around spans of the result that follow one another:
those that lie in the text and start behind the last one marked. Without markers it gives the text
itself, and in the input of a match it passes over no span. -/
theorem highlight_marked (result : MatchResult) (t opening closing : Text) :
    let chosen := t.markable 0 result.spans
    Text.Marked opening closing 0 t chosen (result.highlight t opening closing) ∧
      chosen.Sublist result.spans ∧ chosen.Pairwise (fun a b => a.stop ≤ b.start) ∧
      result.highlight t [] [] = t ∧
      ∀ combinations registry,
        matchCombinations t combinations registry = .ok (some result) → chosen = result.spans := by
  intro chosen
  have marks (opening closing : Text) :
      Text.Marked opening closing 0 t chosen (result.highlight t opening closing) :=
    marked_highlightFrom [] t result.spans
  refine ⟨marks opening closing, Text.markable_sublist t 0 result.spans,
    (marks opening closing).ordered.1, (marks [] []).eq_self, ?_⟩
  intro combinations registry matched
  obtain ⟨c, _, pieces, lies, rfl⟩ := exists_liesOver_of_matchCombinations matched
  have describes := describes_ofCaptured lies
  apply Text.markable_eq_self describes.inside describes.ordered
  intro span _
  exact Nat.zero_le span.start

end Highlight

theorem highlight_marked_tag :
    let segments : Reading := [.text "#".toList, .variable (.plain (some "tag".toList) .word),
      .text " ".toList, .variable (.plain (some "note".toList) .text)]
    let tag : Field := ⟨some "tag".toList, .word, .single "idée".toList⟩
    let note : Field := ⟨some "note".toList, .text, .single "draw".toList⟩
    let result : MatchResult := ⟨[tag, note], ⟨segments, 7⟩, [⟨1, 6⟩, ⟨7, 11⟩]⟩
    let t : Text := "#idée draw".toList
    matchCombinations t [⟨segments, 7⟩] Registry.builtin = .ok (some result) ∧
      t.markable 0 result.spans = result.spans ∧
      Text.Marked "<".toList ">".toList 0 t result.spans "#<idée> <draw>".toList := by
  intro segments tag note result t
  have matched : matchCombinations "#idée draw".toList [⟨segments, 7⟩] Registry.builtin =
      .ok (some result) := by cbv
  have chosen : t.markable 0 result.spans = result.spans :=
    (highlight_marked result t [] []).2.2.2.2 _ _ matched
  have marked := (highlight_marked result t "<".toList ">".toList).1
  have shown : result.highlight t "<".toList ">".toList = "#<idée> <draw>".toList := by decide
  simp only [chosen, shown] at marked
  exact ⟨matched, chosen, marked⟩

example : Text.markable "aéb".toList 0 [⟨2, 3⟩, ⟨0, 1⟩, ⟨0, 3⟩, ⟨3, 1⟩, ⟨1, 3⟩, ⟨4, 9⟩] =
    [⟨0, 1⟩, ⟨1, 3⟩] := by decide

end NoteTemplate
