import NoteTemplate.Proofs.Matching.Filling
import NoteTemplate.Proofs.Matching.Outcomes

/-!
The search with one list of captures for all its paths. A capture is put at the end of the list
before the path behind it is tried, and the list is cut back where that path fails. Captures are
places in the input until a path has come to its end; only then are their values read.
-/
namespace NoteTemplate

structure PlacedCapture where
  slot : Variable
  span : Span

def Captured.placed (x : Captured) : PlacedCapture := ⟨x.slot, x.span⟩

abbrev Descent := Except MatchError (Bool × List PlacedCapture)

/-- Tries some values for a variable. The list has `depth` captures when each of them is tried. -/
def tryValues (behind : Text → List PlacedCapture → Descent) (v : Variable) (start depth : Nat)
    (remaining : Text) : List (Except MatchError Text) → List PlacedCapture → Descent
  | [], captures => .ok (false, captures)
  | .error e :: _, _ => .error e
  | .ok value :: values, captures =>
    match remaining.stripPrefix? value with
    | none => tryValues behind v start depth remaining values captures
    | some after =>
      match behind after (captures ++ [⟨v, ⟨start, start + value.byteLength⟩⟩]) with
      | .error e => .error e
      | .ok (true, captures) => .ok (true, captures)
      | .ok (false, captures) =>
        tryValues behind v start depth remaining values (captures.take depth)

/-- Lays the segments over what remains of an input of the given size. -/
def descend (propose : Proposer) (size : Nat) :
    List Segment → Text → List PlacedCapture → Descent
  | [], remaining, captures => .ok (remaining.isEmpty, captures)
  | .text literal :: segments, remaining, captures =>
    match remaining.stripPrefixCaseless? literal with
    | none => .ok (false, captures)
    | some after => descend propose size segments after captures
  | .variable v :: segments, remaining, captures =>
    match propose remaining v segments with
    | .error e => .error e
    | .ok capture =>
      tryValues (fun after captures => descend propose size segments after captures) v
        (size - remaining.byteLength) captures.length remaining (Capture.values capture) captures

def MatchResult.record? (input : Text) (result : MatchResult) (x : PlacedCapture) :
    Option MatchResult :=
  if x.slot.isCaptured then
    (input.slice? x.span).map fun value =>
      { result with
        fields := addCapture ⟨x.slot, value, x.span⟩ result.fields
        spans := result.spans ++ [x.span] }
  else some result

def matchShared? (propose : Proposer) (input : Text) :
    List Combination → Option (Except MatchError (Option MatchResult))
  | [] => some (.ok none)
  | c :: cs =>
    match descend propose input.byteLength c.segments input [] with
    | .error e => some (.error e)
    | .ok (true, captures) =>
      (captures.foldlM (MatchResult.record? input) ⟨[], c, []⟩).map fun result =>
        .ok (some result)
    | .ok (false, _) => matchShared? propose input cs

section Descent

variable {propose : Proposer} {size : Nat}

/-- The list as a path leaves it: as it was, or with the captures of the path at its end. -/
def leave (captures : List PlacedCapture) : Option (List Captured) → Bool × List PlacedCapture
  | none => (false, captures)
  | some more => (true, captures ++ more.map Captured.placed)

theorem offset_behind {remaining piece after : Text} (split : remaining = piece ++ after)
    (within : remaining.byteLength ≤ size) :
    after.byteLength ≤ size ∧
      size - remaining.byteLength + piece.byteLength = size - after.byteLength := by
  have sizes : remaining.byteLength = piece.byteLength + after.byteLength := by
    rw [split, Text.byteLength_append]
  omega

theorem tryValues_eq {segments : List Segment} (v : Variable) {remaining : Text}
    (within : remaining.byteLength ≤ size)
    (behind : ∀ after captures, after.byteLength ≤ size →
      descend propose size segments after captures =
        (walk propose segments (size - after.byteLength) after).map (leave captures))
    (values : List (Except MatchError Text)) (captures : List PlacedCapture) :
    tryValues (descend propose size segments) v (size - remaining.byteLength) captures.length
        remaining values captures =
      (firstAnswer (walkBehind propose v segments (size - remaining.byteLength) remaining)
        values).map (leave captures) := by
  induction values with
  | nil => rfl
  | cons x values ih =>
      cases x with
      | error e => rfl
      | ok value =>
          rw [tryValues, firstAnswer, walkBehind]
          cases stripped : remaining.stripPrefix? value with
          | none => exact ih
          | some after =>
              rcases offset_behind (Text.eq_append_of_stripPrefix? stripped) within with
                ⟨within', stop⟩
              have found := behind after
                (captures ++ [⟨v, ⟨size - remaining.byteLength, size - after.byteLength⟩⟩]) within'
              simp only [stop, found]
              rcases walk propose segments (size - after.byteLength) after with e | _ | more
              · rfl
              · -- The cut takes away the capture that was put at the end, and nothing else.
                simpa [Except.map, leave] using ih
              · simp [Except.map, leave, Captured.placed]

/-- A path finds what the search without a shared list finds. Where it finds nothing, the list is as
it was. -/
theorem descend_eq (segments : List Segment) (remaining : Text) (captures : List PlacedCapture)
    (within : remaining.byteLength ≤ size) :
    descend propose size segments remaining captures =
      (walk propose segments (size - remaining.byteLength) remaining).map (leave captures) := by
  induction segments generalizing remaining captures with
  | nil =>
      rw [descend, walk]
      by_cases empty : remaining.isEmpty
      · simp [empty, Except.map, leave]
      · simp [empty, Except.map, leave]
  | cons segment segments ih =>
      rcases segment with literal | v
      · rw [descend, walk]
        cases stripped : remaining.stripPrefixCaseless? literal with
        | none => rfl
        | some after =>
            rcases Text.stripPrefixCaseless?_eq_some_iff.mp stripped with ⟨piece, split, same⟩
            rcases offset_behind split within with ⟨within', stop⟩
            have read : remaining.take literal.length = piece := by
              rw [split, ← same.length_eq, List.take_left]
            simp only [read, stop]
            exact ih after captures within'
      · rw [descend, walk_variable]
        cases propose remaining v segments with
        | error e => rfl
        | ok capture => exact tryValues_eq v within ih (Capture.values capture) captures

theorem captures_of_descend {segments : List Segment} {remaining : Text}
    {captures left : List PlacedCapture} (within : remaining.byteLength ≤ size)
    (failed : descend propose size segments remaining captures = .ok (false, left)) :
    left = captures := by
  rw [descend_eq segments remaining captures within] at failed
  cases walked : walk propose segments (size - remaining.byteLength) remaining with
  | error e => simp [walked, Except.map] at failed
  | ok found =>
      cases found with
      | none => simpa [walked, Except.map, leave] using failed.symm
      | some more => simp [walked, Except.map, leave] at failed

end Descent

section Readings

variable {propose : Proposer} {input : Text}

theorem foldlM_record? {captured : List Captured}
    (marked : ∀ x ∈ captured, input.slice? x.span = some x.value) (result : MatchResult) :
    (captured.map Captured.placed).foldlM (MatchResult.record? input) result =
      let kept := captured.filter (·.slot.isCaptured)
      some ⟨kept.foldl (fun fields x => addCapture x fields) result.fields, result.combination,
        result.spans ++ kept.map (·.span)⟩ := by
  induction captured generalizing result with
  | nil => simp
  | cons x captured ih =>
      obtain ⟨first, rest⟩ := List.forall_mem_cons.mp marked
      rw [List.map_cons, List.foldlM_cons, MatchResult.record?]
      by_cases kept : x.slot.isCaptured
      · simp [Captured.placed, kept, first, ih rest]
      · simp [Captured.placed, kept, ih rest]

theorem foldlM_record?_of_walk {c : Combination} {captured : List Captured}
    (walked : walk propose c.segments 0 input = .ok (some captured)) :
    (captured.map Captured.placed).foldlM (MatchResult.record? input) ⟨[], c, []⟩ =
      some (.ofCaptured c captured) := by
  obtain ⟨pieces, _, whole, places⟩ := exists_proposed_of_walk walked
  apply foldlM_record?
  intro x member
  rw [places] at member
  have sliced := slice?_of_mem_captures [] member
  rwa [List.nil_append, whole] at sliced

/-- Matching with shared captures never cuts the input where it cannot be cut, and gives the same
answer. -/
theorem matchShared?_eq (propose : Proposer) (input : Text) (combinations : List Combination) :
    matchShared? propose input combinations = some (matchReadings propose input combinations) := by
  induction combinations with
  | nil => rfl
  | cons c cs ih =>
      have path : descend propose input.byteLength c.segments input [] = _ :=
        descend_eq c.segments input [] (Nat.le_refl _)
      rw [Nat.sub_self] at path
      rw [matchShared?, matchReadings, path]
      cases walked : walk propose c.segments 0 input with
      | error e => rfl
      | ok found =>
          cases found with
          | none => exact ih
          | some captured =>
              simp [Except.map, leave, foldlM_record?_of_walk walked]

end Readings

theorem Registry.matchShared?_answer (r : Registry) (input : Text)
    (combinations : List Combination) :
    matchShared? r.answer input combinations = some (matchCombinations input combinations r) := by
  have same : r.answer = r.capture := by
    funext remaining v following
    exact (r.capture_eq_answer remaining v following).symm
  rw [same, matchShared?_eq, matchCombinations_eq]

end NoteTemplate
