import NoteTemplate.Proofs.Matching.Depth
import NoteTemplate.Proofs.Matching.Search

/-!
The search tree of a match and its outcomes. The tree is listed in full, depth first, without ever
stopping; matching returns the first outcome of that list.
-/
namespace NoteTemplate

/-- How a path of the search ends: with captures that use up the whole input, or with a fault. A
path that gets stuck has no outcome. -/
inductive SearchOutcome where
  | success (captures : List Captured)
  | failure (error : MatchError)

namespace Registry

/-- What the matcher of a variable answers. Nested patterns are matched with the same registry. -/
def answer (r : Registry) (remaining : Text) (v : Variable) (following : List Segment) :
    Except MatchError (Option Capture) :=
  match r.find? v.inputType with
  | none => .error (.missingMatcher v.inputType)
  | some (.plugin propose) => propose remaining v following
  | some (.boundary accepts) => selectByBoundary remaining following fun t => .ok (accepts t)
  | some .subPattern =>
    match v.pattern with
    | none => .error (.missingSubPattern v.name)
    | some p => selectByBoundary remaining following fun t =>
      (matchCombinations t (expand p) r).map Option.isSome

theorem capture_eq_answer (r : Registry) (remaining : Text) (v : Variable)
    (following : List Segment) :
    r.capture remaining v following = r.answer remaining v following := by
  unfold answer
  cases found : r.find? v.inputType with
  | none => exact capture_of_missing found remaining following
  | some matcher =>
      cases matcher with
      | boundary accepts => exact capture_of_boundary found remaining following
      | plugin propose =>
          unfold capture Registry.propose
          simp only [found]
      | subPattern =>
          cases nested : v.pattern with
          | some p => exact capture_of_subPattern found nested remaining following
          | none =>
              unfold capture Registry.propose
              simp only [found, nested]

/-- The outcomes behind a node of the search tree, from left to right. The node is reached with the
captures of `path` once `consumed` is read. -/
def outcomes (r : Registry) : List Segment → (consumed : Text) → (path : List Captured) →
    (remaining : Text) → List SearchOutcome
  | [], _, path, remaining => if remaining.isEmpty then [.success path] else []
  | .text literal :: segments, consumed, path, remaining =>
    match remaining.stripPrefixCaseless? literal with
    | none => []
    | some after => r.outcomes segments (consumed ++ remaining.take literal.length) path after
  | .variable v :: segments, consumed, path, remaining =>
    match r.answer remaining v segments with
    | .error e => [.failure e]
    | .ok capture => (Capture.values capture).flatMap fun
      | .error e => [.failure e]
      | .ok value =>
        match remaining.stripPrefix? value with
        | none => []
        | some after =>
          let span : Span := ⟨consumed.byteLength, (consumed ++ value).byteLength⟩
          r.outcomes segments (consumed ++ value) (path ++ [⟨v, value, span⟩]) after

def searchOutcomes (r : Registry) (input : Text) (combinations : List Combination) :
    List (Combination × SearchOutcome) :=
  combinations.flatMap fun c => (r.outcomes c.segments [] [] input).map fun o => (c, o)

end Registry

section First

def firstOutcome : List SearchOutcome → Except MatchError (Option (List Captured))
  | [] => .ok none
  | .success captures :: _ => .ok (some captures)
  | .failure e :: _ => .error e

theorem firstOutcome_append (front back : List SearchOutcome) :
    firstOutcome (front ++ back) =
      match firstOutcome front with
      | .ok none => firstOutcome back
      | found => found := by
  cases front with
  | nil => rfl
  | cons o front => cases o <;> rfl

theorem firstOutcome_flatMap {path : List Captured}
    {answer : Text → Except MatchError (Option (List Captured))}
    {behind : Text → List SearchOutcome}
    (agree : ∀ value, firstOutcome (behind value) = (answer value).map (Option.map (path ++ ·)))
    (values : List (Except MatchError Text)) :
    firstOutcome (values.flatMap fun
      | .error e => [.failure e]
      | .ok value => behind value) = (firstAnswer answer values).map (Option.map (path ++ ·)) := by
  induction values with
  | nil => rfl
  | cons x values ih =>
      rw [List.flatMap_cons, firstOutcome_append]
      cases x with
      | error e => rfl
      | ok value =>
          simp only [agree value, firstAnswer]
          rcases answer value with e | _ | captures
          · rfl
          · exact ih
          · rfl

def reportFirst : List (Combination × SearchOutcome) → Except MatchError (Option MatchResult)
  | [] => .ok none
  | (c, .success captures) :: _ => .ok (some (.ofCaptured c captures))
  | (_, .failure e) :: _ => .error e

theorem reportFirst_append (c : Combination) (front : List SearchOutcome)
    (back : List (Combination × SearchOutcome)) :
    reportFirst (front.map (fun o => (c, o)) ++ back) =
      match firstOutcome front with
      | .error e => .error e
      | .ok (some captures) => .ok (some (.ofCaptured c captures))
      | .ok none => reportFirst back := by
  cases front with
  | nil => rfl
  | cons o front => cases o <;> rfl

end First

namespace Registry

variable (r : Registry)

theorem firstOutcome_outcomes (segments : List Segment) (consumed : Text) (path : List Captured)
    (remaining : Text) :
    firstOutcome (r.outcomes segments consumed path remaining) =
      (walk r.capture segments consumed.byteLength remaining).map (Option.map (path ++ ·)) := by
  induction segments generalizing consumed path remaining with
  | nil =>
      rw [outcomes, walk]
      by_cases empty : remaining.isEmpty
      · simp [empty, firstOutcome, Except.map]
      · simp [empty, firstOutcome, Except.map]
  | cons segment segments ih =>
      rcases segment with literal | v
      · rw [outcomes, walk]
        cases remaining.stripPrefixCaseless? literal with
        | none => rfl
        | some after => simp only [ih, Text.byteLength_append]
      · rw [outcomes, walk_variable, capture_eq_answer]
        cases r.answer remaining v segments with
        | error e => rfl
        | ok capture =>
            -- Each proposed value leads to a subtree of its own for the segments behind.
            apply firstOutcome_flatMap
            intro value
            rw [walkBehind]
            cases remaining.stripPrefix? value with
            | none => rfl
            | some after =>
                simp only [ih, Text.byteLength_append]
                rcases walk r.capture segments _ after with e | _ | captures
                · rfl
                · rfl
                · simp [Except.map]

theorem firstOutcome_root (segments : List Segment) (input : Text) :
    firstOutcome (r.outcomes segments [] [] input) = walk r.capture segments 0 input := by
  have whole := r.firstOutcome_outcomes segments [] [] input
  rw [whole, Text.byteLength]
  rcases walk r.capture segments 0 input with e | _ | captures <;> rfl

/-- Matching reports the first outcome of the search tree: neither an abandoned path nor a fault
behind the first success has any part in the answer. -/
theorem matchCombinations_eq_reportFirst (input : Text) (combinations : List Combination) :
    matchCombinations input combinations r = reportFirst (r.searchOutcomes input combinations) := by
  rw [matchCombinations_eq]
  induction combinations with
  | nil => rfl
  | cons c cs ih =>
      have split : r.searchOutcomes input (c :: cs) =
          (r.outcomes c.segments [] [] input).map (fun o => (c, o)) ++
            r.searchOutcomes input cs := by
        simp [searchOutcomes]
      rw [matchReadings, split, reportFirst_append, firstOutcome_root]
      rcases walk r.capture c.segments 0 input with e | _ | captures
      · rfl
      · exact ih
      · rfl

end Registry

end NoteTemplate
