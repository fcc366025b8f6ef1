import NoteTemplate.Expansion.Readings
import NoteTemplate.Matching.Boundary
import NoteTemplate.Matching.Result

/-!
Matching an input against the readings of a pattern. The search goes through the readings in order
and, at each variable, through the proposed captures in order; it ends at the first way to use up
the whole input.
-/
namespace NoteTemplate

def firstAnswer {α : Type} (answer : Text → Except MatchError (Option α)) :
    List (Except MatchError Text) → Except MatchError (Option α)
  | [] => .ok none
  | .error e :: _ => .error e
  | .ok value :: values =>
    match answer value with
    | .ok none => firstAnswer answer values
    | found => found

/-- Lays the segments over the input from an offset on. -/
def walk (propose : Proposer) :
    List Segment → Nat → Text → Except MatchError (Option (List Captured))
  | [], _, remaining => .ok (if remaining.isEmpty then some [] else none)
  | .text literal :: segments, offset, remaining =>
    match remaining.stripPrefixCaseless? literal with
    | none => .ok none
    | some after =>
      walk propose segments (offset + Text.byteLength (remaining.take literal.length)) after
  | .variable v :: segments, offset, remaining =>
    match propose remaining v segments with
    | .error e => .error e
    | .ok capture =>
      firstAnswer
        (fun value =>
          match remaining.stripPrefix? value with
          | none => .ok none
          | some after =>
            let stop := offset + Text.byteLength value
            (walk propose segments stop after).map
              (Option.map (⟨v, value, ⟨offset, stop⟩⟩ :: ·)))
        (Capture.values capture)

def matchReadings (propose : Proposer) (input : Text) :
    List Combination → Except MatchError (Option MatchResult)
  | [] => .ok none
  | c :: cs =>
    match walk propose c.segments 0 input with
    | .error e => .error e
    | .ok (some captured) => .ok (some (.ofCaptured c captured))
    | .ok none => matchReadings propose input cs

def Segment.nesting : Segment → Nat
  | .text _ => 0
  | .variable v => v.nesting

def Combination.nesting (c : Combination) : Nat :=
  (c.segments.map Segment.nesting).foldr max 0

namespace Registry

def propose (r : Registry) (depth : Nat) (remaining : Text) (v : Variable)
    (following : List Segment) : Except MatchError (Option Capture) :=
  match r.find? v.inputType with
  | none => .error (.missingMatcher v.inputType)
  | some (.boundary accepts) => selectByBoundary remaining following fun t => .ok (accepts t)
  | some (.plugin propose) => propose remaining v following
  | some .subPattern =>
    match v.pattern, depth with
    | none, _ => .error (.missingSubPattern v.name)
    | some _, 0 => .ok none
    | some p, depth + 1 =>
      let combinations := expand p
      selectByBoundary remaining following fun t =>
        (matchReadings (r.propose depth) t combinations).map Option.isSome

end Registry

/-- Matches readings that are already expanded. Patterns nest no deeper than the readings show, so
the depth given to the matchers is never used up. -/
def matchCombinations (input : Text) (combinations : List Combination) (r : Registry) :
    Except MatchError (Option MatchResult) :=
  matchReadings (r.propose ((combinations.map Combination.nesting).foldr max 0)) input combinations

def matchPattern (input : Text) (p : Pattern) (r : Registry) :
    Except MatchError (Option MatchResult) :=
  match r.validate p with
  | .error e => .error e
  | .ok () => matchCombinations input (expand p) r

end NoteTemplate
