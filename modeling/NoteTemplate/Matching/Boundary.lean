import NoteTemplate.Matching.Capture
import NoteTemplate.Text.Caseless

/-!
Captures that end where the next literal begins. The input is cut at every occurrence of that
literal, the longest capture first; without a following literal the whole input is captured.
-/
namespace NoteTemplate

def followingText? : List Segment → Option Text
  | .text literal :: _ => some literal
  | _ => none

def accepted (validate : Text → Except MatchError Bool) :
    List Text → List (Except MatchError Text)
  | [] => []
  | value :: values =>
    match validate value with
    | .error e => [.error e]
    | .ok true => .ok value :: accepted validate values
    | .ok false => accepted validate values

/-- The non-empty beginnings of a text that end at the given offsets, the last one first. -/
def beginnings (t : Text) (ends : List Nat) : List Text :=
  (ends.reverse.filter (· ≠ 0)).map fun n => Text.takeBytes n t

def selectByBoundary (remaining : Text) (following : List Segment)
    (validate : Text → Except MatchError Bool) : Except MatchError (Option Capture) :=
  match followingText? following with
  | none =>
    if remaining.isEmpty then .ok none
    else match validate remaining with
      | .error e => .error e
      | .ok true => .ok (some (.single remaining))
      | .ok false => .ok none
  | some literal =>
    let ends := Text.findAllCaseless remaining literal
    if ends.isEmpty then .ok none
    else .ok (some (.candidates (accepted validate (beginnings remaining ends))))

end NoteTemplate
