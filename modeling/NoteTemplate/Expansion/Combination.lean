import NoteTemplate.Pattern.Render

namespace NoteTemplate

inductive Segment where
  | text (literal : Text)
  | variable (slot : Variable)
  deriving DecidableEq

namespace Segment

def score : Segment → Nat
  | .text literal => 2 * literal.length
  | .variable v => v.inputType.weight

def render : Segment → Text
  | .text literal => literal
  | .variable v => v.render

end Segment

abbrev Reading := List Segment

namespace Reading

def consSegment : Segment → Reading → Reading
  | .text [], r => r
  | .text s, .text t :: r => .text (s ++ t) :: r
  | s, r => s :: r

/-- The reading without empty literals and without neighbouring literals. -/
def simplify (r : Reading) : Reading := r.foldr consSegment []

def score (r : Reading) : Nat := r.foldr (fun s n => s.score + n) 0

def hasAdjacentVariables : Reading → Bool
  | .variable _ :: .variable _ :: _ => true
  | _ :: r => hasAdjacentVariables r
  | [] => false

end Reading

structure Combination where
  segments : Reading
  score : Nat
  deriving DecidableEq

namespace Combination

def ofSegments (segments : Reading) : Combination :=
  ⟨segments.simplify, segments.simplify.score⟩

def hasAdjacentVariables (c : Combination) : Bool := c.segments.hasAdjacentVariables

def render (c : Combination) : Text := c.segments.flatMap Segment.render

instance : Hashable Combination where
  hash c := hash (String.ofList c.render)

end Combination

def Combination.variables (c : Combination) : List Variable :=
  c.segments.filterMap fun
    | .variable v => some v
    | .text _ => none

end NoteTemplate
