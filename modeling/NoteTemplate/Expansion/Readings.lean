import NoteTemplate.Expansion.Combination
import NoteTemplate.Expansion.Distinct

/-!
Expansion of a pattern into its ranked readings. Every choice is resolved in turn; specific
readings are put before generic ones.
-/
namespace NoteTemplate

/-- Each element of a list with the elements that remain when it is taken away. -/
def selections {α : Type} : List α → List (α × List α)
  | [] => []
  | x :: xs => (x, xs) :: (selections xs).map fun (y, ys) => (y, x :: ys)

/-- The orders of a list of the given length, by position and in lexicographic order. -/
def arrangements {α : Type} : Nat → List α → List (List α)
  | 0, _ => [[]]
  | n + 1, xs => (selections xs).flatMap fun (y, ys) => (arrangements n ys).map (y :: ·)

def permutations (n : Nat) : List (List Nat) := arrangements n (List.range n)

def cross {α : Type} (left right : List (List α)) : List (List α) :=
  left.flatMap fun l => right.map fun r => l ++ r

def tuples {α : Type} : List (List α) → List (List α)
  | [] => [[]]
  | xs :: xss => xs.flatMap fun x => (tuples xss).map (x :: ·)

mutual

def Pattern.readings : List Token → List Reading
  | [] => [[]]
  | t :: p => cross (Token.readings t) (Pattern.readings p)

def Token.readings : Token → List Reading
  | .text literal => [[.text literal]]
  | .variable v => [[.variable v]]
  | .optional body => [] :: Pattern.readings body
  | .variational branches => (Pattern.branchReadings branches).flatten
  | .anyOrder branches =>
    (tuples (Pattern.branchReadings branches)).flatMap fun tuple =>
      (arrangements tuple.length tuple).map List.flatten

def Pattern.branchReadings : List (List Token) → List (List Reading)
  | [] => []
  | p :: ps => Pattern.readings p :: Pattern.branchReadings ps

end

/-- The readings of a pattern by descending score, in the order of enumeration where scores are
equal, without those in which two variables meet. -/
def expand (p : Pattern) : List Combination :=
  let ranked := ((Pattern.readings p).map Combination.ofSegments).mergeSort
    fun a b => b.score ≤ a.score
  distinct (ranked.filter fun c => !c.hasAdjacentVariables)

end NoteTemplate
