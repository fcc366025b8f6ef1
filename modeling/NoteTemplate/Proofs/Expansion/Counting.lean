import Mathlib
import NoteTemplate.Proofs.Expansion.Permutations

/-!
How many readings the enumeration of a pattern comes to, repetitions included. The number follows
the tree: a sequence multiplies, an optional part adds one, a choice adds up its branches, and an
any-order group multiplies its branches and their orders. An enumeration that goes through tokens
and branches from the left, and through the orders by number, lists the same readings.
-/
namespace NoteTemplate

mutual

def Pattern.readingCount : List Token → Nat
  | [] => 1
  | t :: p => Token.readingCount t * Pattern.readingCount p

def Token.readingCount : Token → Nat
  | .text _ => 1
  | .variable _ => 1
  | .optional body => 1 + Pattern.readingCount body
  | .variational branches => (Pattern.branchCounts branches).sum
  | .anyOrder branches => branches.length.factorial * (Pattern.branchCounts branches).prod

def Pattern.branchCounts : List (List Token) → List Nat
  | [] => []
  | p :: ps => Pattern.readingCount p :: Pattern.branchCounts ps

end

section Choices

variable {α : Type}

theorem length_cross (left right : List (List α)) :
    (cross left right).length = left.length * right.length := by
  simp [cross, List.length_flatMap]

theorem length_tuples (xss : List (List α)) :
    (tuples xss).length = (xss.map List.length).prod := by
  induction xss with
  | nil => rfl
  | cons xs xss ih => simp [tuples, List.length_flatMap, ih]

end Choices

theorem Pattern.branchReadings_eq_map (ps : List (List Token)) :
    Pattern.branchReadings ps = ps.map Pattern.readings := by
  induction ps with
  | nil => rfl
  | cons p ps ih => rw [Pattern.branchReadings, ih, List.map_cons]

theorem Pattern.length_of_mem_tuples {ps : List (List Token)} {tuple : List Reading}
    (chosen : tuple ∈ tuples (Pattern.branchReadings ps)) : tuple.length = ps.length := by
  rw [(mem_tuples.mp chosen).length_eq, branchReadings_eq_map, List.length_map]

mutual

theorem Pattern.length_readings_eq : ∀ p : List Token,
    (Pattern.readings p).length = Pattern.readingCount p
  | [] => rfl
  | t :: p => by
      rw [Pattern.readings, length_cross, Token.length_readings_eq t, Pattern.length_readings_eq p,
        Pattern.readingCount]

theorem Token.length_readings_eq : ∀ t : Token,
    (Token.readings t).length = Token.readingCount t
  | .text _ => rfl
  | .variable _ => rfl
  | .optional body => by
      rw [Token.readings, List.length_cons, Pattern.length_readings_eq body, Token.readingCount,
        Nat.add_comm]
  | .variational branches => by
      rw [Token.readings, List.length_flatten, Pattern.map_length_branchReadings branches,
        Token.readingCount]
  | .anyOrder branches => by
      have counts := Pattern.map_length_branchReadings branches
      -- Every choice of readings has a part for each branch, so all have equally many orders.
      have each : ∀ tuple ∈ tuples (Pattern.branchReadings branches),
          ((arrangements tuple.length tuple).map List.flatten).length =
            branches.length.factorial := by
        intro tuple chosen
        rw [List.length_map, length_arrangements rfl, Pattern.length_of_mem_tuples chosen]
      rw [Token.readings, List.length_flatMap, List.map_congr_left each, List.map_const',
        List.sum_replicate_nat, length_tuples, counts, Token.readingCount, Nat.mul_comm]

theorem Pattern.map_length_branchReadings : ∀ ps : List (List Token),
    (Pattern.branchReadings ps).map List.length = Pattern.branchCounts ps
  | [] => rfl
  | p :: ps => by
      rw [Pattern.branchReadings, List.map_cons, Pattern.length_readings_eq p,
        Pattern.map_length_branchReadings ps, Pattern.branchCounts]

end

section Loops

variable {α : Type}

def collected (xss : List (List α)) : List (List α) :=
  xss.foldl (fun begun xs => begun.flatMap fun tuple => xs.map fun x => tuple ++ [x]) [[]]

/-- The parts of a tuple in each order of the numbers below `n`. An order that asks for a part
behind the last one has no result. -/
def ordered? (n : Nat) (tuple : List (List α)) : List (Option (List α)) :=
  (permutations n).map fun order => (order.mapM fun i => tuple[i]?).map List.flatten

theorem cross_nil_right (left : List (List α)) : cross left [[]] = left := by
  simp [cross]

theorem cross_assoc (first second third : List (List α)) :
    cross (cross first second) third = cross first (cross second third) := by
  simp [cross, List.flatMap_assoc, List.flatMap_map, List.map_flatMap, Function.comp_def]

theorem foldl_cross (p : List Token) (begun : List Reading) :
    p.foldl (fun begun t => cross begun (Token.readings t)) begun =
      cross begun (Pattern.readings p) := by
  induction p generalizing begun with
  | nil => exact (cross_nil_right begun).symm
  | cons t p ih => rw [List.foldl_cons, ih, cross_assoc, Pattern.readings]

theorem foldl_collect (xss begun : List (List α)) :
    xss.foldl (fun begun xs => begun.flatMap fun tuple => xs.map fun x => tuple ++ [x]) begun =
      begun.flatMap fun tuple => (tuples xss).map fun rest => tuple ++ rest := by
  induction xss generalizing begun with
  | nil => simp [tuples]
  | cons xs xss ih =>
      rw [List.foldl_cons, ih, List.flatMap_assoc]
      refine List.flatMap_congr fun tuple _ => ?_
      simp [tuples, List.flatMap_map, List.map_flatMap, Function.comp_def]

theorem collected_eq_tuples (xss : List (List α)) : collected xss = tuples xss := by
  rw [collected, foldl_collect]
  simp

theorem mapM_id_map_some (xs : List α) : (xs.map some).mapM id = some xs := by
  rw [List.mapM_map]
  exact List.mapM_pure.trans (congrArg some (List.map_id xs))

theorem ordered?_eq_map (tuple : List (List α)) :
    ordered? tuple.length tuple =
      ((arrangements tuple.length tuple).map List.flatten).map some := by
  calc
    ordered? tuple.length tuple =
        ((permutations tuple.length).map (List.map fun i => tuple[i]?)).map
          fun parts => (parts.mapM id).map List.flatten := by
      rw [List.map_map]
      refine List.map_congr_left fun order _ => ?_
      rw [Function.comp_apply, List.mapM_map]
      rfl
    _ = ((arrangements tuple.length tuple).map (List.map some)).map
          fun parts => (parts.mapM id).map List.flatten := by
      rw [arrangements_eq_permutations]
    _ = ((arrangements tuple.length tuple).map List.flatten).map some := by
      rw [List.map_map, List.map_map]
      refine List.map_congr_left fun order _ => ?_
      rw [Function.comp_apply, mapM_id_map_some]
      rfl

end Loops

/-- The enumeration of a pattern comes to as many readings as the recursion over its tree gives,
repetitions included. It is the enumeration that takes the tokens from the left, collects the
readings of an any-order group branch by branch, and looks up the parts of each order. -/
theorem Pattern.length_readings (p : Pattern) :
    (readings p).length = readingCount p ∧
      p.foldl (fun begun t => cross begun (Token.readings t)) [[]] = readings p ∧
      ∀ branches, (collected (branches.map readings)).flatMap (ordered? branches.length) =
        (Token.readings (.anyOrder branches)).map some := by
  refine ⟨length_readings_eq p, ?_, fun branches => ?_⟩
  · rw [foldl_cross]
    simp [cross]
  · rw [Token.readings, ← branchReadings_eq_map, collected_eq_tuples, List.map_flatMap]
    refine List.flatMap_congr fun tuple chosen => ?_
    rw [← length_of_mem_tuples chosen, ordered?_eq_map]

example : (Pattern.readings [.optional [.optional [.text ['a']]]]).length = 3 := rfl

end NoteTemplate
