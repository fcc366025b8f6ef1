import Std.Data.HashSet.Lemmas

/-!
The distinct elements of a list, in the order in which they first occur. The elements met so far are
kept in a hash set; `distinct_eq_eraseDups` says the same without one.
-/
namespace NoteTemplate

variable {α : Type} [DecidableEq α] [Hashable α]

def distinctFrom (seen : Std.HashSet α) : List α → List α
  | [] => []
  | x :: xs =>
    if seen.contains x then distinctFrom seen xs else x :: distinctFrom (seen.insert x) xs

def distinct (xs : List α) : List α := distinctFrom ∅ xs

theorem distinctFrom_eq (seen : Std.HashSet α) (xs : List α) :
    distinctFrom seen xs = (xs.filter fun x => !seen.contains x).eraseDups := by
  induction xs generalizing seen with
  | nil => rfl
  | cons x xs ih =>
    by_cases h : seen.contains x
    · simp [distinctFrom, h, ih]
    · have shown : (!seen.contains x) = true := by simpa using h
      have step : (xs.filter fun y => !(seen.insert x).contains y) =
          (xs.filter fun y => !seen.contains y).filter fun y => !y == x := by
        rw [List.filter_filter]
        congr 1
        funext y
        rw [Std.HashSet.contains_insert, Bool.not_or, BEq.comm]
      rw [distinctFrom, if_neg h, ih, step, List.filter_cons, if_pos shown, List.eraseDups_cons]

theorem distinct_eq_eraseDups (xs : List α) : distinct xs = xs.eraseDups := by
  rw [distinct, distinctFrom_eq, List.filter_eq_self.2 (by simp)]

end NoteTemplate
