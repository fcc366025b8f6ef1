import NoteTemplate.Proofs.Expansion.Enumeration
import Mathlib.Data.List.Lex
import Mathlib.Data.Nat.Factorial.Basic

/-!
The orders of the numbers below `n`: each of them once, and in lexicographic order. A search that
keeps one beginning and one mark for each number, and changes both as it goes, lists the same
orders and leaves both as it found them.
-/
namespace NoteTemplate

section Arrangements

variable {α β : Type} {xs : List α} {n : Nat}

theorem map_fst_selections (xs : List α) : (selections xs).map Prod.fst = xs := by
  induction xs with
  | nil => rfl
  | cons x xs ih =>
      rw [selections, List.map_cons, List.map_map]
      exact congrArg (x :: ·) ih

theorem sublist_of_mem_selections {y : α} {ys : List α} (selected : (y, ys) ∈ selections xs) :
    ys.Sublist xs := by
  induction xs generalizing ys with
  | nil => cases selected
  | cons x xs ih =>
      rcases List.mem_cons.mp selected with same | later
      · cases same
        exact List.sublist_cons_self _ _
      · obtain ⟨⟨z, zs⟩, inside, same⟩ := List.mem_map.mp later
        cases same
        exact (ih inside).cons_cons _

theorem length_of_mem_selections {y : α} {ys : List α} (length : xs.length = n + 1)
    (selected : (y, ys) ∈ selections xs) : ys.length = n := by
  have total := (perm_of_mem_selections selected).length_eq
  rw [length, List.length_cons] at total
  exact Nat.succ.inj total.symm

theorem length_arrangements (length : xs.length = n) :
    (arrangements n xs).length = n.factorial := by
  induction n generalizing xs with
  | zero => rfl
  | succ n ih =>
      have each : ∀ s ∈ selections xs,
          ((arrangements n s.2).map (s.1 :: ·)).length = n.factorial := by
        intro s selected
        rw [List.length_map]
        exact ih (length_of_mem_selections length selected)
      have count : (selections xs).length = n + 1 := by
        rw [← length, ← List.length_map (f := Prod.fst), map_fst_selections]
      rw [arrangements, List.length_flatMap, List.map_congr_left each, List.map_const',
        List.sum_replicate_nat, count, Nat.factorial_succ]

theorem pairwise_arrangements {xs : List Nat} (ascending : xs.Pairwise (· < ·)) (n : Nat) :
    (arrangements n xs).Pairwise (· < ·) := by
  induction n generalizing xs with
  | zero => exact List.pairwise_singleton _ _
  | succ n ih =>
      have heads : (selections xs).Pairwise fun s s' => s.1 < s'.1 := by
        rw [← List.pairwise_map, map_fst_selections]
        exact ascending
      rw [arrangements, List.pairwise_flatMap]
      constructor
      · intro s selected
        rw [List.pairwise_map]
        have rest := ascending.sublist (sublist_of_mem_selections selected)
        exact (ih rest).imp fun lower => List.cons_lt_cons_iff.mpr (.inr ⟨rfl, lower⟩)
      · refine heads.imp fun {s s'} lower order first order' second => ?_
        obtain ⟨rest, _, rfl⟩ := List.mem_map.mp first
        obtain ⟨rest', _, rfl⟩ := List.mem_map.mp second
        exact List.cons_lt_cons_iff.mpr (.inl lower)

theorem selections_eq_map [DecidableEq α] (single : xs.Nodup) :
    selections xs = xs.map fun x => (x, xs.erase x) := by
  induction xs with
  | nil => rfl
  | cons x xs ih =>
      obtain ⟨absent, single⟩ := List.nodup_cons.mp single
      rw [selections, ih single, List.map_map, List.map_cons, List.erase_cons_head]
      refine congrArg _ (List.map_congr_left fun y inside => ?_)
      have other : ¬ (x == y) = true := by
        intro same
        rw [eq_of_beq same] at absent
        exact absent inside
      simp only [Function.comp_apply, List.erase_cons_tail other]

theorem selections_map (f : α → β) (xs : List α) :
    selections (xs.map f) = (selections xs).map fun s => (f s.1, s.2.map f) := by
  induction xs with
  | nil => rfl
  | cons x xs ih => simp [selections, ih]

theorem arrangements_map (f : α → β) (n : Nat) (xs : List α) :
    arrangements n (xs.map f) = (arrangements n xs).map (List.map f) := by
  induction n generalizing xs with
  | zero => rfl
  | succ n ih =>
      rw [arrangements, arrangements, selections_map, List.flatMap_map, List.map_flatMap]
      refine List.flatMap_congr fun s _ => ?_
      simp only [ih, List.map_map]
      rfl

theorem arrangements_eq_permutations (xs : List α) :
    (arrangements xs.length xs).map (List.map some) =
      (permutations xs.length).map (List.map fun i => xs[i]?) := by
  have places : xs.map some = (List.range xs.length).map fun i => xs[i]? := by
    apply List.ext_getElem
    · simp
    · intro i bound _
      rw [List.length_map] at bound
      simp [bound]
  calc
    (arrangements xs.length xs).map (List.map some) = arrangements xs.length (xs.map some) :=
      (arrangements_map some xs.length xs).symm
    _ = arrangements xs.length ((List.range xs.length).map fun i => xs[i]?) := by rw [places]
    _ = _ := arrangements_map _ _ _

end Arrangements

structure OrderSearch where
  chosen : List Nat
  used : List Bool
  found : List (List Nat)

namespace OrderSearch

def choose (s : OrderSearch) (i : Nat) : OrderSearch :=
  { s with chosen := s.chosen ++ [i], used := s.used.set i true }

def takeBack (s : OrderSearch) (i : Nat) : OrderSearch :=
  { s with chosen := s.chosen.dropLast, used := s.used.set i false }

def record (s : OrderSearch) (orders : List (List Nat)) : OrderSearch :=
  { s with found := s.found ++ orders }

def unused (s : OrderSearch) : List Nat :=
  (List.range s.used.length).filter fun i => s.used[i]? = some false

def orders (s : OrderSearch) : List (List Nat) :=
  (arrangements s.unused.length s.unused).map (s.chosen ++ ·)

/-- The order at hand lacks as many numbers as are not in use. -/
def Consistent (s : OrderSearch) : Prop := s.chosen.length + s.unused.length = s.used.length

def tryNumber (inner : OrderSearch → Option OrderSearch) (s : OrderSearch) (i : Nat) :
    Option OrderSearch := do
  let inUse ← s.used[i]?
  if inUse then some s
  else
    let back ← inner (s.choose i)
    some (back.takeBack i)

/-- Goes through the orders that begin with the chosen numbers. A look behind the last mark has no
result, and neither has a search that goes deeper than is allowed for. -/
def extend? : (depth : Nat) → OrderSearch → Option OrderSearch
  | 0, _ => none
  | depth + 1, s =>
    if s.chosen.length = s.used.length then some (s.record [s.chosen])
    else (List.range s.used.length).foldlM (tryNumber (extend? depth)) s

variable {s : OrderSearch} {i : Nat}

theorem record_nil (s : OrderSearch) : s.record [] = s := by
  rw [record, List.append_nil]

theorem record_record (s : OrderSearch) (orders orders' : List (List Nat)) :
    (s.record orders).record orders' = s.record (orders ++ orders') := by
  simp only [record, List.append_assoc]

theorem tryNumber_used {inner : OrderSearch → Option OrderSearch}
    (inUse : s.used[i]? = some true) : tryNumber inner s i = some s := by
  simp [tryNumber, inUse]

theorem tryNumber_unused {inner : OrderSearch → Option OrderSearch} {more : List (List Nat)}
    (free : s.used[i]? = some false)
    (within : inner (s.choose i) = some ((s.choose i).record more)) :
    tryNumber inner s i = some (s.record more) := by
  have same : (s.used.set i true).set i false = s.used := by
    obtain ⟨bound, mark⟩ := List.getElem?_eq_some_iff.mp free
    rw [List.set_set, ← mark, List.set_getElem_self]
  have back : ((s.choose i).record more).takeBack i = s.record more := by
    simp only [takeBack, record, choose, same, List.dropLast_concat]
  simp only [tryNumber, free, within, back, Option.bind_eq_bind, Option.bind_some,
    Bool.false_eq_true, if_false]

theorem nodup_unused (s : OrderSearch) : s.unused.Nodup := List.nodup_range.filter _

theorem mem_unused_iff : i ∈ s.unused ↔ s.used[i]? = some false := by
  simp only [unused, List.mem_filter, List.mem_range, decide_eq_true_eq, and_iff_right_iff_imp]
  intro free
  exact (List.getElem?_eq_some_iff.mp free).1

theorem unused_choose (free : s.used[i]? = some false) :
    (s.choose i).unused = s.unused.erase i := by
  have bound := (List.getElem?_eq_some_iff.mp free).1
  rw [s.nodup_unused.erase_eq_filter, unused, unused, List.filter_filter, choose,
    List.length_set]
  refine List.filter_congr fun j _ => ?_
  by_cases same : i = j
  · subst same
    simp [List.getElem?_set_self bound]
  · simp [List.getElem?_set_ne same, Ne.symm same]

theorem length_unused_choose (free : s.used[i]? = some false) :
    (s.choose i).unused.length + 1 = s.unused.length := by
  have member : i ∈ s.unused := mem_unused_iff.mpr free
  have size := List.length_erase_of_mem member
  have pos := List.length_pos_of_mem member
  rw [unused_choose free]
  omega

theorem Consistent.choose (consistent : s.Consistent) (free : s.used[i]? = some false) :
    (s.choose i).Consistent := by
  have left := length_unused_choose free
  have chosen : (s.choose i).chosen.length = s.chosen.length + 1 := List.length_append
  have used : (s.choose i).used.length = s.used.length := List.length_set
  rw [Consistent] at consistent ⊢
  omega

theorem orders_of_complete (consistent : s.Consistent)
    (complete : s.chosen.length = s.used.length) : s.orders = [s.chosen] := by
  have none : s.unused.length = 0 := by
    rw [Consistent] at consistent
    omega
  rw [orders, none, arrangements, List.map_singleton, List.append_nil]

theorem orders_eq_flatMap (some_left : s.unused ≠ []) :
    s.orders = s.unused.flatMap fun i => (s.choose i).orders := by
  obtain ⟨n, size⟩ := Nat.exists_eq_succ_of_ne_zero (mt List.length_eq_zero_iff.mp some_left)
  rw [orders, size, arrangements, selections_eq_map s.nodup_unused, List.flatMap_map,
    List.map_flatMap]
  refine List.flatMap_congr fun i member => ?_
  have free := mem_unused_iff.mp member
  have left := length_unused_choose free
  have rest : (s.choose i).unused.length = n := by omega
  rw [orders, rest, unused_choose free, List.map_map]
  refine List.map_congr_left fun order _ => ?_
  simp only [Function.comp_apply, OrderSearch.choose, List.append_assoc, List.singleton_append]

/-- The loop over the numbers leaves beginning and marks as it found them, if the search behind each
number does. -/
theorem exists_loop {inner : OrderSearch → Option OrderSearch} {numbers : List Nat}
    (inside : ∀ i ∈ numbers, i < s.used.length)
    (each : ∀ i, s.used[i]? = some false → ∀ found, ∃ more,
      inner ((s.record found).choose i) = some (((s.record found).choose i).record more) ∧
        (s.Consistent → more = (s.choose i).orders))
    (found : List (List Nat)) : ∃ more,
      numbers.foldlM (tryNumber inner) (s.record found) = some (s.record (found ++ more)) ∧
        (s.Consistent → more = (numbers.filter fun i => s.used[i]? = some false).flatMap
          fun i => (s.choose i).orders) := by
  induction numbers generalizing found with
  | nil =>
      refine ⟨[], ?_, fun _ => rfl⟩
      rw [List.append_nil]
      rfl
  | cons i numbers ih =>
      obtain ⟨bound, inside⟩ := List.forall_mem_cons.mp inside
      cases mark : s.used[i]? with
      | none => exact absurd (List.getElem?_eq_none_iff.mp mark) (Nat.not_le_of_lt bound)
      | some inUse =>
          cases inUse with
          | true =>
              have step : tryNumber inner (s.record found) i = some (s.record found) :=
                tryNumber_used mark
              obtain ⟨more, run, orders⟩ := ih inside found
              refine ⟨more, ?_, fun consistent => ?_⟩
              · rw [List.foldlM_cons, step]
                exact run
              · simp [orders consistent, mark]
          | false =>
              obtain ⟨first, within, firstOrders⟩ := each i mark found
              have step := tryNumber_unused (s := s.record found) mark within
              obtain ⟨more, run, orders⟩ := ih inside (found ++ first)
              refine ⟨first ++ more, ?_, fun consistent => ?_⟩
              · rw [List.foldlM_cons, step, record_record, ← List.append_assoc]
                exact run
              · simp [orders consistent, firstOrders consistent, mark]

/-- A search as deep as there are unused numbers comes to its end with beginning and marks as they
were, and has found the orders that begin with the chosen numbers. -/
theorem exists_extend? {depth : Nat} (deep : s.unused.length < depth) : ∃ more,
    extend? depth s = some (s.record more) ∧ (s.Consistent → more = s.orders) := by
  induction depth generalizing s with
  | zero => exact absurd deep (Nat.not_lt_zero _)
  | succ depth ih =>
      rw [extend?]
      split
      · rename_i complete
        exact ⟨[s.chosen], rfl, fun consistent => (orders_of_complete consistent complete).symm⟩
      · rename_i incomplete
        have each (i : Nat) (free : s.used[i]? = some false) (found : List (List Nat)) : ∃ more,
            extend? depth ((s.record found).choose i) =
              some (((s.record found).choose i).record more) ∧
            (s.Consistent → more = (s.choose i).orders) := by
          have left : ((s.record found).choose i).unused.length + 1 = s.unused.length :=
            length_unused_choose (s := s.record found) free
          obtain ⟨more, run, orders⟩ := ih (s := (s.record found).choose i) (by omega)
          exact ⟨more, run, fun consistent => orders (consistent.choose free)⟩
        obtain ⟨more, run, orders⟩ := exists_loop (fun i => List.mem_range.mp) each []
        refine ⟨more, by rwa [record_nil, List.nil_append] at run, fun consistent => ?_⟩
        have some_left : s.unused ≠ [] := by
          intro empty
          rw [Consistent, empty, List.length_nil, Nat.add_zero] at consistent
          exact incomplete consistent
        rw [orders consistent, orders_eq_flatMap some_left, unused]

end OrderSearch

theorem unused_start (n : Nat) :
    OrderSearch.unused ⟨[], List.replicate n false, []⟩ = List.range n := by
  rw [OrderSearch.unused, List.length_replicate, List.filter_eq_self]
  intro i inside
  simp [List.getElem?_replicate_of_lt (List.mem_range.mp inside)]

theorem extend?_start (n : Nat) :
    OrderSearch.extend? (n + 1) ⟨[], List.replicate n false, []⟩ =
      some ⟨[], List.replicate n false, permutations n⟩ := by
  have start := unused_start n
  have size : (OrderSearch.unused ⟨[], List.replicate n false, []⟩).length = n := by
    rw [start, List.length_range]
  obtain ⟨more, run, orders⟩ := OrderSearch.exists_extend? (Nat.lt_succ_of_le size.le)
  have consistent : OrderSearch.Consistent ⟨[], List.replicate n false, []⟩ := by
    rw [OrderSearch.Consistent, size, List.length_replicate, List.length_nil, Nat.zero_add]
  have found : more = permutations n := by
    rw [orders consistent, OrderSearch.orders, size, start, permutations]
    exact List.map_id _
  rw [run, found]
  rfl

/-- Each order of the numbers below `n` is listed once, and they ascend. A search that marks the
numbers in use lists the same; wherever it is taken up it comes to an end and gives beginning and
marks back as they were. The branches of a group come in these orders. -/
theorem permutations_once_ascending (n : Nat) :
    (∀ s : OrderSearch, ∃ more, OrderSearch.extend? (s.unused.length + 1) s =
        some ⟨s.chosen, s.used, s.found ++ more⟩) ∧
      OrderSearch.extend? (n + 1) ⟨[], List.replicate n false, []⟩ =
        some ⟨[], List.replicate n false, permutations n⟩ ∧
      (∀ order, order ∈ permutations n ↔ (List.range n).Perm order) ∧
      (permutations n).Nodup ∧ (permutations n).Pairwise (· < ·) ∧
      (permutations n).length = n.factorial ∧ permutations 0 = [[]] ∧
      ∀ tuple : List Reading, (arrangements tuple.length tuple).map (List.map some) =
        (permutations tuple.length).map (List.map fun i => tuple[i]?) := by
  have ascending : (permutations n).Pairwise (· < ·) :=
    pairwise_arrangements List.pairwise_lt_range n
  refine ⟨fun s => ?_, extend?_start n, fun order => ?_, ?_, ascending, ?_, rfl,
    arrangements_eq_permutations⟩
  · obtain ⟨more, run, _⟩ := OrderSearch.exists_extend? (Nat.lt_succ_self s.unused.length)
    exact ⟨more, run⟩
  · constructor
    · exact perm_of_mem_arrangements List.length_range
    · exact mem_arrangements_of_perm List.length_range
  · exact ascending.imp fun lower => ne_of_lt lower
  · exact length_arrangements List.length_range

end NoteTemplate
