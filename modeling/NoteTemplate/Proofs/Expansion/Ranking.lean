import Mathlib
import NoteTemplate.Proofs.Expansion.Scores

/-!
The order of an expansion. Readings are ranked first and repetitions leave last; the same list comes
out when repetitions leave first and the ranking is the last pass. Of a score only this matters,
that it is computed from the segments.
-/
namespace NoteTemplate

section Repetitions

variable {α : Type} [BEq α] [LawfulBEq α]

theorem eraseDups_concat (xs : List α) (x : α) :
    (xs ++ [x]).eraseDups = if x ∈ xs then xs.eraseDups else xs.eraseDups ++ [x] := by
  rw [List.eraseDups_append]
  by_cases seen : x ∈ xs <;> simp [seen, List.removeAll, List.eraseDups_cons]

theorem eraseDups_sublist (xs : List α) : xs.eraseDups.Sublist xs := by
  induction xs using List.reverseRecOn with
  | nil => exact .slnil
  | append_singleton xs x ih =>
      rw [eraseDups_concat]
      by_cases seen : x ∈ xs
      · rw [if_pos seen]
        exact ih.trans (List.sublist_append_left xs [x])
      · rw [if_neg seen]
        exact ih.append_right [x]

theorem filter_eraseDups (p : α → Bool) (xs : List α) :
    xs.eraseDups.filter p = (xs.filter p).eraseDups := by
  induction xs using List.reverseRecOn with
  | nil => rfl
  | append_singleton xs x ih =>
      rw [eraseDups_concat, List.filter_append]
      by_cases kept : p x
      · have same : x ∈ xs.filter p ↔ x ∈ xs := by simp [kept]
        rw [List.filter_cons_of_pos kept, List.filter_nil, eraseDups_concat]
        by_cases seen : x ∈ xs <;> simp [same, seen, ih, kept]
      · rw [List.filter_cons_of_neg kept, List.filter_nil, List.append_nil, ← ih]
        by_cases seen : x ∈ xs <;> simp [seen, kept]

theorem eraseDups_map {β : Type} [BEq β] [LawfulBEq β] {f : α → β} (injective : f.Injective)
    (xs : List α) : (xs.map f).eraseDups = xs.eraseDups.map f := by
  induction xs using List.reverseRecOn with
  | nil => rfl
  | append_singleton xs x ih =>
      rw [List.map_append, List.map_singleton, eraseDups_concat, eraseDups_concat, ih]
      by_cases seen : x ∈ xs <;> simp [List.mem_map_of_injective injective, seen]

theorem pairwise_idxOf_eraseDups (xs : List α) :
    xs.eraseDups.Pairwise fun x y => xs.idxOf x < xs.idxOf y := by
  induction xs using List.reverseRecOn with
  | nil => exact .nil
  | append_singleton xs x ih =>
      have earlier : xs.eraseDups.Pairwise fun y z =>
          (xs ++ [x]).idxOf y < (xs ++ [x]).idxOf z := by
        refine ih.imp_of_mem fun {y z} inside inside' before => ?_
        rw [List.mem_eraseDups] at inside inside'
        rwa [List.idxOf_append_of_mem inside, List.idxOf_append_of_mem inside']
      rw [eraseDups_concat]
      by_cases seen : x ∈ xs
      · rwa [if_pos seen]
      · rw [if_neg seen]
        refine List.pairwise_append.mpr ⟨earlier, List.pairwise_singleton _ _, ?_⟩
        intro y inside z last
        rw [List.mem_eraseDups] at inside
        have early := List.idxOf_lt_length_of_mem inside
        rw [List.mem_singleton.mp last, List.idxOf_append_of_mem inside,
          List.idxOf_append_of_notMem seen]
        omega

theorem nodup_eraseDups (xs : List α) : xs.eraseDups.Nodup := by
  apply (pairwise_idxOf_eraseDups xs).imp
  intro x y before same
  rw [same] at before
  exact Nat.lt_irrefl _ before

end Repetitions

section Ranking

variable {α : Type}

def ranked (rank : α → Nat) (xs : List α) : List α := xs.mergeSort fun x y => rank y ≤ rank x

variable {rank : α → Nat} {xs ys : List α}

theorem rank_trans (x y z : α) : decide (rank y ≤ rank x) = true →
    decide (rank z ≤ rank y) = true → decide (rank z ≤ rank x) = true := by
  simp only [decide_eq_true_eq]
  omega

theorem rank_total (x y : α) : (decide (rank y ≤ rank x) || decide (rank x ≤ rank y)) = true := by
  simp only [Bool.or_eq_true, decide_eq_true_eq]
  omega

theorem pairwise_ranked (xs : List α) :
    (ranked rank xs).Pairwise fun x y => rank y ≤ rank x := by
  have sorted := List.pairwise_mergeSort (@rank_trans α rank) rank_total xs
  simpa only [ranked, decide_eq_true_eq] using sorted

theorem filter_rank_ranked (n : Nat) (xs : List α) :
    (ranked rank xs).filter (rank · = n) = xs.filter (rank · = n) := by
  have level : (xs.filter (rank · = n)).Pairwise fun x y => decide (rank y ≤ rank x) = true := by
    rw [List.pairwise_filter]
    apply List.pairwise_of_forall
    intro x y equal equal'
    simp only [decide_eq_true_eq] at equal equal' ⊢
    omega
  have inside : (xs.filter (rank · = n)).Sublist (ranked rank xs) :=
    List.sublist_mergeSort rank_trans rank_total level List.filter_sublist
  have again := inside.filter (rank · = n)
  rw [List.filter_filter] at again
  simp only [Bool.and_self] at again
  have same := (List.mergeSort_perm xs fun x y => decide (rank y ≤ rank x)).filter (rank · = n)
  exact (again.eq_of_length same.length_eq.symm).symm

/-- A list by descending rank is known from its elements of each rank. -/
theorem eq_of_filter_rank (sorted : xs.Pairwise fun x y => rank y ≤ rank x)
    (sorted' : ys.Pairwise fun x y => rank y ≤ rank x)
    (same : ∀ n, xs.filter (rank · = n) = ys.filter (rank · = n)) : xs = ys := by
  have subset {x : α} {us vs : List α} (same : us.filter (rank · = rank x) =
      vs.filter (rank · = rank x)) (inside : x ∈ us) : x ∈ vs := by
    have kept : x ∈ us.filter (rank · = rank x) := by simp [inside]
    rw [same] at kept
    exact (List.mem_filter.mp kept).1
  induction xs generalizing ys with
  | nil =>
      cases ys with
      | nil => rfl
      | cons y ys => cases subset (same (rank y)).symm List.mem_cons_self
  | cons x xs ih =>
      cases ys with
      | nil => cases subset (same (rank x)) List.mem_cons_self
      | cons y ys =>
          -- Both heads have the highest rank, and each list starts its elements of that rank.
          obtain ⟨highest, lower⟩ := List.pairwise_cons.mp sorted
          obtain ⟨highest', lower'⟩ := List.pairwise_cons.mp sorted'
          have notAbove : rank x ≤ rank y := by
            rcases List.mem_cons.mp (subset (same (rank x)) List.mem_cons_self) with rfl | later
            · exact Nat.le_refl _
            · exact highest' x later
          have notBelow : rank y ≤ rank x := by
            rcases List.mem_cons.mp (subset (same (rank y)).symm List.mem_cons_self) with
              rfl | later
            · exact Nat.le_refl _
            · exact highest y later
          have equal : rank x = rank y := Nat.le_antisymm notAbove notBelow
          have heads := same (rank x)
          simp only [List.filter_cons, equal, decide_true, if_true, List.cons.injEq] at heads
          obtain ⟨rfl, -⟩ := heads
          refine congrArg _ (ih lower lower' fun n => ?_)
          have tails := same n
          by_cases first : rank x = n
          · simpa [first] using tails
          · simpa [first] using tails

theorem map_ranked {β : Type} {rank' : β → Nat} {f : α → β}
    (compare : ∀ x ∈ xs, ∀ y ∈ xs, rank y ≤ rank x ↔ rank' (f y) ≤ rank' (f x)) :
    (ranked rank xs).map f = ranked rank' (xs.map f) := by
  apply List.map_mergeSort
  intro x inside y inside'
  rw [decide_eq_decide]
  exact compare x inside y inside'

theorem filter_ranked (p : α → Bool) (xs : List α) :
    (ranked rank xs).filter p = ranked rank (xs.filter p) := by
  apply eq_of_filter_rank ((pairwise_ranked xs).filter p) (pairwise_ranked _)
  intro n
  rw [List.filter_comm, filter_rank_ranked, filter_rank_ranked, List.filter_comm]

theorem eraseDups_ranked [BEq α] [LawfulBEq α] (xs : List α) :
    (ranked rank xs).eraseDups = ranked rank xs.eraseDups := by
  apply eq_of_filter_rank ((pairwise_ranked xs).sublist (eraseDups_sublist _)) (pairwise_ranked _)
  intro n
  rw [filter_eraseDups, filter_rank_ranked, filter_rank_ranked, filter_eraseDups]

end Ranking

def Combination.scored (r : Reading) : Combination := ⟨r, r.score⟩

theorem Combination.scored_injective : Function.Injective Combination.scored :=
  fun _ _ equal => congrArg Combination.segments equal

namespace Pattern

def enumeration (p : Pattern) : List Reading := (readings p).map Reading.simplify

def candidates (p : Pattern) : List Reading :=
  (enumeration p).eraseDups.filter fun r => !r.hasAdjacentVariables

theorem map_ofSegments_readings (p : Pattern) :
    (readings p).map Combination.ofSegments = (enumeration p).map Combination.scored := by
  rw [enumeration, List.map_map]
  rfl

theorem pairwise_candidates (p : Pattern) :
    ((candidates p).map Combination.scored).Pairwise fun c d =>
      (enumeration p).idxOf c.segments < (enumeration p).idxOf d.segments := by
  rw [List.pairwise_map]
  exact (pairwise_idxOf_eraseDups (enumeration p)).filter _

def rankedBy (rank : Combination → Nat) (p : Pattern) : List Combination :=
  distinct ((ranked rank ((readings p).map Combination.ofSegments)).filter
    fun c => !c.hasAdjacentVariables)

theorem expand_eq_rankedBy (p : Pattern) : expand p = rankedBy Combination.score p := rfl

variable (rank : Combination → Nat) (p : Pattern)

theorem rankedBy_eq_ranked :
    rankedBy rank p = ranked rank ((candidates p).map Combination.scored) := by
  have keep : (fun c => !Combination.hasAdjacentVariables c) ∘ Combination.scored =
      fun r => !r.hasAdjacentVariables := rfl
  calc
    rankedBy rank p = ((ranked rank ((enumeration p).map Combination.scored)).filter
        fun c => !c.hasAdjacentVariables).eraseDups := by
      rw [rankedBy, distinct_eq_eraseDups, map_ofSegments_readings]
    _ = ranked rank ((((enumeration p).map Combination.scored).filter
        fun c => !c.hasAdjacentVariables).eraseDups) := by
      rw [filter_ranked, eraseDups_ranked]
    _ = ranked rank ((candidates p).map Combination.scored) := by
      rw [List.filter_map, keep, eraseDups_map Combination.scored_injective, candidates,
        filter_eraseDups]

theorem mem_rankedBy_iff {rank : Combination → Nat} {p : Pattern} {c : Combination} :
    c ∈ rankedBy rank p ↔ c ∈ expand p := by
  rw [expand_eq_rankedBy, rankedBy_eq_ranked, rankedBy_eq_ranked, ranked, ranked,
    List.mem_mergeSort, List.mem_mergeSort]

theorem pairwise_rankedBy : (rankedBy rank p).Pairwise fun c d => rank d ≤ rank c := by
  rw [rankedBy_eq_ranked]
  exact pairwise_ranked _

/-- Ranks go down, and where they are equal the reading met first stands first. -/
theorem pairwise_idxOf_rankedBy : (rankedBy rank p).Pairwise fun c d => rank d < rank c ∨
    rank c = rank d ∧ (enumeration p).idxOf c.segments < (enumeration p).idxOf d.segments := by
  rw [List.pairwise_iff_forall_sublist, rankedBy_eq_ranked]
  intro c d pair
  have descending := List.pairwise_iff_forall_sublist.mp (pairwise_ranked _) pair
  rcases Nat.lt_or_eq_of_le descending with lower | equal
  · exact .inl lower
  · have level := pair.filter fun e => decide (rank e = rank c)
    rw [filter_rank_ranked] at level
    simp only [List.filter_cons, equal, decide_true, if_true, List.filter_nil] at level
    have ordered := (pairwise_candidates p).filter fun e => decide (rank e = rank c)
    exact .inr ⟨equal.symm, List.pairwise_iff_forall_sublist.mp ordered level⟩

theorem nodup_segments_rankedBy : ((rankedBy rank p).map Combination.segments).Nodup := by
  have scored : ∀ r ∈ candidates p, (Combination.scored r).segments = r := fun _ _ => rfl
  have segments : ((candidates p).map Combination.scored).map Combination.segments =
      candidates p := by
    rw [List.map_map]
    exact (List.map_congr_left scored).trans (List.map_id _)
  have same := (List.mergeSort_perm ((candidates p).map Combination.scored)
    fun c d => rank d ≤ rank c).map Combination.segments
  rw [segments] at same
  rw [rankedBy_eq_ranked]
  exact same.nodup_iff.mpr ((nodup_eraseDups _).filter _)

end Pattern

theorem score_of_mem_expand {p : Pattern} {c : Combination} (member : c ∈ expand p) :
    c.score = c.segments.score := by
  obtain ⟨⟨r, _, rfl⟩, _⟩ := mem_expand_iff.mp member
  rfl

/-- The passes of an expansion commute: repetitions may leave first, then the readings in which
variables meet, and the stable ranking may come last. Each reading is there once, with the score of
its segments, by descending score and then by first enumeration. All this holds as well for scores
that are words of 32 bits, which wrap around. -/
theorem expand_eq_ranked_eraseDups (p : Pattern) :
    (expand p = ranked Combination.score
        (((Pattern.enumeration p).eraseDups.filter fun r => !r.hasAdjacentVariables).map
          Combination.scored) ∧
      ((expand p).map Combination.segments).Nodup ∧
      (expand p).map Combination.score = (expand p).map (·.segments.score) ∧
      (expand p).Pairwise fun c d => d.score < c.score ∨ c.score = d.score ∧
        (Pattern.enumeration p).idxOf c.segments < (Pattern.enumeration p).idxOf d.segments) ∧
    let wordRank : Combination → Nat := fun c => c.segments.wordScore.toNat
    Pattern.rankedBy wordRank p = ranked wordRank
        (((Pattern.enumeration p).eraseDups.filter fun r => !r.hasAdjacentVariables).map
          Combination.scored) ∧
      ((Pattern.rankedBy wordRank p).map Combination.segments).Nodup ∧
      (Pattern.rankedBy wordRank p).Pairwise fun c d =>
        d.segments.wordScore < c.segments.wordScore ∨
          c.segments.wordScore = d.segments.wordScore ∧
          (Pattern.enumeration p).idxOf c.segments < (Pattern.enumeration p).idxOf d.segments := by
  have scores : ∀ c ∈ expand p, c.score = c.segments.score := fun c => score_of_mem_expand
  constructor
  · rw [Pattern.expand_eq_rankedBy] at scores ⊢
    exact ⟨Pattern.rankedBy_eq_ranked _ p, Pattern.nodup_segments_rankedBy _ p,
      List.map_congr_left scores, Pattern.pairwise_idxOf_rankedBy _ p⟩
  · intro wordRank
    refine ⟨Pattern.rankedBy_eq_ranked _ p, Pattern.nodup_segments_rankedBy _ p, ?_⟩
    simpa only [wordRank, UInt32.lt_iff_toNat_lt, UInt32.toNat_inj] using
      Pattern.pairwise_idxOf_rankedBy wordRank p

section Keys

variable {α κ : Type} [DecidableEq κ] [Hashable κ]

def distinctByFrom (key : α → κ) (seen : Std.HashSet κ) : List α → List α
  | [] => []
  | x :: xs =>
    if seen.contains (key x) then distinctByFrom key seen xs
    else x :: distinctByFrom key (seen.insert (key x)) xs

def distinctBy (key : α → κ) (xs : List α) : List α := distinctByFrom key ∅ xs

theorem distinctBy_map {key : α → κ} {f : κ → α} (inverse : ∀ k, key (f k) = k) (ks : List κ) :
    distinctBy key (ks.map f) = (distinct ks).map f := by
  have loop (seen : Std.HashSet κ) :
      distinctByFrom key seen (ks.map f) = (distinctFrom seen ks).map f := by
    induction ks generalizing seen with
    | nil => rfl
    | cons k ks ih =>
        rw [List.map_cons, distinctByFrom, distinctFrom, inverse]
        split
        · exact ih seen
        · rw [List.map_cons, ih]
  exact loop ∅

theorem distinct_map [DecidableEq α] [Hashable α] {f : κ → α} (injective : f.Injective)
    (ks : List κ) : distinct (ks.map f) = (distinct ks).map f := by
  rw [distinct_eq_eraseDups, distinct_eq_eraseDups, eraseDups_map injective]

variable [Hashable Segment]

/-- The segments tell the score, so it is enough to keep the segments met so far. -/
theorem distinctBy_segments {cs : List Combination}
    (scores : ∀ c ∈ cs, c.score = c.segments.score) :
    distinctBy Combination.segments cs = distinct cs := by
  have scored : ∀ c ∈ cs, Combination.scored c.segments = c := by
    intro c member
    rw [Combination.scored, ← scores c member]
  have whole : (cs.map Combination.segments).map Combination.scored = cs := by
    rw [List.map_map]
    exact (List.map_congr_left scored).trans (List.map_id cs)
  rw [← whole, distinctBy_map fun _ => rfl, distinct_map Combination.scored_injective]

theorem Pattern.rankedBy_eq_distinctBy (rank : Combination → Nat) (p : Pattern) :
    rankedBy rank p = distinctBy Combination.segments
      ((ranked rank ((readings p).map Combination.ofSegments)).filter
        fun c => !c.hasAdjacentVariables) := by
  refine (distinctBy_segments fun c member => ?_).symm
  have listed := List.mem_mergeSort.mp (List.mem_of_mem_filter member)
  obtain ⟨r, _, rfl⟩ := List.mem_map.mp listed
  rfl

end Keys

end NoteTemplate
