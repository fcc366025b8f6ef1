import Mathlib
import NoteTemplate.Proofs.Expansion.Enumeration
import NoteTemplate.Proofs.Expansion.Scores
import NoteTemplate.Proofs.Matching.Faults
import NoteTemplate.Proofs.Matching.Layout
import NoteTemplate.Proofs.Matching.Repetitions

/-!
Which of two readings a match prefers. A reading with a higher score is asked first, so the other
one answers only if the first does not. What an optional part adds to a reading raises its score,
so a match has the optional part wherever it can.
-/
namespace NoteTemplate

def Precedes {α : Type} [BEq α] (xs : List α) (x y : α) : Prop :=
  y ∈ xs ∧ xs.idxOf x < xs.idxOf y

theorem precedes_of_rank_lt {α : Type} [DecidableEq α] {rank : α → Nat} {xs : List α}
    (sorted : xs.Pairwise fun x y => rank y ≤ rank x) {x y : α} (first : x ∈ xs) (second : y ∈ xs)
    (lower : rank y < rank x) : Precedes xs x y := by
  refine ⟨second, ?_⟩
  by_contra later
  have early := List.idxOf_lt_length_of_mem first
  have early' := List.idxOf_lt_length_of_mem second
  have apart : xs.idxOf y ≠ xs.idxOf x := by
    intro same
    have equal := (List.idxOf_inj second).mp same
    rw [equal] at lower
    exact Nat.lt_irrefl _ lower
  have order := List.pairwise_iff_getElem.mp sorted _ _ early' early (by omega)
  simp only [List.getElem_idxOf] at order
  omega

section Search

variable {propose : Proposer} {input : Text}

theorem split_of_matchReadings {combinations : List Combination} {result : MatchResult}
    (matched : matchReadings propose input combinations = .ok (some result)) :
    ∃ front c back captured, combinations = front ++ c :: back ∧
      (∀ d ∈ front, walk propose d.segments 0 input = .ok none) ∧
      walk propose c.segments 0 input = .ok (some captured) ∧ result = .ofCaptured c captured := by
  fun_induction matchReadings propose input combinations with
  | case1 => cases matched
  | case2 => cases matched
  | case3 c cs captured walked =>
      cases matched
      exact ⟨[], c, cs, captured, rfl, List.forall_mem_nil _, walked, rfl⟩
  | case4 c cs walked ih =>
      obtain ⟨front, d, back, captured, rfl, unmatched, walked', same⟩ := ih matched
      have unmatched' : ∀ d ∈ c :: front, walk propose d.segments 0 input = .ok none :=
        List.forall_mem_cons.mpr ⟨walked, unmatched⟩
      exact ⟨c :: front, d, back, captured, rfl, unmatched', walked', same⟩

theorem walk_eq_none_of_precedes {combinations : List Combination} {result : MatchResult}
    (matched : matchReadings propose input combinations = .ok (some result)) {c : Combination}
    (before : Precedes combinations c result.combination) :
    walk propose c.segments 0 input = .ok none := by
  obtain ⟨front, d, back, captured, rfl, unmatched, _, rfl⟩ := split_of_matchReadings matched
  apply unmatched
  by_contra outside
  have early : (front ++ d :: back).idxOf d ≤ front.length := by
    rw [List.idxOf_append]
    split
    · exact (List.idxOf_lt_length_of_mem ‹_›).le
    · simp
  have late : (front ++ d :: back).idxOf c = front.length + (d :: back).idxOf c :=
    List.idxOf_append_of_notMem outside
  have order : (front ++ d :: back).idxOf c < (front ++ d :: back).idxOf d := before.2
  omega

theorem matchCombinations_singleton_eq_none {r : Registry} {c : Combination}
    (walked : walk r.capture c.segments 0 input = .ok none) :
    matchCombinations input [c] r = .ok none := by
  simp only [matchCombinations_eq, matchReadings, walked]

end Search

section Optional

variable {front back body : Pattern} {a b c : Reading}

theorem Pattern.Reads.append (first : Pattern.Reads front a) (second : Pattern.Reads back c) :
    Pattern.Reads (front ++ back) (a ++ c) := by
  induction front generalizing a with
  | nil =>
      cases first
      exact second
  | cons t front ih =>
      cases first with
      | cons head rest =>
          rw [List.cons_append, List.append_assoc]
          exact .cons head (ih rest)

theorem ofSegments_mem_expand {p : Pattern} {r : Reading} (reads : Pattern.Reads p r)
    (kept : r.simplify.VariablesApart) : Combination.ofSegments r ∈ expand p := by
  apply mem_expand_iff.mpr
  refine ⟨⟨r, (Pattern.mem_readings_iff p).mpr reads, rfl⟩, ?_⟩
  exact Reading.hasAdjacentVariables_eq_false_iff.mpr kept

theorem score_optional_lt (visible : ∃ s ∈ b, s ≠ .text []) :
    (Combination.ofSegments (a ++ c)).score < (Combination.ofSegments (a ++ b ++ c)).score := by
  have more := Reading.score_pos visible
  simp only [Combination.ofSegments, Reading.score_simplify, Reading.score_append]
  omega

end Optional

/-- Of two readings that differ in an optional part only, the one that has it comes first, also if
scores are words of 32 bits in which that of the longer one has room. So a match gives the reading
without the optional part only where the reading with it does not match, and for matchers that look
for the literal behind a variable this says where no layout of it is found. -/
theorem present_precedes_absent {front back body : Pattern} {a b c : Reading}
    (readFront : Pattern.Reads front a) (readBody : Pattern.Reads body b)
    (readBack : Pattern.Reads back c) (visible : ∃ s ∈ b, s ≠ .text [])
    (kept : (a ++ b ++ c).simplify.VariablesApart) (kept' : (a ++ c).simplify.VariablesApart) :
    let p := front ++ .optional body :: back
    let present := Combination.ofSegments (a ++ b ++ c)
    let absent := Combination.ofSegments (a ++ c)
    Precedes (expand p) present absent ∧
      (present.score < 2 ^ 32 →
        Precedes (Pattern.rankedBy (·.segments.wordScore.toNat) p) present absent) ∧
      ∀ (r : Registry) (s : Text) (result : MatchResult),
        matchPattern s p r = .ok (some result) → result.combination = absent →
          matchCombinations s [present] r = .ok none ∧
          (r.BoundaryServed → ∀ pieces, r.Layout present.segments pieces s →
            ¬ BoundariesFound present.segments pieces) := by
  intro p present absent
  have readPresent : Pattern.Reads p (a ++ b ++ c) := by
    rw [List.append_assoc]
    exact readFront.append (.cons (.present readBody) readBack)
  have readAbsent : Pattern.Reads p (a ++ c) := readFront.append (.cons (.absent body) readBack)
  have member : present ∈ expand p := ofSegments_mem_expand readPresent kept
  have member' : absent ∈ expand p := ofSegments_mem_expand readAbsent kept'
  have lower : absent.score < present.score := score_optional_lt visible
  have before : Precedes (expand p) present absent := by
    rw [Pattern.expand_eq_rankedBy]
    exact precedes_of_rank_lt (Pattern.pairwise_rankedBy _ p)
      (Pattern.mem_rankedBy_iff.mpr member) (Pattern.mem_rankedBy_iff.mpr member') lower
  refine ⟨before, ?_, ?_⟩
  · intro room
    apply precedes_of_rank_lt (Pattern.pairwise_rankedBy _ p)
      (Pattern.mem_rankedBy_iff.mpr member) (Pattern.mem_rankedBy_iff.mpr member')
    have score : present.segments.wordScore.toNat = present.score := by
      rw [Reading.toNat_wordScore]
      exact Nat.mod_eq_of_lt room
    have score' : absent.segments.wordScore.toNat = absent.score := by
      rw [Reading.toNat_wordScore]
      exact Nat.mod_eq_of_lt (lower.trans room)
    rwa [score, score']
  · intro r s result matched same
    obtain ⟨valid, found⟩ := matchPattern_eq_ok_some_iff.mp matched
    rw [← same] at before
    have walked := walk_eq_none_of_precedes found before
    refine ⟨matchCombinations_singleton_eq_none walked, fun served pieces layout boundaries => ?_⟩
    have serves (v : Variable) (inside : .variable v ∈ present.segments) : r.Serves v :=
      Registry.serves_of_validate valid (variable_mem_of_mem_expand member inside)
    have apart := (mem_expand_iff.mp member).2
    obtain ⟨captured, walked'⟩ := walk_isSome served serves apart layout boundaries 0
    rw [walked] at walked'
    cases walked'

theorem present_precedes_absent_tag :
    let note : Variable := .plain (some "note".toList) .text
    let tag : Variable := .plain (some "tag".toList) .word
    let p : Pattern := [.variable note, .optional [.text " #".toList, .variable tag]]
    let present := Combination.ofSegments [.variable note, .text " #".toList, .variable tag]
    let absent := Combination.ofSegments [.variable note]
    let result : MatchResult :=
      ⟨[⟨some "note".toList, .text, .single "a b".toList⟩], absent, [⟨0, 3⟩]⟩
    Precedes (expand p) present absent ∧ present.score < 2 ^ 32 ∧
      Precedes (Pattern.rankedBy (·.segments.wordScore.toNat) p) present absent ∧
      matchPattern "a b".toList p Registry.builtin = .ok (some result) ∧
      matchCombinations "a b".toList [present] Registry.builtin = .ok none := by
  intro note tag p present absent result
  have readNote : Pattern.Reads [.variable note] [.variable note] := .cons (.variable note) .nil
  have readTag : Pattern.Reads [.text " #".toList, .variable tag]
      [.text " #".toList, .variable tag] :=
    .cons (.text " #".toList) (.cons (.variable tag) .nil)
  have visible : ∃ s ∈ [.text " #".toList, .variable tag], s ≠ Segment.text [] :=
    ⟨.variable tag, by simp, by simp⟩
  have kept : Reading.VariablesApart
      (Reading.simplify [.variable note, .text " #".toList, .variable tag]) :=
    Reading.hasAdjacentVariables_eq_false_iff.mp rfl
  have kept' : Reading.VariablesApart (Reading.simplify [.variable note]) :=
    Reading.hasAdjacentVariables_eq_false_iff.mp rfl
  have matched : matchPattern "a b".toList p Registry.builtin = .ok (some result) := by cbv
  have room : present.score < 2 ^ 32 := by cbv
  obtain ⟨first, words, unmatched⟩ :=
    present_precedes_absent readNote readTag .nil visible kept kept'
  exact ⟨first, room, words room, matched, (unmatched _ _ result matched rfl).1⟩

end NoteTemplate
