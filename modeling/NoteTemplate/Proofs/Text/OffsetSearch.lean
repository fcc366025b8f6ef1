import NoteTemplate.Proofs.Text.Occurrences

/-!
The search for a text up to letter case by byte offsets. Each round cuts the haystack where the
search has come to and goes on behind what it finds there, which may have another size than the
needle. No cut fails, each round comes further, and what is found are the leftmost occurrences.
-/
namespace NoteTemplate.Text

def caselessStop? (offset : Nat) : (text start : Text) → Option Nat
  | _, [] => some offset
  | [], _ :: _ => none
  | c :: t, p :: ps => if sameLetter c p then caselessStop? (offset + c.utf8Size) t ps else none

def cutCaseless? (t start : Text) : Option (Option Text) :=
  match caselessStop? 0 t start with
  | none => some none
  | some stop => (dropBytes? t stop).map some

structure OffsetSearch where
  offset : Nat
  found : List Nat

namespace OffsetSearch

def step? (haystack needle : Text) (s : OffsetSearch) : Option OffsetSearch := do
  let rest ← dropBytes? haystack s.offset
  match ← cutCaseless? rest needle with
  | some behind => some ⟨haystack.byteLength - byteLength behind, s.found ++ [s.offset]⟩
  | none => some ⟨s.offset + (rest.head?.map Char.utf8Size).getD 1, s.found⟩

/-- A search that needs more rounds than are allowed for has no result. -/
def run? (haystack needle : Text) : (rounds : Nat) → OffsetSearch → Option (List Nat)
  | 0, s => if haystack.byteLength ≤ s.offset then some s.found else none
  | rounds + 1, s =>
    if haystack.byteLength ≤ s.offset then some s.found
    else (step? haystack needle s).bind (run? haystack needle rounds)

end OffsetSearch

def searchOffsets? (haystack needle : Text) (rounds : Nat) : Option (List Nat) :=
  if needle.isEmpty then some [] else OffsetSearch.run? haystack needle rounds ⟨0, []⟩

section Beginning

variable {t start rest : Text} {offset : Nat}

theorem caselessStop?_append {piece : Text} (same : SameLetters piece start) (rest : Text) :
    caselessStop? offset (piece ++ rest) start = some (offset + byteLength piece) := by
  induction same generalizing offset with
  | nil => cases rest <;> rfl
  | cons head _ ih =>
      rw [List.cons_append, caselessStop?, if_pos head, ih, byteLength, Nat.add_assoc]

theorem caselessStop?_eq_none (absent : stripPrefixCaseless? t start = none) :
    caselessStop? offset t start = none := by
  fun_induction stripPrefixCaseless? t start generalizing offset with
  | case1 => cases absent
  | case2 => rfl
  | case3 c t p ps same ih =>
      rw [caselessStop?, if_pos same]
      exact ih absent
  | case4 c t p ps other => rw [caselessStop?, if_neg other]

theorem cutCaseless?_eq (t start : Text) :
    cutCaseless? t start = some (stripPrefixCaseless? t start) := by
  cases stripped : stripPrefixCaseless? t start with
  | none => rw [cutCaseless?, caselessStop?_eq_none stripped]
  | some rest =>
      obtain ⟨piece, rfl, same⟩ := stripPrefixCaseless?_eq_some_iff.mp stripped
      rw [cutCaseless?, caselessStop?_append same, Nat.zero_add]
      simp only [dropBytes?, splitAtByte?_byteLength_append, Option.map_some]

theorem stripPrefixCaseless?_eq_some_iff_letters :
    stripPrefixCaseless? t start = some rest ↔ start.length ≤ t.length ∧
      (∀ (i : Nat) (c p : Char), t[i]? = some c → start[i]? = some p → sameLetter c p = true) ∧
      rest = t.drop start.length := by
  rw [stripPrefixCaseless?_eq_some_iff]
  constructor
  · rintro ⟨piece, rfl, same⟩
    have length := same.length_eq
    refine ⟨by rw [List.length_append]; omega, fun i c p here there => ?_, ?_⟩
    · obtain ⟨inside, rfl⟩ := List.getElem?_eq_some_iff.mp there
      have inside' : i < piece.length := by omega
      rw [List.getElem?_append_left inside', List.getElem?_eq_getElem inside'] at here
      cases here
      exact (List.forall₂_iff_get.mp same).2 i inside' inside
    · rw [← length, List.drop_left]
  · rintro ⟨longer, letters, rfl⟩
    refine ⟨t.take start.length, (List.take_append_drop _ _).symm, ?_⟩
    have length : (t.take start.length).length = start.length := List.length_take_of_le longer
    refine List.forall₂_iff_get.mpr ⟨length, fun i inside inside' => ?_⟩
    have bound : i < t.length := by omega
    refine letters i _ _ ?_ (List.getElem?_eq_getElem inside')
    simp [bound]

end Beginning

section Rounds

variable {needle : Text}

theorem occurrencesFrom_covered (covered offset : Nat) (t : Text) :
    occurrencesFrom needle covered offset t =
      occurrencesFrom needle 0 (offset + byteLength (t.take covered)) (t.drop covered) := by
  induction t generalizing covered offset with
  | nil => simp [occurrencesFrom]
  | cons c t ih =>
      cases covered with
      | zero => rfl
      | succ k =>
          rw [occurrencesFrom, ih, List.take_succ_cons, List.drop_succ_cons, byteLength,
            Nat.add_assoc]

theorem occurrencesFrom_found {piece rest : Text} (nonempty : needle ≠ [])
    (same : SameLetters piece needle) (offset : Nat) :
    occurrencesFrom needle 0 offset (piece ++ rest) =
      offset :: occurrencesFrom needle 0 (offset + byteLength piece) rest := by
  cases same with
  | nil => exact absurd rfl nonempty
  | @cons c p piece needle head tail =>
      have here : (stripPrefixCaseless? (c :: (piece ++ rest)) (p :: needle)).isSome = true := by
        rw [← List.cons_append, stripPrefixCaseless?_append (.cons head tail)]
        rfl
      have length : (p :: needle).length - 1 = piece.length := tail.length_eq.symm
      rw [List.cons_append, occurrencesFrom, if_pos here, occurrencesFrom_covered, length,
        List.take_left, List.drop_left, byteLength, Nat.add_assoc]

theorem occurrencesFrom_absent {c : Char} {t : Text}
    (absent : stripPrefixCaseless? (c :: t) needle = none) (offset : Nat) :
    occurrencesFrom needle 0 offset (c :: t) =
      occurrencesFrom needle 0 (offset + c.utf8Size) t := by
  rw [occurrencesFrom, absent]
  rfl

namespace OffsetSearch

/-- A round at the start of a character cuts nowhere else, comes further, and finds what the scan
finds in the characters that it passes over. -/
theorem exists_step? (nonempty : needle ≠ []) (before : Text) (c : Char) (t : Text)
    (found : List Nat) : ∃ passed rest more, c :: t = passed ++ rest ∧ passed ≠ [] ∧
      step? (before ++ c :: t) needle ⟨byteLength before, found⟩ =
        some ⟨byteLength (before ++ passed), found ++ more⟩ ∧
      occurrencesFrom needle 0 (byteLength before) (c :: t) =
        more ++ occurrencesFrom needle 0 (byteLength (before ++ passed)) rest := by
  have cut : dropBytes? (before ++ c :: t) (byteLength before) = some (c :: t) := by
    rw [dropBytes?, splitAtByte?_byteLength_append]
    rfl
  cases stripped : stripPrefixCaseless? (c :: t) needle with
  | none =>
      refine ⟨[c], t, [], rfl, List.cons_ne_nil _ _, ?_, ?_⟩
      · simp [step?, cut, cutCaseless?_eq, stripped, byteLength_append, byteLength]
      · rw [occurrencesFrom_absent stripped, byteLength_append]
        rfl
  | some rest =>
      obtain ⟨passed, split, same⟩ := stripPrefixCaseless?_eq_some_iff.mp stripped
      have covers : passed ≠ [] := by
        rintro rfl
        exact nonempty (List.forall₂_nil_left_iff.mp same)
      refine ⟨passed, rest, [byteLength before], split, covers, ?_, ?_⟩
      · have size : byteLength (before ++ c :: t) - byteLength rest =
            byteLength (before ++ passed) := by
          rw [split]
          simp only [byteLength_append]
          omega
        simp [step?, cut, cutCaseless?_eq, stripped, size]
      · rw [split, occurrencesFrom_found nonempty same, byteLength_append]
        rfl

theorem run?_eq (nonempty : needle ≠ []) {rounds : Nat} {before after : Text}
    (enough : after.length ≤ rounds) (found : List Nat) :
    run? (before ++ after) needle rounds ⟨byteLength before, found⟩ =
      some (found ++ occurrencesFrom needle 0 (byteLength before) after) := by
  induction rounds generalizing before after found with
  | zero =>
      have empty := List.length_eq_zero_iff.mp (Nat.le_zero.mp enough)
      simp [run?, empty, occurrencesFrom]
  | succ rounds ih =>
      cases after with
      | nil => simp [run?, occurrencesFrom]
      | cons c t =>
          have further : ¬ byteLength (before ++ c :: t) ≤ byteLength before := by
            have size := c.utf8Size_pos
            rw [byteLength_append, byteLength]
            omega
          obtain ⟨passed, rest, more, split, covers, step, scan⟩ :=
            exists_step? nonempty before c t found
          have shorter : rest.length ≤ rounds := by
            have total := congrArg List.length split
            have pos := List.length_pos_iff.mpr covers
            rw [List.length_append, List.length_cons] at total
            rw [List.length_cons] at enough
            omega
          rw [run?, if_neg further, step, Option.bind_some, scan, split, ← List.append_assoc,
            ih shorter, List.append_assoc]

end OffsetSearch

end Rounds

/-- A beginning is stripped exactly if the characters at its places are equal up to letter case. The
search by byte offsets takes no more rounds than the haystack has characters, cuts inside none of
them, and finds the leftmost occurrences that do not overlap, of which there is only one choice. -/
theorem search_leftmost (haystack start : Text) {needle : Text} (nonempty : needle ≠ []) :
    (∀ rest, stripPrefixCaseless? haystack start = some rest ↔
      start.length ≤ haystack.length ∧
        (∀ (i : Nat) (c p : Char), haystack[i]? = some c → start[i]? = some p →
          sameLetter c p = true) ∧ rest = haystack.drop start.length) ∧
      cutCaseless? haystack start = some (stripPrefixCaseless? haystack start) ∧
      searchOffsets? haystack needle haystack.length = some (findAllCaseless haystack needle) ∧
      LeftmostOccurrences needle haystack (findAllCaseless haystack needle) ∧
      ∀ found, LeftmostOccurrences needle haystack found →
        found = findAllCaseless haystack needle := by
  have leftmost := leftmostOccurrences_findAllCaseless nonempty haystack
  refine ⟨fun rest => stripPrefixCaseless?_eq_some_iff_letters, cutCaseless?_eq haystack start,
    ?_, leftmost, fun found other => other.unique leftmost⟩
  have run : OffsetSearch.run? ([] ++ haystack) needle haystack.length ⟨byteLength [], []⟩ = _ :=
    OffsetSearch.run?_eq nonempty (Nat.le_refl _) []
  rw [searchOffsets?, if_neg (by simpa using nonempty), findAllCaseless_eq nonempty]
  exact run

theorem search_leftmost_kelvin :
    let haystack := "aKkKa\u212Ak".toList
    ['k', 'k'] ≠ [] ∧ OccursOver ['k', 'k'] haystack ⟨2, 4⟩ ∧
      OccursOver ['k', 'k'] haystack ⟨5, 9⟩ ∧
      searchOffsets? haystack ['k', 'k'] 7 = some [1, 5] ∧
      LeftmostOccurrences ['k', 'k'] haystack [1, 5] := by
  intro haystack
  have nonempty : ['k', 'k'] ≠ [] := by simp
  have covered : OccursOver ['k', 'k'] haystack ⟨2, 4⟩ :=
    occursOver_iff.mpr ⟨"aK".toList, "kK".toList, "a\u212Ak".toList, rfl, by decide, rfl, rfl⟩
  have kelvin : OccursOver ['k', 'k'] haystack ⟨5, 9⟩ :=
    occursOver_iff.mpr ⟨"aKkKa".toList, "\u212Ak".toList, [], rfl, by decide, rfl, rfl⟩
  have found : findAllCaseless "aKkKa\u212Ak".toList ['k', 'k'] = [1, 5] := by decide
  obtain ⟨_, _, search, leftmost, _⟩ := search_leftmost haystack [] nonempty
  rw [found] at search leftmost
  exact ⟨nonempty, covered, kelvin, search, leftmost⟩

end NoteTemplate.Text
