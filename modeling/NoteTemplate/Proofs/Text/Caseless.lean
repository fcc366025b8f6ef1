import NoteTemplate.Text.Caseless
import Mathlib.Data.List.Forall2

namespace NoteTemplate

theorem sameLetter_iff (a b : Char) :
    sameLetter a b = true ↔ Text.lowerCase a = Text.lowerCase b := by
  constructor
  · intro same
    rcases Bool.or_eq_true_iff.mp same with equal | equal
    · rw [eq_of_beq equal]
    · exact eq_of_beq equal
  · intro equal
    simp [sameLetter, equal]

theorem sameLetter_refl (a : Char) : sameLetter a a = true := by
  simp [sameLetter]

theorem sameLetter_comm (a b : Char) : sameLetter a b = sameLetter b a := by
  rw [Bool.eq_iff_iff, sameLetter_iff, sameLetter_iff, eq_comm]

theorem sameLetter_trans {a b c : Char} (first : sameLetter a b = true)
    (second : sameLetter b c = true) : sameLetter a c = true := by
  rw [sameLetter_iff] at *
  exact first.trans second

namespace Text

/-- As many characters, equal one by one up to letter case. -/
def SameLetters (s t : Text) : Prop := List.Forall₂ (fun a b => sameLetter a b = true) s t

instance (s t : Text) : Decidable (SameLetters s t) :=
  inferInstanceAs (Decidable (List.Forall₂ _ s t))

namespace SameLetters

theorem refl (s : Text) : SameLetters s s := List.forall₂_same.mpr fun c _ => sameLetter_refl c

theorem length_eq {s t : Text} (same : SameLetters s t) : s.length = t.length :=
  List.Forall₂.length_eq same

theorem symm {s t : Text} (same : SameLetters s t) : SameLetters t s := by
  induction same with
  | nil => exact .nil
  | cons head _ ih => exact .cons (by rwa [sameLetter_comm]) ih

theorem trans {s t u : Text} (first : SameLetters s t) (second : SameLetters t u) :
    SameLetters s u := by
  induction first generalizing u with
  | nil => exact second
  | cons head _ ih =>
      cases second with
      | cons head' tail => exact .cons (sameLetter_trans head head') (ih tail)

theorem exists_of_mem {s t : Text} (same : SameLetters s t) {x : Char} (member : x ∈ s) :
    ∃ y ∈ t, sameLetter x y = true := by
  induction same with
  | nil => cases member
  | cons head _ ih =>
      rcases List.mem_cons.mp member with rfl | member
      · exact ⟨_, List.mem_cons_self, head⟩
      · obtain ⟨y, inside, letter⟩ := ih member
        exact ⟨y, List.mem_cons_of_mem _ inside, letter⟩

theorem append {s s' t t' : Text} (first : SameLetters s t) (second : SameLetters s' t') :
    SameLetters (s ++ s') (t ++ t') := List.rel_append first second

end SameLetters

theorem stripPrefix?_append (value rest : Text) :
    stripPrefix? (value ++ rest) value = some rest := by
  induction value with
  | nil => cases rest <;> rfl
  | cons c value ih => simp [stripPrefix?, ih]

theorem isSome_stripPrefix?_iff {t start : Text} :
    (stripPrefix? t start).isSome = true ↔ ∃ rest, t = start ++ rest := by
  rw [Option.isSome_iff_exists]
  constructor
  · rintro ⟨rest, stripped⟩
    exact ⟨rest, eq_append_of_stripPrefix? stripped⟩
  · rintro ⟨rest, rfl⟩
    exact ⟨rest, stripPrefix?_append start rest⟩

theorem stripPrefixCaseless?_append {piece start : Text} (same : SameLetters piece start)
    (rest : Text) : stripPrefixCaseless? (piece ++ rest) start = some rest := by
  induction same with
  | nil => cases rest <;> rfl
  | cons head _ ih => simp [stripPrefixCaseless?, head, ih]

theorem stripPrefixCaseless?_eq_some_iff {t start rest : Text} :
    stripPrefixCaseless? t start = some rest ↔
      ∃ piece, t = piece ++ rest ∧ SameLetters piece start := by
  constructor
  · intro stripped
    fun_induction stripPrefixCaseless? t start with
    | case1 t => exact ⟨[], by simpa using stripped, .nil⟩
    | case2 => cases stripped
    | case3 c t p ps same ih =>
        obtain ⟨piece, rfl, letters⟩ := ih stripped
        exact ⟨c :: piece, rfl, .cons same letters⟩
    | case4 => cases stripped
  · rintro ⟨piece, rfl, same⟩
    exact stripPrefixCaseless?_append same rest

def StartsCaseless (t start : Text) : Prop :=
  ∃ piece rest, t = piece ++ rest ∧ SameLetters piece start

theorem isSome_stripPrefixCaseless?_iff {t start : Text} :
    (stripPrefixCaseless? t start).isSome = true ↔ StartsCaseless t start := by
  rw [Option.isSome_iff_exists]
  constructor
  · rintro ⟨rest, stripped⟩
    obtain ⟨piece, split, same⟩ := stripPrefixCaseless?_eq_some_iff.mp stripped
    exact ⟨piece, rest, split, same⟩
  · rintro ⟨piece, rest, split, same⟩
    exact ⟨rest, stripPrefixCaseless?_eq_some_iff.mpr ⟨piece, split, same⟩⟩

/-- A proper end of the text starts it again up to letter case. -/
def OverlapsItself (t : Text) : Prop :=
  ∃ k, 0 < k ∧ k < t.length ∧ SameLetters (t.drop k) (t.take (t.length - k))

theorem StartsCaseless.take_length {t start : Text} (starts : StartsCaseless t start) :
    SameLetters (t.take start.length) start := by
  obtain ⟨piece, rest, rfl, same⟩ := starts
  rw [← same.length_eq, List.take_left]
  exact same

theorem overlapsItself_of_starts {mid after needle : Text}
    (first : StartsCaseless (mid ++ after) needle) (second : StartsCaseless after needle)
    (apart : mid ≠ []) (close : mid.length < needle.length) : OverlapsItself needle := by
  refine ⟨mid.length, List.length_pos_iff.mpr apart, close, ?_⟩
  have tail : SameLetters (after.take (needle.length - mid.length)) (needle.drop mid.length) := by
    have dropped := List.forall₂_drop mid.length first.take_length
    rwa [List.drop_take, List.drop_left] at dropped
  have head : SameLetters (after.take (needle.length - mid.length))
      (needle.take (needle.length - mid.length)) := by
    have taken := List.forall₂_take (needle.length - mid.length) second.take_length
    rwa [List.take_take, Nat.min_eq_left (Nat.sub_le _ _)] at taken
  exact tail.symm.trans head

/-- An occurrence of a text that starts `n` bytes after a place. -/
def OccursAt (needle t : Text) (n : Nat) : Prop :=
  ∃ before after, t = before ++ after ∧ n = byteLength before ∧ StartsCaseless after needle

theorem OccursAt.cons {needle t : Text} {n : Nat} (occurs : OccursAt needle t n) (c : Char) :
    OccursAt needle (c :: t) (c.utf8Size + n) := by
  obtain ⟨before, after, rfl, rfl, starts⟩ := occurs
  exact ⟨c :: before, after, rfl, rfl, starts⟩

theorem occursAt_of_mem_occurrencesFrom {needle : Text} {covered offset n : Nat} {t : Text}
    (found : n ∈ occurrencesFrom needle covered offset t) :
    ∃ m, n = offset + m ∧ OccursAt needle t m := by
  fun_induction occurrencesFrom needle covered offset t with
  | case1 => cases found
  | case2 offset c t next k ih =>
      obtain ⟨m, rfl, occurs⟩ := ih found
      exact ⟨c.utf8Size + m, Nat.add_assoc _ _ _, occurs.cons c⟩
  | case3 offset c t next here ih =>
      rcases List.mem_cons.mp found with rfl | found
      · exact ⟨0, rfl, [], c :: t, rfl, rfl, isSome_stripPrefixCaseless?_iff.mp here⟩
      · obtain ⟨m, rfl, occurs⟩ := ih found
        exact ⟨c.utf8Size + m, Nat.add_assoc _ _ _, occurs.cons c⟩
  | case4 offset c t next absent ih =>
      obtain ⟨m, rfl, occurs⟩ := ih found
      exact ⟨c.utf8Size + m, Nat.add_assoc _ _ _, occurs.cons c⟩

/-- Of the occurrence that starts between two texts: it is among those found, or it starts inside
one of them. -/
def FoundOrInside (needle before after : Text) (offset : Nat) (found : List Nat) : Prop :=
  offset + byteLength before ∈ found ∨
    ∃ front mid, before = front ++ mid ∧ mid ≠ [] ∧ mid.length < needle.length ∧
      StartsCaseless (mid ++ after) needle ∧ offset + byteLength front ∈ found

theorem FoundOrInside.cons {needle before after : Text} {offset : Nat} {found found' : List Nat}
    (c : Char) (reported : FoundOrInside needle before after (offset + c.utf8Size) found)
    (more : found ⊆ found') : FoundOrInside needle (c :: before) after offset found' := by
  rcases reported with here | ⟨front, mid, rfl, apart, close, starts, earlier⟩
  · have := more here
    rw [Nat.add_assoc] at this
    exact .inl this
  · have := more earlier
    rw [Nat.add_assoc] at this
    exact .inr ⟨c :: front, mid, rfl, apart, close, starts, this⟩

/-- The scan misses an occurrence beyond the covered characters only inside one that it reports. -/
theorem foundOrInside_occurrencesFrom {needle : Text} (nonempty : needle ≠ [])
    {covered : Nat} (offset : Nat) {before after : Text} (uncovered : covered ≤ before.length)
    (starts : StartsCaseless after needle) :
    FoundOrInside needle before after offset
      (occurrencesFrom needle covered offset (before ++ after)) := by
  induction before generalizing covered offset with
  | nil =>
      obtain rfl : covered = 0 := Nat.le_zero.mp uncovered
      left
      cases after with
      | nil =>
          obtain ⟨piece, rest, empty, same⟩ := starts
          rw [(List.nil_eq_append_iff.mp empty).1] at same
          exact absurd (List.forall₂_nil_left_iff.mp same) nonempty
      | cons c t => simp [occurrencesFrom, isSome_stripPrefixCaseless?_iff.mpr starts, byteLength]
  | cons c before ih =>
      have behind {k : Nat} := @ih k (offset + c.utf8Size)
      rw [List.cons_append]
      cases covered with
      | succ k => exact (behind (Nat.le_of_succ_le_succ uncovered)).cons c (List.Subset.refl _)
      | zero =>
          rw [occurrencesFrom]
          by_cases here : (stripPrefixCaseless? (c :: (before ++ after)) needle).isSome
          · rw [if_pos here]
            by_cases close : before.length + 1 < needle.length
            · have first := isSome_stripPrefixCaseless?_iff.mp here
              exact .inr ⟨[], c :: before, rfl, by simp, close, first, by simp [byteLength]⟩
            · exact (behind (by omega)).cons c (List.subset_cons_self _ _)
          · rw [if_neg here]
            exact (behind (Nat.zero_le _)).cons c (List.Subset.refl _)

theorem mem_findAllCaseless {needle before after : Text} (nonempty : needle ≠ [])
    (rigid : ¬ OverlapsItself needle) (starts : StartsCaseless after needle) :
    byteLength before ∈ findAllCaseless (before ++ after) needle := by
  rw [findAllCaseless, if_neg (by simpa using nonempty)]
  rcases foundOrInside_occurrencesFrom nonempty 0 (Nat.zero_le _) starts with
    found | ⟨front, mid, _, apart, close, first, _⟩
  · simpa using found
  · exact absurd (overlapsItself_of_starts first starts apart close) rigid

theorem mem_findAllCaseless_of_foreign {needle before after : Text} (nonempty : needle ≠ [])
    (foreign : ∀ x ∈ before, ∀ y ∈ needle, sameLetter x y = false)
    (starts : StartsCaseless after needle) :
    byteLength before ∈ findAllCaseless (before ++ after) needle := by
  rw [findAllCaseless, if_neg (by simpa using nonempty)]
  have reported : FoundOrInside needle before after 0
      (occurrencesFrom needle 0 0 (before ++ after)) :=
    foundOrInside_occurrencesFrom nonempty 0 (Nat.zero_le _) starts
  rcases reported with found | ⟨front, mid, rfl, apart, _, first, _⟩
  · simpa using found
  · obtain ⟨x, mid, rfl⟩ := List.exists_cons_of_ne_nil apart
    obtain ⟨y, needle, rfl⟩ := List.exists_cons_of_ne_nil nonempty
    have letters := first.take_length
    simp only [List.cons_append, List.length_cons, List.take_succ_cons] at letters
    cases letters with
    | cons same _ =>
        have differ := foreign x (by simp) y List.mem_cons_self
        rw [same] at differ
        cases differ

theorem occursAt_of_mem_findAllCaseless {haystack needle : Text} {n : Nat}
    (found : n ∈ findAllCaseless haystack needle) : OccursAt needle haystack n := by
  rw [findAllCaseless] at found
  split at found
  · cases found
  · obtain ⟨m, rfl, occurs⟩ := occursAt_of_mem_occurrencesFrom found
    rwa [Nat.zero_add]

theorem splitAtByte?_byteLength_append (s t : Text) :
    splitAtByte? (byteLength s) (s ++ t) = some (s, t) := by
  induction s with
  | nil => cases t <;> rfl
  | cons c s ih =>
      obtain ⟨n, size⟩ := Nat.exists_eq_add_of_lt c.utf8Size_pos
      have total : byteLength (c :: s) = (byteLength s + n) + 1 := by
        simp only [byteLength]
        omega
      have rest : byteLength s + n + 1 - c.utf8Size = byteLength s := by omega
      rw [total, List.cons_append, splitAtByte?, if_pos (by omega), rest, ih]
      rfl

theorem splitAtByte?_eq_some_iff {n : Nat} {t before after : Text} :
    splitAtByte? n t = some (before, after) ↔ t = before ++ after ∧ n = byteLength before := by
  constructor
  · intro split
    fun_induction splitAtByte? n t generalizing before with
    | case1 t =>
        cases split
        exact ⟨rfl, rfl⟩
    | case2 => cases split
    | case3 n c t inside ih =>
        obtain ⟨⟨before', after'⟩, found, same⟩ := Option.map_eq_some_iff.mp split
        cases same
        obtain ⟨rfl, size⟩ := ih found
        refine ⟨rfl, ?_⟩
        simp only [byteLength]
        omega
    | case4 => cases split
  · rintro ⟨rfl, rfl⟩
    exact splitAtByte?_byteLength_append before after

theorem takeBytes_byteLength_append (s t : Text) : takeBytes (byteLength s) (s ++ t) = s := by
  rw [takeBytes, splitAtByte?_byteLength_append]
  rfl

theorem slice?_append (before value after : Text) :
    slice? (before ++ (value ++ after)) ⟨byteLength before, byteLength before + byteLength value⟩ =
      some value := by
  have inOrder := Nat.le_add_right (byteLength before) (byteLength value)
  simp [slice?, inOrder, splitAtByte?_byteLength_append]

theorem slice?_eq_some_iff {t value : Text} {span : Span} :
    slice? t span = some value ↔ ∃ before after, t = before ++ (value ++ after) ∧
      span.start = byteLength before ∧ span.stop = byteLength before + byteLength value := by
  constructor
  · intro sliced
    rw [slice?] at sliced
    split at sliced
    · rename_i inOrder
      obtain ⟨⟨before, rest⟩, first, sliced⟩ := Option.bind_eq_some_iff.mp sliced
      obtain ⟨⟨value', after⟩, second, same⟩ := Option.map_eq_some_iff.mp sliced
      cases same
      obtain ⟨rfl, start⟩ := splitAtByte?_eq_some_iff.mp first
      obtain ⟨rfl, size⟩ := splitAtByte?_eq_some_iff.mp second
      have stop : span.stop = byteLength before + byteLength value' := by omega
      exact ⟨before, after, rfl, start, stop⟩
    · cases sliced
  · rintro ⟨before, after, rfl, start, stop⟩
    obtain ⟨start', stop'⟩ := span
    cases start
    cases stop
    exact slice?_append before value after

theorem byteLength_eq_zero_iff {t : Text} : byteLength t = 0 ↔ t = [] := by
  cases t with
  | nil => simp [byteLength]
  | cons c t =>
      have := c.utf8Size_pos
      simp only [byteLength, reduceCtorEq, iff_false]
      omega

end Text

end NoteTemplate
