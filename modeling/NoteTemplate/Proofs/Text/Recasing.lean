import Mathlib
import NoteTemplate.Proofs.Text.Caseless
import NoteTemplate.Value.Word

/-!
Texts in another letter case. They have as many characters, though not always as many bytes, and a
scan for a literal finds its occurrences at the same characters.
-/
namespace NoteTemplate

/-- Which characters may take the place of which others. These have the same lower-case form. -/
structure Recasing where
  relates : Char → Char → Prop
  sameLetter : ∀ a b, relates a b → sameLetter a b = true

namespace Recasing

def identity : Recasing where
  relates := Eq
  sameLetter a _ same := same ▸ sameLetter_refl a

def full : Recasing where
  relates a b := NoteTemplate.sameLetter a b = true
  sameLetter _ _ same := same

end Recasing

namespace Text

abbrev Recased (e : Recasing) : Text → Text → Prop := List.Forall₂ e.relates

variable {e : Recasing} {s s' t t' needle needle' : Text}

theorem recased_identity_iff : Recased .identity s t ↔ s = t :=
  iff_of_eq (congrFun₂ List.forall₂_eq_eq_eq s t)

theorem Recased.sameLetters (recased : Recased e s t) : SameLetters s t :=
  recased.imp e.sameLetter

theorem Recased.exists_append {front back : Text} (recased : Recased e (front ++ back) s) :
    ∃ front' back', s = front' ++ back' ∧ Recased e front front' ∧ Recased e back back' := by
  induction front generalizing s with
  | nil => exact ⟨[], s, rfl, .nil, recased⟩
  | cons c front ih =>
      cases recased with
      | cons head tail =>
          obtain ⟨front', back', rfl, fronts, backs⟩ := ih tail
          exact ⟨_ :: front', back', rfl, .cons head fronts, backs⟩

theorem byteLength_concat (t : Text) (c : Char) :
    byteLength (t ++ [c]) = byteLength t + c.utf8Size := by
  rw [byteLength_append]
  simp [byteLength]

/-- Two texts are cut at the same character, and the parts are recased. -/
def CutAlike (e : Recasing) (s s' front front' : Text) : Prop :=
  ∃ back back', s = front ++ back ∧ s' = front' ++ back' ∧
    Recased e front front' ∧ Recased e back back'

/-- Byte offsets in two texts that lie at the same character. -/
def CutsAt (e : Recasing) (s s' : Text) (n n' : Nat) : Prop :=
  ∃ front front', CutAlike e s s' front front' ∧ n = byteLength front ∧ n' = byteLength front'

section Occurrences

theorem StartsCaseless.recased (starts : StartsCaseless t needle) (texts : SameLetters t t')
    (needles : SameLetters needle needle') : StartsCaseless t' needle' := by
  obtain ⟨piece, rest, rfl, same⟩ := starts
  obtain ⟨piece', rest', rfl, pieces, _⟩ := Recased.exists_append (e := .full) texts
  have same' := (Recased.sameLetters pieces).symm.trans (same.trans needles)
  exact ⟨piece', rest', rfl, same'⟩

theorem isSome_stripPrefixCaseless?_congr (texts : SameLetters t t')
    (needles : SameLetters needle needle') :
    (stripPrefixCaseless? t needle).isSome = (stripPrefixCaseless? t' needle').isSome := by
  rw [Bool.eq_iff_iff, isSome_stripPrefixCaseless?_iff, isSome_stripPrefixCaseless?_iff]
  constructor
  · intro starts
    exact starts.recased texts needles
  · intro starts
    exact starts.recased texts.symm needles.symm

theorem stripPrefixCaseless?_recased (texts : Recased e t t')
    (needles : SameLetters needle needle') :
    (stripPrefixCaseless? t needle = none ∧ stripPrefixCaseless? t' needle' = none) ∨
      ∃ piece rest piece' rest', t = piece ++ rest ∧ t' = piece' ++ rest' ∧
        Recased e piece piece' ∧ Recased e rest rest' ∧
        SameLetters piece needle ∧ SameLetters piece' needle' := by
  cases stripped : stripPrefixCaseless? t needle with
  | none =>
      have both := isSome_stripPrefixCaseless?_congr texts.sameLetters needles
      rw [stripped] at both
      exact .inl ⟨rfl, Option.not_isSome_iff_eq_none.mp (by simp [← both])⟩
  | some rest =>
      obtain ⟨piece, rfl, same⟩ := stripPrefixCaseless?_eq_some_iff.mp stripped
      obtain ⟨piece', rest', rfl, pieces, rests⟩ := texts.exists_append
      have same' := pieces.sameLetters.symm.trans (same.trans needles)
      exact .inr ⟨piece, rest, piece', rest', rfl, rfl, pieces, rests, same, same'⟩

theorem occurrencesFrom_recased (needles : SameLetters needle needle') (covered : Nat)
    {front front' : Text} (fronts : Recased e front front') (texts : Recased e t t') :
    List.Forall₂ (CutsAt e (front ++ t) (front' ++ t'))
      (occurrencesFrom needle covered (byteLength front) t)
      (occurrencesFrom needle' covered (byteLength front') t') := by
  induction texts generalizing covered front front' with
  | nil => exact .nil
  | @cons c c' t t' letter texts ih =>
      have behind (k : Nat) := ih k (List.rel_append fronts (.cons letter .nil))
      simp only [byteLength_concat, List.append_assoc, List.singleton_append] at behind
      have whole : Recased e (c :: t) (c' :: t') := .cons letter texts
      cases covered with
      | succ k => exact behind k
      | zero =>
          rw [occurrencesFrom, occurrencesFrom,
            isSome_stripPrefixCaseless?_congr whole.sameLetters needles, needles.length_eq]
          split
          · refine .cons ?_ (behind _)
            exact ⟨front, front', ⟨_, _, rfl, rfl, fronts, whole⟩, rfl, rfl⟩
          · exact behind 0

theorem findAllCaseless_recased (texts : Recased e s s') (needles : SameLetters needle needle') :
    List.Forall₂ (CutsAt e s s') (findAllCaseless s needle) (findAllCaseless s' needle') := by
  have empty : needle.isEmpty = needle'.isEmpty := by
    rw [Bool.eq_iff_iff, List.isEmpty_iff_length_eq_zero, List.isEmpty_iff_length_eq_zero,
      needles.length_eq]
  rw [findAllCaseless, findAllCaseless, empty]
  split
  · exact .nil
  · exact occurrencesFrom_recased needles 0 .nil texts

end Occurrences

section Blanks

def blankRuns : List CharRun :=
  [⟨0x09, 0x0D, 1⟩, ⟨0x20, 0x20, 1⟩, ⟨0x85, 0x85, 1⟩, ⟨0xA0, 0xA0, 1⟩, ⟨0x1680, 0x1680, 1⟩,
   ⟨0x2000, 0x200A, 1⟩, ⟨0x2028, 0x2029, 1⟩, ⟨0x202F, 0x202F, 1⟩, ⟨0x205F, 0x205F, 1⟩,
   ⟨0x3000, 0x3000, 1⟩]

theorem exists_blankRun {c : Char} (blank : isBlank c = true) :
    ∃ b ∈ blankRuns, b.first ≤ c.toNat ∧ c.toNat ≤ b.last := by
  simp only [isBlank, Bool.or_eq_true, Bool.and_eq_true, decide_eq_true_eq, beq_iff_eq] at blank
  simp only [blankRuns, List.mem_cons, List.not_mem_nil, or_false, exists_eq_or_imp,
    exists_eq_left]
  omega

theorem CharRun.between_of_holds {run : CharRun} {n : Nat} (held : run.holds n = true) :
    run.first ≤ n ∧ n ≤ run.last := by
  simp only [CharRun.holds, Bool.and_eq_true, decide_eq_true_eq] at held
  exact held.1

theorem shiftIn_cases (n : Nat) (runs : List CaseRun) :
    shiftIn n runs = 0 ∨
      ∃ r ∈ runs, r.run.first ≤ n ∧ n ≤ r.run.last ∧ shiftIn n runs = r.shift := by
  induction runs with
  | nil => exact .inl rfl
  | cons r runs ih =>
      rw [shiftIn]
      by_cases below : n < r.run.first
      · rw [if_pos below]
        exact .inl rfl
      · rw [if_neg below]
        by_cases held : r.run.holds n = true
        · rw [if_pos held]
          obtain ⟨first, last⟩ := CharRun.between_of_holds held
          exact .inr ⟨r, List.mem_cons_self, first, last, rfl⟩
        · rw [if_neg held]
          refine ih.imp_right ?_
          rintro ⟨r', member, inside⟩
          exact ⟨r', List.mem_cons_of_mem r member, inside⟩

/-- No run of the table has a blank, and none is moved onto one. -/
theorem lowerCaseRuns_apart : ∀ b ∈ blankRuns, ∀ r ∈ lowerCaseRuns,
    (b.last < r.run.first ∨ r.run.last < b.first) ∧
      ((b.last : Int) < r.run.first + r.shift ∨ r.run.last + r.shift < (b.first : Int)) := by
  decide +kernel

theorem lowerCase_blank {c : Char} (blank : isBlank c = true) : lowerCase c = [c] := by
  obtain ⟨b, known, low, high⟩ := exists_blankRun blank
  have fixed : shiftIn c.toNat lowerCaseRuns = 0 := by
    rcases shiftIn_cases c.toNat lowerCaseRuns with none | ⟨r, member, first, last, _⟩
    · exact none
    · have apart := (lowerCaseRuns_apart b known r member).1
      omega
  have other : c ≠ 'İ' := by
    rintro rfl
    revert blank
    decide
  rw [lowerCase, if_neg other, mapCase, fixed]
  simp

theorem toNat_ofNat_cases (n : Nat) : (Char.ofNat n).toNat = n ∨ (Char.ofNat n).toNat = 0 := by
  rw [Char.toNat_ofNat]
  split
  · exact .inl rfl
  · exact .inr rfl

theorem eq_of_lowerCase_eq_blank {c d : Char} (blank : isBlank c = true)
    (lower : lowerCase d = [c]) : d = c := by
  obtain ⟨b, known, low, high⟩ := exists_blankRun blank
  rw [lowerCase] at lower
  split at lower
  · simp at lower
  · rw [mapCase, List.singleton_inj] at lower
    rcases shiftIn_cases d.toNat lowerCaseRuns with none | ⟨r, member, first, last, shift⟩
    · rw [none] at lower
      simpa using lower
    · have apart := (lowerCaseRuns_apart b known r member).2
      have positive : 0 < b.first :=
        (by decide : ∀ b ∈ blankRuns, 0 < b.first) b known
      rw [shift] at lower
      rcases toNat_ofNat_cases (d.toNat + r.shift).toNat with same | zero
      · rw [lower] at same
        omega
      · rw [lower] at zero
        omega

theorem isBlank_eq_of_sameLetter {c d : Char} (same : sameLetter c d = true) :
    isBlank c = isBlank d := by
  rw [sameLetter_iff] at same
  rw [Bool.eq_iff_iff]
  constructor
  · intro blank
    have lower := lowerCase_blank blank
    rw [same] at lower
    rwa [eq_of_lowerCase_eq_blank blank lower]
  · intro blank
    have lower := lowerCase_blank blank
    rw [← same] at lower
    rwa [eq_of_lowerCase_eq_blank blank lower]

theorem Recased.isWord_eq (recased : Recased e s t) : Value.isWord s = Value.isWord t := by
  rw [Value.isWord, Value.isWord]
  congr 1
  induction recased with
  | nil => rfl
  | cons letter _ ih =>
      rw [List.any_cons, List.any_cons, isBlank_eq_of_sameLetter (e.sameLetter _ _ letter), ih]

end Blanks

end Text

end NoteTemplate
