import NoteTemplate.Regex.Basic
import Mathlib.Data.List.Basic

/-!
The texts that an expression matches between two characters, and the search as the question whether
some part of the text is one of them.
-/
namespace NoteTemplate

namespace Regex

/-- An expression matches a text that stands between two characters, or at an end of the input. -/
inductive Matches : Regex → Option Char → Text → Option Char → Prop
  | empty {previous next : Option Char} : Matches .empty previous [] next
  | chars {members : CharClass} {previous next : Option Char} {c : Char}
      (member : members.contains c = true) : Matches (.chars members) previous [c] next
  | look {assertion : Look} {previous next : Option Char}
      (holds : assertion.holds previous next = true) : Matches (.look assertion) previous [] next
  | cat {a b : Regex} {previous next : Option Char} {s t : Text}
      (first : Matches a previous s (t.head?.or next))
      (second : Matches b (s.getLast?.or previous) t next) :
      Matches (.cat a b) previous (s ++ t) next
  | left {a b : Regex} {previous next : Option Char} {t : Text}
      (whole : Matches a previous t next) : Matches (.alt a b) previous t next
  | right {a b : Regex} {previous next : Option Char} {t : Text}
      (whole : Matches b previous t next) : Matches (.alt a b) previous t next
  | stop {a : Regex} {previous next : Option Char} : Matches (.star a) previous [] next
  | more {a : Regex} {previous next : Option Char} {s t : Text}
      (first : Matches a previous s (t.head?.or next))
      (rest : Matches (.star a) (s.getLast?.or previous) t next) :
      Matches (.star a) previous (s ++ t) next

def Begins (r : Regex) (previous : Option Char) (t : Text) : Prop :=
  ∃ m rest, t = m ++ rest ∧ Matches r previous m rest.head?

def Found (r : Regex) (previous : Option Char) (t : Text) : Prop :=
  ∃ a b, t = a ++ b ∧ Begins r (a.getLast?.or previous) b

section Constructors

variable {a b : Regex} {previous next : Option Char} {t : Text}

theorem matches_empty_iff : Matches .empty previous t next ↔ t = [] := by
  constructor
  · intro whole
    cases whole
    rfl
  · intro nothing
    rw [nothing]
    exact .empty

theorem matches_chars_iff {members : CharClass} :
    Matches (.chars members) previous t next ↔ ∃ c, t = [c] ∧ members.contains c = true := by
  constructor
  · intro whole
    cases whole with
    | chars member => exact ⟨_, rfl, member⟩
  · intro single
    rcases single with ⟨c, rfl, member⟩
    exact .chars member

theorem matches_look_iff {assertion : Look} :
    Matches (.look assertion) previous t next ↔
      t = [] ∧ assertion.holds previous next = true := by
  constructor
  · intro whole
    cases whole with
    | look holds => exact ⟨rfl, holds⟩
  · intro place
    rw [place.1]
    exact .look place.2

theorem matches_cat_iff : Matches (.cat a b) previous t next ↔ ∃ u v, t = u ++ v ∧
    Matches a previous u (v.head?.or next) ∧ Matches b (u.getLast?.or previous) v next := by
  constructor
  · intro whole
    cases whole with
    | cat first second => exact ⟨_, _, rfl, first, second⟩
  · intro parts
    rcases parts with ⟨u, v, rfl, first, second⟩
    exact .cat first second

theorem matches_alt_iff : Matches (.alt a b) previous t next ↔
    Matches a previous t next ∨ Matches b previous t next := by
  constructor
  · intro whole
    cases whole with
    | left whole => exact .inl whole
    | right whole => exact .inr whole
  · intro branch
    cases branch with
    | inl whole => exact .left whole
    | inr whole => exact .right whole

theorem matches_optional_iff :
    Matches (optional a) previous t next ↔ Matches a previous t next ∨ t = [] := by
  rw [optional, matches_alt_iff, matches_empty_iff]

theorem matches_seq_iff :
    Matches (seq a b) previous t next ↔ Matches (.cat a b) previous t next := by
  rw [matches_cat_iff]
  unfold seq
  split
  · constructor
    · intro whole
      exact ⟨[], t, rfl, .empty, whole⟩
    · intro parts
      rcases parts with ⟨u, v, rfl, first, second⟩
      cases matches_empty_iff.mp first
      exact second
  · simp [matches_empty_iff]
  · exact matches_cat_iff

theorem matches_star_chars_iff {members : CharClass} :
    Matches (.star (.chars members)) previous t next ↔ ∀ c ∈ t, members.contains c = true := by
  constructor
  · intro whole
    generalize same : Regex.star (.chars members) = r at whole
    induction whole with
    | stop => simp
    | more first rest _ ih =>
        cases same
        rcases matches_chars_iff.mp first with ⟨c, rfl, member⟩
        exact List.forall_mem_cons.mpr ⟨member, ih rfl⟩
    | _ => cases same
  · intro all
    induction t generalizing previous with
    | nil => exact .stop
    | cons c t ih =>
        rcases List.forall_mem_cons.mp all with ⟨member, others⟩
        exact .more (.chars member) (ih others)

end Constructors

section Steps

variable {r a : Regex} {previous next : Option Char} {c : Char} {t : Text}

theorem nullable_iff : r.nullable previous next = true ↔ Matches r previous [] next := by
  induction r generalizing previous next with
  | empty => simp [nullable, matches_empty_iff]
  | chars members => simp [nullable, matches_chars_iff]
  | look assertion => simp [nullable, matches_look_iff]
  | cat a b iha ihb =>
      rw [nullable, Bool.and_eq_true, iha, ihb]
      constructor
      · intro both
        exact .cat (s := []) both.1 both.2
      · intro whole
        rcases matches_cat_iff.mp whole with ⟨u, v, text, first, second⟩
        rcases List.append_eq_nil_iff.mp text.symm with ⟨rfl, rfl⟩
        exact ⟨first, second⟩
  | alt a b iha ihb => simp [nullable, matches_alt_iff, iha, ihb]
  | star a ih => simp [nullable, Matches.stop]

theorem getLast?_cons_or (c : Char) (u : Text) (previous : Option Char) :
    (c :: u).getLast?.or previous = u.getLast?.or (some c) := by
  rw [List.getLast?_cons]
  cases u.getLast? <;> rfl

/-- Of the repetitions of `a` the first that takes a character takes the next one. -/
theorem matches_star_cons_iff : Matches (.star a) previous (c :: t) next ↔ ∃ u v, t = u ++ v ∧
    Matches a previous (c :: u) (v.head?.or next) ∧
      Matches (.star a) (u.getLast?.or (some c)) v next := by
  constructor
  · intro whole
    generalize same : Regex.star a = r at whole
    generalize text : c :: t = s at whole
    induction whole with
    | stop => cases text
    | @more _ previous next s t' first rest _ ih =>
        cases same
        cases s with
        | nil => exact ih rfl text
        | cons d s =>
            cases text
            rw [getLast?_cons_or] at rest
            exact ⟨s, t', rfl, first, rest⟩
    | _ => cases same
  · intro parts
    rcases parts with ⟨u, v, rfl, first, rest⟩
    rw [← getLast?_cons_or c u previous] at rest
    exact .more first rest

theorem exists_mem_after_iff : (∃ q ∈ r.after previous c, Matches q (some c) t next) ↔
    Matches r previous (c :: t) next := by
  induction r generalizing previous t next with
  | empty => simp [after, matches_empty_iff]
  | chars members =>
      rw [after]
      constructor
      · intro found
        rcases found with ⟨q, left, whole⟩
        split at left
        · rename_i member
          cases List.mem_singleton.mp left
          cases matches_empty_iff.mp whole
          exact .chars member
        · cases left
      · intro whole
        rcases matches_chars_iff.mp whole with ⟨d, single, member⟩
        cases single
        exact ⟨.empty, by simp [member], .empty⟩
  | look assertion => simp [after, matches_look_iff]
  | cat a b iha ihb =>
      constructor
      · intro found
        rcases found with ⟨q, member, whole⟩
        rcases List.mem_append.mp member with begun | skipped
        · rcases List.mem_map.mp begun with ⟨q', left, rfl⟩
          rcases matches_cat_iff.mp (matches_seq_iff.mp whole) with ⟨u, v, rfl, first, second⟩
          rw [← getLast?_cons_or c u previous] at second
          exact .cat (iha.mp ⟨q', left, first⟩) second
        · split at skipped
          · rename_i nothing
            exact .cat (s := []) (nullable_iff.mp nothing) (ihb.mp ⟨q, skipped, whole⟩)
          · cases skipped
      · intro whole
        rcases matches_cat_iff.mp whole with ⟨u, v, text, first, second⟩
        cases u with
        | nil =>
            cases text
            rcases ihb.mpr second with ⟨q, member, behind⟩
            have nothing : a.nullable previous (some c) = true := nullable_iff.mpr first
            refine ⟨q, List.mem_append_right _ ?_, behind⟩
            rwa [if_pos nothing]
        | cons d u =>
            cases text
            rcases iha.mpr first with ⟨q, member, behind⟩
            rw [getLast?_cons_or] at second
            exact ⟨seq q b, List.mem_append_left _ (List.mem_map_of_mem member),
              matches_seq_iff.mpr (.cat behind second)⟩
  | alt a b iha ihb =>
      simp only [after, List.mem_append, or_and_right, exists_or, iha, ihb, matches_alt_iff]
  | star a ih =>
      rw [matches_star_cons_iff]
      constructor
      · intro found
        rcases found with ⟨q, member, whole⟩
        rcases List.mem_map.mp member with ⟨q', begun, rfl⟩
        rcases matches_cat_iff.mp (matches_seq_iff.mp whole) with ⟨u, v, rfl, first, rest⟩
        exact ⟨u, v, rfl, ih.mp ⟨q', begun, first⟩, rest⟩
      · intro parts
        rcases parts with ⟨u, v, rfl, first, rest⟩
        rcases ih.mpr first with ⟨q, member, behind⟩
        exact ⟨seq q (.star a), List.mem_map_of_mem member, matches_seq_iff.mpr (.cat behind rest)⟩

end Steps

section Search

variable {r : Regex} {previous : Option Char} {c : Char} {t : Text}

theorem begins_nil_iff : Begins r previous [] ↔ r.nullable previous none = true := by
  rw [nullable_iff]
  constructor
  · intro begins
    rcases begins with ⟨m, rest, text, whole⟩
    rcases List.append_eq_nil_iff.mp text.symm with ⟨rfl, rfl⟩
    exact whole
  · intro whole
    exact ⟨[], [], rfl, whole⟩

theorem begins_cons_iff : Begins r previous (c :: t) ↔
    r.nullable previous (some c) = true ∨ ∃ q ∈ r.after previous c, Begins q (some c) t := by
  rw [nullable_iff]
  constructor
  · intro begins
    rcases begins with ⟨m, rest, text, whole⟩
    cases m with
    | nil =>
        cases text
        exact .inl whole
    | cons d m =>
        cases text
        rcases exists_mem_after_iff.mpr whole with ⟨q, member, behind⟩
        exact .inr ⟨q, member, m, rest, rfl, behind⟩
  · intro found
    rcases found with whole | ⟨q, member, m, rest, rfl, behind⟩
    · exact ⟨[], c :: t, rfl, whole⟩
    · exact ⟨c :: m, rest, rfl, exists_mem_after_iff.mp ⟨q, member, behind⟩⟩

theorem found_nil_iff : Found r previous [] ↔ Begins r previous [] := by
  constructor
  · intro found
    rcases found with ⟨a, b, text, begins⟩
    rcases List.append_eq_nil_iff.mp text.symm with ⟨rfl, rfl⟩
    exact begins
  · intro begins
    exact ⟨[], [], rfl, begins⟩

theorem found_cons_iff :
    Found r previous (c :: t) ↔ Begins r previous (c :: t) ∨ Found r (some c) t := by
  constructor
  · intro found
    rcases found with ⟨a, b, text, begins⟩
    cases a with
    | nil =>
        cases text
        exact .inl begins
    | cons d a =>
        cases text
        rw [getLast?_cons_or] at begins
        exact .inr ⟨a, b, rfl, begins⟩
  · intro found
    rcases found with begins | ⟨a, b, rfl, begins⟩
    · exact ⟨[], c :: t, rfl, begins⟩
    · rw [← getLast?_cons_or c a previous] at begins
      exact ⟨c :: a, b, rfl, begins⟩

theorem exists_begins_cons_iff {active : List Regex} :
    (∃ p ∈ active, Begins p previous (c :: t)) ↔
      (∃ p ∈ active, p.nullable previous (some c) = true) ∨
        ∃ q ∈ (active.flatMap (after previous c)).eraseDups, Begins q (some c) t := by
  simp only [begins_cons_iff, and_or_left, exists_or, List.mem_eraseDups, List.mem_flatMap]
  apply or_congr_right
  constructor
  · intro found
    rcases found with ⟨p, member, q, left, begins⟩
    exact ⟨q, ⟨p, member, left⟩, begins⟩
  · intro found
    rcases found with ⟨q, ⟨p, member, left⟩, begins⟩
    exact ⟨p, member, q, left, begins⟩

/-- The search finds what began before it or begins in what is left. -/
theorem searchFrom_iff {active : List Regex} : searchFrom r previous active t = true ↔
    (∃ q ∈ active, Begins q previous t) ∨ Found r previous t := by
  induction t generalizing previous active with
  | nil =>
      rw [searchFrom, List.any_eq_true, found_nil_iff, List.exists_mem_cons_iff, or_comm]
      simp only [begins_nil_iff]
  | cons c t ih =>
      calc
        searchFrom r previous active (c :: t) = true ↔
            (∃ p ∈ r :: active, p.nullable previous (some c) = true) ∨
              (∃ q ∈ ((r :: active).flatMap (after previous c)).eraseDups,
                Begins q (some c) t) ∨ Found r (some c) t := by
          rw [searchFrom, Bool.or_eq_true, List.any_eq_true, ih]
        _ ↔ (∃ p ∈ r :: active, Begins p previous (c :: t)) ∨ Found r (some c) t := by
          rw [exists_begins_cons_iff, or_assoc]
        _ ↔ (∃ q ∈ active, Begins q previous (c :: t)) ∨
            Begins r previous (c :: t) ∨ Found r (some c) t := by
          rw [List.exists_mem_cons_iff, or_comm (a := Begins r previous (c :: t)), or_assoc]
        _ ↔ _ := by rw [found_cons_iff]

/-- The search answers whether the expression matches some part of the text. -/
theorem isMatch_iff : r.isMatch t = true ↔
    ∃ a m b, t = a ++ (m ++ b) ∧ Matches r a.getLast? m b.head? := by
  rw [isMatch, searchFrom_iff]
  constructor
  · intro found
    rcases found with ⟨q, none, _⟩ | ⟨a, _, rfl, m, b, rfl, whole⟩
    · cases none
    · rw [Option.or_none] at whole
      exact ⟨a, m, b, rfl, whole⟩
  · intro part
    rcases part with ⟨a, m, b, rfl, whole⟩
    rw [← Option.or_none (o := a.getLast?)] at whole
    exact .inr ⟨a, m ++ b, rfl, m, b, rfl, whole⟩

end Search

end Regex

end NoteTemplate
