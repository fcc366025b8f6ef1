import NoteTemplate.Proofs.Template.Partition
import Mathlib.Data.List.Chain

namespace NoteTemplate

namespace Parts

variable {separator : Char} {offset : Nat} {t : Text} {fs : List Fragment}

theorem exists_cons (parts : Parts separator offset t fs) :
    ∃ s later, fs = ⟨offset, s⟩ :: later := by
  cases parts with
  | last whole => exact ⟨_, [], rfl⟩
  | part whole rest => exact ⟨_, _, rfl⟩

theorem balanced (plain : IsPlain separator) (parts : Parts separator offset t fs) :
    Balanced none t := by
  induction parts with
  | last whole => exact whole.unbar
  | part whole _ ih => exact whole.unbar.append (.cons plain ih)

theorem join_eq (parts : Parts separator offset t fs) :
    Text.join [separator] (fs.map Fragment.text) = t := by
  induction parts with
  | last whole => rfl
  | part whole rest ih =>
      obtain ⟨s, later, rfl⟩ := rest.exists_cons
      rw [List.map_cons, List.map_cons, Text.join, ← List.map_cons, ih, List.append_assoc]
      rfl

theorem exists_of_mem (plain : IsPlain separator) (parts : Parts separator offset t fs)
    {f : Fragment} (member : f ∈ fs) : ∃ before after, t = before ++ (f.text ++ after) ∧
      f.offset = offset + before.byteLength ∧ endsInBackslash before = false ∧
      Balanced none f.text := by
  induction parts with
  | last whole =>
      cases List.mem_singleton.mp member
      exact ⟨[], [], by simp, rfl, rfl, whole.unbar⟩
  | @part offset s t fs whole rest ih =>
      rcases List.mem_cons.mp member with same | later
      · cases same
        exact ⟨[], separator :: t, rfl, rfl, rfl, whole.unbar⟩
      · obtain ⟨before, after, rfl, place, awake, inside⟩ := ih later
        refine ⟨s ++ separator :: before, after, ?_, ?_, ?_, inside⟩
        · rw [List.append_assoc, List.cons_append]
        · rw [place, Text.byteLength_append, Text.byteLength]
          omega
        · rw [endsInBackslash_append whole.awake]
          exact ((ScanUnit.single plain.2.2).endsInBackslash_append before).trans awake

theorem isChain (parts : Parts separator offset t fs) :
    fs.IsChain fun f g => g.offset = f.stop + separator.utf8Size := by
  induction parts with
  | last whole => exact .singleton _
  | part whole rest ih =>
      obtain ⟨s, later, rfl⟩ := rest.exists_cons
      exact .cons_cons rfl ih

theorem pairwise (plain : IsPlain separator) (parts : Parts separator offset t fs) :
    fs.Pairwise fun f g => f.stop < g.offset := by
  induction parts with
  | last whole => exact List.pairwise_singleton _ _
  | @part offset s t fs whole rest ih =>
      refine List.pairwise_cons.mpr ⟨fun g later => ?_, ih⟩
      obtain ⟨before, _, _, place, _⟩ := rest.exists_of_mem plain later
      have size := separator.utf8Size_pos
      have stop : Fragment.stop ⟨offset, s⟩ = offset + s.byteLength := rfl
      omega

theorem getLast?_stop (parts : Parts separator offset t fs) :
    fs.getLast?.map Fragment.stop = some (offset + t.byteLength) := by
  induction parts with
  | last whole => rfl
  | @part offset s t fs whole rest ih =>
      obtain ⟨s', later, rfl⟩ := rest.exists_cons
      rw [List.getLast?_cons_cons, ih, Text.byteLength_append, Text.byteLength]
      congr 1
      omega

/-- What stands behind the first separator. -/
theorem exists_second (plain : IsPlain separator) (parts : Parts separator offset t fs)
    {g : Fragment} (second : fs[1]? = some g) : ∃ s rest, t = s ++ separator :: rest ∧
      Balanced (some separator) s ∧ Balanced none rest ∧
        g.offset = offset + s.byteLength + separator.utf8Size := by
  cases parts with
  | last whole => cases second
  | part whole rest =>
      rcases rest.exists_cons with ⟨s, later, rfl⟩
      cases second
      exact ⟨_, _, rfl, whole, rest.balanced plain, rfl⟩

end Parts

end NoteTemplate
