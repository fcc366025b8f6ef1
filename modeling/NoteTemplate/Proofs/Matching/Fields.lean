import NoteTemplate.Matching.Result
import NoteTemplate.Proofs.Expansion.Ranking

namespace NoteTemplate

inductive FieldValue.Gathers : FieldValue → List Text → Prop
  | once (value : Text) : Gathers (.single value) [value]
  | repeated (first second : Text) (rest : List Text) :
      Gathers (.list (first :: second :: rest)) (first :: second :: rest)

def Field.once (v : Variable) (value : Text) : Field := ⟨v.name, v.inputType, .single value⟩

section Names

theorem names_addCapture (c : Captured) (fields : List Field) :
    (addCapture c fields).map (·.name) =
      if c.slot.name ∈ fields.map (·.name) then fields.map (·.name)
      else fields.map (·.name) ++ [c.slot.name] := by
  induction fields with
  | nil => rfl
  | cons f fields ih =>
      rw [addCapture]
      by_cases taken : f.name = c.slot.name
      · simp [taken]
      · have other : ¬ c.slot.name = f.name := fun same => taken same.symm
        rw [if_neg taken, List.map_cons, ih, List.map_cons]
        by_cases known : c.slot.name ∈ fields.map (·.name)
        · simp [known]
        · simp [known, other]

theorem names_foldl (kept : List Captured) :
    (kept.foldl (fun fields c => addCapture c fields) []).map (·.name) =
      (kept.map (·.slot.name)).eraseDups := by
  induction kept using List.reverseRecOn with
  | nil => rfl
  | append_singleton kept c ih =>
      rw [List.foldl_append, List.foldl_cons, List.foldl_nil, names_addCapture, ih,
        List.map_append, List.map_singleton, eraseDups_concat]
      simp only [List.mem_eraseDups]

theorem nodup_names_foldl (kept : List Captured) :
    ((kept.foldl (fun fields c => addCapture c fields) []).map (·.name)).Nodup := by
  rw [names_foldl]
  exact nodup_eraseDups _

theorem nodup_names_ofCaptured (c : Combination) (captured : List Captured) :
    ((MatchResult.ofCaptured c captured).fields.map (·.name)).Nodup :=
  nodup_names_foldl _

theorem MatchResult.value?_eq_some_iff {result : MatchResult}
    (distinct : (result.fields.map (·.name)).Nodup) {name : Text} {value : FieldValue} :
    result.value? name = some value ↔
      ∃ f ∈ result.fields, f.name = some name ∧ f.value = value := by
  rw [value?, Option.map_eq_some_iff]
  constructor
  · rintro ⟨f, found, same⟩
    have named := List.find?_some found
    exact ⟨f, List.mem_of_find?_eq_some found, by simpa using named, same⟩
  · rintro ⟨f, member, named, same⟩
    have present : (result.field? name).isSome := by
      rw [field?, List.find?_isSome]
      exact ⟨f, member, by simpa using named⟩
    obtain ⟨g, found⟩ := Option.isSome_iff_exists.mp present
    have other := List.find?_some found
    have equal : g = f := by
      apply List.inj_on_of_nodup_map distinct (List.mem_of_find?_eq_some found) member
      rw [named]
      simpa using other
    exact ⟨g, found, equal ▸ same⟩

end Names

section Collecting

variable {kept : List Captured} {fields : List Field}

theorem FieldValue.Gathers.push {held : FieldValue} {values : List Text}
    (gathers : held.Gathers values) (value : Text) :
    (held.push value).Gathers (values ++ [value]) := by
  cases gathers with
  | once first => exact .repeated first value []
  | repeated first second rest => exact .repeated first second (rest ++ [value])

/-- A field after a further capture: its name is another one, or it has taken the value, or it is
new. -/
theorem addCapture_cases {c : Captured} (distinct : (fields.map (·.name)).Nodup) {f : Field}
    (member : f ∈ addCapture c fields) :
    (f ∈ fields ∧ f.name ≠ c.slot.name) ∨
      (∃ g ∈ fields, g.name = c.slot.name ∧ f = { g with value := g.value.push c.value }) ∨
      (c.slot.name ∉ fields.map (·.name) ∧ f = .once c.slot c.value) := by
  induction fields with
  | nil =>
      have new : f = .once c.slot c.value := List.mem_singleton.mp member
      exact .inr (.inr ⟨List.not_mem_nil, new⟩)
  | cons g fields ih =>
      have alone : g.name ∉ fields.map (·.name) := (List.nodup_cons.mp distinct).1
      rw [addCapture] at member
      by_cases taken : g.name = c.slot.name
      · rw [if_pos taken] at member
        rcases List.mem_cons.mp member with rfl | member
        · exact .inr (.inl ⟨g, List.mem_cons_self, taken, rfl⟩)
        · refine .inl ⟨List.mem_cons_of_mem g member, fun same => alone ?_⟩
          rw [taken, ← same]
          exact List.mem_map_of_mem member
      · rw [if_neg taken] at member
        rcases List.mem_cons.mp member with rfl | member
        · exact .inl ⟨List.mem_cons_self, taken⟩
        · have rest := ih (List.nodup_cons.mp distinct).2 member
          rcases rest with ⟨old, other⟩ | ⟨h, old, same⟩ | ⟨fresh, new⟩
          · exact .inl ⟨List.mem_cons_of_mem g old, other⟩
          · exact .inr (.inl ⟨h, List.mem_cons_of_mem g old, same⟩)
          · refine .inr (.inr ⟨fun known => ?_, new⟩)
            rcases List.mem_cons.mp known with same | known
            · exact taken same.symm
            · exact fresh known

structure Field.Collects (f : Field) (kept : List Captured) : Prop where
  typed : (kept.filter (·.slot.name = f.name)).head?.map (·.slot.inputType) = some f.inputType
  valued : f.value.Gathers ((kept.filter (·.slot.name = f.name)).map (·.value))

theorem Field.Collects.skip {f : Field} (collects : f.Collects kept) {c : Captured}
    (other : f.name ≠ c.slot.name) : f.Collects (kept ++ [c]) := by
  have same : (kept ++ [c]).filter (·.slot.name = f.name) =
      kept.filter (·.slot.name = f.name) := by
    simp [other.symm]
  constructor
  · rw [same]
    exact collects.typed
  · rw [same]
    exact collects.valued

theorem Field.Collects.push {f : Field} (collects : f.Collects kept) {c : Captured}
    (named : f.name = c.slot.name) :
    Field.Collects { f with value := f.value.push c.value } (kept ++ [c]) := by
  have more : (kept ++ [c]).filter (·.slot.name = f.name) =
      kept.filter (·.slot.name = f.name) ++ [c] := by
    simp [named]
  constructor
  · obtain ⟨first, found, same⟩ := Option.map_eq_some_iff.mp collects.typed
    simp only [more, List.head?_append, found, Option.some_or, Option.map_some, same]
  · simp only [more, List.map_append, List.map_singleton]
    exact collects.valued.push c.value

theorem collects_once {c : Captured} (fresh : c.slot.name ∉ kept.map (·.slot.name)) :
    (Field.once c.slot c.value).Collects (kept ++ [c]) := by
  have earlier : ∀ x ∈ kept, ¬ x.slot.name = c.slot.name := by
    intro x member same
    apply fresh
    rw [← same]
    exact List.mem_map_of_mem member
  have only : (kept ++ [c]).filter (·.slot.name = c.slot.name) = [c] := by
    simpa using earlier
  constructor
  · change ((kept ++ [c]).filter (·.slot.name = c.slot.name)).head?.map (·.slot.inputType) = _
    rw [only]
    rfl
  · change FieldValue.Gathers _ (((kept ++ [c]).filter (·.slot.name = c.slot.name)).map (·.value))
    rw [only]
    exact .once c.value

theorem collects_foldl (kept : List Captured) :
    ∀ f ∈ kept.foldl (fun fields c => addCapture c fields) [], f.Collects kept := by
  induction kept using List.reverseRecOn with
  | nil => simp
  | append_singleton kept c ih =>
      intro f member
      rw [List.foldl_append, List.foldl_cons, List.foldl_nil] at member
      have step := addCapture_cases (nodup_names_foldl kept) member
      rcases step with ⟨old, other⟩ | ⟨g, old, named, rfl⟩ | ⟨fresh, rfl⟩
      · exact (ih f old).skip other
      · exact (ih g old).push named
      · rw [names_foldl, List.mem_eraseDups] at fresh
        exact collects_once fresh

end Collecting

section Values

theorem FieldValue.Gathers.values_eq {held : FieldValue} {values : List Text}
    (gathers : held.Gathers values) : held.values = values := by
  cases gathers <;> rfl

def valuesNamed (name : Option Text) (fields : List Field) : List Text :=
  match fields.find? (·.name = name) with
  | some f => f.value.values
  | none => []

/-- A field holds exactly the values captured under its name. -/
theorem valuesNamed_ofCaptured (name : Option Text) (c : Combination) (captured : List Captured) :
    valuesNamed name (MatchResult.ofCaptured c captured).fields =
      ((captured.filter (·.slot.isCaptured)).filter (·.slot.name = name)).map (·.value) := by
  let kept := captured.filter (·.slot.isCaptured)
  let fields := kept.foldl (fun fields c => addCapture c fields) []
  change valuesNamed name fields = (kept.filter (·.slot.name = name)).map (·.value)
  rw [valuesNamed]
  cases found : fields.find? (·.name = name) with
  | some f =>
      have named : f.name = name := by simpa using List.find?_some found
      have collects := collects_foldl kept f (List.mem_of_find?_eq_some found)
      rw [← named]
      exact collects.valued.values_eq
  | none =>
      have unknown : name ∉ kept.map (·.slot.name) := by
        rw [← List.mem_eraseDups, ← names_foldl]
        intro known
        obtain ⟨f, member, named⟩ := List.mem_map.mp known
        exact List.find?_eq_none.mp found f member (decide_eq_true named)
      have nothing : kept.filter (·.slot.name = name) = [] := by
        apply List.filter_eq_nil_iff.mpr
        intro x member named
        apply unknown
        rw [← of_decide_eq_true named]
        exact List.mem_map_of_mem member
      rw [nothing]
      rfl

end Values

section Distinct

theorem addCapture_of_new {c : Captured} {fields : List Field}
    (fresh : ∀ f ∈ fields, f.name ≠ c.slot.name) :
    addCapture c fields = fields ++ [.once c.slot c.value] := by
  induction fields with
  | nil => rfl
  | cons f fields ih =>
      have rest := ih fun g member => fresh g (List.mem_cons_of_mem f member)
      rw [addCapture, if_neg (fresh f List.mem_cons_self), rest, List.cons_append]

theorem foldl_addCapture_of_nodup {kept : List Captured} {fields : List Field}
    (distinct : (fields.map (·.name) ++ kept.map (·.slot.name)).Nodup) :
    kept.foldl (fun fields c => addCapture c fields) fields =
      fields ++ kept.map fun c => .once c.slot c.value := by
  induction kept generalizing fields with
  | nil => simp
  | cons c kept ih =>
      have fresh : ∀ f ∈ fields, f.name ≠ c.slot.name := by
        intro f member
        exact (List.nodup_append.mp distinct).2.2 _ (List.mem_map_of_mem member) _
          List.mem_cons_self
      rw [List.foldl_cons, addCapture_of_new fresh, ih (by simpa [Field.once] using distinct)]
      simp

theorem fields_ofCaptured_of_nodup (c : Combination) {captured : List Captured}
    (kept : ∀ x ∈ captured, x.slot.isCaptured = true)
    (distinct : (captured.map (·.slot.name)).Nodup) :
    (MatchResult.ofCaptured c captured).fields = captured.map fun x => .once x.slot x.value := by
  rw [MatchResult.ofCaptured, List.filter_eq_self.mpr kept]
  exact foldl_addCapture_of_nodup (by simpa using distinct)

end Distinct

end NoteTemplate
