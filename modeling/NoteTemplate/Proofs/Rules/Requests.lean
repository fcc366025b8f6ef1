import Mathlib
import NoteTemplate.Proofs.Rules.Cache

/-!
Requests to the cache of compiled templates, one after the other. The cache is a record of what was
asked: it has an entry for each template that compiles, once, and the answers do not depend on it.
-/
namespace NoteTemplate.PatternCache

def answers : PatternCache → List Text → List (Except (List CompileError) CachedPattern)
  | _, [] => []
  | cache, template :: templates =>
    (cache.getOrCompile template).1 :: answers (cache.getOrCompile template).2 templates

def after : PatternCache → List Text → PatternCache
  | cache, [] => cache
  | cache, template :: templates => after (cache.getOrCompile template).2 templates

def keys (cache : PatternCache) : List Text := cache.entries.map Prod.fst

/-- The cache has exactly one entry for each template that was asked for and compiles, with what
compiling it gives. -/
structure Records (cache : PatternCache) (customTypes asked : List Text) : Prop where
  types : cache.customTypes = customTypes
  distinct : cache.keys.Nodup
  mem_entries_iff : ∀ template cached, (template, cached) ∈ cache.entries ↔
    template ∈ asked ∧ compileAnew customTypes template = .ok cached

variable {cache : PatternCache} {customTypes asked : List Text} {template : Text}

theorem records_empty (customTypes : List Text) : (empty customTypes).Records customTypes [] where
  types := rfl
  distinct := List.nodup_nil
  mem_entries_iff _ _ := by simp [empty]

theorem mem_entries_of_find? {cached : CachedPattern}
    (found : cache.find? template = some cached) : (template, cached) ∈ cache.entries := by
  obtain ⟨front, back, split, _⟩ := List.lookup_eq_some_iff.mp found
  rw [split]
  simp

theorem notMem_keys_of_find? (missing : cache.find? template = none) : template ∉ cache.keys := by
  intro member
  obtain ⟨entry, inside, same⟩ := List.mem_map.mp member
  have differs := List.lookup_eq_none_iff.mp missing entry inside
  simp [same] at differs

namespace Records

theorem faithful (records : cache.Records customTypes asked) : cache.Faithful := by
  intro template cached found
  rw [records.types]
  exact ((records.mem_entries_iff template cached).mp (mem_entries_of_find? found)).2

theorem answer_eq (records : cache.Records customTypes asked) (template : Text) :
    (cache.getOrCompile template).1 = compileAnew customTypes template := by
  obtain ⟨next, answered, _⟩ := records.faithful.getOrCompile_eq template
  rw [answered, records.types]

theorem hit (records : cache.Records customTypes asked) {cached : CachedPattern}
    (found : cache.find? template = some cached) :
    cache.Records customTypes (asked ++ [template]) where
  types := records.types
  distinct := records.distinct
  mem_entries_iff other cached' := by
    have known := (records.mem_entries_iff template cached).mp (mem_entries_of_find? found)
    rw [records.mem_entries_iff, List.mem_append, List.mem_singleton]
    apply and_congr_left'
    constructor
    · exact .inl
    · intro asks
      rcases asks with old | rfl
      · exact old
      · exact known.1

theorem failure (records : cache.Records customTypes asked) {errors : List CompileError}
    (failed : compileAnew customTypes template = .error errors) :
    cache.Records customTypes (asked ++ [template]) where
  types := records.types
  distinct := records.distinct
  mem_entries_iff other cached := by
    rw [records.mem_entries_iff, List.mem_append, List.mem_singleton]
    apply and_congr_left
    intro compiled
    constructor
    · exact .inl
    · intro asks
      rcases asks with old | rfl
      · exact old
      · rw [failed] at compiled
        cases compiled

theorem insert (records : cache.Records customTypes asked) {cached : CachedPattern}
    (missing : cache.find? template = none)
    (compiled : compileAnew customTypes template = .ok cached) :
    (cache.insert template cached).Records customTypes (asked ++ [template]) where
  types := records.types
  distinct := List.nodup_cons.mpr ⟨notMem_keys_of_find? missing, records.distinct⟩
  mem_entries_iff other cached' := by
    have new : (other, cached') = (template, cached) ↔
        other = template ∧ compileAnew customTypes other = .ok cached' := by
      rw [Prod.mk.injEq]
      apply and_congr_right
      intro same
      rw [same, compiled, Except.ok.injEq]
      exact eq_comm
    rw [PatternCache.insert, List.mem_cons, new, records.mem_entries_iff, List.mem_append,
      List.mem_singleton, or_and_right]
    exact or_comm

theorem getOrCompile_of_error (records : cache.Records customTypes asked)
    {errors : List CompileError} (failed : compileAnew customTypes template = .error errors) :
    (cache.getOrCompile template).2 = cache := by
  cases found : cache.find? template with
  | some cached => rw [getOrCompile_hit found]
  | none => rw [getOrCompile_miss found, records.types, failed]

theorem getOrCompile (records : cache.Records customTypes asked) (template : Text) :
    (cache.getOrCompile template).2.Records customTypes (asked ++ [template]) := by
  cases found : cache.find? template with
  | some cached =>
      rw [getOrCompile_hit found]
      exact records.hit found
  | none =>
      rw [getOrCompile_miss found, records.types]
      cases compiled : compileAnew customTypes template with
      | error errors => exact records.failure compiled
      | ok cached => exact records.insert found compiled

theorem after (records : cache.Records customTypes asked) (templates : List Text) :
    (cache.after templates).Records customTypes (asked ++ templates) := by
  induction templates generalizing cache asked with
  | nil =>
      rw [List.append_nil]
      exact records
  | cons template templates ih =>
      rw [List.append_cons]
      exact ih (records.getOrCompile template)

theorem answers_eq (records : cache.Records customTypes asked) (templates : List Text) :
    cache.answers templates = templates.map (compileAnew customTypes) := by
  induction templates generalizing cache asked with
  | nil => rfl
  | cons template templates ih =>
      rw [answers, List.map_cons, records.answer_eq, ih (records.getOrCompile template)]

theorem mem_keys_iff (records : cache.Records customTypes asked) (template : Text) :
    template ∈ cache.keys ↔ template ∈ asked ∧ ∃ p, compile template customTypes = .ok p := by
  have compiles : (∃ cached, compileAnew customTypes template = .ok cached) ↔
      ∃ p, compile template customTypes = .ok p := by
    rw [compileAnew]
    cases compile template customTypes <;> simp [Except.map]
  rw [keys, List.mem_map, ← compiles, ← exists_and_left]
  constructor
  · intro member
    obtain ⟨⟨key, cached⟩, inside, rfl⟩ := member
    exact ⟨cached, (records.mem_entries_iff key cached).mp inside⟩
  · intro known
    obtain ⟨cached, known⟩ := known
    exact ⟨(template, cached), (records.mem_entries_iff template cached).mpr known, rfl⟩

end Records

/-- Whatever was asked before, a new cache answers every request as by compiling the template and
listing its readings then and there. A request that fails changes nothing, and the templates with an
entry are those asked for that compile, each with one entry. -/
theorem answers_empty (customTypes templates : List Text) :
    let cache := (empty customTypes).after templates
    (empty customTypes).answers templates = templates.map (compileAnew customTypes) ∧
    (∀ template errors, (cache.getOrCompile template).1 = .error errors →
      (cache.getOrCompile template).2 = cache) ∧
    cache.keys.Nodup ∧
    (∀ template, template ∈ cache.keys ↔
      template ∈ templates ∧ ∃ p, compile template customTypes = .ok p) ∧
    ∀ template cached, (template, cached) ∈ cache.entries →
      compileAnew customTypes template = .ok cached := by
  intro cache
  have records : cache.Records customTypes templates := (records_empty customTypes).after templates
  refine ⟨(records_empty customTypes).answers_eq templates, ?_, records.distinct,
    records.mem_keys_iff, ?_⟩
  · intro template errors failed
    rw [records.answer_eq] at failed
    exact records.getOrCompile_of_error failed
  · intro template cached inside
    exact ((records.mem_entries_iff template cached).mp inside).2

theorem answers_empty_bracket :
    let templates := ["a".toList, "[".toList, "a".toList]
    let cache := (empty []).after templates
    let unclosed : CompileError := ⟨.unclosed .square, ⟨0, 1⟩⟩
    (empty []).answers templates = templates.map (compileAnew []) ∧
      (cache.getOrCompile "[".toList).1 = .error [unclosed] ∧
      (cache.getOrCompile "[".toList).2 = cache ∧ cache.keys = ["a".toList] := by
  intro templates cache unclosed
  have failed : (((empty []).after ["a".toList, "[".toList, "a".toList]).getOrCompile
      "[".toList).1 = .error [⟨.unclosed .square, ⟨0, 1⟩⟩] := by cbv
  have keys : ((empty []).after ["a".toList, "[".toList, "a".toList]).keys = ["a".toList] := by cbv
  obtain ⟨answered, unchanged, _⟩ := answers_empty [] templates
  exact ⟨answered, failed, unchanged _ _ failed, keys⟩

end NoteTemplate.PatternCache
