import NoteTemplate.Rules.Cache

namespace NoteTemplate

def compileAnew (customTypes : List Text) (template : Text) :
    Except (List CompileError) CachedPattern :=
  (compile template customTypes).map fun p => ⟨p, expand p⟩

namespace PatternCache

/-- Every entry is what its template gives anew. -/
def Faithful (cache : PatternCache) : Prop :=
  ∀ template cached, cache.find? template = some cached →
    compileAnew cache.customTypes template = .ok cached

theorem customTypes_empty (customTypes : List Text) :
    (empty customTypes).customTypes = customTypes := rfl

theorem faithful_empty (customTypes : List Text) : (empty customTypes).Faithful := by
  intro template cached found
  cases found

def insert (cache : PatternCache) (template : Text) (cached : CachedPattern) : PatternCache :=
  { cache with entries := (template, cached) :: cache.entries }

variable {cache : PatternCache}

theorem getOrCompile_hit {template : Text} {cached : CachedPattern}
    (found : cache.find? template = some cached) :
    cache.getOrCompile template = (.ok cached, cache) := by
  simp only [getOrCompile, found]

theorem getOrCompile_miss {template : Text} (missing : cache.find? template = none) :
    cache.getOrCompile template =
      match compileAnew cache.customTypes template with
      | .error errors => (.error errors, cache)
      | .ok cached => (.ok cached, cache.insert template cached) := by
  simp only [getOrCompile, missing, compileAnew]
  cases compile template cache.customTypes <;> rfl

theorem find?_insert (cache : PatternCache) (template other : Text) (cached : CachedPattern) :
    (cache.insert template cached).find? other =
      if other = template then some cached else cache.find? other := by
  by_cases same : other = template
  · simp [find?, insert, same]
  · have differs : (other == template) = false := beq_false_of_ne same
    simp [find?, insert, List.lookup_cons, same, differs]

/-- A request is answered as by compiling anew, and the cache stays faithful. -/
theorem Faithful.getOrCompile_eq (faithful : cache.Faithful) (template : Text) :
    ∃ after, cache.getOrCompile template = (compileAnew cache.customTypes template, after) ∧
      after.Faithful ∧ after.customTypes = cache.customTypes := by
  cases found : cache.find? template with
  | some cached =>
      rw [getOrCompile_hit found, faithful template cached found]
      exact ⟨cache, rfl, faithful, rfl⟩
  | none =>
      rw [getOrCompile_miss found]
      cases compiled : compileAnew cache.customTypes template with
      | error errors => exact ⟨cache, rfl, faithful, rfl⟩
      | ok cached =>
          refine ⟨_, rfl, fun other cached' found' => ?_, rfl⟩
          rw [find?_insert] at found'
          split at found'
          · rename_i same
            cases found'
            rw [same]
            exact compiled
          · exact faithful other cached' found'

end PatternCache

end NoteTemplate
