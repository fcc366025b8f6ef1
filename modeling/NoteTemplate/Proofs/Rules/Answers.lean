import NoteTemplate.Proofs.Rules.Loading

/-!
The answers of a rule set to inputs that come one after the other. A loaded set keeps its cache
faithful while it answers; each answer is the one that compiling, checking and matching the rules
anew gives, whatever was asked before.
-/
namespace NoteTemplate

/-- What a rule makes of an input by itself: its template is compiled anew, checked and matched. -/
def Rule.result? (customTypes : List Text) (registry : Registry) (input : Text) (rule : Rule) :
    Option MatchResult :=
  match compile rule.template customTypes with
  | .error _ => none
  | .ok p =>
    match matchPattern input p registry with
    | .error _ => none
    | .ok result => result

def answerAnew (customTypes : List Text) (registry : Registry) (input : Text)
    (rules : List Rule) : Option (Text × MatchResult) :=
  rules.findSome? fun rule =>
    (rule.result? customTypes registry input).map fun result => (rule.name, result)

namespace RuleSet

def answers : RuleSet → List Text → List (Except RuleError (Option (Text × MatchResult)))
  | _, [] => []
  | set, input :: inputs =>
    (set.matchInput input).1 :: answers (set.matchInput input).2 inputs

variable {customTypes : List Text} {registry : Registry} {cache : PatternCache}

theorem result?_eq {rule : Rule} {p : Pattern}
    (compiled : compile rule.template customTypes = .ok p) (valid : registry.validate p = .ok ())
    {input : Text} {o : Option MatchResult}
    (matched : matchCombinations input (expand p) registry = .ok o) :
    rule.result? customTypes registry input = o := by
  simp only [Rule.result?, compiled, matchPattern, valid, matched]

theorem firstMatch_eq (faithful : cache.Faithful) (types : cache.customTypes = customTypes)
    (holds : registry.Holds customTypes) (served : registry.BoundaryServed) (input : Text)
    {rules : List Rule}
    (compiles : ∀ rule ∈ rules, ∃ p, compile rule.template customTypes = .ok p) :
    ∃ after, firstMatch registry input cache rules =
        (.ok (answerAnew customTypes registry input rules), after) ∧
      after.Faithful ∧ after.customTypes = customTypes := by
  induction rules generalizing cache with
  | nil => exact ⟨cache, rfl, faithful, types⟩
  | cons rule rules ih =>
      obtain ⟨p, compiled⟩ := compiles rule List.mem_cons_self
      have rest := fun other member => compiles other (List.mem_cons_of_mem rule member)
      obtain ⟨next, answered, faithful', types'⟩ := faithful.getOrCompile_eq rule.template
      rw [types] at answered types'
      have valid := holds.validate_eq_ok compiled
      obtain ⟨o, matched⟩ := matchCombinations_ok served valid input
      have alone := result?_eq compiled valid matched
      rw [firstMatch, answered, compileAnew, compiled]
      simp only [Except.map, matched, answerAnew, List.findSome?_cons, alone]
      cases o with
      | some result => exact ⟨next, rfl, faithful', types'⟩
      | none => exact ih faithful' types' rest

theorem Loaded.matchInput_eq {set : RuleSet} (loaded : set.Loaded customTypes) (input : Text) :
    ∃ cache, set.matchInput input =
        (.ok (answerAnew customTypes set.registry input set.rules), { set with cache := cache }) ∧
      Loaded { set with cache := cache } customTypes := by
  obtain ⟨cache, answered, faithful, types⟩ := firstMatch_eq loaded.faithful loaded.types
    loaded.holds loaded.served input loaded.compiles
  refine ⟨cache, ?_, faithful, types, loaded.holds, loaded.served, loaded.compiles⟩
  rw [matchInput, answered]

theorem Loaded.answers_eq {set : RuleSet} (loaded : set.Loaded customTypes) (inputs : List Text) :
    set.answers inputs = inputs.map fun input =>
      .ok (answerAnew customTypes set.registry input set.rules) := by
  induction inputs generalizing set with
  | nil => rfl
  | cons input inputs ih =>
      obtain ⟨cache, answered, loaded'⟩ := loaded.matchInput_eq input
      rw [answers, answered, ih loaded', List.map_cons]

theorem exists_loaded {file : RulesFile} {set : RuleSet} (made : ofFile file = .ok set) :
    file.registry = .ok set.registry ∧ set.rules = file.rules ∧ set.Loaded file.customTypes := by
  have loading := ofFile_spec file
  rw [made] at loading
  cases invalid : file.types.findSome? Registry.typeFault? with
  | some source =>
      rw [invalid] at loading
      cases loading
  | none =>
      rw [invalid] at loading
      cases fault : file.rules.findSome? (Rule.fault? file.customTypes) with
      | some e =>
          simp only [fault] at loading
          cases loading
      | none =>
          simp only [fault] at loading
          obtain ⟨registry, cache, registered, same, loaded⟩ := loading
          cases same
          exact ⟨registered, rfl, loaded⟩

/-- A set made from a file answers every input, in whatever order inputs come, with the first rule
of the file that matches it by itself. No rule fails by itself either: its template compiles and is
matched without an error. -/
theorem answers_eq_answerAnew {file : RulesFile} {set : RuleSet} (made : ofFile file = .ok set) :
    ∃ registry, file.registry = .ok registry ∧
      (∀ rule ∈ file.rules, ∃ p, compile rule.template file.customTypes = .ok p ∧
        ∀ input, ∃ result, matchPattern input p registry = .ok result) ∧
      ∀ inputs, set.answers inputs = inputs.map fun input =>
        .ok (answerAnew file.customTypes registry input file.rules) := by
  obtain ⟨registered, rules, loaded⟩ := exists_loaded made
  refine ⟨set.registry, registered, ?_, ?_⟩
  · rw [← rules]
    intro rule member
    obtain ⟨p, compiled⟩ := loaded.compiles rule member
    have valid := loaded.holds.validate_eq_ok compiled
    refine ⟨p, compiled, fun input => ?_⟩
    obtain ⟨o, matched⟩ := matchCombinations_ok loaded.served valid input
    exact ⟨o, by simp only [matchPattern, valid, matched]⟩
  · rw [← rules]
    exact loaded.answers_eq

theorem answers_eq_answerAnew_tags :
    let file : RulesFile := ⟨[("hash".toList, "^#".toList)],
      [⟨"tag".toList, "\x7bt:hash\x7d".toList⟩, ⟨"again".toList, "\x7bt:hash\x7d".toList⟩,
        ⟨"note".toList, "\x7bn\x7d".toList⟩]⟩
    let inputs := ["#a".toList, "b".toList, "#a".toList]
    ∃ set, ofFile file = .ok set ∧ ∃ registry, file.registry = .ok registry ∧
      set.answers inputs = inputs.map fun input =>
        .ok (answerAnew file.customTypes registry input file.rules) := by
  intro file inputs
  have tag : Derives file.customTypes (.variable (.plain (some "t".toList) (.custom "hash".toList)))
      "t:hash".toList :=
    .custom (names_render "t".toList) (by decide) (by decide) (balanced_literal "hash".toList).unbar
      (by decide) (by decide)
  have note : Derives file.customTypes (.variable (.plain (some "n".toList) .text)) "n".toList :=
    .untyped (names_render "n".toList) (by decide)
  have readable : file.types.findSome? Registry.typeFault? = none := by cbv
  have compiles : file.rules.findSome? (Rule.fault? file.customTypes) = none := by
    apply findSome?_fault?_eq_none_iff.mpr
    intro rule member
    simp only [file, List.mem_cons, List.not_mem_nil, or_false] at member
    rcases member with rfl | rfl | rfl
    · exact ⟨_, tag.compile_slot⟩
    · exact ⟨_, tag.compile_slot⟩
    · exact ⟨_, note.compile_slot⟩
  have loading := ofFile_spec file
  simp only [readable, compiles] at loading
  obtain ⟨registry, cache, _, made, _⟩ := loading
  obtain ⟨registry, registered, _, answered⟩ := answers_eq_answerAnew made
  exact ⟨_, made, registry, registered, answered inputs⟩

end RuleSet

end NoteTemplate
