import NoteTemplate.Proofs.Matching.Faults
import NoteTemplate.Proofs.Rules.Cache
import NoteTemplate.Proofs.Template.NormalForm
import NoteTemplate.Rules.Set

namespace NoteTemplate

namespace Registry

structure Holds (r : Registry) (customTypes : List Text) : Prop where
  builtin : ∀ t ∈ InputType.builtins, r.contains t = true
  custom : ∀ name ∈ customTypes, r.contains (.custom name) = true

section Holds

variable {r : Registry} {customTypes : List Text} {v : Variable}

theorem Holds.contains (holds : r.Holds customTypes) (normal : v.Normal customTypes) :
    r.contains v.inputType = true := by
  cases inputType : v.inputType with
  | custom name =>
      obtain ⟨_, member, _⟩ := normal.custom name inputType
      exact holds.custom name member
  | _ => exact holds.builtin _ (by decide)

theorem Holds.faultOf?_eq_none (holds : r.Holds customTypes) (normal : v.Normal customTypes) :
    r.faultOf? v = none := by
  apply faultOf?_eq_none_iff.mpr
  intro e fault
  cases fault with
  | unregistered missing =>
      obtain ⟨m, found⟩ := contains_iff.mp (holds.contains normal)
      rw [missing] at found
      cases found
  | unnested _ nested absent =>
      have present := normal.nested.mpr nested
      rw [absent] at present
      cases present

theorem Holds.validate_eq_ok (holds : r.Holds customTypes) {t : Text} {p : Pattern}
    (compiled : compile t customTypes = .ok p) : r.validate p = .ok () := by
  have normal := (derives_of_compile compiled).normal
  exact validate_eq_ok_iff.mpr fun v member => holds.faultOf?_eq_none (normal v member)

end Holds

section Types

variable {r r' : Registry}

def typeFault? (type : Text × Text) : Option MatchError :=
  match Regex.ofText type.2 with
  | .error fault => some (.invalidRegex type.1 fault.message)
  | .ok _ => none

theorem typeFault?_eq_none_iff {type : Text × Text} :
    typeFault? type = none ↔ ∃ regex, Regex.ofText type.2 = .ok regex := by
  rw [typeFault?]
  cases Regex.ofText type.2 <;> simp

theorem findSome?_typeFault?_eq_none_iff {types : List (Text × Text)} :
    types.findSome? typeFault? = none ↔
      ∀ type ∈ types, ∃ regex, Regex.ofText type.2 = .ok regex := by
  simp only [List.findSome?_eq_none_iff, typeFault?_eq_none_iff]

theorem findSome?_typeFault?_ne_none_iff {types : List (Text × Text)} :
    types.findSome? typeFault? ≠ none ↔
      ∃ type ∈ types, ∃ fault, Regex.ofText type.2 = .error fault := by
  rw [ne_eq, findSome?_typeFault?_eq_none_iff]
  constructor
  · intro invalid
    by_contra readable
    apply invalid
    intro type member
    cases read : Regex.ofText type.2 with
    | ok regex => exact ⟨regex, rfl⟩
    | error fault => exact absurd ⟨type, member, fault, read⟩ readable
  · rintro ⟨type, member, fault, failed⟩ valid
    obtain ⟨regex, read⟩ := valid type member
    rw [failed] at read
    cases read

structure Extends (r r' : Registry) (types : List (Text × Text)) : Prop where
  served : r.BoundaryServed → r'.BoundaryServed
  kept : ∀ t, r.contains t = true → r'.contains t = true
  added : ∀ type ∈ types, r'.contains (.custom type.1) = true

theorem extends_nil (r : Registry) : r.Extends r [] :=
  ⟨id, fun _ => id, List.forall_mem_nil _⟩

theorem extends_cons {name regex : Text} {accepts : Text → Bool} {types : List (Text × Text)}
    (rest : (r.register (.custom name) (.boundary accepts)).Extends r' types) :
    r.Extends r' ((name, regex) :: types) := by
  have kept (t : InputType) (held : r.contains t = true ∨ t = .custom name) :
      r'.contains t = true := by
    apply rest.kept
    rw [contains, find?_register]
    split
    · rfl
    · rename_i other
      exact held.resolve_right fun same => other same.symm
  refine ⟨fun served => rest.served (boundaryServed_register served (by simp) accepts), ?_, ?_⟩
  · intro t held
    exact kept t (.inl held)
  · intro type member
    rcases List.mem_cons.mp member with rfl | member
    · exact kept _ (.inr rfl)
    · exact rest.added type member

theorem registerTypes_spec (r : Registry) (types : List (Text × Text)) :
    match types.findSome? typeFault? with
    | some e => r.registerTypes types = .error e
    | none => ∃ r', r.registerTypes types = .ok r' ∧ r.Extends r' types := by
  induction types generalizing r with
  | nil => exact ⟨r, rfl, extends_nil r⟩
  | cons type types ih =>
      obtain ⟨name, text⟩ := type
      rw [List.findSome?_cons]
      cases read : Regex.ofText text with
      | error fault => simp only [typeFault?, registerTypes, regexMatcher, read]
      | ok regex =>
          simp only [typeFault?, registerTypes, regexMatcher, read]
          have rest := ih (r.register (.custom name) (.boundary regex.isMatch))
          cases fault : types.findSome? typeFault? with
          | some e =>
              rw [fault] at rest
              exact rest
          | none =>
              rw [fault] at rest
              obtain ⟨r', registered, extended⟩ := rest
              exact ⟨r', registered, extends_cons extended⟩

theorem holds_of_extends {types : List (Text × Text)} (extended : builtin.Extends r types) :
    r.Holds (types.map Prod.fst) where
  builtin t member := by
    apply extended.kept
    have all : InputType.builtins.all builtin.contains = true := by decide
    exact List.all_eq_true.mp all t member
  custom name member := by
    obtain ⟨type, inside, rfl⟩ := List.mem_map.mp member
    exact extended.added type inside

end Types

end Registry

def Rule.fault? (customTypes : List Text) (rule : Rule) : Option RuleError :=
  match compile rule.template customTypes with
  | .error errors => some (.compile rule.name rule.template errors)
  | .ok _ => none

section Rules

variable {customTypes : List Text} {rule : Rule} {rules : List Rule}

theorem Rule.fault?_eq_none_iff :
    rule.fault? customTypes = none ↔ ∃ p, compile rule.template customTypes = .ok p := by
  rw [fault?]
  cases compile rule.template customTypes <;> simp

theorem Rule.fault?_eq_some_iff {e : RuleError} :
    rule.fault? customTypes = some e ↔
      ∃ errors, compile rule.template customTypes = .error errors ∧
        e = .compile rule.name rule.template errors := by
  rw [fault?]
  cases compile rule.template customTypes <;> simp [eq_comm]

theorem exists_of_findSome?_fault? {e : RuleError}
    (found : rules.findSome? (Rule.fault? customTypes) = some e) :
    ∃ name template errors, e = .compile name template errors := by
  obtain ⟨rule, _, fault⟩ := List.exists_of_findSome?_eq_some found
  obtain ⟨errors, _, rfl⟩ := Rule.fault?_eq_some_iff.mp fault
  exact ⟨_, _, _, rfl⟩

theorem findSome?_fault?_eq_none_iff :
    rules.findSome? (Rule.fault? customTypes) = none ↔
      ∀ rule ∈ rules, ∃ p, compile rule.template customTypes = .ok p := by
  simp only [List.findSome?_eq_none_iff, Rule.fault?_eq_none_iff]

theorem findSome?_fault?_eq_some_iff {name template : Text} {errors : List CompileError} :
    rules.findSome? (Rule.fault? customTypes) = some (.compile name template errors) ↔
      ∃ front back, rules = front ++ ⟨name, template⟩ :: back ∧
        (∀ earlier ∈ front, ∃ p, compile earlier.template customTypes = .ok p) ∧
        compile template customTypes = .error errors := by
  simp only [List.findSome?_eq_some_iff, Rule.fault?_eq_some_iff, Rule.fault?_eq_none_iff]
  constructor
  · rintro ⟨front, ⟨name', template'⟩, back, split, ⟨errors', failed, same⟩, earlier⟩
    cases same
    exact ⟨front, back, split, earlier, failed⟩
  · rintro ⟨front, back, split, earlier, failed⟩
    exact ⟨front, _, back, split, ⟨errors, failed, rfl⟩, earlier⟩

end Rules

namespace RuleSet

theorem prepare_spec {registry : Registry} {cache : PatternCache} {customTypes : List Text}
    (faithful : cache.Faithful) (types : cache.customTypes = customTypes)
    (holds : registry.Holds customTypes) (rules : List Rule) :
    match rules.findSome? (Rule.fault? customTypes) with
    | some e => prepare registry cache rules = .error e
    | none => ∃ after, prepare registry cache rules = .ok after ∧ after.Faithful ∧
        after.customTypes = customTypes := by
  induction rules generalizing cache with
  | nil => exact ⟨cache, rfl, faithful, types⟩
  | cons rule rules ih =>
      obtain ⟨next, answered, faithful', types'⟩ := faithful.getOrCompile_eq rule.template
      rw [types] at answered types'
      rw [List.findSome?_cons, prepare, answered, compileAnew, Rule.fault?]
      cases compiled : compile rule.template customTypes with
      | error errors => rfl
      | ok p =>
          simp only [Except.map, holds.validate_eq_ok compiled]
          exact ih faithful' types'

/-- A set whose templates all compile with some custom types, with a registry and a cache for these
types. -/
structure Loaded (set : RuleSet) (customTypes : List Text) : Prop where
  faithful : set.cache.Faithful
  types : set.cache.customTypes = customTypes
  holds : set.registry.Holds customTypes
  served : set.registry.BoundaryServed
  compiles : ∀ rule ∈ set.rules, ∃ p, compile rule.template customTypes = .ok p

theorem ofFile_spec (file : RulesFile) :
    match file.types.findSome? Registry.typeFault? with
    | some source => ofFile file = .error (.registry source)
    | none => match file.rules.findSome? (Rule.fault? file.customTypes) with
      | some e => ofFile file = .error e
      | none => ∃ registry cache, file.registry = .ok registry ∧
          ofFile file = .ok ⟨file.rules, registry, cache⟩ ∧
          Loaded ⟨file.rules, registry, cache⟩ file.customTypes := by
  have registered := Registry.builtin.registerTypes_spec file.types
  rw [ofFile, RulesFile.registry]
  cases invalid : file.types.findSome? Registry.typeFault? with
  | some source =>
      rw [invalid] at registered
      simp only [registered]
  | none =>
      rw [invalid] at registered
      obtain ⟨registry, registered, extended⟩ := registered
      have holds : registry.Holds file.customTypes := Registry.holds_of_extends extended
      have faithful := PatternCache.faithful_empty file.customTypes
      have prepared := prepare_spec faithful (PatternCache.customTypes_empty _) holds file.rules
      simp only [registered]
      cases fault : file.rules.findSome? (Rule.fault? file.customTypes) with
      | some e =>
          rw [fault] at prepared
          simp only [prepared]
      | none =>
          rw [fault] at prepared
          obtain ⟨cache, prepared, faithful, types⟩ := prepared
          have compiles := findSome?_fault?_eq_none_iff.mp fault
          have served := extended.served Registry.boundaryServed_builtin
          refine ⟨registry, cache, rfl, ?_, faithful, types, holds, served, compiles⟩
          simp only [prepared]

/-- What compiles with some custom types is served by every registry that holds them. So a file is
turned down for an expression that cannot be read, else for the first template that does not
compile, and never because the registry does not serve a rule. -/
theorem served_of_compile_and_ofFile :
    (∀ t customTypes p (r : Registry), compile t customTypes = .ok p → r.Holds customTypes →
      r.validate p = .ok ()) ∧
    ∀ file : RulesFile,
      ((∃ source, ofFile file = .error (.registry source)) ↔
        ∃ type ∈ file.types, ∃ fault, Regex.ofText type.2 = .error fault) ∧
      (∀ name template errors, ofFile file = .error (.compile name template errors) ↔
        (∀ type ∈ file.types, ∃ regex, Regex.ofText type.2 = .ok regex) ∧
        ∃ front back, file.rules = front ++ ⟨name, template⟩ :: back ∧
          (∀ earlier ∈ front, ∃ p, compile earlier.template file.customTypes = .ok p) ∧
          compile template file.customTypes = .error errors) ∧
      ((∃ set, ofFile file = .ok set) ↔
        (∀ type ∈ file.types, ∃ regex, Regex.ofText type.2 = .ok regex) ∧
        ∀ rule ∈ file.rules, ∃ p, compile rule.template file.customTypes = .ok p) ∧
      ∀ name source, ofFile file ≠ .error (.matching name source) := by
  refine ⟨fun t customTypes p r compiled holds => holds.validate_eq_ok compiled, fun file => ?_⟩
  have loading := ofFile_spec file
  rw [← Registry.findSome?_typeFault?_ne_none_iff, ← Registry.findSome?_typeFault?_eq_none_iff,
    ← findSome?_fault?_eq_none_iff]
  simp only [← findSome?_fault?_eq_some_iff]
  cases invalid : file.types.findSome? Registry.typeFault? with
  | some source =>
      rw [invalid] at loading
      simp [loading]
  | none =>
      rw [invalid] at loading
      cases fault : file.rules.findSome? (Rule.fault? file.customTypes) with
      | some e =>
          obtain ⟨name, template, errors, rfl⟩ := exists_of_findSome?_fault? fault
          simp only [fault] at loading
          simp [loading]
      | none =>
          simp only [fault] at loading
          obtain ⟨registry, cache, _, loaded, _⟩ := loading
          simp [loaded]

theorem served_of_compile_and_ofFile_date :
    let r := Registry.builtin.register (.custom "date".toList) (.boundary Value.isWord)
    let noon : Pattern := [.variable (.plain (some "day".toList) (.custom "date".toList)),
      .text " noon".toList]
    let p : Pattern := [.variable (.nested (some "due".toList) noon)]
    compile "\x7bdue:\x7bday:date\x7d noon\x7d".toList ["date".toList] = .ok p ∧
      r.Holds ["date".toList] ∧ r.validate p = .ok () := by
  intro r noon p
  have day : Derives ["date".toList]
      (.variable (.plain (some "day".toList) (.custom "date".toList))) "day:date".toList :=
    .custom (names_render "day".toList) (by decide) (by decide)
      (balanced_literal "date".toList).unbar (by decide) (by decide)
  have hour : Derives ["date".toList] (.pattern false [.text " noon".toList]) " noon".toList :=
    .literal (spells_literal " noon".toList) (by decide)
  have due : Derives ["date".toList] (.variable (.nested (some "due".toList) noon))
      "due:\x7bday:date\x7d noon".toList :=
    .nested (names_render "due".toList) (by decide) (by decide) (by decide) (by decide)
      (.scope (.slot day) hour)
  have holds : r.Holds ["date".toList] := by
    constructor
    · have all : InputType.builtins.all r.contains = true := by decide
      exact List.all_eq_true.mp all
    · have all : ["date".toList].all (fun name => r.contains (.custom name)) = true := by decide
      exact List.all_eq_true.mp all
  have compiled := due.compile_slot
  exact ⟨compiled, holds, served_of_compile_and_ofFile.1 _ _ _ _ compiled holds⟩

end RuleSet

end NoteTemplate
