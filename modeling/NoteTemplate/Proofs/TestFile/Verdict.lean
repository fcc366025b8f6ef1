import NoteTemplate.Proofs.Matching.Fields
import NoteTemplate.Proofs.Rules.Answers
import NoteTemplate.TestFile.Check

/-!
What it means that a test passes, said without running it. A test is about its template alone: the
template is compiled and each input is matched against it by itself, whatever was asked before. A
test fails otherwise, and a failure at an input is about the first input that is not answered as
expected.
-/
namespace NoteTemplate

def ExpectedValue.ofField : FieldValue → ExpectedValue
  | .single value => .single value
  | .list values => .list values

theorem ExpectedValue.accepts_iff {expected : ExpectedValue} {actual : FieldValue} :
    expected.accepts actual = true ↔ expected = .ofField actual := by
  cases expected <;> cases actual <;> simp [accepts, ofField]

/-- The named fields of a result are those expected, each with the value expected for it; a list
stands for a list only. -/
def MatchResult.HasFields (result : MatchResult) (expected : List (Text × ExpectedValue)) : Prop :=
  ∀ name value, (name, value) ∈ expected ↔
    ∃ f ∈ result.fields, f.name = some name ∧ value = .ofField f.value

def TestConfig.Expects (config : TestConfig) : Option MatchResult → Prop
  | none => config.expectNoMatch = true
  | some result => config.expectNoMatch = false ∧
      ∀ expected, config.expectFields = some expected → result.HasFields expected

def TestCase.Meets (case : TestCase) (input : Text) : Prop :=
  ∃ p registry answer, compile case.template case.rulesFile.customTypes = .ok p ∧
    case.rulesFile.registry = .ok registry ∧ matchPattern input p registry = .ok answer ∧
    case.config.Expects answer

def TestFailure.input? : TestFailure → Option Text
  | .matched input _ => some input
  | .noMatch input => some input
  | .differentValue input _ _ _ => some input
  | .missingField input _ _ => some input
  | .unexpectedFields input _ => some input
  | _ => none

section Answer

variable {config : TestConfig} {input : Text} {result : MatchResult}
  {expected : List (Text × ExpectedValue)} {failure : TestFailure}

theorem faultyField?_eq_none_iff :
    faultyField? input result expected = none ↔
      ∀ x ∈ expected, ∃ actual, result.value? x.1 = some actual ∧ x.2 = .ofField actual := by
  fun_induction faultyField? input result expected with
  | case1 => simp
  | case2 name expected rest missing => simp [missing]
  | case3 name expected rest actual found accepted ih =>
      rw [ih, List.forall_mem_cons]
      simp [found, ExpectedValue.accepts_iff.mp accepted]
  | case4 name expected rest actual found refused =>
      rw [ExpectedValue.accepts_iff] at refused
      simp [found, refused]

theorem input?_of_faultyField? (faulty : faultyField? input result expected = some failure) :
    failure.input? = some input := by
  fun_induction faultyField? input result expected with
  | case1 => cases faulty
  | case2 => cases faulty; rfl
  | case3 name expected rest actual found accepted ih => exact ih faulty
  | case4 => cases faulty; rfl

theorem checkFields_eq_none_iff_found :
    checkFields input result expected = none ↔
      (∀ x ∈ expected, ∃ actual, result.value? x.1 = some actual ∧ x.2 = .ofField actual) ∧
        ∀ f ∈ result.fields, ∀ name, f.name = some name → name ∈ expected.map Prod.fst := by
  have searched := @faultyField?_eq_none_iff input result expected
  rw [← searched, checkFields]
  cases faultyField? input result expected with
  | some failure => simp
  | none =>
      simp only [ite_eq_left_iff, reduceCtorEq, imp_false, not_not, List.isEmpty_iff,
        List.filter_eq_nil_iff, List.mem_filterMap, true_and]
      constructor
      · intro known f field name named
        simpa using known name ⟨f, field, named⟩
      · rintro known name ⟨f, field, named⟩
        simpa using known f field name named

theorem input?_of_checkFields (failed : checkFields input result expected = some failure) :
    failure.input? = some input := by
  rw [checkFields] at failed
  cases faulty : faultyField? input result expected with
  | some failure' =>
      rw [faulty] at failed
      cases failed
      exact input?_of_faultyField? faulty
  | none =>
      simp only [faulty] at failed
      split at failed
      · cases failed
      · cases failed
        rfl

theorem hasFields_iff_found (distinct : (result.fields.map (·.name)).Nodup) :
    result.HasFields expected ↔
      (∀ x ∈ expected, ∃ actual, result.value? x.1 = some actual ∧ x.2 = .ofField actual) ∧
        ∀ f ∈ result.fields, ∀ name, f.name = some name → name ∈ expected.map Prod.fst := by
  constructor
  · intro has
    constructor
    · rintro ⟨name, value⟩ member
      obtain ⟨f, field, named, rfl⟩ := (has name value).mp member
      exact ⟨f.value, (MatchResult.value?_eq_some_iff distinct).mpr ⟨f, field, named, rfl⟩, rfl⟩
    · intro f field name named
      have member := (has name (.ofField f.value)).mpr ⟨f, field, named, rfl⟩
      exact List.mem_map_of_mem member
  · rintro ⟨found, known⟩ name value
    constructor
    · intro member
      obtain ⟨actual, held, rfl⟩ := found _ member
      obtain ⟨f, field, named, rfl⟩ := (MatchResult.value?_eq_some_iff distinct).mp held
      exact ⟨f, field, named, rfl⟩
    · rintro ⟨f, field, named, rfl⟩
      obtain ⟨⟨name', value⟩, member, rfl⟩ := List.mem_map.mp (known f field name named)
      obtain ⟨actual, held, rfl⟩ := found _ member
      have own := (MatchResult.value?_eq_some_iff distinct).mpr ⟨f, field, named, rfl⟩
      rw [own] at held
      cases held
      exact member

theorem checkFields_eq_none_iff (distinct : (result.fields.map (·.name)).Nodup) :
    checkFields input result expected = none ↔ result.HasFields expected := by
  rw [checkFields_eq_none_iff_found, hasFields_iff_found distinct]

theorem checkAnswer_eq_none_iff {answer : Option MatchResult}
    (distinct : ∀ result, answer = some result → (result.fields.map (·.name)).Nodup) :
    checkAnswer config input answer = none ↔ config.Expects answer := by
  cases answer with
  | none => simp [checkAnswer, TestConfig.Expects]
  | some result =>
      cases refuse : config.expectNoMatch with
      | true => simp [checkAnswer, TestConfig.Expects, refuse]
      | false =>
          cases given : config.expectFields with
          | none => simp [checkAnswer, TestConfig.Expects, refuse, given]
          | some expected =>
              have fields := @checkFields_eq_none_iff input result expected (distinct result rfl)
              simp [checkAnswer, TestConfig.Expects, refuse, given, fields]

theorem input?_of_checkAnswer {answer : Option MatchResult}
    (failed : checkAnswer config input answer = some failure) :
    failure.input? = some input := by
  cases answer with
  | none =>
      simp only [checkAnswer] at failed
      split at failed
      · cases failed
      · cases failed
        rfl
  | some result =>
      simp only [checkAnswer] at failed
      split at failed
      · cases failed
        rfl
      · obtain ⟨expected, _, failed⟩ := Option.bind_eq_some_iff.mp failed
        exact input?_of_checkFields failed

theorem exists_message_of_input? (about : failure.input? = some input) :
    ∃ reason, failure.message = "input \"" ++ String.ofList input ++ "\": " ++ reason := by
  cases failure <;> cases about <;> exact ⟨_, rfl⟩

end Answer

section Run

variable {config : TestConfig} {customTypes : List Text}

/-- The rule set answers each input as if it were the only one, so the first complaint stands. -/
theorem checkInputs_eq {set : RuleSet} (loaded : set.Loaded customTypes) (inputs : List Text) :
    checkInputs config set inputs = inputs.findSome? fun input =>
      checkAnswer config input
        ((answerAnew customTypes set.registry input set.rules).map Prod.snd) := by
  induction inputs generalizing set with
  | nil => rfl
  | cons input inputs ih =>
      obtain ⟨cache, answered, loaded'⟩ := loaded.matchInput_eq input
      have rest := ih loaded'
      cases said : checkAnswer config input
          ((answerAnew customTypes set.registry input set.rules).map Prod.snd) with
      | some failure => simp only [checkInputs, answered, List.findSome?_cons, said]
      | none => simp only [checkInputs, answered, List.findSome?_cons, said, rest]

theorem nodup_names_of_matchCombinations {r : Registry} {combinations : List Combination}
    {input : Text} {result : MatchResult}
    (matched : matchCombinations input combinations r = .ok (some result)) :
    (result.fields.map (·.name)).Nodup := by
  rw [matchCombinations_eq] at matched
  obtain ⟨c, _, captured, _, rfl⟩ := exists_of_matchReadings matched
  exact nodup_names_ofCaptured c captured

end Run

namespace TestCase

variable {case : TestCase}

theorem types_rulesFile (case : TestCase) : case.rulesFile.types = case.config.customTypes := rfl

theorem rules_rulesFile (case : TestCase) :
    case.rulesFile.rules = [⟨"template".toList, case.template⟩] := rfl

def complaint? (case : TestCase) (registry : Registry) (input : Text) : Option TestFailure :=
  checkAnswer case.config input
    ((answerAnew case.rulesFile.customTypes registry input case.rulesFile.rules).map Prod.snd)

theorem complaint?_eq_none_iff {p : Pattern} {registry : Registry}
    (compiled : compile case.template case.rulesFile.customTypes = .ok p)
    (registered : case.rulesFile.registry = .ok registry) (served : registry.BoundaryServed)
    (valid : registry.validate p = .ok ()) (input : Text) :
    case.complaint? registry input = none ↔ case.Meets input := by
  obtain ⟨answer, matched⟩ := matchCombinations_ok served valid input
  have alone : (answerAnew case.rulesFile.customTypes registry input
      case.rulesFile.rules).map Prod.snd = answer := by
    have only : (⟨"template".toList, case.template⟩ : Rule).result? case.rulesFile.customTypes
        registry input = answer := RuleSet.result?_eq compiled valid matched
    rw [answerAnew, rules_rulesFile, List.findSome?_singleton, only]
    cases answer <;> rfl
  have whole : matchPattern input p registry = .ok answer := by
    simp only [matchPattern, valid, matched]
  rw [complaint?, alone, checkAnswer_eq_none_iff]
  · constructor
    · intro expects
      exact ⟨p, registry, answer, compiled, registered, whole, expects⟩
    · rintro ⟨p', registry', answer', compiled', registered', whole', expects⟩
      rw [compiled] at compiled'
      cases compiled'
      rw [registered] at registered'
      cases registered'
      rw [whole] at whole'
      cases whole'
      exact expects
  · rintro result rfl
    exact nodup_names_of_matchCombinations matched

/-- A test fails to load, or fails to be turned down, or says the first complaint about an input. -/
theorem check_spec (case : TestCase) :
    match case.config.customTypes.findSome? Registry.typeFault? with
    | some source => case.check = some (if case.config.expectCompileError
        then .otherError (.registry source) else .rules (.registry source))
    | none => match compile case.template case.rulesFile.customTypes with
      | .error errors => case.check =
          if case.config.expectCompileError then none else some (.notCompiled errors)
      | .ok _ => ∃ registry, (∀ input, case.complaint? registry input = none ↔ case.Meets input) ∧
          case.check = if case.config.expectCompileError then some .compiled
            else case.inputs.findSome? (case.complaint? registry) := by
  have loading := RuleSet.ofFile_spec case.rulesFile
  rw [types_rulesFile, rules_rulesFile, List.findSome?_singleton, Rule.fault?] at loading
  rw [check]
  cases invalid : case.config.customTypes.findSome? Registry.typeFault? with
  | some source =>
      simp only [invalid] at loading ⊢
      simp only [loading]
  | none =>
      simp only [invalid] at loading ⊢
      cases compiled : compile case.template case.rulesFile.customTypes with
      | error errors =>
          simp only [compiled] at loading ⊢
          simp only [loading]
      | ok p =>
          simp only [compiled] at loading ⊢
          obtain ⟨registry, cache, registered, made, loaded⟩ := loading
          have valid := loaded.holds.validate_eq_ok compiled
          refine ⟨registry, complaint?_eq_none_iff compiled registered loaded.served valid, ?_⟩
          simp only [made, checkInputs_eq loaded]
          rfl

theorem exists_complaint_iff {registry : Registry}
    (fair : ∀ input, case.complaint? registry input = none ↔ case.Meets input) (input : Text) :
    (∃ failure, case.inputs.findSome? (case.complaint? registry) = some failure ∧
      failure.input? = some input) ↔
    ∃ front back, case.inputs = front ++ input :: back ∧
      (∀ earlier ∈ front, case.Meets earlier) ∧ ¬ case.Meets input := by
  simp only [List.findSome?_eq_some_iff, fair]
  constructor
  · rintro ⟨failure, ⟨front, input', back, split, said, earlier⟩, about⟩
    have same : some input' = some input := (input?_of_checkAnswer said).symm.trans about
    cases same
    refine ⟨front, back, split, earlier, fun meets => ?_⟩
    rw [(fair input).mpr meets] at said
    cases said
  · rintro ⟨front, back, split, earlier, refused⟩
    have complains : case.complaint? registry input ≠ none := fun none_ =>
      refused ((fair input).mp none_)
    obtain ⟨failure, said⟩ := Option.ne_none_iff_exists'.mp complains
    exact ⟨failure, ⟨front, input, back, split, said, earlier⟩, input?_of_checkAnswer said⟩

/-- A test passes exactly if its expressions can be read and its template is turned down as
expected, or compiles and answers every input as expected. The failure at an input is about the
first one that is not answered so, and says which it is. -/
theorem check_eq_none_iff (case : TestCase) :
    (case.check = none ↔
      (∀ type ∈ case.config.customTypes, ∃ regex, Regex.ofText type.2 = .ok regex) ∧
      (case.config.expectCompileError = true ∧
          (∃ errors, compile case.template case.rulesFile.customTypes = .error errors) ∨
        case.config.expectCompileError = false ∧
          (∃ p, compile case.template case.rulesFile.customTypes = .ok p) ∧
          ∀ input ∈ case.inputs, case.Meets input)) ∧
    (∀ input, (∃ failure, case.check = some failure ∧ failure.input? = some input) ↔
      (∀ type ∈ case.config.customTypes, ∃ regex, Regex.ofText type.2 = .ok regex) ∧
        case.config.expectCompileError = false ∧
        (∃ p, compile case.template case.rulesFile.customTypes = .ok p) ∧
        ∃ front back, case.inputs = front ++ input :: back ∧
          (∀ earlier ∈ front, case.Meets earlier) ∧ ¬ case.Meets input) ∧
    ∀ failure input, case.check = some failure → failure.input? = some input →
      ∃ reason, failure.message = "input \"" ++ String.ofList input ++ "\": " ++ reason := by
  have checked := case.check_spec
  rw [← Registry.findSome?_typeFault?_eq_none_iff]
  refine and_assoc.mp ⟨?_, fun failure input _ about => exists_message_of_input? about⟩
  cases invalid : case.config.customTypes.findSome? Registry.typeFault? with
  | some source =>
      simp only [invalid] at checked
      cases flag : case.config.expectCompileError <;> simp [checked, flag, TestFailure.input?]
  | none =>
      simp only [invalid] at checked
      cases compiled : compile case.template case.rulesFile.customTypes with
      | error errors =>
          simp only [compiled] at checked
          cases flag : case.config.expectCompileError <;>
            simp [checked, flag, TestFailure.input?]
      | ok p =>
          simp only [compiled] at checked
          obtain ⟨registry, fair, checked⟩ := checked
          cases flag : case.config.expectCompileError with
          | true => simp [checked, flag, TestFailure.input?]
          | false =>
              have first := exists_complaint_iff fair
              simp only [flag, Bool.false_eq_true, if_false] at checked
              simp [checked, List.findSome?_eq_none_iff, fair, first]

theorem check_eq_none_iff_second :
    let config : TestConfig := ⟨none, some [("n".toList, .single "1".toList)], false, false, []⟩
    let case : TestCase := ⟨config, "\x7bn\x7d".toList, ["1".toList, "2".toList, "3".toList]⟩
    case.Meets "1".toList ∧ ¬ case.Meets "2".toList ∧
      ∃ failure, case.check = some failure ∧ failure.input? = some "2".toList ∧
        ∃ reason, failure.message = "input \"2\": " ++ reason := by
  intro config case
  let slot : Variable := .plain (some "n".toList) .text
  have compiled : compile case.template case.rulesFile.customTypes = .ok [.variable slot] :=
    Derives.compile_slot (.untyped (names_render "n".toList) (by decide))
  let result (value : Text) : MatchResult :=
    ⟨[.once slot value], ⟨[.variable slot], 1⟩, [⟨0, 1⟩]⟩
  have matched : matchPattern "1".toList [.variable slot] Registry.builtin =
      .ok (some (result "1".toList)) := by cbv
  have matched' : matchPattern "2".toList [.variable slot] Registry.builtin =
      .ok (some (result "2".toList)) := by cbv
  have meets : case.Meets "1".toList := by
    refine ⟨_, Registry.builtin, _, compiled, rfl, matched, rfl, ?_⟩
    rintro expected ⟨rfl⟩ name value
    simp [result, slot, Field.once, Variable.plain, ExpectedValue.ofField, eq_comm]
  have refused : ¬ case.Meets "2".toList := by
    rintro ⟨p, registry, answer, compiled', registered, answered, expects⟩
    rw [compiled] at compiled'
    cases compiled'
    cases registered
    rw [matched'] at answered
    cases answered
    obtain ⟨f, field, _, other⟩ := (expects.2 _ rfl _ _).mp List.mem_cons_self
    obtain rfl := List.mem_singleton.mp field
    simp [slot, Field.once, ExpectedValue.ofField] at other
  obtain ⟨_, first, named⟩ := check_eq_none_iff case
  have offending : ∃ front back, case.inputs = front ++ "2".toList :: back ∧
      (∀ earlier ∈ front, case.Meets earlier) ∧ ¬ case.Meets "2".toList :=
    ⟨["1".toList], ["3".toList], rfl, by simpa using meets, refused⟩
  obtain ⟨failure, failed, about⟩ :=
    (first "2".toList).mpr ⟨List.forall_mem_nil _, rfl, ⟨_, compiled⟩, offending⟩
  exact ⟨meets, refused, failure, failed, about, named failure _ failed about⟩

end TestCase

end NoteTemplate
