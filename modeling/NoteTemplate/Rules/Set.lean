import NoteTemplate.Matching.Builtin
import NoteTemplate.Matching.Custom
import NoteTemplate.Matching.Search
import NoteTemplate.Rules.Cache
import NoteTemplate.Rules.File

/-!
Rules that are ready for matching. Every template is compiled and checked against the registry when
the set is made; an input is answered by the first rule that matches it.
-/
namespace NoteTemplate

inductive RuleError where
  | unreadable (path : Text) (reason : String)
  | file (fault : Toml.ReadFault)
  | compile (rule template : Text) (errors : List CompileError)
  | matching (rule : Text) (source : MatchError)
  | registry (source : MatchError)

def RuleError.message : RuleError → String
  | .unreadable path reason => "cannot read '" ++ String.ofList path ++ "': " ++ reason
  | .file fault => "invalid rules file: " ++ fault.message
  | .compile rule _ _ => "rule '" ++ String.ofList rule ++ "' has an invalid template"
  | .matching rule source => "rule '" ++ String.ofList rule ++ "': " ++ source.message
  | .registry source => source.message

def Registry.registerTypes : Registry → List (Text × Text) → Except MatchError Registry
  | r, [] => .ok r
  | r, (name, regex) :: types =>
    match regexMatcher name regex with
    | .error e => .error e
    | .ok matcher => (r.register (.custom name) matcher).registerTypes types

def RulesFile.registry (file : RulesFile) : Except MatchError Registry :=
  Registry.builtin.registerTypes file.types

structure RuleSet where
  rules : List Rule
  registry : Registry
  cache : PatternCache

namespace RuleSet

def prepare (registry : Registry) : PatternCache → List Rule → Except RuleError PatternCache
  | cache, [] => .ok cache
  | cache, rule :: rules =>
    match cache.getOrCompile rule.template with
    | (.error errors, _) => .error (.compile rule.name rule.template errors)
    | (.ok cached, cache) =>
      match registry.validate cached.pattern with
      | .error source => .error (.matching rule.name source)
      | .ok () => prepare registry cache rules

def ofFile (file : RulesFile) : Except RuleError RuleSet :=
  match file.registry with
  | .error source => .error (.registry source)
  | .ok registry =>
    match prepare registry (.empty file.customTypes) file.rules with
    | .error e => .error e
    | .ok cache => .ok ⟨file.rules, registry, cache⟩

def firstMatch (registry : Registry) (input : Text) :
    PatternCache → List Rule → Except RuleError (Option (Text × MatchResult)) × PatternCache
  | cache, [] => (.ok none, cache)
  | cache, rule :: rules =>
    match cache.getOrCompile rule.template with
    | (.error errors, cache) => (.error (.compile rule.name rule.template errors), cache)
    | (.ok cached, cache) =>
      match matchCombinations input cached.combinations registry with
      | .error source => (.error (.matching rule.name source), cache)
      | .ok (some result) => (.ok (some (rule.name, result)), cache)
      | .ok none => firstMatch registry input cache rules

def matchInput (set : RuleSet) (input : Text) :
    Except RuleError (Option (Text × MatchResult)) × RuleSet :=
  let (answer, cache) := firstMatch set.registry input set.cache set.rules
  (answer, { set with cache := cache })

end RuleSet

end NoteTemplate
