import NoteTemplate.Expansion.Readings
import NoteTemplate.Template.Compile

namespace NoteTemplate

structure CachedPattern where
  pattern : Pattern
  combinations : List Combination
  deriving DecidableEq

structure PatternCache where
  customTypes : List Text
  entries : List (Text × CachedPattern)

namespace PatternCache

def empty (customTypes : List Text) : PatternCache := ⟨customTypes, []⟩

def find? (cache : PatternCache) (template : Text) : Option CachedPattern :=
  cache.entries.lookup template

/-- The entry of a template, which is made if it is missing. A template that does not compile leaves
no entry. -/
def getOrCompile (cache : PatternCache) (template : Text) :
    Except (List CompileError) CachedPattern × PatternCache :=
  match cache.find? template with
  | some cached => (.ok cached, cache)
  | none =>
    match compile template cache.customTypes with
    | .error errors => (.error errors, cache)
    | .ok pattern =>
      let cached := ⟨pattern, expand pattern⟩
      (.ok cached, { cache with entries := (template, cached) :: cache.entries })

end PatternCache

end NoteTemplate
