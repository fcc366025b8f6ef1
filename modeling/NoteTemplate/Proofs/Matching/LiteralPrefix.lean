import Mathlib
import NoteTemplate.Matching.Builtin
import NoteTemplate.Proofs.Expansion.Scores
import NoteTemplate.Proofs.Matching.Repetitions
import NoteTemplate.Proofs.Matching.Search
import NoteTemplate.Proofs.Template.Concatenation

/-!
A literal in front of a pattern and of its input. It joins the beginning of each reading and raises
all scores by the same amount, so the readings are ranked as before. The search then goes the same
way for any matchers, with all places further back by the bytes of the literal.
-/
namespace NoteTemplate

def Combination.behind (literal : Text) (c : Combination) : Combination :=
  ⟨Reading.consSegment (.text literal) c.segments, c.score + 2 * literal.length⟩

def Captured.shift (n : Nat) (x : Captured) : Captured := { x with span := x.span.shift n }

def MatchResult.behind (literal : Text) (result : MatchResult) : MatchResult :=
  ⟨result.fields, result.combination.behind literal,
    result.spans.map (Span.shift literal.byteLength)⟩

section Ranking

theorem Reading.hasAdjacentVariables_consSegment_text (literal : Text) (r : Reading) :
    hasAdjacentVariables (consSegment (.text literal) r) = r.hasAdjacentVariables := by
  by_cases empty : literal = []
  · rw [empty]
    rfl
  · obtain ⟨joined, rest, split, same⟩ := exists_consSegment_text empty r
    rw [split]
    exact same

theorem Combination.ofSegments_text (literal : Text) (r : Reading) :
    Combination.ofSegments (.text literal :: r) = (Combination.ofSegments r).behind literal := by
  have score : Reading.score (Reading.consSegment (.text literal) r.simplify) =
      r.simplify.score + 2 * literal.length := by
    rw [Reading.score_consSegment, Nat.add_comm]
    rfl
  rw [behind, ofSegments, ofSegments, ← score]
  rfl

/-- A literal in front of a pattern stands in front of all its readings and leaves their ranks as
they are. -/
theorem Pattern.rankedCombinations_text (literal : Text) (p : Pattern) :
    rankedCombinations (.text literal :: p) = (rankedCombinations p).map (.behind literal) := by
  have read : readings (.text literal :: p) = (readings p).map (.text literal :: ·) := by
    simp [readings, Token.readings, cross]
  have apart : (fun c => !Combination.hasAdjacentVariables c) ∘ Combination.behind literal =
      fun c => !c.hasAdjacentVariables := by
    funext c
    exact congrArg not (Reading.hasAdjacentVariables_consSegment_text literal c.segments)
  have prefixed : (readings (.text literal :: p)).map Combination.ofSegments =
      ((readings p).map Combination.ofSegments).map (.behind literal) := by
    rw [read, List.map_map, List.map_map]
    exact List.map_congr_left fun r _ => Combination.ofSegments_text literal r
  rw [rankedCombinations, rankedCombinations, prefixed, List.filter_map, apart, map_ranked]
  intro c _ d _
  simp only [Combination.behind]
  omega

end Ranking

section Search

variable {propose : Proposer}

theorem firstAnswer_map {α β : Type} {answer : Text → Except MatchError (Option α)} (f : α → β)
    (values : List (Except MatchError Text)) :
    firstAnswer (fun value => (answer value).map (Option.map f)) values =
      (firstAnswer answer values).map (Option.map f) := by
  induction values with
  | nil => rfl
  | cons value values ih =>
      cases value with
      | error e => rfl
      | ok value =>
          rw [firstAnswer, firstAnswer]
          rcases answer value with e | _ | a
          · rfl
          · exact ih
          · rfl

theorem walk_shift (n : Nat) (segments : List Segment) (offset : Nat) (remaining : Text) :
    walk propose segments (n + offset) remaining =
      (walk propose segments offset remaining).map (Option.map (List.map (Captured.shift n))) := by
  induction segments generalizing offset remaining with
  | nil =>
      rw [walk, walk]
      split <;> rfl
  | cons segment segments ih =>
      rcases segment with literal | v
      · rw [walk, walk]
        cases remaining.stripPrefixCaseless? literal with
        | none => rfl
        | some after =>
            simp only [Nat.add_assoc]
            exact ih _ after
      · have behind : walkBehind propose v segments (n + offset) remaining = fun value =>
            (walkBehind propose v segments offset remaining value).map
              (Option.map (List.map (Captured.shift n))) := by
          funext value
          rw [walkBehind, walkBehind]
          cases remaining.stripPrefix? value with
          | none => rfl
          | some after =>
              simp only [Nat.add_assoc, ih]
              rcases walk propose segments _ after with e | _ | captured <;> rfl
        rw [walk_variable, walk_variable, behind]
        cases propose remaining v segments with
        | error e => rfl
        | ok capture => exact firstAnswer_map _ _

theorem Text.stripPrefixCaseless?_append_append (literal s second : Text) :
    stripPrefixCaseless? (literal ++ s) (literal ++ second) = stripPrefixCaseless? s second := by
  induction literal with
  | nil => rfl
  | cons c literal ih => simp [stripPrefixCaseless?, sameLetter_refl, ih]

theorem walk_behind (literal : Text) (segments : List Segment) (offset : Nat) (s : Text) :
    walk propose (Reading.consSegment (.text literal) segments) offset (literal ++ s) =
      walk propose segments (offset + literal.byteLength) s := by
  generalize head : Segment.text literal = segment
  fun_cases Reading.consSegment segment segments with
  | case1 =>
      cases head
      rfl
  | case2 first second segments =>
      cases head
      rw [walk, walk, Text.stripPrefixCaseless?_append_append]
      cases s.stripPrefixCaseless? second with
      | none => rfl
      | some after =>
          simp only [List.length_append, List.take_length_add_append, Text.byteLength_append,
            Nat.add_assoc]
  | case3 =>
      cases head
      have whole := Text.stripPrefixCaseless?_append (Text.SameLetters.refl literal) s
      rw [walk, whole, List.take_left]

theorem walk_behind_eq_none {literal s : Text} (absent : ¬ s.StartsCaseless literal)
    (segments : List Segment) (offset : Nat) :
    walk propose (Reading.consSegment (.text literal) segments) offset s = .ok none := by
  have unstripped (more : Text) : s.stripPrefixCaseless? (literal ++ more) = none := by
    rw [← Option.not_isSome_iff_eq_none, Text.isSome_stripPrefixCaseless?_iff]
    rintro ⟨piece, rest, rfl, same⟩
    have start := List.forall₂_take_append piece literal more same
    apply absent
    refine ⟨piece.take literal.length, piece.drop literal.length ++ rest, ?_, start⟩
    rw [← List.append_assoc, List.take_append_drop]
  generalize head : Segment.text literal = segment
  fun_cases Reading.consSegment segment segments with
  | case1 =>
      cases head
      exact absurd ⟨[], s, rfl, .nil⟩ absent
  | case2 first second segments =>
      cases head
      rw [walk, unstripped]
  | case3 =>
      cases head
      have whole := unstripped []
      rw [List.append_nil] at whole
      rw [walk, whole]

end Search

section Result

theorem addCapture_shift (n : Nat) (x : Captured) (fields : List Field) :
    addCapture (x.shift n) fields = addCapture x fields := by
  induction fields with
  | nil => rfl
  | cons f fields ih =>
      rw [addCapture, addCapture, ih]
      rfl

theorem ofCaptured_behind (literal : Text) (c : Combination) (captured : List Captured) :
    MatchResult.ofCaptured (c.behind literal)
        (captured.map (Captured.shift literal.byteLength)) =
      (MatchResult.ofCaptured c captured).behind literal := by
  let n := literal.byteLength
  let kept := captured.filter (·.slot.isCaptured)
  have shifted : (captured.map (Captured.shift n)).filter (·.slot.isCaptured) =
      kept.map (Captured.shift n) := List.filter_map
  have fields : (kept.map (Captured.shift n)).foldl (fun fields x => addCapture x fields) [] =
      kept.foldl (fun fields x => addCapture x fields) [] := by
    simp only [List.foldl_map, addCapture_shift]
  have spans : (kept.map (Captured.shift n)).map (·.span) =
      (kept.map (·.span)).map (Span.shift n) := by
    simp only [List.map_map]
    rfl
  rw [MatchResult.ofCaptured, shifted, fields, spans]
  rfl

variable {propose : Proposer}

theorem matchReadings_behind (literal s : Text) (combinations : List Combination) :
    matchReadings propose (literal ++ s) (combinations.map (.behind literal)) =
      (matchReadings propose s combinations).map (Option.map (.behind literal)) := by
  induction combinations with
  | nil => rfl
  | cons c combinations ih =>
      have walked : walk propose (c.behind literal).segments 0 (literal ++ s) =
          (walk propose c.segments 0 s).map
            (Option.map (List.map (Captured.shift literal.byteLength))) := by
        rw [Combination.behind, walk_behind, Nat.zero_add]
        exact walk_shift literal.byteLength c.segments 0 s
      rw [List.map_cons, matchReadings, matchReadings, walked]
      rcases walk propose c.segments 0 s with e | _ | captured
      · rfl
      · exact ih
      · simp only [Except.map, Option.map_some, ofCaptured_behind]

theorem matchReadings_behind_eq_none {literal s : Text} (absent : ¬ s.StartsCaseless literal)
    (combinations : List Combination) :
    matchReadings propose s (combinations.map (.behind literal)) = .ok none := by
  induction combinations with
  | nil => rfl
  | cons c combinations ih =>
      rw [List.map_cons, matchReadings, Combination.behind, walk_behind_eq_none absent]
      exact ih

end Result

/-- A literal in front of a pattern and of the input only shifts the match, whatever the matchers
are: the answer is the same, with the literal in front of the combination and the spans further back
by its bytes. A served pattern behind a literal matches no input that starts otherwise. -/
theorem matchPattern_behind_literal (literal : Text) (p : Pattern) (r : Registry) :
    (∀ s, matchPattern (literal ++ s) (.text literal :: p) r =
      (matchPattern s p r).map (Option.map (.behind literal))) ∧
    (r.validate p = .ok () → ∀ s, ¬ s.StartsCaseless literal →
      matchPattern s (.text literal :: p) r = .ok none) := by
  have checked : r.validate (.text literal :: p) = r.validate p := rfl
  constructor
  · intro s
    rw [matchPattern, matchPattern, checked]
    cases r.validate p with
    | error e => rfl
    | ok _ =>
        simp only [matchCombinations_expand, Pattern.rankedCombinations_text]
        exact matchReadings_behind literal s _
  · intro valid s absent
    rw [matchPattern, checked, valid]
    simp only [matchCombinations_expand, Pattern.rankedCombinations_text]
    exact matchReadings_behind_eq_none absent _

theorem matchPattern_behind_literal_kelvin :
    let proposer : Proposer := fun remaining v _ =>
      .ok (some (.candidates [.ok "zz".toList, .ok (remaining.take 3), .ok (remaining.take 1),
        .error (.missingMatcher v.inputType)]))
    let registry := Registry.builtin.register (.custom ['x']) (.plugin proposer)
    let segments : Reading := [.variable (.plain (some "tag".toList) (.custom ['x'])),
      .text "-".toList, .variable (.plain (some "n".toList) .word)]
    let p : Pattern := [.optional [.text ".".toList],
      .variable (.plain (some "tag".toList) (.custom ['x'])), .text "-".toList,
      .variable (.plain (some "n".toList) .word)]
    let literal := "\u212A.".toList
    let result : MatchResult := ⟨[⟨some "tag".toList, .custom ['x'], .single ['a']⟩,
      ⟨some "n".toList, .word, .single ['b']⟩], ⟨segments, 7⟩, [⟨0, 1⟩, ⟨2, 3⟩]⟩
    matchPattern "a-b".toList p registry = .ok (some result) ∧
      matchPattern (literal ++ "a-b".toList) (.text literal :: p) registry =
        .ok (some (result.behind literal)) ∧
      (result.behind literal).spans = [⟨4, 5⟩, ⟨6, 7⟩] ∧
      registry.validate p = .ok () ∧ ¬ Text.StartsCaseless "a-b".toList literal ∧
      matchPattern "a-b".toList (.text literal :: p) registry = .ok none := by
  intro proposer registry segments p literal result
  have matched : matchPattern "a-b".toList p registry = .ok (some result) := by cbv
  have valid : registry.validate p = .ok () := by cbv
  have absent : ¬ Text.StartsCaseless "a-b".toList literal := by
    rw [← Text.isSome_stripPrefixCaseless?_iff]
    decide
  obtain ⟨shifted, unmatched⟩ := matchPattern_behind_literal literal p registry
  refine ⟨matched, ?_, rfl, valid, absent, unmatched valid _ absent⟩
  rw [shifted, matched]
  rfl

end NoteTemplate
