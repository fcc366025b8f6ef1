import NoteTemplate.Proofs.Expansion.Recasing
import NoteTemplate.Proofs.Matching.Validity

/-!
Two matches side by side: a pattern and the same pattern with recased literals, each on its input,
which are recased as well. Byte offsets in the two inputs drift apart, so what corresponds is said
by the texts before it. The searches take the same turns: a literal is found in both inputs at the
same characters, the proposals for a variable end there, and they are accepted together.
-/
namespace NoteTemplate

/-- Both fail alike, neither answers, or both answer and the answers are related. -/
inductive AnswersAlike {α β : Type} (R : α → β → Prop) :
    Except MatchError (Option α) → Except MatchError (Option β) → Prop
  | failure (e : MatchError) : AnswersAlike R (.error e) (.error e)
  | unmatched : AnswersAlike R (.ok none) (.ok none)
  | matched {a : α} {b : β} (related : R a b) : AnswersAlike R (.ok (some a)) (.ok (some b))

namespace AnswersAlike

variable {α β γ δ : Type} {R : α → β → Prop} {S : γ → δ → Prop}
  {x : Except MatchError (Option α)} {y : Except MatchError (Option β)}

theorem map (alike : AnswersAlike R x y) {f : α → γ} {g : β → δ}
    (related : ∀ a b, R a b → S (f a) (g b)) :
    AnswersAlike S (x.map (Option.map f)) (y.map (Option.map g)) := by
  cases alike with
  | failure e => exact .failure e
  | unmatched => exact .unmatched
  | matched both => exact .matched (related _ _ both)

theorem imp {S : α → β → Prop} (alike : AnswersAlike R x y) (weaker : ∀ a b, R a b → S a b) :
    AnswersAlike S x y := by
  cases alike with
  | failure e => exact .failure e
  | unmatched => exact .unmatched
  | matched both => exact .matched (weaker _ _ both)

theorem exists_matched {a : α} (alike : AnswersAlike R (.ok (some a)) y) :
    ∃ b, y = .ok (some b) ∧ R a b := by
  cases alike with
  | matched related => exact ⟨_, rfl, related⟩

theorem isSome_eq (alike : AnswersAlike R x y) :
    x.map Option.isSome = y.map Option.isSome := by
  cases alike <;> rfl

end AnswersAlike

variable {l e : Recasing}

section Values

variable {s s' : Text}

inductive ProposalsAlike (e : Recasing) (s s' : Text) :
    Except MatchError Text → Except MatchError Text → Prop
  | failure (error : MatchError) : ProposalsAlike e s s' (.error error) (.error error)
  | value {front front' : Text} (cut : Text.CutAlike e s s' front front') :
      ProposalsAlike e s s' (.ok front) (.ok front')

theorem followingText?_recased {following following' : Reading}
    (recased : Reading.Recased l following following') :
    (followingText? following = none ∧ followingText? following' = none) ∨
      ∃ literal literal', followingText? following = some literal ∧
        followingText? following' = some literal' ∧ Text.SameLetters literal literal' := by
  cases recased with
  | nil => exact .inl ⟨rfl, rfl⟩
  | cons head _ =>
      rcases head with letters | slot
      · exact .inr ⟨_, _, rfl, rfl, letters.sameLetters⟩
      · exact .inl ⟨rfl, rfl⟩

theorem beginnings_recased {ends ends' : List Nat}
    (cuts : List.Forall₂ (Text.CutsAt e s s') ends ends') :
    List.Forall₂ (Text.CutAlike e s s') (beginnings s ends) (beginnings s' ends') := by
  have backwards := List.forall₂_reverse_iff.mpr cuts
  have positive : List.Forall₂ (Text.CutsAt e s s') (ends.reverse.filter (· ≠ 0))
      (ends'.reverse.filter (· ≠ 0)) := by
    refine List.rel_filter ?_ backwards
    rintro _ _ ⟨front, front', ⟨back, back', _, _, fronts, _⟩, rfl, rfl⟩
    have empty : front = [] ↔ front' = [] := by
      rw [← List.length_eq_zero_iff, ← List.length_eq_zero_iff, fronts.length_eq]
    simp only [decide_eq_true_eq, ne_eq, Text.byteLength_eq_zero_iff, empty]
  apply List.rel_map _ positive
  rintro _ _ ⟨front, front', cut, rfl, rfl⟩
  obtain ⟨back, back', rfl, rfl, _, _⟩ := id cut
  simp only [Text.takeBytes_byteLength_append]
  exact cut

theorem boundaryValues_recased (texts : Text.Recased e s s') {following following' : Reading}
    (recased : Reading.Recased l following following') :
    List.Forall₂ (Text.CutAlike e s s') (boundaryValues s following)
      (boundaryValues s' following') := by
  rcases followingText?_recased recased with ⟨last, last'⟩ | ⟨literal, literal', next, next', same⟩
  · simp only [boundaryValues, last, last']
    cases texts with
    | nil => exact .nil
    | cons letter texts =>
        refine .cons ⟨[], [], ?_, ?_, .cons letter texts, .nil⟩ .nil
        · exact (List.append_nil _).symm
        · exact (List.append_nil _).symm
  · simp only [boundaryValues, next, next']
    exact beginnings_recased (Text.findAllCaseless_recased texts same)

theorem accepted_recased {validate validate' : Text → Except MatchError Bool}
    (agree : ∀ t t', Text.Recased e t t' → validate t = validate' t') {values values' : List Text}
    (cuts : List.Forall₂ (Text.CutAlike e s s') values values') :
    List.Forall₂ (ProposalsAlike e s s') (accepted validate values)
      (accepted validate' values') := by
  induction cuts with
  | nil => exact .nil
  | @cons value value' values values' cut _ ih =>
      obtain ⟨_, _, _, _, fronts, _⟩ := id cut
      rw [accepted, accepted, ← agree value value' fronts]
      rcases validate value with error | _ | _
      · exact .cons (.failure error) .nil
      · exact ih
      · exact .cons (.value cut) ih

end Values

section Proposals

def proposals (propose : Proposer) (remaining : Text) (v : Variable) (following : List Segment) :
    List (Except MatchError Text) :=
  match propose remaining v following with
  | .error e => [.error e]
  | .ok capture => Capture.values capture

theorem walk_variable_eq_firstAnswer {propose : Proposer} (v : Variable) (segments : List Segment)
    (offset : Nat) (remaining : Text) :
    walk propose (.variable v :: segments) offset remaining =
      firstAnswer (walkBehind propose v segments offset remaining)
        (proposals propose remaining v segments) := by
  rw [walk_variable, proposals]
  cases propose remaining v segments <;> rfl

theorem proposals_of_error {propose : Proposer} {remaining : Text} {v : Variable}
    {following : List Segment} {error : MatchError}
    (failed : propose remaining v following = .error error) :
    proposals propose remaining v following = [.error error] := by
  rw [proposals, failed]

theorem proposals_of_boundary {propose : Proposer} {remaining : Text} {v : Variable}
    {following : List Segment} {validate : Text → Except MatchError Bool}
    (proposed : propose remaining v following = selectByBoundary remaining following validate) :
    proposals propose remaining v following =
      accepted validate (boundaryValues remaining following) := by
  rw [proposals, proposed]
  cases selected : selectByBoundary remaining following validate with
  | ok capture => exact values_selectByBoundary selected
  | error error =>
      -- Only the check of the whole input is made before anything is proposed.
      cases next : followingText? following with
      | some literal =>
          simp only [selectByBoundary, next] at selected
          split at selected <;> cases selected
      | none =>
          simp only [selectByBoundary, next] at selected
          by_cases empty : remaining.isEmpty
          · rw [if_pos empty] at selected
            cases selected
          · rw [if_neg empty] at selected
            simp only [boundaryValues, next, if_neg empty]
            rcases answer : validate remaining with error' | _ | _ <;> rw [answer] at selected <;>
              cases selected
            simp only [accepted, answer]

def ProposesAlike (l e : Recasing) (propose propose' : Proposer) (v v' : Variable) : Prop :=
  ∀ s s' following following', Text.Recased e s s' → Reading.Recased l following following' →
    List.Forall₂ (ProposalsAlike e s s') (proposals propose s v following)
      (proposals propose' s' v' following')

variable {propose propose' : Proposer} {v v' : Variable}

theorem ProposesAlike.of_error {error : MatchError}
    (failed : ∀ s following, propose s v following = .error error)
    (failed' : ∀ s following, propose' s v' following = .error error) :
    ProposesAlike l e propose propose' v v' := by
  intro s s' following following' _ _
  rw [proposals_of_error (failed s following), proposals_of_error (failed' s' following')]
  exact .cons (.failure error) .nil

theorem ProposesAlike.of_boundary {validate validate' : Text → Except MatchError Bool}
    (proposed : ∀ s following, propose s v following = selectByBoundary s following validate)
    (proposed' : ∀ s following, propose' s v' following = selectByBoundary s following validate')
    (agree : ∀ t t', Text.Recased e t t' → validate t = validate' t') :
    ProposesAlike l e propose propose' v v' := by
  intro s s' following following' texts recased
  rw [proposals_of_boundary (proposed s following), proposals_of_boundary (proposed' s' following')]
  exact accepted_recased agree (boundaryValues_recased texts recased)

end Proposals

section Walk

structure Span.Alike (e : Recasing) (s s' : Text) (a b : Span) : Prop where
  start : Text.CutsAt e s s' a.start b.start
  stop : Text.CutsAt e s s' a.stop b.stop

structure Captured.Alike (l e : Recasing) (s s' : Text) (x y : Captured) : Prop where
  slot : Variable.Recased l x.slot y.slot
  value : Text.Recased e x.value y.value
  span : Span.Alike e s s' x.span y.span

theorem Span.alike_between {front front' value value' after after' : Text}
    (fronts : Text.Recased e front front') (values : Text.Recased e value value')
    (afters : Text.Recased e after after') :
    Span.Alike e (front ++ (value ++ after)) (front' ++ (value' ++ after'))
      ⟨front.byteLength, (front ++ value).byteLength⟩
      ⟨front'.byteLength, (front' ++ value').byteLength⟩ := by
  have rests := List.rel_append values afters
  have read := List.rel_append fronts values
  constructor
  · exact ⟨front, front', ⟨_, _, rfl, rfl, fronts, rests⟩, rfl, rfl⟩
  · refine ⟨front ++ value, front' ++ value', ⟨after, after', ?_, ?_, read, afters⟩, rfl, rfl⟩
    · exact (List.append_assoc _ _ _).symm
    · exact (List.append_assoc _ _ _).symm

variable {propose propose' : Proposer}

theorem firstAnswer_alike {α β : Type} {R : α → β → Prop} {s s' : Text}
    {answer : Text → Except MatchError (Option α)} {answer' : Text → Except MatchError (Option β)}
    (agree : ∀ front front', Text.CutAlike e s s' front front' →
      AnswersAlike R (answer front) (answer' front'))
    {values values' : List (Except MatchError Text)}
    (alike : List.Forall₂ (ProposalsAlike e s s') values values') :
    AnswersAlike R (firstAnswer answer values) (firstAnswer answer' values') := by
  induction alike with
  | nil => exact .unmatched
  | cons head _ ih =>
      cases head with
      | failure error => exact .failure error
      | @value front front' cut =>
          have both := agree front front' cut
          rw [firstAnswer, firstAnswer]
          generalize answer front = found at both ⊢
          generalize answer' front' = found' at both ⊢
          cases both with
          | failure error => exact .failure error
          | unmatched => exact ih
          | matched related => exact .matched related

/-- The walks of recased segments go the same way. Both have read some text already, from which the
offsets are taken. -/
theorem walk_alike {segments segments' : Reading} (recased : Reading.Recased l segments segments')
    (alike : ∀ v v', .variable v ∈ segments → .variable v' ∈ segments' → Variable.Recased l v v' →
      ProposesAlike l e propose propose' v v') {front front' rest rest' : Text}
    (fronts : Text.Recased e front front') (rests : Text.Recased e rest rest') :
    AnswersAlike (List.Forall₂ (Captured.Alike l e (front ++ rest) (front' ++ rest')))
      (walk propose segments front.byteLength rest)
      (walk propose' segments' front'.byteLength rest') := by
  induction recased generalizing front front' rest rest' with
  | nil =>
      rw [walk, walk]
      cases rests with
      | nil => exact .matched .nil
      | cons => exact .unmatched
  | @cons segment segment' segments segments' head tail ih =>
      have behind := @ih fun v v' inside inside' =>
        alike v v' (List.mem_cons_of_mem _ inside) (List.mem_cons_of_mem _ inside')
      rcases head with @⟨literal, literal', letters⟩ | @⟨v, v', slot⟩
      · rw [walk, walk]
        rcases Text.stripPrefixCaseless?_recased rests letters.sameLetters with
          ⟨none, none'⟩ | ⟨piece, rest, piece', rest', rfl, rfl, pieces, rests, same, same'⟩
        · rw [none, none']
          exact .unmatched
        · rw [Text.stripPrefixCaseless?_append same, Text.stripPrefixCaseless?_append same']
          simp only [← same.length_eq, ← same'.length_eq, List.take_left,
            ← Text.byteLength_append, ← List.append_assoc]
          exact behind (List.rel_append fronts pieces) rests
      · rw [walk_variable_eq_firstAnswer, walk_variable_eq_firstAnswer]
        have proposed := alike v v' List.mem_cons_self List.mem_cons_self slot rest rest' _ _ rests tail
        refine firstAnswer_alike ?_ proposed
        rintro value value' ⟨after, after', rfl, rfl, values, afters⟩
        have walked := behind (List.rel_append fronts values) afters
        rw [List.append_assoc, List.append_assoc] at walked
        rw [walkBehind_append, walkBehind_append, ← Text.byteLength_append, ← Text.byteLength_append]
        refine walked.map fun captured captured' others => ?_
        exact .cons ⟨slot, values, Span.alike_between fronts values afters⟩ others

end Walk

section Result

inductive FieldValue.Recased (e : Recasing) : FieldValue → FieldValue → Prop
  | single {value value' : Text} (letters : Text.Recased e value value') :
      FieldValue.Recased e (.single value) (.single value')
  | list {values values' : List Text} (each : List.Forall₂ (Text.Recased e) values values') :
      FieldValue.Recased e (.list values) (.list values')

structure Field.Recased (e : Recasing) (f g : Field) : Prop where
  name : f.name = g.name
  inputType : f.inputType = g.inputType
  value : FieldValue.Recased e f.value g.value

structure MatchResult.Alike (l e : Recasing) (s s' : Text) (a b : MatchResult) : Prop where
  fields : List.Forall₂ (Field.Recased e) a.fields b.fields
  combination : Combination.Recased l a.combination b.combination
  spans : List.Forall₂ (Span.Alike e s s') a.spans b.spans

theorem Variable.Recased.name_eq {v v' : Variable} (recased : Variable.Recased l v v') :
    v.name = v'.name := by
  cases recased <;> rfl

theorem Variable.Recased.inputType_eq {v v' : Variable} (recased : Variable.Recased l v v') :
    v.inputType = v'.inputType := by
  cases recased <;> rfl

theorem Variable.Recased.isCaptured_eq {v v' : Variable} (recased : Variable.Recased l v v') :
    v.isCaptured = v'.isCaptured := by
  rw [Variable.isCaptured, Variable.isCaptured, recased.name_eq, recased.inputType_eq]

theorem FieldValue.Recased.push {held held' : FieldValue} {value value' : Text}
    (recased : FieldValue.Recased e held held') (letters : Text.Recased e value value') :
    FieldValue.Recased e (held.push value) (held'.push value') := by
  cases recased with
  | single first => exact .list (.cons first (.cons letters .nil))
  | list each => exact .list (List.rel_append each (.cons letters .nil))

variable {s s' : Text}

theorem addCapture_recased {x y : Captured} (alike : Captured.Alike l e s s' x y)
    {fields fields' : List Field} (each : List.Forall₂ (Field.Recased e) fields fields') :
    List.Forall₂ (Field.Recased e) (addCapture x fields) (addCapture y fields') := by
  have name := alike.slot.name_eq
  induction each with
  | nil => exact .cons ⟨name, alike.slot.inputType_eq, .single alike.value⟩ .nil
  | @cons f g fields fields' head tail ih =>
      rw [addCapture, addCapture]
      by_cases same : f.name = x.slot.name
      · have same' : g.name = y.slot.name := head.name.symm.trans (same.trans name)
        rw [if_pos same, if_pos same']
        exact .cons ⟨head.name, head.inputType, head.value.push alike.value⟩ tail
      · have other : g.name ≠ y.slot.name := fun same' =>
          same (head.name.trans (same'.trans name.symm))
        rw [if_neg same, if_neg other]
        exact .cons head ih

theorem ofCaptured_alike {c d : Combination} (recased : Combination.Recased l c d)
    {captured captured' : List Captured}
    (alike : List.Forall₂ (Captured.Alike l e s s') captured captured') :
    MatchResult.Alike l e s s' (.ofCaptured c captured) (.ofCaptured d captured') := by
  have kept : List.Forall₂ (Captured.Alike l e s s') (captured.filter (·.slot.isCaptured))
      (captured'.filter (·.slot.isCaptured)) := by
    refine List.rel_filter ?_ alike
    intro x y both
    simp only [both.slot.isCaptured_eq]
  constructor
  · refine List.rel_foldl (R := Captured.Alike l e s s') ?_ .nil kept
    intro fields fields' each x y both
    exact addCapture_recased both each
  · exact recased
  · exact List.rel_map (fun _ _ both => both.span) kept

theorem matchReadings_alike {propose propose' : Proposer} {cs ds : List Combination}
    (recased : List.Forall₂ (Combination.Recased l) cs ds)
    (alike : ∀ c ∈ cs, ∀ d ∈ ds, ∀ v v', .variable v ∈ c.segments → .variable v' ∈ d.segments →
      Variable.Recased l v v' → ProposesAlike l e propose propose' v v')
    (texts : Text.Recased e s s') :
    AnswersAlike (MatchResult.Alike l e s s') (matchReadings propose s cs)
      (matchReadings propose' s' ds) := by
  induction recased with
  | nil => exact .unmatched
  | @cons c d cs ds head tail ih =>
      have walked : AnswersAlike (List.Forall₂ (Captured.Alike l e s s'))
          (walk propose c.segments 0 s) (walk propose' d.segments 0 s') :=
        walk_alike head.segments (alike c List.mem_cons_self d List.mem_cons_self) .nil texts
      have others := ih fun c' inside d' inside' =>
        alike c' (List.mem_cons_of_mem c inside) d' (List.mem_cons_of_mem d inside')
      rw [matchReadings, matchReadings]
      generalize walk propose c.segments 0 s = first at walked ⊢
      generalize walk propose' d.segments 0 s' = second at walked ⊢
      cases walked with
      | failure error => exact .failure error
      | unmatched => exact others
      | matched captured => exact .matched (ofCaptured_alike head captured)

end Result

namespace Registry

variable {r : Registry} {p q : Pattern} {s s' : Text}

def Respects (r : Registry) (e : Recasing) (p : Pattern) : Prop :=
  ∀ v ∈ Pattern.variables p, ∀ accepts, r.find? v.inputType = some (.boundary accepts) →
    ∀ t t', Text.Recased e t t' → accepts t = accepts t'

theorem respects_identity (r : Registry) (p : Pattern) : r.Respects .identity p := by
  intro v _ accepts _ t t' same
  rw [Text.recased_identity_iff.mp same]

theorem Respects.nested {v : Variable} (respects : r.Respects e p) (member : v ∈ Pattern.variables p)
    (within : v.pattern = some q) : r.Respects e q := by
  intro w inside
  apply respects w
  exact Pattern.variables_subset_of_nested member within inside

theorem faultOf?_recased {v v' : Variable} (slot : Variable.Recased l v v') :
    r.faultOf? v = r.faultOf? v' := by
  cases slot <;> rfl

theorem findSome?_faultOf?_recased {vs vs' : List Variable}
    (slots : List.Forall₂ (Variable.Recased l) vs vs') :
    vs.findSome? r.faultOf? = vs'.findSome? r.faultOf? := by
  induction slots with
  | nil => rfl
  | cons slot _ ih => rw [List.findSome?_cons, List.findSome?_cons, faultOf?_recased slot, ih]

theorem validate_recased (recased : Pattern.Recased l p q) : r.validate p = r.validate q := by
  rw [validate, validate, findSome?_faultOf?_recased recased.variables]

theorem validator_recased {v v' : Variable} (slot : Variable.Recased l v v')
    (respects : ∀ accepts, r.find? v.inputType = some (.boundary accepts) →
      ∀ t t', Text.Recased e t t' → accepts t = accepts t')
    (nested : ∀ u u', v.pattern = some u → Pattern.Recased l u u' → ∀ t t', Text.Recased e t t' →
      (matchCombinations t (expand u) r).map Option.isSome =
        (matchCombinations t' (expand u') r).map Option.isSome)
    {t t' : Text} (texts : Text.Recased e t t') : r.validator v t = r.validator v' t' := by
  cases slot with
  | plain name inputType =>
      simp only [validator]
      rcases found : r.find? inputType with _ | accepts | _ | _
      · rfl
      · exact congrArg Except.ok (respects accepts found t t' texts)
      · rfl
      · rfl
  | @nested u u' name inputType within =>
      simp only [validator]
      rcases found : r.find? inputType with _ | accepts | _ | _
      · rfl
      · exact congrArg Except.ok (respects accepts found t t' texts)
      · exact nested u u' rfl within t t' texts
      · rfl

/-- The readings of a pattern answer together. The induction is on the nesting: nested patterns are
recased as well, so they accept the same values. -/
theorem matchCombinations_alike (served : r.BoundaryServed) (respects : r.Respects e p)
    (recased : Pattern.Recased l p q) (texts : Text.Recased e s s') :
    AnswersAlike (MatchResult.Alike l e s s') (matchCombinations s (expand p) r)
      (matchCombinations s' (expand q) r) := by
  induction depth : Pattern.nesting p using Nat.strong_induction_on generalizing p q s s' with
  | _ n ih =>
      -- Repetitions are left in: only with them do the readings correspond one by one.
      rw [matchCombinations_expand, matchCombinations_expand]
      refine matchReadings_alike recased.rankedCombinations ?_ texts
      intro c member d _ v v' inside _ slot
      have known := variable_mem_of_mem_expand (mem_rankedCombinations_iff.mp member) inside
      cases fault : r.faultOf? v with
      | some error =>
          have fault' := (faultOf?_recased slot).symm.trans fault
          exact .of_error (capture_eq_error served fault) (capture_eq_error served fault')
      | none =>
          have sound' := (faultOf?_recased slot).symm.trans fault
          refine .of_boundary (capture_eq served fault) (capture_eq served sound') ?_
          intro t t' values
          refine validator_recased slot (respects v known) ?_ values
          intro u u' within nested t t' values
          have shallower : Pattern.nesting u < n :=
            depth ▸ Pattern.nesting_lt_of_mem_variables known within
          exact (ih _ shallower (respects.nested known within) nested values rfl).isSome_eq

theorem matchPattern_alike (served : r.BoundaryServed) (respects : r.Respects e p)
    (recased : Pattern.Recased l p q) (texts : Text.Recased e s s') :
    AnswersAlike (MatchResult.Alike l e s s') (matchPattern s p r) (matchPattern s' q r) := by
  rw [matchPattern, matchPattern, ← validate_recased recased]
  cases r.validate p with
  | error error => exact .failure error
  | ok _ => exact matchCombinations_alike served respects recased texts

end Registry

end NoteTemplate
