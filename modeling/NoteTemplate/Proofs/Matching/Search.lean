import NoteTemplate.Matching.Search
import NoteTemplate.Proofs.Text.Caseless

namespace NoteTemplate

section FirstAnswer

variable {α : Type} {answer : Text → Except MatchError (Option α)}
  {values : List (Except MatchError Text)}

theorem exists_of_firstAnswer {a : α} (answered : firstAnswer answer values = .ok (some a)) :
    ∃ value, .ok value ∈ values ∧ answer value = .ok (some a) := by
  fun_induction firstAnswer answer values with
  | case1 => cases answered
  | case2 => cases answered
  | case3 value values none ih =>
      obtain ⟨value', member, found⟩ := ih answered
      exact ⟨value', List.mem_cons_of_mem _ member, found⟩
  | case4 value values some_ => exact ⟨value, List.mem_cons_self, answered⟩

def Answerable (answer : Text → Except MatchError (Option α))
    (values : List (Except MatchError Text)) : Prop :=
  ∀ x ∈ values, ∃ value o, x = .ok value ∧ answer value = .ok o

theorem firstAnswer_ok (answerable : Answerable answer values) :
    ∃ o, firstAnswer answer values = .ok o := by
  induction values with
  | nil => exact ⟨none, rfl⟩
  | cons x values ih =>
      obtain ⟨value, o, rfl, answered⟩ := answerable x List.mem_cons_self
      rw [firstAnswer, answered]
      cases o with
      | none => exact ih fun x member => answerable x (List.mem_cons_of_mem _ member)
      | some a => exact ⟨some a, rfl⟩

theorem firstAnswer_isSome (answerable : Answerable answer values) {value : Text} {a : α}
    (member : .ok value ∈ values) (found : answer value = .ok (some a)) :
    ∃ b, firstAnswer answer values = .ok (some b) := by
  induction values with
  | nil => cases member
  | cons x values ih =>
      obtain ⟨value', o, rfl, answered⟩ := answerable x List.mem_cons_self
      rw [firstAnswer, answered]
      cases o with
      | some b => exact ⟨b, rfl⟩
      | none =>
          rcases List.mem_cons.mp member with same | member
          · cases same
            rw [found] at answered
            cases answered
          · exact ih (fun x member => answerable x (List.mem_cons_of_mem _ member)) member

end FirstAnswer

section Walk

variable {propose : Proposer}

def walkBehind (propose : Proposer) (v : Variable) (segments : List Segment) (offset : Nat)
    (remaining value : Text) : Except MatchError (Option (List Captured)) :=
  match remaining.stripPrefix? value with
  | none => .ok none
  | some after =>
    let stop := offset + Text.byteLength value
    (walk propose segments stop after).map (Option.map (⟨v, value, ⟨offset, stop⟩⟩ :: ·))

theorem walk_variable (v : Variable) (segments : List Segment) (offset : Nat) (remaining : Text) :
    walk propose (.variable v :: segments) offset remaining =
      match propose remaining v segments with
      | .error e => .error e
      | .ok capture =>
        firstAnswer (walkBehind propose v segments offset remaining) (Capture.values capture) := by
  rfl

theorem exists_of_walkBehind {v : Variable} {segments : List Segment} {offset : Nat}
    {remaining value : Text} {captured : List Captured}
    (walked : walkBehind propose v segments offset remaining value = .ok (some captured)) :
    ∃ after rest, remaining = value ++ after ∧
      walk propose segments (offset + Text.byteLength value) after = .ok (some rest) ∧
      captured = ⟨v, value, ⟨offset, offset + Text.byteLength value⟩⟩ :: rest := by
  rw [walkBehind] at walked
  split at walked
  · cases walked
  · rename_i after stripped
    rcases found : walk propose segments (offset + Text.byteLength value) after with
      e | _ | rest <;> simp only [found, Except.map] at walked <;> cases walked
    exact ⟨after, rest, Text.eq_append_of_stripPrefix? stripped, found, rfl⟩

theorem walkBehind_append (v : Variable) (segments : List Segment) (offset : Nat)
    (value after : Text) :
    walkBehind propose v segments offset (value ++ after) value =
      (walk propose segments (offset + Text.byteLength value) after).map
        (Option.map (⟨v, value, ⟨offset, offset + Text.byteLength value⟩⟩ :: ·)) := by
  rw [walkBehind, Text.stripPrefix?_append]

theorem walkBehind_ok {segments : List Segment}
    (walked : ∀ offset after, ∃ o, walk propose segments offset after = .ok o) (v : Variable)
    (offset : Nat) (remaining value : Text) :
    ∃ o, walkBehind propose v segments offset remaining value = .ok o := by
  rw [walkBehind]
  split
  · exact ⟨none, rfl⟩
  · rename_i after _
    obtain ⟨o, found⟩ := walked (offset + Text.byteLength value) after
    exact ⟨_, by simp only [found, Except.map]; rfl⟩

/-- What is proposed for a variable never contains an error. -/
def NeverFails (propose : Proposer) (v : Variable) : Prop :=
  ∀ remaining following, ∃ capture, propose remaining v following = .ok capture ∧
    ∀ x ∈ Capture.values capture, ∃ value, x = .ok value

theorem walk_ok {segments : List Segment}
    (served : ∀ v, .variable v ∈ segments → NeverFails propose v) (offset : Nat)
    (remaining : Text) : ∃ o, walk propose segments offset remaining = .ok o := by
  induction segments generalizing offset remaining with
  | nil => exact ⟨_, rfl⟩
  | cons segment segments ih =>
      have tail := ih fun v inside => served v (List.mem_cons_of_mem _ inside)
      rcases segment with literal | v
      · rw [walk]
        split
        · exact ⟨none, rfl⟩
        · exact tail _ _
      · obtain ⟨capture, proposed, values⟩ := served v List.mem_cons_self remaining segments
        rw [walk_variable, proposed]
        refine firstAnswer_ok fun x member => ?_
        obtain ⟨value, rfl⟩ := values x member
        obtain ⟨o, walked⟩ := walkBehind_ok tail v offset remaining value
        exact ⟨value, o, rfl, walked⟩

theorem exists_of_matchReadings {combinations : List Combination} {input : Text}
    {result : MatchResult}
    (matched : matchReadings propose input combinations = .ok (some result)) :
    ∃ c ∈ combinations, ∃ captured, walk propose c.segments 0 input = .ok (some captured) ∧
      result = .ofCaptured c captured := by
  fun_induction matchReadings propose input combinations with
  | case1 => cases matched
  | case2 => cases matched
  | case3 c cs captured walked =>
      cases matched
      exact ⟨c, List.mem_cons_self, captured, walked, rfl⟩
  | case4 c cs walked ih =>
      obtain ⟨d, member, found⟩ := ih matched
      exact ⟨d, List.mem_cons_of_mem _ member, found⟩

theorem matchReadings_ok {combinations : List Combination}
    (served : ∀ c ∈ combinations, ∀ v, .variable v ∈ c.segments → NeverFails propose v)
    (input : Text) : ∃ o, matchReadings propose input combinations = .ok o := by
  induction combinations with
  | nil => exact ⟨none, rfl⟩
  | cons c cs ih =>
      obtain ⟨o, walked⟩ := walk_ok (served c List.mem_cons_self) 0 input
      rw [matchReadings, walked]
      cases o with
      | some captured => exact ⟨_, rfl⟩
      | none => exact ih fun d member => served d (List.mem_cons_of_mem _ member)

theorem matchReadings_isSome {combinations : List Combination}
    (served : ∀ c ∈ combinations, ∀ v, .variable v ∈ c.segments → NeverFails propose v)
    {input : Text} {c : Combination} (member : c ∈ combinations) {captured : List Captured}
    (walked : walk propose c.segments 0 input = .ok (some captured)) :
    ∃ result, matchReadings propose input combinations = .ok (some result) := by
  induction combinations with
  | nil => cases member
  | cons d cs ih =>
      obtain ⟨o, walked'⟩ := walk_ok (served d List.mem_cons_self) 0 input
      rw [matchReadings, walked']
      cases o with
      | some captured => exact ⟨_, rfl⟩
      | none =>
          rcases List.mem_cons.mp member with rfl | member
          · rw [walked] at walked'
            cases walked'
          · exact ih (fun d member => served d (List.mem_cons_of_mem _ member)) member

end Walk

section Boundary

variable {validate : Text → Except MatchError Bool}

theorem of_mem_accepted {value : Text} {values : List Text}
    (member : .ok value ∈ accepted validate values) :
    value ∈ values ∧ validate value = .ok true := by
  fun_induction accepted validate values with
  | case1 => cases member
  | case2 => simp at member
  | case3 head values valid ih =>
      rcases List.mem_cons.mp member with same | member
      · cases same
        exact ⟨List.mem_cons_self, valid⟩
      · exact (ih member).imp_left (List.mem_cons_of_mem head)
  | case4 head values _ ih => exact (ih member).imp_left (List.mem_cons_of_mem head)

theorem mem_accepted (total : ∀ t, ∃ b, validate t = .ok b) {value : Text} {values : List Text}
    (member : value ∈ values) (valid : validate value = .ok true) :
    .ok value ∈ accepted validate values := by
  induction values with
  | nil => cases member
  | cons head values ih =>
      obtain ⟨b, answer⟩ := total head
      rcases List.mem_cons.mp member with rfl | member
      · simp [accepted, valid]
      · cases b <;> simp [accepted, answer, ih member]

theorem accepted_ok (total : ∀ t, ∃ b, validate t = .ok b) (values : List Text) :
    ∀ x ∈ accepted validate values, ∃ value, x = .ok value := by
  induction values with
  | nil => simp [accepted]
  | cons head values ih =>
      obtain ⟨b, answer⟩ := total head
      cases b <;> simpa [accepted, answer] using ih

def boundaryValues (remaining : Text) (following : List Segment) : List Text :=
  match followingText? following with
  | none => if remaining.isEmpty then [] else [remaining]
  | some literal => beginnings remaining (Text.findAllCaseless remaining literal)

theorem values_selectByBoundary {remaining : Text} {following : List Segment}
    {capture : Option Capture}
    (selected : selectByBoundary remaining following validate = .ok capture) :
    Capture.values capture = accepted validate (boundaryValues remaining following) := by
  cases next : followingText? following with
  | none =>
      simp only [selectByBoundary, boundaryValues, next] at selected ⊢
      by_cases empty : remaining.isEmpty
      · rw [if_pos empty] at selected ⊢
        cases selected
        rfl
      · rw [if_neg empty] at selected ⊢
        rcases answer : validate remaining with e | _ | _ <;> rw [answer] at selected <;>
          cases selected <;> simp [Capture.values, accepted, answer]
  | some literal =>
      simp only [selectByBoundary, boundaryValues, next] at selected ⊢
      by_cases absent : (Text.findAllCaseless remaining literal).isEmpty
      · rw [if_pos absent] at selected
        cases selected
        rw [List.isEmpty_iff.mp absent]
        rfl
      · rw [if_neg absent] at selected
        cases selected
        rfl

theorem selectByBoundary_ok (total : ∀ t, ∃ b, validate t = .ok b) (remaining : Text)
    (following : List Segment) :
    ∃ capture, selectByBoundary remaining following validate = .ok capture := by
  obtain ⟨b, answer⟩ := total remaining
  cases next : followingText? following with
  | none =>
      simp only [selectByBoundary, next, answer]
      by_cases empty : remaining.isEmpty
      · exact ⟨none, by rw [if_pos empty]⟩
      · cases b <;> exact ⟨_, by rw [if_neg empty]⟩
  | some literal =>
      simp only [selectByBoundary, next]
      by_cases absent : (Text.findAllCaseless remaining literal).isEmpty
      · exact ⟨none, by rw [if_pos absent]⟩
      · exact ⟨_, by rw [if_neg absent]⟩

theorem mem_boundaryValues_last {remaining value : Text} {following : List Segment}
    (last : followingText? following = none) :
    value ∈ boundaryValues remaining following ↔ value = remaining ∧ value ≠ [] := by
  simp only [boundaryValues, last]
  by_cases empty : remaining = []
  · simp [empty]
  · simp only [List.isEmpty_iff, if_neg empty, List.mem_singleton]
    exact ⟨fun same => ⟨same, same ▸ empty⟩, And.left⟩

theorem mem_boundaryValues {remaining value literal : Text} {following : List Segment}
    (next : followingText? following = some literal) :
    value ∈ boundaryValues remaining following ↔
      value ≠ [] ∧ (∃ rest, remaining = value ++ rest) ∧
        Text.byteLength value ∈ Text.findAllCaseless remaining literal := by
  simp only [boundaryValues, next]
  constructor
  · intro member
    obtain ⟨n, found, rfl⟩ := List.mem_map.mp member
    obtain ⟨found, positive⟩ := List.mem_filter.mp found
    rw [List.mem_reverse] at found
    obtain ⟨before, after, rfl, rfl, _⟩ := Text.occursAt_of_mem_findAllCaseless found
    rw [Text.takeBytes_byteLength_append]
    refine ⟨fun empty => ?_, ⟨after, rfl⟩, found⟩
    simp [empty, Text.byteLength] at positive
  · rintro ⟨nonempty, ⟨rest, rfl⟩, found⟩
    refine List.mem_map.mpr ⟨Text.byteLength value, List.mem_filter.mpr ⟨?_, ?_⟩, ?_⟩
    · exact List.mem_reverse.mpr found
    · simpa [Text.byteLength_eq_zero_iff] using nonempty
    · exact Text.takeBytes_byteLength_append value rest

end Boundary

end NoteTemplate
