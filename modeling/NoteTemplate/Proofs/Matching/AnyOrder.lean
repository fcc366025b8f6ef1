import Mathlib
import NoteTemplate.Proofs.Matching.Covering
import NoteTemplate.Proofs.Matching.Faults

/-!
Keys with values in any order. Each branch is a key, a variable and a literal that ends every
branch. As long as no value has a letter of these literals, an input can be read in one order of the
branches only, so every value is found under its name in whatever order the branches are written.
-/
namespace NoteTemplate

structure KeyValue where
  key : Text
  name : Text
  inputType : InputType
  value : Text
  deriving DecidableEq, Repr

namespace KeyValue

def slot (e : KeyValue) : Variable := .plain (some e.name) e.inputType

def branch (stop : Text) (e : KeyValue) : Pattern :=
  [.text e.key, .variable e.slot, .text stop]

def reading (stop : Text) (e : KeyValue) : Reading :=
  [.text e.key, .variable e.slot, .text stop]

def written (stop : Text) (e : KeyValue) : Text := e.key ++ (e.value ++ stop)

def choice (e : KeyValue) : Variable × Text := (e.slot, e.value)

def anyOrder (stop : Text) (entries : List KeyValue) : Pattern :=
  [.anyOrder (entries.map (branch stop))]

/-- Keys that differ up to letter case, distinct names, and values that the built-in types accept
and that have no letter of a key or of the ending. -/
structure Separable (stop : Text) (entries : List KeyValue) : Prop where
  stop_ne_nil : stop ≠ []
  keys : entries.Pairwise fun e f => ¬ Text.SameLetters e.key f.key
  names : (entries.map name).Nodup
  value_ne_nil : ∀ e ∈ entries, e.value ≠ []
  accepted : ∀ e ∈ entries, ∃ accepts,
    builtinMatcher? e.inputType = some (.boundary accepts) ∧ accepts e.value = true
  foreign : ∀ e ∈ entries, ∀ x ∈ e.value,
    (∀ y ∈ stop, sameLetter x y = false) ∧ ∀ f ∈ entries, ∀ y ∈ f.key, sameLetter x y = false

variable {stop : Text} {entries order order' : List KeyValue}

section Readings

theorem readings_branch (stop : Text) (e : KeyValue) :
    Pattern.readings (branch stop e) = [e.reading stop] := by
  simp [branch, reading, Pattern.readings, Token.readings, cross]

theorem tuples_branchReadings (stop : Text) (entries : List KeyValue) :
    tuples (Pattern.branchReadings (entries.map (branch stop))) =
      [entries.map (reading stop)] := by
  induction entries with
  | nil => rfl
  | cons e entries ih =>
      rw [List.map_cons, Pattern.branchReadings, readings_branch, tuples, ih]
      rfl

theorem mem_readings_anyOrder_iff {r : Reading} :
    r ∈ Pattern.readings (anyOrder stop entries) ↔
      ∃ order, entries.Perm order ∧ order.flatMap (reading stop) = r := by
  have whole : Pattern.readings (anyOrder stop entries) =
      (arrangements entries.length (entries.map (reading stop))).map List.flatten := by
    simp [anyOrder, Pattern.readings, Token.readings, tuples_branchReadings, cross]
  have orders (rs : List Reading) : rs ∈ arrangements entries.length (entries.map (reading stop)) ↔
      (entries.map (reading stop)).Perm rs := by
    rw [← mem_arrangements_iff, List.length_map]
  rw [whole, List.mem_map]
  simp only [orders]
  constructor
  · rintro ⟨rs, rearranged, rfl⟩
    have image : Relation.Comp (· = List.map (reading stop) ·) List.Perm rs entries := by
      rw [List.eq_map_comp_perm]
      exact rearranged.symm
    obtain ⟨order, rfl, perm⟩ := image
    exact ⟨order, perm.symm, List.flatMap_def⟩
  · rintro ⟨order, perm, rfl⟩
    exact ⟨order.map (reading stop), perm.map _, List.flatMap_def.symm⟩

theorem hasAdjacentVariables_order (nonempty : stop ≠ []) (order : List KeyValue) :
    (Reading.simplify (order.flatMap (reading stop))).hasAdjacentVariables = false := by
  induction order with
  | nil => rfl
  | cons e order ih =>
      obtain ⟨literal, rest, joined, same⟩ :=
        Reading.exists_consSegment_text nonempty (Reading.simplify (order.flatMap (reading stop)))
      have unfolded : Reading.simplify ((e :: order).flatMap (reading stop)) =
          Reading.consSegment (.text e.key) (.variable e.slot :: .text literal :: rest) := by
        rw [← joined]
        rfl
      rw [unfolded]
      cases key : e.key with
      | nil => exact same.trans ih
      | cons c key => exact same.trans ih

theorem mem_expand_order (nonempty : stop ≠ []) (rearranged : entries.Perm order) :
    .ofSegments (order.flatMap (reading stop)) ∈ expand (anyOrder stop entries) := by
  have listed : order.flatMap (reading stop) ∈ Pattern.readings (anyOrder stop entries) :=
    mem_readings_anyOrder_iff.mpr ⟨order, rearranged, rfl⟩
  exact mem_expand_iff.mpr ⟨⟨_, listed, rfl⟩, hasAdjacentVariables_order nonempty order⟩

end Readings

section Covered

theorem Separable.validator_eq (separable : Separable stop entries) {e : KeyValue}
    (member : e ∈ entries) : Registry.builtin.validator e.slot e.value = .ok true := by
  obtain ⟨accepts, known, accepted⟩ := separable.accepted e member
  simp only [Registry.validator, slot, Variable.plain, Registry.find?_builtin, known, accepted]

theorem Separable.covers (separable : Separable stop entries) (within : order ⊆ entries) :
    Registry.builtin.Covers (order.flatMap (reading stop)) (order.map choice)
      (order.flatMap (written stop)) := by
  induction order with
  | nil => exact .nil
  | cons e order ih =>
      obtain ⟨member, within⟩ := List.cons_subset.mp within
      have value := separable.value_ne_nil e member
      have one : Registry.builtin.Covers (e.reading stop) [e.choice] (e.written stop) := by
        have ending : Registry.builtin.Covers [.text stop] [] (stop ++ []) :=
          .literal (Text.SameLetters.refl stop) .nil
        rw [List.append_nil] at ending
        exact .literal (Text.SameLetters.refl e.key)
          (.value value (separable.validator_eq member) ending)
      exact one.append (ih within)

end Covered

section Unique

def letter (stop : Text) (entries : List KeyValue) (x : Char) : Bool :=
  Reading.hasLetter (entries.flatMap (reading stop)) x

theorem letter_of_literal {e : KeyValue} (member : e ∈ entries) {literal : Text}
    (used : .text literal ∈ e.reading stop) {x y : Char} (inside : y ∈ literal)
    (same : sameLetter x y = true) : letter stop entries x = true :=
  Reading.lettersIn_hasLetter _ literal (List.mem_flatMap.mpr ⟨e, member, used⟩) x y inside same

theorem lettersIn_order (rearranged : entries.Perm order) :
    Reading.LettersIn (letter stop entries) (order.flatMap (reading stop)) := by
  intro literal member
  apply Reading.lettersIn_hasLetter
  exact (rearranged.flatMap_right _).mem_iff.mpr member

theorem Separable.letter_eq_false (separable : Separable stop entries) {e : KeyValue}
    (member : e ∈ entries) : ∀ x ∈ e.value, letter stop entries x = false := by
  intro x inside
  apply Reading.hasLetter_eq_false
  intro literal used y mentioned
  obtain ⟨stops, keys⟩ := separable.foreign e member x inside
  obtain ⟨f, other, used⟩ := List.mem_flatMap.mp used
  have which : literal = f.key ∨ literal = stop := by simpa [reading] using used
  rcases which with rfl | rfl
  · exact keys f other y mentioned
  · exact stops y mentioned

theorem literalLength_order (rearranged : entries.Perm order) :
    Reading.literalLength (order.flatMap (reading stop)) =
      Reading.literalLength (entries.flatMap (reading stop)) := by
  induction rearranged with
  | nil => rfl
  | cons e _ ih => simp only [List.flatMap_cons, Reading.literalLength_append, ih]
  | swap e f entries =>
      simp only [List.flatMap_cons, Reading.literalLength_append]
      omega
  | trans _ _ first second => rw [second, first]

theorem Separable.foreign_order (separable : Separable stop entries) (within : order ⊆ entries) :
    ∀ x ∈ ((order.map choice).map Prod.snd).flatten, letter stop entries x = false := by
  intro x member
  obtain ⟨value, chosen, inside⟩ := List.mem_flatten.mp member
  obtain ⟨e, ordered, rfl⟩ : ∃ e ∈ order, e.value = value := by
    simpa [choice] using chosen
  exact separable.letter_eq_false (within ordered) x inside

/-- However the branches are laid over the written entries, their values have no letters: the
literals of the branches need all there are. -/
theorem Separable.values_foreign (separable : Separable stop entries)
    (rearranged : entries.Perm order) (rearranged' : entries.Perm order')
    {chosen : List (Variable × Text)}
    (covers : Registry.builtin.Covers (order'.flatMap (reading stop)) chosen
      (order.flatMap (written stop))) :
    ∀ x ∈ (chosen.map Prod.snd).flatten, letter stop entries x = false := by
  have within := rearranged.symm.subset
  have none : ((chosen.map Prod.snd).flatten).countP (letter stop entries) = 0 := by
    -- the letters of the written text, counted along either order of the branches
    apply Nat.add_left_cancel (n := Reading.literalLength (order.flatMap (reading stop)))
    calc
      _ = Reading.literalLength (order'.flatMap (reading stop)) +
          ((chosen.map Prod.snd).flatten).countP (letter stop entries) := by
        rw [literalLength_order rearranged, literalLength_order rearranged']
      _ = (order.flatMap (written stop)).countP (letter stop entries) :=
        (covers.countP_eq (lettersIn_order rearranged')).symm
      _ = Reading.literalLength (order.flatMap (reading stop)) +
          (((order.map choice).map Prod.snd).flatten).countP (letter stop entries) :=
        (separable.covers within).countP_eq (lettersIn_order rearranged)
      _ = Reading.literalLength (order.flatMap (reading stop)) + 0 := by
        rw [List.countP_eq_zero.mpr]
        intro x member
        simp [separable.foreign_order within x member]
  exact fun x member => eq_false_of_ne_true (List.countP_eq_zero.mp none x member)

theorem letter_of_ending {e : KeyValue} (member : e ∈ entries) (nonempty : stop ≠ [])
    {ending rest t : Text} (same : Text.SameLetters ending stop) {x : Char}
    (starts : ending ++ rest = x :: t) : letter stop entries x = true := by
  cases same with
  | nil => exact absurd rfl nonempty
  | @cons _ y _ stop equal _ =>
      injection starts with first _
      subst first
      have used : .text (y :: stop) ∈ e.reading (y :: stop) := by simp [reading]
      exact letter_of_literal member used List.mem_cons_self equal

theorem not_letter_of_value {value rest t : Text} (nonempty : value ≠ [])
    (foreign : ∀ x ∈ value, letter stop entries x = false) {x : Char}
    (starts : value ++ rest = x :: t) : letter stop entries x = false := by
  obtain ⟨c, value, rfl⟩ := List.exists_cons_of_ne_nil nonempty
  injection starts with first _
  exact first ▸ foreign c List.mem_cons_self

theorem Separable.key_eq (separable : Separable stop entries) {e f : KeyValue}
    (member : e ∈ entries) (other : f ∈ entries) (same : Text.SameLetters e.key f.key) : e = f := by
  by_contra different
  have apart : Std.Symm fun e f : KeyValue => ¬ Text.SameLetters e.key f.key :=
    ⟨fun _ _ differ same => differ same.symm⟩
  exact separable.keys.forall member other different same

/-- An entry laid over the front of the text is the entry written there: its key has letters only,
up to the value, and its value has none, up to the ending. -/
theorem Separable.entry_eq (separable : Separable stop entries) {e f : KeyValue}
    (member : e ∈ entries) (other : f ∈ entries) {key value ending rest rest' : Text}
    (sameKey : Text.SameLetters key f.key) (nonempty : value ≠ [])
    (foreign : ∀ x ∈ value, letter stop entries x = false)
    (sameStop : Text.SameLetters ending stop)
    (whole : e.written stop ++ rest = key ++ (value ++ (ending ++ rest'))) :
    e = f ∧ e.value = value ∧ rest = rest' := by
  have own := separable.letter_eq_false member
  rw [written, List.append_assoc, List.append_assoc] at whole
  have keyOnly : ∀ x ∈ e.key, (!letter stop entries x) = false := by
    intro x inside
    have inKey : letter stop entries x = true :=
      letter_of_literal member (by simp [reading]) inside (sameLetter_refl x)
    simp [inKey]
  have keyOnly' : ∀ x ∈ key, (!letter stop entries x) = false := by
    intro x inside
    obtain ⟨y, mentioned, same⟩ := sameKey.exists_of_mem inside
    have inKey : letter stop entries x = true :=
      letter_of_literal other (by simp [reading]) mentioned same
    simp [inKey]
  -- both keys go on up to the first character that is in no literal, both values from there to the
  -- next one that is
  obtain ⟨keys, behind⟩ := append_inj_of_foreign keyOnly keyOnly'
    (fun x t starts => by simp [not_letter_of_value (separable.value_ne_nil e member) own starts])
    (fun x t starts => by simp [not_letter_of_value nonempty foreign starts]) whole
  subst keys
  obtain ⟨values, endings⟩ := append_inj_of_foreign own foreign
    (fun x t => letter_of_ending member separable.stop_ne_nil (Text.SameLetters.refl stop))
    (fun x t => letter_of_ending member separable.stop_ne_nil sameStop) behind
  have rests := (List.append_inj endings sameStop.length_eq.symm).2
  exact ⟨separable.key_eq member other sameKey, values, rests⟩

theorem exists_of_covers_cons {e : KeyValue} {chosen : List (Variable × Text)} {s : Text}
    (covers : Registry.builtin.Covers ((e :: order).flatMap (reading stop)) chosen s) :
    ∃ key value ending rest chosen', s = key ++ (value ++ (ending ++ rest)) ∧
      chosen = (e.slot, value) :: chosen' ∧ Text.SameLetters key e.key ∧ value ≠ [] ∧
      Text.SameLetters ending stop ∧
      Registry.builtin.Covers (order.flatMap (reading stop)) chosen' rest := by
  rw [List.flatMap_cons, reading] at covers
  cases covers with
  | literal sameKey covers =>
      cases covers with
      | value nonempty valid covers =>
          cases covers with
          | literal sameStop covers =>
              exact ⟨_, _, _, _, _, rfl, rfl, sameKey, nonempty, sameStop, covers⟩

theorem Separable.chosen_eq (separable : Separable stop entries) (within : order ⊆ entries)
    (within' : order' ⊆ entries) {chosen : List (Variable × Text)}
    (foreign : ∀ x ∈ (chosen.map Prod.snd).flatten, letter stop entries x = false)
    (covers : Registry.builtin.Covers (order'.flatMap (reading stop)) chosen
      (order.flatMap (written stop))) :
    chosen = order.map choice := by
  induction order generalizing order' chosen with
  | nil =>
      cases order' with
      | nil =>
          cases covers
          rfl
      | cons f order' =>
          obtain ⟨key, value, ending, rest, _, empty, _, _, nonempty, _⟩ :=
            exists_of_covers_cons covers
          have none : key = [] ∧ value = [] ∧ ending = [] ∧ rest = [] := by simpa using empty
          exact absurd none.2.1 nonempty
  | cons e order ih =>
      obtain ⟨member, within⟩ := List.cons_subset.mp within
      cases order' with
      | nil =>
          have empty : (e :: order).flatMap (written stop) = [] := by
            generalize (e :: order).flatMap (written stop) = s at covers
            cases covers
            rfl
          have none : e.value = [] := by
            simp only [List.flatMap_cons, written, List.append_eq_nil_iff] at empty
            exact empty.1.2.1
          exact absurd none (separable.value_ne_nil e member)
      | cons f order' =>
          obtain ⟨other, others⟩ := List.cons_subset.mp within'
          obtain ⟨key, value, ending, rest, chosen, whole, rfl, sameKey, nonempty, sameStop,
            covers⟩ := exists_of_covers_cons covers
          have own : ∀ x ∈ value, letter stop entries x = false :=
            fun x inside => foreign x (by simp [inside])
          have later : ∀ x ∈ (chosen.map Prod.snd).flatten, letter stop entries x = false :=
            fun x inside => foreign x (List.mem_append_right value inside)
          rw [List.flatMap_cons] at whole
          obtain ⟨rfl, rfl, rfl⟩ :=
            separable.entry_eq member other sameKey nonempty own sameStop whole
          rw [ih within others later covers]
          rfl

end Unique

section Result

theorem variables_anyOrder (stop : Text) (entries : List KeyValue) :
    Pattern.variables (anyOrder stop entries) = entries.map slot := by
  have branches : Pattern.branchVariables (entries.map (branch stop)) = entries.map slot := by
    induction entries with
    | nil => rfl
    | cons e entries ih =>
        rw [List.map_cons, Pattern.branchVariables, ih]
        simp [branch, slot, Variable.plain, Pattern.variables, Token.variables,
          Variable.nestedVariables]
  simp [anyOrder, Pattern.variables, Token.variables, branches]

theorem Separable.validate_eq_ok (separable : Separable stop entries) :
    Registry.builtin.validate (anyOrder stop entries) = .ok () := by
  apply Registry.validate_eq_ok_iff.mpr
  intro v member
  rw [variables_anyOrder] at member
  obtain ⟨e, listed, rfl⟩ := List.mem_map.mp member
  obtain ⟨accepts, known, _⟩ := separable.accepted e listed
  apply Registry.faultOf?_eq_none_iff.mpr
  intro error fault
  cases fault with
  | unregistered missing =>
      rw [Registry.find?_builtin] at missing
      exact Option.some_ne_none _ (known.symm.trans missing)
  | unnested found nested absent =>
      have plain : e.inputType = .match := nested
      rw [plain] at known
      cases known

theorem Separable.exists_result (separable : Separable stop entries)
    (rearranged : entries.Perm order) :
    ∃ result, matchPattern (order.flatMap (written stop)) (anyOrder stop entries)
      Registry.builtin = .ok (some result) := by
  have covers := separable.covers rearranged.symm.subset
  apply exists_matchPattern_of_covers Registry.boundaryServed_builtin separable.validate_eq_ok
    (mem_expand_order separable.stop_ne_nil rearranged) (lettersIn_order rearranged).simplify
    (Registry.covers_simplify_iff.mpr covers)
  exact separable.foreign_order rearranged.symm.subset

theorem Separable.captured_eq (separable : Separable stop entries)
    (rearranged : entries.Perm order) {result : MatchResult}
    (matched : matchPattern (order.flatMap (written stop)) (anyOrder stop entries)
      Registry.builtin = .ok (some result)) :
    ∃ c captured, result = .ofCaptured c captured ∧
      captured.map Captured.choice = order.map choice := by
  obtain ⟨c, member, captured, rfl, covers⟩ :=
    exists_covers_of_matchPattern Registry.boundaryServed_builtin matched
  obtain ⟨⟨r, listed, rfl⟩, _⟩ := mem_expand_iff.mp member
  obtain ⟨order', rearranged', rfl⟩ := mem_readings_anyOrder_iff.mp listed
  have covers := Registry.covers_simplify_iff.mp covers
  have foreign := separable.values_foreign rearranged rearranged' covers
  have chosen := separable.chosen_eq rearranged.symm.subset rearranged'.symm.subset foreign covers
  exact ⟨_, captured, rfl, chosen⟩

def field (e : KeyValue) : Field := .once e.slot e.value

theorem Separable.fields_eq (separable : Separable stop entries)
    (rearranged : entries.Perm order) (c : Combination) {captured : List Captured}
    (chosen : captured.map Captured.choice = order.map choice) :
    (MatchResult.ofCaptured c captured).fields = order.map field := by
  have slots : captured.map (·.slot) = order.map slot := by
    simpa [Captured.choice, choice, Function.comp_def] using congrArg (List.map Prod.fst) chosen
  have fields : captured.map (fun x => Field.once x.slot x.value) = order.map field := by
    have mapped := congrArg (List.map fun x => Field.once x.1 x.2) chosen
    rw [List.map_map, List.map_map] at mapped
    exact mapped
  have kept : ∀ x ∈ captured, x.slot.isCaptured = true := by
    intro x member
    have listed : x.slot ∈ order.map slot := slots ▸ List.mem_map_of_mem member
    obtain ⟨e, _, same⟩ := List.mem_map.mp listed
    rw [← same]
    rfl
  have distinct : (captured.map (·.slot.name)).Nodup := by
    have names : captured.map (·.slot.name) = (order.map name).map some := by
      simpa [slot, Variable.plain, Function.comp_def] using congrArg (List.map Variable.name) slots
    rw [names]
    exact ((rearranged.map name).nodup_iff.mp separable.names).map (Option.some_injective _)
  rw [fields_ofCaptured_of_nodup c kept distinct, fields]

theorem find?_field (distinct : (order.map name).Nodup) {e : KeyValue} (member : e ∈ order) :
    (order.map field).find? (·.name = some e.name) = some e.field := by
  induction order with
  | nil => cases member
  | cons f order ih =>
      rw [List.map_cons, List.nodup_cons] at distinct
      rw [List.map_cons]
      rcases List.mem_cons.mp member with rfl | member
      · exact List.find?_cons_of_pos (by simp [field, Field.once, slot, Variable.plain])
      · have other : f.name ≠ e.name :=
          fun same => distinct.1 (same ▸ List.mem_map_of_mem member)
        rw [List.find?_cons_of_neg (by simpa [field, Field.once, slot, Variable.plain] using other)]
        exact ih distinct.2 member

end Result

/-- Keys with values are extracted whatever the order is that they are written in: there is a field
for every entry and no other, and it holds the value of this entry. -/
theorem matchPattern_anyOrder (separable : Separable stop entries)
    (rearranged : entries.Perm order) :
    ∃ result, matchPattern (order.flatMap (written stop)) (anyOrder stop entries)
        Registry.builtin = .ok (some result) ∧
      result.fields = order.map field ∧ result.fields.length = entries.length ∧
      ∀ e ∈ entries, result.value? e.name = some (.single e.value) := by
  obtain ⟨result, matched⟩ := separable.exists_result rearranged
  obtain ⟨c, captured, rfl, chosen⟩ := separable.captured_eq rearranged matched
  have fields := separable.fields_eq rearranged c chosen
  refine ⟨_, matched, fields, ?_, ?_⟩
  · rw [fields, List.length_map, rearranged.length_eq]
  · intro e member
    have distinct := (rearranged.map name).nodup_iff.mp separable.names
    rw [MatchResult.value?, MatchResult.field?, fields,
      find?_field distinct (rearranged.subset member)]
    rfl

theorem matchPattern_anyOrder_words :
    let a : KeyValue := ⟨"a=".toList, "a".toList, .word, "1".toList⟩
    let b : KeyValue := ⟨"b=".toList, "b".toList, .word, "2".toList⟩
    let c : KeyValue := ⟨"c=".toList, "c".toList, .number, "3".toList⟩
    Separable ";".toList [a, b, c] ∧ [a, b, c].Perm [c, a, b] ∧
      ∃ result, matchPattern "c=3;a=1;b=2;".toList (anyOrder ";".toList [a, b, c])
          Registry.builtin = .ok (some result) ∧
        result.fields.length = 3 ∧
        result.value? "a".toList = some (.single "1".toList) ∧
        result.value? "b".toList = some (.single "2".toList) ∧
        result.value? "c".toList = some (.single "3".toList) := by
  intro a b c
  have separable : Separable ";".toList [a, b, c] := {
    stop_ne_nil := by decide
    keys := by
      have differ : ¬ sameLetter 'a' 'b' ∧ ¬ sameLetter 'a' 'c' ∧ ¬ sameLetter 'b' 'c' := by decide
      simp [a, b, c, Text.SameLetters, differ]
    names := by decide
    value_ne_nil := by decide
    accepted := by
      intro e member
      simp only [List.mem_cons, List.not_mem_nil, or_false] at member
      rcases member with rfl | rfl | rfl
      · exact ⟨_, rfl, by cbv⟩
      · exact ⟨_, rfl, by cbv⟩
      · exact ⟨_, rfl, by cbv⟩
    foreign := by
      have apart : ([a, b, c].all fun e => e.value.all fun x =>
          (";".toList.all fun y => !sameLetter x y) &&
            [a, b, c].all fun f => f.key.all fun y => !sameLetter x y) = true := by cbv
      simpa only [List.all_eq_true, Bool.and_eq_true, Bool.not_eq_true'] using apart }
  have rearranged : [a, b, c].Perm [c, a, b] := by decide
  obtain ⟨result, matched, _, count, values⟩ := matchPattern_anyOrder separable rearranged
  exact ⟨separable, rearranged, result, matched, count, values a (by simp), values b (by simp),
    values c (by simp)⟩

end KeyValue

end NoteTemplate
