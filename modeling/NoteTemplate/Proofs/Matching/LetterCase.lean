import Mathlib
import NoteTemplate.Proofs.Matching.Recasing

namespace NoteTemplate

section Template

theorem Text.CutsAt.eq {s : Text} {n n' : Nat} (cuts : CutsAt .identity s s n n') : n = n' := by
  obtain ⟨front, front', ⟨_, _, _, _, fronts, _⟩, rfl, rfl⟩ := cuts
  rw [recased_identity_iff.mp fronts]

theorem Span.Alike.eq {s : Text} {a b : Span} (alike : Span.Alike .identity s s a b) : a = b := by
  obtain ⟨start, stop⟩ := a
  obtain ⟨start', stop'⟩ := b
  cases alike.start.eq
  cases alike.stop.eq
  rfl

theorem FieldValue.Recased.eq {v w : FieldValue} (recased : FieldValue.Recased .identity v w) :
    v = w := by
  cases recased with
  | single letters => rw [Text.recased_identity_iff.mp letters]
  | list each =>
      have same : List.Forall₂ Eq _ _ := each.imp fun _ _ => Text.recased_identity_iff.mp
      rw [List.forall₂_eq_eq_eq] at same
      rw [same]

theorem Field.Recased.eq {f g : Field} (recased : Field.Recased .identity f g) : f = g := by
  obtain ⟨name, inputType, value⟩ := f
  obtain ⟨name', inputType', value'⟩ := g
  cases recased.name
  cases recased.inputType
  cases recased.value.eq
  rfl

/-- The letter case of literals, at any depth, is of no account: a pattern answers as before, with
the same fields in the same places. The two combinations differ in nothing but letter case. -/
theorem matchPattern_recased_template {r : Registry} (served : r.BoundaryServed) {p q : Pattern}
    (recased : Pattern.Recased .full p q) (s : Text) :
    AnswersAlike (fun a b => a.fields = b.fields ∧ a.spans = b.spans ∧
        Combination.Recased .full a.combination b.combination)
      (matchPattern s p r) (matchPattern s q r) := by
  have alike := Registry.matchPattern_alike served (r.respects_identity p) recased
    (Text.recased_identity_iff.mpr (Eq.refl s))
  refine alike.imp fun a b results => ⟨?_, ?_, results.combination⟩
  · have same : List.Forall₂ Eq a.fields b.fields := results.fields.imp fun _ _ => Field.Recased.eq
    rwa [List.forall₂_eq_eq_eq] at same
  · have same : List.Forall₂ Eq a.spans b.spans := results.spans.imp fun _ _ => Span.Alike.eq
    rwa [List.forall₂_eq_eq_eq] at same

theorem matchPattern_recased_template_kelvin :
    let size (unit : Text) : Pattern := [.variable (.plain none .word), .text unit]
    let p : Pattern := [.variational [[.text "at ".toList], [.text "at ".toList]],
      .variable (.nested (some "size".toList) (size "m".toList)), .text "/k".toList]
    let q : Pattern := [.variational [[.text "at ".toList], [.text "AT ".toList]],
      .variable (.nested (some "size".toList) (size "M".toList)), .text "/\u212A".toList]
    let result : MatchResult := ⟨[⟨some "size".toList, .match, .single "5m".toList⟩],
      ⟨[.text "at ".toList, .variable (.nested (some "size".toList) (size "m".toList)),
        .text "/k".toList], 13⟩, [⟨3, 5⟩]⟩
    Registry.builtin.BoundaryServed ∧ Pattern.Recased .full p q ∧ (expand p).length = 1 ∧
      (expand q).length = 2 ∧ matchPattern "At 5m/k".toList p Registry.builtin = .ok (some result) ∧
      ∃ result', matchPattern "At 5m/k".toList q Registry.builtin = .ok (some result') ∧
        result.fields = result'.fields ∧ result.spans = result'.spans ∧
        Combination.Recased .full result.combination result'.combination := by
  intro size p q result
  have recased : Pattern.Recased .full p q := by
    refine .cons (.variational (.cons (.cons (.text ?_) .nil) (.cons (.cons (.text ?_) .nil) .nil)))
      (.cons (.variable (.nested _ _ (.cons (.variable (.plain _ _)) (.cons (.text ?_) .nil))))
        (.cons (.text ?_) .nil))
    · exact Text.SameLetters.refl _
    · exact (by decide : Text.SameLetters "at ".toList "AT ".toList)
    · exact (by decide : Text.SameLetters "m".toList "M".toList)
    · exact (by decide : Text.SameLetters "/k".toList "/\u212A".toList)
  have matched : matchPattern "At 5m/k".toList p Registry.builtin = .ok (some result) := by cbv
  have served := Registry.boundaryServed_builtin
  have alike := matchPattern_recased_template served recased "At 5m/k".toList
  rw [matched] at alike
  exact ⟨served, recased, by cbv, by cbv, matched, alike.exists_matched⟩

end Template

section Input

def Text.charsBefore? (t : Text) (n : Nat) : Option Nat :=
  (splitAtByte? n t).map fun cut => cut.1.length

def Text.charSpan? (t : Text) (span : Span) : Option (Nat × Nat) :=
  (t.charsBefore? span.start).bind fun start =>
    (t.charsBefore? span.stop).map fun stop => (start, stop)

/-- Matches of one pattern in two texts by the same reading, with the same fields up to letter case
and with the same spans when characters are counted. -/
structure MatchResult.SameButLetters (s s' : Text) (a b : MatchResult) : Prop where
  combination : a.combination = b.combination
  fields : List.Forall₂ (Field.Recased .full) a.fields b.fields
  spans : ∃ places : List (Nat × Nat), a.spans.map s.charSpan? = places.map some ∧
    b.spans.map s'.charSpan? = places.map some

variable {e : Recasing} {s s' : Text}

theorem Text.CutsAt.exists_charsBefore? {n n' : Nat} (cuts : CutsAt e s s' n n') :
    ∃ k, s.charsBefore? n = some k ∧ s'.charsBefore? n' = some k := by
  obtain ⟨front, front', ⟨back, back', rfl, rfl, fronts, _⟩, rfl, rfl⟩ := cuts
  refine ⟨front.length, ?_, ?_⟩
  · rw [charsBefore?, splitAtByte?_byteLength_append]
    rfl
  · rw [charsBefore?, splitAtByte?_byteLength_append, fronts.length_eq]
    rfl

theorem Span.Alike.exists_charSpan? {a b : Span} (alike : Span.Alike e s s' a b) :
    ∃ place, s.charSpan? a = some place ∧ s'.charSpan? b = some place := by
  obtain ⟨start, first, first'⟩ := alike.start.exists_charsBefore?
  obtain ⟨stop, last, last'⟩ := alike.stop.exists_charsBefore?
  refine ⟨(start, stop), ?_, ?_⟩
  · rw [Text.charSpan?, first, last]
    rfl
  · rw [Text.charSpan?, first', last']
    rfl

theorem exists_places {spans spans' : List Span}
    (alike : List.Forall₂ (Span.Alike e s s') spans spans') :
    ∃ places : List (Nat × Nat), spans.map s.charSpan? = places.map some ∧
      spans'.map s'.charSpan? = places.map some := by
  induction alike with
  | nil => exact ⟨[], rfl, rfl⟩
  | cons head _ ih =>
      obtain ⟨place, here, here'⟩ := head.exists_charSpan?
      obtain ⟨places, there, there'⟩ := ih
      exact ⟨place :: places, congrArg₂ List.cons here there, congrArg₂ List.cons here' there'⟩

def InputType.caseless : List InputType := [.text, .word, .database, .match]

theorem Registry.respects_builtin {p : Pattern}
    (caseless : ∀ v ∈ Pattern.variables p, v.inputType ∈ InputType.caseless) :
    Registry.builtin.Respects .full p := by
  intro v member accepts found t t' letters
  have known := caseless v member
  rw [Registry.find?_builtin] at found
  simp only [InputType.caseless, List.mem_cons, List.not_mem_nil, or_false] at known
  rcases known with type | type | type | type <;> rw [type] at found <;> cases found
  · rfl
  · exact letters.isWord_eq
  · exact letters.isWord_eq

/-- For free text, words and nested patterns of these the letter case of an input shows in the
captured values only: an input in another case is matched as well, by the same reading and at the
same characters. -/
theorem matchPattern_recased_input {p : Pattern}
    (caseless : ∀ v ∈ Pattern.variables p, v.inputType ∈ InputType.caseless)
    (letters : Text.SameLetters s s') :
    AnswersAlike (MatchResult.SameButLetters s s') (matchPattern s p Registry.builtin)
      (matchPattern s' p Registry.builtin) := by
  have alike := Registry.matchPattern_alike (l := .identity) (e := .full)
    Registry.boundaryServed_builtin (Registry.respects_builtin caseless) (Pattern.Recased.refl p)
    letters
  exact alike.imp fun a b results =>
    ⟨results.combination.eq, results.fields, exists_places results.spans⟩

theorem matchPattern_recased_input_kelvin :
    let rest : Pattern := [.variable (.plain (some "word".toList) .word), .text "b".toList]
    let p : Pattern := [.variable (.plain (some "unit".toList) .database), .text "k:".toList,
      .variable (.nested (some "rest".toList) rest)]
    let result : MatchResult := ⟨[⟨some "unit".toList, .database, .single "km".toList⟩,
      ⟨some "rest".toList, .match, .single "ab".toList⟩],
      ⟨[.variable (.plain (some "unit".toList) .database), .text "k:".toList,
        .variable (.nested (some "rest".toList) rest)], 9⟩, [⟨0, 2⟩, ⟨4, 6⟩]⟩
    (∀ v ∈ Pattern.variables p, v.inputType ∈ InputType.caseless) ∧
      Text.SameLetters "kmk:ab".toList "\u212AMk:aB".toList ∧
      matchPattern "kmk:ab".toList p Registry.builtin = .ok (some result) ∧
      ∃ result', matchPattern "\u212AMk:aB".toList p Registry.builtin = .ok (some result') ∧
        MatchResult.SameButLetters "kmk:ab".toList "\u212AMk:aB".toList result result' := by
  intro rest p result
  have caseless : ∀ v ∈ Pattern.variables p, v.inputType ∈ InputType.caseless := by
    simp [p, rest, Pattern.variables, Token.variables, Variable.nestedVariables, Variable.plain,
      Variable.nested, InputType.caseless]
  have letters : Text.SameLetters "kmk:ab".toList "\u212AMk:aB".toList := by decide
  have matched : matchPattern "kmk:ab".toList p Registry.builtin = .ok (some result) := by cbv
  have alike := matchPattern_recased_input caseless letters
  rw [matched] at alike
  exact ⟨caseless, letters, matched, alike.exists_matched⟩

end Input

end NoteTemplate
