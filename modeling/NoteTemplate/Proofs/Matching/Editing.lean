import Mathlib
import NoteTemplate.Proofs.Expansion.Editing
import NoteTemplate.Proofs.Matching.Language

namespace NoteTemplate

section Layouts

variable {R : Variable → Variable → Prop} {r r' : Registry} {segments segments' : Reading}
  {pieces : List Text} {s : Text}

theorem followingText?_eq_of_related (related : Reading.Related R segments segments') :
    followingText? segments = followingText? segments' := by
  cases related with
  | nil => rfl
  | cons head _ => rcases head with literal | slot <;> rfl

theorem BoundariesFound.related (found : BoundariesFound segments pieces)
    (related : Reading.Related R segments segments') : BoundariesFound segments' pieces := by
  induction related generalizing pieces with
  | nil => exact found
  | cons head tail ih =>
      cases pieces with
      | nil => rcases head with literal | slot <;> trivial
      | cons piece pieces =>
          rcases head with literal | slot
          · exact ih found
          · obtain ⟨ends, rest⟩ := found
            rw [followingText?_eq_of_related tail] at ends
            exact ⟨ends, ih rest⟩

theorem Registry.Layout.related (layout : r.Layout segments pieces s)
    (related : Reading.Related R segments segments')
    (wider : ∀ v w, .variable v ∈ segments → .variable w ∈ segments' → R v w →
      ∀ t, r.validator v t = .ok true → r'.validator w t = .ok true) :
    r'.Layout segments' pieces s := by
  obtain ⟨fits, rfl⟩ := layout
  refine ⟨?_, rfl⟩
  induction related generalizing pieces with
  | nil =>
      cases fits
      exact .nil
  | cons head tail ih =>
      cases fits with
      | cons fit fits =>
          have rest := ih (fun v w inside inside' => wider v w (List.mem_cons_of_mem _ inside)
            (List.mem_cons_of_mem _ inside')) fits
          rcases head with literal | slot
          · exact .cons fit rest
          · have accepted := wider _ _ List.mem_cons_self List.mem_cons_self slot _ fit.2
            exact .cons ⟨fit.1, accepted⟩ rest

end Layouts

variable {r : Registry} {edit : PatternEdit}

theorem Registry.validator_nested_iff {name : Option Text} {inputType : InputType} {p : Pattern}
    (found : r.find? inputType = some .subPattern) (valid : r.validate p = .ok ()) {t : Text} :
    r.validator ⟨name, inputType, some p⟩ t = .ok true ↔ r.Matches p t := by
  simp only [validator, found, Matches, matchPattern, valid]
  rcases matchCombinations t (expand p) r with e | _ | result <;> simp [Except.map]

theorem Variable.Edited.faultOf?_eq {v w : Variable} (edited : Variable.Edited edit v w)
    (r : Registry) : r.faultOf? v = r.faultOf? w := by
  cases edited <;> rfl

/-- An edited pattern matches what the pattern matched. The induction is on the nesting: a nested
pattern is edited as well, and accepts what it accepted before. -/
theorem Registry.Matches.edited (served : r.BoundaryServed) (keeps : edit.Keeps) {p q : Pattern}
    (edited : Pattern.Edited edit p q) (valid : r.validate q = .ok ()) {s : Text}
    (matched : r.Matches p s) : r.Matches q s := by
  induction depth : Pattern.nesting p using Nat.strong_induction_on generalizing p q s with
  | _ n ih =>
      have valid' := matched.validate_eq_ok
      obtain ⟨c, member, pieces, layout, found⟩ := matched.exists_layout served
      obtain ⟨d, member', related⟩ := (edited.embeds keeps).exists_mem_expand member
      have wider (v w : Variable) (inside : .variable v ∈ c.segments)
          (inside' : .variable w ∈ d.segments) (slot : Variable.Edited edit v w) (t : Text)
          (accepted : r.validator v t = .ok true) : r.validator w t = .ok true := by
        have known := variable_mem_of_mem_expand member inside
        have known' := variable_mem_of_mem_expand member' inside'
        cases slot with
        | plain => exact accepted
        | @nested u u' name inputType within =>
            have sound := Registry.validate_eq_ok_iff.mp valid' _ known
            rcases Registry.exists_validator served sound with
              ⟨accepts, registered⟩ | ⟨_, registered, _⟩
            · simpa only [Registry.validator, registered] using accepted
            · have validU := Registry.validate_nested valid' known rfl
              have validU' := Registry.validate_nested valid known' rfl
              have shallower : Pattern.nesting u < n :=
                depth ▸ Pattern.nesting_lt_of_mem_variables known rfl
              have matchedU := (Registry.validator_nested_iff registered validU).mp accepted
              have matchedU' := ih _ shallower within validU' matchedU rfl
              exact (Registry.validator_nested_iff registered validU').mpr matchedU'
      exact Registry.matches_of_layout served valid member' (layout.related related wider)
        (found.related related)

theorem validate_of_reordering {p q : Pattern} (reordered : Pattern.Edited .reordering p q)
    (valid : r.validate p = .ok ()) : r.validate q = .ok () := by
  apply Registry.validate_eq_ok_iff.mpr
  intro v member
  obtain ⟨w, inside, edited⟩ :=
    reordered.symm.exists_variable PatternEdit.keeps_reordering member
  rw [edited.faultOf?_eq]
  exact Registry.validate_eq_ok_iff.mp valid w inside

/-- Wherever branches stand in a pattern and in the patterns nested in it, the registry serves the
same patterns and they match the same inputs. -/
theorem matches_iff_of_reordering (served : r.BoundaryServed) {p q : Pattern}
    (reordered : Pattern.Edited .reordering p q) :
    (r.validate p = .ok () ↔ r.validate q = .ok ()) ∧ ∀ s, r.Matches p s ↔ r.Matches q s := by
  have oneWay {p q : Pattern} (reordered : Pattern.Edited .reordering p q) (s : Text)
      (matched : r.Matches p s) : r.Matches q s := by
    have valid := validate_of_reordering reordered matched.validate_eq_ok
    exact matched.edited served PatternEdit.keeps_reordering reordered valid
  refine ⟨⟨validate_of_reordering reordered, validate_of_reordering reordered.symm⟩, fun s => ?_⟩
  exact ⟨oneWay reordered s, oneWay reordered.symm s⟩

theorem matches_iff_of_reordering_due :
    let days : Pattern := [.variable (.plain (some "n".toList) .number), .text " days".toList]
    let tag : Pattern := [.text ";".toList, .variable (.plain (some "tag".toList) .word)]
    let p : Pattern := [.variable (.nested (some "due".toList) [.variational
      [days, [.text "now".toList]]]), .anyOrder [tag, [.text "!".toList]]]
    let q : Pattern := [.variable (.nested (some "due".toList) [.variational
      [[.text "now".toList], days]]), .anyOrder [[.text "!".toList], tag]]
    Pattern.Edited .reordering p q ∧ Registry.builtin.validate p = .ok () ∧
      Registry.builtin.Matches p "3 DAYS!;x".toList ∧
      Registry.builtin.Matches q "3 DAYS!;x".toList := by
  intro days tag p q
  have unchanged (ps : List Pattern) : Pattern.EachEdited .reordering ps ps :=
    Pattern.EachEdited.refl List.Perm.refl List.Perm.refl ps
  have due : Pattern.Edited .reordering [.variational [days, [.text "now".toList]]]
      [.variational [[.text "now".toList], days]] :=
    .cons (.variational (unchanged _) (.swap _ _ [])) .nil
  have reordered : Pattern.Edited .reordering p q :=
    .cons (.variable (.nested _ _ due)) (.cons (.anyOrder (unchanged _) (.swap _ _ [])) .nil)
  let segments : Reading := [.variable (.nested (some "due".toList)
    [.variational [days, [.text "now".toList]]]), .text "!;".toList,
    .variable (.plain (some "tag".toList) .word)]
  let result : MatchResult := ⟨[⟨some "due".toList, .match, .single "3 DAYS".toList⟩,
    ⟨some "tag".toList, .word, .single "x".toList⟩], ⟨segments, 9⟩, [⟨0, 6⟩, ⟨8, 9⟩]⟩
  have matched : matchPattern "3 DAYS!;x".toList p Registry.builtin = .ok (some result) := by cbv
  have served := Registry.boundaryServed_builtin
  refine ⟨reordered, by cbv, ⟨result, matched⟩, ?_⟩
  exact ((matches_iff_of_reordering served reordered).2 _).mp ⟨result, matched⟩

/-- Optional tokens put in and branches added to alternations, at any depth, lose no input. -/
theorem matches_of_extension (served : r.BoundaryServed) {p p' : Pattern}
    (extended : Pattern.Edited .extension p p') (valid' : r.validate p' = .ok ()) {s : Text}
    (matched : r.Matches p s) : r.Matches p' s :=
  matched.edited served PatternEdit.keeps_extension extended valid'

theorem matches_of_extension_due :
    let days : Pattern := [.variable (.plain (some "n".toList) .number), .text " days".toList]
    let p : Pattern := [.variable (.nested (some "due".toList) [.variational
      [[.text "now".toList]]]), .anyOrder [[.text "!".toList], [.text ";".toList]]]
    let p' : Pattern := [.variable (.nested (some "due".toList) [.variational
      [days, [.text "now".toList]]]),
      .anyOrder [[.optional [.text "?".toList], .text "!".toList], [.text ";".toList]]]
    Pattern.Edited .extension p p' ∧ Registry.builtin.validate p' = .ok () ∧
      Registry.builtin.Matches p "NOW;!".toList ∧ Registry.builtin.Matches p' "NOW;!".toList := by
  intro days p p'
  have unchanged (q : Pattern) : Pattern.Edited .extension q q :=
    Pattern.Edited.refl List.Sublist.refl (fun _ => rfl) q
  have due : Pattern.Edited .extension [.variational [[.text "now".toList]]]
      [.variational [days, [.text "now".toList]]] :=
    .cons (.variational (.cons (unchanged _) .nil) (.cons _ (.refl _))) .nil
  have marks : Pattern.EachEdited .extension [[.text "!".toList], [.text ";".toList]]
      [[.optional [.text "?".toList], .text "!".toList], [.text ";".toList]] :=
    .cons (.insert trivial _ (unchanged _)) (.cons (unchanged _) .nil)
  have extended : Pattern.Edited .extension p p' :=
    .cons (.variable (.nested _ _ due)) (.cons (.anyOrder marks rfl) .nil)
  have valid : Registry.builtin.validate p' = .ok () := by cbv
  let segments : Reading := [.variable (.nested (some "due".toList)
    [.variational [[.text "now".toList]]]), .text ";!".toList]
  let result : MatchResult :=
    ⟨[⟨some "due".toList, .match, .single "NOW".toList⟩], ⟨segments, 7⟩, [⟨0, 3⟩]⟩
  have matched : matchPattern "NOW;!".toList p Registry.builtin = .ok (some result) := by cbv
  have served := Registry.boundaryServed_builtin
  refine ⟨extended, valid, ⟨result, matched⟩, ?_⟩
  exact matches_of_extension served extended valid ⟨result, matched⟩

end NoteTemplate
