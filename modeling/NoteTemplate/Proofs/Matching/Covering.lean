import NoteTemplate.Proofs.Matching.Filling

/-!
What it means that a reading covers a text, said without pieces for the literals: only the values
of the variables are told. Simplifying a reading leaves the texts and values as they are, so they
can be found from the tokens of a pattern before literals are joined.
-/
namespace NoteTemplate

inductive Registry.Covers (r : Registry) : Reading → List (Variable × Text) → Text → Prop
  | nil : Covers r [] [] []
  | literal {literal piece s : Text} {segments : Reading} {chosen : List (Variable × Text)}
      (same : Text.SameLetters piece literal) (rest : Covers r segments chosen s) :
      Covers r (.text literal :: segments) chosen (piece ++ s)
  | value {v : Variable} {value s : Text} {segments : Reading} {chosen : List (Variable × Text)}
      (nonempty : value ≠ []) (valid : r.validator v value = .ok true)
      (rest : Covers r segments chosen s) :
      Covers r (.variable v :: segments) ((v, value) :: chosen) (value ++ s)

def Captured.choice (x : Captured) : Variable × Text := (x.slot, x.value)

namespace Reading

variable {letter : Char → Bool}

theorem LettersIn.consSegment {segment : Segment} {segments : Reading}
    (letters : LettersIn letter (segment :: segments)) :
    LettersIn letter (consSegment segment segments) := by
  fun_cases Reading.consSegment segment segments with
  | case1 => exact letters.tail
  | case2 first second segments =>
      intro literal member x y inside same
      rcases List.mem_cons.mp member with joined | member
      · cases joined
        rcases List.mem_append.mp inside with inside | inside
        · exact letters first List.mem_cons_self x y inside same
        · exact letters.tail second List.mem_cons_self x y inside same
      · exact letters.tail.tail literal member x y inside same
  | case3 => exact letters

theorem LettersIn.simplify {segments : Reading} (letters : LettersIn letter segments) :
    LettersIn letter segments.simplify := by
  induction segments with
  | nil => exact letters
  | cons segment segments ih =>
      apply LettersIn.consSegment
      intro literal member
      rcases List.mem_cons.mp member with head | member
      · exact letters literal (head ▸ List.mem_cons_self)
      · exact ih letters.tail literal member

end Reading

variable {r : Registry} {segments : Reading} {chosen : List (Variable × Text)} {s : Text}

namespace Registry

theorem covers_of_layout {pieces : List Text} (layout : r.Layout segments pieces s) (offset : Nat) :
    r.Covers segments ((segments.captures pieces offset).map Captured.choice) s := by
  obtain ⟨fits, rfl⟩ := layout
  induction fits generalizing offset with
  | nil => exact .nil
  | @cons segment piece segments pieces fit fits ih =>
      have rest := ih (offset + piece.byteLength)
      rcases segment with literal | v
      · exact .literal fit rest
      · exact .value fit.1 fit.2 rest

theorem Covers.exists_layout (covers : r.Covers segments chosen s) :
    ∃ pieces, r.Layout segments pieces s ∧ segments.valuesOf pieces = chosen.map Prod.snd := by
  induction covers with
  | nil => exact ⟨[], ⟨.nil, rfl⟩, rfl⟩
  | @literal literal piece s segments chosen same _ ih =>
      obtain ⟨pieces, ⟨fits, rfl⟩, values⟩ := ih
      exact ⟨piece :: pieces, ⟨.cons same fits, rfl⟩, values⟩
  | @value v value s segments chosen nonempty valid _ ih =>
      obtain ⟨pieces, ⟨fits, rfl⟩, values⟩ := ih
      refine ⟨value :: pieces, ⟨.cons ⟨nonempty, valid⟩ fits, rfl⟩, ?_⟩
      rw [Reading.valuesOf, values, List.map_cons]

theorem Covers.append {segments' : Reading} {chosen' : List (Variable × Text)} {s' : Text}
    (first : r.Covers segments chosen s) (second : r.Covers segments' chosen' s') :
    r.Covers (segments ++ segments') (chosen ++ chosen') (s ++ s') := by
  induction first with
  | nil => exact second
  | literal same _ ih =>
      rw [List.append_assoc]
      exact .literal same ih
  | value nonempty valid _ ih =>
      rw [List.append_assoc]
      exact .value nonempty valid ih

theorem covers_consSegment_iff (segment : Segment) (segments : Reading) :
    r.Covers (Reading.consSegment segment segments) chosen s ↔
      r.Covers (segment :: segments) chosen s := by
  fun_cases Reading.consSegment segment segments with
  | case1 =>
      constructor
      · intro covers
        exact .literal .nil covers
      · intro covers
        cases covers with
        | literal same rest =>
            cases same
            exact rest
  | case2 first second segments =>
      constructor
      · intro covers
        cases covers with
        | @literal _ piece s _ _ same rest =>
            have head := List.forall₂_take_append piece first second same
            have tail := List.forall₂_drop_append piece first second same
            rw [← List.take_append_drop first.length piece, List.append_assoc]
            exact .literal head (.literal tail rest)
      · intro covers
        cases covers with
        | literal same rest =>
            cases rest with
            | literal same' rest =>
                rw [← List.append_assoc]
                exact .literal (same.append same') rest
  | case3 => rfl

theorem covers_simplify_iff : r.Covers segments.simplify chosen s ↔ r.Covers segments chosen s := by
  induction segments generalizing chosen s with
  | nil => rfl
  | cons segment segments ih =>
      rw [Reading.simplify, List.foldr_cons, covers_consSegment_iff]
      constructor
      · intro covers
        cases covers with
        | literal same rest => exact .literal same (ih.mp rest)
        | value nonempty valid rest => exact .value nonempty valid (ih.mp rest)
      · intro covers
        cases covers with
        | literal same rest => exact .literal same (ih.mpr rest)
        | value nonempty valid rest => exact .value nonempty valid (ih.mpr rest)

/-- The letters of a covered text are those of the literals and those in the values. -/
theorem Covers.countP_eq {letter : Char → Bool} (letters : segments.LettersIn letter)
    (covers : r.Covers segments chosen s) :
    s.countP letter =
      segments.literalLength + (chosen.map Prod.snd).flatten.countP letter := by
  obtain ⟨pieces, ⟨fits, rfl⟩, values⟩ := covers.exists_layout
  rw [countP_flatten letters fits, values]

end Registry

theorem exists_covers_of_matchPattern (served : r.BoundaryServed) {p : Pattern}
    {result : MatchResult} (matched : matchPattern s p r = .ok (some result)) :
    ∃ c ∈ expand p, ∃ captured, result = .ofCaptured c captured ∧
      r.Covers c.segments (captured.map Captured.choice) s := by
  obtain ⟨_, found⟩ := matchPattern_eq_ok_some_iff.mp matched
  obtain ⟨c, member, captured, walked, rfl⟩ := exists_of_matchReadings found
  obtain ⟨pieces, layout, _, rfl⟩ := exists_layout_of_walk served walked
  exact ⟨c, member, _, rfl, Registry.covers_of_layout layout 0⟩

/-- An input is matched if some combination covers it with values that have no letter of a
literal. -/
theorem exists_matchPattern_of_covers (served : r.BoundaryServed) {p : Pattern}
    (valid : r.validate p = .ok ()) {c : Combination} (member : c ∈ expand p)
    {letter : Char → Bool} (letters : Reading.LettersIn letter c.segments)
    (covers : r.Covers c.segments chosen s)
    (foreign : ∀ x ∈ (chosen.map Prod.snd).flatten, letter x = false) :
    ∃ result, matchPattern s p r = .ok (some result) := by
  obtain ⟨pieces, layout, values⟩ := covers.exists_layout
  rw [← values] at foreign
  have simple := isSimple_of_mem_expand member
  have apart := (mem_expand_iff.mp member).2
  have serves (v : Variable) (inside : .variable v ∈ c.segments) : r.Serves v :=
    Registry.serves_of_validate valid (variable_mem_of_mem_expand member inside)
  have found := boundariesFound_of_foreign letters simple layout.fits foreign
  obtain ⟨captured, walked⟩ := walk_isSome served serves apart layout found 0
  exact exists_matchPattern_of_walk served valid member walked

end NoteTemplate
