import NoteTemplate.Proofs.Expansion.Enumeration
import NoteTemplate.Proofs.Matching.Fields
import NoteTemplate.Proofs.Matching.Layout

/-!
Filling a reading: every variable gets a value and every literal is written in some letter case. As
long as no value has a letter of a literal, the filled text can be laid out in no other way, and
matching it gives the values back.
-/
namespace NoteTemplate

namespace Reading

def valuesOf : Reading → List Text → List Text
  | .text _ :: segments, _ :: pieces => valuesOf segments pieces
  | .variable _ :: segments, piece :: pieces => piece :: valuesOf segments pieces
  | _, _ => []

def literalLength : Reading → Nat
  | [] => 0
  | .text literal :: segments => literal.length + literalLength segments
  | .variable _ :: segments => literalLength segments

theorem literalLength_append (first second : Reading) :
    literalLength (first ++ second) = literalLength first + literalLength second := by
  induction first with
  | nil => simp [literalLength]
  | cons segment first ih =>
      rcases segment with literal | v
      · simp only [List.cons_append, literalLength, ih]
        omega
      · simpa only [List.cons_append, literalLength] using ih

/-- A class of characters with every letter of a literal in it, in either case. -/
def LettersIn (letter : Char → Bool) (segments : Reading) : Prop :=
  ∀ literal, .text literal ∈ segments → ∀ x, ∀ y ∈ literal, sameLetter x y = true →
    letter x = true

def hasLetter (segments : Reading) (x : Char) : Bool :=
  segments.any fun
    | .text literal => literal.any (sameLetter x)
    | .variable _ => false

theorem lettersIn_hasLetter (segments : Reading) : LettersIn segments.hasLetter segments := by
  intro literal member x y inside same
  apply List.any_eq_true.mpr
  exact ⟨.text literal, member, List.any_eq_true.mpr ⟨y, inside, same⟩⟩

theorem hasLetter_eq_false {segments : Reading} {x : Char}
    (foreign : ∀ literal, .text literal ∈ segments → ∀ y ∈ literal, sameLetter x y = false) :
    segments.hasLetter x = false := by
  apply List.any_eq_false.mpr
  intro segment member
  rcases segment with literal | v
  · simpa using foreign literal member
  · simp

end Reading

section Unique

variable {r : Registry} {letter : Char → Bool} {segments : Reading} {pieces pieces' : List Text}

theorem Reading.LettersIn.tail {segment : Segment}
    (letters : Reading.LettersIn letter (segment :: segments)) :
    Reading.LettersIn letter segments :=
  fun literal member => letters literal (List.mem_cons_of_mem _ member)

theorem countP_literal {literal piece : Text}
    (letters : Reading.LettersIn letter (.text literal :: segments))
    (same : Text.SameLetters piece literal) : piece.countP letter = literal.length := by
  rw [← same.length_eq, List.countP_eq_length]
  intro x member
  obtain ⟨y, inside, equal⟩ := same.exists_of_mem member
  exact letters literal List.mem_cons_self x y inside equal

/-- However a text is laid out, the letters that its literals do not cover are in its values. -/
theorem countP_flatten (letters : segments.LettersIn letter)
    (fits : List.Forall₂ r.Fits segments pieces) :
    pieces.flatten.countP letter =
      segments.literalLength + (segments.valuesOf pieces).flatten.countP letter := by
  induction fits with
  | nil => rfl
  | @cons segment piece segments pieces fit fits ih =>
      have rest := ih letters.tail
      rcases segment with literal | v
      · have covered := countP_literal letters fit
        simp only [List.flatten_cons, List.countP_append, Reading.literalLength, Reading.valuesOf]
        omega
      · simp only [List.flatten_cons, List.countP_append, Reading.literalLength, Reading.valuesOf]
        omega

theorem letter_of_behind {v : Variable} (letters : segments.LettersIn letter)
    (simple : segments.IsSimple)
    (apart : Reading.hasAdjacentVariables (.variable v :: segments) = false)
    (fits : List.Forall₂ r.Fits segments pieces) {x : Char} {t : Text}
    (starts : pieces.flatten = x :: t) : letter x = true := by
  cases fits with
  | nil => cases starts
  | @cons segment piece segments pieces fit fits =>
      rcases segment with literal | w
      · obtain ⟨y, rest, rfl⟩ := List.exists_cons_of_ne_nil simple.1
        cases fit with
        | @cons x' y' s t' same others =>
            injection starts with first _
            subst first
            exact letters (y :: rest) List.mem_cons_self x' y List.mem_cons_self same
      · cases apart

theorem takeWhile_value {value rest : Text} (foreign : ∀ x ∈ value, letter x = false)
    (stops : ∀ x t, rest = x :: t → letter x = true) :
    (value ++ rest).takeWhile (fun x => !letter x) = value := by
  rw [List.takeWhile_append_of_pos (fun x member => by simp [foreign x member])]
  cases rest with
  | nil => simp
  | cons x t => simp [stops x t rfl]

theorem append_inj_of_foreign {value value' rest rest' : Text}
    (foreign : ∀ x ∈ value, letter x = false) (foreign' : ∀ x ∈ value', letter x = false)
    (stops : ∀ x t, rest = x :: t → letter x = true)
    (stops' : ∀ x t, rest' = x :: t → letter x = true) (same : value ++ rest = value' ++ rest') :
    value = value' ∧ rest = rest' := by
  have equal : value = value' := by
    calc
      value = (value ++ rest).takeWhile (fun x => !letter x) :=
        (takeWhile_value foreign stops).symm
      _ = (value' ++ rest').takeWhile (fun x => !letter x) := by rw [same]
      _ = value' := takeWhile_value foreign' stops'
  subst equal
  exact ⟨rfl, List.append_cancel_left same⟩

theorem eq_of_foreign (letters : segments.LettersIn letter) (simple : segments.IsSimple)
    (apart : segments.hasAdjacentVariables = false)
    (fits : List.Forall₂ r.Fits segments pieces) (fits' : List.Forall₂ r.Fits segments pieces')
    (foreign : ∀ x ∈ (segments.valuesOf pieces).flatten, letter x = false)
    (foreign' : ∀ x ∈ (segments.valuesOf pieces').flatten, letter x = false)
    (whole : pieces.flatten = pieces'.flatten) : pieces = pieces' := by
  induction fits generalizing pieces' with
  | nil =>
      cases fits'
      rfl
  | @cons segment piece segments pieces fit fits ih =>
      cases fits' with
      | @cons _ piece' _ pieces' fit' fits' =>
          simp only [List.flatten_cons] at whole
          have apart' := Reading.hasAdjacentVariables_tail apart
          rcases segment with literal | v
          · have sizes : piece.length = piece'.length := by
              rw [Text.SameLetters.length_eq fit, Text.SameLetters.length_eq fit']
            obtain ⟨rfl, rest⟩ := List.append_inj whole sizes
            rw [ih letters.tail simple.2.2 apart' fits' foreign foreign' rest]
          · simp only [Reading.valuesOf, List.flatten_cons, List.forall_mem_append]
              at foreign foreign'
            have stops : ∀ x t, pieces.flatten = x :: t → letter x = true :=
              fun _ _ => letter_of_behind letters.tail simple apart fits
            have stops' : ∀ x t, pieces'.flatten = x :: t → letter x = true :=
              fun _ _ => letter_of_behind letters.tail simple apart fits'
            obtain ⟨rfl, rest⟩ := append_inj_of_foreign foreign.1 foreign'.1 stops stops' whole
            rw [ih letters.tail simple apart' fits' foreign.2 foreign'.2 rest]

theorem boundariesFound_of_foreign (letters : segments.LettersIn letter)
    (simple : segments.IsSimple) (fits : List.Forall₂ r.Fits segments pieces)
    (foreign : ∀ x ∈ (segments.valuesOf pieces).flatten, letter x = false) :
    BoundariesFound segments pieces := by
  induction fits with
  | nil => trivial
  | @cons segment piece segments pieces fit fits ih =>
      rcases segment with literal | v
      · exact ih letters.tail simple.2.2 foreign
      · simp only [Reading.valuesOf, List.flatten_cons, List.forall_mem_append] at foreign
        refine ⟨fun literal next => ?_, ih letters.tail simple foreign.2⟩
        rcases segments with _ | ⟨_ | _, segments⟩ <;> cases next
        cases fits with
        | @cons _ following _ pieces same _ =>
            apply Text.mem_findAllCaseless_of_foreign simple.1
            · intro x member y inside
              apply eq_false_of_ne_true
              intro equal
              have marked := letters literal (by simp) x y inside equal
              rw [foreign.1 x member] at marked
              cases marked
            · exact ⟨following, pieces.flatten, rfl, same⟩

end Unique

section Captures

theorem map_value_captures (segments : Reading) (pieces : List Text) (offset : Nat) :
    (segments.captures pieces offset).map (·.value) = segments.valuesOf pieces := by
  fun_induction Reading.captures segments pieces offset with
  | case1 literal segments piece pieces offset ih => exact ih
  | case2 v segments piece pieces offset stop ih =>
      rw [List.map_cons, ih]
      rfl
  | case3 segments pieces offset noText noVariable =>
      rw [Reading.valuesOf]
      · rfl
      · exact noText
      · exact noVariable

theorem map_slot_captures {segments : Reading} {pieces : List Text}
    (sizes : segments.length = pieces.length) (offset : Nat) (score : Nat) :
    (segments.captures pieces offset).map (·.slot) = Combination.variables ⟨segments, score⟩ := by
  induction segments generalizing pieces offset with
  | nil => cases pieces <;> rfl
  | cons segment segments ih =>
      cases pieces with
      | nil => cases sizes
      | cons piece pieces =>
          have rest := ih (Nat.succ.inj sizes) (offset + piece.byteLength)
          simp only [Combination.variables] at rest ⊢
          rcases segment with literal | v
          · simpa [Reading.captures] using rest
          · simpa [Reading.captures] using rest

theorem slice?_of_mem_captures {segments : Reading} {pieces : List Text} (before : Text)
    {x : Captured} (member : x ∈ segments.captures pieces before.byteLength) :
    Text.slice? (before ++ pieces.flatten) x.span = some x.value := by
  induction segments generalizing pieces before with
  | nil => cases member
  | cons segment segments ih =>
      cases pieces with
      | nil => rcases segment with literal | v <;> cases member
      | cons piece pieces =>
          have behind (later : x ∈ Reading.captures segments pieces (before ++ piece).byteLength) :=
            ih (before ++ piece) later
          rw [Text.byteLength_append, List.append_assoc] at behind
          rcases segment with literal | v
          · exact behind member
          · rcases List.mem_cons.mp member with rfl | member
            · exact Text.slice?_append before piece pieces.flatten
            · exact behind member

end Captures

section Filling

variable {r : Registry} {segments : Reading} {pieces : List Text} {s : Text}

/-- A layout of a text in which no value has a letter of a literal, in either case. -/
structure Registry.Filling (r : Registry) (segments : Reading) (pieces : List Text)
    (s : Text) : Prop extends r.Layout segments pieces s where
  foreign : ∀ value ∈ segments.valuesOf pieces, ∀ x ∈ value,
    ∀ literal, .text literal ∈ segments → ∀ y ∈ literal, sameLetter x y = false

theorem Registry.Filling.hasLetter_eq_false (filling : r.Filling segments pieces s) :
    ∀ x ∈ (segments.valuesOf pieces).flatten, segments.hasLetter x = false := by
  intro x member
  obtain ⟨value, chosen, inside⟩ := List.mem_flatten.mp member
  exact Reading.hasLetter_eq_false (filling.foreign value chosen x inside)

/-- A filled text has no other layout: all its letters are needed for the literals. -/
theorem Registry.Filling.pieces_eq (filling : r.Filling segments pieces s)
    (simple : segments.IsSimple) (apart : segments.hasAdjacentVariables = false)
    {pieces' : List Text} (layout : r.Layout segments pieces' s) : pieces = pieces' := by
  have letters := Reading.lettersIn_hasLetter segments
  have foreign := filling.hasLetter_eq_false
  have whole : pieces.flatten = pieces'.flatten := filling.whole.trans layout.whole.symm
  -- In the filled text the literals take all letters, so no value of another layout has any.
  have none : (segments.valuesOf pieces').flatten.countP segments.hasLetter = 0 := by
    have chosen := countP_flatten letters filling.fits
    have other := countP_flatten letters layout.fits
    have nothing : (segments.valuesOf pieces).flatten.countP segments.hasLetter = 0 :=
      List.countP_eq_zero.mpr fun x member => by simp [foreign x member]
    rw [whole] at chosen
    omega
  have foreign' : ∀ x ∈ (segments.valuesOf pieces').flatten, segments.hasLetter x = false :=
    fun x member => eq_false_of_ne_true (List.countP_eq_zero.mp none x member)
  exact eq_of_foreign letters simple apart filling.fits layout.fits foreign foreign' whole

theorem walk_filling (served : r.BoundaryServed)
    (serves : ∀ v, .variable v ∈ segments → r.Serves v) (simple : segments.IsSimple)
    (apart : segments.hasAdjacentVariables = false) (filling : r.Filling segments pieces s) :
    walk r.capture segments 0 s = .ok (some (segments.captures pieces 0)) := by
  have letters := Reading.lettersIn_hasLetter segments
  have found := boundariesFound_of_foreign letters simple filling.fits filling.hasLetter_eq_false
  obtain ⟨captured, walked⟩ := walk_isSome served serves apart filling.toLayout found 0
  obtain ⟨pieces', layout, _, rfl⟩ := exists_layout_of_walk served walked
  rw [walked, filling.pieces_eq simple apart layout]

theorem exists_matchPattern_of_walk (served : r.BoundaryServed) {p : Pattern}
    (valid : r.validate p = .ok ()) {c : Combination} (member : c ∈ expand p)
    {captured : List Captured} (walked : walk r.capture c.segments 0 s = .ok (some captured)) :
    ∃ result, matchPattern s p r = .ok (some result) := by
  have never (d : Combination) (inside : d ∈ expand p) (v : Variable)
      (used : .variable v ∈ d.segments) : NeverFails r.capture v :=
    Registry.neverFails_of_mem_expand served valid inside used
  obtain ⟨result, matched⟩ := matchReadings_isSome never member walked
  exact ⟨result, matchPattern_eq_ok_some_iff.mpr ⟨valid, matched⟩⟩

def Reading.Separated (segments : Reading) : Prop := segments.IsSimple ∧ segments.VariablesApart

theorem separated_of_mem_expand {p : Pattern} {c : Combination} (member : c ∈ expand p) :
    c.segments.Separated := by
  have single := (mem_expand_iff.mp member).2
  exact ⟨isSimple_of_mem_expand member, Reading.hasAdjacentVariables_eq_false_iff.mp single⟩

/-- Matching a filled text gives the chosen values back, under their names and where they stand, and
every pattern with that combination matches it. -/
theorem matchCombinations_filling (served : r.BoundaryServed) {c : Combination}
    (separated : c.segments.Separated ∨ ∃ p, c ∈ expand p)
    (serves : ∀ v, .variable v ∈ c.segments → r.Serves v)
    (filling : r.Filling c.segments pieces s) :
    let captured := c.segments.captures pieces 0
    matchCombinations s [c] r = .ok (some (.ofCaptured c captured)) ∧
      captured.map (·.slot) = c.variables ∧
      captured.map (·.value) = c.segments.valuesOf pieces ∧
      (∀ x ∈ captured, s.slice? x.span = some x.value) ∧
      (∀ name, valuesNamed name (MatchResult.ofCaptured c captured).fields =
        ((captured.filter (·.slot.isCaptured)).filter (·.slot.name = name)).map (·.value)) ∧
      ∀ p, r.validate p = .ok () → c ∈ expand p →
        ∃ result, matchPattern s p r = .ok (some result) := by
  intro captured
  obtain ⟨simple, apart⟩ : c.segments.Separated := by
    rcases separated with separated | ⟨p, member⟩
    · exact separated
    · exact separated_of_mem_expand member
  have single := Reading.hasAdjacentVariables_eq_false_iff.mpr apart
  have walked := walk_filling served serves simple single filling
  refine ⟨?_, map_slot_captures filling.fits.length_eq 0 c.score,
    map_value_captures c.segments pieces 0, ?_,
    fun name => valuesNamed_ofCaptured name c captured, ?_⟩
  · rw [matchCombinations_eq, matchReadings, walked]
  · intro x member
    have marked := slice?_of_mem_captures [] member
    rwa [List.nil_append, filling.whole] at marked
  · intro p valid member
    exact exists_matchPattern_of_walk served valid member walked

theorem matchCombinations_filling_order :
    let kilograms : Pattern := [.variable (.plain (some "n".toList) .number), .text " kg".toList]
    let segments : Reading := [.variable (.nested (some "qty".toList) kilograms),
      .text "#of#".toList, .variable (.plain (some "item".toList) .text)]
    let pieces := ["2 KG".toList, "#OF#".toList, "pears".toList]
    Registry.builtin.Filling segments pieces "2 KG#OF#pears".toList ∧
      matchCombinations "2 KG#OF#pears".toList [⟨segments, 12⟩] Registry.builtin =
        .ok (some (.ofCaptured ⟨segments, 12⟩ (segments.captures pieces 0))) := by
  intro kilograms segments pieces
  let p : Pattern := [.variable (.nested (some "qty".toList) kilograms), .text "#of#".toList,
    .variable (.plain (some "item".toList) .text)]
  have member : (⟨segments, 12⟩ : Combination) ∈ expand p := by
    have expanded : expand p = [⟨segments, 12⟩] := by cbv
    rw [expanded]
    exact List.mem_singleton_self _
  have valid : Registry.builtin.validate p = .ok () := by cbv
  have filling : Registry.builtin.Filling segments pieces "2 KG#OF#pears".toList := by
    refine ⟨⟨.cons ⟨by decide, by cbv⟩ (.cons ?_ (.cons ⟨by decide, by cbv⟩ .nil)), rfl⟩, ?_⟩
    · exact .cons rfl (.cons rfl (.cons rfl (.cons rfl .nil)))
    · have apart : (segments.valuesOf pieces).all (fun value => value.all fun x =>
          "#of#".toList.all fun y => !sameLetter x y) = true := by cbv
      intro value chosen x inside literal used y letter
      have only : literal = "#of#".toList := by simpa [segments] using used
      subst only
      have differ := List.all_eq_true.mp apart value chosen
      have differ := List.all_eq_true.mp differ x inside
      simpa using List.all_eq_true.mp differ y letter
  have serves : ∀ v, .variable v ∈ segments → Registry.builtin.Serves v := fun v used =>
    Registry.serves_of_validate valid (variable_mem_of_mem_expand member used)
  have served := Registry.boundaryServed_builtin
  exact ⟨filling, (matchCombinations_filling served (.inr ⟨p, member⟩) serves filling).1⟩

end Filling

end NoteTemplate
