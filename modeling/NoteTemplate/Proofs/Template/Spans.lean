import NoteTemplate.Proofs.Template.Ranges
import NoteTemplate.Proofs.Template.Reports
import Mathlib.Data.List.Nodup
import Mathlib.Data.List.Perm.Subperm

namespace NoteTemplate

section Distinct

variable {customTypes : List Text} {offset : Nat} {t : Text}

theorem subperm_scanErrors (opened : List Opened) (ms : List Mark) :
    ((scanErrors opened ms).map (·.span.start)).Subperm
      (opened.reverse.map Opened.offset ++ ms.map Mark.offset) := by
  induction ms generalizing opened with
  | nil =>
      have starts :
          (scanErrors opened []).map (·.span.start) = opened.reverse.map Opened.offset := by
        rw [scanErrors, closerErrors, openAfter, List.nil_append, List.map_map]
        rfl
      rw [starts, List.map_nil, List.append_nil]
  | cons m ms ih =>
      rcases m with o | ⟨b, place⟩
      · have inner := ih (o :: opened)
        rw [List.reverse_cons, List.map_append, List.append_assoc] at inner
        exact inner
      · rcases opened with _ | ⟨o, outer⟩
        · exact (List.subperm_cons place).mpr (ih [])
        · have shrink : (outer.reverse.map Opened.offset ++ ms.map Mark.offset).Sublist
              ((o :: outer).reverse.map Opened.offset ++ ms.map Mark.offset) := by
            rw [List.reverse_cons, List.map_append]
            exact (List.sublist_append_left _ _).append_right _
          have rest := (ih outer).trans shrink.subperm
          have later : ((o :: outer).reverse.map Opened.offset ++
              (Mark.closing b place :: ms).map Mark.offset).Perm
              (place :: ((o :: outer).reverse.map Opened.offset ++ ms.map Mark.offset)) :=
            List.perm_middle
          refine List.Subperm.trans ?_ later.symm.subperm
          rw [scanErrors_closing]
          split
          · exact rest.trans (List.sublist_cons_self _ _).subperm
          · exact (List.subperm_cons place).mpr rest

theorem pairwise_marks (offset : Nat) (t : Text) :
    (marks offset t).Pairwise fun m m' => m.offset < m'.offset := by
  induction t using unit_induction generalizing offset with
  | nil => exact .nil
  | backslash => exact .nil
  | unit u t unit ih =>
      rw [unit.marks_append]
      rcases unit.marks_cases offset with none | ⟨m, alone, rfl, place⟩
      · rw [none]
        exact ih _
      · rw [alone, List.singleton_append]
        refine List.pairwise_cons.mpr ⟨fun m' later => ?_, ih _⟩
        obtain ⟨before, after, _, _, span⟩ := standsAt_of_mem_marks later
        have start := congrArg Span.start span
        simp only [byteLength_char] at start
        omega

theorem nodup_spans_scanErrors (offset : Nat) (t : Text) :
    ((scanErrors [] (marks offset t)).map (·.span)).Nodup := by
  have distinct : ((marks offset t).map Mark.offset).Nodup := by
    rw [List.nodup_iff_pairwise_ne, List.pairwise_map]
    exact (pairwise_marks offset t).imp fun before => Nat.ne_of_lt before
  have starts : ((scanErrors [] (marks offset t)).map (·.span.start)).Nodup := by
    obtain ⟨kept, reordered, sublist⟩ := subperm_scanErrors [] (marks offset t)
    exact (reordered.nodup_iff).mp (distinct.sublist sublist)
  have through : (scanErrors [] (marks offset t)).map (·.span.start) =
      ((scanErrors [] (marks offset t)).map (·.span)).map Span.start := by
    rw [List.map_map]
    rfl
  rw [through] at starts
  exact List.Nodup.of_map Span.start starts

theorem VariableErrors.nodup_spans {es : List CompileError} (errors : VariableErrors offset t es) :
    (es.map (·.span)).Nodup := by
  induction errors with
  | nil => exact .nil
  | @cons offset before s after why es typed awake inside rest ih =>
      refine List.nodup_cons.mpr ⟨fun again => ?_, ih⟩
      obtain ⟨e, member, same⟩ := List.mem_map.mp again
      obtain ⟨w, _, stands⟩ := rest.standsAt e member
      have start := stands.bounds.1
      rw [same, Bracket.byteLength_enclose] at start
      simp only at start
      omega

theorem VariableErrors.two_le {es : List CompileError} (errors : VariableErrors offset t es) :
    ∀ e ∈ es, e.span.start + 2 ≤ e.span.stop := by
  induction errors with
  | nil => exact fun e member => absurd member List.not_mem_nil
  | cons typed awake inside rest ih =>
      refine List.forall_mem_cons.mpr ⟨?_, ih⟩
      rw [Bracket.byteLength_enclose]
      simp only
      omega

theorem nodup_spans_errors (customTypes : List Text) (offset : Nat) (t : Text) :
    ((compileFragment customTypes ⟨offset, t⟩).errors.map (·.span)).Nodup := by
  have parts := List.filter_append_perm (·.fault.isBracket)
    (compileFragment customTypes ⟨offset, t⟩).errors
  rw [← (parts.map (·.span)).nodup_iff, List.map_append, filter_isBracket_errors]
  have others := variableErrors_errors customTypes offset t
  refine List.nodup_append.mpr ⟨nodup_spans_scanErrors offset t, others.nodup_spans, ?_⟩
  -- The span of a bracket has one byte, that of a variable at least two.
  intro span short span' wide same
  obtain ⟨e, member, rfl⟩ := List.mem_map.mp short
  obtain ⟨e', member', rfl⟩ := List.mem_map.mp wide
  obtain ⟨m, _, one, _⟩ := exists_mark_of_mem_scanErrors member
  have two := others.two_le e' member'
  rw [← same, one] at two
  simp only at two
  omega

end Distinct

theorem CompileFault.message_of_marks {fault : CompileFault} {w : Text}
    (bracket : fault.isBracket = true) (marks : fault.Marks w) :
    ∃ intro, fault.message = intro ++ ("'" ++ String.ofList w ++ "'") := by
  cases fault with
  | unexpected found =>
      rw [show w = _ from marks]
      exact ⟨"unexpected ", by cases found <;> rfl⟩
  | mismatched opened place found =>
      rw [show w = _ from marks]
      exact ⟨"expected '" ++ opened.closer.toString ++ "' but found ",
        by cases opened <;> cases found <;> rfl⟩
  | unclosed opened =>
      rw [show w = _ from marks]
      exact ⟨"unclosed ", by cases opened <;> rfl⟩
  | missingType | missingSubPattern => cases bracket

theorem compile_eq_of_compileRange? (customTypes : List Text) (t : Text) :
    ∃ compiled, compileRange? customTypes t (t.length + 1) ⟨0, t.byteLength⟩ = some compiled ∧
      compile t customTypes =
        if compiled.errors.isEmpty then .ok compiled.pattern else .error compiled.errors := by
  have whole : Fragment.range ⟨0, t⟩ = ⟨0, t.byteLength⟩ :=
    congrArg (Span.mk 0) (Nat.zero_add t.byteLength)
  have cuts := compileRange?_eq customTypes (cutFrom_self t) (Nat.lt_succ_self _)
  rw [whole] at cuts
  exact ⟨_, cuts, rfl⟩

/-- The compiler can work on ranges of the template: no cut that it makes lies outside the template
or inside a character. Each error stands at a stretch of the template, not empty and outside an
escape: the bracket that its message ends with, or a whole variable. No two errors of a compilation
stand at the same stretch. -/
theorem compile_ranges_and_spans (customTypes : List Text) (t : Text) :
    (∃ compiled, compileRange? customTypes t (t.length + 1) ⟨0, t.byteLength⟩ = some compiled ∧
      compile t customTypes =
        if compiled.errors.isEmpty then .ok compiled.pattern else .error compiled.errors) ∧
      (∀ e ∈ compileErrors customTypes t, e.span.start < e.span.stop ∧
        e.span.stop ≤ t.byteLength ∧ ∃ w, t.slice? e.span = some w ∧ StandsAt 0 t w e.span ∧
          e.fault.Marks w ∧ (e.fault.isBracket = true →
            ∃ intro, e.message = intro ++ ("'" ++ String.ofList w ++ "'"))) ∧
      ((compileErrors customTypes t).map (·.span)).Nodup := by
  refine ⟨compile_eq_of_compileRange? customTypes t, fun e member => ?_, ?_⟩
  · rw [compileErrors_eq] at member
    obtain ⟨_, nonempty, inside⟩ := bounds_of_mem_errors member
    obtain ⟨w, marks, stands⟩ := standsAt_of_mem_errors member
    rw [Nat.zero_add] at inside
    refine ⟨nonempty, inside, w, ?_, stands, marks, fun bracket => ?_⟩
    · obtain ⟨before, after, rfl, _, span⟩ := stands
      rw [span, Nat.zero_add]
      exact Text.slice?_append before w after
    · exact CompileFault.message_of_marks bracket marks
  · rw [compileErrors_eq]
    exact nodup_spans_errors customTypes 0 t

theorem compile_ranges_and_spans_unexpected :
    let t : Text := "é] \x7by:\x7d".toList
    ⟨.unexpected .square, ⟨2, 3⟩⟩ ∈ compileErrors [] t ∧
      ∃ w, t.slice? ⟨2, 3⟩ = some w ∧ w = "]".toList ∧
        ∃ intro, "unexpected ']'" = intro ++ ("'" ++ String.ofList w ++ "'") := by
  intro t
  have scanned : ⟨.unexpected .square, ⟨2, 3⟩⟩ ∈ scanErrors [] (marks 0 t) := by decide
  have member := mem_compileErrors_of_mem_scanErrors [] scanned
  obtain ⟨_, _, w, slice, _, marks, quoted⟩ := (compile_ranges_and_spans [] t).2.1 _ member
  exact ⟨member, w, slice, marks, quoted rfl⟩

end NoteTemplate
