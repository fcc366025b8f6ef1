import NoteTemplate.Proofs.Template.VariableFaults
import Mathlib.Tactic.Tauto

/-!
What `compile` reports: the faults of brackets are those of one scan over the whole template, each
error stands at the text that it speaks of, and a scope with a bracket fault adds nothing else.
-/
namespace NoteTemplate

def compileErrors (customTypes : List Text) (t : Text) : List CompileError :=
  match compile t customTypes with
  | .ok _ => []
  | .error es => es

theorem compileErrors_eq (customTypes : List Text) (t : Text) :
    compileErrors customTypes t = (compileFragment customTypes ⟨0, t⟩).errors := by
  rw [compileErrors, compile]
  cases found : (compileFragment customTypes ⟨0, t⟩).errors with
  | nil => rfl
  | cons e es => rfl

section Positions

/-- A text stands in another one, whose byte offset is given, under a span and outside an escape. -/
def StandsAt (offset : Nat) (t w : Text) (span : Span) : Prop :=
  ∃ before after, t = before ++ (w ++ after) ∧ endsInBackslash before = false ∧
    span = ⟨offset + before.byteLength, offset + before.byteLength + w.byteLength⟩

namespace Mark

def char : Mark → Char
  | .opening o => o.bracket.opener
  | .closing b _ => b.closer

def offset : Mark → Nat
  | .opening o => o.offset
  | .closing _ offset => offset

end Mark

def CompileFault.Marks : CompileFault → Text → Prop
  | .unexpected found, w | .mismatched _ _ found, w => w = [found.closer]
  | .unclosed opened, w => w = [opened.opener]
  | .missingType, w | .missingSubPattern, w =>
    ∃ s, w = Bracket.curly.enclose s ∧ Balanced none s

variable {offset : Nat} {t u w : Text} {span : Span} {opened : List Opened} {ms : List Mark}

theorem StandsAt.prepend (awake : endsInBackslash u = false)
    (stands : StandsAt (offset + u.byteLength) t w span) : StandsAt offset (u ++ t) w span := by
  obtain ⟨before, after, rfl, outside, rfl⟩ := stands
  refine ⟨u ++ before, after, (List.append_assoc _ _ _).symm, ?_, ?_⟩
  · rw [endsInBackslash_append awake, outside]
  · rw [Text.byteLength_append, Nat.add_assoc]

theorem byteLength_char (m : Mark) : Text.byteLength [m.char] = 1 := by
  cases m with
  | opening o => exact byteLength_opener o.bracket
  | closing b offset => exact byteLength_closer b

theorem ScanUnit.marks_cases (unit : ScanUnit u) (offset : Nat) : marks offset u = [] ∨
    ∃ m, marks offset u = [m] ∧ u = [m.char] ∧ m.offset = offset := by
  cases unit with
  | escaped c => exact .inl rfl
  | @single c unescaped =>
      rcases char_cases c with rfl | ⟨b, rfl⟩ | ⟨b, rfl⟩ | plain
      · exact absurd rfl unescaped
      · exact .inr ⟨_, marks_opener b [], rfl, rfl⟩
      · exact .inr ⟨_, marks_closer b [], rfl, rfl⟩
      · exact .inl (marks_plain plain [])

theorem standsAt_of_mem_marks {m : Mark} (member : m ∈ marks offset t) :
    StandsAt offset t [m.char] ⟨m.offset, m.offset + 1⟩ := by
  induction t using unit_induction generalizing offset with
  | nil => cases member
  | backslash => cases member
  | unit u t unit ih =>
      rw [unit.marks_append, List.mem_append] at member
      rcases member with member | member
      · rcases unit.marks_cases offset with none | ⟨m', alone, rfl, place⟩
        · rw [none] at member
          cases member
        · rw [alone] at member
          obtain rfl := List.mem_singleton.mp member
          refine ⟨[], t, rfl, rfl, ?_⟩
          rw [byteLength_char, place]
          rfl
      · exact (ih member).prepend unit.awake

theorem exists_mark_of_mem_scanErrors {e : CompileError} (member : e ∈ scanErrors opened ms) :
    ∃ m ∈ opened.map Mark.opening ++ ms, e.span = ⟨m.offset, m.offset + 1⟩ ∧
      e.fault.Marks [m.char] ∧ e.fault.isBracket = true := by
  induction ms generalizing opened with
  | nil =>
      obtain ⟨o, left, rfl⟩ := List.mem_map.mp member
      have inside : Mark.opening o ∈ opened.map Mark.opening :=
        List.mem_map_of_mem (List.mem_reverse.mp left)
      exact ⟨.opening o, List.mem_append_left _ inside, rfl, rfl, rfl⟩
  | cons m ms ih =>
      rcases m with o | ⟨b, place⟩
      · obtain ⟨m, inside, found⟩ := @ih (o :: opened) member
        refine ⟨m, ?_, found⟩
        simp only [List.map_cons, List.mem_append, List.mem_cons] at inside ⊢
        tauto
      · have first : Mark.closing b place ∈ opened.map Mark.opening ++ .closing b place :: ms :=
          List.mem_append_right _ List.mem_cons_self
        rcases opened with _ | ⟨o, outer⟩
        · rcases List.mem_cons.mp member with rfl | later
          · exact ⟨.closing b place, first, rfl, rfl, rfl⟩
          · obtain ⟨m, inside, found⟩ := ih later
            exact ⟨m, List.mem_cons_of_mem _ inside, found⟩
        · have widen {m : Mark} (inside : m ∈ outer.map Mark.opening ++ ms) :
              m ∈ (o :: outer).map Mark.opening ++ .closing b place :: ms := by
            simp only [List.map_cons, List.mem_append, List.mem_cons] at inside ⊢
            tauto
          rw [scanErrors_closing] at member
          split at member
          · obtain ⟨m, inside, found⟩ := ih member
            exact ⟨m, widen inside, found⟩
          · rcases List.mem_cons.mp member with rfl | later
            · exact ⟨.closing b place, first, rfl, rfl, rfl⟩
            · obtain ⟨m, inside, found⟩ := ih later
              exact ⟨m, widen inside, found⟩

theorem StandsAt.bounds (stands : StandsAt offset t w span) :
    offset ≤ span.start ∧ span.stop = span.start + w.byteLength ∧
      span.stop ≤ offset + t.byteLength := by
  obtain ⟨before, after, rfl, _, rfl⟩ := stands
  refine ⟨Nat.le_add_right _ _, rfl, ?_⟩
  rw [Text.byteLength_append, Text.byteLength_append]
  show offset + before.byteLength + w.byteLength ≤ _
  omega

theorem CompileFault.byteLength_pos {fault : CompileFault} (marks : fault.Marks w) :
    0 < w.byteLength := by
  cases fault with
  | unexpected found | mismatched _ _ found =>
      rw [show w = _ from marks, byteLength_closer]
      exact Nat.one_pos
  | unclosed o =>
      rw [show w = _ from marks, byteLength_opener]
      exact Nat.one_pos
  | missingType | missingSubPattern =>
      obtain ⟨s, rfl, _⟩ := marks
      rw [Bracket.byteLength_enclose]
      omega

end Positions

section Reports

variable {customTypes : List Text} {offset : Nat} {t : Text} {e : CompileError}

theorem isBracket_of_fault_mem_pieces {opened : List Opened} {body : Text} {sound : Bool}
    (member : .fault e ∈ pieces offset opened body sound t) : e.fault.isBracket = true := by
  have found : e ∈ (pieces offset opened body sound t).filterMap Piece.fault? :=
    List.mem_filterMap.mpr ⟨_, member, rfl⟩
  rw [filterMap_pieces] at found
  obtain ⟨m, _, _, _, bracket⟩ := exists_mark_of_mem_scanErrors found
  exact bracket

theorem errors_compileFragment (f : Fragment) : (compileFragment customTypes f).errors =
    f.pieces.flatMap fun piece => (piece.compile customTypes).errors := by
  rw [compileFragment_eq, Compiled.errors_concat, List.flatMap_map]

theorem filter_isBracket_errors (customTypes : List Text) (offset : Nat) (t : Text) :
    (compileFragment customTypes ⟨offset, t⟩).errors.filter (·.fault.isBracket) =
      scanErrors [] (marks offset t) := by
  have level := (level_pieces offset t).errors customTypes
    fun e member => isBracket_of_fault_mem_pieces member
  rw [errors_compileFragment]
  exact level.2.trans (filterMap_pieces t)

theorem mem_compileErrors_of_mem_scanErrors (customTypes : List Text)
    (scanned : e ∈ scanErrors [] (marks 0 t)) : e ∈ compileErrors customTypes t := by
  rw [← filter_isBracket_errors customTypes, ← compileErrors_eq] at scanned
  exact (List.mem_filter.mp scanned).1

theorem variableErrors_errors (customTypes : List Text) (offset : Nat) (t : Text) :
    VariableErrors offset t
      ((compileFragment customTypes ⟨offset, t⟩).errors.filter fun e => !e.fault.isBracket) := by
  have level := (level_pieces offset t).errors customTypes
    fun e member => isBracket_of_fault_mem_pieces member
  rw [errors_compileFragment]
  exact level.1

theorem VariableErrors.standsAt {es : List CompileError} (errors : VariableErrors offset t es) :
    ∀ e ∈ es, ∃ w, e.fault.Marks w ∧ StandsAt offset t w e.span := by
  induction errors with
  | nil => exact fun e member => absurd member List.not_mem_nil
  | @cons offset before s after why es typed awake inside rest ih =>
      refine List.forall_mem_cons.mpr ⟨⟨Bracket.curly.enclose s, ?_, ?_⟩, fun e later => ?_⟩
      · cases why with
        | missingType | missingSubPattern => exact ⟨s, rfl, inside⟩
        | unexpected | mismatched | unclosed => cases typed
      · exact ⟨before, after, rfl, awake, rfl⟩
      · obtain ⟨w, marks, stands⟩ := ih e later
        exact ⟨w, marks, (stands.prepend (inside.enclose .curly).awake).prepend awake⟩

/-- Each fault stands at the text that it speaks of. -/
theorem standsAt_of_mem_errors (member : e ∈ (compileFragment customTypes ⟨offset, t⟩).errors) :
    ∃ w, e.fault.Marks w ∧ StandsAt offset t w e.span := by
  cases bracket : e.fault.isBracket with
  | true =>
      have found : e ∈ scanErrors [] (marks offset t) := by
        rw [← filter_isBracket_errors customTypes]
        exact List.mem_filter.mpr ⟨member, bracket⟩
      obtain ⟨m, inside, span, marks, _⟩ := exists_mark_of_mem_scanErrors found
      exact ⟨[m.char], marks, span ▸ standsAt_of_mem_marks inside⟩
  | false =>
      apply (variableErrors_errors customTypes offset t).standsAt e
      exact List.mem_filter.mpr ⟨member, by simp [bracket]⟩

theorem bounds_of_mem_errors (member : e ∈ (compileFragment customTypes ⟨offset, t⟩).errors) :
    offset ≤ e.span.start ∧ e.span.start < e.span.stop ∧
      e.span.stop ≤ offset + t.byteLength := by
  obtain ⟨w, marks, stands⟩ := standsAt_of_mem_errors member
  have positive := CompileFault.byteLength_pos marks
  have bounds := stands.bounds
  omega

end Reports

/-- The stretch of an outermost scope in a template: from a bracket that opens where none is open
to where none is open again, or else to the end. -/
structure OutermostScope (before scope after : Text) : Prop where
  outside : Closes 0 [] before
  opens : ∃ (b : Bracket) (s : Text), scope = b.opener :: s
  held : ∀ n, n < scope.length → 0 < n →
    openAfter [] (marks before.byteLength (scope.take n)) ≠ []
  ends : Closes before.byteLength [] scope ∨ after = []

section Scopes

variable {customTypes : List Text} {before scope after : Text}

theorem OutermostScope.mem_errors (outermost : OutermostScope before scope after)
    {e : CompileError} (member : e ∈ compileErrors customTypes (before ++ (scope ++ after)))
    (start : before.byteLength ≤ e.span.start)
    (inside : e.span.start < before.byteLength + scope.byteLength) :
    e ∈ (compileFragment customTypes ⟨before.byteLength, scope⟩).errors := by
  rw [compileErrors_eq, compileFragment_append outermost.outside, Nat.zero_add] at member
  rcases List.mem_append.mp member with earlier | later
  · have bounds := bounds_of_mem_errors earlier
    omega
  · rcases outermost.ends with closes | rfl
    · rw [compileFragment_append closes] at later
      rcases List.mem_append.mp later with here | behind
      · exact here
      · have bounds := bounds_of_mem_errors behind
        omega
    · rwa [List.append_nil] at later

/-- A stretch that cannot be cut where no bracket is open is at fault with its brackets or with its
variables, not with both. -/
theorem Level.errors_cases {offset : Nat} {t : Text} {ps : List Piece} (level : Level offset t ps)
    (whole : ∀ u v, t = u ++ v → u ≠ [] → Closes offset [] u → v = [])
    (brackets : ∀ e, .fault e ∈ ps → e.fault.isBracket = true) :
    (∀ e ∈ ps.flatMap fun piece => (piece.compile customTypes).errors,
      e.fault.isBracket = true) ∨
    ∀ e ∈ ps.flatMap fun piece => (piece.compile customTypes).errors,
      e.fault.isBracket = false := by
  cases level with
  | nil => exact .inl fun e member => absurd member List.not_mem_nil
  | backslash => exact .inl fun e member => absurd member List.not_mem_nil
  | @literal _ s t c ps spelled rest =>
      have nonempty : s ≠ [] := by
        rintro rfl
        cases spelled
      have closes : Closes offset [] s :=
        ⟨spelled.awake, spelled.balanced.openAfter_marks offset []⟩
      obtain rfl := whole s t rfl nonempty closes
      rw [rest.eq_nil]
      exact .inl fun e member => absurd member List.not_mem_nil
  | @scope _ b s t ps inside rest =>
      have enclosed := inside.enclose b
      have closes : Closes offset [] (b.enclose s) :=
        ⟨enclosed.awake, enclosed.openAfter_marks offset []⟩
      obtain rfl := whole (b.enclose s) t rfl (List.cons_ne_nil _ _) closes
      have errors := variableErrors_scope (variablesOnly customTypes _) b inside offset
      rw [rest.eq_nil, List.flatMap_singleton]
      exact .inr errors.isBracket_eq_false
  | @broken _ s t ps es nonempty ends rest =>
      have last : t = [] := ends.elim (whole s t rfl nonempty) id
      subst last
      rw [rest.eq_nil, List.append_nil] at brackets ⊢
      refine .inl fun e member => ?_
      obtain ⟨piece, inside, compiled⟩ := List.mem_flatMap.mp member
      obtain ⟨e', found, rfl⟩ := List.mem_map.mp inside
      obtain rfl := List.mem_singleton.mp compiled
      exact brackets e inside

theorem OutermostScope.errors_cases (customTypes : List Text)
    (outermost : OutermostScope before scope after) :
    (∀ e ∈ (compileFragment customTypes ⟨before.byteLength, scope⟩).errors,
      e.fault.isBracket = true) ∨
    ∀ e ∈ (compileFragment customTypes ⟨before.byteLength, scope⟩).errors,
      e.fault.isBracket = false := by
  rw [errors_compileFragment]
  refine (level_pieces before.byteLength scope).errors_cases ?_
    fun e member => isBracket_of_fault_mem_pieces member
  rintro u v rfl nonempty closes
  rcases v with _ | ⟨c, v⟩
  · rfl
  · have held := outermost.held u.length (by simp) (List.length_pos_iff.mpr nonempty)
    rw [List.take_left] at held
    exact absurd closes.2 held

end Scopes

/-- What `compile` reports of brackets is what one scan over the whole template finds, in the same
order. Compiling the content of a scope adds nothing to it, and an outermost scope in which a
bracket is at fault adds no fault of a variable. -/
theorem filter_isBracket_compileErrors (customTypes : List Text) (t : Text) :
    (compileErrors customTypes t).filter (·.fault.isBracket) = scanErrors [] (marks 0 t) ∧
      (∀ b content, .scope b content ∈ Fragment.pieces ⟨0, t⟩ →
        ∀ e ∈ ((Piece.scope b content).compile customTypes).errors, e.fault.isBracket = false) ∧
      ∀ before scope after, t = before ++ (scope ++ after) → OutermostScope before scope after →
        (∃ e ∈ scanErrors [] (marks 0 t), before.byteLength ≤ e.span.start ∧
          e.span.start < before.byteLength + scope.byteLength) →
        ∀ e ∈ compileErrors customTypes t, before.byteLength ≤ e.span.start →
          e.span.start < before.byteLength + scope.byteLength → e.fault.isBracket = true := by
  have brackets : (compileErrors customTypes t).filter (·.fault.isBracket) =
      scanErrors [] (marks 0 t) := by
    rw [compileErrors_eq, filter_isBracket_errors]
  refine ⟨brackets, ?_, ?_⟩
  · intro b content member
    obtain ⟨before, after, _, place, inside⟩ := (level_pieces 0 t).exists_of_scope_mem member
    have errors := variableErrors_scope (variablesOnly customTypes _) b inside
      (0 + before.byteLength)
    rw [← place] at errors
    exact errors.isBracket_eq_false
  · rintro before scope after rfl outermost ⟨e, scanned, start, inside⟩
    rw [← brackets] at scanned
    obtain ⟨member, bracket⟩ := List.mem_filter.mp scanned
    rcases outermost.errors_cases customTypes with all | none
    · exact fun e' member' start' inside' => all e' (outermost.mem_errors member' start' inside')
    · rw [none e (outermost.mem_errors member start inside)] at bracket
      cases bracket

theorem filter_isBracket_compileErrors_mismatched :
    let t := "(\x7bx:\x7d] \x7by:\x7d".toList
    let scope := "(\x7bx:\x7d]".toList
    let rest := " \x7by:\x7d".toList
    OutermostScope [] scope rest ∧
      ⟨.mismatched .round 0 .square, ⟨5, 6⟩⟩ ∈ scanErrors [] (marks 0 t) ∧
      (∀ e ∈ compileErrors [] t, 0 ≤ e.span.start → e.span.start < 0 + 6 →
        e.fault.isBracket = true) ∧
      .scope .curly ⟨8, "y:".toList⟩ ∈ Fragment.pieces ⟨0, t⟩ ∧
      ∀ e ∈ ((Piece.scope .curly ⟨8, "y:".toList⟩).compile []).errors,
        e.fault.isBracket = false := by
  intro t scope rest
  have outermost : OutermostScope [] scope rest :=
    ⟨by decide, ⟨.round, "\x7bx:\x7d]".toList, rfl⟩, by decide, .inl (by decide)⟩
  have scanned : ⟨.mismatched .round 0 .square, ⟨5, 6⟩⟩ ∈ scanErrors [] (marks 0 t) := by decide
  have piece : .scope .curly ⟨8, "y:".toList⟩ ∈ Fragment.pieces ⟨0, t⟩ := by decide
  obtain ⟨_, inside, broken⟩ := filter_isBracket_compileErrors [] t
  exact ⟨outermost, scanned,
    broken [] scope rest rfl outermost ⟨_, scanned, by decide, by decide⟩,
    piece, inside _ _ piece⟩

end NoteTemplate
