import NoteTemplate.Proofs.Template.Partition

namespace NoteTemplate

def CompileFault.isBracket : CompileFault → Bool
  | .unexpected _ | .mismatched _ _ _ | .unclosed _ => true
  | .missingType | .missingSubPattern => false

/-- Faults of variables in a text, from left to right. The span of each is a whole variable in which
brackets pair up, and no two of these variables overlap. -/
inductive VariableErrors : Nat → Text → List CompileError → Prop
  | nil {offset : Nat} {t : Text} : VariableErrors offset t []
  | cons {offset : Nat} {before s after : Text} {why : CompileFault} {es : List CompileError}
      (typed : why.isBracket = false) (awake : endsInBackslash before = false)
      (inside : Balanced none s)
      (rest : VariableErrors (offset + before.byteLength + (Bracket.curly.enclose s).byteLength)
        after es) :
      VariableErrors offset (before ++ (Bracket.curly.enclose s ++ after))
        (⟨why, offset + before.byteLength,
          offset + before.byteLength + (Bracket.curly.enclose s).byteLength⟩ :: es)

section Variables

variable {offset : Nat} {s t : Text} {es es' : List CompileError}

theorem VariableErrors.prepend (awake : endsInBackslash s = false)
    (errors : VariableErrors (offset + s.byteLength) t es) : VariableErrors offset (s ++ t) es := by
  cases errors with
  | nil => exact .nil
  | @cons _ before inner after why es typed outside inside rest =>
      rw [← List.append_assoc, Nat.add_assoc, ← Text.byteLength_append]
      refine .cons typed ((endsInBackslash_append awake before).trans outside) inside ?_
      rwa [Text.byteLength_append, ← Nat.add_assoc]

theorem VariableErrors.append (awake : endsInBackslash s = false)
    (first : VariableErrors offset s es) (second : VariableErrors (offset + s.byteLength) t es') :
    VariableErrors offset (s ++ t) (es ++ es') := by
  induction first with
  | nil => exact second.prepend awake
  | @cons offset before inner after why es typed outside inside rest ih =>
      have whole := (inside.enclose .curly).awake
      rw [endsInBackslash_append outside, endsInBackslash_append whole] at awake
      have ahead : before ++ (Bracket.curly.enclose inner ++ after) ++ t =
          before ++ (Bracket.curly.enclose inner ++ (after ++ t)) := by
        simp only [List.append_assoc]
      rw [ahead]
      refine .cons typed outside inside (ih awake ?_)
      rwa [Text.byteLength_append, Text.byteLength_append, ← Nat.add_assoc,
        ← Nat.add_assoc] at second

theorem VariableErrors.enclose (errors : VariableErrors (offset + 1) s es) (b : Bracket)
    (awake : endsInBackslash s = false) : VariableErrors offset (b.enclose s) es := by
  have inside : VariableErrors (offset + 1) (s ++ [b.closer]) (es ++ []) :=
    errors.append awake .nil
  rw [List.append_nil] at inside
  have opened := (scanUnit_opener b).awake
  refine VariableErrors.prepend (s := [b.opener]) opened ?_
  rwa [byteLength_opener]

theorem VariableErrors.isBracket_eq_false (errors : VariableErrors offset t es) :
    ∀ e ∈ es, e.fault.isBracket = false := by
  induction errors with
  | nil => exact fun e member => absurd member List.not_mem_nil
  | cons typed _ _ _ ih => exact List.forall_mem_cons.mpr ⟨typed, ih⟩

theorem VariableErrors.filter_not_isBracket (errors : VariableErrors offset t es) :
    es.filter (fun e => !e.fault.isBracket) = es := by
  rw [List.filter_eq_self]
  intro e member
  simp [errors.isBracket_eq_false e member]

theorem VariableErrors.filter_isBracket (errors : VariableErrors offset t es) :
    es.filter (·.fault.isBracket) = [] := by
  rw [List.filter_eq_nil_iff]
  intro e member
  simp [errors.isBracket_eq_false e member]

theorem VariableErrors.eq_nil (errors : VariableErrors offset [] es) : es = [] := by
  generalize whole : ([] : Text) = t at errors
  cases errors with
  | nil => rfl
  | cons => simp [Bracket.enclose] at whole

end Variables

section Scopes

variable {customTypes : List Text} {offset : Nat} {s t : Text}

/-- In texts up to some length, if brackets pair up in them, only variables are at fault. -/
def VariablesOnly (customTypes : List Text) (size : Nat) : Prop :=
  ∀ t, t.length ≤ size → Balanced none t → ∀ offset,
    VariableErrors offset t (compileFragment customTypes ⟨offset, t⟩).errors

theorem variableErrors_branches {size : Nat} (only : VariablesOnly customTypes size)
    (short : t.length ≤ size) (balanced : Balanced none t) (offset : Nat) :
    VariableErrors offset t (((Fragment.splitAt ⟨offset, t⟩ '|').map
      (compileFragment customTypes)).flatMap (·.errors)) := by
  have parts : Parts '|' offset t (Fragment.splitAt ⟨offset, t⟩ '|') :=
    parts_splitAt isPlain_bar balanced
  generalize Fragment.splitAt ⟨offset, t⟩ '|' = fs at parts
  clear balanced
  induction parts with
  | last whole => simpa using only _ short whole.unbar _
  | @part offset s t fs whole rest ih =>
      simp only [List.length_append, List.length_cons] at short
      have first := only s (by omega) whole.unbar offset
      have others := ih (by omega)
      exact first.append whole.awake (VariableErrors.prepend (s := ['|']) rfl others)

theorem variableErrors_invalid {why : CompileFault} (typed : why.isBracket = false)
    (inside : Balanced none s) (offset : Nat) : VariableErrors offset (Bracket.curly.enclose s)
      [⟨why, Fragment.braced ⟨offset + 1, s⟩⟩] := by
  have span : Fragment.braced ⟨offset + 1, s⟩ =
      ⟨offset + Text.byteLength [],
        offset + Text.byteLength [] + (Bracket.curly.enclose s).byteLength⟩ := by
    simp only [Fragment.braced, Fragment.stop, Bracket.byteLength_enclose, Text.byteLength,
      Span.mk.injEq]
    omega
  have whole : VariableErrors offset ([] ++ (Bracket.curly.enclose s ++ [])) [⟨why, _⟩] :=
    .cons typed rfl inside .nil
  rw [span]
  simpa using whole

theorem variableErrors_slot (only : VariablesOnly customTypes s.length)
    (balanced : Balanced none s) (offset : Nat) : VariableErrors offset (Bracket.curly.enclose s)
      ((Piece.scope .curly ⟨offset + 1, s⟩).compile customTypes).errors := by
  rcases balanced.split ':' with whole | ⟨n, type, rfl, whole, typed⟩
  · rw [Piece.compile, ofFragment_untyped whole]
    by_cases database : unescape s = InputType.database.name
    · rw [if_pos database]
      exact .nil
    · rw [if_neg database]
      exact .nil
  · rw [Piece.compile, ofFragment_typed whole]
    by_cases database : unescape n = InputType.database.name
    · rw [if_pos database]
      exact .nil
    · rw [if_neg database]
      by_cases empty : type = []
      · simp only [VariableForm.ofType, empty, List.isEmpty_nil, if_true]
        rw [← empty]
        exact variableErrors_invalid rfl balanced offset
      · cases known : InputType.ofBuiltinName? type with
        | some inputType =>
            by_cases bare : inputType = .match
            · simp only [VariableForm.ofType, List.isEmpty_iff, empty, if_false, known, bare]
              exact variableErrors_invalid rfl balanced offset
            · rw [ofType_builtin known bare]
              exact .nil
        | none =>
            by_cases member : type ∈ customTypes
            · rw [ofType_custom empty known member]
              exact .nil
            · rw [ofType_nested empty known member]
              have shorter : type.length ≤ (n ++ ':' :: type).length := by
                simp only [List.length_append, List.length_cons]
                omega
              have inner := only type shorter typed (offset + 1 + n.byteLength + 1)
              have behind : VariableErrors (offset + 1) (n ++ (':' :: type)) _ :=
                VariableErrors.prepend whole.awake (VariableErrors.prepend (s := [':']) rfl inner)
              exact behind.enclose .curly balanced.awake

theorem variableErrors_scope (only : VariablesOnly customTypes s.length) (b : Bracket)
    (balanced : Balanced none s) (offset : Nat) : VariableErrors offset (b.enclose s)
      ((Piece.scope b ⟨offset + 1, s⟩).compile customTypes).errors := by
  have short := Nat.le_refl s.length
  cases b with
  | curly => exact variableErrors_slot only balanced offset
  | square => exact (only s short balanced _).enclose .square balanced.awake
  | round => exact (variableErrors_branches only short balanced _).enclose .round balanced.awake
  | angle => exact (variableErrors_branches only short balanced _).enclose .angle balanced.awake

theorem variablesOnly (customTypes : List Text) (size : Nat) : VariablesOnly customTypes size := by
  induction size with
  | zero =>
      intro t short _ offset
      obtain rfl := List.length_eq_zero_iff.mp (Nat.le_zero.mp short)
      rw [compileFragment_nil]
      exact .nil
  | succ size ih =>
      intro t short balanced offset
      rcases t with _ | ⟨c, t⟩
      · rw [compileFragment_nil]
        exact .nil
      rw [List.length_cons] at short
      obtain ⟨plain, rest⟩ | ⟨d, rest, rfl, rfl, ending⟩ | ⟨b, s, rest, rfl, rfl, inside, ending⟩ :=
        balanced.cons_cases
      · rw [compileFragment_plain plain]
        have behind := ih t (by omega) rest (offset + c.utf8Size)
        exact VariableErrors.prepend (ScanUnit.single plain.2.2).awake behind
      · rw [List.length_cons] at short
        rw [compileFragment_escaped]
        refine VariableErrors.prepend (s := ['\\', d]) rfl ?_
        rw [byteLength_escaped, ← Nat.add_assoc]
        exact ih rest (by omega) ending _
      · rw [List.length_append, List.length_cons] at short
        rw [← Bracket.enclose_append, compileFragment_scope b inside]
        have within : VariablesOnly customTypes s.length := fun u bound => ih u (by omega)
        have scope := variableErrors_scope within b inside offset
        exact scope.append (inside.enclose b).awake (ih rest (by omega) ending _)

theorem Level.errors (customTypes : List Text) {ps : List Piece} (level : Level offset t ps)
    (brackets : ∀ e, .fault e ∈ ps → e.fault.isBracket = true) :
    VariableErrors offset t ((ps.flatMap fun piece => (piece.compile customTypes).errors).filter
      fun e => !e.fault.isBracket) ∧
    (ps.flatMap fun piece => (piece.compile customTypes).errors).filter (·.fault.isBracket) =
      ps.filterMap Piece.fault? := by
  induction level with
  | nil => exact ⟨.nil, rfl⟩
  | backslash => exact ⟨.nil, rfl⟩
  | @literal offset s t c ps spelled rest ih =>
      obtain ⟨slots, faults⟩ := ih fun e member => brackets e (List.mem_cons_of_mem _ member)
      exact ⟨slots.prepend spelled.awake, faults⟩
  | @scope offset b s t ps inside rest ih =>
      obtain ⟨slots, faults⟩ := ih fun e member => brackets e (List.mem_cons_of_mem _ member)
      have scope : VariableErrors offset (b.enclose s)
          ((Piece.scope b ⟨offset + 1, s⟩).compile customTypes).errors :=
        variableErrors_scope (variablesOnly customTypes _) b inside offset
      rw [List.flatMap_cons, List.filter_append, List.filter_append, scope.filter_not_isBracket,
        scope.filter_isBracket]
      exact ⟨scope.append (inside.enclose b).awake slots, faults⟩
  | @broken offset s t ps es nonempty ends rest ih =>
      obtain ⟨slots, faults⟩ := ih fun e member => brackets e (List.mem_append_right _ member)
      have all : ∀ e ∈ es, e.fault.isBracket = true := fun e member =>
        brackets e (List.mem_append_left _ (List.mem_map_of_mem member))
      have compiled : ((es.map Piece.fault).flatMap fun piece =>
          (piece.compile customTypes).errors) = es := by
        rw [List.flatMap_map]
        exact List.flatMap_singleton' es
      have none : es.filter (fun e => !e.fault.isBracket) = [] := by
        rw [List.filter_eq_nil_iff]
        intro e member
        simp [all e member]
      rw [List.flatMap_append, compiled, List.filter_append, List.filter_append,
        List.filter_eq_self.mpr all, none]
      refine ⟨?_, ?_⟩
      · rcases ends with closes | rfl
        · exact slots.prepend closes.1
        · rw [slots.eq_nil]
          exact .nil
      · rw [List.filterMap_append, faults, List.filterMap_map]
        congr 1
        exact (List.filterMap_some).symm

end Scopes

end NoteTemplate
