import NoteTemplate.Proofs.Template.Parse
import NoteTemplate.Proofs.Template.Reports

namespace NoteTemplate

section Shift

def CompileFault.shift (n : Nat) : CompileFault → CompileFault
  | .unexpected found => .unexpected found
  | .mismatched opened offset found => .mismatched opened (n + offset) found
  | .unclosed opened => .unclosed opened
  | .missingType => .missingType
  | .missingSubPattern => .missingSubPattern

def Span.shift (n : Nat) (span : Span) : Span := ⟨n + span.start, n + span.stop⟩

def CompileError.shift (n : Nat) (e : CompileError) : CompileError :=
  ⟨e.fault.shift n, e.span.shift n⟩

def Opened.shift (n : Nat) (o : Opened) : Opened := ⟨o.bracket, n + o.offset⟩

def Fragment.shift (n : Nat) (f : Fragment) : Fragment := ⟨n + f.offset, f.text⟩

def Piece.shift (n : Nat) : Piece → Piece
  | .literal c => .literal c
  | .scope b content => .scope b (content.shift n)
  | .fault e => .fault (e.shift n)

def VariableForm.shift (n : Nat) : VariableForm → VariableForm
  | .plain v => .plain v
  | .nested name type => .nested name (type.shift n)
  | .invalid why => .invalid (why.shift n)

def Compiled.shift (n : Nat) (c : Compiled) : Compiled :=
  ⟨c.pattern, c.errors.map (CompileError.shift n)⟩

variable {n offset : Nat} {opened : List Opened} {body : Text} {sound : Bool}

theorem shift_closed (o : Opened) (content : Text) :
    Piece.closed sound (o.shift n) content =
      (Piece.closed sound o content).map (Piece.shift n) := by
  cases sound <;> rfl

theorem shift_unclosed (opened : List Opened) :
    (opened.map (Opened.shift n)).reverse.map (fun o => Piece.fault (.unclosed o)) =
      (opened.reverse.map fun o => .fault (.unclosed o)).map (Piece.shift n) := by
  rw [← List.map_reverse, List.map_map, List.map_map]
  rfl

theorem pieces_shift (n : Nat) (t : Text) :
    pieces (n + offset) (opened.map (Opened.shift n)) body sound t =
      (pieces offset opened body sound t).map (Piece.shift n) := by
  induction t using unit_induction generalizing offset opened body sound with
  | nil => exact shift_unclosed opened
  | backslash =>
      cases opened with
      | nil => rfl
      | cons o outer => exact shift_unclosed (o :: outer)
  | unit u t unit ih =>
      cases unit with
      | escaped c =>
          have place : n + offset + 1 + c.utf8Size = n + (offset + 1 + c.utf8Size) := by omega
          rw [List.cons_append, List.cons_append, List.nil_append]
          cases opened with
          | nil =>
              rw [List.map_nil, pieces_escaped, pieces_escaped, place]
              exact congrArg (.literal c :: ·) (@ih (offset + 1 + c.utf8Size) [] [] true)
          | cons o outer =>
              rw [List.map_cons, pieces_escaped_inside, pieces_escaped_inside, place]
              exact @ih (offset + 1 + c.utf8Size) (o :: outer) (c :: '\\' :: body) sound
      | @single c unescaped =>
          have fresh := @ih (offset + c.utf8Size) [] [] true
          rw [List.map_nil] at fresh
          rw [List.singleton_append, pieces_cons unescaped, pieces_cons unescaped,
            Nat.add_assoc n offset]
          cases opens : Bracket.ofOpener? c with
          | some b =>
              cases opened with
              | nil => exact @ih (offset + c.utf8Size) [⟨b, offset⟩] [] true
              | cons o outer =>
                  exact @ih (offset + c.utf8Size) (⟨b, offset⟩ :: o :: outer) (c :: body) sound
          | none =>
              cases closes : Bracket.ofCloser? c with
              | some b =>
                  rcases opened with _ | ⟨o, outer⟩
                  · exact congrArg _ fresh
                  · by_cases same : o.bracket = b
                    · subst same
                      cases outer with
                      | nil =>
                          simp only [List.map_cons, List.map_nil, Opened.shift, if_true,
                            List.isEmpty_nil, List.map_append]
                          exact congr (congrArg _ (shift_closed o body.reverse)) fresh
                      | cons o' outer =>
                          simp only [List.map_cons, Opened.shift, if_true, List.isEmpty_cons]
                          exact @ih (offset + c.utf8Size) (o' :: outer) (c :: body) sound
                    · simp only [List.map_cons, Opened.shift, same, if_false]
                      exact congrArg _ (@ih (offset + c.utf8Size) outer (c :: body) false)
              | none =>
                  cases opened with
                  | nil => exact congrArg _ fresh
                  | cons o outer => exact @ih (offset + c.utf8Size) (o :: outer) (c :: body) sound

theorem consFirst_shift (n offset : Nat) (c : Char) (fs : List Fragment) :
    consFirst (n + offset) c (fs.map (Fragment.shift n)) =
      (consFirst offset c fs).map (Fragment.shift n) := by
  cases fs <;> rfl

theorem splitTopLevel_shift {separator : Char} {depth : Nat} (n : Nat) (t : Text) :
    splitTopLevel separator depth (n + offset) t =
      (splitTopLevel separator depth offset t).map (Fragment.shift n) := by
  induction t using unit_induction generalizing depth offset with
  | nil => rfl
  | backslash => rfl
  | unit u t unit ih =>
      cases unit with
      | escaped c =>
          have place : n + offset + 1 + c.utf8Size = n + (offset + 1 + c.utf8Size) := by omega
          rw [List.cons_append, List.cons_append, List.nil_append, splitTopLevel_escaped,
            splitTopLevel_escaped, place, ih, ← consFirst_shift, ← consFirst_shift, Nat.add_assoc]
      | @single c unescaped =>
          rw [List.singleton_append, splitTopLevel_cons unescaped, splitTopLevel_cons unescaped,
            Nat.add_assoc]
          split
          · rw [ih, consFirst_shift]
          · split
            · rw [ih, consFirst_shift]
            · split
              · rw [ih]
                rfl
              · rw [ih, consFirst_shift]

theorem splitAt_shift (n : Nat) (f : Fragment) (separator : Char) :
    (f.shift n).splitAt separator = (f.splitAt separator).map (Fragment.shift n) :=
  splitTopLevel_shift n f.text

theorem ofFragment_shift (customTypes : List Text) (n : Nat) (content : Fragment) :
    VariableForm.ofFragment customTypes (content.shift n) =
      (VariableForm.ofFragment customTypes content).shift n := by
  have name : VariableForm.nameText (content.shift n) = VariableForm.nameText content := by
    rw [VariableForm.nameText, VariableForm.nameText, splitAt_shift]
    cases content.splitAt ':' <;> rfl
  have type : VariableForm.typeFragment? (content.shift n) =
      (VariableForm.typeFragment? content).map (Fragment.shift n) := by
    rw [VariableForm.typeFragment?, VariableForm.typeFragment?, splitAt_shift]
    rcases content.splitAt ':' with _ | ⟨_, _ | _⟩ <;> rfl
  simp only [VariableForm.ofFragment, VariableForm.name?, name, type]
  split
  · rfl
  · cases VariableForm.typeFragment? content with
    | none => rfl
    | some type =>
        simp only [Option.map_some, VariableForm.ofType, Fragment.shift]
        repeat' split
        all_goals rfl

end Shift

section Compile

variable {customTypes : List Text}

theorem shift_concat (n : Nat) (parts : List Compiled) :
    Compiled.concat (parts.map (Compiled.shift n)) = (Compiled.concat parts).shift n := by
  induction parts with
  | nil => rfl
  | cons part parts ih =>
      have step (p : Compiled) (ps : List Compiled) :
          Compiled.concat (p :: ps) = p.append (Compiled.concat ps) := rfl
      rw [List.map_cons, step, step, ih]
      simp [Compiled.append, Compiled.shift]

theorem shift_wrapBranches (n : Nat) (token : List Pattern → Token) (parts : List Compiled) :
    Compiled.wrapBranches token (parts.map (Compiled.shift n)) =
      (Compiled.wrapBranches token parts).shift n := by
  simp [Compiled.wrapBranches, Compiled.shift, List.flatMap_map, List.map_flatMap,
    Function.comp_def]

theorem braced_shift (n : Nat) {content : Fragment} (inside : 1 ≤ content.offset) :
    (content.shift n).braced = content.braced.shift n := by
  simp only [Fragment.braced, Fragment.stop, Fragment.shift, Span.shift, Span.mk.injEq]
  omega

theorem compileFragment_shift (customTypes : List Text) (n : Nat) (f : Fragment) :
    compileFragment customTypes (f.shift n) = (compileFragment customTypes f).shift n := by
  induction size : f.text.length using Nat.strongRecOn generalizing f with
  | ind m ih =>
      have moved : (f.shift n).pieces = f.pieces.map (Piece.shift n) :=
        @pieces_shift f.offset [] [] true n f.text
      rw [compileFragment_eq, compileFragment_eq, moved, ← shift_concat, List.map_map, List.map_map]
      congr 1
      apply List.map_congr_left
      rintro (c | ⟨b, content⟩ | e) member
      · rfl
      · have shorter : content.text.length < m := by
          have bound := length_lt_of_scope_mem_pieces _ _ _ _ _ _ _ member
          simpa [size] using bound
        obtain ⟨before, _, _, place, _⟩ := (level_pieces f.offset f.text).exists_of_scope_mem member
        have whole := ih content.text.length shorter content rfl
        have branches : ((content.shift n).splitAt '|').map (compileFragment customTypes) =
            ((content.splitAt '|').map (compileFragment customTypes)).map (Compiled.shift n) := by
          rw [splitAt_shift, List.map_map, List.map_map]
          apply List.map_congr_left
          intro branch part
          have bound := length_le_of_mem_splitTopLevel _ _ _ _ _ part
          exact ih branch.text.length (Nat.lt_of_le_of_lt bound shorter) branch rfl
        cases b with
        | curly =>
            simp only [Function.comp_apply, Piece.shift, Piece.compile, ofFragment_shift]
            cases form : VariableForm.ofFragment customTypes content with
            | plain v => rfl
            | nested name type =>
                have bound := VariableForm.length_le_of_ofFragment form
                have nested := ih type.text.length (Nat.lt_of_le_of_lt bound shorter) type rfl
                simp only [VariableForm.shift, nested]
                rfl
            | invalid why =>
                have inside : 1 ≤ content.offset := by omega
                simp only [VariableForm.shift, braced_shift n inside]
                rfl
        | square =>
            simp only [Function.comp_apply, Piece.shift, Piece.compile, whole]
            rfl
        | round =>
            simp only [Function.comp_apply, Piece.shift, Piece.compile, branches,
              shift_wrapBranches]
        | angle =>
            simp only [Function.comp_apply, Piece.shift, Piece.compile, branches,
              shift_wrapBranches]
      · rfl

end Compile

namespace Pattern

theorem glue_texts (p : Pattern) (s u : Text) (q : Pattern) :
    glue (p ++ [.text s]) (.text u :: q) = p ++ .text (s ++ u) :: q := by
  induction p with
  | nil => rfl
  | cons token p ih =>
      rw [List.cons_append, glue_cons token (by simp), ih, List.cons_append]

theorem glue_apart {p q : Pattern}
    (apart : (∀ p' s, p ≠ p' ++ [.text s]) ∨ ∀ u q', q ≠ .text u :: q') : glue p q = p ++ q := by
  induction p with
  | nil => rfl
  | cons token p ih =>
      by_cases longer : p = []
      · subst longer
        rcases q with _ | ⟨next, q⟩
        · rw [glue_nil, List.append_nil]
        · cases token with
          | text s =>
              cases next with
              | text u => exact (apart.elim (· [] s rfl) (· u q rfl)).elim
              | _ => rfl
          | _ => rfl
      · rw [glue_cons token longer, ih (apart.imp_left fun noText p' s same =>
          noText (token :: p') s (congrArg (token :: ·) same)), List.cons_append]

end Pattern

theorem compileFragment_concat (customTypes : List Text) {s : Text} (closes : Closes 0 [] s)
    (t : Text) : compileFragment customTypes ⟨0, s ++ t⟩ =
      (compileFragment customTypes ⟨0, s⟩).append
        ((compileFragment customTypes ⟨0, t⟩).shift s.byteLength) := by
  have moved := compileFragment_shift customTypes s.byteLength ⟨0, t⟩
  rw [compileFragment_append closes, Nat.zero_add, ← moved]
  rfl

theorem compile_eq_ok_glue {customTypes : List Text} {s t : Text} {p q : Pattern}
    (closes : Closes 0 [] s) (first : compile s customTypes = .ok p)
    (second : compile t customTypes = .ok q) :
    compile (s ++ t) customTypes = .ok (Pattern.glue p q) := by
  rw [compile_eq_ok_iff] at first second ⊢
  rw [compileFragment_concat customTypes closes, first, second]
  rfl

/-- Behind a text that leaves no bracket open and does not end in a lone backslash, a template has
the errors that it has alone, moved by the length of that text, and the text has its own; and when
both compile their tokens follow each other, with a text at the end of the first and a text at the
start of the second made one. -/
theorem compile_append (customTypes : List Text) {s : Text} (closes : Closes 0 [] s) (t : Text) :
    compileErrors customTypes (s ++ t) = compileErrors customTypes s ++
        (compileErrors customTypes t).map (CompileError.shift s.byteLength) ∧
      (∀ p u v q, compile s customTypes = .ok (p ++ [.text u]) →
        compile t customTypes = .ok (.text v :: q) →
          compile (s ++ t) customTypes = .ok (p ++ .text (u ++ v) :: q)) ∧
      ∀ p q, compile s customTypes = .ok p → compile t customTypes = .ok q →
        (∀ p' u, p ≠ p' ++ [.text u]) ∨ (∀ v q', q ≠ .text v :: q') →
          compile (s ++ t) customTypes = .ok (p ++ q) := by
  refine ⟨?_, fun p u v q first second => ?_, fun p q first second apart => ?_⟩
  · rw [compileErrors_eq, compileErrors_eq, compileErrors_eq,
      compileFragment_concat customTypes closes]
    rfl
  · rw [compile_eq_ok_glue closes first second, Pattern.glue_texts]
  · rw [compile_eq_ok_glue closes first second, Pattern.glue_apart apart]

theorem compile_append_optional :
    let faulty : Text := "(\x7bx:\x7d] ".toList
    let optional : Token := .optional [.text "c".toList]
    Closes 0 [] faulty ∧
      compileErrors [] (faulty ++ "\x7by:\x7d)".toList) = compileErrors [] faulty ++
        (compileErrors [] "\x7by:\x7d)".toList).map (CompileError.shift 7) ∧
      compile ("a".toList ++ "b[c]".toList) [] = .ok [.text "ab".toList, optional] ∧
      compile ("a".toList ++ "[c]".toList) [] = .ok [.text "a".toList, optional] := by
  intro faulty optional
  have letter (last : Bool) (c : Char) (plain : IsPlain c) : Spells IsPlain last [c] [c] :=
    .bare plain plain.2.2 .nil
  have scope : Derives [] (.scope optional) "[c]".toList :=
    .optional (.literal (letter false 'c' (by decide)) (by decide))
  have first : compile "a".toList [] = .ok [.text "a".toList] :=
    Derives.compile_eq (.literal (letter true 'a' (by decide)) (by decide))
  have second : compile "[c]".toList [] = .ok [optional] :=
    Derives.compile_eq (.scope scope .empty)
  have both : compile "b[c]".toList [] = .ok [.text "b".toList, optional] :=
    Derives.compile_eq (.literalScope (letter false 'b' (by decide)) (by decide) scope .empty)
  have closes : Closes 0 [] faulty := by decide
  have alone : Closes 0 [] "a".toList := by decide
  have apart : ∀ v q, [optional] ≠ .text v :: q := by
    intro v q
    simp [optional]
  exact ⟨closes, (compile_append [] closes _).1,
    (compile_append [] alone _).2.1 [] _ _ _ first both,
    (compile_append [] alone _).2.2 _ _ first second (.inr apart)⟩

end NoteTemplate
