import NoteTemplate.Proofs.Template.Scan

namespace NoteTemplate

section Spelling

variable {bare : Char → Prop} {last : Bool} {s t u v : Text}

theorem Spells.append (first : Spells bare false s u) (second : Spells bare last t v) :
    Spells bare last (s ++ t) (u ++ v) := by
  induction first with
  | nil => exact second
  | bare allowed unescaped _ ih => exact .bare allowed unescaped ih
  | escaped c _ ih => exact .escaped c ih
  | backslash final => cases final

theorem Spells.unescape_eq (spelled : Spells bare last t u) : unescape t = u := by
  induction spelled with
  | nil => rfl
  | bare _ unescaped _ ih => simp [unescape, unescaped, ih]
  | escaped c _ ih => rw [unescape, ih]
  | backslash _ => rfl

theorem spells_single {c : Char} (unescaped : c ≠ '\\') : Spells (fun _ => True) false [c] [c] :=
  .bare trivial unescaped .nil

theorem Balanced.spells {barred : Option Char} (balanced : Balanced barred t) :
    Spells (fun _ => True) false t (unescape t) := by
  obtain ⟨u, spelled⟩ : ∃ u, Spells (fun _ => True) false t u := by
    induction balanced with
    | nil => exact ⟨[], .nil⟩
    | plain bare _ _ ih =>
        obtain ⟨u, spelled⟩ := ih
        exact ⟨_, .bare trivial bare.2.2 spelled⟩
    | escaped c _ ih =>
        obtain ⟨u, spelled⟩ := ih
        exact ⟨_, .escaped c spelled⟩
    | scope b _ _ inside rest =>
        obtain ⟨u, inner⟩ := inside
        obtain ⟨v, outer⟩ := rest
        have opener := spells_single b.opener_ne_backslash
        have closer := spells_single b.closer_ne_backslash
        exact ⟨_, ((opener.append inner).append closer).append outer⟩
  rwa [spelled.unescape_eq]

theorem Balanced.names (whole : Balanced (some ':') t) : Names t (unescape t) :=
  ⟨whole, whole.spells⟩

theorem Spells.balanced (spelled : Spells IsPlain false t u) : Balanced none t := by
  induction spelled with
  | nil => exact .nil
  | bare allowed _ _ ih => exact .cons allowed ih
  | escaped c _ ih => exact .escaped c ih
  | backslash final => cases final

end Spelling

theorem isPlain_colon : IsPlain ':' := ⟨rfl, rfl, by decide⟩

theorem isPlain_bar : IsPlain '|' := ⟨rfl, rfl, by decide⟩

section Variables

variable {customTypes : List Text} {offset : Nat} {n : Text}

theorem ofFragment_untyped (whole : Balanced (some ':') n) :
    VariableForm.ofFragment customTypes ⟨offset, n⟩ =
      if unescape n = InputType.database.name then .plain (.plain none .database)
      else .plain (.plain (givenName (unescape n)) .text) := by
  have parts : Fragment.splitAt ⟨offset, n⟩ ':' = _ := splitAt_whole whole
  simp only [VariableForm.ofFragment, VariableForm.nameText, VariableForm.name?,
    VariableForm.typeFragment?, parts, givenName]

theorem ofFragment_typed (whole : Balanced (some ':') n) (t : Text) :
    VariableForm.ofFragment customTypes ⟨offset, n ++ ':' :: t⟩ =
      if unescape n = InputType.database.name then .plain (.plain none .database)
      else .ofType customTypes (givenName (unescape n)) ⟨offset + n.byteLength + 1, t⟩ := by
  obtain ⟨s, fs, first⟩ : ∃ s fs, splitTopLevel ':' 0 (offset + n.byteLength + 1) t =
      ⟨offset + n.byteLength + 1, s⟩ :: fs := exists_splitTopLevel t
  have parts : Fragment.splitAt ⟨offset, n ++ ':' :: t⟩ ':' =
      ⟨offset, n⟩ :: ⟨offset + n.byteLength + 1, s⟩ :: fs := by
    rw [splitAt_separator isPlain_colon whole]
    exact congrArg _ first
  have rest : (n ++ ':' :: t).drop (n.length + 1) = t := by simp
  simp only [VariableForm.ofFragment, VariableForm.nameText, VariableForm.name?,
    VariableForm.typeFragment?, parts, givenName, rest]

end Variables

section Types

variable {customTypes : List Text} {offset : Nat} {name : Option Text} {t : Text}

theorem spells_plain (plain : ∀ c ∈ t, IsPlain c) : Spells IsPlain false t t := by
  induction t with
  | nil => exact .nil
  | cons c t ih =>
      have first := plain c List.mem_cons_self
      exact .bare first first.2.2 (ih fun d member => plain d (List.mem_cons_of_mem c member))

theorem mem_builtins_of_name {inputType : InputType}
    (known : InputType.ofBuiltinName? t = some inputType) :
    inputType ∈ InputType.builtins ∧ inputType.name = t :=
  ⟨List.mem_of_find?_eq_some known, by simpa using List.find?_some known⟩

theorem plain_of_builtin {inputType : InputType}
    (known : InputType.ofBuiltinName? t = some inputType) : ∀ c ∈ t, IsPlain c := by
  obtain ⟨member, rfl⟩ := mem_builtins_of_name known
  have plain : ∀ i ∈ InputType.builtins, i.name.all (fun c => decide (IsPlain c)) = true := by
    decide
  simpa using plain inputType member

theorem ofType_builtin {inputType : InputType}
    (known : InputType.ofBuiltinName? t = some inputType) (allowed : inputType ≠ .match) :
    VariableForm.ofType customTypes name ⟨offset, t⟩ = .plain (.plain name inputType) := by
  have nonempty : t ≠ [] := by
    rintro rfl
    cases known
  cases inputType <;> simp_all [VariableForm.ofType]

theorem ofType_custom (nonempty : t ≠ []) (unknown : InputType.ofBuiltinName? t = none)
    (member : t ∈ customTypes) :
    VariableForm.ofType customTypes name ⟨offset, t⟩ = .plain (.plain name (.custom t)) := by
  simp [VariableForm.ofType, nonempty, unknown, member]

theorem ofType_nested (nonempty : t ≠ []) (unknown : InputType.ofBuiltinName? t = none)
    (foreign : t ∉ customTypes) :
    VariableForm.ofType customTypes name ⟨offset, t⟩ = .nested name ⟨offset, t⟩ := by
  simp [VariableForm.ofType, nonempty, unknown, foreign]

end Types

section Level

variable {customTypes : List Text}

/-- What a piece adds to the pattern of its level. -/
def Piece.compile (customTypes : List Text) : Piece → Compiled
  | .literal c => ⟨[.text [c]], []⟩
  | .fault e => ⟨[], [e]⟩
  | .scope .curly content =>
    match VariableForm.ofFragment customTypes content with
    | .plain v => ⟨[.variable v], []⟩
    | .nested name type =>
      .wrap (fun p => .variable (.nested name p)) (compileFragment customTypes type)
    | .invalid why => ⟨[], [⟨why, content.braced⟩]⟩
  | .scope .square content => .wrap .optional (compileFragment customTypes content)
  | .scope .round content =>
    .wrapBranches .variational ((content.splitAt '|').map (compileFragment customTypes))
  | .scope .angle content =>
    .wrapBranches .anyOrder ((content.splitAt '|').map (compileFragment customTypes))

theorem compileFragment_eq (f : Fragment) :
    compileFragment customTypes f = .concat (f.pieces.map (Piece.compile customTypes)) := by
  have whole : f.pieces.map (Piece.compile customTypes) =
      f.pieces.attach.map fun piece => piece.val.compile customTypes := by
    rw [List.attach_map_val]
  rw [compileFragment, whole]
  congr 1
  apply List.map_congr_left
  rintro ⟨piece, member⟩ _
  rcases piece with c | ⟨b, content⟩ | e
  · rfl
  · cases b with
    | curly =>
        simp only [Piece.compile]
        split <;> rename_i form <;> simp only [form]
    | square => rfl
    | round => simp [Piece.compile]
    | angle => simp [Piece.compile]
  · rfl

end Level

namespace Compiled

theorem append_eq_ok {a b : Compiled} {p : Pattern} (ok : a.append b = ⟨p, []⟩) :
    ∃ q r, a = ⟨q, []⟩ ∧ b = ⟨r, []⟩ ∧ p = Pattern.glue q r := by
  obtain ⟨q, es⟩ := a
  obtain ⟨r, es'⟩ := b
  simp only [append, mk.injEq, List.append_eq_nil_iff] at ok
  obtain ⟨rfl, rfl, rfl⟩ := ok
  exact ⟨q, r, rfl, rfl, rfl⟩

theorem errors_concat (parts : List Compiled) :
    (concat parts).errors = parts.flatMap (·.errors) := by
  induction parts with
  | nil => rfl
  | cons part parts ih => simp [concat, append, ← ih]

end Compiled

section Equations

variable {customTypes : List Text} {offset : Nat} {p : Pattern}

theorem compileFragment_nil : compileFragment customTypes ⟨offset, []⟩ = ⟨[], []⟩ := by
  rw [compileFragment_eq]
  rfl

theorem compileFragment_backslash :
    compileFragment customTypes ⟨offset, ['\\']⟩ = ⟨[.text ['\\']], []⟩ := by
  rw [compileFragment_eq]
  rfl

theorem compileFragment_plain {c : Char} (plain : IsPlain c) (t : Text) :
    compileFragment customTypes ⟨offset, c :: t⟩ =
      .append ⟨[.text [c]], []⟩ (compileFragment customTypes ⟨offset + c.utf8Size, t⟩) := by
  simp only [compileFragment_eq, Fragment.pieces, pieces_plain plain]
  rfl

theorem compileFragment_escaped (c : Char) (t : Text) :
    compileFragment customTypes ⟨offset, '\\' :: c :: t⟩ =
      .append ⟨[.text [c]], []⟩ (compileFragment customTypes ⟨offset + 1 + c.utf8Size, t⟩) := by
  simp only [compileFragment_eq, Fragment.pieces, pieces_escaped]
  rfl

theorem compileFragment_scope (b : Bracket) {s : Text} (balanced : Balanced none s) (t : Text) :
    compileFragment customTypes ⟨offset, b.enclose s ++ t⟩ =
      .append ((Piece.scope b ⟨offset + 1, s⟩).compile customTypes)
        (compileFragment customTypes ⟨offset + (b.enclose s).byteLength, t⟩) := by
  simp only [compileFragment_eq, Fragment.pieces, pieces_scope b balanced]
  rfl

theorem faultless_of_compileFragment {f : Fragment}
    (ok : compileFragment customTypes f = ⟨p, []⟩) : Faultless f.pieces := by
  intro e member
  have reported : e ∈ (compileFragment customTypes f).errors := by
    rw [compileFragment_eq, Compiled.errors_concat, List.mem_flatMap]
    exact ⟨_, List.mem_map_of_mem member, List.mem_singleton_self e⟩
  rw [ok] at reported
  cases reported

theorem compile_eq_ok_iff {t : Text} :
    compile t customTypes = .ok p ↔ compileFragment customTypes ⟨0, t⟩ = ⟨p, []⟩ := by
  unfold compile
  rcases compileFragment customTypes ⟨0, t⟩ with ⟨q, _ | ⟨e, es⟩⟩ <;> simp

end Equations

namespace Pattern

def literal : Text → Pattern
  | [] => []
  | c :: u => [.text (c :: u)]

theorem literal_eq {u : Text} (nonempty : u ≠ []) : literal u = [.text u] := by
  cases u with
  | nil => exact absurd rfl nonempty
  | cons c u => rfl

theorem glue_literal_cons (c : Char) (u : Text) (p : Pattern) :
    glue [.text [c]] (glue (literal u) p) = glue (literal (c :: u)) p := by
  cases u with
  | nil => rfl
  | cons d u =>
      rcases p with _ | ⟨⟨s⟩ | _ | _ | _ | _, p⟩ <;> simp [glue, literal]

theorem glue_scope {token : Token} (scope : ∀ u, token ≠ .text u) (p : Pattern) :
    glue [token] p = token :: p := by
  cases token with
  | text u => exact absurd rfl (scope u)
  | _ => rfl

theorem glue_text_scope {token : Token} (scope : ∀ u, token ≠ .text u) (u : Text) (p : Pattern) :
    glue [.text u] (token :: p) = .text u :: token :: p := by
  cases token with
  | text s => exact absurd rfl (scope s)
  | _ => rfl

end Pattern

section Literals

variable {customTypes : List Text} {offset : Nat}

/-- Literal text compiles to what it spells. The backslash that may end it stands at the end. -/
theorem compileFragment_spelled {last : Bool} {s t u : Text} (spelled : Spells IsPlain last s u)
    (final : last = true → t = []) :
    compileFragment customTypes ⟨offset, s ++ t⟩ = .append ⟨.literal u, []⟩
      (compileFragment customTypes ⟨offset + s.byteLength, t⟩) := by
  have glued (c : Char) (u : Text) (rest : Compiled) :
      Compiled.append ⟨[.text [c]], []⟩ (.append ⟨.literal u, []⟩ rest) =
        .append ⟨.literal (c :: u), []⟩ rest := by
    simp [Compiled.append, Pattern.glue_literal_cons]
  induction spelled generalizing offset with
  | nil => rfl
  | @bare c s u allowed _ _ ih =>
      rw [List.cons_append, compileFragment_plain allowed, ih, glued, Text.byteLength,
        Nat.add_assoc]
  | @escaped c s u _ ih =>
      have size : '\\'.utf8Size = 1 := rfl
      rw [List.cons_append, List.cons_append, compileFragment_escaped, ih, glued, Text.byteLength,
        Text.byteLength, size]
      simp only [Nat.add_assoc]
  | backslash last =>
      obtain rfl := final last
      rw [List.append_nil, compileFragment_backslash, compileFragment_nil]
      rfl

theorem Derives.not_text {s : Text} {token : Token}
    (derives : Derives customTypes (.scope token) s) (u : Text) : token ≠ .text u := by
  cases derives <;> nofun

end Literals

end NoteTemplate
