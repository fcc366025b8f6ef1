import NoteTemplate.Pattern.Render
import NoteTemplate.Proofs.Template.Parse

/-!
The canonical text of a compiled pattern, read back. It compiles again, and gives the same pattern
unless a database variable has a name or a nested pattern is spelled like a custom type.
-/
namespace NoteTemplate

def Pattern.typeText (p : Pattern) : Text :=
  if (InputType.ofBuiltinName? (Pattern.render p)).isSome then '\\' :: Pattern.render p
  else Pattern.render p

theorem Variable.renderNested_render (p : Pattern) :
    Variable.renderNested (Pattern.render p) = ':' :: p.typeText := by
  unfold Variable.renderNested Pattern.typeText
  split <;> rfl

mutual

def Pattern.reread (customTypes : List Text) : List Token → List Token
  | [] => []
  | token :: p => Token.reread customTypes token :: Pattern.reread customTypes p

def Token.reread (customTypes : List Text) : Token → Token
  | .text u => .text u
  | .variable v => .variable (Variable.reread customTypes v)
  | .optional body => .optional (Pattern.reread customTypes body)
  | .variational branches => .variational (Pattern.rereadBranches customTypes branches)
  | .anyOrder branches => .anyOrder (Pattern.rereadBranches customTypes branches)

def Variable.reread (customTypes : List Text) : Variable → Variable
  | ⟨name, inputType, none⟩ => ⟨if inputType = .database then none else name, inputType, none⟩
  | ⟨name, inputType, some p⟩ =>
    if customTypes.contains (Pattern.typeText p) then .plain name (.custom (Pattern.typeText p))
    else ⟨if inputType = .database then none else name, inputType,
      some (Pattern.reread customTypes p)⟩

def Pattern.rereadBranches (customTypes : List Text) : List (List Token) → List (List Token)
  | [] => []
  | p :: ps => Pattern.reread customTypes p :: Pattern.rereadBranches customTypes ps

end

/-- A variable that its canonical text gives again. -/
structure Variable.ReadsBack (customTypes : List Text) (v : Variable) : Prop where
  nameless : v.inputType = .database → v.name = none
  foreign : ∀ p, v.pattern = some p → Pattern.typeText p ∉ customTypes

section Unchanged

variable {customTypes : List Text}

theorem readsBack_iff {name : Option Text} {inputType : InputType} {pattern : Option Pattern} :
    Variable.ReadsBack customTypes ⟨name, inputType, pattern⟩ ↔
      (if inputType = .database then none else name) = name ∧
        ∀ p, pattern = some p → Pattern.typeText p ∉ customTypes := by
  constructor
  · intro ⟨nameless, foreign⟩
    refine ⟨?_, foreign⟩
    split
    · exact (nameless ‹_›).symm
    · rfl
  · intro ⟨kept, foreign⟩
    refine ⟨fun database => ?_, foreign⟩
    rw [if_pos database] at kept
    exact kept.symm

mutual

theorem Pattern.reread_eq_self_iff : (p : List Token) →
    (Pattern.reread customTypes p = p ↔
      ∀ v ∈ Pattern.variables p, v.ReadsBack customTypes)
  | [] => by simp [Pattern.reread, Pattern.variables]
  | token :: p => by
      rw [Pattern.reread, List.cons.injEq, Token.reread_eq_self_iff token,
        Pattern.reread_eq_self_iff p, Pattern.variables, List.forall_mem_append]

theorem Token.reread_eq_self_iff : (token : Token) →
    (Token.reread customTypes token = token ↔
      ∀ v ∈ Token.variables token, v.ReadsBack customTypes)
  | .text _ => by simp [Token.reread, Token.variables]
  | .variable v => by
      rw [Token.reread, Token.variable.injEq, Variable.reread_eq_self_iff v, Token.variables,
        List.forall_mem_cons]
  | .optional body => by
      rw [Token.reread, Token.optional.injEq, Pattern.reread_eq_self_iff body, Token.variables]
  | .variational branches => by
      rw [Token.reread, Token.variational.injEq, Pattern.rereadBranches_eq_self_iff branches,
        Token.variables]
  | .anyOrder branches => by
      rw [Token.reread, Token.anyOrder.injEq, Pattern.rereadBranches_eq_self_iff branches,
        Token.variables]

theorem Variable.reread_eq_self_iff : (v : Variable) →
    (Variable.reread customTypes v = v ↔ v.ReadsBack customTypes ∧
      ∀ w ∈ Variable.nestedVariables v, w.ReadsBack customTypes)
  | ⟨name, inputType, none⟩ => by
      rw [Variable.reread, readsBack_iff, Variable.nestedVariables]
      simp
  | ⟨name, inputType, some p⟩ => by
      rw [Variable.reread, readsBack_iff, Variable.nestedVariables,
        ← Pattern.reread_eq_self_iff p]
      by_cases member : Pattern.typeText p ∈ customTypes
      · rw [if_pos (List.contains_iff_mem.mpr member)]
        simp [member, Variable.plain]
      · rw [if_neg (mt List.contains_iff_mem.mp member)]
        simp [member]

theorem Pattern.rereadBranches_eq_self_iff : (ps : List (List Token)) →
    (Pattern.rereadBranches customTypes ps = ps ↔
      ∀ v ∈ Pattern.branchVariables ps, v.ReadsBack customTypes)
  | [] => by simp [Pattern.rereadBranches, Pattern.branchVariables]
  | p :: ps => by
      rw [Pattern.rereadBranches, List.cons.injEq, Pattern.reread_eq_self_iff p,
        Pattern.rereadBranches_eq_self_iff ps, Pattern.branchVariables, List.forall_mem_append]

end

end Unchanged

section Escaping

theorem not_special {c : Char} (ordinary : isSpecial c = false) : IsPlain c ∧ c ≠ '|' := by
  simp only [isSpecial, Bool.or_eq_false_iff, Option.isSome_eq_false_iff, Option.isNone_iff_eq_none,
    beq_eq_false_iff_ne] at ordinary
  obtain ⟨⟨⟨opens, closes⟩, bar⟩, escapes⟩ := ordinary
  exact ⟨⟨opens, closes, escapes⟩, bar⟩

variable {special : Char → Bool}

theorem spells_escape {bare : Char → Prop} (ordinary : ∀ c, special c = false → bare c ∧ c ≠ '\\')
    (u : Text) : Spells bare false (escape special u) u := by
  induction u with
  | nil => exact .nil
  | cons c u ih =>
      rw [escape]
      by_cases marked : special c = true
      · rw [if_pos marked]
        exact .escaped c ih
      · obtain ⟨allowed, unescaped⟩ := ordinary c (eq_false_of_ne_true marked)
        rw [if_neg marked]
        exact .bare allowed unescaped ih

theorem balanced_escape {barred : Option Char}
    (ordinary : ∀ c, special c = false → IsPlain c ∧ barred ≠ some c) (u : Text) :
    Balanced barred (escape special u) := by
  induction u with
  | nil => exact .nil
  | cons c u ih =>
      rw [escape]
      by_cases marked : special c = true
      · rw [if_pos marked]
        exact .escaped c ih
      · obtain ⟨plain, free⟩ := ordinary c (eq_false_of_ne_true marked)
        rw [if_neg marked]
        exact .plain plain free ih

theorem spells_literal (u : Text) : Spells IsPlain false (escape isSpecial u) u :=
  spells_escape (fun _ ordinary => ⟨(not_special ordinary).1, (not_special ordinary).1.2.2⟩) u

theorem balanced_literal (u : Text) : Balanced (some '|') (escape isSpecial u) := by
  refine balanced_escape (fun c ordinary => ?_) u
  obtain ⟨plain, bar⟩ := not_special ordinary
  exact ⟨plain, fun same => bar (Option.some.inj same).symm⟩

theorem names_render (name : Text) : Names (Variable.renderName (givenName name)) name := by
  have written : Variable.renderName (givenName name) =
      escape (fun c => isSpecial c || c == ':') name := by
    cases name <;> rfl
  have ordinary (c : Char) (unmarked : (isSpecial c || c == ':') = false) :
      IsPlain c ∧ some ':' ≠ some c := by
    simp only [Bool.or_eq_false_iff, beq_eq_false_iff_ne] at unmarked
    refine ⟨(not_special unmarked.1).1, fun colon => unmarked.2 ?_⟩
    cases colon
    rfl
  rw [written]
  exact ⟨balanced_escape ordinary name,
    spells_escape (fun c unmarked => ⟨trivial, (ordinary c unmarked).1.2.2⟩) name⟩

theorem names_database : Names InputType.database.name InputType.database.name :=
  names_render InputType.database.name

end Escaping

section Rereading

variable {customTypes : List Text} {t : Text} {p q : Pattern}

theorem Derives.escape_plain (plain : ∀ c ∈ t, IsPlain c) (nonempty : t ≠ [])
    (derives : Derives customTypes (.pattern false p) t) :
    Derives customTypes (.pattern false p) ('\\' :: t) := by
  obtain rfl := derives.unique (.literal (spells_plain plain) nonempty)
  cases t with
  | nil => exact absurd rfl nonempty
  | cons c t =>
      have rest := spells_plain fun d member => plain d (List.mem_cons_of_mem c member)
      exact .literal (.escaped c rest) nonempty

theorem Derives.typeText (derives : Derives customTypes (.pattern false q) (Pattern.render p)) :
    Derives customTypes (.pattern false q) (Pattern.typeText p) := by
  unfold Pattern.typeText
  split
  · rename_i builtin
    obtain ⟨inputType, known⟩ := Option.isSome_iff_exists.mp builtin
    have nonempty : Pattern.render p ≠ [] := by
      intro empty
      rw [empty] at known
      cases known
    exact derives.escape_plain (plain_of_builtin known) nonempty
  · exact derives

theorem typeText_ne_nil (nonempty : Pattern.render p ≠ []) : Pattern.typeText p ≠ [] := by
  unfold Pattern.typeText
  split
  · exact List.cons_ne_nil _ _
  · exact nonempty

theorem ofBuiltinName?_typeText (p : Pattern) :
    InputType.ofBuiltinName? (Pattern.typeText p) = none := by
  unfold Pattern.typeText
  split
  · cases known : InputType.ofBuiltinName? ('\\' :: Pattern.render p) with
    | none => rfl
    | some inputType => exact absurd rfl (plain_of_builtin known _ List.mem_cons_self).2.2
  · rename_i unknown
    rwa [Option.not_isSome_iff_eq_none] at unknown

theorem reread_plain {name : Option Text} {inputType : InputType} (other : inputType ≠ .database) :
    Variable.reread customTypes (.plain name inputType) = .plain name inputType := by
  simp [Variable.plain, Variable.reread, other]

theorem render_plain {name : Option Text} {inputType : InputType} (typed : inputType ≠ .text)
    (other : inputType ≠ .database) : Variable.render (.plain name inputType) =
      Bracket.curly.enclose (Variable.renderName name ++ ':' :: inputType.name) := by
  cases inputType <;> simp_all [Variable.plain, Variable.render, Bracket.enclose, Bracket.opener,
    Bracket.closer]

theorem render_nested (name : Option Text) (p : Pattern) : Variable.render (.nested name p) =
    Bracket.curly.enclose (Variable.renderName name ++ ':' :: Pattern.typeText p) := by
  rw [Variable.nested, Variable.render, Variable.renderNested_render]
  rfl

theorem Pattern.reread_eq_nil_iff : Pattern.reread customTypes p = [] ↔ p = [] := by
  cases p <;> simp [Pattern.reread]

theorem renderMoreBranches_eq {ps : List Pattern} (nonempty : ps ≠ []) :
    Pattern.renderMoreBranches ps = '|' :: Pattern.renderBranches ps := by
  cases ps with
  | nil => exact absurd rfl nonempty
  | cons p ps => rfl

theorem Derives.branches_ne_nil {ps : List Pattern}
    (derives : Derives customTypes (.branches ps) t) : ps ≠ [] := by
  cases derives <;> exact List.cons_ne_nil _ _

theorem Derives.scope_balanced {token : Token} (derives : Derives customTypes (.scope token) t)
    (barred : Option Char) : Balanced barred t := by
  obtain ⟨b, s, rfl, inside, _⟩ := derives.compiles
  have alone : Balanced barred (b.enclose s ++ []) := .scope b inside .nil
  rwa [List.append_nil] at alone

def Phrase.Rereads (customTypes : List Text) : Phrase → Prop
  | .pattern _ p =>
    Derives customTypes (.pattern false (Pattern.reread customTypes p)) (Pattern.render p) ∧
      Balanced (some '|') (Pattern.render p)
  | .scope token =>
    Derives customTypes (.scope (Token.reread customTypes token)) (Token.render token)
  | .branches ps => Derives customTypes (.branches (Pattern.rereadBranches customTypes ps))
      (Pattern.renderBranches ps)
  | .variable v => ∃ t, Variable.render v = Bracket.curly.enclose t ∧
      Derives customTypes (.variable (Variable.reread customTypes v)) t

theorem rereads_builtin {name : Text} {inputType : InputType}
    (other : name ≠ InputType.database.name)
    (known : InputType.ofBuiltinName? t = some inputType) (allowed : inputType ≠ .match) :
    Phrase.Rereads customTypes (.variable (.plain (givenName name) inputType)) := by
  obtain ⟨_, rfl⟩ := mem_builtins_of_name known
  by_cases database : inputType = .database
  · subst database
    exact ⟨_, rfl, .database names_database⟩
  · rw [Phrase.Rereads, reread_plain database]
    by_cases typed : inputType = .text
    · subst typed
      exact ⟨_, rfl, .untyped (names_render name) other⟩
    · exact ⟨_, render_plain typed database, .builtin (names_render name) other known allowed⟩

theorem rereads_nested {name : Text} (other : name ≠ InputType.database.name) (nonempty : p ≠ [])
    (inside : Phrase.Rereads customTypes (.pattern false p)) :
    Phrase.Rereads customTypes (.variable (.nested (givenName name) p)) := by
  have written := Derives.typeText inside.1
  have typed : Pattern.typeText p ≠ [] := typeText_ne_nil fun empty => by
    have unwritten := inside.1.eq_nil_iff.mpr empty
    rw [Pattern.reread_eq_nil_iff] at unwritten
    exact nonempty unwritten
  refine ⟨_, render_nested _ p, ?_⟩
  rw [Variable.nested, Variable.reread]
  by_cases member : Pattern.typeText p ∈ customTypes
  · rw [if_pos (List.contains_iff_mem.mpr member)]
    exact .custom (names_render name) other typed (written.compiles.1 rfl)
      (ofBuiltinName?_typeText p) member
  · rw [if_neg (mt List.contains_iff_mem.mp member)]
    exact .nested (names_render name) other typed (ofBuiltinName?_typeText p) member written

theorem Derives.rereads {phrase : Phrase} (derives : Derives customTypes phrase t) :
    phrase.Rereads customTypes := by
  induction derives with
  | empty => exact ⟨.empty, .nil⟩
  | @literal _ _ u _ nonempty =>
      rw [Phrase.Rereads, Pattern.render, Pattern.render, List.append_nil]
      exact ⟨.literal (spells_literal u) nonempty, balanced_literal u⟩
  | scope first rest firstOk restOk =>
      exact ⟨.scope firstOk restOk.1, (firstOk.scope_balanced _).append restOk.2⟩
  | @literalScope _ _ _ _ u _ _ _ nonempty first rest firstOk restOk =>
      exact ⟨.literalScope (spells_literal u) nonempty firstOk restOk.1,
        (balanced_literal u).append ((firstOk.scope_balanced _).append restOk.2)⟩
  | slot inside insideOk =>
      obtain ⟨t, written, insideOk⟩ := insideOk
      rw [Phrase.Rereads, Token.render, written]
      exact .slot insideOk
  | optional inside insideOk => exact .optional insideOk.1
  | variational inside insideOk => exact .variational insideOk
  | anyOrder inside insideOk => exact .anyOrder insideOk
  | lastBranch _ branch branchOk =>
      rw [Phrase.Rereads, Pattern.renderBranches, Pattern.renderMoreBranches, List.append_nil]
      exact .lastBranch branchOk.2 branchOk.1
  | branch _ branch rest branchOk restOk =>
      rw [Phrase.Rereads, Pattern.renderBranches, renderMoreBranches_eq rest.branches_ne_nil]
      exact .branch branchOk.2 branchOk.1 restOk
  | database named => exact ⟨_, rfl, .database names_database⟩
  | typedDatabase named balanced => exact ⟨_, rfl, .database names_database⟩
  | @untyped n name named other =>
      rw [Phrase.Rereads, reread_plain]
      · exact ⟨_, rfl, .untyped (names_render name) other⟩
      · nofun
  | builtin named other known allowed => exact rereads_builtin other known allowed
  | @custom n name t named other nonempty balanced unknown member =>
      rw [Phrase.Rereads, reread_plain]
      · refine ⟨_, render_plain ?_ ?_,
          .custom (names_render name) other nonempty balanced unknown member⟩ <;> nofun
      · nofun
  | @nested n name t p named other nonempty unknown foreign inside insideOk =>
      refine rereads_nested other (fun empty => nonempty ?_) insideOk
      rwa [← inside.eq_nil_iff]

theorem compile_render (ok : compile t customTypes = .ok p) :
    compile (Pattern.render p) customTypes = .ok (Pattern.reread customTypes p) :=
  compile_eq_ok_iff.mpr ((derives_of_compile ok).rereads.1.compiles.2 0)

/-- Canonical text compiles, and to the pattern it was written for exactly when each variable of the
pattern reads back. -/
theorem compile_render_eq_ok_iff (ok : compile t customTypes = .ok p) :
    (∃ q, compile (Pattern.render p) customTypes = .ok q) ∧
      (compile (Pattern.render p) customTypes = .ok p ↔
        ∀ v ∈ Pattern.variables p, v.ReadsBack customTypes) := by
  have read := compile_render ok
  refine ⟨⟨_, read⟩, ?_⟩
  rw [read, Except.ok.injEq, Pattern.reread_eq_self_iff]

end Rereading

theorem compile_render_eq_ok_iff_quantity :
    let amount : Pattern := [.variable (.plain (some "n".toList) .number), .text " kg".toList]
    let p : Pattern := [.variable (.nested (some "qty".toList) amount)]
    compile "\x7bqty:\x7bn:number\x7d kg\x7d".toList ["date".toList] = .ok p ∧
      compile (Pattern.render p) ["date".toList] = .ok p := by
  intro amount p
  have number : Derives ["date".toList] (.variable (.plain (some "n".toList) .number))
      "n:number".toList :=
    .builtin (names_render "n".toList) (by decide) (by decide) (by decide)
  have unit : Derives ["date".toList] (.pattern false [.text " kg".toList]) " kg".toList :=
    .literal (spells_literal " kg".toList) (by decide)
  have quantity : Derives ["date".toList] (.variable (.nested (some "qty".toList) amount))
      "qty:\x7bn:number\x7d kg".toList :=
    .nested (names_render "qty".toList) (by decide) (by decide) (by decide) (by decide)
      (.scope (.slot number) unit)
  have whole : Derives ["date".toList] (.pattern true p) "\x7bqty:\x7bn:number\x7d kg\x7d".toList :=
    .scope (.slot quantity) .empty
  have ok := whole.compile_eq
  have unchanged : Pattern.reread ["date".toList] p = p := by decide
  exact ⟨ok, (compile_render_eq_ok_iff ok).2.mpr ((Pattern.reread_eq_self_iff p).mp unchanged)⟩

/-- A sub-pattern spelled like a custom type comes back as that type, and a database variable loses
its name. -/
theorem not_reads_back :
    let date : Pattern := [.variable (.nested (some "x".toList) [.text "date".toList])]
    let custom : Pattern := [.variable (.plain (some "x".toList) (.custom "date".toList))]
    let database : Pattern := [.variable (.plain (some "db".toList) .database)]
    let nameless : Pattern := [.variable (.plain none .database)]
    (compile "\x7bx:\\date\x7d".toList ["date".toList] = .ok date ∧
      compile (Pattern.render date) ["date".toList] = .ok custom ∧ custom ≠ date) ∧
    (compile "\x7bdb:database\x7d".toList [] = .ok database ∧
      compile (Pattern.render database) [] = .ok nameless ∧ nameless ≠ database) := by
  intro date custom database nameless
  have escaped : Spells IsPlain false "\\date".toList "date".toList :=
    .escaped 'd' (spells_literal "ate".toList)
  have nested : Derives ["date".toList]
      (.variable (.nested (some "x".toList) [.text "date".toList])) "x:\\date".toList :=
    .nested (names_render "x".toList) (by decide) (by decide) (by decide) (by decide)
      (.literal escaped (by decide))
  have dateOk : Derives ["date".toList] (.pattern true date) "\x7bx:\\date\x7d".toList :=
    .scope (.slot nested) .empty
  have named : Derives [] (.variable (.plain (some "db".toList) .database)) "db:database".toList :=
    .builtin (names_render "db".toList) (by decide) (by decide) (by decide)
  have databaseOk : Derives [] (.pattern true database) "\x7bdb:database\x7d".toList :=
    .scope (.slot named) .empty
  exact ⟨⟨dateOk.compile_eq, compile_render dateOk.compile_eq, by decide⟩,
    ⟨databaseOk.compile_eq, compile_render databaseOk.compile_eq, by decide⟩⟩

end NoteTemplate
