import NoteTemplate.Proofs.Template.Canonical

namespace NoteTemplate

mutual

/-- At every depth no literal is empty, no two literals of a sequence stand side by side and every
choice has a branch. -/
def Pattern.Shaped : List Token → Prop
  | [] => True
  | t :: p => Token.Shaped t ∧ (∀ s u q, t = .text s → p ≠ .text u :: q) ∧ Pattern.Shaped p

def Token.Shaped : Token → Prop
  | .text literal => literal ≠ []
  | .variable v => Variable.Shaped v
  | .optional body => Pattern.Shaped body
  | .variational branches | .anyOrder branches => branches ≠ [] ∧ Pattern.EachShaped branches

def Variable.Shaped : Variable → Prop
  | ⟨_, _, none⟩ => True
  | ⟨_, _, some p⟩ => Pattern.Shaped p

def Pattern.EachShaped : List (List Token) → Prop
  | [] => True
  | p :: ps => Pattern.Shaped p ∧ Pattern.EachShaped ps

end

structure Variable.Normal (customTypes : List Text) (v : Variable) : Prop where
  named : v.name ≠ some [] ∧ v.name ≠ some InputType.database.name
  custom : ∀ t, v.inputType = .custom t →
    t ≠ [] ∧ t ∈ customTypes ∧ InputType.ofBuiltinName? t = none
  nested : v.pattern.isSome = true ↔ v.inputType = .match
  nonempty : v.pattern ≠ some []

section Derived

variable {customTypes : List Text} {phrase : Phrase} {t : Text}

def Phrase.Shaped : Phrase → Prop
  | .pattern _ p => Pattern.Shaped p
  | .scope token => Token.Shaped token
  | .branches ps => ps ≠ [] ∧ Pattern.EachShaped ps
  | .variable v => Variable.Shaped v

def Phrase.variables : Phrase → List Variable
  | .pattern _ p => Pattern.variables p
  | .scope token => Token.variables token
  | .branches ps => Pattern.branchVariables ps
  | .variable v => v :: v.nestedVariables

theorem shaped_scope {token : Token} {p : Pattern} (scope : ∀ u, token ≠ .text u)
    (first : Token.Shaped token) (rest : Pattern.Shaped p) : Pattern.Shaped (token :: p) :=
  ⟨first, fun s _ _ same => absurd same (scope s), rest⟩

theorem Derives.shaped (derives : Derives customTypes phrase t) : phrase.Shaped := by
  induction derives with
  | empty => trivial
  | literal _ nonempty => exact ⟨nonempty, by simp, trivial⟩
  | scope first _ firstOk restOk => exact shaped_scope first.not_text firstOk restOk
  | literalScope _ nonempty first _ firstOk restOk =>
      refine ⟨nonempty, ?_, shaped_scope first.not_text firstOk restOk⟩
      intro s u q _ same
      injection same with head
      exact first.not_text u head
  | slot _ inside => exact inside
  | optional _ inside => exact inside
  | variational _ inside => exact inside
  | anyOrder _ inside => exact inside
  | lastBranch _ _ branch => exact ⟨List.cons_ne_nil _ _, branch, trivial⟩
  | branch _ _ _ branch rest => exact ⟨List.cons_ne_nil _ _, branch, rest.2⟩
  | nested _ _ _ _ _ _ inside => exact inside
  | _ => trivial

theorem givenName_normal {name : Text} (other : name ≠ InputType.database.name) :
    givenName name ≠ some [] ∧ givenName name ≠ some InputType.database.name := by
  cases name with
  | nil => simp [givenName]
  | cons c name => simpa [givenName] using other

theorem normal_plain {name : Option Text} {inputType : InputType}
    (named : name ≠ some [] ∧ name ≠ some InputType.database.name) (allowed : inputType ≠ .match)
    (custom : ∀ t, inputType = .custom t →
      t ≠ [] ∧ t ∈ customTypes ∧ InputType.ofBuiltinName? t = none) :
    ∀ v ∈ Phrase.variables (.variable (.plain name inputType)), v.Normal customTypes := by
  intro v member
  have only : v = .plain name inputType := List.mem_singleton.mp member
  subst only
  exact ⟨named, custom, by simp [Variable.plain, allowed], by simp [Variable.plain]⟩

theorem Derives.normal (derives : Derives customTypes phrase t) :
    ∀ v ∈ phrase.variables, v.Normal customTypes := by
  induction derives with
  | empty => exact List.forall_mem_nil _
  | literal => exact List.forall_mem_nil _
  | scope _ _ first rest => exact List.forall_mem_append.mpr ⟨first, rest⟩
  | literalScope _ _ _ _ first rest =>
      have behind := List.forall_mem_append.mpr ⟨first, rest⟩
      exact List.forall_mem_append.mpr ⟨List.forall_mem_nil _, behind⟩
  | slot _ inside => exact inside
  | optional _ inside => exact inside
  | variational _ inside => exact inside
  | anyOrder _ inside => exact inside
  | lastBranch _ _ branch => exact List.forall_mem_append.mpr ⟨branch, List.forall_mem_nil _⟩
  | branch _ _ _ branch rest => exact List.forall_mem_append.mpr ⟨branch, rest⟩
  | database => exact normal_plain (by simp) (by simp) (by simp)
  | typedDatabase => exact normal_plain (by simp) (by simp) (by simp)
  | untyped _ other => exact normal_plain (givenName_normal other) (by simp) (by simp)
  | builtin _ other known allowed =>
      apply normal_plain (givenName_normal other) allowed
      intro t custom
      obtain ⟨member, _⟩ := mem_builtins_of_name known
      subst custom
      simp [InputType.builtins] at member
  | custom _ other nonempty _ unknown member =>
      apply normal_plain (givenName_normal other) (by simp)
      intro t custom
      injection custom with same
      subst same
      exact ⟨nonempty, member, unknown⟩
  | @nested n name t p _ other nonempty _ _ inside insideOk =>
      have filled : p ≠ [] := mt inside.eq_nil_iff.mp nonempty
      have whole : (Variable.nested (givenName name) p).Normal customTypes := by
        refine ⟨givenName_normal other, ?_, ?_, ?_⟩
        · simp [Variable.nested]
        · simp [Variable.nested]
        · simpa [Variable.nested] using filled
      exact List.forall_mem_cons.mpr ⟨whole, insideOk⟩

/-- Whatever a template holds, a pattern that it compiles to without an error is in normal form at
every depth. -/
theorem normal_of_compile {p : Pattern} (ok : compile t customTypes = .ok p) :
    Pattern.Shaped p ∧ ∀ v ∈ Pattern.variables p, v.Normal customTypes := by
  have derives := derives_of_compile ok
  constructor
  · exact derives.shaped
  · exact derives.normal

end Derived

theorem normal_of_compile_due :
    let due : Pattern := [.text "by ".toList,
      .variable (.plain (some "d".toList) (.custom "date".toList))]
    let p : Pattern := [.optional [.text "a".toList],
      .anyOrder [[.text "b".toList], [.variable (.nested (some "due".toList) due)]]]
    compile "[a]<b|\x7bdue:by \x7bd:date\x7d\x7d>".toList ["date".toList] = .ok p ∧
      Pattern.Shaped p ∧ ∀ v ∈ Pattern.variables p, v.Normal ["date".toList] := by
  intro due p
  have date : Derives ["date".toList]
      (.variable (.plain (some "d".toList) (.custom "date".toList))) "d:date".toList :=
    .custom (names_render "d".toList) (by decide) (by decide)
      (balanced_literal "date".toList).unbar (by decide) (by decide)
  have inside : Derives ["date".toList] (.pattern false due) "by \x7bd:date\x7d".toList :=
    .literalScope (spells_literal "by ".toList) (by decide) (.slot date) .empty
  have slot : Derives ["date".toList] (.variable (.nested (some "due".toList) due))
      "due:by \x7bd:date\x7d".toList :=
    .nested (names_render "due".toList) (by decide) (by decide) (by decide) (by decide) inside
  have branch : Derives ["date".toList]
      (.pattern false [.variable (.nested (some "due".toList) due)])
      "\x7bdue:by \x7bd:date\x7d\x7d".toList := .scope (.slot slot) .empty
  have branches : Derives ["date".toList]
      (.branches [[.text "b".toList], [.variable (.nested (some "due".toList) due)]])
      "b|\x7bdue:by \x7bd:date\x7d\x7d".toList :=
    .branch (balanced_literal "b".toList) (.literal (spells_literal "b".toList) (by decide))
      (.lastBranch (Derives.scope_balanced (.slot slot) _) branch)
  have optional : Derives ["date".toList] (.scope (.optional [.text "a".toList])) "[a]".toList :=
    .optional (.literal (spells_literal "a".toList) (by decide))
  have ok : compile "[a]<b|\x7bdue:by \x7bd:date\x7d\x7d>".toList ["date".toList] = .ok p :=
    Derives.compile_eq (.scope optional (.scope (.anyOrder branches) .empty))
  exact ⟨ok, normal_of_compile ok⟩

section Written

/-- A sub-pattern can be written so that it does not spell a type name. -/
theorem Derives.exists_typeText {p : Pattern} {t : Text} (nonempty : p ≠ [])
    (derives : Derives [] (.pattern false p) t) :
    ∃ u, u ≠ [] ∧ InputType.ofBuiltinName? u = none ∧ Derives [] (.pattern false p) u := by
  have written : t ≠ [] := mt derives.eq_nil_iff.mpr nonempty
  cases known : InputType.ofBuiltinName? t with
  | none => exact ⟨t, written, known, derives⟩
  | some inputType =>
      have plain := plain_of_builtin known
      refine ⟨'\\' :: t, List.cons_ne_nil _ _, ?_, derives.escape_plain plain written⟩
      cases escaped : InputType.ofBuiltinName? ('\\' :: t) with
      | none => rfl
      | some other =>
          have backslash := plain_of_builtin escaped '\\' List.mem_cons_self
          exact absurd rfl backslash.2.2

theorem exists_givenName {name : Option Text} (nonempty : name ≠ some [])
    (other : name ≠ some InputType.database.name) :
    ∃ n, givenName n = name ∧ n ≠ InputType.database.name := by
  cases name with
  | none => exact ⟨[], rfl, by decide⟩
  | some n =>
      have filled : n ≠ [] := fun empty => nonempty (by rw [empty])
      refine ⟨n, by simp [givenName, filled], fun same => other (by rw [same])⟩

theorem ofBuiltinName?_name {inputType : InputType} (builtin : ∀ t, inputType ≠ .custom t) :
    InputType.ofBuiltinName? inputType.name = some inputType := by
  cases inputType with
  | custom t => exact absurd rfl (builtin t)
  | _ => rfl

theorem Variable.Normal.builtin {v : Variable} (normal : v.Normal []) (t : Text) :
    v.inputType ≠ .custom t := by
  intro custom
  exact List.not_mem_nil (normal.custom t custom).2.1

mutual

theorem Pattern.exists_derives : ∀ (p : List Token), Pattern.Shaped p →
    (∀ v ∈ Pattern.variables p, v.Normal []) →
    ∃ t, Derives [] (.pattern false p) t ∧ Balanced (some '|') t
  | [], _, _ => ⟨[], .empty, .nil⟩
  | token :: p, shaped, normal => by
      obtain ⟨first, apart, rest⟩ := shaped
      obtain ⟨normalFirst, normalRest⟩ := List.forall_mem_append.mp normal
      obtain ⟨t, derives, balanced⟩ := Pattern.exists_derives p rest normalRest
      by_cases literal : ∃ u, token = .text u
      · obtain ⟨u, rfl⟩ := literal
        -- The literal joins nothing, since no other literal stands behind it.
        have joined : Pattern.glue [.text u] p = .text u :: p := by
          cases p with
          | nil => rfl
          | cons next p =>
              apply Pattern.glue_text_scope
              intro s same
              exact apart u s p rfl (by rw [same])
        have whole := Derives.literal_append (spells_literal u) first derives
        rw [joined] at whole
        exact ⟨_, whole, (balanced_literal u).append balanced⟩
      · have scope : ∀ u, token ≠ .text u := fun u same => literal ⟨u, same⟩
        obtain ⟨s, start⟩ := Token.exists_derives token scope first normalFirst
        exact ⟨_, .scope start derives, (start.scope_balanced _).append balanced⟩

theorem Token.exists_derives : ∀ (token : Token), (∀ u, token ≠ .text u) → Token.Shaped token →
    (∀ v ∈ Token.variables token, v.Normal []) → ∃ t, Derives [] (.scope token) t
  | .text u, scope, _, _ => absurd rfl (scope u)
  | .variable v, _, shaped, normal => by
      obtain ⟨t, inside⟩ := Variable.exists_derives v shaped normal
      exact ⟨_, .slot inside⟩
  | .optional body, _, shaped, normal => by
      obtain ⟨t, inside, _⟩ := Pattern.exists_derives body shaped normal
      exact ⟨_, .optional inside⟩
  | .variational branches, _, shaped, normal => by
      obtain ⟨t, inside⟩ := Pattern.exists_derives_branches branches shaped.1 shaped.2 normal
      exact ⟨_, .variational inside⟩
  | .anyOrder branches, _, shaped, normal => by
      obtain ⟨t, inside⟩ := Pattern.exists_derives_branches branches shaped.1 shaped.2 normal
      exact ⟨_, .anyOrder inside⟩

theorem Variable.exists_derives : ∀ (v : Variable), Variable.Shaped v →
    (∀ w ∈ v :: v.nestedVariables, w.Normal []) → ∃ t, Derives [] (.variable v) t
  | ⟨name, inputType, none⟩, _, normal => by
      have normal := normal _ List.mem_cons_self
      obtain ⟨n, rfl, other⟩ := exists_givenName normal.named.1 normal.named.2
      have known := ofBuiltinName?_name normal.builtin
      have allowed : inputType ≠ .match := fun same => by simpa using normal.nested.mpr same
      exact ⟨_, .builtin (names_render n) other known allowed⟩
  | ⟨name, inputType, some p⟩, shaped, normal => by
      obtain ⟨whole, inner⟩ := List.forall_mem_cons.mp normal
      obtain ⟨n, rfl, other⟩ := exists_givenName whole.named.1 whole.named.2
      obtain rfl : inputType = .match := whole.nested.mp rfl
      have nonempty : p ≠ [] := fun empty => whole.nonempty (by rw [empty])
      obtain ⟨t, inside, _⟩ := Pattern.exists_derives p shaped inner
      obtain ⟨u, written, unknown, spelled⟩ := inside.exists_typeText nonempty
      exact ⟨_, .nested (names_render n) other written unknown List.not_mem_nil spelled⟩

theorem Pattern.exists_derives_branches : ∀ (ps : List (List Token)), ps ≠ [] →
    Pattern.EachShaped ps → (∀ v ∈ Pattern.branchVariables ps, v.Normal []) →
    ∃ t, Derives [] (.branches ps) t
  | [], nonempty, _, _ => absurd rfl nonempty
  | [p], _, shaped, normal => by
      obtain ⟨normal, _⟩ := List.forall_mem_append.mp normal
      obtain ⟨t, branch, whole⟩ := Pattern.exists_derives p shaped.1 normal
      exact ⟨t, .lastBranch whole branch⟩
  | p :: q :: ps, _, shaped, normal => by
      obtain ⟨normalFirst, normalRest⟩ := List.forall_mem_append.mp normal
      obtain ⟨t, branch, whole⟩ := Pattern.exists_derives p shaped.1 normalFirst
      obtain ⟨s, rest⟩ :=
        Pattern.exists_derives_branches (q :: ps) (List.cons_ne_nil _ _) shaped.2 normalRest
      exact ⟨_, .branch whole branch rest⟩

end

/-- Without custom types the compiler produces exactly the patterns in normal form. -/
theorem exists_compile_iff {p : Pattern} : (∃ t, compile t [] = .ok p) ↔
    Pattern.Shaped p ∧ ∀ v ∈ Pattern.variables p, v.Normal [] := by
  constructor
  · rintro ⟨t, ok⟩
    have derives := derives_of_compile ok
    exact ⟨derives.shaped, derives.normal⟩
  · rintro ⟨shaped, normal⟩
    obtain ⟨t, derives, _⟩ := Pattern.exists_derives p shaped normal
    exact ⟨t, compile_eq_ok_iff.mpr (derives.compiles.2 0)⟩

structure Variable.Survives (v : Variable) : Prop where
  named : v.name ≠ some [] ∧ v.name ≠ some "database".toList
  builtin : ∀ t, v.inputType ≠ .custom t
  nameless : v.inputType = .database → v.name = none
  nested : v.pattern.isSome = true ↔ v.inputType = .match
  nonempty : v.pattern ≠ some []

theorem Variable.survives_iff {v : Variable} :
    v.Survives ↔ v.Normal [] ∧ v.ReadsBack [] := by
  constructor
  · intro survives
    have normal : v.Normal [] := {
      named := survives.named
      custom := fun t same => absurd same (survives.builtin t)
      nested := survives.nested
      nonempty := survives.nonempty }
    exact ⟨normal, survives.nameless, fun _ _ => List.not_mem_nil⟩
  · rintro ⟨normal, readsBack⟩
    exact {
      named := normal.named
      builtin := normal.builtin
      nameless := readsBack.nameless
      nested := normal.nested
      nonempty := normal.nonempty }

/-- Of all trees, exactly those in normal form whose database variables have no name are what their
own canonical text compiles to. -/
theorem compile_render_eq_self_iff (p : Pattern) :
    compile (Pattern.render p) [] = .ok p ↔
      Pattern.Shaped p ∧ ∀ v ∈ Pattern.variables p, v.Survives := by
  constructor
  · intro ok
    obtain ⟨shaped, normal⟩ := exists_compile_iff.mp ⟨_, ok⟩
    have read := compile_render ok
    rw [ok, Except.ok.injEq] at read
    have readsBack := Pattern.reread_eq_self_iff p |>.mp read.symm
    refine ⟨shaped, fun v member => ?_⟩
    exact Variable.survives_iff.mpr ⟨normal v member, readsBack v member⟩
  · rintro ⟨shaped, survives⟩
    have normal : ∀ v ∈ Pattern.variables p, v.Normal [] := fun v member =>
      (Variable.survives_iff.mp (survives v member)).1
    have readsBack : ∀ v ∈ Pattern.variables p, v.ReadsBack [] := fun v member =>
      (Variable.survives_iff.mp (survives v member)).2
    obtain ⟨t, ok⟩ := exists_compile_iff.mpr ⟨shaped, normal⟩
    rw [compile_render ok, Pattern.reread_eq_self_iff p |>.mpr readsBack]

end Written

end NoteTemplate
