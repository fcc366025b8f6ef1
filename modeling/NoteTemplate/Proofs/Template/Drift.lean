import NoteTemplate.Proofs.Template.NormalForm

/-!
How far a pattern drifts when it is written and read again. Single variables are replaced and all
else stays; each replaced variable is written as before, so canonical text is written again as it
stands.
-/
namespace NoteTemplate

mutual

def Pattern.replaceVariables (replace : Variable → Option Variable) : List Token → List Token
  | [] => []
  | token :: p => Token.replaceVariables replace token :: Pattern.replaceVariables replace p

def Token.replaceVariables (replace : Variable → Option Variable) : Token → Token
  | .text u => .text u
  | .variable v => .variable (Variable.replaceVariables replace v)
  | .optional body => .optional (Pattern.replaceVariables replace body)
  | .variational branches => .variational (Pattern.replaceEach replace branches)
  | .anyOrder branches => .anyOrder (Pattern.replaceEach replace branches)

def Variable.replaceVariables (replace : Variable → Option Variable) : Variable → Variable
  | ⟨name, inputType, none⟩ =>
    (replace ⟨name, inputType, none⟩).getD ⟨name, inputType, none⟩
  | ⟨name, inputType, some p⟩ =>
    (replace ⟨name, inputType, some p⟩).getD
      ⟨name, inputType, some (Pattern.replaceVariables replace p)⟩

def Pattern.replaceEach (replace : Variable → Option Variable) :
    List (List Token) → List (List Token)
  | [] => []
  | p :: ps => Pattern.replaceVariables replace p :: Pattern.replaceEach replace ps

end

/-- What reading its own text makes of a variable: a database variable loses its name, and a nested
pattern whose text is that of a custom type gives way to this type. -/
def Variable.drift? (customTypes : List Text) : Variable → Option Variable
  | ⟨_, .database, pattern⟩ => some ⟨none, .database, pattern⟩
  | ⟨name, .match, some p⟩ =>
    if customTypes.contains (Pattern.typeText p) then
      some (.plain name (.custom (Pattern.typeText p)))
    else none
  | _ => none

section Render

variable {replace : Variable → Option Variable}

theorem render_congr {name : Option Text} {inputType : InputType} {p q : Pattern}
    (same : Pattern.render p = Pattern.render q) :
    Variable.render ⟨name, inputType, some p⟩ = Variable.render ⟨name, inputType, some q⟩ := by
  cases inputType <;> simp only [Variable.render, same]

mutual

/-- Where each replacement is written like its variable, so is the pattern. -/
theorem Pattern.render_replaceVariables
    (keeps : ∀ v w, replace v = some w → Variable.render w = Variable.render v) :
    ∀ p : List Token,
      Pattern.render (Pattern.replaceVariables replace p) = Pattern.render p
  | [] => rfl
  | token :: p => by
      have first := Token.render_replaceVariables keeps token
      have rest := Pattern.render_replaceVariables keeps p
      rw [Pattern.replaceVariables, Pattern.render, Pattern.render, first, rest]

theorem Token.render_replaceVariables
    (keeps : ∀ v w, replace v = some w → Variable.render w = Variable.render v) :
    ∀ token : Token, Token.render (Token.replaceVariables replace token) = Token.render token
  | .text _ => rfl
  | .variable v => Variable.render_replaceVariables keeps v
  | .optional body => by
      have inside := Pattern.render_replaceVariables keeps body
      rw [Token.replaceVariables, Token.render, Token.render, inside]
  | .variational branches => by
      have inside := Pattern.render_replaceEach keeps branches
      rw [Token.replaceVariables, Token.render, Token.render, inside.1]
  | .anyOrder branches => by
      have inside := Pattern.render_replaceEach keeps branches
      rw [Token.replaceVariables, Token.render, Token.render, inside.1]

theorem Variable.render_replaceVariables
    (keeps : ∀ v w, replace v = some w → Variable.render w = Variable.render v) :
    ∀ v : Variable, Variable.render (Variable.replaceVariables replace v) = Variable.render v
  | ⟨name, inputType, none⟩ => by
      rw [Variable.replaceVariables]
      cases replaced : replace ⟨name, inputType, none⟩ with
      | none => rfl
      | some w => exact keeps _ w replaced
  | ⟨name, inputType, some p⟩ => by
      rw [Variable.replaceVariables]
      cases replaced : replace ⟨name, inputType, some p⟩ with
      | none => exact render_congr (Pattern.render_replaceVariables keeps p)
      | some w => exact keeps _ w replaced

theorem Pattern.render_replaceEach
    (keeps : ∀ v w, replace v = some w → Variable.render w = Variable.render v) :
    ∀ ps : List (List Token),
      Pattern.renderBranches (Pattern.replaceEach replace ps) = Pattern.renderBranches ps ∧
        Pattern.renderMoreBranches (Pattern.replaceEach replace ps) =
          Pattern.renderMoreBranches ps
  | [] => ⟨rfl, rfl⟩
  | p :: ps => by
      have first := Pattern.render_replaceVariables keeps p
      have rest := Pattern.render_replaceEach keeps ps
      constructor
      · rw [Pattern.replaceEach, Pattern.renderBranches, Pattern.renderBranches, first, rest.2]
      · rw [Pattern.replaceEach, Pattern.renderMoreBranches, Pattern.renderMoreBranches, first,
          rest.2]

end

end Render

section Drift

variable {customTypes : List Text} {t : Text} {p : Pattern}

theorem render_of_drift? {v w : Variable} (drifts : v.drift? customTypes = some w) :
    Variable.render w = Variable.render v := by
  fun_cases Variable.drift? customTypes v with
  | case1 name pattern =>
      cases drifts
      rfl
  | case2 name p member =>
      rw [Variable.drift?, if_pos member] at drifts
      cases drifts
      have plain := @render_plain name (.custom (Pattern.typeText p)) nofun nofun
      exact plain.trans (render_nested name p).symm
  | case3 name p foreign =>
      rw [Variable.drift?, if_neg foreign] at drifts
      cases drifts
  | case4 v _ _ =>
      rw [Variable.drift?] at drifts
      · cases drifts
      all_goals assumption

mutual

theorem Pattern.reread_eq_replaceVariables : ∀ p : List Token,
    (∀ v ∈ Pattern.variables p, v.Normal customTypes) →
      Pattern.reread customTypes p =
        Pattern.replaceVariables (Variable.drift? customTypes) p
  | [], _ => rfl
  | token :: p, normal => by
      obtain ⟨normalFirst, normalRest⟩ := List.forall_mem_append.mp normal
      rw [Pattern.reread, Pattern.replaceVariables,
        Token.reread_eq_replaceVariables token normalFirst,
        Pattern.reread_eq_replaceVariables p normalRest]

theorem Token.reread_eq_replaceVariables : ∀ token : Token,
    (∀ v ∈ Token.variables token, v.Normal customTypes) →
      Token.reread customTypes token =
        Token.replaceVariables (Variable.drift? customTypes) token
  | .text _, _ => rfl
  | .variable v, normal => by
      rw [Token.reread, Token.replaceVariables, Variable.reread_eq_replaceVariables v normal]
  | .optional body, normal => by
      rw [Token.reread, Token.replaceVariables, Pattern.reread_eq_replaceVariables body normal]
  | .variational branches, normal => by
      rw [Token.reread, Token.replaceVariables,
        Pattern.rereadBranches_eq_replaceEach branches normal]
  | .anyOrder branches, normal => by
      rw [Token.reread, Token.replaceVariables,
        Pattern.rereadBranches_eq_replaceEach branches normal]

theorem Variable.reread_eq_replaceVariables : ∀ v : Variable,
    (∀ w ∈ v :: v.nestedVariables, w.Normal customTypes) →
      Variable.reread customTypes v =
        Variable.replaceVariables (Variable.drift? customTypes) v
  | ⟨name, inputType, none⟩, _ => by
      rw [Variable.reread, Variable.replaceVariables]
      cases inputType <;> rfl
  | ⟨name, inputType, some p⟩, normal => by
      obtain ⟨whole, inside⟩ := List.forall_mem_cons.mp normal
      obtain rfl : inputType = .match := whole.nested.mp rfl
      have nested := Pattern.reread_eq_replaceVariables p inside
      rw [Variable.reread, Variable.replaceVariables, Variable.drift?, nested]
      split <;> rfl

theorem Pattern.rereadBranches_eq_replaceEach : ∀ ps : List (List Token),
    (∀ v ∈ Pattern.branchVariables ps, v.Normal customTypes) →
      Pattern.rereadBranches customTypes ps =
        Pattern.replaceEach (Variable.drift? customTypes) ps
  | [], _ => rfl
  | p :: ps, normal => by
      obtain ⟨normalFirst, normalRest⟩ := List.forall_mem_append.mp normal
      rw [Pattern.rereadBranches, Pattern.replaceEach,
        Pattern.reread_eq_replaceVariables p normalFirst,
        Pattern.rereadBranches_eq_replaceEach ps normalRest]

end

/-- Canonical text compiles, to the pattern that it was written for with the drifted variables in
place of the old ones and nothing else changed. The text of a nested pattern is what stands behind
the `:` of its variable. What was read is written as the same text, and read again as it is. -/
theorem compile_render_drift (ok : compile t customTypes = .ok p) :
    let q := Pattern.replaceVariables (Variable.drift? customTypes) p
    compile (Pattern.render p) customTypes = .ok q ∧
      (∀ name nested, Variable.render (.nested name nested) = Bracket.curly.enclose
        (Variable.renderName name ++ ':' :: Pattern.typeText nested)) ∧
      Pattern.render q = Pattern.render p ∧ compile (Pattern.render q) customTypes = .ok q := by
  intro q
  have normal := (derives_of_compile ok).normal
  have drifted : Pattern.reread customTypes p = q := Pattern.reread_eq_replaceVariables p normal
  have read : compile (Pattern.render p) customTypes = .ok q := by
    rw [compile_render ok, drifted]
  have written : Pattern.render q = Pattern.render p := by
    apply Pattern.render_replaceVariables
    intro v w drifts
    exact render_of_drift? drifts
  refine ⟨read, render_nested, written, ?_⟩
  rw [written]
  exact read

end Drift

theorem compile_render_drift_date :
    let amount : Pattern := [.variable (.plain (some "db".toList) .database), .text " kg".toList]
    let p : Pattern := [.variable (.nested (some "x".toList) [.text "date".toList]),
      .variable (.nested (some "q".toList) amount)]
    let q : Pattern := [.variable (.plain (some "x".toList) (.custom "date".toList)),
      .variable (.nested (some "q".toList)
        [.variable (.plain none .database), .text " kg".toList])]
    let t : Text := "\x7bx:\\date\x7d\x7bq:\x7bdb:database\x7d kg\x7d".toList
    compile t ["date".toList] = .ok p ∧ compile (Pattern.render p) ["date".toList] = .ok q ∧
      Pattern.render q = Pattern.render p ∧ compile (Pattern.render q) ["date".toList] = .ok q := by
  intro amount p q t
  have escaped : Spells IsPlain false "\\date".toList "date".toList :=
    .escaped 'd' (spells_literal "ate".toList)
  have first : Derives ["date".toList]
      (.variable (.nested (some "x".toList) [.text "date".toList])) "x:\\date".toList :=
    .nested (names_render "x".toList) (by decide) (by decide) (by decide) (by decide)
      (.literal escaped (by decide))
  have database : Derives ["date".toList] (.variable (.plain (some "db".toList) .database))
      "db:database".toList :=
    .builtin (names_render "db".toList) (by decide) (by decide) (by decide)
  have unit : Derives ["date".toList] (.pattern false [.text " kg".toList]) " kg".toList :=
    .literal (spells_literal " kg".toList) (by decide)
  have second : Derives ["date".toList] (.variable (.nested (some "q".toList) amount))
      "q:\x7bdb:database\x7d kg".toList :=
    .nested (names_render "q".toList) (by decide) (by decide) (by decide) (by decide)
      (.scope (.slot database) unit)
  have ok : compile t ["date".toList] = .ok p :=
    Derives.compile_eq (.scope (.slot first) (.scope (.slot second) .empty))
  have drifted : Pattern.replaceVariables (Variable.drift? ["date".toList]) p = q := by decide
  have whole := compile_render_drift ok
  rw [drifted] at whole
  exact ⟨ok, whole.1, whole.2.2⟩

end NoteTemplate
