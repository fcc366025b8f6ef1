import NoteTemplate.Proofs.Expansion.Embedding

namespace NoteTemplate

structure PatternEdit where
  inserts : Prop
  /-- How the branches of an alternation may change, apart from edits inside them. -/
  alternation : List Pattern → List Pattern → Prop
  /-- How the branches of an any-order group may change, apart from edits inside them. -/
  anyOrder : List Pattern → List Pattern → Prop

namespace PatternEdit

def reordering : PatternEdit := ⟨False, List.Perm, List.Perm⟩

def extension : PatternEdit := ⟨True, List.Sublist, Eq⟩

/-- What an edit may not do: take a branch away. -/
structure Keeps (edit : PatternEdit) : Prop where
  alternation : ∀ ps qs, edit.alternation ps qs → ps ⊆ qs
  anyOrder : ∀ ps qs, edit.anyOrder ps qs → ps.Perm qs

theorem keeps_reordering : reordering.Keeps where
  alternation _ _ perm := perm.subset
  anyOrder _ _ perm := perm

theorem keeps_extension : extension.Keeps where
  alternation _ _ more := more.subset
  anyOrder _ _ same := .of_eq same

end PatternEdit

mutual

inductive Pattern.Edited (edit : PatternEdit) : List Token → List Token → Prop
  | nil : Pattern.Edited edit [] []
  | cons {t t' : Token} {p p' : List Token} (first : Token.Edited edit t t')
      (rest : Pattern.Edited edit p p') : Pattern.Edited edit (t :: p) (t' :: p')
  | insert {p p' : List Token} (allowed : edit.inserts) (body : List Token)
      (rest : Pattern.Edited edit p p') : Pattern.Edited edit p (.optional body :: p')

inductive Token.Edited (edit : PatternEdit) : Token → Token → Prop
  | text (literal : Text) : Token.Edited edit (.text literal) (.text literal)
  | variable {v v' : Variable} (slot : Variable.Edited edit v v') :
      Token.Edited edit (.variable v) (.variable v')
  | optional {body body' : List Token} (inside : Pattern.Edited edit body body') :
      Token.Edited edit (.optional body) (.optional body')
  | variational {ps qs qs' : List (List Token)} (each : Pattern.EachEdited edit ps qs)
      (changed : edit.alternation qs qs') : Token.Edited edit (.variational ps) (.variational qs')
  | anyOrder {ps qs qs' : List (List Token)} (each : Pattern.EachEdited edit ps qs)
      (changed : edit.anyOrder qs qs') : Token.Edited edit (.anyOrder ps) (.anyOrder qs')

inductive Variable.Edited (edit : PatternEdit) : Variable → Variable → Prop
  | plain (name : Option Text) (inputType : InputType) :
      Variable.Edited edit ⟨name, inputType, none⟩ ⟨name, inputType, none⟩
  | nested {p p' : List Token} (name : Option Text) (inputType : InputType)
      (inside : Pattern.Edited edit p p') :
      Variable.Edited edit ⟨name, inputType, some p⟩ ⟨name, inputType, some p'⟩

inductive Pattern.EachEdited (edit : PatternEdit) :
    List (List Token) → List (List Token) → Prop
  | nil : Pattern.EachEdited edit [] []
  | cons {p p' : List Token} {ps ps' : List (List Token)} (first : Pattern.Edited edit p p')
      (rest : Pattern.EachEdited edit ps ps') : Pattern.EachEdited edit (p :: ps) (p' :: ps')

end

section Shape

variable {edit : PatternEdit}

theorem Pattern.eachEdited_iff {ps qs : List (List Token)} :
    Pattern.EachEdited edit ps qs ↔ List.Forall₂ (Pattern.Edited edit) ps qs := by
  constructor
  · intro each
    induction ps generalizing qs with
    | nil =>
        cases each
        exact .nil
    | cons p ps ih =>
        cases each with
        | cons first rest => exact .cons first (ih rest)
  · intro each
    induction each with
    | nil => exact .nil
    | cons first _ ih => exact .cons first ih

mutual

theorem Pattern.Edited.refl (alternation : ∀ ps, edit.alternation ps ps)
    (anyOrder : ∀ ps, edit.anyOrder ps ps) : ∀ p : List Token, Pattern.Edited edit p p
  | [] => .nil
  | t :: p => .cons (Token.Edited.refl alternation anyOrder t)
      (Pattern.Edited.refl alternation anyOrder p)

theorem Token.Edited.refl (alternation : ∀ ps, edit.alternation ps ps)
    (anyOrder : ∀ ps, edit.anyOrder ps ps) : ∀ t : Token, Token.Edited edit t t
  | .text literal => .text literal
  | .variable v => .variable (Variable.Edited.refl alternation anyOrder v)
  | .optional body => .optional (Pattern.Edited.refl alternation anyOrder body)
  | .variational ps =>
      .variational (Pattern.EachEdited.refl alternation anyOrder ps) (alternation ps)
  | .anyOrder ps => .anyOrder (Pattern.EachEdited.refl alternation anyOrder ps) (anyOrder ps)

theorem Variable.Edited.refl (alternation : ∀ ps, edit.alternation ps ps)
    (anyOrder : ∀ ps, edit.anyOrder ps ps) : ∀ v : Variable, Variable.Edited edit v v
  | ⟨name, inputType, none⟩ => .plain name inputType
  | ⟨name, inputType, some p⟩ =>
      .nested name inputType (Pattern.Edited.refl alternation anyOrder p)

theorem Pattern.EachEdited.refl (alternation : ∀ ps, edit.alternation ps ps)
    (anyOrder : ∀ ps, edit.anyOrder ps ps) :
    ∀ ps : List (List Token), Pattern.EachEdited edit ps ps
  | [] => .nil
  | p :: ps => .cons (Pattern.Edited.refl alternation anyOrder p)
      (Pattern.EachEdited.refl alternation anyOrder ps)

end

end Shape

section Reordering

/-- Branches edited in their places and then moved can be moved first. -/
theorem exists_eachEdited {edit : PatternEdit} {ps qs qs' : List (List Token)}
    (each : Pattern.EachEdited edit qs ps) (moved : qs.Perm qs') :
    ∃ ps', Pattern.EachEdited edit qs' ps' ∧ ps'.Perm ps := by
  obtain ⟨ps', edited, perm⟩ :=
    List.perm_comp_forall₂ moved.symm (Pattern.eachEdited_iff.mp each)
  exact ⟨ps', Pattern.eachEdited_iff.mpr edited, perm⟩

mutual

theorem Pattern.Edited.symm : ∀ {p q : List Token}, Pattern.Edited .reordering p q →
    Pattern.Edited .reordering q p
  | _, _, .nil => .nil
  | _, _, .cons first rest => .cons first.symm rest.symm
  | _, _, .insert allowed _ _ => allowed.elim

theorem Token.Edited.symm : ∀ {t u : Token}, Token.Edited .reordering t u →
    Token.Edited .reordering u t
  | _, _, .text literal => .text literal
  | _, _, .variable slot => .variable slot.symm
  | _, _, .optional inside => .optional inside.symm
  | _, _, .variational each moved => by
      obtain ⟨ps, edited, perm⟩ := exists_eachEdited each.symm moved
      exact .variational edited perm
  | _, _, .anyOrder each moved => by
      obtain ⟨ps, edited, perm⟩ := exists_eachEdited each.symm moved
      exact .anyOrder edited perm

theorem Variable.Edited.symm : ∀ {v w : Variable}, Variable.Edited .reordering v w →
    Variable.Edited .reordering w v
  | _, _, .plain name inputType => .plain name inputType
  | _, _, .nested name inputType inside => .nested name inputType inside.symm

theorem Pattern.EachEdited.symm : ∀ {ps qs : List (List Token)},
    Pattern.EachEdited .reordering ps qs → Pattern.EachEdited .reordering qs ps
  | _, _, .nil => .nil
  | _, _, .cons first rest => .cons first.symm rest.symm

end

end Reordering

section Readings

variable {edit : PatternEdit}

mutual

/-- An edited pattern has every reading that it had, with edited variables. -/
theorem Pattern.Edited.embeds (keeps : edit.Keeps) : ∀ {p q : List Token},
    Pattern.Edited edit p q → Pattern.Embeds (Variable.Edited edit) p q
  | _, _, .nil => Pattern.embeds_nil
  | _, _, .cons first rest => Pattern.embeds_cons (first.embeds keeps) (rest.embeds keeps)
  | _, _, .insert _ body rest => Pattern.embeds_insert body (rest.embeds keeps)

theorem Token.Edited.embeds (keeps : edit.Keeps) : ∀ {t u : Token},
    Token.Edited edit t u → Token.Embeds (Variable.Edited edit) t u
  | _, _, .text literal => Token.embeds_text literal
  | _, _, .variable slot => Token.embeds_variable slot
  | _, _, .optional inside => Token.embeds_optional (inside.embeds keeps)
  | _, _, .variational each changed =>
      Token.embeds_variational (each.embeds keeps) (keeps.alternation _ _ changed)
  | _, _, .anyOrder each changed =>
      Token.embeds_anyOrder (each.embeds keeps) (keeps.anyOrder _ _ changed)

theorem Pattern.EachEdited.embeds (keeps : edit.Keeps) : ∀ {ps qs : List (List Token)},
    Pattern.EachEdited edit ps qs →
      List.Forall₂ (Pattern.Embeds (Variable.Edited edit)) ps qs
  | _, _, .nil => .nil
  | _, _, .cons first rest => .cons (first.embeds keeps) (rest.embeds keeps)

end

end Readings

section Variables

variable {edit : PatternEdit} {v : Variable}

theorem Pattern.mem_branchVariables_of_subset {ps qs : List (List Token)} (subset : ps ⊆ qs)
    (member : v ∈ Pattern.branchVariables ps) : v ∈ Pattern.branchVariables qs := by
  obtain ⟨p, branch, inside⟩ := Pattern.mem_branchVariables_iff.mp member
  exact Pattern.mem_branchVariables_iff.mpr ⟨p, subset branch, inside⟩

mutual

theorem Pattern.Edited.exists_variable (keeps : edit.Keeps) : ∀ {p q : List Token},
    Pattern.Edited edit p q → ∀ {v : Variable}, v ∈ Pattern.variables p →
      ∃ w ∈ Pattern.variables q, Variable.Edited edit v w
  | _, _, .nil, v, member => by cases member
  | _, _, .cons first rest, v, member => by
      simp only [Pattern.variables, List.mem_append] at member ⊢
      rcases member with here | behind
      · obtain ⟨w, inside, edited⟩ := first.exists_variable keeps here
        exact ⟨w, .inl inside, edited⟩
      · obtain ⟨w, inside, edited⟩ := rest.exists_variable keeps behind
        exact ⟨w, .inr inside, edited⟩
  | _, _, .insert _ body rest, v, member => by
      obtain ⟨w, inside, edited⟩ := rest.exists_variable keeps member
      exact ⟨w, List.mem_append_right _ inside, edited⟩

theorem Token.Edited.exists_variable (keeps : edit.Keeps) : ∀ {t u : Token},
    Token.Edited edit t u → ∀ {v : Variable}, v ∈ Token.variables t →
      ∃ w ∈ Token.variables u, Variable.Edited edit v w
  | _, _, .text literal, v, member => by cases member
  | _, _, .variable slot, v, member => by
      rcases List.mem_cons.mp member with rfl | member
      · exact ⟨_, List.mem_cons_self, slot⟩
      · obtain ⟨w, inside, edited⟩ := slot.exists_variable keeps member
        exact ⟨w, List.mem_cons_of_mem _ inside, edited⟩
  | _, _, .optional inside, v, member => inside.exists_variable keeps member
  | _, _, .variational each changed, v, member => by
      obtain ⟨w, inside, edited⟩ := each.exists_variable keeps member
      have kept := keeps.alternation _ _ changed
      exact ⟨w, Pattern.mem_branchVariables_of_subset kept inside, edited⟩
  | _, _, .anyOrder each changed, v, member => by
      obtain ⟨w, inside, edited⟩ := each.exists_variable keeps member
      have kept := (keeps.anyOrder _ _ changed).subset
      exact ⟨w, Pattern.mem_branchVariables_of_subset kept inside, edited⟩

theorem Variable.Edited.exists_variable (keeps : edit.Keeps) : ∀ {v v' : Variable},
    Variable.Edited edit v v' → ∀ {u : Variable}, u ∈ v.nestedVariables →
      ∃ w ∈ v'.nestedVariables, Variable.Edited edit u w
  | _, _, .plain _ _, u, member => by cases member
  | _, _, .nested _ _ inside, u, member => inside.exists_variable keeps member

theorem Pattern.EachEdited.exists_variable (keeps : edit.Keeps) : ∀ {ps qs : List (List Token)},
    Pattern.EachEdited edit ps qs → ∀ {v : Variable}, v ∈ Pattern.branchVariables ps →
      ∃ w ∈ Pattern.branchVariables qs, Variable.Edited edit v w
  | _, _, .nil, v, member => by cases member
  | _, _, .cons first rest, v, member => by
      simp only [Pattern.branchVariables, List.mem_append] at member ⊢
      rcases member with here | behind
      · obtain ⟨w, inside, edited⟩ := first.exists_variable keeps here
        exact ⟨w, .inl inside, edited⟩
      · obtain ⟨w, inside, edited⟩ := rest.exists_variable keeps behind
        exact ⟨w, .inr inside, edited⟩

end

end Variables

end NoteTemplate
