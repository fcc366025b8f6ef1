import NoteTemplate.Proofs.Expansion.Enumeration
import NoteTemplate.Proofs.Matching.Repetitions
import NoteTemplate.Proofs.Text.Recasing

namespace NoteTemplate

mutual

/-- The same pattern but for the letter case of its literals, nested patterns included. -/
inductive Pattern.Recased (e : Recasing) : List Token → List Token → Prop
  | nil : Pattern.Recased e [] []
  | cons {t t' : Token} {p p' : List Token} (first : Token.Recased e t t')
      (rest : Pattern.Recased e p p') : Pattern.Recased e (t :: p) (t' :: p')

inductive Token.Recased (e : Recasing) : Token → Token → Prop
  | text {literal literal' : Text} (letters : Text.Recased e literal literal') :
      Token.Recased e (.text literal) (.text literal')
  | variable {v v' : Variable} (slot : Variable.Recased e v v') :
      Token.Recased e (.variable v) (.variable v')
  | optional {body body' : List Token} (inside : Pattern.Recased e body body') :
      Token.Recased e (.optional body) (.optional body')
  | variational {ps ps' : List (List Token)} (each : Pattern.EachRecased e ps ps') :
      Token.Recased e (.variational ps) (.variational ps')
  | anyOrder {ps ps' : List (List Token)} (each : Pattern.EachRecased e ps ps') :
      Token.Recased e (.anyOrder ps) (.anyOrder ps')

inductive Variable.Recased (e : Recasing) : Variable → Variable → Prop
  | plain (name : Option Text) (inputType : InputType) :
      Variable.Recased e ⟨name, inputType, none⟩ ⟨name, inputType, none⟩
  | nested {p p' : List Token} (name : Option Text) (inputType : InputType)
      (inside : Pattern.Recased e p p') :
      Variable.Recased e ⟨name, inputType, some p⟩ ⟨name, inputType, some p'⟩

inductive Pattern.EachRecased (e : Recasing) : List (List Token) → List (List Token) → Prop
  | nil : Pattern.EachRecased e [] []
  | cons {p p' : List Token} {ps ps' : List (List Token)} (first : Pattern.Recased e p p')
      (rest : Pattern.EachRecased e ps ps') : Pattern.EachRecased e (p :: ps) (p' :: ps')

end

inductive Segment.Recased (e : Recasing) : Segment → Segment → Prop
  | text {literal literal' : Text} (letters : Text.Recased e literal literal') :
      Segment.Recased e (.text literal) (.text literal')
  | variable {v v' : Variable} (slot : Variable.Recased e v v') :
      Segment.Recased e (.variable v) (.variable v')

abbrev Reading.Recased (e : Recasing) : Reading → Reading → Prop :=
  List.Forall₂ (Segment.Recased e)

structure Combination.Recased (e : Recasing) (c d : Combination) : Prop where
  segments : Reading.Recased e c.segments d.segments
  score : c.score = d.score

variable {e : Recasing}

section Identity

mutual

theorem Pattern.Recased.refl : ∀ p : List Token, Pattern.Recased .identity p p
  | [] => .nil
  | t :: p => .cons (Token.Recased.refl t) (Pattern.Recased.refl p)

theorem Token.Recased.refl : ∀ t : Token, Token.Recased .identity t t
  | .text _ => .text (Text.recased_identity_iff.mpr rfl)
  | .variable v => .variable (Variable.Recased.refl v)
  | .optional body => .optional (Pattern.Recased.refl body)
  | .variational ps => .variational (Pattern.EachRecased.refl ps)
  | .anyOrder ps => .anyOrder (Pattern.EachRecased.refl ps)

theorem Variable.Recased.refl : ∀ v : Variable, Variable.Recased .identity v v
  | ⟨name, inputType, none⟩ => .plain name inputType
  | ⟨name, inputType, some p⟩ => .nested name inputType (Pattern.Recased.refl p)

theorem Pattern.EachRecased.refl :
    ∀ ps : List (List Token), Pattern.EachRecased .identity ps ps
  | [] => .nil
  | p :: ps => .cons (Pattern.Recased.refl p) (Pattern.EachRecased.refl ps)

end

mutual

theorem Pattern.Recased.eq : ∀ {p q : List Token}, Pattern.Recased .identity p q → p = q
  | _, _, .nil => rfl
  | _, _, .cons first rest => congrArg₂ List.cons first.eq rest.eq

theorem Token.Recased.eq : ∀ {t u : Token}, Token.Recased .identity t u → t = u
  | _, _, .text letters => congrArg Token.text (Text.recased_identity_iff.mp letters)
  | _, _, .variable slot => congrArg Token.variable slot.eq
  | _, _, .optional inside => congrArg Token.optional inside.eq
  | _, _, .variational each => congrArg Token.variational each.eq
  | _, _, .anyOrder each => congrArg Token.anyOrder each.eq

theorem Variable.Recased.eq : ∀ {v w : Variable}, Variable.Recased .identity v w → v = w
  | _, _, .plain _ _ => rfl
  | _, _, .nested name inputType inside =>
      congrArg (fun p => Variable.mk name inputType (some p)) inside.eq

theorem Pattern.EachRecased.eq :
    ∀ {ps qs : List (List Token)}, Pattern.EachRecased .identity ps qs → ps = qs
  | _, _, .nil => rfl
  | _, _, .cons first rest => congrArg₂ List.cons first.eq rest.eq

end

theorem Segment.Recased.eq {s s' : Segment} (recased : Segment.Recased .identity s s') : s = s' := by
  rcases recased with letters | slot
  · rw [Text.recased_identity_iff.mp letters]
  · rw [slot.eq]

theorem Combination.Recased.eq {c d : Combination} (recased : Combination.Recased .identity c d) :
    c = d := by
  obtain ⟨segments, score⟩ := c
  obtain ⟨segments', score'⟩ := d
  have same : List.Forall₂ Eq segments segments' := recased.segments.imp fun _ _ => Segment.Recased.eq
  rw [List.forall₂_eq_eq_eq] at same
  cases same
  cases recased.score
  rfl

end Identity

section Variables

mutual

theorem Pattern.Recased.variables : ∀ {p q : List Token}, Pattern.Recased e p q →
    List.Forall₂ (Variable.Recased e) (Pattern.variables p) (Pattern.variables q)
  | _, _, .nil => .nil
  | _, _, .cons first rest => List.rel_append first.variables rest.variables

theorem Token.Recased.variables : ∀ {t u : Token}, Token.Recased e t u →
    List.Forall₂ (Variable.Recased e) (Token.variables t) (Token.variables u)
  | _, _, .text _ => .nil
  | _, _, .variable slot => .cons slot slot.nestedVariables
  | _, _, .optional inside => inside.variables
  | _, _, .variational each => each.variables
  | _, _, .anyOrder each => each.variables

theorem Variable.Recased.nestedVariables : ∀ {v w : Variable}, Variable.Recased e v w →
    List.Forall₂ (Variable.Recased e) v.nestedVariables w.nestedVariables
  | _, _, .plain _ _ => .nil
  | _, _, .nested _ _ inside => inside.variables

theorem Pattern.EachRecased.variables : ∀ {ps qs : List (List Token)}, Pattern.EachRecased e ps qs →
    List.Forall₂ (Variable.Recased e) (Pattern.branchVariables ps) (Pattern.branchVariables qs)
  | _, _, .nil => .nil
  | _, _, .cons first rest => List.rel_append first.variables rest.variables

end

end Variables

section Choices

variable {α β : Type} {R : α → β → Prop}

theorem cross_forall₂ {left right : List (List α)} {left' right' : List (List β)}
    (lefts : List.Forall₂ (List.Forall₂ R) left left')
    (rights : List.Forall₂ (List.Forall₂ R) right right') :
    List.Forall₂ (List.Forall₂ R) (cross left right) (cross left' right') := by
  apply List.rel_flatMap lefts
  intro l l' fronts
  apply List.rel_map _ rights
  intro r r' backs
  exact List.rel_append fronts backs

theorem tuples_forall₂ {xss : List (List α)} {yss : List (List β)}
    (each : List.Forall₂ (List.Forall₂ R) xss yss) :
    List.Forall₂ (List.Forall₂ R) (tuples xss) (tuples yss) := by
  induction each with
  | nil => exact .cons .nil .nil
  | cons first _ ih =>
      apply List.rel_flatMap first
      intro x y related
      apply List.rel_map _ ih
      intro rest rest' others
      exact .cons related others

theorem selections_forall₂ {xs : List α} {ys : List β} (related : List.Forall₂ R xs ys) :
    List.Forall₂ (fun a b => R a.1 b.1 ∧ List.Forall₂ R a.2 b.2)
      (selections xs) (selections ys) := by
  induction related with
  | nil => exact .nil
  | cons head tail ih =>
      refine .cons ⟨head, tail⟩ (List.rel_map ?_ ih)
      rintro ⟨x, xs⟩ ⟨y, ys⟩ ⟨taken, others⟩
      exact ⟨taken, .cons head others⟩

theorem arrangements_forall₂ (n : Nat) {xs : List α} {ys : List β}
    (related : List.Forall₂ R xs ys) :
    List.Forall₂ (List.Forall₂ R) (arrangements n xs) (arrangements n ys) := by
  induction n generalizing xs ys with
  | zero => exact .cons .nil .nil
  | succ n ih =>
      apply List.rel_flatMap (selections_forall₂ related)
      rintro ⟨x, xs⟩ ⟨y, ys⟩ ⟨taken, others⟩
      apply List.rel_map _ (ih others)
      intro rest rest' arranged
      exact .cons taken arranged

/-- Where the ranks are the same, the ranking moves related elements to the same places. -/
theorem ranked_forall₂ {rank : α → Nat} {rank' : β → Nat} (same : ∀ x y, R x y → rank x = rank' y)
    {xs : List α} {ys : List β} (related : List.Forall₂ R xs ys) :
    List.Forall₂ R (ranked rank xs) (ranked rank' ys) := by
  -- Both lists are the sides of one list of pairs, which is ranked by either rank.
  let pairs := xs.zip ys
  have left : pairs.map Prod.fst = xs := List.map_fst_zip related.length_eq.le
  have right : pairs.map Prod.snd = ys := List.map_snd_zip related.length_eq.ge
  have each : ∀ x ∈ pairs, R x.1 x.2 := fun x member => List.forall₂_zip related member
  have firsts : (ranked (rank ∘ Prod.fst) pairs).map Prod.fst = ranked rank xs := by
    rw [← left]
    exact map_ranked fun _ _ _ _ => Iff.rfl
  have seconds : (ranked (rank ∘ Prod.fst) pairs).map Prod.snd = ranked rank' ys := by
    rw [← right]
    apply map_ranked
    intro x inside y inside'
    simp only [Function.comp_apply, same _ _ (each x inside), same _ _ (each y inside')]
  rw [← firsts, ← seconds, List.forall₂_map_left_iff, List.forall₂_map_right_iff, List.forall₂_same]
  intro x inside
  exact each x (List.mem_mergeSort.mp inside)

end Choices

section Readings

mutual

/-- Each reading is found in the same place of the enumeration. -/
theorem Pattern.Recased.readings : ∀ {p q : List Token}, Pattern.Recased e p q →
    List.Forall₂ (Reading.Recased e) (Pattern.readings p) (Pattern.readings q)
  | _, _, .nil => .cons .nil .nil
  | _, _, .cons first rest => cross_forall₂ first.readings rest.readings

theorem Token.Recased.readings : ∀ {t u : Token}, Token.Recased e t u →
    List.Forall₂ (Reading.Recased e) (Token.readings t) (Token.readings u)
  | _, _, .text letters => .cons (.cons (.text letters) .nil) .nil
  | _, _, .variable slot => .cons (.cons (.variable slot) .nil) .nil
  | _, _, .optional inside => .cons .nil inside.readings
  | _, _, .variational each => List.rel_flatten each.readings
  | _, _, .anyOrder each => by
      apply List.rel_flatMap (tuples_forall₂ each.readings)
      intro tuple tuple' chosen
      have sizes := chosen.length_eq
      simp only [sizes]
      apply List.rel_map _ (arrangements_forall₂ _ chosen)
      intro order order' arranged
      exact List.rel_flatten arranged

theorem Pattern.EachRecased.readings : ∀ {ps qs : List (List Token)}, Pattern.EachRecased e ps qs →
    List.Forall₂ (List.Forall₂ (Reading.Recased e)) (Pattern.branchReadings ps)
      (Pattern.branchReadings qs)
  | _, _, .nil => .nil
  | _, _, .cons first rest => .cons first.readings rest.readings

end

theorem Segment.Recased.score_eq {s s' : Segment} (recased : Segment.Recased e s s') :
    s.score = s'.score := by
  rcases recased with letters | slot
  · rw [Segment.score, Segment.score, letters.length_eq]
  · cases slot <;> rfl

namespace Reading

variable {r r' : Reading}

theorem Recased.consSegment {s s' : Segment} (head : Segment.Recased e s s')
    (tail : Recased e r r') : Recased e (consSegment s r) (consSegment s' r') := by
  rcases head with letters | slot
  · cases letters with
    | nil => exact tail
    | cons letter letters =>
        cases tail with
        | nil => exact .cons (.text (.cons letter letters)) .nil
        | cons next tail =>
            rcases next with letters' | slot
            · exact .cons (.text (List.rel_append (.cons letter letters) letters')) tail
            · exact .cons (.text (.cons letter letters)) (.cons (.variable slot) tail)
  · exact .cons (.variable slot) tail

theorem Recased.simplify (recased : Recased e r r') : Recased e r.simplify r'.simplify := by
  induction recased with
  | nil => exact .nil
  | cons head _ ih => exact Recased.consSegment head ih

theorem Recased.score_eq (recased : Recased e r r') : r.score = r'.score := by
  induction recased with
  | nil => rfl
  | cons head _ ih => exact congrArg₂ (· + ·) head.score_eq ih

theorem Recased.hasAdjacentVariables_eq (recased : Recased e r r') :
    r.hasAdjacentVariables = r'.hasAdjacentVariables := by
  induction recased with
  | nil => rfl
  | cons head tail ih =>
      rcases head with letters | slot
      · exact ih
      · cases tail with
        | nil => rfl
        | cons next tail =>
            rcases next with letters | slot
            · exact ih
            · rfl

end Reading

theorem Reading.Recased.ofSegments {r r' : Reading} (recased : Reading.Recased e r r') :
    Combination.Recased e (.ofSegments r) (.ofSegments r') :=
  ⟨recased.simplify, recased.simplify.score_eq⟩

theorem Pattern.Recased.rankedCombinations {p q : Pattern} (recased : Pattern.Recased e p q) :
    List.Forall₂ (Combination.Recased e) (Pattern.rankedCombinations p)
      (Pattern.rankedCombinations q) := by
  have all := List.rel_map (fun _ _ related => Reading.Recased.ofSegments related) recased.readings
  apply ranked_forall₂ fun _ _ related => related.score
  apply List.rel_filter _ all
  intro c d related
  have same : c.hasAdjacentVariables = d.hasAdjacentVariables :=
    related.segments.hasAdjacentVariables_eq
  simp only [same]

end Readings

end NoteTemplate
