import NoteTemplate.Proofs.Expansion.Enumeration

/-!
Patterns whose readings are found again in another pattern, up to a relation between variables. The
relation between patterns follows the tokens, and it carries over to their combinations.
-/
namespace NoteTemplate

inductive Segment.Related (R : Variable → Variable → Prop) : Segment → Segment → Prop
  | text (literal : Text) : Segment.Related R (.text literal) (.text literal)
  | variable {v w : Variable} (slot : R v w) : Segment.Related R (.variable v) (.variable w)

abbrev Reading.Related (R : Variable → Variable → Prop) : Reading → Reading → Prop :=
  List.Forall₂ (Segment.Related R)

/-- Each reading of the first pattern is one of the second up to related variables. -/
def Pattern.Embeds (R : Variable → Variable → Prop) (p q : Pattern) : Prop :=
  ∀ r, Pattern.Reads p r → ∃ r', Pattern.Reads q r' ∧ Reading.Related R r r'

def Token.Embeds (R : Variable → Variable → Prop) (t u : Token) : Prop :=
  ∀ r, Token.Reads t r → ∃ r', Token.Reads u r' ∧ Reading.Related R r r'

variable {R : Variable → Variable → Prop}

section Tokens

theorem Token.embeds_text (literal : Text) : Token.Embeds R (.text literal) (.text literal) := by
  intro r reads
  cases reads
  exact ⟨_, .text literal, .cons (.text literal) .nil⟩

theorem Token.embeds_variable {v w : Variable} (slot : R v w) :
    Token.Embeds R (.variable v) (.variable w) := by
  intro r reads
  cases reads
  exact ⟨_, .variable w, .cons (.variable slot) .nil⟩

theorem Token.embeds_optional {body body' : Pattern} (inside : Pattern.Embeds R body body') :
    Token.Embeds R (.optional body) (.optional body') := by
  intro r reads
  cases reads with
  | absent => exact ⟨[], .absent body', .nil⟩
  | present reads =>
      obtain ⟨r', reads', related⟩ := inside r reads
      exact ⟨r', .present reads', related⟩

theorem Token.embeds_variational {ps qs qs' : List Pattern}
    (each : List.Forall₂ (Pattern.Embeds R) ps qs) (kept : qs ⊆ qs') :
    Token.Embeds R (.variational ps) (.variational qs') := by
  intro r reads
  cases reads with
  | @branch _ p _ member reads =>
      obtain ⟨i, bound, rfl⟩ := List.getElem_of_mem member
      have bound' : i < qs.length := each.length_eq ▸ bound
      obtain ⟨r', reads', related⟩ := each.get bound bound' r reads
      exact ⟨r', .branch (kept (List.getElem_mem bound')) reads', related⟩

/-- A choice of readings, one for each branch, is found again branch by branch. -/
theorem Pattern.exists_readEach {ps qs : List Pattern}
    (each : List.Forall₂ (Pattern.Embeds R) ps qs) {rs : List Reading}
    (chosen : Pattern.ReadEach ps rs) :
    ∃ rs', Pattern.ReadEach qs rs' ∧ List.Forall₂ (Reading.Related R) rs rs' := by
  induction each generalizing rs with
  | nil =>
      cases chosen
      exact ⟨[], .nil, .nil⟩
  | cons embeds _ ih =>
      cases chosen with
      | @cons _ _ r _ first rest =>
          obtain ⟨r', first', related⟩ := embeds r first
          obtain ⟨rs', rest', others⟩ := ih rest
          exact ⟨r' :: rs', .cons first' rest', .cons related others⟩

theorem Token.embeds_anyOrder {ps qs qs' : List Pattern}
    (each : List.Forall₂ (Pattern.Embeds R) ps qs) (rearranged : qs.Perm qs') :
    Token.Embeds R (.anyOrder ps) (.anyOrder qs') := by
  intro r reads
  cases reads with
  | @ordered _ rs order chosen perm =>
      obtain ⟨rs', chosen', related⟩ := Pattern.exists_readEach each chosen
      -- the readings of the branches in their new places
      obtain ⟨placed, chosen'', moved⟩ :=
        List.perm_comp_forall₂ rearranged.symm (Pattern.readEach_iff.mp chosen')
      -- and in the order in which the first pattern reads them
      obtain ⟨order', related', perm'⟩ := List.perm_comp_forall₂ perm.symm related
      refine ⟨order'.flatten, .ordered (Pattern.readEach_iff.mpr chosen'') ?_, ?_⟩
      · exact moved.trans perm'.symm
      · exact List.rel_flatten related'

end Tokens

section Sequences

theorem Pattern.embeds_nil : Pattern.Embeds R [] [] := by
  intro r reads
  cases reads
  exact ⟨[], .nil, .nil⟩

theorem Pattern.embeds_cons {t u : Token} {p q : Pattern} (first : Token.Embeds R t u)
    (rest : Pattern.Embeds R p q) : Pattern.Embeds R (t :: p) (u :: q) := by
  intro r reads
  cases reads with
  | @cons _ _ front back here behind =>
      obtain ⟨front', here', related⟩ := first front here
      obtain ⟨back', behind', related'⟩ := rest back behind
      exact ⟨front' ++ back', .cons here' behind', List.rel_append related related'⟩

theorem Pattern.embeds_insert {p q : Pattern} (body : Pattern) (rest : Pattern.Embeds R p q) :
    Pattern.Embeds R p (.optional body :: q) := by
  intro r reads
  obtain ⟨r', reads', related⟩ := rest r reads
  exact ⟨[] ++ r', .cons (.absent body) reads', related⟩

end Sequences

namespace Reading

variable {r r' : Reading}

theorem Related.consSegment {s s' : Segment} (head : Segment.Related R s s')
    (tail : Related R r r') : Related R (consSegment s r) (consSegment s' r') := by
  rcases head with literal | slot
  · cases literal with
    | nil => exact tail
    | cons c literal =>
        cases tail with
        | nil => exact .cons (.text _) .nil
        | cons next tail =>
            rcases next with literal' | slot
            · exact .cons (.text _) tail
            · exact .cons (.text _) (.cons (.variable slot) tail)
  · exact .cons (.variable slot) tail

theorem Related.simplify (related : Related R r r') : Related R r.simplify r'.simplify := by
  induction related with
  | nil => exact .nil
  | cons head _ ih => exact Related.consSegment head ih

theorem Related.hasAdjacentVariables_eq (related : Related R r r') :
    r.hasAdjacentVariables = r'.hasAdjacentVariables := by
  induction related with
  | nil => rfl
  | cons head tail ih =>
      rcases head with literal | slot
      · exact ih
      · cases tail with
        | nil => rfl
        | cons next tail =>
            rcases next with literal | slot
            · exact ih
            · rfl

end Reading

theorem Pattern.Embeds.exists_mem_expand {p q : Pattern} (embeds : Pattern.Embeds R p q)
    {c : Combination} (member : c ∈ expand p) :
    ∃ d ∈ expand q, Reading.Related R c.segments d.segments := by
  obtain ⟨⟨r, reading, rfl⟩, apart⟩ := mem_expand_iff.mp member
  obtain ⟨r', reads, related⟩ := embeds r ((Pattern.mem_readings_iff p).mp reading)
  have reading' := (Pattern.mem_readings_iff q).mpr reads
  have apart' : (Combination.ofSegments r').hasAdjacentVariables = false :=
    related.simplify.hasAdjacentVariables_eq.symm.trans apart
  exact ⟨.ofSegments r', mem_expand_iff.mpr ⟨⟨r', reading', rfl⟩, apart'⟩, related.simplify⟩

end NoteTemplate
