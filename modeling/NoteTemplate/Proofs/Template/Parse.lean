import NoteTemplate.Proofs.Template.Level

namespace NoteTemplate

section Completeness

variable {customTypes : List Text}

def Phrase.Compiles (customTypes : List Text) : Phrase → Text → Prop
  | .pattern last p, t => (last = false → Balanced none t) ∧
      ∀ offset, compileFragment customTypes ⟨offset, t⟩ = ⟨p, []⟩
  | .scope token, t => ∃ b s, t = Bracket.enclose b s ∧ Balanced none s ∧
      ∀ offset, (Piece.scope b ⟨offset, s⟩).compile customTypes = ⟨[token], []⟩
  | .branches ps, t => Balanced none t ∧ ∀ offset,
      (Fragment.splitAt ⟨offset, t⟩ '|').map (compileFragment customTypes) = ps.map (⟨·, []⟩)
  | .variable v, t => Balanced none t ∧ ∀ offset,
      (Piece.scope .curly ⟨offset, t⟩).compile customTypes = ⟨[.variable v], []⟩

theorem compiles_scope {last : Bool} {s t : Text} {token : Token} {p : Pattern}
    (scope : ∀ u, token ≠ .text u) (first : Phrase.Compiles customTypes (.scope token) s)
    (rest : Phrase.Compiles customTypes (.pattern last p) t) :
    Phrase.Compiles customTypes (.pattern last (token :: p)) (s ++ t) := by
  obtain ⟨b, s, rfl, inside, tokenOk⟩ := first
  obtain ⟨balanced, restOk⟩ := rest
  refine ⟨fun inner => .scope b inside (balanced inner), fun offset => ?_⟩
  rw [compileFragment_scope b inside, tokenOk, restOk]
  simp [Compiled.append, Pattern.glue_scope scope]

theorem wrapBranches_ok (token : List Pattern → Token) (ps : List Pattern) :
    Compiled.wrapBranches token (ps.map (⟨·, []⟩)) = ⟨[token ps], []⟩ := by
  simp [Compiled.wrapBranches, Function.comp_def]

theorem balanced_typed {n t : Text} (whole : Balanced (some ':') n) (balanced : Balanced none t) :
    Balanced none (n ++ ':' :: t) :=
  whole.unbar.append (.cons isPlain_colon balanced)

theorem Derives.compiles {phrase : Phrase} {t : Text} (derives : Derives customTypes phrase t) :
    phrase.Compiles customTypes t := by
  induction derives with
  | empty => exact ⟨fun _ => .nil, fun _ => compileFragment_nil⟩
  | @literal last t u spelled nonempty =>
      refine ⟨fun inner => by subst inner; exact spelled.balanced, fun offset => ?_⟩
      have whole : compileFragment customTypes ⟨offset, t ++ []⟩ = _ :=
        compileFragment_spelled spelled fun _ => rfl
      rw [List.append_nil, compileFragment_nil, Pattern.literal_eq nonempty] at whole
      exact whole
  | scope first rest firstOk restOk => exact compiles_scope first.not_text firstOk restOk
  | literalScope spelled nonempty first rest firstOk restOk =>
      obtain ⟨balanced, scopeOk⟩ := compiles_scope first.not_text firstOk restOk
      refine ⟨fun inner => spelled.balanced.append (balanced inner), fun offset => ?_⟩
      rw [compileFragment_spelled spelled (absurd · Bool.false_ne_true), scopeOk,
        Pattern.literal_eq nonempty]
      simp [Compiled.append, Pattern.glue_text_scope first.not_text]
  | slot inside insideOk => exact ⟨.curly, _, rfl, insideOk⟩
  | optional inside insideOk =>
      obtain ⟨balanced, insideOk⟩ := insideOk
      refine ⟨.square, _, rfl, balanced rfl, fun offset => ?_⟩
      rw [Piece.compile, insideOk]
      rfl
  | variational inside insideOk =>
      obtain ⟨balanced, insideOk⟩ := insideOk
      refine ⟨.round, _, rfl, balanced, fun offset => ?_⟩
      rw [Piece.compile, insideOk, wrapBranches_ok]
  | anyOrder inside insideOk =>
      obtain ⟨balanced, insideOk⟩ := insideOk
      refine ⟨.angle, _, rfl, balanced, fun offset => ?_⟩
      rw [Piece.compile, insideOk, wrapBranches_ok]
  | lastBranch whole branch branchOk =>
      refine ⟨whole.unbar, fun offset => ?_⟩
      rw [splitAt_whole whole, List.map_singleton, branchOk.2]
      rfl
  | branch whole branch rest branchOk restOk =>
      refine ⟨whole.unbar.append (.cons isPlain_bar restOk.1), fun offset => ?_⟩
      rw [splitAt_separator isPlain_bar whole, List.map_cons, branchOk.2, restOk.2]
      rfl
  | database named =>
      refine ⟨named.1.unbar, fun offset => ?_⟩
      rw [Piece.compile, ofFragment_untyped named.1, named.2.unescape_eq, if_pos rfl]
  | typedDatabase named balanced =>
      refine ⟨balanced_typed named.1 balanced, fun offset => ?_⟩
      rw [Piece.compile, ofFragment_typed named.1, named.2.unescape_eq, if_pos rfl]
  | untyped named other =>
      refine ⟨named.1.unbar, fun offset => ?_⟩
      rw [Piece.compile, ofFragment_untyped named.1, named.2.unescape_eq, if_neg other]
  | builtin named other known allowed =>
      have type := (spells_plain (plain_of_builtin known)).balanced
      refine ⟨balanced_typed named.1 type, fun offset => ?_⟩
      rw [Piece.compile, ofFragment_typed named.1, named.2.unescape_eq, if_neg other,
        ofType_builtin known allowed]
  | custom named other nonempty balanced unknown member =>
      refine ⟨balanced_typed named.1 balanced, fun offset => ?_⟩
      rw [Piece.compile, ofFragment_typed named.1, named.2.unescape_eq, if_neg other,
        ofType_custom nonempty unknown member]
  | nested named other nonempty unknown foreign inside insideOk =>
      refine ⟨balanced_typed named.1 (insideOk.1 rfl), fun offset => ?_⟩
      rw [Piece.compile, ofFragment_typed named.1, named.2.unescape_eq, if_neg other,
        ofType_nested nonempty unknown foreign]
      simp only [insideOk.2]
      rfl

end Completeness

section Soundness

variable {customTypes : List Text}

namespace Compiled

theorem wrap_eq_ok {token : Pattern → Token} {part : Compiled} {p : Pattern}
    (ok : wrap token part = ⟨p, []⟩) : ∃ q, part = ⟨q, []⟩ ∧ p = [token q] := by
  obtain ⟨q, es⟩ := part
  cases ok
  exact ⟨q, rfl, rfl⟩

theorem wrapBranches_eq_ok {token : List Pattern → Token} {parts : List Compiled} {p : Pattern}
    (ok : wrapBranches token parts = ⟨p, []⟩) :
    ∃ ps : List Pattern, parts = ps.map (⟨·, []⟩) ∧ p = [token ps] := by
  simp only [wrapBranches, mk.injEq, List.flatMap_eq_nil_iff] at ok
  obtain ⟨rfl, clean⟩ := ok
  refine ⟨parts.map (·.pattern), ?_, rfl⟩
  rw [List.map_map]
  refine (List.map_id parts).symm.trans (List.map_congr_left fun part member => ?_)
  obtain ⟨q, es⟩ := part
  obtain rfl : es = [] := clean _ member
  rfl

end Compiled

theorem Derives.literal_append {last : Bool} {s t u : Text} {p : Pattern}
    (spelled : Spells IsPlain false s u) (nonempty : u ≠ [])
    (rest : Derives customTypes (.pattern last p) t) :
    Derives customTypes (.pattern last (Pattern.glue [.text u] p)) (s ++ t) := by
  cases rest with
  | empty =>
      have whole : Spells IsPlain last (s ++ []) (u ++ []) := spelled.append .nil
      rw [List.append_nil u] at whole
      exact .literal whole nonempty
  | literal spelled' _ => exact .literal (spelled.append spelled') (by simp [nonempty])
  | scope first rest =>
      rw [Pattern.glue_text_scope first.not_text]
      exact .literalScope spelled nonempty first rest
  | literalScope spelled' _ first rest =>
      rw [← List.append_assoc]
      exact .literalScope (spelled.append spelled') (by simp [nonempty]) first rest

def Sound (customTypes : List Text) (t : Text) : Prop :=
  ∀ last p offset, compileFragment customTypes ⟨offset, t⟩ = ⟨p, []⟩ →
    (last = false → Balanced none t) → Derives customTypes (.pattern last p) t

variable {offset : Nat} {t : Text} {p : Pattern}

theorem derives_branches (sound : ∀ s, s.length ≤ t.length → Sound customTypes s)
    (balanced : Balanced none t) {ps : List Pattern}
    (ok : (Fragment.splitAt ⟨offset, t⟩ '|').map (compileFragment customTypes) =
      ps.map (⟨·, []⟩)) : Derives customTypes (.branches ps) t := by
  have parts : Parts '|' offset t (Fragment.splitAt ⟨offset, t⟩ '|') :=
    parts_splitAt isPlain_bar balanced
  generalize Fragment.splitAt ⟨offset, t⟩ '|' = fs at parts ok
  clear balanced
  induction parts generalizing ps with
  | last whole =>
      cases ps with
      | nil => cases ok
      | cons p ps =>
          rcases List.cons.inj ok with ⟨first, none⟩
          cases List.map_eq_nil_iff.mp none.symm
          exact .lastBranch whole (sound _ (Nat.le_refl _) _ _ _ first fun _ => whole.unbar)
  | @part offset s t fs whole rest ih =>
      cases ps with
      | nil => cases ok
      | cons p ps =>
          have size : (s ++ '|' :: t).length = s.length + (t.length + 1) := by simp
          rcases List.cons.inj ok with ⟨first, others⟩
          have branch := sound s (by omega) false _ _ first fun _ => whole.unbar
          have smaller (s' : Text) (short : s'.length ≤ t.length) : Sound customTypes s' :=
            sound s' (by omega)
          exact .branch whole branch (ih smaller others)

theorem derives_variable (sound : ∀ s, s.length ≤ t.length → Sound customTypes s)
    (balanced : Balanced none t)
    (ok : (Piece.scope .curly ⟨offset, t⟩).compile customTypes = ⟨p, []⟩) :
    ∃ v, p = [.variable v] ∧ Derives customTypes (.variable v) t := by
  rcases balanced.split ':' with whole | ⟨n, type, rfl, whole, balanced⟩
  · rw [Piece.compile, ofFragment_untyped whole] at ok
    by_cases other : unescape t = InputType.database.name
    · rw [if_pos other] at ok
      cases ok
      exact ⟨_, rfl, .database (other ▸ whole.names)⟩
    · rw [if_neg other] at ok
      cases ok
      exact ⟨_, rfl, .untyped whole.names other⟩
  · rw [Piece.compile, ofFragment_typed whole] at ok
    by_cases other : unescape n = InputType.database.name
    · rw [if_pos other] at ok
      cases ok
      exact ⟨_, rfl, .typedDatabase (other ▸ whole.names) balanced⟩
    · rw [if_neg other] at ok
      by_cases nonempty : type = []
      · simp [VariableForm.ofType, nonempty] at ok
      · cases known : InputType.ofBuiltinName? type with
        | some inputType =>
            by_cases allowed : inputType = .match
            · simp [VariableForm.ofType, nonempty, known, allowed] at ok
            · rw [ofType_builtin known allowed] at ok
              cases ok
              exact ⟨_, rfl, .builtin whole.names other known allowed⟩
        | none =>
            by_cases member : type ∈ customTypes
            · rw [ofType_custom nonempty known member] at ok
              cases ok
              exact ⟨_, rfl, .custom whole.names other nonempty balanced known member⟩
            · rw [ofType_nested nonempty known member] at ok
              obtain ⟨q, inner, rfl⟩ := Compiled.wrap_eq_ok ok
              have shorter : type.length ≤ (n ++ ':' :: type).length := by
                simp only [List.length_append, List.length_cons]
                omega
              have inside := sound type shorter false q _ inner fun _ => balanced
              exact ⟨_, rfl, .nested whole.names other nonempty known member inside⟩

theorem derives_scope (sound : ∀ s, s.length ≤ t.length → Sound customTypes s) (b : Bracket)
    (balanced : Balanced none t)
    (ok : (Piece.scope b ⟨offset, t⟩).compile customTypes = ⟨p, []⟩) :
    ∃ token, p = [token] ∧ Derives customTypes (.scope token) (b.enclose t) := by
  cases b with
  | curly =>
      obtain ⟨v, rfl, inside⟩ := derives_variable sound balanced ok
      exact ⟨_, rfl, .slot inside⟩
  | square =>
      obtain ⟨q, inner, rfl⟩ := Compiled.wrap_eq_ok ok
      exact ⟨_, rfl, .optional (sound t (Nat.le_refl _) _ _ _ inner fun _ => balanced)⟩
  | round =>
      obtain ⟨ps, inner, rfl⟩ := Compiled.wrapBranches_eq_ok ok
      exact ⟨_, rfl, .variational (derives_branches sound balanced inner)⟩
  | angle =>
      obtain ⟨ps, inner, rfl⟩ := Compiled.wrapBranches_eq_ok ok
      exact ⟨_, rfl, .anyOrder (derives_branches sound balanced inner)⟩

theorem exists_scope {last : Bool} {b : Bracket}
    (ok : compileFragment customTypes ⟨offset, b.opener :: t⟩ = ⟨p, []⟩)
    (balanced : last = false → Balanced none (b.opener :: t)) :
    ∃ s rest, t = s ++ b.closer :: rest ∧ Balanced none s ∧
      (last = false → Balanced none rest) := by
  cases last with
  | true =>
      have faultless := faultless_of_compileFragment ok
      rw [Fragment.pieces, pieces_opener] at faultless
      obtain ⟨s, rest, whole, inside⟩ := exists_closer faultless
      exact ⟨s, rest, whole, inside, (absurd ·.symm Bool.false_ne_true)⟩
  | false =>
      obtain ⟨s, rest, rfl, inside, balanced⟩ := (balanced rfl).exists_scope
      exact ⟨s, rest, rfl, inside, fun _ => balanced⟩

theorem compileFragment_sound (t : Text) : Sound customTypes t := by
  -- The content of a scope is scanned anew, so it has to be known for every shorter text.
  induction size : t.length using Nat.strongRecOn generalizing t with
  | ind n ih =>
      intro last p offset ok balanced
      rcases t with _ | ⟨c, t⟩
      · rw [compileFragment_nil] at ok
        cases ok
        exact .empty
      rw [List.length_cons] at size
      rcases char_cases c with rfl | ⟨b, rfl⟩ | ⟨b, rfl⟩ | plain
      · rcases t with _ | ⟨c, t⟩
        · rw [compileFragment_backslash] at ok
          cases ok
          cases last with
          | true => exact .literal (.backslash rfl) (List.cons_ne_nil _ _)
          | false =>
              obtain ⟨_, _, none, _⟩ := (balanced rfl).exists_escaped
              cases none
        · rw [compileFragment_escaped] at ok
          obtain ⟨_, q, first, restOk, rfl⟩ := Compiled.append_eq_ok ok
          cases first
          rw [List.length_cons] at size
          refine Derives.literal_append (.escaped c .nil) (List.cons_ne_nil c [])
            (ih t.length (by omega) t rfl _ _ _ restOk fun inner => ?_)
          obtain ⟨_, _, same, rest⟩ := (balanced inner).exists_escaped
          cases same
          exact rest
      · obtain ⟨s, rest, rfl, inside, balanced⟩ := exists_scope ok balanced
        rw [← Bracket.enclose_append, compileFragment_scope b inside] at ok
        rw [List.length_append, List.length_cons] at size
        obtain ⟨_, q, first, restOk, rfl⟩ := Compiled.append_eq_ok ok
        have smaller (s' : Text) (short : s'.length ≤ s.length) : Sound customTypes s' :=
          ih s'.length (by omega) s' rfl
        obtain ⟨token, rfl, scope⟩ := derives_scope smaller b inside first
        rw [Pattern.glue_scope scope.not_text, ← Bracket.enclose_append]
        exact .scope scope (ih rest.length (by omega) rest rfl _ _ _ restOk balanced)
      · have faultless := faultless_of_compileFragment ok
        rw [Fragment.pieces, pieces_closer_outside] at faultless
        exact absurd List.mem_cons_self (faultless _)
      · rw [compileFragment_plain plain] at ok
        obtain ⟨_, q, first, restOk, rfl⟩ := Compiled.append_eq_ok ok
        cases first
        exact Derives.literal_append (.bare plain plain.2.2 .nil) (List.cons_ne_nil c [])
          (ih t.length (by omega) t rfl _ _ _ restOk fun inner => (balanced inner).tail plain)

end Soundness

section Parser

variable {customTypes : List Text} {t : Text} {p : Pattern}

theorem Derives.unique {last last' : Bool} {q : Pattern}
    (first : Derives customTypes (.pattern last p) t)
    (second : Derives customTypes (.pattern last' q) t) : p = q := by
  have same := (first.compiles.2 0).symm.trans (second.compiles.2 0)
  exact congrArg Compiled.pattern same

theorem Derives.eq_nil_iff {last : Bool} (derives : Derives customTypes (.pattern last p) t) :
    p = [] ↔ t = [] := by
  constructor
  · rintro rfl
    cases derives
    rfl
  · rintro rfl
    have empty : Derives customTypes (.pattern last []) [] := .empty
    exact derives.unique empty

theorem Derives.compile_eq (derives : Derives customTypes (.pattern true p) t) :
    compile t customTypes = .ok p :=
  compile_eq_ok_iff.mpr (derives.compiles.2 0)

theorem Derives.compile_slot {v : Variable} (inside : Derives customTypes (.variable v) t) :
    compile (Bracket.curly.enclose t) customTypes = .ok [.variable v] := by
  have whole : Derives customTypes (.pattern true [.variable v]) (Bracket.curly.enclose t ++ []) :=
    .scope (.slot inside) .empty
  rw [List.append_nil] at whole
  exact whole.compile_eq

theorem derives_of_compile (ok : compile t customTypes = .ok p) :
    Derives customTypes (.pattern true p) t :=
  compileFragment_sound t true p 0 (compile_eq_ok_iff.mp ok) (absurd ·.symm Bool.false_ne_true)

/-- The compiler accepts the templates of the grammar, and no others, with the pattern that each
derives. -/
theorem compile_eq_ok_iff_derives (customTypes : List Text) (t : Text) (p : Pattern) :
    compile t customTypes = .ok p ↔ Derives customTypes (.pattern true p) t :=
  ⟨derives_of_compile, Derives.compile_eq⟩

end Parser

end NoteTemplate
