import NoteTemplate.Proofs.Template.Brackets

/-!
The scan of a level with a count of faults in place of a flag. A bracket remembers how many faults
were known when it was opened; a scope that is closed is whole if there are no more of them. What
is known before the level, and what the scopes add that were compiled meanwhile, makes no
difference.
-/
namespace NoteTemplate

structure CountedBracket extends Opened where
  faultsBefore : Nat

/-- The pieces of a text, given the number of faults known so far. `added` tells how many more are
known once a scope is compiled. -/
def countedPieces (added : Piece → Nat) (offset : Nat) (opened : List CountedBracket) (body : Text)
    (faults : Nat) : Text → List Piece
  | [] => opened.reverse.map fun o => .fault (.unclosed o.toOpened)
  | ['\\'] =>
    if opened.isEmpty then [.literal '\\']
    else opened.reverse.map fun o => .fault (.unclosed o.toOpened)
  | '\\' :: c :: t =>
    let next := offset + 1 + c.utf8Size
    if opened.isEmpty then .literal c :: countedPieces added next [] [] faults t
    else countedPieces added next opened (c :: '\\' :: body) faults t
  | c :: t =>
    let next := offset + c.utf8Size
    match Bracket.ofOpener? c, Bracket.ofCloser? c, opened with
    | some b, _, [] => countedPieces added next [⟨⟨b, offset⟩, faults⟩] [] faults t
    | some b, _, _ :: _ =>
      countedPieces added next (⟨⟨b, offset⟩, faults⟩ :: opened) (c :: body) faults t
    | none, some b, [] =>
      .fault (.unexpected b offset) :: countedPieces added next [] [] (faults + 1) t
    | none, some b, o :: outer =>
      if o.bracket ≠ b then
        .fault (.mismatched o.toOpened b offset) ::
          countedPieces added next outer (c :: body) (faults + 1) t
      else if outer.isEmpty ∧ faults = o.faultsBefore then
        let scope := Piece.scope o.bracket ⟨o.offset + 1, body.reverse⟩
        scope :: countedPieces added next [] [] (faults + added scope) t
      else countedPieces added next outer (c :: body) faults t
    | none, none, [] => .literal c :: countedPieces added next [] [] faults t
    | none, none, _ :: _ => countedPieces added next opened (c :: body) faults t

/-- The flag is down exactly if faults came in since the outermost bracket was opened. -/
def FlagCounts (opened : List CountedBracket) (sound : Bool) (faults : Nat) : Prop :=
  ∀ o, opened.getLast? = some o → o.faultsBefore ≤ faults ∧ (sound = true ↔ faults = o.faultsBefore)

section Flag

variable {opened : List CountedBracket} {o o' : CountedBracket} {sound : Bool} {faults : Nat}

theorem flagCounts_nil (sound : Bool) (faults : Nat) : FlagCounts [] sound faults := nofun

theorem flagCounts_opener (b : Bracket) (offset faults : Nat) :
    FlagCounts [⟨⟨b, offset⟩, faults⟩] true faults := by
  intro o last
  cases last
  simp

theorem FlagCounts.push (counts : FlagCounts (o :: opened) sound faults) (o' : CountedBracket) :
    FlagCounts (o' :: o :: opened) sound faults := counts

theorem FlagCounts.tail (counts : FlagCounts (o :: opened) sound faults) :
    FlagCounts opened sound faults := by
  cases opened with
  | nil => exact flagCounts_nil sound faults
  | cons o' outer => exact counts

theorem FlagCounts.fault (counts : FlagCounts opened sound faults) :
    FlagCounts opened false (faults + 1) := by
  intro o last
  have before := (counts o last).1
  constructor
  · omega
  · simp only [Bool.false_eq_true, false_iff]
    omega

theorem FlagCounts.sound_iff (counts : FlagCounts [o] sound faults) :
    sound = true ↔ faults = o.faultsBefore := (counts o rfl).2

end Flag

section Scan

variable {added : Piece → Nat} {offset : Nat} {opened : List CountedBracket} {body : Text}
  {sound : Bool} {faults : Nat}

theorem countedPieces_cons {c : Char} (unescaped : c ≠ '\\') (t : Text) :
    countedPieces added offset opened body faults (c :: t) =
      match Bracket.ofOpener? c, Bracket.ofCloser? c, opened with
      | some b, _, [] =>
        countedPieces added (offset + c.utf8Size) [⟨⟨b, offset⟩, faults⟩] [] faults t
      | some b, _, _ :: _ =>
        countedPieces added (offset + c.utf8Size) (⟨⟨b, offset⟩, faults⟩ :: opened) (c :: body)
          faults t
      | none, some b, [] =>
        .fault (.unexpected b offset) ::
          countedPieces added (offset + c.utf8Size) [] [] (faults + 1) t
      | none, some b, o :: outer =>
        if o.bracket ≠ b then
          .fault (.mismatched o.toOpened b offset) ::
            countedPieces added (offset + c.utf8Size) outer (c :: body) (faults + 1) t
        else if outer.isEmpty ∧ faults = o.faultsBefore then
          let scope := Piece.scope o.bracket ⟨o.offset + 1, body.reverse⟩
          scope :: countedPieces added (offset + c.utf8Size) [] [] (faults + added scope) t
        else countedPieces added (offset + c.utf8Size) outer (c :: body) faults t
      | none, none, [] => .literal c :: countedPieces added (offset + c.utf8Size) [] [] faults t
      | none, none, _ :: _ =>
        countedPieces added (offset + c.utf8Size) opened (c :: body) faults t := by
  cases opens : Bracket.ofOpener? c <;> cases closes : Bracket.ofCloser? c <;>
    cases opened <;> simp [countedPieces, opens, closes, unescaped]

theorem counted_unclosed (opened : List CountedBracket) :
    (opened.reverse.map fun o => Piece.fault (.unclosed o.toOpened)) =
      (opened.map (·.toOpened)).reverse.map fun o => .fault (.unclosed o) := by
  rw [← List.map_reverse, List.map_map]
  rfl

theorem countedPieces_eq (counts : FlagCounts opened sound faults) (t : Text) :
    countedPieces added offset opened body faults t =
      pieces offset (opened.map (·.toOpened)) body sound t := by
  induction t using unit_induction generalizing offset opened body sound faults with
  | nil => exact counted_unclosed opened
  | backslash =>
      cases opened with
      | nil => rfl
      | cons o outer => exact counted_unclosed (o :: outer)
  | unit u t unit ih =>
      have fresh (offset faults : Nat) : countedPieces added offset [] [] faults t =
          pieces offset [] [] true t := ih (flagCounts_nil true faults)
      cases unit with
      | escaped c =>
          cases opened with
          | nil => exact congrArg _ (fresh _ faults)
          | cons o outer => exact ih counts
      | @single c unescaped =>
          rw [List.singleton_append, countedPieces_cons unescaped, pieces_cons unescaped]
          cases opens : Bracket.ofOpener? c with
          | some b =>
              cases opened with
              | nil => exact ih (flagCounts_opener b offset faults)
              | cons o outer => exact ih (counts.push ⟨⟨b, offset⟩, faults⟩)
          | none =>
              cases closes : Bracket.ofCloser? c with
              | none =>
                  cases opened with
                  | nil => exact congrArg _ (fresh _ faults)
                  | cons o outer => exact ih counts
              | some b =>
                  rcases opened with _ | ⟨o, outer⟩
                  · exact congrArg _ (fresh _ (faults + 1))
                  · by_cases same : o.bracket = b
                    · cases outer with
                      | nil =>
                          by_cases whole : faults = o.faultsBefore
                          · have up := counts.sound_iff.mpr whole
                            simp [same, whole, up, Piece.closed, fresh]
                          · have down : sound = false := by
                              simpa [whole] using counts.sound_iff
                            have behind : countedPieces added (offset + c.utf8Size) [] (c :: body)
                                faults t = pieces (offset + c.utf8Size) [] (c :: body) true t :=
                              ih (flagCounts_nil true faults)
                            rw [pieces_outside] at behind
                            simp [same, whole, down, Piece.closed, behind]
                      | cons o' outer =>
                          simp only [same, ne_eq, not_true, if_false, List.isEmpty_cons,
                            Bool.false_eq_true, false_and, List.map_cons, if_true]
                          exact ih counts.tail
                    · simp only [same, ne_eq, not_false_eq_true, if_true, List.map_cons, if_false]
                      exact congrArg _ (ih counts.tail.fault)

end Scan

/-- Levels may be compiled one after the other with a single list of faults: how long the list is by
then does not show in what a level compiles to. -/
theorem compileFragment_eq_countedPieces (customTypes : List Text) (f : Fragment) (faults : Nat) :
    let added (piece : Piece) : Nat := (piece.compile customTypes).errors.length
    compileFragment customTypes f =
      .concat ((countedPieces added f.offset [] [] faults f.text).map
        (Piece.compile customTypes)) := by
  intro added
  rw [countedPieces_eq (flagCounts_nil true faults), compileFragment_eq]
  rfl

end NoteTemplate
