import NoteTemplate.Template.Bracket

namespace NoteTemplate

structure Fragment where
  offset : Nat
  text : Text
  deriving DecidableEq, Repr

namespace Fragment

def stop (f : Fragment) : Nat := f.offset + f.text.byteLength

end Fragment

def consFirst (offset : Nat) (c : Char) : List Fragment → List Fragment
  | [] => [⟨offset, [c]⟩]
  | f :: fs => ⟨offset, c :: f.text⟩ :: fs

/-- The parts between the separators that are neither escaped nor inside brackets. -/
def splitTopLevel (separator : Char) (depth offset : Nat) : Text → List Fragment
  | [] => [⟨offset, []⟩]
  | ['\\'] => [⟨offset, ['\\']⟩]
  | '\\' :: c :: t =>
    consFirst offset '\\'
      (consFirst (offset + 1) c (splitTopLevel separator depth (offset + 1 + c.utf8Size) t))
  | c :: t =>
    let next := offset + c.utf8Size
    if (Bracket.ofOpener? c).isSome then
      consFirst offset c (splitTopLevel separator (depth + 1) next t)
    else if (Bracket.ofCloser? c).isSome then
      consFirst offset c (splitTopLevel separator (depth - 1) next t)
    else if c = separator ∧ depth = 0 then
      ⟨offset, []⟩ :: splitTopLevel separator 0 next t
    else
      consFirst offset c (splitTopLevel separator depth next t)

namespace Fragment

def splitAt (f : Fragment) (separator : Char) : List Fragment :=
  splitTopLevel separator 0 f.offset f.text

end Fragment

theorem length_le_of_mem_splitTopLevel (separator : Char) (depth offset : Nat) (t : Text) :
    ∀ f ∈ splitTopLevel separator depth offset t, f.text.length ≤ t.length := by
  have cons {o : Nat} {c : Char} {fs : List Fragment} {n : Nat}
      (bound : ∀ g ∈ fs, g.text.length ≤ n) : ∀ g ∈ consFirst o c fs, g.text.length ≤ n + 1 := by
    cases fs with
    | nil => simp [consFirst]
    | cons f fs =>
      intro g member
      rcases List.mem_cons.mp member with rfl | member
      · have := bound f (by simp)
        simp only [List.length_cons]
        omega
      · have := bound g (List.mem_cons_of_mem _ member)
        omega
  fun_induction splitTopLevel separator depth offset t
  case case1 => simp
  case case2 => simp
  case case3 ih => exact cons (cons ih)
  case case4 ih => exact cons ih
  case case5 ih => exact cons ih
  case case6 ih =>
    intro f member
    rcases List.mem_cons.mp member with rfl | member
    · simp
    · have := ih f member
      simp only [List.length_cons]
      omega
  case case7 ih => exact cons ih

end NoteTemplate
