import NoteTemplate.InputType

/-!
Patterns: what a template means, as a sequence of tokens. A variable of type `match` carries a
pattern of its own.
-/
namespace NoteTemplate

mutual

inductive Token where
  /-- Literal text, matched up to letter case. -/
  | text (literal : Text)
  | variable (slot : Variable)
  /-- The body is present or absent. -/
  | optional (body : List Token)
  /-- Exactly one branch is taken. -/
  | variational (branches : List (List Token))
  /-- Every branch is taken once, in any order. -/
  | anyOrder (branches : List (List Token))

structure Variable where
  name : Option Text
  inputType : InputType
  pattern : Option (List Token)

end

abbrev Pattern := List Token

namespace Variable

def plain (name : Option Text) (inputType : InputType) : Variable :=
  ⟨name, inputType, none⟩

def nested (name : Option Text) (pattern : Pattern) : Variable :=
  ⟨name, .match, some pattern⟩

def isCaptured (v : Variable) : Bool :=
  v.name.isSome || v.inputType == .database

end Variable

mutual

def Token.decEq : (a b : Token) → Decidable (a = b)
  | .text s => fun
    | .text t => if h : s = t then isTrue (h ▸ rfl) else isFalse fun e => h (by injection e)
    | .variable _ | .optional _ | .variational _ | .anyOrder _ => isFalse nofun
  | .variable v => fun
    | .variable w => match Variable.decEq v w with
      | isTrue h => isTrue (h ▸ rfl)
      | isFalse h => isFalse fun e => h (by injection e)
    | .text _ | .optional _ | .variational _ | .anyOrder _ => isFalse nofun
  | .optional p => fun
    | .optional q => match Pattern.decEq p q with
      | isTrue h => isTrue (h ▸ rfl)
      | isFalse h => isFalse fun e => h (by injection e)
    | .text _ | .variable _ | .variational _ | .anyOrder _ => isFalse nofun
  | .variational ps => fun
    | .variational qs => match Pattern.decEqBranches ps qs with
      | isTrue h => isTrue (h ▸ rfl)
      | isFalse h => isFalse fun e => h (by injection e)
    | .text _ | .variable _ | .optional _ | .anyOrder _ => isFalse nofun
  | .anyOrder ps => fun
    | .anyOrder qs => match Pattern.decEqBranches ps qs with
      | isTrue h => isTrue (h ▸ rfl)
      | isFalse h => isFalse fun e => h (by injection e)
    | .text _ | .variable _ | .optional _ | .variational _ => isFalse nofun

def Variable.decEq : (v w : Variable) → Decidable (v = w)
  | ⟨n, t, none⟩ => fun
    | ⟨m, u, none⟩ =>
      if h : n = m ∧ t = u then isTrue (by rw [h.1, h.2])
      else isFalse fun e => h (by injection e; exact ⟨‹_›, ‹_›⟩)
    | ⟨_, _, some _⟩ => isFalse nofun
  | ⟨n, t, some p⟩ => fun
    | ⟨_, _, none⟩ => isFalse nofun
    | ⟨m, u, some q⟩ =>
      if h : n = m ∧ t = u then
        match Pattern.decEq p q with
        | isTrue e => isTrue (by rw [h.1, h.2, e])
        | isFalse e => isFalse fun eq => e (by injection eq with _ _ eq; injection eq)
      else isFalse fun e => h (by injection e; exact ⟨‹_›, ‹_›⟩)

def Pattern.decEq : (p q : List Token) → Decidable (p = q)
  | [] => fun
    | [] => isTrue rfl
    | _ :: _ => isFalse nofun
  | t :: p => fun
    | [] => isFalse nofun
    | u :: q => match Token.decEq t u, Pattern.decEq p q with
      | isTrue h, isTrue k => isTrue (h ▸ k ▸ rfl)
      | isFalse h, _ => isFalse fun e => h (by injection e)
      | _, isFalse k => isFalse fun e => k (by injection e)

def Pattern.decEqBranches : (ps qs : List (List Token)) → Decidable (ps = qs)
  | [] => fun
    | [] => isTrue rfl
    | _ :: _ => isFalse nofun
  | p :: ps => fun
    | [] => isFalse nofun
    | q :: qs => match Pattern.decEq p q, Pattern.decEqBranches ps qs with
      | isTrue h, isTrue k => isTrue (h ▸ k ▸ rfl)
      | isFalse h, _ => isFalse fun e => h (by injection e)
      | _, isFalse k => isFalse fun e => k (by injection e)

end

instance : DecidableEq Token := Token.decEq

instance : DecidableEq Variable := Variable.decEq

mutual

/-- The variables of a pattern in template order, each before those of its nested pattern. -/
def Pattern.variables : List Token → List Variable
  | [] => []
  | t :: p => Token.variables t ++ Pattern.variables p

def Token.variables : Token → List Variable
  | .text _ => []
  | .variable v => v :: Variable.nestedVariables v
  | .optional body => Pattern.variables body
  | .variational branches | .anyOrder branches => Pattern.branchVariables branches

def Variable.nestedVariables : Variable → List Variable
  | ⟨_, _, none⟩ => []
  | ⟨_, _, some p⟩ => Pattern.variables p

def Pattern.branchVariables : List (List Token) → List Variable
  | [] => []
  | p :: ps => Pattern.variables p ++ Pattern.branchVariables ps

end

mutual

def Pattern.nesting : List Token → Nat
  | [] => 0
  | t :: p => max (Token.nesting t) (Pattern.nesting p)

def Token.nesting : Token → Nat
  | .text _ => 0
  | .variable v => Variable.nesting v
  | .optional body => Pattern.nesting body
  | .variational branches | .anyOrder branches => Pattern.branchNesting branches

def Variable.nesting : Variable → Nat
  | ⟨_, _, none⟩ => 0
  | ⟨_, _, some p⟩ => Pattern.nesting p + 1

def Pattern.branchNesting : List (List Token) → Nat
  | [] => 0
  | p :: ps => max (Pattern.nesting p) (Pattern.branchNesting ps)

end

end NoteTemplate
