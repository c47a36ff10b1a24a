import Mathlib.Data.List.Basic

/-!
# Swift operations that can trap

Subscripts, force unwraps and forced casts end the app when they fail. They are
modelled in `Except`: a computation that traps has no further effect.
-/

namespace JazzOnTheMove.IOS

/-- The traps of the modelled code. -/
inductive Trap where
  /-- An array subscript at or beyond the count. -/
  | indexOutOfRange (index count : ℕ)
  /-- A force unwrap of `nil`. -/
  | foundNil
  /-- A failed forced cast. -/
  | failedCast
  /-- Key-value lookup on an object that does not have the key. -/
  | undefinedKey (key : String)
  deriving DecidableEq, Repr

/-- The subscript `xs[index]`. -/
def subscript {α : Type} (xs : List α) (index : ℕ) : Except Trap α :=
  match xs[index]? with
  | some x => .ok x
  | none => .error (.indexOutOfRange index xs.length)

/-- The force unwrap `x!`. -/
def unwrap {α : Type} : Option α → Except Trap α
  | some a => .ok a
  | none => .error .foundNil

/-- A subscript in range returns. -/
theorem subscript_of_lt {α : Type} {xs : List α} {index : ℕ} (h : index < xs.length) :
    subscript xs index = .ok xs[index] := by
  rw [subscript, List.getElem?_eq_getElem h]

/-- A subscript out of range traps. -/
theorem subscript_of_le {α : Type} {xs : List α} {index : ℕ} (h : xs.length ≤ index) :
    subscript xs index = .error (.indexOutOfRange index xs.length) := by
  rw [subscript, List.getElem?_eq_none h]

end JazzOnTheMove.IOS
