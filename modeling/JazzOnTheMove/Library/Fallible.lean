import Mathlib.Logic.Basic

/-!
# Computations that may fail

A computation in `Except` that is made of parts returns if all its parts do, each for
what the earlier ones returned. With this, a chain of partial operations is taken apart
without unfolding it.
-/

namespace Fallible

variable {ε α β : Type}

/-- A computation returns if its first part returns and the rest does for what it returned. -/
theorem bind_eq_ok {first : Except ε α} {rest : α → Except ε β} {b : β} :
    first >>= rest = .ok b ↔ ∃ a, first = .ok a ∧ rest a = .ok b := by
  cases first with
  | error e => simp [bind, Except.bind]
  | ok a => simp [bind, Except.bind]

end Fallible
