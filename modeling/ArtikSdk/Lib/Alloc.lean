import Mathlib.Tactic

/-!
# Allocations

The outcome of an allocation is chosen by the world: no memory, or an address that is neither
null nor in use. It may depend on what is in use, so that no run needs a side condition.
-/

namespace Lib

/-- The outcome of a `malloc`, given which addresses are in use: null, or one that is not. -/
structure Malloc where
  pick : (Nat → Bool) → Option Nat
  fresh : ∀ used a, pick used = some a → a ≠ 0 ∧ used a = false

/-- An allocator that has one address to give. -/
def Malloc.only (a : Nat) : Malloc where
  pick used := if a ≠ 0 ∧ used a = false then some a else none
  fresh used b given := by
    split at given
    · cases given
      assumption
    · cases given

end Lib
