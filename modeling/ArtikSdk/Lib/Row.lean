import Mathlib.Tactic

/-!
# Arrays that are filled from the front

The cells of a row are written one behind the other; a count says how many. A write behind the
last cell is none.
-/

namespace Lib

structure Row (α : Type) where
  cells : List (Option α)
  count : Nat

namespace Row

variable {α : Type} {xs ys : List α} {x : α} {n m : Nat}

/-- The next cell is written. -/
def push (x : α) (r : Row α) : Option (Row α) :=
  if r.count < r.cells.length then some ⟨r.cells.set r.count (some x), r.count + 1⟩ else none

def pushAll (xs : List α) (r : Row α) : Option (Row α) := xs.foldlM (fun r x => r.push x) r

/-- The row of `n` cells into which `xs` were written. -/
def filled (xs : List α) (n : Nat) : Row α := ⟨xs.map some ++ List.replicate (n - xs.length) none, xs.length⟩

theorem filled_nil (n : Nat) : filled ([] : List α) n = ⟨List.replicate n none, 0⟩ := rfl

/-- What was written can be read off. -/
theorem filled_injective (same : filled xs n = filled ys m) : xs = ys := by
  have counts : xs.length = ys.length := congrArg count same
  have cells := congrArg Row.cells same
  have written := (List.append_inj cells (by simp [counts])).1
  exact List.map_injective_iff.2 (Option.some_injective α) written

theorem push_filled (space : xs.length < n) : (filled xs n).push x = some (filled (xs ++ [x]) n) := by
  obtain ⟨k, left⟩ : ∃ k, n - xs.length = k + 1 := ⟨n - xs.length - 1, by omega⟩
  have rest : n - (xs ++ [x]).length = k := by
    rw [List.length_append, List.length_singleton]
    omega
  rw [push, if_pos (by simp [filled]; omega), filled, filled, rest, left, List.replicate_succ]
  simp

theorem push_full (full : n ≤ xs.length) : (filled xs n).push x = none := by
  rw [push, if_neg]
  simp [filled]
  omega

theorem pushAll_append (xs ys : List α) (r : Row α) : r.pushAll (xs ++ ys) = (r.pushAll xs).bind fun r => r.pushAll ys :=
  List.foldlM_append

/-- Everything is written where there are cells for it. -/
theorem pushAll_filled (inside : xs.length ≤ n) (ys : List α) :
    (filled xs n).pushAll ys = if xs.length + ys.length ≤ n then some (filled (xs ++ ys) n) else none := by
  induction ys generalizing xs with
  | nil =>
    rw [List.length_nil, Nat.add_zero, if_pos inside, List.append_nil]
    rfl
  | cons y ys ih =>
    rw [pushAll, List.foldlM_cons]
    by_cases space : xs.length < n
    · rw [push_filled space]
      have rest := @ih (xs ++ [y]) (by simpa using space)
      rw [List.length_append, List.length_singleton, List.append_assoc, List.singleton_append, Nat.add_assoc,
        Nat.add_comm 1] at rest
      exact rest
    · rw [push_full (by omega), if_neg (by rw [List.length_cons]; omega)]
      rfl

end Row

end Lib
