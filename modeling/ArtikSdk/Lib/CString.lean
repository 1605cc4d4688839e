import ArtikSdk.Lib.Bytes

/-!
# Strings with a final null

A block of memory is read as the bytes before its first null. What `strncpy` leaves there is read
off the bytes that it wrote and those that it did not touch.
-/

namespace Lib.CString

/-- The string in a block of `size` bytes. -/
def read (size : Nat) (m : Mem) : List Byte := (m.load 0 size).takeWhile (· ≠ 0)

/-- `strlen` -/
def strlen (size : Nat) (m : Mem) : Nat := (read size m).length

/-- `strncpy` of the string `src`: what is missing of the `n` bytes are nulls. -/
def strncpy (src : List Byte) (n : Nat) (m : Mem) : Mem := m.store 0 ((src ++ List.replicate (n - src.length) 0).take n)

variable {m : Mem} {s : List Byte} {size n k : Nat}

/-- A string with its null is what is read. -/
theorem read_of_holds (noNull : 0 ∉ s) (holds : m.Holds 0 (s ++ [0])) (inside : s.length < size) : read size m = s := by
  have whole : m.load 0 size = s ++ 0 :: (m.load 0 size).drop (s.length + 1) := by
    have front : (m.load 0 size).take (s.length + 1) = s ++ [0] := by
      have loaded := holds.load_eq
      rw [List.length_append, List.length_singleton] at loaded
      rw [← loaded, Mem.load, Mem.load, ← List.map_take, List.take_range, Nat.min_eq_left inside]
    calc m.load 0 size
        = (m.load 0 size).take (s.length + 1) ++ (m.load 0 size).drop (s.length + 1) := (List.take_append_drop _ _).symm
      _ = (s ++ [0]) ++ (m.load 0 size).drop (s.length + 1) := by rw [front]
      _ = s ++ 0 :: (m.load 0 size).drop (s.length + 1) := by rw [List.append_assoc, List.singleton_append]
  have nonzero : ∀ b ∈ s, decide (b ≠ 0) = true := fun b member => decide_eq_true fun null => noNull (null ▸ member)
  rw [read, whole, List.takeWhile_append_of_pos nonzero, List.takeWhile_cons_of_neg (by simp), List.append_nil]

theorem strncpy_le (short : n ≤ s.length) : strncpy s n m = m.store 0 (s.take n) := by
  rw [strncpy, Nat.sub_eq_zero_of_le short, List.replicate_zero, List.append_nil]

/-- Behind the bytes that are written the block is as it was. -/
theorem strncpy_holds (short : n ≤ s.length) (null : m n = 0) : (strncpy s n m).Holds 0 (s.take n ++ [0]) := by
  have len : (s.take n).length = n := List.length_take_of_le short
  rw [strncpy_le short, Mem.holds_append, len, Nat.zero_add]
  refine ⟨Mem.holds_store m 0 _, ?_⟩
  rw [Mem.holds_cons]
  refine ⟨?_, Mem.holds_nil _ _⟩
  rw [Mem.store_outside m (by rw [len]; omega), null]

/-- The string ends at the first null. -/
theorem strlen_eq : strlen size m = (m.load 0 size).findIdx (fun b => !decide (b ≠ 0)) := by
  rw [strlen, read, List.takeWhile_eq_take_findIdx_not, List.length_take_of_le (List.findIdx_le_length)]

/-- In a block with a null the string is inside of it, has none, and is followed by one. -/
theorem strlen_spec (null : m n = 0) :
    strlen (n + 1) m ≤ n ∧ m (strlen (n + 1) m) = 0 ∧ ∀ k < strlen (n + 1) m, m k ≠ 0 := by
  have some_null : ∃ b ∈ m.load 0 (n + 1), (!decide (b ≠ 0)) = true := by
    refine ⟨m n, List.mem_of_getElem? (i := n) ?_, by rw [null]; rfl⟩
    rw [Mem.load_getElem? m (Nat.lt_succ_self n), Nat.zero_add]
  have here := List.findIdx_lt_length_of_exists some_null
  have at_k : ∀ k (inside : k < (m.load 0 (n + 1)).length), (m.load 0 (n + 1))[k] = m k := by
    intro k inside
    rw [Mem.load_length] at inside
    exact Option.some.inj (((List.getElem?_eq_getElem _).symm.trans (Mem.load_getElem? m inside)).trans (by rw [Nat.zero_add]))
  rw [strlen_eq]
  refine ⟨Nat.le_of_lt_succ (by rwa [Mem.load_length] at here), ?_, fun k before null => ?_⟩
  · have stops := List.findIdx_getElem (w := here)
    rw [at_k _ here] at stops
    simpa using stops
  · have goes := List.not_of_lt_findIdx before
    rw [at_k _ (before.trans here), null] at goes
    simp at goes

end Lib.CString
