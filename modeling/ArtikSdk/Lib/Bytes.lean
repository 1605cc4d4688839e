import Mathlib.Tactic

/-!
# Byte memory

A memory is the byte at each offset. `Holds m a bs` says that the bytes `bs` lie at
`a`; a `store` establishes it and every `Holds` fact outside the stored range
survives. Words are little-endian, as `memcpy` into an integer reads them, and
`swap` is the byte reversal that `htonl`/`ntohl` perform on such a machine.
-/

namespace Lib

abbrev Byte := BitVec 8

/-- The byte at each offset. -/
abbrev Mem := Nat → Byte

namespace Mem

/-- `memcpy` of `bs` to offset `a`. -/
def store (m : Mem) (a : Nat) (bs : List Byte) : Mem :=
  fun k => if k < a then m k else (bs[k - a]?).getD (m k)

/-- The `n` bytes from offset `a` on. -/
def load (m : Mem) (a n : Nat) : List Byte :=
  (List.range n).map fun k => m (a + k)

/-- The memory that reads the list `bs` from offset 0 on, and zeros behind it. -/
def ofList (bs : List Byte) : Mem :=
  fun k => (bs[k]?).getD 0

/-- The bytes `bs` lie at offset `a`. -/
def Holds (m : Mem) (a : Nat) (bs : List Byte) : Prop :=
  ∀ k b, bs[k]? = some b → m (a + k) = b

@[simp] theorem load_length (m : Mem) (a n : Nat) : (m.load a n).length = n := by
  simp [load]

theorem load_getElem? (m : Mem) {a n k : Nat} (h : k < n) : (m.load a n)[k]? = some (m (a + k)) := by
  simp [load, h]

theorem store_inside (m : Mem) {a k : Nat} {bs : List Byte} (lo : a ≤ k) (hi : k < a + bs.length) :
    m.store a bs k = bs[k - a] := by
  have bound : k - a < bs.length := by omega
  rw [store, if_neg (by omega), List.getElem?_eq_getElem bound, Option.getD_some]

theorem store_outside (m : Mem) {a k : Nat} {bs : List Byte} (out : k < a ∨ a + bs.length ≤ k) :
    m.store a bs k = m k := by
  unfold store
  split
  · rfl
  · rw [List.getElem?_eq_none (by omega), Option.getD_none]

theorem ofList_getElem {bs : List Byte} {k : Nat} (h : k < bs.length) : ofList bs k = bs[k] := by
  simp [ofList, h]

theorem ofList_load (m : Mem) {n k : Nat} (h : k < n) : ofList (m.load 0 n) k = m k := by
  simp [ofList, load, h]

theorem load_drop (m : Mem) (a n k : Nat) : (m.load a n).drop k = m.load (a + k) (n - k) := by
  apply List.ext_getElem
  · simp
  · intro i _ _
    simp [load, Nat.add_assoc]

theorem holds_load (m : Mem) (a n : Nat) : Holds m a (m.load a n) := by
  intro k b hb
  have bound : k < n := by simpa using (List.getElem?_eq_some_iff.1 hb).1
  rw [load_getElem? m bound] at hb
  exact Option.some.inj hb

theorem holds_ofList (bs : List Byte) : Holds (ofList bs) 0 bs := by
  intro k b hb
  simp [ofList, hb]

theorem Holds.load_eq {m : Mem} {a : Nat} {bs : List Byte} (h : Holds m a bs) : m.load a bs.length = bs := by
  apply List.ext_getElem? fun k => ?_
  by_cases hk : k < bs.length
  · rw [load_getElem? m hk, List.getElem?_eq_getElem hk, h k bs[k] (List.getElem?_eq_getElem hk)]
  · rw [List.getElem?_eq_none (by simpa using hk), List.getElem?_eq_none (by simpa using hk)]

theorem Holds.load_le {m m' : Mem} {a b n k : Nat} (h : Holds m' a (m.load b n)) (le : k ≤ n) : Holds m' a (m.load b k) := by
  intro j c hc
  have bound : j < k := by simpa using (List.getElem?_eq_some_iff.1 hc).1
  apply h j c
  rw [← hc, load_getElem? m bound, load_getElem? m (by omega)]

@[simp] theorem holds_nil (m : Mem) (a : Nat) : Holds m a [] := by
  intro k b hb
  simp at hb

theorem holds_cons {m : Mem} {a : Nat} {b : Byte} {bs : List Byte} :
    Holds m a (b :: bs) ↔ m a = b ∧ Holds m (a + 1) bs := by
  constructor
  · intro h
    refine ⟨h 0 b rfl, fun k c hc => ?_⟩
    rw [Nat.add_assoc, Nat.add_comm 1 k]
    exact h (k + 1) c hc
  · rintro ⟨head, tail⟩ k c hc
    cases k with
    | zero => exact head.trans (Option.some.inj hc)
    | succ k =>
      rw [Nat.add_comm k 1, ← Nat.add_assoc]
      exact tail k c hc

theorem holds_append {m : Mem} {a : Nat} {as bs : List Byte} :
    Holds m a (as ++ bs) ↔ Holds m a as ∧ Holds m (a + as.length) bs := by
  induction as generalizing a with
  | nil => simp
  | cons b as ih =>
    rw [List.cons_append, holds_cons, holds_cons, ih, and_assoc, List.length_cons,
      Nat.add_assoc a 1, Nat.add_comm 1]

theorem holds_store (m : Mem) (a : Nat) (bs : List Byte) : Holds (m.store a bs) a bs := by
  intro k b hb
  obtain ⟨bound, rfl⟩ := List.getElem?_eq_some_iff.1 hb
  rw [store_inside m (by omega) (by omega)]
  simp

/-- What lies outside a stored range is still there. -/
theorem Holds.store {m : Mem} {a c : Nat} {as bs : List Byte} (h : Holds m a as)
    (out : a + as.length ≤ c ∨ c + bs.length ≤ a) : Holds (m.store c bs) a as := by
  intro k b hb
  have bound := (List.getElem?_eq_some_iff.1 hb).1
  rw [store_outside m (by omega)]
  exact h k b hb

/-- Only the bytes of the range matter. -/
theorem Holds.congr {m m' : Mem} {a : Nat} {bs : List Byte} (h : Holds m a bs)
    (same : ∀ k, a ≤ k → k < a + bs.length → m' k = m k) : Holds m' a bs := by
  intro k b hb
  have bound := (List.getElem?_eq_some_iff.1 hb).1
  rw [same _ (by omega) (by omega)]
  exact h k b hb

/-! ## Words -/

/-- The word whose bytes in memory are `b0 b1 b2 b3`. -/
def join (b0 b1 b2 b3 : Byte) : BitVec 32 := b3 ++ b2 ++ b1 ++ b0

/-- Byte `i` of a word, counted from the least significant one. -/
def byteOf (w : BitVec 32) (i : Nat) : Byte := w.extractLsb' (8 * i) 8

/-- `memcpy(&w, m + a, 4)`. -/
def word (m : Mem) (a : Nat) : BitVec 32 := join (m a) (m (a + 1)) (m (a + 2)) (m (a + 3))

/-- The bytes of a word in memory order. -/
def wordBytes (w : BitVec 32) : List Byte := [byteOf w 0, byteOf w 1, byteOf w 2, byteOf w 3]

/-- The word with its bytes reversed: `htonl` and `ntohl`. -/
def swap (w : BitVec 32) : BitVec 32 := join (byteOf w 3) (byteOf w 2) (byteOf w 1) (byteOf w 0)

/-- `memcpy(&h, m + a, 2)`. -/
def half (m : Mem) (a : Nat) : BitVec 16 := m (a + 1) ++ m a

/-- The half word with its bytes reversed: `ntohs`. -/
def swapHalf (h : BitVec 16) : BitVec 16 := h.extractLsb' 0 8 ++ h.extractLsb' 8 8

@[simp] theorem wordBytes_length (w : BitVec 32) : (wordBytes w).length = 4 := rfl

@[simp] theorem byteOf_join_0 (b0 b1 b2 b3 : Byte) : byteOf (join b0 b1 b2 b3) 0 = b0 := by
  ext i hi
  simp only [byteOf, join]
  grind

@[simp] theorem byteOf_join_1 (b0 b1 b2 b3 : Byte) : byteOf (join b0 b1 b2 b3) 1 = b1 := by
  ext i hi
  simp only [byteOf, join]
  grind

@[simp] theorem byteOf_join_2 (b0 b1 b2 b3 : Byte) : byteOf (join b0 b1 b2 b3) 2 = b2 := by
  ext i hi
  simp only [byteOf, join]
  grind

@[simp] theorem byteOf_join_3 (b0 b1 b2 b3 : Byte) : byteOf (join b0 b1 b2 b3) 3 = b3 := by
  ext i hi
  simp only [byteOf, join]
  grind

/-- A word is its four bytes. -/
@[simp] theorem join_byteOf (w : BitVec 32) : join (byteOf w 0) (byteOf w 1) (byteOf w 2) (byteOf w 3) = w := by
  ext i hi
  simp only [byteOf, join]
  grind

theorem swap_join (b0 b1 b2 b3 : Byte) : swap (join b0 b1 b2 b3) = join b3 b2 b1 b0 := by
  simp [swap]

@[simp] theorem swap_swap (w : BitVec 32) : swap (swap w) = w := by
  conv_lhs => rw [swap.eq_def w]
  rw [swap_join, join_byteOf]

theorem swap_injective {v w : BitVec 32} (h : swap v = swap w) : v = w := by
  rw [← swap_swap v, h, swap_swap]

@[simp] theorem swap_zero : swap 0#32 = 0#32 := by decide

theorem swap_eq_zero_iff {w : BitVec 32} : swap w = 0#32 ↔ w = 0#32 := by
  constructor
  · intro h
    exact swap_injective (h.trans swap_zero.symm)
  · rintro rfl
    exact swap_zero

/-- A word stored is the word read back. -/
theorem word_of_holds {m : Mem} {a : Nat} {w : BitVec 32} (h : Holds m a (wordBytes w)) : word m a = w := by
  simp only [wordBytes, holds_cons, Nat.add_assoc, Nat.reduceAdd] at h
  obtain ⟨h0, h1, h2, h3, -⟩ := h
  rw [word, h0, h1, h2, h3, join_byteOf]

theorem holds_word (m : Mem) (a : Nat) : Holds m a (wordBytes (word m a)) := by
  simp [wordBytes, holds_cons, word, Nat.add_assoc]

theorem wordBytes_injective {v w : BitVec 32} (h : wordBytes v = wordBytes w) : v = w := by
  simp only [wordBytes, List.cons.injEq, and_true] at h
  obtain ⟨h0, h1, h2, h3⟩ := h
  rw [← join_byteOf v, h0, h1, h2, h3, join_byteOf]

/-- Two half words in network order make up the word in host order. -/
theorem swapHalf_pair (m : Mem) (a : Nat) :
    (swapHalf (half m a)).setWidth 32 <<< 16 ||| (swapHalf (half m (a + 2))).setWidth 32 = swap (word m a) := by
  rw [word, swap_join]
  ext i hi
  simp only [swapHalf, half, join]
  grind

end Mem

end Lib
