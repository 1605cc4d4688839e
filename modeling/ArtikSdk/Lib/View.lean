import ArtikSdk.Lib.Bytes

/-!
# Scanning a partial view of memory

A `View` shows some bytes of a memory; a `Scan` reads through a view and stops at the
first byte that is not shown. A `Mono` scan that succeeds on a view gives the same
result on every larger one: its result rests on the bytes it was shown and on no
others. The lemmas build `Mono` facts along the structure of a scan.
-/

namespace Lib

/-- The bytes that are shown. -/
abbrev View := Nat → Option Byte

/-- A computation that reads a view. -/
abbrev Scan := ReaderT View Option

namespace View

/-- `v'` shows at least what `v` shows. -/
def Sub (v v' : View) : Prop := ∀ k b, v k = some b → v' k = some b

/-- A list of bytes and nothing behind it. -/
def ofList (bs : List Byte) : View := fun k => bs[k]?

/-- The bytes `bs` are shown at `a`. -/
def Reads (v : View) (a : Nat) (bs : List Byte) : Prop := ∀ k b, bs[k]? = some b → v (a + k) = some b

/-- The bytes of `v` from `lo` on, up to `hi`. -/
def within (lo hi : Nat) (v : View) : View := fun k => if lo ≤ k ∧ k < hi then v k else none

theorem within_sub (lo hi : Nat) (v : View) : Sub (v.within lo hi) v := by
  intro k b shown
  unfold within at shown
  split at shown
  · exact shown
  · cases shown

theorem within_outside {lo hi k : Nat} (v : View) (out : k < lo ∨ hi ≤ k) : v.within lo hi k = none := by
  rw [within, if_neg (by omega)]

theorem reads_cons {v : View} {a : Nat} {b : Byte} {bs : List Byte} :
    Reads v a (b :: bs) ↔ v a = some b ∧ Reads v (a + 1) bs := by
  constructor
  · intro h
    refine ⟨h 0 b rfl, fun k c hc => ?_⟩
    rw [Nat.add_assoc, Nat.add_comm 1 k]
    exact h (k + 1) c hc
  · rintro ⟨head, tail⟩ k c hc
    cases k with
    | zero => exact head.trans hc
    | succ k =>
      rw [Nat.add_comm k 1, ← Nat.add_assoc]
      exact tail k c hc

theorem reads_append {v : View} {a : Nat} {as bs : List Byte} :
    Reads v a (as ++ bs) ↔ Reads v a as ∧ Reads v (a + as.length) bs := by
  induction as generalizing a with
  | nil => simp [Reads]
  | cons b as ih =>
    rw [List.cons_append, reads_cons, reads_cons, ih, and_assoc, List.length_cons,
      Nat.add_assoc a 1, Nat.add_comm 1]

theorem Reads.drop {v : View} {a : Nat} {bs : List Byte} (h : Reads v a bs) (n : Nat) : Reads v (a + n) (bs.drop n) := by
  intro k b found
  rw [List.getElem?_drop] at found
  rw [Nat.add_assoc]
  exact h (n + k) b found

theorem Reads.sub {v v' : View} {a : Nat} {bs : List Byte} (h : Reads v a bs) (sub : Sub v v') : Reads v' a bs :=
  fun k b hb => sub _ _ (h k b hb)

end View

namespace Scan

variable {α β : Type} {v v' : View}

/-- The byte at `a`. -/
def byte (a : Nat) : Scan Byte := fun v => v a

/-- The word at `a`. -/
def word (a : Nat) : Scan (BitVec 32) := do
  let b0 ← byte a
  let b1 ← byte (a + 1)
  let b2 ← byte (a + 2)
  let b3 ← byte (a + 3)
  return Mem.join b0 b1 b2 b3

/-- The two bytes at `a`, as they lie in memory. -/
def half (a : Nat) : Scan (BitVec 16) := do
  let b0 ← byte a
  let b1 ← byte (a + 1)
  return b1 ++ b0

@[simp] theorem byte_apply (a : Nat) (v : View) : byte a v = v a := rfl

@[simp] theorem pure_apply (x : α) (v : View) : (pure x : Scan α) v = some x := rfl

theorem bind_apply (x : Scan α) (f : α → Scan β) (v : View) : (x >>= f) v = (x v).bind fun a => f a v := rfl

theorem bind_apply_of_some {x : Scan α} {f : α → Scan β} {a : α} (h : x v = some a) : (x >>= f) v = f a v := by
  rw [bind_apply, h, Option.bind_some]

theorem bind_some {x : Scan α} {f : α → Scan β} {r : β} : (x >>= f) v = some r ↔ ∃ a, x v = some a ∧ f a v = some r := by
  rw [bind_apply, Option.bind_eq_some_iff]

theorem word_of_reads {a : Nat} {w : BitVec 32} (h : View.Reads v a (Mem.wordBytes w)) : word a v = some w := by
  simp only [Mem.wordBytes, View.reads_cons, Nat.add_assoc, Nat.reduceAdd] at h
  obtain ⟨h0, h1, h2, h3, -⟩ := h
  rw [word, bind_apply_of_some h0, bind_apply_of_some h1, bind_apply_of_some h2, bind_apply_of_some h3,
    pure_apply, Mem.join_byteOf]

theorem bind_apply_of_none {x : Scan α} {f : α → Scan β} (h : x v = none) : (x >>= f) v = none := by
  rw [bind_apply, h, Option.bind_none]

/-- A word whose last byte is not shown cannot be read. -/
theorem word_of_hidden {a : Nat} (hidden : v (a + 3) = none) : word a v = none := by
  cases read : word a v with
  | none => rfl
  | some w =>
    rw [word, bind_some] at read
    obtain ⟨b0, -, read⟩ := read
    rw [bind_some] at read
    obtain ⟨b1, -, read⟩ := read
    rw [bind_some] at read
    obtain ⟨b2, -, read⟩ := read
    rw [bind_some] at read
    obtain ⟨b3, shown, -⟩ := read
    rw [byte_apply, hidden] at shown
    cases shown

/-- A result on a view is the result on every larger one. -/
def Mono (x : Scan α) : Prop := ∀ v v' r, View.Sub v v' → x v = some r → x v' = some r

theorem mono_pure (x : α) : Mono (pure x : Scan α) := fun _ _ _ _ h => h

theorem mono_byte (a : Nat) : Mono (byte a) := fun _ _ b sub h => sub a b h

theorem Mono.bind {x : Scan α} {f : α → Scan β} (hx : Mono x) (hf : ∀ a, Mono (f a)) : Mono (x >>= f) := by
  intro v v' r sub h
  obtain ⟨a, first, second⟩ := bind_some.1 h
  exact bind_some.2 ⟨a, hx v v' a sub first, hf a v v' r sub second⟩

theorem Mono.ite {p : Prop} [Decidable p] {x y : Scan α} (hx : Mono x) (hy : Mono y) : Mono (if p then x else y) := by
  split
  · exact hx
  · exact hy

theorem mono_word (a : Nat) : Mono (word a) :=
  (mono_byte a).bind fun _ => (mono_byte _).bind fun _ => (mono_byte _).bind fun _ => (mono_byte _).bind fun _ => mono_pure _

theorem mono_half (a : Nat) : Mono (half a) := (mono_byte a).bind fun _ => (mono_byte _).bind fun _ => mono_pure _

/-! ## A list and nothing behind it -/

/-- What is read and then only computed with is read where it is there. -/
theorem reads_iff {x : Scan α} {f : α → β} : (∃ b, (x >>= fun a => pure (f a)) v = some b) ↔ ∃ a, x v = some a := by
  constructor
  · rintro ⟨b, read⟩
    obtain ⟨a, first, -⟩ := bind_some.1 read
    exact ⟨a, first⟩
  · rintro ⟨a, first⟩
    exact ⟨f a, bind_some.2 ⟨a, first, rfl⟩⟩

theorem byte_ofList {bs : List Byte} {a : Nat} : (∃ b, byte a (View.ofList bs) = some b) ↔ a < bs.length := by
  rw [byte_apply, View.ofList]
  constructor
  · rintro ⟨b, found⟩
    exact (List.getElem?_eq_some_iff.1 found).1
  · intro inside
    exact ⟨_, List.getElem?_eq_getElem inside⟩

/-- The byte at which the rest of a list begins. -/
theorem byte_of_drop {bs rest : List Byte} {a : Nat} {b : Byte} (left : bs.drop a = b :: rest) : byte a (View.ofList bs) = some b := by
  rw [byte_apply, View.ofList, ← List.head?_drop, left, List.head?_cons]

theorem byte_of_drop_nil {bs : List Byte} {a : Nat} (left : bs.drop a = []) : byte a (View.ofList bs) = none :=
  List.getElem?_eq_none (List.drop_eq_nil_iff.1 left)

/-- Bytes in a row are read where the last one is there. -/
theorem bytes_ofList {bs : List Byte} {a : Nat} {f : Byte → Scan α} {n : Nat} (rest : ∀ b, (∃ r, f b (View.ofList bs) = some r) ↔ a + 1 + n < bs.length) :
    (∃ r, (byte a >>= f) (View.ofList bs) = some r) ↔ a + 1 + n < bs.length := by
  constructor
  · rintro ⟨r, read⟩
    obtain ⟨b, -, second⟩ := bind_some.1 read
    exact (rest b).1 ⟨r, second⟩
  · intro inside
    obtain ⟨b, first⟩ := byte_ofList.2 (show a < bs.length by omega)
    obtain ⟨r, second⟩ := (rest b).2 inside
    exact ⟨r, bind_some.2 ⟨b, first, second⟩⟩

theorem half_ofList {bs : List Byte} {a : Nat} : (∃ h, half a (View.ofList bs) = some h) ↔ a + 2 ≤ bs.length :=
  bytes_ofList (n := 0) fun _ => reads_iff.trans byte_ofList

theorem word_ofList {bs : List Byte} {a : Nat} : (∃ w, word a (View.ofList bs) = some w) ↔ a + 4 ≤ bs.length :=
  bytes_ofList (n := 2) fun _ => bytes_ofList (n := 1) fun _ => bytes_ofList (n := 0) fun _ =>
    reads_iff.trans byte_ofList

end Scan

end Lib
