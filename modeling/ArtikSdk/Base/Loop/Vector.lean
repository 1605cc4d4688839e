import ArtikSdk.Base.Error

/-!
# The vectors of the Tinyara loop

`struct _ptr_vector` as `tinyara_loop.c` has it: a block of memory, of which only the number of elements in use is
known. How many it can hold is a power of two that is computed from that number, where the vector grows in 16 bits and
where it shrinks in 32. All elements are pointers, and sizes are numbers of elements.
-/

namespace ArtikSdk.Loop.Vectors

inductive Fault where
  | nullPointer
  | outside
  | indeterminate
deriving DecidableEq

/-- `struct _ptr_vector`; what was never written to the block is indeterminate. -/
structure PtrVector where
  data : Option (List (Option Nat))
  len : BitVec 16
deriving DecidableEq

def PtrVector.init : PtrVector := ⟨none, 0⟩

/-- How many elements the block can hold. -/
def PtrVector.allocated (v : PtrVector) : Nat := (v.data.getD []).length

/-! ## Powers of two -/

/-- `__builtin_clz`, which is defined for other numbers than 0. -/
def builtinClz (u : BitVec 32) : Nat := 31 - u.toNat.log2

/-- `align_power2_uint` -/
def alignPower2Uint (u : BitVec 32) : BitVec 32 :=
  if u ≤ 1 then u
  else if builtinClz (u - 1) ≤ 1 then BitVec.allOnes 32
  else (1 : BitVec 32) <<< (32 - builtinClz (u - 1))

/-- `align_power2_short_uint` -/
def alignPower2ShortUint (u : BitVec 16) : Nat :=
  let aligned := (alignPower2Uint (u.setWidth 32)).toNat
  if aligned ≤ 65535 then aligned else 65535

/-! ## The functions -/

/-- `realloc` with a new size, where it succeeds. -/
def realloc (data : Option (List (Option Nat))) (n : Nat) : List (Option Nat) :=
  (data.getD []).take n ++ List.replicate (n - (data.getD []).length) none

/-- `_vector_grow`, and whether there is memory; `realloc` is not checked. -/
def vectorGrow (amount : BitVec 16) (granted : Bool) (v : PtrVector) : PtrVector :=
  let newLen := v.len + amount
  let oldCap := alignPower2ShortUint v.len
  let newCap := alignPower2ShortUint newLen
  if newCap ≠ oldCap then ⟨if granted then some (realloc v.data newCap) else none, newLen⟩ else ⟨v.data, newLen⟩

/-- A pointer is written to the block. -/
def PtrVector.write (i ptr : Nat) (v : PtrVector) : Except Fault PtrVector :=
  match v.data with
  | none => .error .nullPointer
  | some block => if i < block.length then .ok { v with data := some (block.set i (some ptr)) } else .error .outside

/-- `_vector_append`: the new element is cleared. -/
def vectorAppend (granted : Bool) (v : PtrVector) : Except Fault PtrVector :=
  let v := vectorGrow 1 granted v
  -- behind `UINT16_MAX` elements the number is 0, and the new element lies in front of the block
  if v.len = 0 then .error .outside else v.write (v.len.toNat - 1) 0

def ptrVectorAppend (ptr : Nat) (granted : Bool) (v : PtrVector) : Except Fault PtrVector := do
  let v ← vectorAppend granted v
  v.write (v.len.toNat - 1) ptr

def ptrVectorGetNoCheck (v : PtrVector) (i : BitVec 16) : Except Fault Nat :=
  match v.data with
  | none => .error .nullPointer
  | some block =>
    match block[i.toNat]? with
    | none => .error .outside
    | some none => .error .indeterminate
    | some (some ptr) => .ok ptr

/-- `_vector_shrink`, and whether `realloc` succeeds. -/
def vectorShrink (granted : Bool) (v : PtrVector) : PtrVector :=
  if v.len = 0 then { v with data := none }
  else
    let oldCap := (alignPower2Uint (v.len.setWidth 32 + 1)).toNat
    let newCap := alignPower2ShortUint v.len
    if newCap = oldCap then v
    else if granted then { v with data := some (realloc v.data newCap) }
    else v

/-- `memmove` of `n` elements from behind the element `i` one element down. -/
def PtrVector.moveDown (i n : Nat) (v : PtrVector) : Except Fault PtrVector :=
  match v.data with
  | none => .error .nullPointer
  | some block =>
    if i + 1 + n ≤ block.length then .ok { v with data := some (block.take i ++ (block.drop (i + 1)).take n ++ block.drop (i + n)) }
    else .error .outside

/-- `_vector_del` -/
def vectorDel (i : BitVec 16) (granted : Bool) (v : PtrVector) : Except Fault (PtrVector × ArtikError) := do
  if i ≥ v.len then return (v, .invalidValue)
  let v := { v with len := v.len - 1 }
  let tailLen := v.len.toNat - i.toNat
  let v ← if tailLen ≠ 0 then v.moveDown i.toNat tailLen else pure v
  return (vectorShrink granted v, .ok)

def ptrVectorDel := vectorDel

/-! ## Lists -/

/-- The number of elements that there is room for. -/
def capacity (n : Nat) : Nat := if n = 0 then 0 else min 65535 (2 ^ Nat.clog 2 n)

/-- The block has room for the elements in use, and they are those of the list. -/
structure Holds (v : PtrVector) (xs : List Nat) : Prop where
  len : v.len.toNat = xs.length
  room : xs.length ≤ v.allocated
  contents : (v.data.getD []).take xs.length = xs.map some

/-- There are not more than `UINT16_MAX` elements with one more, and where the block has to grow there is memory for it. -/
def Growable (granted : Bool) (v : PtrVector) : Prop :=
  v.len ≠ 0xffff ∧ (alignPower2ShortUint (v.len + 1) ≠ alignPower2ShortUint v.len → granted = true)

/-! ## Powers of two -/

theorem log2_clog {n : Nat} (two : 2 ≤ n) : (n - 1).log2 + 1 = Nat.clog 2 n := by
  have nonzero : n - 1 ≠ 0 := by omega
  have same (k : Nat) : (n - 1).log2 < k ↔ Nat.clog 2 n ≤ k := by
    rw [Nat.log2_lt nonzero, Nat.clog_le_iff_le_pow Nat.one_lt_two]
    omega
  apply le_antisymm
  · exact (same _).2 le_rfl
  · exact (same _).1 (Nat.lt_succ_self _)

theorem le_capacity {n : Nat} (small : n ≤ 65535) : n ≤ capacity n := by
  rw [capacity]
  split
  · omega
  · exact le_min small (Nat.le_pow_clog Nat.one_lt_two n)

theorem capacity_mono {n m : Nat} (le : n ≤ m) : capacity n ≤ capacity m := by
  rw [capacity, capacity]
  by_cases zero : n = 0
  · rw [if_pos zero]
    exact Nat.zero_le _
  · rw [if_neg zero, if_neg (by omega)]
    exact min_le_min_left _ (Nat.pow_le_pow_right Nat.two_pos (Nat.clog_mono_right 2 le))

/-- In 32 bits a number of up to 16 bits is rounded up to the next power of two. -/
theorem alignPower2Uint_eq {u : BitVec 32} (nonzero : u.toNat ≠ 0) (small : u.toNat ≤ 65536) :
    (alignPower2Uint u).toNat = 2 ^ Nat.clog 2 u.toNat := by
  rw [alignPower2Uint]
  by_cases one : u ≤ 1
  · have same : u.toNat = 1 := by
      have le : u.toNat ≤ 1 := one
      omega
    rw [if_pos one, same, Nat.clog_one_right]
    rfl
  · have two : 2 ≤ u.toNat := by
      have lt : ¬ u.toNat ≤ 1 := one
      omega
    have before : (u - 1).toNat = u.toNat - 1 := by bv_omega
    have short : (u.toNat - 1).log2 < 17 := by
      rw [Nat.log2_lt (by omega)]
      omega
    have clz : builtinClz (u - 1) = 31 - (u.toNat - 1).log2 := by rw [builtinClz, before]
    have shift : 32 - builtinClz (u - 1) = Nat.clog 2 u.toNat := by
      rw [clz, ← log2_clog two]
      omega
    rw [if_neg one, if_neg (by omega), shift, BitVec.toNat_shiftLeft, Nat.shiftLeft_eq]
    have bound : 2 ^ Nat.clog 2 u.toNat < 2 ^ 32 := by
      apply Nat.pow_lt_pow_right Nat.one_lt_two
      rw [← log2_clog two]
      omega
    rw [show (1 : BitVec 32).toNat = 1 from rfl, Nat.one_mul, Nat.mod_eq_of_lt bound]

theorem alignPower2ShortUint_eq (u : BitVec 16) : alignPower2ShortUint u = capacity u.toNat := by
  rw [alignPower2ShortUint, capacity]
  by_cases zero : u.toNat = 0
  · have none : u = 0 := BitVec.eq_of_toNat_eq zero
    rw [if_pos zero, none]
    rfl
  · have bound := u.isLt
    have same : (u.setWidth 32).toNat = u.toNat := BitVec.toNat_setWidth_of_le (by omega)
    rw [if_neg zero, alignPower2Uint_eq (by omega) (by omega), same]
    split
    · rw [Nat.min_eq_right (by assumption)]
    · rw [Nat.min_eq_left (by omega)]

/-! ## Blocks -/

theorem realloc_length (data : Option (List (Option Nat))) (n : Nat) : (realloc data n).length = n := by
  rw [realloc, List.length_append, List.length_take, List.length_replicate]
  omega

theorem realloc_take {data : Option (List (Option Nat))} {n k : Nat} (le : k ≤ n) (old : k ≤ (data.getD []).length) :
    (realloc data n).take k = (data.getD []).take k := by
  have kept : k ≤ ((data.getD []).take n).length := by
    rw [List.length_take]
    omega
  rw [realloc, List.take_append_of_le_length kept, List.take_take, Nat.min_eq_left le]

theorem take_set_succ {α : Type} {xs : List α} {i : Nat} (inside : i < xs.length) (x : α) :
    (xs.set i x).take (i + 1) = xs.take i ++ [x] := by
  have there : i < (xs.set i x).length := by rwa [List.length_set]
  rw [← List.take_append_getElem there, List.take_set_of_le (Nat.le_refl i), List.getElem_set_self]

variable {v : PtrVector} {xs : List Nat} {ptr : Nat} {granted : Bool}

/-- The vector with a pointer in the block. -/
def PtrVector.put (i ptr : Nat) (v : PtrVector) : PtrVector := { v with data := some ((v.data.getD []).set i (some ptr)) }

theorem put_allocated (i ptr : Nat) (v : PtrVector) : (v.put i ptr).allocated = v.allocated := List.length_set

theorem write_eq {i : Nat} (inside : i < v.allocated) : v.write i ptr = .ok (v.put i ptr) := by
  cases block : v.data with
  | none =>
    rw [PtrVector.allocated, block] at inside
    cases inside
  | some xs =>
    rw [PtrVector.allocated, block] at inside
    rw [PtrVector.write, PtrVector.put, block]
    exact if_pos inside

/-! ## Appending -/

/-- The block has the room that is computed from the number of elements. -/
structure Represents (v : PtrVector) (xs : List Nat) : Prop where
  len : v.len.toNat = xs.length
  room : capacity xs.length ≤ v.allocated
  contents : (v.data.getD []).take xs.length = xs.map some

theorem Represents.init : Represents .init [] := ⟨rfl, Nat.le_refl _, rfl⟩

theorem Represents.small (rep : Represents v xs) : xs.length ≤ 65535 := by
  have bound := v.len.isLt
  rw [rep.len] at bound
  omega

theorem Represents.holds (rep : Represents v xs) : Holds v xs := ⟨rep.len, (le_capacity rep.small).trans rep.room, rep.contents⟩

/-- Growing leaves room for one more element behind those in use. -/
theorem Represents.grow (rep : Represents v xs) (fits : Growable granted v) :
    (vectorGrow 1 granted v).len.toNat = xs.length + 1 ∧ capacity (xs.length + 1) ≤ (vectorGrow 1 granted v).allocated ∧
      ((vectorGrow 1 granted v).data.getD []).take xs.length = xs.map some := by
  obtain ⟨free, memory⟩ := fits
  have more : (v.len + 1).toNat = xs.length + 1 := by
    rw [← rep.len]
    bv_omega
  have here : alignPower2ShortUint v.len = capacity xs.length := by rw [alignPower2ShortUint_eq, rep.len]
  have next : alignPower2ShortUint (v.len + 1) = capacity (xs.length + 1) := by rw [alignPower2ShortUint_eq, more]
  rw [here, next] at memory
  rw [vectorGrow, here, next]
  split
  · rename_i grows
    rw [memory grows, if_pos rfl]
    refine ⟨more, Nat.le_of_eq (realloc_length ..).symm, ?_⟩
    have le : xs.length ≤ capacity (xs.length + 1) := (le_capacity rep.small).trans (capacity_mono (Nat.le_succ _))
    exact (realloc_take le rep.holds.room).trans rep.contents
  · rename_i same
    rw [not_not] at same
    exact ⟨more, same.trans_le rep.room, rep.contents⟩

theorem append_ok (rep : Represents v xs) (fits : Growable granted v) :
    ∃ w, ptrVectorAppend ptr granted v = .ok w ∧ Represents w (xs ++ [ptr]) := by
  obtain ⟨more, room, contents⟩ := rep.grow fits
  have small : xs.length + 1 ≤ 65535 := by
    have bound := (vectorGrow 1 granted v).len.isLt
    omega
  have inside : xs.length < (vectorGrow 1 granted v).allocated := (le_capacity small).trans room
  have last : (vectorGrow 1 granted v).len.toNat - 1 = xs.length := by omega
  have some : (vectorGrow 1 granted v).len ≠ 0 := by
    intro zero
    rw [zero] at more
    cases more
  have cleared : vectorAppend granted v = .ok ((vectorGrow 1 granted v).put xs.length 0) := by
    rw [vectorAppend, if_neg some, last, write_eq inside]
  refine ⟨((vectorGrow 1 granted v).put xs.length 0).put xs.length ptr, ?_, ?_, ?_, ?_⟩
  · rw [ptrVectorAppend, cleared]
    show PtrVector.write ((vectorGrow 1 granted v).len.toNat - 1) ptr ((vectorGrow 1 granted v).put xs.length 0) = _
    rw [last, write_eq (inside.trans_eq (put_allocated ..).symm)]
  · rw [List.length_append]
    exact more
  · rw [put_allocated, put_allocated, List.length_append]
    exact room
  · have there : xs.length < ((vectorGrow 1 granted v).data.getD []).length := inside
    rw [List.length_append, List.map_append]
    show ((((vectorGrow 1 granted v).data.getD []).set _ _).set _ _).take (xs.length + 1) = _
    rw [List.set_set, take_set_succ there, contents]
    rfl

/-- Without room for the new element it is written where there is no memory. -/
theorem append_fails (unfit : ¬ Growable granted v) : ∃ f, ptrVectorAppend ptr granted v = .error f := by
  have failed : ∃ f, vectorAppend granted v = .error f := by
    rw [vectorAppend]
    split
    · exact ⟨_, rfl⟩
    · rename_i some
      have free : v.len ≠ 0xffff := by
        intro full
        have none : (vectorGrow 1 granted v).len = 0 := by
          rw [vectorGrow, full]
          split <;> rfl
        exact some none
      have memory : ¬ (alignPower2ShortUint (v.len + 1) ≠ alignPower2ShortUint v.len → granted = true) := fun h => unfit ⟨free, h⟩
      rw [Classical.not_imp] at memory
      have missing : (vectorGrow 1 granted v).data = none := by
        rw [vectorGrow, if_pos memory.1, if_neg memory.2]
      exact ⟨.nullPointer, by rw [PtrVector.write, missing]⟩
  obtain ⟨f, failed⟩ := failed
  exact ⟨f, by rw [ptrVectorAppend, failed]; rfl⟩

/-! ## Deleting -/

/-- Shrinking leaves room for the elements in use, with or without memory for it. -/
theorem shrink_represents (len : v.len.toNat = xs.length) (room : capacity (xs.length + 1) ≤ v.allocated)
    (contents : (v.data.getD []).take xs.length = xs.map some) : Represents (vectorShrink granted v) xs := by
  have less : capacity xs.length ≤ capacity (xs.length + 1) := capacity_mono (Nat.le_succ _)
  have stays : Represents v xs := ⟨len, less.trans room, contents⟩
  rw [vectorShrink]
  split
  · rename_i zero
    rw [zero] at len
    rw [List.eq_nil_of_length_eq_zero len.symm]
    exact ⟨by rw [zero]; rfl, Nat.le_refl _, rfl⟩
  · dsimp only
    rw [alignPower2ShortUint_eq, len]
    split
    · exact stays
    · split
      · refine ⟨len, Nat.le_of_eq (realloc_length ..).symm, ?_⟩
        exact (realloc_take (le_capacity stays.small) stays.holds.room).trans contents
      · exact stays

/-- The elements behind `i` move one down, where there are any. -/
theorem moved_ok {i n : Nat} (inside : i + 1 + n ≤ v.allocated) :
    ∃ w, (if n ≠ 0 then v.moveDown i n else .ok v) = .ok w ∧ w.len = v.len ∧ w.allocated = v.allocated ∧
      (w.data.getD []).take (i + n) = (v.data.getD []).take i ++ ((v.data.getD []).drop (i + 1)).take n := by
  split
  · obtain ⟨data, len⟩ := v
    cases data with
    | none =>
      rw [PtrVector.allocated, Option.getD_none, List.length_nil] at inside
      omega
    | some block =>
      have long : i + 1 + n ≤ block.length := inside
      have head : (block.take i ++ (block.drop (i + 1)).take n).length = i + n := by
        rw [List.length_append, List.length_take, List.length_take, List.length_drop]
        omega
      refine ⟨_, if_pos long, rfl, ?_, List.take_left' head⟩
      show (_ ++ _ : List (Option Nat)).length = block.length
      rw [List.length_append, head, List.length_drop]
      omega
  · rename_i none
    rw [not_not] at none
    refine ⟨v, rfl, rfl, rfl, ?_⟩
    rw [none, List.take_zero, List.append_nil, Nat.add_zero]

theorem del_ok (i : BitVec 16) (granted : Bool) (rep : Represents v xs) :
    ∃ w, ptrVectorDel i granted v = .ok (w, if i.toNat < xs.length then .ok else .invalidValue) ∧ Represents w (xs.eraseIdx i.toNat) := by
  by_cases here : i.toNat < xs.length
  · have inside : ¬ i ≥ v.len := Nat.not_le.2 (here.trans_eq rep.len.symm)
    have fewer : (v.len - 1).toNat = xs.length - 1 := by
      have len := rep.len
      bv_omega
    have erased : (xs.eraseIdx i.toNat).length = xs.length - 1 := List.length_eraseIdx_of_lt here
    have room := rep.holds.room
    obtain ⟨w, moved, len, same, contents⟩ := moved_ok (v := ⟨v.data, v.len - 1⟩) (i := i.toNat) (n := xs.length - 1 - i.toNat)
      (by
        show _ ≤ v.allocated
        omega)
    have rest : Represents (vectorShrink granted w) (xs.eraseIdx i.toNat) := by
      refine shrink_represents ?_ ?_ ?_
      · rw [len, erased]
        exact fewer
      · rw [erased, Nat.sub_add_cancel (Nat.zero_lt_of_lt here), same]
        exact rep.room
      · have count : xs.length - 1 = i.toNat + (xs.length - 1 - i.toNat) := by omega
        have behind : xs.length - (i.toNat + 1) = xs.length - 1 - i.toNat := by omega
        rw [erased, count, contents, List.eraseIdx_eq_take_drop_succ, List.map_append, List.map_take, List.map_drop, ← rep.contents,
          List.take_take, List.drop_take, Nat.min_eq_left here.le, behind]
    refine ⟨_, ?_, rest⟩
    rw [ptrVectorDel, vectorDel, if_neg inside, if_pos here]
    dsimp only
    rw [fewer]
    by_cases tail : xs.length - 1 - i.toNat ≠ 0
    · rw [if_pos tail] at moved ⊢
      rw [moved]
      rfl
    · rw [if_neg tail] at moved ⊢
      cases moved
      rfl
  · have behind : i ≥ v.len := by
      show v.len.toNat ≤ i.toNat
      rw [rep.len]
      exact Nat.not_lt.1 here
    refine ⟨v, ?_, ?_⟩
    · rw [ptrVectorDel, vectorDel, if_pos behind, if_neg here]
      rfl
    · rw [List.eraseIdx_of_length_le (Nat.not_lt.1 here)]
      exact rep

theorem get_ok {i : BitVec 16} {p : Nat} (rep : Represents v xs) (entry : xs[i.toNat]? = some p) : ptrVectorGetNoCheck v i = .ok p := by
  have there : ((v.data.getD []).take xs.length)[i.toNat]? = some (some p) := by
    rw [rep.contents, List.getElem?_map, entry]
    rfl
  obtain ⟨below, -⟩ := List.getElem?_eq_some_iff.1 entry
  rw [List.getElem?_take_of_lt below] at there
  obtain ⟨data, len⟩ := v
  cases data with
  | none => cases there
  | some block =>
    have there : block[i.toNat]? = some (some p) := there
    rw [ptrVectorGetNoCheck]
    dsimp only
    rw [there]

end ArtikSdk.Loop.Vectors
