import Mathlib.Tactic

/-!
# Named bits

A table gives names to bits of a word. A list of names stands for the word with the bits that it
names, and a word for the list of names of the bits that it has.
-/

namespace Lib

/-- Different names of single bits. -/
structure Flags (w : Nat) (ν : Type) where
  entries : List (BitVec w × ν)
  names : (entries.map Prod.snd).Nodup
  bits : ∀ n ∈ entries, ∃ k, n.1 = BitVec.twoPow w k

namespace Flags

variable {w : Nat} {ν : Type}

/-- The bits whose names pass the test. -/
def union (entries : List (BitVec w × ν)) (test : ν → Bool) : BitVec w :=
  entries.foldr (fun n p => (if test n.2 then n.1 else 0) ||| p) 0

/-- The bit of the first name that passes the test. -/
def lookup (entries : List (BitVec w × ν)) (test : ν → Bool) : BitVec w :=
  ((entries.find? fun n => test n.2).map Prod.fst).getD 0

/-- The names of the bits of a word. -/
def encode (entries : List (BitVec w × ν)) (p : BitVec w) : List ν :=
  entries.filterMap fun n => if p &&& n.1 ≠ 0 then some n.2 else none

variable {entries : List (BitVec w × ν)} {test test' : ν → Bool}

theorem union_nil (test : ν → Bool) : union ([] : List (BitVec w × ν)) test = 0 := rfl

theorem union_cons (n : BitVec w × ν) (entries : List (BitVec w × ν)) (test : ν → Bool) :
    union (n :: entries) test = (if test n.2 then n.1 else 0) ||| union entries test := rfl

theorem union_congr (same : ∀ n ∈ entries, test n.2 = test' n.2) : union entries test = union entries test' := by
  induction entries with
  | nil => rfl
  | cons n entries ih =>
    rw [List.forall_mem_cons] at same
    rw [union_cons, union_cons, same.1, ih same.2]

/-- A bit of the union is one of a name that passes. -/
theorem getLsbD_union {i : Nat} :
    (union entries test).getLsbD i = true ↔ ∃ n ∈ entries, test n.2 = true ∧ n.1.getLsbD i = true := by
  induction entries with
  | nil => simp [union_nil]
  | cons n entries ih =>
    rw [union_cons, BitVec.getLsbD_or, Bool.or_eq_true, ih, List.exists_mem_cons_iff]
    refine or_congr_left ?_
    cases passes : test n.2 <;> simp

theorem union_false (none : ∀ n ∈ entries, test n.2 = false) : union entries test = 0 := by
  induction entries with
  | nil => rfl
  | cons n entries ih =>
    rw [List.forall_mem_cons] at none
    rw [union_cons, none.1, ih none.2]
    exact BitVec.or_self

theorem union_or (entries : List (BitVec w × ν)) (test test' : ν → Bool) :
    union entries (fun s => test s || test' s) = union entries test ||| union entries test' := by
  refine BitVec.eq_of_getLsbD_eq fun i _ => ?_
  rw [Bool.eq_iff_iff, BitVec.getLsbD_or, Bool.or_eq_true, getLsbD_union, getLsbD_union, getLsbD_union, ← exists_or]
  refine exists_congr fun n => ?_
  rw [Bool.or_eq_true]
  tauto

/-! ## Decoding -/

section
variable [DecidableEq ν]

theorem lookup_eq (nodup : (entries.map Prod.snd).Nodup) (s : ν) :
    lookup entries (fun n => n = s) = union entries fun n => n = s := by
  induction entries with
  | nil => rfl
  | cons n entries ih =>
    rw [List.map_cons, List.nodup_cons] at nodup
    rw [union_cons, lookup]
    by_cases here : n.2 = s
    · have others : ∀ m ∈ entries, decide (m.2 = s) = false := by
        intro m member
        refine decide_eq_false fun same => nodup.1 ?_
        rw [here, ← same]
        exact List.mem_map_of_mem member
      rw [List.find?_cons_of_pos (by simpa using here), union_false others]
      simp [here]
    · have rest := ih nodup.2
      rw [lookup] at rest
      rw [List.find?_cons_of_neg (by simpa using here), rest]
      simp [here]

/-- The bits of a list of names are added one after the other. -/
theorem decode_eq (nodup : (entries.map Prod.snd).Nodup) (names : List ν) (previous : BitVec w) :
    names.foldl (fun p s => p ||| lookup entries fun n => n = s) previous =
      previous ||| union entries fun n => n ∈ names := by
  induction names generalizing previous with
  | nil => simp [union_false]
  | cons s names ih =>
    have parts := union_or entries (fun n => n = s) fun n => n ∈ names
    rw [List.foldl_cons, ih, lookup_eq nodup, BitVec.or_assoc, ← parts]
    congr 1
    exact union_congr fun n _ => by simp

end

/-! ## Encoding -/

theorem and_bit_ne_zero {k : Nat} (p : BitVec w) : p &&& BitVec.twoPow w k ≠ 0 ↔ p.getLsbD k = true := by
  rw [BitVec.and_twoPow]
  cases bit : p.getLsbD k with
  | false => simp
  | true =>
    have inside : k < w := BitVec.lt_of_getLsbD bit
    have set : (BitVec.twoPow w k).getLsbD k = true := by simp [inside]
    refine iff_of_true (fun zero => ?_) rfl
    rw [if_pos rfl] at zero
    rw [zero] at set
    simp at set

/-- The name of a bit is listed where the word has the bit. -/
theorem mem_encode (nodup : (entries.map Prod.snd).Nodup) (p : BitVec w) {n : BitVec w × ν} (member : n ∈ entries) :
    n.2 ∈ encode entries p ↔ p &&& n.1 ≠ 0 := by
  rw [encode, List.mem_filterMap]
  constructor
  · rintro ⟨m, other, chosen⟩
    split at chosen
    · rename_i bit
      have same : m = n := List.inj_on_of_nodup_map nodup other member (Option.some.inj chosen)
      exact same ▸ bit
    · cases chosen
  · intro bit
    exact ⟨n, member, if_pos bit⟩

/-- Decoding what a word is encoded to gives back its bits that have names. -/
theorem encode_decode [DecidableEq ν] (f : Flags w ν) (p : BitVec w) :
    union f.entries (fun n => n ∈ encode f.entries p) = p &&& union f.entries fun _ => true := by
  refine BitVec.eq_of_getLsbD_eq fun i _ => ?_
  rw [Bool.eq_iff_iff, BitVec.getLsbD_and, Bool.and_eq_true, getLsbD_union, getLsbD_union, ← exists_and_left]
  refine exists_congr fun n => ?_
  rw [decide_eq_true_iff]
  constructor
  · rintro ⟨member, listed, bit⟩
    obtain ⟨k, single⟩ := f.bits n member
    rw [mem_encode f.names p member, single, and_bit_ne_zero] at listed
    rw [single, BitVec.getLsbD_twoPow, Bool.and_eq_true, decide_eq_true_iff, decide_eq_true_iff] at bit
    refine ⟨bit.2 ▸ listed, member, rfl, ?_⟩
    rw [single, BitVec.getLsbD_twoPow, Bool.and_eq_true, decide_eq_true_iff, decide_eq_true_iff]
    exact bit
  · rintro ⟨set, member, -, bit⟩
    obtain ⟨k, single⟩ := f.bits n member
    refine ⟨member, ?_, bit⟩
    rw [single, BitVec.getLsbD_twoPow, Bool.and_eq_true, decide_eq_true_iff, decide_eq_true_iff] at bit
    rw [mem_encode f.names p member, single, and_bit_ne_zero, bit.2]
    exact set

end Flags

end Lib
