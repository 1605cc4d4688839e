import Mathlib.Tactic

/-!
# Cells

Cells that `malloc` gives and `free` takes back. An address is never given out twice, so that a
pointer to a cell that was freed stays recognisable. `Owned` says that the pointers of a list are
live and no cell has two of them, `NoLeak` that no live cell has none.
-/

namespace Lib

/-- The live cells; from `next` on nothing was given out yet. -/
structure Cells (α : Type) where
  cells : Nat → Option α
  next : Nat
  fresh : ∀ b, next ≤ b → cells b = none

namespace Cells

variable {α : Type}

def empty : Cells α where
  cells _ := none
  next := 0
  fresh _ _ := rfl

/-- `malloc`, and what is stored there: the address is `h.next`. -/
def alloc (a : α) (h : Cells α) : Cells α where
  cells := Function.update h.cells h.next (some a)
  next := h.next + 1
  fresh b beyond := by
    rw [Function.update_of_ne (by omega)]
    exact h.fresh b (by omega)

/-- A store; what is not live stays as it is. -/
def store (b : Nat) (a : α) (h : Cells α) : Cells α where
  cells c := if c = b then (h.cells b).map fun _ => a else h.cells c
  next := h.next
  fresh c beyond := by
    have absent := h.fresh c beyond
    split
    · rename_i here
      rw [← here, absent]
      rfl
    · exact absent

/-- `free`; nothing comes of a pointer that is not live. -/
def free (b : Nat) (h : Cells α) : Option (Cells α) :=
  if (h.cells b).isSome then
    some
      { cells := Function.update h.cells b none
        next := h.next
        fresh := by
          intro c beyond
          by_cases here : c = b
          · rw [here, Function.update_self]
          · rw [Function.update_of_ne here, h.fresh c beyond] }
  else none

def freeAll : List Nat → Cells α → Option (Cells α)
  | [], h => some h
  | b :: bs, h => (h.free b).bind (freeAll bs)

/-- The pointers `bs` are live, and no cell has two of them. -/
structure Owned (h : Cells α) (bs : List Nat) : Prop where
  nodup : bs.Nodup
  live : ∀ b ∈ bs, (h.cells b).isSome = true

/-- Every live cell is among `bs`. -/
def NoLeak (h : Cells α) (bs : List Nat) : Prop := ∀ b, (h.cells b).isSome = true → b ∈ bs

variable {h h' : Cells α} {b c : Nat} {bs xs ys : List Nat}

theorem Owned.empty : (empty : Cells α).Owned [] := ⟨.nil, by simp⟩

theorem NoLeak.empty : (empty : Cells α).NoLeak [] := by
  intro b live
  cases live

theorem Owned.perm (owned : h.Owned bs) (same : bs.Perm xs) : h.Owned xs :=
  ⟨same.nodup_iff.1 owned.nodup, fun b member => owned.live b (same.mem_iff.2 member)⟩

theorem NoLeak.perm (all : h.NoLeak bs) (same : bs.Perm xs) : h.NoLeak xs := fun b live => same.mem_iff.1 (all b live)

theorem Owned.lt_next (owned : h.Owned bs) (member : b ∈ bs) : b < h.next := by
  by_contra beyond
  have live := owned.live b member
  rw [h.fresh b (by omega)] at live
  cases live

/-! ## Allocation -/

theorem alloc_self (a : α) (h : Cells α) : (h.alloc a).cells h.next = some a := Function.update_self ..

theorem alloc_other (a : α) (old : b ≠ h.next) : (h.alloc a).cells b = h.cells b := Function.update_of_ne old ..

theorem Owned.alloc (owned : h.Owned bs) (a : α) : (h.alloc a).Owned (h.next :: bs) := by
  refine ⟨List.nodup_cons.2 ⟨fun member => ?_, owned.nodup⟩, fun b member => ?_⟩
  · have := owned.lt_next member
    omega
  · rcases List.mem_cons.1 member with rfl | member
    · rw [alloc_self]
      rfl
    · rw [alloc_other a (Nat.ne_of_lt (owned.lt_next member))]
      exact owned.live b member

theorem NoLeak.alloc (all : h.NoLeak bs) (a : α) : (h.alloc a).NoLeak (h.next :: bs) := by
  intro b live
  by_cases here : b = h.next
  · rw [here]
    exact List.mem_cons_self ..
  · rw [alloc_other a here] at live
    exact List.mem_cons_of_mem _ (all b live)

theorem store_self {x : α} (live : h.cells b = some x) (a : α) : (h.store b a).cells b = some a := by
  change (if b = b then (h.cells b).map fun _ => a else h.cells b) = some a
  rw [if_pos rfl, live]
  rfl

theorem store_other (a : α) (other : c ≠ b) : (h.store b a).cells c = h.cells c := if_neg other

/-! ## Release -/

theorem Owned.free (owned : h.Owned (b :: bs)) :
    ∃ h', h.free b = some h' ∧ h'.Owned bs ∧ (∀ c, c ≠ b → h'.cells c = h.cells c) ∧ (h.NoLeak (b :: bs) → h'.NoLeak bs) := by
  obtain ⟨outside, nodup⟩ := List.nodup_cons.1 owned.nodup
  refine ⟨_, if_pos (owned.live b (List.mem_cons_self ..)), ⟨nodup, fun c member => ?_⟩, fun c other => ?_, fun all c live => ?_⟩
  · have other : c ≠ b := fun same => outside (same ▸ member)
    dsimp only
    rw [Function.update_of_ne other]
    exact owned.live c (List.mem_cons_of_mem _ member)
  · exact Function.update_of_ne other ..
  · by_cases here : c = b
    · dsimp only at live
      rw [here, Function.update_self] at live
      cases live
    · dsimp only at live
      rw [Function.update_of_ne here] at live
      exact (List.mem_cons.1 (all c live)).resolve_left here

theorem Owned.freeAll (owned : h.Owned (xs ++ bs)) :
    ∃ h', h.freeAll xs = some h' ∧ h'.Owned bs ∧ (∀ c, c ∉ xs → h'.cells c = h.cells c) ∧
      (h.NoLeak (xs ++ bs) → h'.NoLeak bs) := by
  induction xs generalizing h with
  | nil => exact ⟨h, rfl, owned, fun _ _ => rfl, id⟩
  | cons x xs ih =>
    obtain ⟨h₁, freed, owned₁, frame₁, all₁⟩ := owned.free
    obtain ⟨h₂, rest, owned₂, frame₂, all₂⟩ := ih owned₁
    refine ⟨h₂, by rw [Cells.freeAll, freed]; exact rest, owned₂, fun c outside => ?_, fun all => all₂ (all₁ all)⟩
    rw [frame₂ c fun member => outside (List.mem_cons_of_mem _ member), frame₁ c fun same => outside (same ▸ List.mem_cons_self ..)]

/-- A live pointer that is dropped leaks its cell. -/
theorem Owned.leak (owned : h.Owned (ys ++ bs)) (some : ys ≠ []) : ¬ h.NoLeak bs := by
  intro all
  obtain ⟨y, ys, rfl⟩ := List.exists_cons_of_ne_nil some
  have outside := (List.nodup_cons.1 owned.nodup).1
  exact outside (List.mem_append_right _ (all y (owned.live y (List.mem_cons_self ..))))

end Cells

end Lib
