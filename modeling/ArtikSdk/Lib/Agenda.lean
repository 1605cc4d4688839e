import Mathlib.Order.Basic
import Mathlib.Data.Set.Insert
import Mathlib.Tactic

/-!
# Agendas

A set of entries, each with a key, of which the one with the least key is next. A list in the order of
the keys stands for such a set. An entry is put in front of the first one that comes later, entries are
taken out, and the head is the next one.
-/

namespace Lib.Agenda

variable {α κ : Type} [LinearOrder κ] {key : α → κ} {l : List α} {S : Set α} {x y : α}

/-- Of the entries `S`, `x` is the next one. -/
structure Next (key : α → κ) (S : Set α) (x : α) : Prop where
  mem : x ∈ S
  least : ∀ y ∈ S, y ≠ x → key x < key y

theorem Next.unique (next : Next key S x) (next' : Next key S y) : x = y := by
  by_contra other
  exact lt_asymm (next.least y next'.mem (Ne.symm other)) (next'.least x next.mem other)

/-- The entries that come before `x`. -/
def ahead (key : α → κ) (S : Set α) (x : α) : Set α := {y ∈ S | key y < key x}

theorem ahead_subset : ahead key S x ⊆ S := fun _ member => member.1

/-- What comes later than `x` is not ahead of it. -/
theorem ahead_mono {T : Set α} (older : ∀ y ∈ T, y ∈ S ∨ key x < key y) : ahead key T x ⊆ ahead key S x := by
  rintro y ⟨member, before⟩
  exact ⟨(older y member).resolve_right before.asymm, before⟩

/-- When another entry is taken out that is next, it was ahead. -/
theorem Next.ahead (next : Next key S x) (member : y ∈ S) (other : y ≠ x) :
    x ∈ Agenda.ahead key S y ∧ x ∉ Agenda.ahead key {z ∈ S | z ≠ x} y :=
  ⟨⟨next.mem, next.least y member other⟩, fun still => still.1.2 rfl⟩

/-- The list has the entries of the set, in the order of their keys. -/
structure Lists (key : α → κ) (l : List α) (S : Set α) : Prop where
  sorted : l.Pairwise fun x y => key x < key y
  mem : ∀ x, x ∈ l ↔ x ∈ S

theorem Lists.nodup (lists : Lists key l S) : l.Nodup :=
  lists.sorted.imp fun less same => (same ▸ less).false

theorem lists_nil : Lists key [] ∅ := ⟨.nil, fun _ => iff_of_false List.not_mem_nil (Set.notMem_empty _)⟩

/-- The head is next, and the tail has the other entries. -/
theorem Lists.head (lists : Lists key (x :: l) S) : Next key S x ∧ Lists key l {y ∈ S | y ≠ x} := by
  obtain ⟨before, rest⟩ := List.pairwise_cons.1 lists.sorted
  refine ⟨⟨(lists.mem x).1 (List.mem_cons_self ..), fun y member other => ?_⟩, rest, fun y => ?_⟩
  · exact before y ((List.mem_cons.1 ((lists.mem y).2 member)).resolve_left other)
  · constructor
    · intro member
      exact ⟨(lists.mem y).1 (List.mem_cons_of_mem _ member), fun same => (same ▸ before y member).false⟩
    · rintro ⟨member, other⟩
      exact (List.mem_cons.1 ((lists.mem y).2 member)).resolve_left other

theorem Lists.filter (lists : Lists key l S) (p : α → Bool) : Lists key (l.filter p) {x ∈ S | p x = true} := by
  refine ⟨lists.sorted.filter p, fun x => ?_⟩
  rw [List.mem_filter, lists.mem]
  rfl

/-- `x` is put in front of the first entry that comes later. -/
def insertBefore (later : α → Bool) (x : α) : List α → List α
  | [] => [x]
  | y :: ys => if later y then x :: y :: ys else y :: insertBefore later x ys

theorem insertBefore_perm (later : α → Bool) (x : α) (l : List α) : (insertBefore later x l).Perm (x :: l) := by
  induction l with
  | nil => exact .refl _
  | cons y ys ih =>
    rw [insertBefore]
    split
    · exact .refl _
    · exact (ih.cons y).trans (.swap x y ys)

/-- Where the entries that come later are those with a larger key, the list stays in order. -/
theorem Lists.insert {later : α → Bool} (lists : Lists key l S) (agrees : ∀ y ∈ l, later y = true ↔ key x < key y)
    (new : ∀ y ∈ l, key y ≠ key x) : Lists key (insertBefore later x l) (Set.insert x S) := by
  refine ⟨?_, fun y => ?_⟩
  · have sorted := lists.sorted
    clear lists
    induction l with
    | nil => exact List.pairwise_singleton ..
    | cons y ys ih =>
      obtain ⟨before, rest⟩ := List.pairwise_cons.1 sorted
      rw [insertBefore]
      split
      · rename_i comes
        have first : key x < key y := (agrees y (List.mem_cons_self ..)).1 comes
        refine List.pairwise_cons.2 ⟨fun z member => ?_, sorted⟩
        obtain rfl | member := List.mem_cons.1 member
        · exact first
        · exact first.trans (before z member)
      · rename_i stays
        have last : key y < key x := by
          refine lt_of_le_of_ne (not_lt.1 fun less => stays ((agrees y (List.mem_cons_self ..)).2 less)) ?_
          exact new y (List.mem_cons_self ..)
        refine List.pairwise_cons.2 ⟨fun z member => ?_, ?_⟩
        · obtain rfl | member := List.mem_cons.1 ((insertBefore_perm later x ys).mem_iff.1 member)
          · exact last
          · exact before z member
        · exact ih (fun z member => agrees z (List.mem_cons_of_mem _ member)) (fun z member => new z (List.mem_cons_of_mem _ member)) rest
  · rw [(insertBefore_perm later x l).mem_iff, List.mem_cons, lists.mem]
    rfl

/-- The first entry with a property is the next one of those with it. -/
theorem Lists.find (lists : Lists key l S) {p : α → Bool} (found : l.find? p = some x) : Next key {y ∈ S | p y = true} x := by
  have sub := lists.filter p
  have first : (l.filter p).head? = some x := by rw [List.head?_filter, found]
  obtain ⟨tail, shape⟩ := List.head?_eq_some_iff.1 first
  rw [shape] at sub
  exact sub.head.1

/-- The first entry with a property is taken out. -/
theorem eraseP_perm {p : α → Bool} (found : l.find? p = some x) : l.Perm (x :: l.eraseP p) := by
  obtain ⟨holds, front, behind, rfl, none'⟩ := List.find?_eq_some_iff_append.1 found
  have quiet : ∀ a ∈ front, ¬ p a = true := fun a member => by simpa using none' a member
  rw [List.eraseP_append_right _ quiet, List.eraseP_cons_of_pos holds]
  exact List.perm_middle

theorem Lists.eraseP (lists : Lists key l S) {p : α → Bool} (found : l.find? p = some x) :
    Lists key (l.eraseP p) {y ∈ S | y ≠ x} := by
  have perm := eraseP_perm found
  have nodup := perm.nodup_iff.1 lists.nodup
  refine ⟨lists.sorted.sublist List.eraseP_sublist, fun y => ?_⟩
  have all : y ∈ S ↔ y = x ∨ y ∈ l.eraseP p := by rw [← lists.mem, perm.mem_iff, List.mem_cons]
  constructor
  · exact fun member => ⟨all.2 (Or.inr member), fun same => (List.nodup_cons.1 nodup).1 (same ▸ member)⟩
  · exact fun ⟨member, other⟩ => (all.1 member).resolve_left other

end Lib.Agenda
