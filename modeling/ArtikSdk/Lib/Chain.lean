import Mathlib.Tactic

/-!
# Linked chains

Singly linked cells on an explicit heap. `Chain h a xs` says that the links from `a` pass
through exactly the cells of `xs` and end in the null address. A chain is a function of its
first address, so no cell occurs on it twice. The loops over a chain are instances of `walk`;
`walk_chain` turns each into a recursion on the list. A cell is appended by linking it from
the last one, and taken out by linking its predecessor to its successor.
-/

namespace Lib

/-- A cell: its link and what it holds. -/
structure Cell (α : Type) where
  next : Nat
  item : α

/-- The allocated cells by address, and how many there are. -/
structure Heap (α : Type) where
  cell : Nat → Option (Cell α)
  live : Nat

/-- A use of an address without a cell, or a walk of more steps than there are cells:
it has come back to a cell and goes round for ever. -/
inductive Heap.Fault where
  | wild
  | endless
deriving DecidableEq

namespace Heap

variable {α σ : Type}

def empty : Heap α := ⟨fun _ => none, 0⟩

/-- Read the cell at an address. -/
def read (h : Heap α) (a : Nat) : Except Fault (Cell α) :=
  match h.cell a with
  | none => .error .wild
  | some c => .ok c

/-- Overwrite the cell at an address. -/
def write (h : Heap α) (a : Nat) (c : Cell α) : Except Fault (Heap α) :=
  match h.cell a with
  | none => .error .wild
  | some _ => .ok { h with cell := Function.update h.cell a (some c) }

/-- Overwrite the link of the cell at an address. -/
def setNext (h : Heap α) (a next : Nat) : Except Fault (Heap α) :=
  match h.cell a with
  | none => .error .wild
  | some c => .ok { h with cell := Function.update h.cell a (some { c with next := next }) }

/-- A new cell at an address. -/
def allocate (h : Heap α) (a : Nat) (c : Cell α) : Heap α := ⟨Function.update h.cell a (some c), h.live + 1⟩

/-- Give the cell at an address back. -/
def free (h : Heap α) (a : Nat) : Except Fault (Heap α) :=
  match h.cell a with
  | none => .error .wild
  | some _ => .ok ⟨Function.update h.cell a none, h.live - 1⟩

/-- Follow the links from `elem`, at most `fuel` of them, until `go` refuses a cell or the
null address; `go` carries the state of the loop from cell to cell. -/
def walk (go : σ → Nat → α → Option σ) (h : Heap α) : Nat → σ → Nat → Except Fault (σ × Nat)
  | 0, s, elem => if elem = 0 then .ok (s, 0) else .error .endless
  | fuel + 1, s, elem =>
    if elem = 0 then .ok (s, 0)
    else match h.read elem with
      | .error f => .error f
      | .ok c =>
        match go s elem c.item with
        | none => .ok (s, elem)
        | some s' => walk go h fuel s' c.next

/-- Follow the links from `elem` to the cell without a successor. -/
def last (h : Heap α) : Nat → Nat → Except Fault Nat
  | 0, elem => if elem = 0 then .ok 0 else .error .endless
  | fuel + 1, elem =>
    if elem = 0 then .ok 0
    else match h.read elem with
      | .error f => .error f
      | .ok c => if c.next = 0 then .ok elem else last h fuel c.next

end Heap

/-- The links from `a` pass through the cells of `xs` and lead to `b`. -/
def Segment {α : Type} (h : Heap α) : Nat → List (Nat × α) → Nat → Prop
  | a, [], b => a = b
  | a, (a', x) :: xs, b => a = a' ∧ a ≠ 0 ∧ ∃ next, h.cell a = some ⟨next, x⟩ ∧ Segment h next xs b

/-- The links from `a` pass through the cells of `xs` and end. -/
def Chain {α : Type} (h : Heap α) (a : Nat) (xs : List (Nat × α)) : Prop := Segment h a xs 0

/-- The address a list of cells starts at. -/
def headAddr {α : Type} : List (Nat × α) → Nat
  | [] => 0
  | x :: _ => x.1

/-- The address a list of cells ends at, or `prev` where there is none. -/
def lastAddr {α : Type} (prev : Nat) : List (Nat × α) → Nat
  | [] => prev
  | x :: xs => lastAddr x.1 xs

/-- The loop of `walk` on the list of cells: its state, and the cells not passed. -/
def carry {α σ : Type} (go : σ → Nat → α → Option σ) : σ → List (Nat × α) → σ × List (Nat × α)
  | s, [] => (s, [])
  | s, x :: xs =>
    match go s x.1 x.2 with
    | none => (s, x :: xs)
    | some s' => carry go s' xs

variable {α σ : Type} {h h' : Heap α} {a b c prev : Nat} {x y : α} {xs ys : List (Nat × α)}

@[simp] theorem lastAddr_append (p : Nat × α) : lastAddr prev (xs ++ [p]) = p.1 := by
  induction xs generalizing prev with
  | nil => rfl
  | cons q xs ih => exact ih

theorem segment_append : Segment h a (xs ++ ys) c ↔ ∃ b, Segment h a xs b ∧ Segment h b ys c := by
  induction xs generalizing a with
  | nil =>
    constructor
    · intro seg
      exact ⟨a, rfl, seg⟩
    · rintro ⟨b, rfl, seg⟩
      exact seg
  | cons p xs ih =>
    constructor
    · rintro ⟨here, nonzero, next, cell, rest⟩
      obtain ⟨b, first, second⟩ := ih.1 rest
      exact ⟨b, ⟨here, nonzero, next, cell, first⟩, second⟩
    · rintro ⟨b, ⟨here, nonzero, next, cell, first⟩, second⟩
      exact ⟨here, nonzero, next, cell, ih.2 ⟨b, first, second⟩⟩

/-- A chain starts at the address of its first cell. -/
theorem Chain.head (chain : Chain h a xs) : headAddr xs = a := by
  cases xs with
  | nil => exact chain.symm
  | cons p xs => exact chain.1.symm

/-- **A chain is a function of its first address.** -/
theorem Chain.unique (left : Chain h a xs) (right : Chain h a ys) : xs = ys := by
  induction xs generalizing a ys with
  | nil =>
    cases ys with
    | nil => rfl
    | cons q ys => exact absurd left right.2.1
  | cons p xs ih =>
    obtain ⟨here, nonzero, next, cell, rest⟩ := left
    cases ys with
    | nil => exact absurd right nonzero
    | cons q ys =>
      obtain ⟨here', -, next', cell', rest'⟩ := right
      rw [cell] at cell'
      have same := Option.some.inj cell'
      rw [Cell.mk.injEq] at same
      obtain ⟨rfl, item⟩ := same
      rw [ih rest rest', Prod.ext (here.symm.trans here') item]

/-- **No cell is passed twice.** -/
theorem Chain.nodup (chain : Chain h a xs) : (xs.map Prod.fst).Nodup := by
  induction xs generalizing a with
  | nil => exact List.nodup_nil
  | cons p xs ih =>
    have whole := chain
    obtain ⟨here, nonzero, next, cell, rest⟩ := chain
    refine List.nodup_cons.2 ⟨fun again => ?_, ih rest⟩
    obtain ⟨q, member, same⟩ := List.mem_map.1 again
    obtain ⟨pre, post, rfl⟩ := List.append_of_mem member
    obtain ⟨b, -, second⟩ := segment_append.1 rest
    have back : b = a := second.1.trans (same.trans here.symm)
    have twice := congrArg List.length (Chain.unique whole (back ▸ second))
    simp only [List.length_cons, List.length_append] at twice
    omega

/-- Every address of a segment has the cell that the list says. -/
theorem Segment.cells (seg : Segment h a xs b) {p : Nat × α} (member : p ∈ xs) :
    p.1 ≠ 0 ∧ ∃ next, h.cell p.1 = some ⟨next, p.2⟩ := by
  induction xs generalizing a with
  | nil => cases member
  | cons q xs ih =>
    obtain ⟨here, nonzero, next, cell, rest⟩ := seg
    cases member with
    | head => exact ⟨here ▸ nonzero, next, here ▸ cell⟩
    | tail _ member => exact ih rest member

/-- **Frame rule**: a segment depends on its own cells only. -/
theorem Segment.frame (seg : Segment h a xs b) (same : ∀ p ∈ xs, h'.cell p.1 = h.cell p.1) : Segment h' a xs b := by
  induction xs generalizing a with
  | nil => exact seg
  | cons q xs ih =>
    obtain ⟨here, nonzero, next, cell, rest⟩ := seg
    refine ⟨here, nonzero, next, ?_, ih rest fun p member => same p (List.mem_cons_of_mem _ member)⟩
    rw [here, same q (List.mem_cons_self ..), ← here, cell]

/-- Any other cell may change. -/
theorem Segment.update (seg : Segment h a xs b) (outside : c ∉ xs.map Prod.fst) (v : Option (Cell α)) (live : Nat) :
    Segment ⟨Function.update h.cell c v, live⟩ a xs b := by
  refine seg.frame fun p member => Function.update_of_ne (fun same => ?_) _ _
  exact outside (same ▸ List.mem_map_of_mem member)

/-- What the cells hold may change where the links stay. -/
theorem Segment.map (seg : Segment h a xs b) {f : Nat × α → Nat × α} (addr : ∀ p, (f p).1 = p.1)
    (items : ∀ p ∈ xs, ∀ next, h.cell p.1 = some ⟨next, p.2⟩ → h'.cell p.1 = some ⟨next, (f p).2⟩) :
    Segment h' a (xs.map f) b := by
  induction xs generalizing a with
  | nil => exact seg
  | cons q xs ih =>
    obtain ⟨here, nonzero, next, cell, rest⟩ := seg
    have changed := items q (List.mem_cons_self ..) next (here ▸ cell)
    exact ⟨here.trans (addr q).symm, nonzero, next, here ▸ changed,
      ih rest fun p member => items p (List.mem_cons_of_mem _ member)⟩

/-! ## Walking -/

/-- **The loops over a chain** are recursions on its list. -/
theorem Heap.walk_chain {go : σ → Nat → α → Option σ} {s : σ} {fuel : Nat} (chain : Chain h a xs)
    (enough : xs.length ≤ fuel) :
    h.walk go fuel s a = .ok ((carry go s xs).1, headAddr (carry go s xs).2) := by
  induction xs generalizing a s fuel with
  | nil =>
    have null : a = 0 := chain
    subst null
    cases fuel <;> rfl
  | cons p xs ih =>
    obtain ⟨rfl, nonzero, next, cell, rest⟩ := chain
    cases fuel with
    | zero => cases enough
    | succ fuel =>
      rw [walk, if_neg nonzero, carry]
      simp only [Heap.read, cell]
      cases go s p.1 p.2 with
      | none => rfl
      | some s' => exact ih rest (Nat.le_of_succ_le_succ enough)

/-- The last cell of a chain is found. -/
theorem Heap.last_chain {fuel : Nat} (chain : Chain h a xs) (enough : xs.length ≤ fuel) :
    h.last fuel a = .ok (lastAddr 0 xs) := by
  induction xs generalizing a fuel with
  | nil =>
    have null : a = 0 := chain
    subst null
    cases fuel <;> rfl
  | cons p xs ih =>
    obtain ⟨rfl, nonzero, next, cell, rest⟩ := chain
    cases fuel with
    | zero => cases enough
    | succ fuel =>
      rw [last, if_neg nonzero]
      simp only [Heap.read, cell]
      cases xs with
      | nil =>
        rw [if_pos (show next = 0 from rest)]
        rfl
      | cons q xs =>
        rw [if_neg rest.2.1]
        exact ih rest (Nat.le_of_succ_le_succ enough)

/-! ## Linking and unlinking -/

/-- The predecessor of a suffix: null where the suffix is the whole. -/
theorem lastAddr_eq_zero (chain : Segment h a xs b) : lastAddr 0 xs = 0 ↔ xs = [] := by
  constructor
  · intro null
    obtain rfl | ⟨xs, p, rfl⟩ := xs.eq_nil_or_concat'
    · rfl
    · rw [lastAddr_append] at null
      exact absurd null (Segment.cells chain (List.mem_append_right _ (List.mem_singleton_self p))).1
  · rintro rfl
    rfl

/-- The last link of a segment leads elsewhere. -/
theorem Segment.relink {p : Nat × α} (seg : Segment h a (xs ++ [p]) b) (fresh : p.1 ∉ xs.map Prod.fst) (c : Nat) :
    ∃ h', h.setNext p.1 c = .ok h' ∧ Segment h' a (xs ++ [p]) c ∧ h'.live = h.live ∧
      ∀ d, d ≠ p.1 → h'.cell d = h.cell d := by
  obtain ⟨m, first, here, nonzero, next, cell, rest⟩ := segment_append.1 seg
  refine ⟨⟨Function.update h.cell m (some ⟨c, p.2⟩), h.live⟩, by rw [Heap.setNext, ← here, cell], ?_, rfl, fun d other =>
    Function.update_of_ne (here ▸ other) _ _⟩
  refine segment_append.2 ⟨m, first.update (here ▸ fresh) _ _, here, nonzero, c, Function.update_self .., rfl⟩

/-- The last link of a chain is null already. -/
theorem Chain.setNext_last (chain : Chain h a xs) (nonempty : xs ≠ []) : h.setNext (lastAddr 0 xs) 0 = .ok h := by
  obtain ⟨xs, p, rfl⟩ := (xs.eq_nil_or_concat').resolve_left nonempty
  obtain ⟨m, -, here, -, next, cell, null⟩ := segment_append.1 chain
  obtain rfl : next = 0 := null
  rw [lastAddr_append, Heap.setNext, ← here, cell]
  dsimp only
  rw [Function.update_eq_self_iff.mpr cell.symm]

/-- A new cell does not stand in the way of a link elsewhere. -/
theorem Heap.setNext_allocate {fresh next : Nat} (other : b ≠ fresh) (cell : Cell α) (linked : h.setNext b next = .ok h') :
    (h.allocate fresh cell).setNext b next = .ok (h'.allocate fresh cell) := by
  have kept : (h.allocate fresh cell).cell b = h.cell b := Function.update_of_ne other _ _
  rw [setNext] at linked ⊢
  rw [kept]
  cases here : h.cell b with
  | none =>
    rw [here] at linked
    cases linked
  | some c =>
    rw [here] at linked
    obtain rfl := Except.ok.inj linked
    simp only [allocate, Function.update_comm other]

/-- **Append**: a new cell, linked from the last one. -/
theorem Chain.append (chain : Chain h a xs) {fresh : Nat} (nonnull : fresh ≠ 0) (unused : h.cell fresh = none) (item : α) :
    (xs = [] → Chain (h.allocate fresh ⟨0, item⟩) fresh [(fresh, item)]) ∧
    (xs ≠ [] → ∃ h', h.setNext (lastAddr 0 xs) fresh = .ok h' ∧
      Chain (h'.allocate fresh ⟨0, item⟩) a (xs ++ [(fresh, item)]) ∧ h'.live = h.live ∧
      ∀ d, (h'.cell d).isSome = (h.cell d).isSome) := by
  refine ⟨fun _ => ⟨rfl, nonnull, 0, Function.update_self .., rfl⟩, fun nonempty => ?_⟩
  obtain ⟨xs, p, rfl⟩ := (xs.eq_nil_or_concat').resolve_left nonempty
  have once := Chain.nodup chain
  have listed : fresh ∉ (xs ++ [p]).map Prod.fst := by
    intro member
    obtain ⟨q, found, rfl⟩ := List.mem_map.1 member
    obtain ⟨-, next, cell⟩ := Segment.cells chain found
    rw [unused] at cell
    cases cell
  rw [List.map_append, List.nodup_append] at once
  have apart : p.1 ∉ xs.map Prod.fst := fun member => once.2.2 _ member _ (List.mem_singleton_self _) rfl
  obtain ⟨h', linked, seg, live, others⟩ := Segment.relink chain apart fresh
  refine ⟨h', by rw [lastAddr_append, linked], ?_, live, fun d => ?_⟩
  · exact segment_append.2 ⟨fresh, seg.update listed _ _, rfl, nonnull, 0, Function.update_self .., rfl⟩
  · by_cases same : d = p.1
    · obtain ⟨-, next, cell⟩ := Segment.cells chain (List.mem_append_right _ (List.mem_singleton_self p))
      obtain ⟨-, next', cell'⟩ := seg.cells (List.mem_append_right _ (List.mem_singleton_self p))
      rw [same, cell, cell']
      rfl
    · rw [others d same]

/-- **Unlink**: the predecessor of a cell takes over its link. -/
theorem Chain.unlink (chain : Chain h a (xs ++ (b, x) :: ys)) :
    ∃ next, h.cell b = some ⟨next, x⟩ ∧ (xs = [] ↔ b = a) ∧
      (xs = [] → Chain h next ys) ∧
      (xs ≠ [] → ∃ h', h.setNext (lastAddr 0 xs) next = .ok h' ∧ h'.cell b = some ⟨next, x⟩ ∧
        Chain h' a (xs ++ ys) ∧ h'.live = h.live ∧ ∀ d, (h'.cell d).isSome = (h.cell d).isSome) := by
  have once := Chain.nodup chain
  obtain ⟨m, first, rfl, nonzero, next, cell, rest⟩ := segment_append.1 chain
  refine ⟨next, cell, ?_, ?_, fun nonempty => ?_⟩
  · constructor
    · rintro rfl
      exact Eq.symm first
    · rintro rfl
      cases xs with
      | nil => rfl
      | cons q xs =>
        rw [List.cons_append, List.map_cons, List.nodup_cons] at once
        exact absurd (by rw [← first.1]; simp) once.1
  · rintro rfl
    exact rest
  obtain ⟨xs, p, rfl⟩ := (xs.eq_nil_or_concat').resolve_left nonempty
  rw [List.map_append, List.map_append, List.nodup_append, List.nodup_append] at once
  obtain ⟨⟨-, -, apart⟩, -, across⟩ := once
  have last : p.1 ∈ List.map Prod.fst xs ++ List.map Prod.fst [p] := by simp
  obtain ⟨h', linked, seg, live, others⟩ :=
    first.relink (fun member => apart _ member _ (List.mem_singleton_self _) rfl) next
  refine ⟨h', by rw [lastAddr_append, linked], ?_, segment_append.2 ⟨next, seg, rest.frame fun q member => ?_⟩, live, fun d => ?_⟩
  · rw [others m fun same => across _ last _ (List.mem_cons_self ..) same.symm, cell]
  · exact others q.1 fun same => across _ last _ (List.mem_cons_of_mem _ (List.mem_map_of_mem member)) same.symm
  · by_cases same : d = p.1
    · obtain ⟨-, next', cell'⟩ := first.cells (List.mem_append_right _ (List.mem_singleton_self p))
      obtain ⟨-, next'', cell''⟩ := seg.cells (List.mem_append_right _ (List.mem_singleton_self p))
      rw [same, cell', cell'']
      rfl
    · rw [others d same]

end Lib
