import ArtikSdk.Base.ArtikSequence

/-!
# Copying a list

`artik_list_cpy` allocates a node where `*res` is null. From the second node on `res` is the link of the
node before, which `memcpy` has just copied from the source: it is not null, and the nodes of the
source become those of the copy.
-/

namespace ArtikSdk.ArtikList
open Lib

/-! ## The function -/

/-- `*res`, where `res` is the address of `dest` or of the link of a node. -/
def loadRes (res : Option Nat) (dest : Nat) (heap : Heap Fields) : Except Heap.Fault Nat :=
  match res with
  | none => .ok dest
  | some p => do
    let c ← heap.read p
    return c.next

/-- `*res = value` -/
def storeRes (res : Option Nat) (value dest : Nat) (heap : Heap Fields) : Except Heap.Fault (Nat × Heap Fields) :=
  match res with
  | none => .ok (value, heap)
  | some p => do
    let heap ← heap.setNext p value
    return (dest, heap)

/-- `if (*res == NULL) *res = malloc(sizeof(artik_list));`, and what `*res` is then. `garbage` is what the memory holds. -/
def provide (malloc : Malloc) (garbage : Cell Fields) (res : Option Nat) (dest : Nat) (heap : Heap Fields) :
    Except Heap.Fault (Nat × Nat × Heap Fields) := do
  let at' ← loadRes res dest heap
  if at' ≠ 0 then return (at', dest, heap)
  else
    match malloc.pick fun a => (heap.cell a).isSome with
    | none => return (0, dest, heap)
    | some a =>
      let (dest, heap) ← storeRes res a dest heap
      return (a, dest, heap.allocate a garbage)

/-- `while (elem) { ... }`: the new `dest`, and the heap. -/
def cpyLoop (malloc : Malloc) (garbage : Cell Fields) : Nat → Option Nat → Nat → Nat → Heap Fields → Except Heap.Fault (Nat × Heap Fields)
  | 0, _, elem, dest, heap => if elem = 0 then .ok (dest, heap) else .error .endless
  | fuel + 1, res, elem, dest, heap =>
    if elem = 0 then .ok (dest, heap)
    else do
      let (at', dest, heap) ← provide malloc garbage res dest heap
      let c ← heap.read elem
      let heap ← heap.write at' c
      let c ← heap.read elem
      cpyLoop malloc garbage fuel (some at') c.next dest heap

def artikListCpy (malloc : Malloc) (garbage : Cell Fields) (list dest : Nat) (heap : Heap Fields) :
    Except Heap.Fault (ArtikError × Nat × Heap Fields) :=
  if list = 0 then .ok (.badArgs, dest, heap)
  else do
    let (dest, heap) ← cpyLoop malloc garbage heap.live none list dest heap
    return (.ok, dest, heap)

/-! ## What a call leaves of the cells of others -/

/-- The cells in use that are not those of the list stay. -/
def Leaves (xs : List Elem) (h h' : Heap Fields) : Prop :=
  ∀ d, d ∉ xs.map Prod.fst → (h.cell d).isSome → h'.cell d = h.cell d

/-- A call on the list, not a store by the owner of a node. -/
def Op.isCall : Op → Bool
  | .assign _ _ _ _ => false
  | _ => true

section Frame

variable {s s' t : State} {xs : List Elem} {onClear : OnClear} {h h' : Heap Fields} {a : Nat} {code : ArtikError}

theorem Leaves.refl (xs : List Elem) (h : Heap Fields) : Leaves xs h h := fun _ _ _ => rfl

theorem Leaves.trans {h'' : Heap Fields} (first : Leaves xs h h') (second : Leaves xs h' h'') : Leaves xs h h'' := by
  intro d outside used
  have same := first d outside used
  exact (second d outside (same ▸ used)).trans same

theorem setNext_leaves {next : Nat} (linked : h.setNext a next = .ok h') (member : a ∈ xs.map Prod.fst) : Leaves xs h h' := by
  intro d outside _
  unfold Heap.setNext at linked
  split at linked
  · cases linked
  · cases linked
    refine Function.update_of_ne ?_ ..
    rintro rfl
    exact outside member

theorem dispose_leaves (done : dispose onClear a s = .ok s') (member : a ∈ xs.map Prod.fst) : Leaves xs s.heap s'.heap := by
  intro d outside _
  cases cell : s.heap.cell a with
  | none =>
    rw [dispose, Heap.read, cell] at done
    cases done
  | some c =>
    rw [dispose_eq cell] at done
    cases done
    refine Function.update_of_ne ?_ ..
    rintro rfl
    exact outside member

theorem deleteElem_leaves {prev elem : Nat} (done : deleteElem onClear prev elem s = .ok (code, s'))
    (before : prev ≠ 0 → prev ∈ xs.map Prod.fst) (member : elem ≠ 0 → elem ∈ xs.map Prod.fst) : Leaves xs s.heap s'.heap := by
  unfold deleteElem at done
  split at done
  · cases done
    exact .refl xs _
  · rename_i found
    obtain ⟨c, -, done⟩ := bind_ok_iff.1 done
    -- The predecessor is linked, or there is none.
    have linked : ∃ h, Leaves xs s.heap h ∧ (do
        let c' ← h.read elem
        let list := if elem = s.list then c'.next else s.list
        let t ← dispose onClear elem { s with list, heap := h }
        return (ArtikError.ok, t)) = .ok (code, s') := by
      dsimp only at done
      split at done
      · rename_i behind
        obtain ⟨h, linked, done⟩ := bind_ok_iff.1 done
        exact ⟨h, setNext_leaves linked (before behind), done⟩
      · exact ⟨s.heap, .refl xs _, done⟩
    obtain ⟨h, first, done⟩ := linked
    obtain ⟨c', -, done⟩ := bind_ok_iff.1 done
    obtain ⟨t, disposed, same⟩ := bind_ok_iff.1 done
    cases same
    exact first.trans (dispose_leaves disposed (member found))

/-- The list in the heap, with the cells of others around it. -/
structure Holds (s : State) (xs : List Elem) : Prop where
  chain : Chain s.heap s.list xs
  counted : xs.length ≤ s.heap.live

theorem lastAddr_mem : ∀ {pre : List Elem}, lastAddr 0 pre ≠ 0 → lastAddr 0 pre ∈ pre.map Prod.fst := by
  intro pre nonnull
  obtain rfl | ⟨pre, p, rfl⟩ := pre.eq_nil_or_concat'
  · exact absurd rfl nonnull
  · rw [lastAddr_append]
    simp

theorem found_leaves {pre post : List Elem} {e : Elem} (done : deleteElem onClear (lastAddr 0 pre) e.1 s = .ok (code, s')) :
    Leaves (pre ++ e :: post) s.heap s'.heap := by
  refine deleteElem_leaves done (fun behind => ?_) fun _ => by simp
  rw [List.map_append]
  exact List.mem_append_left _ (lastAddr_mem behind)

theorem seek_leaves (held : Holds s xs) {stop : Check}
    (done : (s.heap.walk (seek stop) s.heap.live 0 s.list >>= fun p => deleteElem onClear p.1 p.2 s) = .ok (code, s')) :
    Leaves xs s.heap s'.heap := by
  rw [Heap.walk_chain held.chain held.counted] at done
  obtain ⟨-, rest⟩ | ⟨pre, e, post, rfl, rest, -⟩ := carry_seek stop 0 xs
  · rw [rest] at done
    cases done
    exact .refl xs _
  · rw [rest] at done
    exact found_leaves done

theorem deletePos_leaves (held : Holds s xs) {pos : UInt32} (done : artikListDeletePos onClear pos s = .ok (code, s')) :
    Leaves xs s.heap s'.heap := by
  have size : artikListSize s = .ok (UInt32.ofNat xs.length) := by
    rw [artikListSize, Heap.walk_chain held.chain held.counted, carry_count, UInt32.zero_add]
    rfl
  rw [artikListDeletePos] at done
  split at done
  · cases done
    exact .refl xs _
  · rw [size] at done
    change (if pos ≥ UInt32.ofNat xs.length then _ else _) = _ at done
    split at done
    · cases done
      exact .refl xs _
    · rename_i small
      have length : (UInt32.ofNat xs.length).toNat = xs.length % 2 ^ 32 := UInt32.toNat_ofNat
      have inside : pos.toNat < xs.length := by
        rw [ge_iff_le, UInt32.le_iff_toNat_le, length] at small
        have := Nat.mod_le xs.length (2 ^ 32)
        omega
      obtain ⟨pre, e, post, left, rfl, rest, -⟩ := carry_seekPos 0 pos inside
      rw [Heap.walk_chain held.chain held.counted, rest] at done
      exact found_leaves done

theorem deleteAllLoop_leaves {fuel : Nat} (chain : Chain s.heap s.list xs) (done : deleteAllLoop onClear fuel s = .ok s') :
    Leaves xs s.heap s'.heap := by
  induction fuel generalizing s xs with
  | zero =>
    rw [deleteAllLoop] at done
    split at done
    · cases done
      exact .refl xs _
    · cases done
  | succ fuel ih =>
    rw [deleteAllLoop] at done
    split at done
    · cases done
      exact .refl xs _
    · rename_i nonnull
      cases xs with
      | nil => exact absurd chain nonnull
      | cons e xs =>
        have once := chain.nodup
        rw [List.map_cons, List.nodup_cons] at once
        obtain ⟨here, -, next, cell, rest⟩ := chain
        have disposed : dispose onClear s.list { s with list := next } = _ := dispose_eq cell
        rw [Heap.read, cell] at done
        change (dispose onClear s.list { s with list := next } >>= _) = _ at done
        rw [disposed] at done
        have listed : s.list ∈ (e :: xs).map Prod.fst := by
          rw [here]
          exact List.mem_cons_self ..
        have first := dispose_leaves disposed listed
        refine first.trans fun d outside used => ?_
        exact ih (s := ⟨next, _, _⟩) (rest.update (here ▸ once.1) none _) done d (fun member => outside (List.mem_cons_of_mem _ member)) used

theorem add_leaves (held : Holds s xs) {handle : Nat} {sizeOfNode : SizeOfNode} {malloc : Malloc} {elem : Nat}
    (done : artikListAdd handle sizeOfNode malloc s = .ok (elem, s')) : Leaves xs s.heap s'.heap := by
  rw [artikListAdd, Heap.last_chain held.chain held.counted] at done
  change (if lastAddr 0 xs ≠ 0 then _ else _) = _ at done
  have allocated : ∀ (h : Heap Fields) a c, malloc.pick (fun a => (s.heap.cell a).isSome) = some a → Leaves xs s.heap h →
      Leaves xs s.heap (h.allocate a c) := by
    intro h a c given first d outside used
    refine (Function.update_of_ne ?_ ..).trans (first d outside used)
    rintro rfl
    have unused := (malloc.fresh _ _ given).2
    exact Bool.false_ne_true (unused.symm.trans used)
  split at done
  · rename_i behind
    obtain ⟨h, linked, done⟩ := bind_ok_iff.1 done
    have first := setNext_leaves linked (lastAddr_mem behind)
    cases given : malloc.pick fun a => (s.heap.cell a).isSome with
    | none =>
      rw [given] at done
      cases done
      exact first
    | some a =>
      rw [given] at done
      cases done
      exact allocated _ _ _ given first
  · cases given : malloc.pick fun a => (s.heap.cell a).isSome with
    | none =>
      rw [given] at done
      cases done
      exact .refl xs _
    | some a =>
      rw [given] at done
      cases done
      exact allocated _ _ _ given (.refl xs _)

/-- **A call leaves the cells of others.** -/
theorem step_leaves (held : Holds s xs) {op : Op} {r : Ret} (call : op.isCall = true) (done : step onClear op s = .ok (s', r)) :
    Leaves xs s.heap s'.heap := by
  have coded : ∀ {x : Except Heap.Fault (ArtikError × State)}, (∀ {code s'}, x = .ok (code, s') → Leaves xs s.heap s'.heap) →
      (do let r ← x; return (r.2, Ret.code r.1)) = .ok (s', r) → Leaves xs s.heap s'.heap := by
    intro x leaves done
    obtain ⟨⟨code, t⟩, result, same⟩ := bind_ok_iff.1 done
    cases same
    exact leaves result
  have reads : ∀ {α : Type} {x : Except Heap.Fault α} {f : α → Ret}, (do let r ← x; return (s, f r)) = .ok (s', r) →
      Leaves xs s.heap s'.heap := by
    intro α x f done
    obtain ⟨_, -, same⟩ := bind_ok_iff.1 done
    cases same
    exact .refl xs _
  cases op with
  | add handle sizeOfNode malloc =>
    obtain ⟨⟨elem, t⟩, result, same⟩ := bind_ok_iff.1 done
    cases same
    exact add_leaves held result
  | deleteNode node =>
    refine coded (fun {code s'} result => ?_) done
    unfold artikListDeleteNode at result
    split at result
    · cases result
      exact .refl xs _
    · exact seek_leaves held result
  | deleteHandle handle =>
    refine coded (fun {code s'} result => ?_) done
    unfold artikListDeleteHandle at result
    split at result
    · cases result
      exact .refl xs _
    · exact seek_leaves held result
  | deletePos pos => exact coded (deletePos_leaves held) done
  | deleteCheck checkFunc =>
    refine coded (fun {code s'} result => ?_) done
    unfold artikListDeleteCheck at result
    split at result
    · cases result
      exact .refl xs _
    · split at result
      · cases result
        exact .refl xs _
      · exact seek_leaves held result
  | deleteAll =>
    refine coded (fun {code s'} result => ?_) done
    unfold artikListDeleteAll at result
    split at result
    · cases result
      exact .refl xs _
    · obtain ⟨t, looped, same⟩ := bind_ok_iff.1 result
      cases same
      have leaves := deleteAllLoop_leaves held.chain looped
      exact leaves
  | size => exact reads done
  | getByHandle handle => exact reads done
  | getByPos pos => exact reads done
  | getByCheck checkFunc => exact reads done
  | listEnd => exact reads done
  | assign => cases call

end Frame

/-! ## Copies -/

/-- A list that is not empty, in a heap with other cells. -/
structure Source where
  heap : Heap Fields
  list : Nat
  nodes : List Elem
  chain : Chain heap list nodes
  nonempty : nodes ≠ []
  null : heap.cell 0 = none
  counted : nodes.length ≤ heap.live

/-- `dest` is a list of its own, with the handles of the source; a call on either leaves the other as it is. -/
structure IsCopy (l : Source) (dest : Nat) (heap : Heap Fields) (copy : List Elem) : Prop where
  chain : Chain heap dest copy
  handles : copy.map (fun e => e.2.handle) = l.nodes.map fun e => e.2.handle
  apart : ∀ a ∈ copy.map Prod.fst, a ∉ l.nodes.map Prod.fst
  source : Chain heap l.list l.nodes
  copyStays : ∀ onClear op log s' r, op.isCall = true → step onClear op ⟨l.list, heap, log⟩ = .ok (s', r) → Chain s'.heap dest copy
  sourceStays : ∀ onClear op log s' r, op.isCall = true → step onClear op ⟨dest, heap, log⟩ = .ok (s', r) → Chain s'.heap l.list l.nodes

def Copies (malloc : Malloc) (garbage : Cell Fields) (l : Source) : Prop :=
  ∃ dest heap copy, artikListCpy malloc garbage l.list 0 l.heap = .ok (.ok, dest, heap) ∧ IsCopy l dest heap copy

section Cpy

variable {malloc : Malloc} {garbage : Cell Fields} {heap : Heap Fields} {xs : List Elem} {a p elem dest : Nat} {f : Fields}

/-- A node that `*res` leads to already is copied to itself, and so are those behind it. -/
theorem cpyLoop_shares (chain : Chain heap elem xs) {c : Cell Fields} (cell : heap.cell p = some c) (link : c.next = elem) {fuel : Nat}
    (enough : xs.length ≤ fuel) : cpyLoop malloc garbage fuel (some p) elem dest heap = .ok (dest, heap) := by
  induction xs generalizing p elem c fuel with
  | nil =>
    have null : elem = 0 := chain
    cases fuel with
    | zero => rw [cpyLoop, if_pos null]
    | succ fuel => rw [cpyLoop, if_pos null]
  | cons e xs ih =>
    obtain ⟨here, nonnull, next, found, rest⟩ := chain
    obtain ⟨fuel, rfl⟩ : ∃ n, fuel = n + 1 := ⟨fuel - 1, by rw [List.length_cons] at enough; omega⟩
    have provided : provide malloc garbage (some p) dest heap = .ok (elem, dest, heap) := by
      rw [provide, loadRes, Heap.read, cell]
      change (if c.next ≠ 0 then _ else _) = _
      rw [if_pos (by rw [link]; exact nonnull), link]
      rfl
    have written : heap.write elem ⟨next, e.2⟩ = .ok heap := by
      rw [Heap.write, found]
      dsimp only
      rw [Function.update_eq_self_iff.mpr found.symm]
    have read : heap.read elem = .ok ⟨next, e.2⟩ := by rw [Heap.read, found]
    rw [cpyLoop, if_neg nonnull]
    simp only [provided, read, written, bind, Except.bind]
    exact ih rest found rfl (by rw [List.length_cons] at enough; omega)

/-- The source, with its first node. -/
theorem Source.first (l : Source) : ∃ f next rest, l.nodes = (l.list, f) :: rest ∧ l.list ≠ 0 ∧ l.heap.cell l.list = some ⟨next, f⟩ ∧
    Chain l.heap next rest := by
  have chain := l.chain
  cases nodes : l.nodes with
  | nil => exact absurd nodes l.nonempty
  | cons e rest =>
    rw [nodes] at chain
    obtain ⟨here, nonnull, next, cell, rest'⟩ := chain
    exact ⟨e.2, next, rest, by rw [here], nonnull, cell, rest'⟩

theorem provide_first (l : Source) : provide malloc garbage none 0 l.heap =
    match malloc.pick fun a => (l.heap.cell a).isSome with
    | none => .ok (0, 0, l.heap)
    | some a => .ok (a, a, l.heap.allocate a garbage) := by
  cases given : malloc.pick fun a => (l.heap.cell a).isSome with
  | none =>
    simp only [provide, loadRes, given, bind, Except.bind, pure, Except.pure]
    rfl
  | some a =>
    simp only [provide, loadRes, storeRes, given, bind, Except.bind, pure, Except.pure]
    rfl

/-- Without memory the first node is written to null. -/
theorem artikListCpy_fails (l : Source) (full : malloc.pick (fun a => (l.heap.cell a).isSome) = none) :
    artikListCpy malloc garbage l.list 0 l.heap = .error .wild := by
  obtain ⟨f, next, rest, nodes, nonnull, cell, -⟩ := l.first
  have counted := l.counted
  rw [nodes, List.length_cons] at counted
  obtain ⟨fuel, live⟩ : ∃ n, l.heap.live = n + 1 := ⟨l.heap.live - 1, by omega⟩
  have provided : provide malloc garbage none 0 l.heap = _ := provide_first l
  rw [full] at provided
  have read : l.heap.read l.list = .ok ⟨next, f⟩ := by rw [Heap.read, cell]
  have written : l.heap.write 0 ⟨next, f⟩ = .error .wild := by rw [Heap.write, l.null]
  rw [artikListCpy, if_neg nonnull, live, cpyLoop, if_neg nonnull]
  simp only [provided, read, written, bind, Except.bind]

variable (garbage) in
/-- **What is copied** is the first node. -/
theorem artikListCpy_eq (l : Source) (given : malloc.pick (fun a => (l.heap.cell a).isSome) = some a) :
    ∃ f next rest, l.nodes = (l.list, f) :: rest ∧ Chain l.heap next rest ∧
      artikListCpy malloc garbage l.list 0 l.heap = .ok (.ok, a, l.heap.allocate a ⟨next, f⟩) := by
  obtain ⟨f, next, rest, nodes, nonnull, cell, rest'⟩ := l.first
  refine ⟨f, next, rest, nodes, rest', ?_⟩
  have counted := l.counted
  rw [nodes, List.length_cons] at counted
  obtain ⟨fuel, live⟩ : ∃ n, l.heap.live = n + 1 := ⟨l.heap.live - 1, by omega⟩
  have provided : provide malloc garbage none 0 l.heap = _ := provide_first l
  rw [given] at provided
  have unused := (malloc.fresh _ _ given).2
  have other : l.list ≠ a := by
    rintro rfl
    rw [cell] at unused
    cases unused
  have read : ∀ c, (l.heap.allocate a c).read l.list = .ok ⟨next, f⟩ := by
    intro c
    have still : (l.heap.allocate a c).cell l.list = some ⟨next, f⟩ := (Function.update_of_ne other ..).trans cell
    rw [Heap.read, still]
  have written : (l.heap.allocate a garbage).write a ⟨next, f⟩ = .ok (l.heap.allocate a ⟨next, f⟩) := by
    simp only [Heap.write, Heap.allocate, Function.update_self, Function.update_idem]
  have absent : a ∉ rest.map Prod.fst := by
    intro member
    obtain ⟨e, listed, rfl⟩ := List.mem_map.1 member
    obtain ⟨-, _, used⟩ := Segment.cells rest' listed
    rw [used] at unused
    cases unused
  have behind : Chain (l.heap.allocate a ⟨next, f⟩) next rest := Segment.update rest' absent _ _
  have copied : (l.heap.allocate a ⟨next, f⟩).cell a = some ⟨next, f⟩ := Function.update_self ..
  have shared : cpyLoop malloc garbage fuel (some a) next a (l.heap.allocate a ⟨next, f⟩) = .ok (a, l.heap.allocate a ⟨next, f⟩) :=
    cpyLoop_shares behind copied rfl (by omega)
  rw [artikListCpy, if_neg nonnull, live, cpyLoop, if_neg nonnull]
  simp only [provided, read, written, shared, bind, Except.bind, pure, Except.pure]

/-- The copy of one node is a copy. -/
theorem copies_of_one (l : Source) (one : l.nodes.length = 1) (given : malloc.pick (fun a => (l.heap.cell a).isSome) = some a) :
    Copies malloc garbage l := by
  obtain ⟨f, next, rest, nodes, rest', copied⟩ := artikListCpy_eq garbage l given
  have alone : rest = [] := by
    rw [nodes, List.length_cons] at one
    exact List.length_eq_zero_iff.1 (by omega)
  subst alone
  obtain rfl : next = 0 := rest'
  obtain ⟨f', next', rest, nodes', nonnull, cell, -⟩ := l.first
  obtain ⟨nonnull', unused⟩ := malloc.fresh _ _ given
  have other : l.list ≠ a := by
    rintro rfl
    rw [cell] at unused
    cases unused
  have still : (l.heap.allocate a ⟨0, f⟩).cell l.list = l.heap.cell l.list := Function.update_of_ne other ..
  have new : (l.heap.allocate a ⟨0, f⟩).cell a = some ⟨0, f⟩ := Function.update_self ..
  have chain : Chain (l.heap.allocate a ⟨0, f⟩) a [(a, f)] := ⟨rfl, nonnull', 0, new, rfl⟩
  have source : Chain (l.heap.allocate a ⟨0, f⟩) l.list l.nodes := by
    refine Segment.frame l.chain fun e member => ?_
    rw [nodes, List.mem_singleton] at member
    rw [member]
    exact still
  have counted : 1 ≤ (l.heap.allocate a ⟨0, f⟩).live := Nat.le_add_left ..
  refine ⟨a, _, [(a, f)], copied, chain, ?_, ?_, source, ?_, ?_⟩
  · rw [nodes]
    rfl
  · rw [nodes]
    rintro b member listed
    exact other ((List.mem_singleton.1 listed).symm.trans (List.mem_singleton.1 member))
  · intro onClear op log s' r call done
    have leaves := step_leaves (s := ⟨l.list, l.heap.allocate a ⟨0, f⟩, log⟩) ⟨source, by rw [one]; exact counted⟩ call done
    refine Segment.frame chain fun e member => leaves _ ?_ ?_
    · rw [List.mem_singleton.1 member, nodes]
      exact fun listed => other (List.mem_singleton.1 listed).symm
    · rw [List.mem_singleton.1 member]
      exact congrArg Option.isSome new
  · intro onClear op log s' r call done
    have leaves := step_leaves (s := ⟨a, l.heap.allocate a ⟨0, f⟩, log⟩) ⟨chain, counted⟩ call done
    refine Segment.frame source fun e member => leaves _ ?_ ?_
    · rw [nodes, List.mem_singleton] at member
      rw [member]
      exact fun listed => other (List.mem_singleton.1 listed)
    · rw [nodes, List.mem_singleton] at member
      rw [member]
      exact congrArg Option.isSome (still.trans cell)

/-- The second node of the copy is the second node of the source. -/
theorem not_copies_of_two (l : Source) (more : l.nodes.length ≠ 1) : ¬ Copies malloc garbage l := by
  rintro ⟨dest, heap, copy, copied, isCopy⟩
  cases given : malloc.pick fun a => (l.heap.cell a).isSome with
  | none =>
    rw [artikListCpy_fails l given] at copied
    cases copied
  | some a =>
    obtain ⟨f, next, rest, nodes, rest', result⟩ := artikListCpy_eq garbage l given
    cases result.symm.trans copied
    cases rest with
    | nil => exact more (by rw [nodes]; rfl)
    | cons e rest =>
      obtain ⟨here, nonnull, _⟩ := rest'
      have chain := isCopy.chain
      have second : e.1 ∈ copy.map Prod.fst := by
        cases copy with
        | nil => exact absurd chain (malloc.fresh _ _ given).1
        | cons e' copy =>
          obtain ⟨-, -, next', cell, behind⟩ := chain
          obtain ⟨rfl, -⟩ : next = next' ∧ f = e'.2 := by
            have same := (Function.update_self ..).symm.trans cell
            cases Option.some.inj same
            exact ⟨rfl, rfl⟩
          cases copy with
          | nil => exact absurd behind nonnull
          | cons e'' copy =>
            rw [← here, behind.1]
            simp
      refine isCopy.apart _ second ?_
      rw [nodes]
      simp

end Cpy

/-- **Copying.** A list is copied exactly when it has one node, and there is memory for it. -/
theorem copies_iff (malloc : Malloc) (garbage : Cell Fields) (l : Source) :
    Copies malloc garbage l ↔ l.nodes.length = 1 ∧ (malloc.pick fun a => (l.heap.cell a).isSome).isSome := by
  constructor
  · intro copies
    refine ⟨not_not.1 fun more => not_copies_of_two l more copies, ?_⟩
    obtain ⟨dest, heap, copy, copied, -⟩ := copies
    cases given : malloc.pick fun a => (l.heap.cell a).isSome with
    | none =>
      rw [artikListCpy_fails l given] at copied
      cases copied
    | some a => rfl
  · rintro ⟨one, memory⟩
    obtain ⟨a, given⟩ := Option.isSome_iff_exists.1 memory
    exact copies_of_one l one given

/-- Nodes at 1 and 2. -/
def twoNodes : Source where
  heap := (Heap.empty.allocate 1 ⟨2, ⟨0, 1, 0, 0⟩⟩).allocate 2 ⟨0, ⟨0, 2, 0, 0⟩⟩
  list := 1
  nodes := [(1, ⟨0, 1, 0, 0⟩), (2, ⟨0, 2, 0, 0⟩)]
  chain := ⟨rfl, by decide, 2, rfl, rfl, by decide, 0, rfl, rfl⟩
  nonempty := by simp
  null := rfl
  counted := le_rfl

theorem twoNodes_shared : ¬ ∀ l, Copies (Malloc.only 3) ⟨0, ⟨0, 0, 0, 0⟩⟩ l := fun all =>
  not_copies_of_two twoNodes (by decide) (all twoNodes)

end ArtikSdk.ArtikList
