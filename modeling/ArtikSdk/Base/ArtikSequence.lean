import ArtikSdk.Base.ArtikList
import ArtikSdk.Lib.Run

/-!
# The linked list as a sequence

What the list is for: a sequence of elements, appended to at the end and searched from the
front. Every call on the heap does what it does on the sequence, whatever calls went before.
The functions that count elements count in an `unsigned int`, so the sequence has its length
measured by `len`: the number itself, or what 32 bits keep of it.
-/

namespace ArtikSdk.ArtikList
open Lib

/-- An element: the address of its node, and its fields. -/
abbrev Elem := Nat × Fields

/-- A call on the sequence: what it returns, the sequence it leaves, the elements it removes. -/
structure Outcome where
  ret : Ret
  list : List Elem
  removed : List Elem

/-- The address of an element that may be absent. -/
def addrOf (e : Option Elem) : Nat := (e.map Prod.fst).getD 0

/-- Remove the first element that matches. -/
def removeFirst (p : Elem → Bool) (xs : List Elem) : Outcome :=
  match xs.find? p with
  | none => ⟨.code .badArgs, xs, []⟩
  | some e => ⟨.code .ok, xs.eraseP p, [e]⟩

/-- Each call on the sequence. -/
def Op.onSequence (len : List Elem → Nat) (xs : List Elem) : Op → Outcome
  | .add handle sizeOfNode malloc =>
    match malloc.pick fun a => decide (a ∈ xs.map Prod.fst) with
    | none => ⟨.node 0, xs, []⟩
    | some a => ⟨.node a, xs ++ [(a, ⟨0, if handle ≠ 0 then handle else a, sizeOfNode.bytes - sizeofNode, 0⟩)], []⟩
  | .deleteNode node => removeFirst (fun e => e.1 = node) xs
  | .deleteHandle handle => if handle = 0 then ⟨.code .badArgs, xs, []⟩ else removeFirst (fun e => e.2.handle = handle) xs
  | .deletePos pos =>
    match if pos.toNat < len xs then xs[pos.toNat]? else none with
    | none => ⟨.code .badArgs, xs, []⟩
    | some e => ⟨.code .ok, xs.eraseIdx pos.toNat, [e]⟩
  | .deleteCheck none => ⟨.code .badArgs, xs, []⟩
  | .deleteCheck (some check) => removeFirst (fun e => check e.1 e.2) xs
  | .deleteAll => if xs = [] then ⟨.code .badArgs, xs, []⟩ else ⟨.code .ok, [], xs⟩
  | .size => ⟨.size (len xs), xs, []⟩
  | .getByHandle handle => ⟨.node (if handle = 0 then 0 else addrOf (xs.find? fun e => e.2.handle = handle)), xs, []⟩
  | .getByPos pos => ⟨.node (if pos.toNat < len xs then addrOf xs[pos.toNat]? else 0), xs, []⟩
  | .getByCheck none => ⟨.node 0, xs, []⟩
  | .getByCheck (some check) => ⟨.node (addrOf (xs.find? fun e => check e.1 e.2)), xs, []⟩
  | .listEnd => ⟨.node (addrOf xs.getLast?), xs, []⟩
  | .assign node clear handle data =>
    ⟨.none, xs.map fun e => if e.1 = node then (e.1, { e.2 with clear, handle, data }) else e, []⟩

/-- The calls that dispose of one element. -/
def disposal (onClear : OnClear) (e : Elem) : List Disposal :=
  (if e.2.clear ≠ 0 then [.clear e.2.clear e.1] else []) ++
  (if (if e.2.clear ≠ 0 then onClear e.2.clear e.1 e.2 else e.2).data ≠ 0 then
    [.free (if e.2.clear ≠ 0 then onClear e.2.clear e.1 e.2 else e.2).data] else []) ++ [.free e.1]

/-- The heap holds the nodes of the sequence, chained from the list variable, and no other. -/
structure Refines (s : State) (xs : List Elem) : Prop where
  chain : Chain s.heap s.list xs
  live : s.heap.live = xs.length
  nodes : ∀ a, (s.heap.cell a).isSome = decide (a ∈ xs.map Prod.fst)

variable {s s' : State} {xs pre post : List Elem} {e : Elem} {onClear : OnClear}

theorem Refines.empty_iff (r : Refines s xs) : s.list = 0 ↔ xs = [] := by
  constructor
  · intro null
    cases xs with
    | nil => rfl
    | cons e xs => exact absurd null r.chain.2.1
  · rintro rfl
    exact r.chain

/-! ## Disposing -/

theorem dispose_eq {c : Cell Fields} {elem : Nat} (cell : s.heap.cell elem = some c) :
    dispose onClear elem s =
      .ok ⟨s.list, ⟨Function.update s.heap.cell elem none, s.heap.live - 1⟩, s.log ++ disposal onClear (elem, c.item)⟩ := by
  simp only [dispose, Heap.read, Heap.free, cell, disposal, bind, Except.bind, pure, Except.pure]
  by_cases clear : c.item.clear = 0
  · by_cases data : c.item.data = 0 <;> simp [clear, data]
  · by_cases data : (onClear c.item.clear elem c.item).data = 0 <;> simp [clear, data]

/-- An address occurs once in the sequence. -/
theorem not_mem_rest (once : ((pre ++ e :: post).map Prod.fst).Nodup) : e.1 ∉ (pre ++ post).map Prod.fst := by
  rw [List.map_append, List.map_cons, List.nodup_middle, ← List.map_append] at once
  exact (List.nodup_cons.1 once).1

/-- The addresses that remain when one node is freed. -/
theorem nodes_free {cell : Nat → Option (Cell Fields)} (nodes : ∀ a, (cell a).isSome = decide (a ∈ (pre ++ e :: post).map Prod.fst))
    (once : ((pre ++ e :: post).map Prod.fst).Nodup) (a : Nat) :
    (Function.update cell e.1 none a).isSome = decide (a ∈ (pre ++ post).map Prod.fst) := by
  have absent := not_mem_rest once
  by_cases same : a = e.1
  · rw [same, Function.update_self, decide_eq_false absent]
    rfl
  · rw [Function.update_of_ne same, nodes a]
    simp [same]

variable (onClear)

/-- **Removal**: an element is unlinked, whatever its place, and disposed of. -/
theorem deleteElem_found (r : Refines s (pre ++ e :: post)) :
    ∃ s', deleteElem onClear (lastAddr 0 pre) e.1 s = .ok (.ok, s') ∧ Refines s' (pre ++ post) ∧
      s'.log = s.log ++ disposal onClear e := by
  have once := r.chain.nodup
  have nonzero := (Segment.cells r.chain (List.mem_append_right _ (List.mem_cons_self ..))).1
  have length : (pre ++ e :: post).length - 1 = (pre ++ post).length := by simp
  have absent := not_mem_rest once
  obtain ⟨next, cell, first, atHead, inside⟩ := Chain.unlink r.chain
  rw [deleteElem, if_neg nonzero, Heap.read, cell]
  by_cases empty : pre = []
  · subst empty
    have chain := atHead rfl
    simp only [lastAddr, bind, Except.bind, ne_eq, not_true, if_false, pure, Except.pure, Heap.read, cell, if_pos (first.1 rfl),
      dispose_eq (s := { s with list := next }) cell]
    exact ⟨_, rfl, ⟨Segment.update chain absent _ _, by rw [r.live, length], nodes_free r.nodes once⟩, rfl⟩
  · obtain ⟨h', linked, cell', chain, live, others⟩ := inside empty
    have nonnull : lastAddr 0 pre ≠ 0 := by
      obtain ⟨b, before, -⟩ := segment_append.1 r.chain
      exact fun null => empty ((lastAddr_eq_zero before).1 null)
    have behind : ¬ e.1 = s.list := fun same => empty (first.2 same)
    simp only [bind, Except.bind, if_pos nonnull, linked, Heap.read, cell', if_neg behind, pure, Except.pure,
      dispose_eq (s := { s with heap := h' }) cell']
    exact ⟨_, rfl, ⟨Segment.update chain absent _ _, by rw [live, r.live, length],
      nodes_free (fun a => (others a).trans (r.nodes a)) once⟩, rfl⟩

/-! ## The loops on the sequence -/

/-- The search of the delete functions stops at the first match, its predecessor in hand. -/
theorem carry_seek (stop : Check) (prev : Nat) (xs : List Elem) :
    xs.find? (fun e => stop e.1 e.2) = none ∧ (carry (seek stop) prev xs).2 = [] ∨
      ∃ pre e post, xs = pre ++ e :: post ∧ carry (seek stop) prev xs = (lastAddr prev pre, e :: post) ∧
        xs.find? (fun e => stop e.1 e.2) = some e ∧ xs.eraseP (fun e => stop e.1 e.2) = pre ++ post := by
  induction xs generalizing prev with
  | nil => exact .inl ⟨rfl, rfl⟩
  | cons x xs ih =>
    by_cases hit : stop x.1 x.2 = true
    · exact .inr ⟨[], x, xs, rfl, by simp [carry, seek, hit, lastAddr], by simp [hit], by simp [hit]⟩
    · obtain ⟨missing, rest⟩ | ⟨pre, e, post, rfl, rest, found, erased⟩ := ih x.1
      · exact .inl ⟨by simp [hit, missing], by simp [carry, seek, hit, rest]⟩
      · exact .inr ⟨x :: pre, e, post, rfl, by simp [carry, seek, hit, rest, lastAddr], by simp [hit, found], by simp [hit, erased]⟩

/-- The search of the get functions stops at the first match. -/
theorem carry_find (stop : Check) (xs : List Elem) :
    headAddr (carry (find stop) () xs).2 = addrOf (xs.find? fun e => stop e.1 e.2) := by
  induction xs with
  | nil => rfl
  | cons x xs ih =>
    by_cases hit : stop x.1 x.2 = true
    · simp [carry, find, hit, headAddr, addrOf]
    · simpa [carry, find, hit] using ih

theorem carry_count (res : UInt32) (xs : List Elem) : (carry count res xs).1 = res + UInt32.ofNat xs.length := by
  induction xs generalizing res with
  | nil => simp [carry]
  | cons x xs ih =>
    rw [carry, count]
    dsimp only
    rw [ih, List.length_cons, UInt32.ofNat_add, UInt32.add_assoc]
    congr 1
    rw [UInt32.add_comm]
    rfl

theorem carry_seekPos (prev : Nat) (pos : UInt32) (within : pos.toNat < xs.length) :
    ∃ pre e post left, xs = pre ++ e :: post ∧ carry seekPos (prev, pos) xs = ((lastAddr prev pre, left), e :: post) ∧
      xs[pos.toNat]? = some e ∧ xs.eraseIdx pos.toNat = pre ++ post := by
  induction xs generalizing prev pos with
  | nil => cases within
  | cons x xs ih =>
    by_cases zero : pos > 0
    · have positive : 0 < pos.toNat := UInt32.lt_iff_toNat_lt.1 zero
      have lower : (pos - 1).toNat = pos.toNat - 1 :=
        UInt32.toNat_sub_of_le pos 1 (UInt32.le_iff_toNat_le.2 positive)
      obtain ⟨k, position⟩ : ∃ k, pos.toNat = k + 1 := ⟨pos.toNat - 1, by omega⟩
      rw [position] at lower within ⊢
      obtain ⟨pre, e, post, left, rfl, rest, found, erased⟩ := ih x.1 (pos - 1) (by rw [lower]; simpa using within)
      rw [lower] at found erased
      refine ⟨x :: pre, e, post, left, rfl, ?_, found, ?_⟩
      · simp only [carry, seekPos, if_pos zero, lastAddr]
        exact rest
      · simpa using erased
    · have first : pos = 0 := by
        rw [UInt32.not_lt] at zero
        exact UInt32.le_antisymm zero (UInt32.zero_le ..)
      subst first
      exact ⟨[], x, xs, 0, rfl, rfl, rfl, rfl⟩

theorem carry_findPos (pos i : UInt32) (below : i.toNat ≤ pos.toNat) (xs : List Elem) :
    headAddr (carry (findPos pos) i xs).2 = headAddr (xs.drop (pos.toNat - i.toNat)) := by
  induction xs generalizing i with
  | nil => simp [carry]
  | cons x xs ih =>
    by_cases more : i < pos
    · have less : i.toNat < pos.toNat := more
      have next : (i + 1).toNat = i.toNat + 1 := by
        have bound := pos.toNat_lt
        rw [UInt32.toNat_add, Nat.mod_eq_of_lt (by simp; omega)]
        rfl
      rw [carry, findPos, if_pos more]
      dsimp only
      rw [ih (i + 1) (by omega), next, show pos.toNat - i.toNat = (pos.toNat - (i.toNat + 1)) + 1 by omega, List.drop_succ_cons]
    · have done : pos.toNat - i.toNat = 0 := by
        have := UInt32.not_lt.1 more
        rw [UInt32.le_iff_toNat_le] at this
        omega
      rw [carry, findPos, if_neg more, done]
      rfl

theorem headAddr_drop (xs : List Elem) (n : Nat) : headAddr (xs.drop n) = addrOf xs[n]? := by
  induction xs generalizing n with
  | nil => simp [headAddr, addrOf]
  | cons x xs ih =>
    cases n with
    | zero => rfl
    | succ n => exact ih n

/-! ## The calls -/

/-- What 32 bits keep of the length. -/
def len32 (xs : List Elem) : Nat := xs.length % 2 ^ 32

/-- The state after a call, against the sequence after it. -/
structure Follows (onClear : OnClear) (s s' : State) (o : Outcome) : Prop where
  refines : Refines s' o.list
  log : s'.log = s.log ++ o.removed.flatMap (disposal onClear)

variable {onClear} in
theorem Follows.refl (r : Refines s xs) (ret : Ret) : Follows onClear s s ⟨ret, xs, []⟩ :=
  ⟨r, (List.append_nil _).symm⟩

theorem seek_delete (r : Refines s xs) (stop : Check) :
    ∃ s' code, (s.heap.walk (seek stop) s.heap.live 0 s.list >>= fun p => deleteElem onClear p.1 p.2 s) = .ok (code, s') ∧
      (removeFirst (fun e => stop e.1 e.2) xs).ret = .code code ∧
      Follows onClear s s' (removeFirst (fun e => stop e.1 e.2) xs) := by
  rw [Heap.walk_chain r.chain (Nat.le_of_eq r.live.symm)]
  obtain ⟨missing, rest⟩ | ⟨pre, e, post, rfl, rest, found, erased⟩ := carry_seek stop 0 xs
  · rw [removeFirst, missing]
    simp only [rest, headAddr, bind, Except.bind, deleteElem, if_true]
    exact ⟨s, .badArgs, rfl, rfl, .refl r _⟩
  · obtain ⟨s', deleted, refines, log⟩ := deleteElem_found onClear r
    rw [removeFirst, found]
    simp only [rest, headAddr, bind, Except.bind, deleted, erased]
    exact ⟨s', .ok, rfl, rfl, refines, by rw [log]; simp⟩

theorem deleteNode_follows (r : Refines s xs) (node : Nat) :
    ∃ s' code, artikListDeleteNode onClear node s = .ok (code, s') ∧
      (removeFirst (fun e => e.1 = node) xs).ret = .code code ∧
      Follows onClear s s' (removeFirst (fun e => e.1 = node) xs) := by
  rw [artikListDeleteNode]
  by_cases refused : s.list = 0 ∨ node = 0
  · have missing : xs.find? (fun e => e.1 = node) = none := by
      refine List.find?_eq_none.2 fun e member => ?_
      obtain null | rfl := refused
      · rw [r.empty_iff.1 null] at member
        cases member
      · simpa using (Segment.cells r.chain member).1
    rw [if_pos refused, removeFirst, missing]
    exact ⟨s, .badArgs, rfl, rfl, .refl r _⟩
  · rw [if_neg refused]
    exact seek_delete onClear r fun a _ => a = node

theorem deleteHandle_follows (r : Refines s xs) (handle : Nat) :
    ∃ s' code, artikListDeleteHandle onClear handle s = .ok (code, s') ∧
      ((Op.deleteHandle handle).onSequence len32 xs).ret = .code code ∧
      Follows onClear s s' ((Op.deleteHandle handle).onSequence len32 xs) := by
  rw [artikListDeleteHandle, Op.onSequence]
  by_cases invalid : handle = 0
  · rw [if_pos (.inr invalid), if_pos invalid]
    exact ⟨s, .badArgs, rfl, rfl, .refl r _⟩
  · rw [if_neg invalid]
    by_cases null : s.list = 0
    · rw [if_pos (.inl null), r.empty_iff.1 null]
      exact ⟨s, .badArgs, rfl, rfl, .refl (r.empty_iff.1 null ▸ r) _⟩
    · rw [if_neg (not_or.2 ⟨null, invalid⟩)]
      exact seek_delete onClear r fun _ x => x.handle = handle

theorem deleteCheck_follows (r : Refines s xs) (checkFunc : Option Check) :
    ∃ s' code, artikListDeleteCheck onClear checkFunc s = .ok (code, s') ∧
      ((Op.deleteCheck checkFunc).onSequence len32 xs).ret = .code code ∧
      Follows onClear s s' ((Op.deleteCheck checkFunc).onSequence len32 xs) := by
  cases checkFunc with
  | none => exact ⟨s, .badArgs, rfl, rfl, .refl r _⟩
  | some check =>
    simp only [artikListDeleteCheck, Op.onSequence]
    by_cases null : s.list = 0
    · rw [if_pos null, r.empty_iff.1 null]
      exact ⟨s, .badArgs, rfl, rfl, .refl (r.empty_iff.1 null ▸ r) _⟩
    · rw [if_neg null]
      exact seek_delete onClear r check

theorem size_eq (r : Refines s xs) : artikListSize s = .ok (UInt32.ofNat xs.length) := by
  rw [artikListSize, Heap.walk_chain r.chain (Nat.le_of_eq r.live.symm), carry_count, UInt32.zero_add]
  rfl

theorem deletePos_follows (r : Refines s xs) (pos : UInt32) :
    ∃ s' code, artikListDeletePos onClear pos s = .ok (code, s') ∧
      ((Op.deletePos pos).onSequence len32 xs).ret = .code code ∧
      Follows onClear s s' ((Op.deletePos pos).onSequence len32 xs) := by
  have size : (UInt32.ofNat xs.length).toNat = len32 xs := UInt32.toNat_ofNat
  rw [artikListDeletePos, Op.onSequence]
  by_cases null : s.list = 0
  · rw [if_pos null, r.empty_iff.1 null]
    exact ⟨s, .badArgs, rfl, rfl, .refl (r.empty_iff.1 null ▸ r) _⟩
  · rw [if_neg null]
    simp only [size_eq r, bind, Except.bind, pure, Except.pure]
    by_cases within : pos.toNat < len32 xs
    · have inside : pos.toNat < xs.length := Nat.lt_of_lt_of_le within (Nat.mod_le _ _)
      have small : ¬ pos ≥ UInt32.ofNat xs.length := by
        rw [ge_iff_le, UInt32.le_iff_toNat_le, size]
        omega
      obtain ⟨pre, e, post, left, rfl, rest, found, erased⟩ := carry_seekPos 0 pos inside
      obtain ⟨s', deleted, refines, log⟩ := deleteElem_found onClear r
      rw [if_neg small, if_pos within, found, erased, Heap.walk_chain r.chain (Nat.le_of_eq r.live.symm), rest]
      exact ⟨s', .ok, deleted, rfl, refines, by rw [log]; simp⟩
    · have large : pos ≥ UInt32.ofNat xs.length := by
        rw [ge_iff_le, UInt32.le_iff_toNat_le, size]
        omega
      rw [if_pos large, if_neg within]
      exact ⟨s, .badArgs, rfl, rfl, .refl r _⟩

/-- `artik_list_delete_all` disposes of the elements in order. -/
theorem deleteAllLoop_eq (r : Refines s xs) :
    ∃ s', deleteAllLoop onClear s.heap.live s = .ok s' ∧ Refines s' [] ∧ s'.log = s.log ++ xs.flatMap (disposal onClear) := by
  rw [r.live]
  induction xs generalizing s with
  | nil => exact ⟨s, if_pos r.chain, r, (List.append_nil _).symm⟩
  | cons e xs ih =>
    have once := r.chain.nodup
    have absent : e.1 ∉ ([] ++ xs).map Prod.fst := not_mem_rest once
    have free : ∀ a, (Function.update s.heap.cell e.1 none a).isSome = decide (a ∈ ([] ++ xs).map Prod.fst) := nodes_free r.nodes once
    obtain ⟨here, nonzero, next, cell, rest⟩ := r.chain
    have left : Refines ⟨next, ⟨Function.update s.heap.cell s.list none, s.heap.live - 1⟩, s.log ++ disposal onClear e⟩ xs := by
      rw [here]
      exact ⟨Segment.update rest absent _ _, by rw [r.live]; rfl, free⟩
    obtain ⟨s', looped, refines, log⟩ := ih left
    refine ⟨s', ?_, refines, by rw [log, List.flatMap_cons, List.append_assoc]⟩
    rw [List.length_cons, deleteAllLoop, if_neg nonzero]
    simp only [Heap.read, cell, bind, Except.bind, dispose_eq (s := { s with list := next }) cell]
    rw [show (s.list, e.2) = e from Prod.ext here rfl]
    exact looped

theorem deleteAll_follows (r : Refines s xs) :
    ∃ s' code, artikListDeleteAll onClear s = .ok (code, s') ∧ (Op.deleteAll.onSequence len32 xs).ret = .code code ∧
      Follows onClear s s' (Op.deleteAll.onSequence len32 xs) := by
  rw [artikListDeleteAll, Op.onSequence]
  by_cases null : s.list = 0
  · rw [if_pos null, if_pos (r.empty_iff.1 null)]
    exact ⟨s, .badArgs, rfl, rfl, .refl r _⟩
  · obtain ⟨s', looped, refines, log⟩ := deleteAllLoop_eq onClear r
    rw [if_neg null, if_neg (mt r.empty_iff.2 null), looped]
    refine ⟨{ s' with list := 0 }, .ok, rfl, rfl, ⟨rfl, refines.live, refines.nodes⟩, log⟩

theorem add_follows (r : Refines s xs) (handle : Nat) (sizeOfNode : SizeOfNode) (malloc : Malloc) :
    ∃ s' a, artikListAdd handle sizeOfNode malloc s = .ok (a, s') ∧
      ((Op.add handle sizeOfNode malloc).onSequence len32 xs).ret = .node a ∧
      Follows onClear s s' ((Op.add handle sizeOfNode malloc).onSequence len32 xs) := by
  have same : (fun a => (s.heap.cell a).isSome) = fun a => decide (a ∈ xs.map Prod.fst) := funext r.nodes
  have none_eq : (lastAddr 0 xs = 0) ↔ xs = [] := lastAddr_eq_zero r.chain
  rw [artikListAdd, Heap.last_chain r.chain (Nat.le_of_eq r.live.symm), same, Op.onSequence]
  simp only [bind, Except.bind]
  cases outcome : malloc.pick fun a => decide (a ∈ xs.map Prod.fst) with
  | none =>
    by_cases empty : xs = []
    · rw [if_neg (not_not.2 (none_eq.2 empty))]
      exact ⟨s, 0, rfl, rfl, .refl r _⟩
    · rw [if_pos (mt none_eq.1 empty)]
      obtain ⟨ys, p, rfl⟩ := (xs.eq_nil_or_concat').resolve_left empty
      have once := r.chain.nodup
      rw [List.map_append, List.nodup_append] at once
      obtain ⟨h', linked, chain, live, others⟩ :=
        Segment.relink r.chain (fun member => once.2.2 _ member _ (List.mem_singleton_self _) rfl) 0
      rw [lastAddr_append, Option.getD_none, linked]
      refine ⟨{ s with heap := h' }, 0, rfl, rfl, ⟨chain, live.trans r.live, fun a => ?_⟩, (List.append_nil _).symm⟩
      by_cases at_end : a = p.1
      · obtain ⟨-, next, cell⟩ := Segment.cells chain (List.mem_append_right _ (List.mem_singleton_self p))
        simp [at_end, cell]
      · rw [others a at_end, r.nodes]
  | some a =>
    obtain ⟨nonnull, unused⟩ := malloc.fresh _ _ outcome
    have unallocated : s.heap.cell a = none := by
      rw [← r.nodes] at unused
      simpa using unused
    have more (cell : Nat → Option (Cell Fields)) (nodes : ∀ b, (cell b).isSome = (s.heap.cell b).isSome) (c : Cell Fields)
        (x : Fields) (b : Nat) :
        (Function.update cell a (some c) b).isSome = decide (b ∈ (xs ++ [(a, x)]).map Prod.fst) := by
      by_cases new : b = a
      · simp [new]
      · rw [Function.update_of_ne new, nodes, r.nodes]
        simp [new]
    obtain ⟨first, further⟩ := Chain.append r.chain nonnull unallocated
      ⟨0, if handle ≠ 0 then handle else a, sizeOfNode.bytes - sizeofNode, 0⟩
    by_cases empty : xs = []
    · rw [if_neg (not_not.2 (none_eq.2 empty))]
      refine ⟨_, a, rfl, rfl, ⟨?_, ?_, more _ (fun b => rfl) _ _⟩, (List.append_nil _).symm⟩
      · rw [empty]
        exact first empty
      · rw [List.length_append, ← r.live]
        rfl
    · rw [if_pos (mt none_eq.1 empty), Option.getD_some]
      obtain ⟨h', linked, chain, live, others⟩ := further empty
      rw [linked]
      refine ⟨_, a, rfl, rfl, ⟨chain, ?_, more _ others _ _⟩, (List.append_nil _).symm⟩
      rw [List.length_append, ← r.live, ← live]
      rfl

/-- A node without a handle of its own: there is no memory for it, or it is the last. -/
theorem add_cases (r : Refines s xs) (sizeOfNode : SizeOfNode) (malloc : Malloc) :
    ∃ s' a, artikListAdd 0 sizeOfNode malloc s = .ok (a, s') ∧
      (a = 0 ∧ malloc.pick (fun a => (s.heap.cell a).isSome) = none ∧ Refines s' xs ∨
        a ≠ 0 ∧ malloc.pick (fun a => (s.heap.cell a).isSome) = some a ∧ a ∉ xs.map Prod.fst ∧
          Refines s' (xs ++ [(a, ⟨0, a, sizeOfNode.bytes - sizeofNode, 0⟩)])) := by
  obtain ⟨s', a, added, ret, follows⟩ := add_follows (fun _ _ x => x) r 0 sizeOfNode malloc
  have same : (fun a => (s.heap.cell a).isSome) = fun a => decide (a ∈ xs.map Prod.fst) := funext r.nodes
  refine ⟨s', a, added, ?_⟩
  rw [same]
  rw [Op.onSequence] at ret follows
  cases given : malloc.pick fun a => decide (a ∈ xs.map Prod.fst) with
  | none =>
    rw [given] at ret follows
    cases ret
    exact .inl ⟨rfl, rfl, follows.refines⟩
  | some b =>
    rw [given] at ret follows
    cases ret
    obtain ⟨nonnull, unused⟩ := malloc.fresh _ _ given
    exact .inr ⟨nonnull, rfl, of_decide_eq_false unused, follows.refines⟩

theorem find_eq (r : Refines s xs) (stop : Check) :
    s.heap.walk (find stop) s.heap.live () s.list = .ok ((), addrOf (xs.find? fun e => stop e.1 e.2)) := by
  rw [Heap.walk_chain r.chain (Nat.le_of_eq r.live.symm), carry_find]

theorem getByHandle_eq (r : Refines s xs) (handle : Nat) :
    artikListGetByHandle handle s = .ok (if handle = 0 then 0 else addrOf (xs.find? fun e => e.2.handle = handle)) := by
  rw [artikListGetByHandle]
  by_cases invalid : handle = 0
  · rw [if_pos (.inr invalid), if_pos invalid]
  · rw [if_neg invalid]
    by_cases null : s.list = 0
    · rw [if_pos (.inl null), r.empty_iff.1 null]
      rfl
    · rw [if_neg (not_or.2 ⟨null, invalid⟩), find_eq r]
      rfl

theorem getByCheck_eq (r : Refines s xs) (check : Check) :
    artikListGetByCheck (some check) s = .ok (addrOf (xs.find? fun e => check e.1 e.2)) := by
  simp only [artikListGetByCheck]
  by_cases null : s.list = 0
  · rw [if_pos null, r.empty_iff.1 null]
    rfl
  · rw [if_neg null, find_eq r]
    rfl

theorem getByPos_eq (r : Refines s xs) (pos : UInt32) :
    artikListGetByPos pos s = .ok (if pos.toNat < len32 xs then addrOf xs[pos.toNat]? else 0) := by
  have size : (UInt32.ofNat xs.length).toNat = len32 xs := UInt32.toNat_ofNat
  rw [artikListGetByPos]
  by_cases null : s.list = 0
  · rw [if_pos null, r.empty_iff.1 null]
    rfl
  · rw [if_neg null]
    simp only [size_eq r, bind, Except.bind, pure, Except.pure]
    have compared : pos ≥ UInt32.ofNat xs.length ↔ ¬ pos.toNat < len32 xs := by
      rw [ge_iff_le, UInt32.le_iff_toNat_le, size, Nat.not_lt]
    by_cases within : pos.toNat < len32 xs
    · rw [if_neg (mt compared.1 (not_not.2 within)), if_pos within, Heap.walk_chain r.chain (Nat.le_of_eq r.live.symm)]
      dsimp only
      rw [carry_findPos pos 0 (Nat.zero_le _), show pos.toNat - (0 : UInt32).toNat = pos.toNat from rfl, headAddr_drop]
    · rw [if_pos (compared.2 within), if_neg within]

theorem end_eq (r : Refines s xs) : artikListEnd s = .ok (addrOf xs.getLast?) := by
  rw [artikListEnd, Heap.last_chain r.chain (Nat.le_of_eq r.live.symm)]
  obtain rfl | ⟨ys, p, rfl⟩ := xs.eq_nil_or_concat'
  · rfl
  · rw [lastAddr_append, List.getLast?_concat]
    rfl

theorem assign_follows (r : Refines s xs) (node clear handle data : Nat) :
    Follows onClear s (assign node clear handle data s) ((Op.assign node clear handle data).onSequence len32 xs) := by
  rw [assign, Op.onSequence]
  cases cell : s.heap.cell node with
  | none =>
    have absent : ∀ e ∈ xs, (if e.1 = node then (e.1, { e.2 with clear, handle, data }) else e) = e := by
      intro e member
      obtain ⟨-, next, found⟩ := Segment.cells r.chain member
      rw [if_neg]
      rintro rfl
      rw [found] at cell
      cases cell
    rw [(List.map_congr_left absent).trans (List.map_id xs)]
    exact .refl r _
  | some c =>
    refine ⟨⟨Segment.map r.chain (fun e => ?_) fun e member next found => ?_, ?_, fun a => ?_⟩, (List.append_nil _).symm⟩
    · split <;> rfl
    · by_cases same : e.1 = node
      · rw [same, cell] at found
        cases found
        simp [same]
      · simp [same, found]
    · exact r.live.trans (List.length_map _).symm
    · have addresses : (xs.map fun e => if e.1 = node then (e.1, { e.2 with clear, handle, data }) else e).map Prod.fst =
          xs.map Prod.fst := by
        rw [List.map_map]
        refine List.map_congr_left fun e _ => ?_
        dsimp only [Function.comp]
        split <;> rfl
      rw [addresses, ← r.nodes]
      by_cases same : a = node
      · simp [same, cell]
      · simp [same]

/-- **Every call does on the heap what it does on the sequence.** -/
theorem step_follows (r : Refines s xs) (op : Op) :
    ∃ s', step onClear op s = .ok (s', (op.onSequence len32 xs).ret) ∧ Follows onClear s s' (op.onSequence len32 xs) := by
  cases op with
  | add handle sizeOfNode malloc =>
    obtain ⟨s', a, result, ret, follows⟩ := add_follows onClear r handle sizeOfNode malloc
    exact ⟨s', by rw [step, result, ret]; rfl, follows⟩
  | deleteNode node =>
    obtain ⟨s', code, result, ret, follows⟩ := deleteNode_follows onClear r node
    exact ⟨s', by rw [step, result, Op.onSequence, ret]; rfl, follows⟩
  | deleteHandle handle =>
    obtain ⟨s', code, result, ret, follows⟩ := deleteHandle_follows onClear r handle
    exact ⟨s', by rw [step, result, ret]; rfl, follows⟩
  | deletePos pos =>
    obtain ⟨s', code, result, ret, follows⟩ := deletePos_follows onClear r pos
    exact ⟨s', by rw [step, result, ret]; rfl, follows⟩
  | deleteCheck checkFunc =>
    obtain ⟨s', code, result, ret, follows⟩ := deleteCheck_follows onClear r checkFunc
    exact ⟨s', by rw [step, result, ret]; rfl, follows⟩
  | deleteAll =>
    obtain ⟨s', code, result, ret, follows⟩ := deleteAll_follows onClear r
    exact ⟨s', by rw [step, result, ret]; rfl, follows⟩
  | size =>
    refine ⟨s, ?_, .refl r _⟩
    rw [step, size_eq r, Op.onSequence, ← show (UInt32.ofNat xs.length).toNat = len32 xs from UInt32.toNat_ofNat]
    rfl
  | getByHandle handle => exact ⟨s, by rw [step, getByHandle_eq r]; rfl, .refl r _⟩
  | getByPos pos => exact ⟨s, by rw [step, getByPos_eq r]; rfl, .refl r _⟩
  | getByCheck checkFunc =>
    cases checkFunc with
    | none => exact ⟨s, rfl, .refl r _⟩
    | some check => exact ⟨s, by rw [step, getByCheck_eq r]; rfl, .refl r _⟩
  | listEnd => exact ⟨s, by rw [step, end_eq r]; rfl, .refl r _⟩
  | assign node clear handle data => exact ⟨_, rfl, assign_follows onClear r node clear handle data⟩

/-- A sequence of calls on the sequence: what each returns, the sequence at the end, and
every element removed on the way. -/
def onSequence (len : List Elem → Nat) : List Op → List Elem → List Ret × List Elem × List Elem
  | [], xs => ([], xs, [])
  | op :: ops, xs =>
    let o := op.onSequence len xs
    let rest := onSequence len ops o.list
    (o.ret :: rest.1, rest.2.1, o.removed ++ rest.2.2)

/-- **A sequence of calls.** -/
theorem exec_follows (ops : List Op) (r : Refines s xs) :
    ∃ calls s', exec (step onClear) ops s = .ok (calls, s') ∧ calls.map Call.output = (onSequence len32 ops xs).1 ∧
      Refines s' (onSequence len32 ops xs).2.1 ∧ s'.log = s.log ++ (onSequence len32 ops xs).2.2.flatMap (disposal onClear) := by
  induction ops generalizing s xs with
  | nil => exact ⟨[], s, rfl, rfl, r, (List.append_nil _).symm⟩
  | cons op ops ih =>
    obtain ⟨t, first, follows⟩ := step_follows onClear r op
    obtain ⟨calls, s', rest, outputs, refines, log⟩ := ih follows.refines
    refine ⟨⟨s, op, t, (op.onSequence len32 xs).ret⟩ :: calls, s', ?_, ?_, refines, ?_⟩
    · rw [exec, first]
      dsimp only
      rw [rest]
    · rw [List.map_cons, outputs]
      rfl
    · rw [log, follows.log, List.append_assoc, ← List.flatMap_append]
      rfl

/-! ## Lengths below 2^32 -/

theorem Op.length_le (op : Op) (len : List Elem → Nat) (xs : List Elem) : (op.onSequence len xs).list.length ≤ xs.length + 1 := by
  have removed (p : Elem → Bool) : (removeFirst p xs).list.length ≤ xs.length + 1 := by
    rw [removeFirst]
    split
    · exact Nat.le_succ _
    · exact Nat.le_succ_of_le List.eraseP_sublist.length_le
  cases op with
  | add handle sizeOfNode malloc =>
    rw [onSequence]
    split <;> simp
  | deleteNode node => exact removed _
  | deleteHandle handle =>
    rw [onSequence]
    split
    · exact Nat.le_succ _
    · exact removed _
  | deletePos pos =>
    rw [onSequence]
    split
    · exact Nat.le_succ _
    · exact Nat.le_succ_of_le (List.eraseIdx_sublist ..).length_le
  | deleteCheck checkFunc =>
    cases checkFunc with
    | none => exact Nat.le_succ _
    | some check => exact removed _
  | deleteAll =>
    rw [onSequence]
    split <;> simp
  | getByCheck checkFunc =>
    cases checkFunc with
    | none => exact Nat.le_succ _
    | some check => exact Nat.le_succ _
  | assign node clear handle data =>
    rw [onSequence, List.length_map]
    omega
  | size => exact Nat.le_succ _
  | getByHandle handle => exact Nat.le_succ _
  | getByPos pos => exact Nat.le_succ _
  | listEnd => exact Nat.le_succ _

theorem Op.onSequence_short (op : Op) (short : xs.length < 2 ^ 32) : op.onSequence len32 xs = op.onSequence List.length xs := by
  have same : len32 xs = xs.length := Nat.mod_eq_of_lt short
  cases op with
  | deletePos pos => rw [onSequence, onSequence, same]
  | size => rw [onSequence, onSequence, same]
  | getByPos pos => rw [onSequence, onSequence, same]
  | deleteCheck checkFunc => cases checkFunc <;> rfl
  | getByCheck checkFunc => cases checkFunc <;> rfl
  | _ => rfl

/-- Fewer than `2^32` calls never see the difference. -/
theorem onSequence_short (ops : List Op) (short : xs.length + ops.length < 2 ^ 32) :
    onSequence len32 ops xs = onSequence List.length ops xs := by
  induction ops generalizing xs with
  | nil => rfl
  | cons op ops ih =>
    have longer := op.length_le List.length xs
    rw [List.length_cons] at short
    rw [onSequence, onSequence, op.onSequence_short (by omega)]
    rw [ih (by omega)]

/-! ## Refused calls -/

/-- A call that returns an error or null changes nothing. -/
theorem Op.refused (op : Op) (len : List Elem → Nat) (xs : List Elem)
    (refused : (op.onSequence len xs).ret = .code .badArgs ∨ (op.onSequence len xs).ret = .node 0) :
    (op.onSequence len xs).list = xs ∧ (op.onSequence len xs).removed = [] := by
  have first (p : Elem → Bool) (refused : (removeFirst p xs).ret = .code .badArgs ∨ (removeFirst p xs).ret = .node 0) :
      (removeFirst p xs).list = xs ∧ (removeFirst p xs).removed = [] := by
    unfold removeFirst at refused ⊢
    split at refused
    · exact ⟨rfl, rfl⟩
    · simp at refused
  cases op with
  | add handle sizeOfNode malloc =>
    rw [onSequence] at refused ⊢
    cases outcome : malloc.pick fun a => decide (a ∈ xs.map Prod.fst) with
    | none => exact ⟨rfl, rfl⟩
    | some a =>
      rw [outcome] at refused
      exact absurd (by simpa using refused) (malloc.fresh _ _ outcome).1
  | deleteNode node => exact first _ refused
  | deleteHandle handle =>
    rw [onSequence] at refused ⊢
    by_cases invalid : handle = 0
    · rw [if_pos invalid]
      exact ⟨rfl, rfl⟩
    · rw [if_neg invalid] at refused ⊢
      exact first _ refused
  | deletePos pos =>
    rw [onSequence] at refused ⊢
    cases found : if pos.toNat < len xs then xs[pos.toNat]? else none with
    | none => exact ⟨rfl, rfl⟩
    | some e =>
      rw [found] at refused
      simp at refused
  | deleteCheck checkFunc =>
    cases checkFunc with
    | none => exact ⟨rfl, rfl⟩
    | some check => exact first _ refused
  | deleteAll =>
    rw [onSequence] at refused ⊢
    by_cases empty : xs = []
    · rw [if_pos empty]
      exact ⟨rfl, rfl⟩
    · rw [if_neg empty] at refused
      simp at refused
  | getByCheck checkFunc => cases checkFunc <;> exact ⟨rfl, rfl⟩
  | assign node clear handle data => simp [onSequence] at refused
  | size => exact ⟨rfl, rfl⟩
  | getByHandle handle => exact ⟨rfl, rfl⟩
  | getByPos pos => exact ⟨rfl, rfl⟩
  | listEnd => exact ⟨rfl, rfl⟩

/-! ## The list is the sequence -/

/-- The call of a clear function, if it is one. -/
def Disposal.cleared : Disposal → Option (Nat × Nat)
  | .clear fn elem => some (fn, elem)
  | .free _ => none

theorem cleared_disposal (e : Elem) :
    (disposal onClear e).filterMap Disposal.cleared = if e.2.clear ≠ 0 then [(e.2.clear, e.1)] else [] := by
  unfold disposal
  by_cases clear : e.2.clear = 0
  · by_cases data : e.2.data = 0 <;> simp [clear, data, Disposal.cleared]
  · by_cases data : (onClear e.2.clear e.1 e.2).data = 0 <;> simp [clear, data, Disposal.cleared]

/-- The call returned an error or null. -/
def Refused (c : Call Op State Ret) : Prop := c.output = .code .badArgs ∨ c.output = .node 0

/-- The call left the elements as they were, and disposed of none. -/
def Idle (c : Call Op State Ret) : Prop :=
  ∃ xs, Chain c.before.heap c.before.list xs ∧ Chain c.after.heap c.after.list xs ∧ c.after.log = c.before.log

/-- **A refused call changes nothing**, in any sequence of calls. -/
theorem refused_idle {ops : List Op} {calls : List (Call Op State Ret)} (run : exec (step onClear) ops State.init = .ok (calls, s))
    {c : Call Op State Ret} (member : c ∈ calls) (refused : Refused c) : Idle c := by
  have start : ∃ xs, Refines State.init xs := ⟨[], rfl, rfl, fun _ => rfl⟩
  have keep : ∀ op t t' ret, (∃ xs, Refines t xs) → step onClear op t = .ok (t', ret) → ∃ xs, Refines t' xs := by
    rintro op t t' ret ⟨xs, r⟩ answered
    obtain ⟨u, first, follows⟩ := step_follows onClear r op
    rw [answered] at first
    cases first
    exact ⟨_, follows.refines⟩
  obtain ⟨⟨xs, r⟩, answered⟩ := (exec_run run).1.invariant_before start keep member
  obtain ⟨u, first, follows⟩ := step_follows onClear r c.input
  rw [answered] at first
  obtain ⟨after, output⟩ := Prod.mk.inj (Except.ok.inj first)
  obtain ⟨list, removed⟩ := c.input.refused len32 xs (output ▸ refused)
  refine ⟨xs, r.chain, ?_, ?_⟩
  · rw [after, ← list]
    exact follows.refines.chain
  · rw [after, follows.log, removed]
    exact List.append_nil _

/-- After `ops` on an empty list: the calls returned what they return on the sequence, and
those refused changed nothing; the chain is the sequence, without a cycle and with no node
lost; the clear functions that ran are those of the removed elements, each once. -/
def IsSequence (len : List Elem → Nat) (onClear : OnClear) (ops : List Op) : Prop :=
  ∃ calls s, exec (step onClear) ops State.init = .ok (calls, s) ∧
    calls.map Call.output = (onSequence len ops []).1 ∧ (∀ c ∈ calls, Refused c → Idle c) ∧
    Chain s.heap s.list (onSequence len ops []).2.1 ∧ ((onSequence len ops []).2.1.map Prod.fst).Nodup ∧
    (∀ a, (s.heap.cell a).isSome ↔ a ∈ (onSequence len ops []).2.1.map Prod.fst) ∧
    s.log.filterMap Disposal.cleared =
      (onSequence len ops []).2.2.flatMap fun e => if e.2.clear ≠ 0 then [(e.2.clear, e.1)] else []

theorem isSequence_len32 (ops : List Op) : IsSequence len32 onClear ops := by
  have start : Refines State.init [] := ⟨rfl, rfl, fun _ => rfl⟩
  obtain ⟨calls, s, run, outputs, refines, log⟩ := exec_follows onClear ops start
  refine ⟨calls, s, run, outputs, fun c member => refused_idle onClear run member, refines.chain, refines.chain.nodup, fun a => ?_, ?_⟩
  · rw [refines.nodes a, decide_eq_true_iff]
  · rw [log, show State.init.log = [] from rfl, List.nil_append, List.filterMap_flatMap]
    simp only [cleared_disposal]

/-- **The list is the sequence**, with lengths as 32 bits keep them. -/
theorem list_isSequence (ops : List Op) :
    IsSequence len32 onClear ops ∧ (ops.length < 2 ^ 32 → IsSequence List.length onClear ops) := by
  have all := isSequence_len32 onClear ops
  refine ⟨all, fun short => ?_⟩
  have same : onSequence len32 ops [] = onSequence List.length ops [] := onSequence_short ops (by simpa using short)
  unfold IsSequence at all ⊢
  rw [← same]
  exact all

/-! ## A list of `2^32` elements -/

/-- `n` additions, at the addresses `1` to `n`. -/
def adds (n : Nat) : List Op := (List.range n).map fun i => .add 0 ⟨sizeofNode, Nat.le_refl _⟩ (Malloc.only (i + 1))

theorem onSequence_append (len : List Elem → Nat) (ops ops' : List Op) (xs : List Elem) :
    (onSequence len (ops ++ ops') xs).1 = (onSequence len ops xs).1 ++ (onSequence len ops' (onSequence len ops xs).2.1).1 ∧
      (onSequence len (ops ++ ops') xs).2.1 = (onSequence len ops' (onSequence len ops xs).2.1).2.1 := by
  induction ops generalizing xs with
  | nil => exact ⟨rfl, rfl⟩
  | cons op ops ih =>
    obtain ⟨rets, list⟩ := ih (op.onSequence len xs).list
    exact ⟨congrArg (List.cons _) rets, list⟩

theorem adds_list (len : List Elem → Nat) (n : Nat) :
    (onSequence len (adds n) []).2.1.map Prod.fst = (List.range n).map (· + 1) := by
  induction n with
  | zero => rfl
  | succ n ih =>
    have unused : n + 1 ∉ (onSequence len (adds n) []).2.1.map Prod.fst := by
      rw [ih]
      simp
    rw [adds, List.range_succ, List.map_append, (onSequence_append ..).2, List.map_append]
    show List.map Prod.fst (Op.onSequence len (onSequence len (adds n) []).2.1 (Op.add 0 _ (Malloc.only (n + 1)))).list = _
    rw [Op.onSequence, show (Malloc.only (n + 1)).pick (fun a => decide (a ∈ (onSequence len (adds n) []).2.1.map Prod.fst)) = some (n + 1)
      from if_pos ⟨Nat.succ_ne_zero n, decide_eq_false unused⟩]
    rw [List.map_append, ih]
    rfl

theorem adds_size (len : List Elem → Nat) (n : Nat) :
    (onSequence len (adds n ++ [.size]) []).1.getLast? = some (.size (len (onSequence len (adds n) []).2.1)) := by
  rw [(onSequence_append ..).1]
  exact List.getLast?_concat ..

/-- The size of a list of `2^32` elements is `0`. -/
theorem size_not_isSequence : ¬ IsSequence List.length (fun _ _ x => x) (adds (2 ^ 32) ++ [.size]) := by
  rintro ⟨calls, s, run, outputs, -⟩
  obtain ⟨calls', s', run', outputs', -⟩ := isSequence_len32 (fun _ _ x => x) (adds (2 ^ 32) ++ [.size])
  rw [run] at run'
  cases run'
  have last := congrArg List.getLast? (outputs.symm.trans outputs')
  have length : (onSequence List.length (adds (2 ^ 32)) []).2.1.length = 2 ^ 32 := by
    have := congrArg List.length (adds_list List.length (2 ^ 32))
    simpa using this
  have wrapped : len32 (onSequence len32 (adds (2 ^ 32)) []).2.1 = 0 := by
    have := congrArg List.length (adds_list len32 (2 ^ 32))
    simp only [List.length_map, List.length_range] at this
    rw [len32, this, Nat.mod_self]
  rw [adds_size, adds_size, length, wrapped] at last
  cases last

end ArtikSdk.ArtikList
