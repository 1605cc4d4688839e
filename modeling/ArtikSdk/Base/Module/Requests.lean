import ArtikSdk.Base.Module.Registry

/-!
# Requests and releases

The list and the registry hold the same entries in the same order; nodes of one name hold the
same, and nodes of two names differ in the first word of their tables. A call that fits answers
for the registry and leaves the two related; a call that fails leaves the state as it was.
-/

namespace ArtikSdk.Module
open Lib

/-- What a node holds. -/
def entry (s : State) (node : Nat) : Option Entry :=
  (s.text (s.info node).moduleName).map fun name => ⟨name, (s.info node).dlHandle, (s.info node).dlSymbol⟩

/-- The node of the element holds the entry. -/
def Holds (s : State) (x : ArtikList.Elem) (e : Entry) : Prop := entry s x.1 = some e

structure Represents (s : State) (xs : List ArtikList.Elem) (r : Registry) : Prop where
  refines : ArtikList.Refines s.requestedNode xs
  holds : List.Forall₂ (Holds s) xs r
  texts : ∀ x ∈ xs, (s.info x.1).moduleName ≠ 0
  shared : ∀ x ∈ xs, ∀ y ∈ xs, s.text (s.info x.1).moduleName = s.text (s.info y.1).moduleName → s.info x.1 = s.info y.1
  known : ∀ e ∈ r, ∃ m ∈ artikApiModules, m.name = e.name
  usable : ∀ e ∈ r, e.handle ≠ 0 ∧ e.ops.address ≠ 0
  apart : ∀ e ∈ r, ∀ e' ∈ r, e.ops.word = e'.ops.word → e = e'

theorem Represents.init : Represents State.init [] [] where
  refines := ⟨rfl, rfl, fun _ => rfl⟩
  holds := .nil
  texts x member := by cases member
  shared x member := by cases member
  known e member := by cases member
  usable e member := by cases member
  apart e member := by cases member

variable {s s' : State} {x y : ArtikList.Elem} {xs : List ArtikList.Elem} {r : Registry} {e e' : Entry} {name : List Char}

theorem Holds.iff : Holds s x e ↔
    s.text (s.info x.1).moduleName = some e.name ∧ (s.info x.1).dlHandle = e.handle ∧ (s.info x.1).dlSymbol = e.ops := by
  obtain ⟨name, handle, ops⟩ := e
  unfold Holds entry
  cases s.text (s.info x.1).moduleName with
  | none => simp
  | some n => simp

/-- Two requests for one name hold the same. -/
theorem Represents.same_name (here : Represents s xs r) (left : e ∈ r) (right : e' ∈ r) (same : e.name = e'.name) : e = e' := by
  obtain ⟨x, inside, holds⟩ := related_left here.holds left
  obtain ⟨y, inside', holds'⟩ := related_left here.holds right
  have one := here.shared x inside y inside' (by rw [(Holds.iff.mp holds).1, (Holds.iff.mp holds').1, same])
  unfold Holds entry at holds holds'
  rw [one, holds'] at holds
  exact (Option.some.inj holds).symm

theorem Represents.empty (here : Represents s [] r) : r = [] := by
  cases here.holds
  rfl

/-! ## Looking up -/

theorem getByCheck_eq (refines : ArtikList.Refines s.requestedNode xs) (c : Comparison)
    (readable : ∀ x ∈ xs, c.readable (s.info x.1) = true) :
    getByCheck c s = .ok (ArtikList.addrOf (xs.find? fun x => c.equal (s.info x.1))) := by
  have stop : xs.find? (fun x => c.stop s.info x.1 x.2) = xs.find? fun x => c.equal (s.info x.1) :=
    List.find?_congr fun x member => by rw [Comparison.stop, readable x member, Bool.not_true, Bool.false_or]
  rw [getByCheck, ArtikList.getByCheck_eq refines, stop]
  dsimp only
  rw [if_neg]
  rintro ⟨some, unreadable⟩
  cases found : xs.find? fun x => c.equal (s.info x.1) with
  | none =>
    rw [found] at some
    exact some rfl
  | some x =>
    rw [found] at unreadable
    have read := readable x (List.mem_of_find?_eq_some found)
    rw [ArtikList.addrOf, Option.map_some, Option.getD_some, read] at unreadable
    cases unreadable

theorem name_readable (here : Represents s xs r) (name : List Char) :
    ∀ x ∈ xs, (artikCompareModuleName s.text name).readable (s.info x.1) = true := by
  intro x member
  obtain ⟨e, -, holds⟩ := related_right here.holds member
  show (s.text (s.info x.1).moduleName).isSome = true
  rw [(Holds.iff.mp holds).1]
  rfl

/-- By a name of the table, the first request of exactly that name is found. -/
theorem name_found (here : Represents s xs r) {m : ApiModule} (listed : m ∈ artikApiModules) :
    xs.find? (fun x => (artikCompareModuleName s.text m.name).equal (s.info x.1)) = none ∧ r.find? (fun e => e.name = m.name) = none ∨
      ∃ x e, xs.find? (fun x => (artikCompareModuleName s.text m.name).equal (s.info x.1)) = some x ∧
        r.find? (fun e => e.name = m.name) = some e ∧ Holds s x e := by
  refine related_find here.holds fun x _ e member holds => ?_
  obtain ⟨m', listed', named⟩ := here.known e member
  show m.name.isPrefixOf ((s.text (s.info x.1).moduleName).getD []) = _
  rw [(Holds.iff.mp holds).1, Option.getD_some, ← named, Bool.eq_iff_iff, decide_eq_true_eq]
  constructor
  · intro pre
    exact (names_start m listed m' listed' pre).symm
  · intro same
    rw [same]
    exact List.isPrefixOf_iff_prefix.mpr (List.prefix_refl _)

variable {t : Ops}

theorem ops_readable (here : Represents s xs r) (t : Ops) : ∀ x ∈ xs, (artikCompareModuleOps (some t)).readable (s.info x.1) = true := by
  intro x member
  obtain ⟨e, inside, holds⟩ := related_right here.holds member
  show ((s.info x.1).dlSymbol.address ≠ 0 && true) = true
  rw [(Holds.iff.mp holds).2.2, Bool.and_true, decide_eq_true_eq]
  exact (here.usable e inside).2

/-- In words that name one table each, comparing the first word compares the tables. -/
theorem ops_same (fits : ∀ e ∈ r, e.ops.word = t.word → e.ops = t) (member : e ∈ r) (holds : Holds s x e) :
    (artikCompareModuleOps (some t)).equal (s.info x.1) = decide (some e.ops = some t) := by
  show decide ((s.info x.1).dlSymbol.word = t.word) = _
  rw [(Holds.iff.mp holds).2.2, decide_eq_decide, Option.some_inj]
  constructor
  · exact fits e member
  · rintro rfl
    rfl

/-! ## A new node -/

/-- The node at `b` gets what belongs to its name, and the strings that are in use stay. -/
theorem Represents.enter {list : ArtikList.State} {b : Nat} {f : ArtikList.Fields} {i : Info} {text : Nat → Option (List Char)}
    {info : Nat → Info} (here : Represents s xs r) (refines : ArtikList.Refines list (xs ++ [(b, f)])) (new : info b = i)
    (old : ∀ a, a ≠ b → info a = s.info a) (kept : ∀ p n, s.text p = some n → text p = some n) (named : text i.moduleName = some name)
    (nonnull : i.moduleName ≠ 0) (listed : ∃ m ∈ artikApiModules, m.name = name) (usable : i.dlHandle ≠ 0 ∧ i.dlSymbol.address ≠ 0)
    (shared : ∀ x ∈ xs, s.text (s.info x.1).moduleName = some name → s.info x.1 = i)
    (apart : ∀ e ∈ r, e.ops.word = i.dlSymbol.word → e = ⟨name, i.dlHandle, i.dlSymbol⟩) :
    Represents ⟨list, info, text⟩ (xs ++ [(b, f)]) (r ++ [⟨name, i.dlHandle, i.dlSymbol⟩]) := by
  have fresh : ∀ x ∈ xs, x.1 ≠ b := by
    intro x member same
    have once := refines.chain.nodup
    rw [List.map_append, List.nodup_append] at once
    exact once.2.2 x.1 (List.mem_map_of_mem member) b (List.mem_singleton_self b) same
  have before : ∀ x ∈ xs, info x.1 = s.info x.1 := fun x member => old x.1 (fresh x member)
  have text_before : ∀ x ∈ xs, ∃ n, s.text (s.info x.1).moduleName = some n ∧ text (info x.1).moduleName = some n := by
    intro x member
    obtain ⟨e, -, holds⟩ := related_right here.holds member
    have mine := (Holds.iff.mp holds).1
    exact ⟨e.name, mine, by rw [before x member, kept _ _ mine]⟩
  have holds : ∀ x ∈ xs, ∀ e, Holds s x e → Holds ⟨list, info, text⟩ x e := by
    intro x member e held
    obtain ⟨mine, handle, ops⟩ := Holds.iff.mp held
    refine Holds.iff.mpr ⟨?_, ?_, ?_⟩
    · show text (info x.1).moduleName = _
      rw [before x member, kept _ _ mine]
    · show (info x.1).dlHandle = _
      rw [before x member, handle]
    · show (info x.1).dlSymbol = _
      rw [before x member, ops]
  refine ⟨refines, ?_, ?_, ?_, ?_, ?_, ?_⟩
  · refine List.rel_append (R := Holds ⟨list, info, text⟩) ?_ (.cons ?_ .nil)
    · exact related_mono here.holds holds
    · refine Holds.iff.mpr ⟨?_, ?_, ?_⟩
      · show text (info b).moduleName = some name
        rw [new, named]
      · show (info b).dlHandle = i.dlHandle
        rw [new]
      · show (info b).dlSymbol = i.dlSymbol
        rw [new]
  · rw [List.forall_mem_append, List.forall_mem_singleton]
    refine ⟨fun x member => ?_, ?_⟩
    · show (info x.1).moduleName ≠ 0
      rw [before x member]
      exact here.texts x member
    · show (info b).moduleName ≠ 0
      rw [new]
      exact nonnull
  · refine pairs_concat (fun x y sym same => (sym same.symm).symm) (fun _ => rfl) ?_ ?_
    · intro x left y right same
      obtain ⟨n, mine, mine'⟩ := text_before x left
      obtain ⟨n', yours, yours'⟩ := text_before y right
      change text (info x.1).moduleName = text (info y.1).moduleName at same
      show info x.1 = info y.1
      rw [mine', yours'] at same
      rw [before x left, before y right]
      exact here.shared x left y right (by rw [mine, yours, same])
    · intro x left same
      obtain ⟨n, mine, mine'⟩ := text_before x left
      change text (info x.1).moduleName = text (info b).moduleName at same
      show info x.1 = info b
      rw [mine', new, named] at same
      rw [before x left, new]
      exact shared x left (mine.trans same)
  · rw [List.forall_mem_append, List.forall_mem_singleton]
    exact ⟨here.known, listed⟩
  · rw [List.forall_mem_append, List.forall_mem_singleton]
    exact ⟨here.usable, usable⟩
  · exact pairs_concat (fun x y sym same => (sym same.symm).symm) (fun _ => rfl) here.apart apart

/-! ## Requests -/

/-- The `malloc` of a node fails: the list is as it was. -/
theorem add_refused (refines : ArtikList.Refines s.requestedNode xs) {malloc : Malloc}
    (refused : (malloc.pick fun a => (s.requestedNode.heap.cell a).isSome) = none) :
    ArtikList.artikListAdd 0 moduleNode malloc s.requestedNode = .ok (0, s.requestedNode) := by
  rw [ArtikList.artikListAdd, Heap.last_chain refines.chain (Nat.le_of_eq refines.live.symm)]
  simp only [bind, Except.bind, refused]
  by_cases empty : xs = []
  · rw [if_neg (not_not.2 ((lastAddr_eq_zero refines.chain).mpr empty))]
    rfl
  · rw [if_pos (mt (lastAddr_eq_zero refines.chain).mp empty), Option.getD_none, Chain.setNext_last refines.chain empty]
    rfl

theorem add_granted (refines : ArtikList.Refines s.requestedNode xs) {malloc : Malloc} {b : Nat}
    (granted : (malloc.pick fun a => (s.requestedNode.heap.cell a).isSome) = some b) :
    ∃ list f, ArtikList.artikListAdd 0 moduleNode malloc s.requestedNode = .ok (b, list) ∧ b ≠ 0 ∧
      ArtikList.Refines list (xs ++ [(b, f)]) := by
  obtain ⟨list, a, added, ⟨-, refused, -⟩ | ⟨nonnull, given, -, refines⟩⟩ := ArtikList.add_cases refines moduleNode malloc
  · rw [granted] at refused
    cases refused
  · rw [granted] at given
    cases given
    exact ⟨list, _, added, nonnull, refines⟩

/-- What a call that fits does: it answers for the registry, leaves the two related, and when
it fails it leaves everything as it was. -/
def Served (v : Version) (s : State) (r : Registry) (input : Input) : Prop :=
  ∃ s' o, step v input s = .ok (s', o) ∧ Answers v r input o ∧ (∃ xs', Represents s' xs' (observe r input o)) ∧
    (o.failed = true → s' = s)

theorem request_unknown (v : Version) (here : Represents s xs r) (w : World)
    (unknown : artikApiModules.find? (fun m => m.name = name) = none) : Served v s r (.request (some name) w) := by
  have absent : r.find? (fun e => e.name = name) = none := by
    refine List.find?_eq_none.mpr fun e member same => ?_
    obtain ⟨m, listed, named⟩ := here.known e member
    have other := List.find?_eq_none.mp unknown m listed
    simp only [decide_eq_true_eq] at same other
    exact other (named.trans same)
  have seen : observe r (.request (some name) w) ⟨.pointer .null, []⟩ = r := by simp only [observe, absent]
  refine ⟨s, ⟨.pointer .null, []⟩, ?_, ?_, ⟨xs, ?_⟩, fun _ => rfl⟩
  · rw [step, osRequestApiModule]
    dsimp only
    rw [table_find, unknown]
  · rw [Answers, unknown]
  · rw [seen]
    exact here

/-- The list's `malloc` fails. -/
theorem request_refused (v : Version) (here : Represents s xs r) (w : World) {m : ApiModule}
    (first : artikApiModules.find? (fun m' => m'.name = m.name) = some m)
    (refused : (w.node.pick fun a => (s.requestedNode.heap.cell a).isSome) = none) : Served v s r (.request (some m.name) w) := by
  refine ⟨s, ⟨.invalidModule, []⟩, ?_, ?_, ⟨xs, here⟩, fun _ => rfl⟩
  · rw [step, osRequestApiModule]
    dsimp only
    rw [table_find, first]
    dsimp only
    rw [getByCheck_eq here.refines _ (name_readable here m.name)]
    dsimp only
    rw [add_refused here.refines refused]
    rfl
  · rw [Answers, first]
    exact .inl ⟨⟨_, refused⟩, rfl⟩

/-- The module is there already: the new node gets what the first one of its name holds. -/
theorem request_again (v : Version) (here : Represents s xs r) (w : World) {m : ApiModule} {b : Nat} (listed : m ∈ artikApiModules)
    (first : artikApiModules.find? (fun m' => m'.name = m.name) = some m)
    (granted : (w.node.pick fun a => (s.requestedNode.heap.cell a).isSome) = some b)
    (found : xs.find? (fun x => (artikCompareModuleName s.text m.name).equal (s.info x.1)) = some x)
    (there : r.find? (fun e => e.name = m.name) = some e) (holds : Holds s x e) : Served v s r (.request (some m.name) w) := by
  obtain ⟨list, f, added, nonnull, refines⟩ := add_granted here.refines granted
  have inside := List.mem_of_find?_eq_some found
  have member := List.mem_of_find?_eq_some there
  have named : e.name = m.name := by simpa using List.find?_some there
  have node : x.1 ≠ 0 := (Segment.cells here.refines.chain inside).1
  obtain ⟨text, handle, ops⟩ := Holds.iff.mp holds
  have usable := here.usable e member
  have whole : (⟨m.name, (s.info x.1).dlHandle, (s.info x.1).dlSymbol⟩ : Entry) = e := by rw [handle, ops, ← named]
  have seen : observe r (.request (some m.name) w) ⟨.pointer e.ops, []⟩ = r ++ [e] := by simp only [observe, there]
  have after : Represents ⟨list, Function.update (Function.update s.info b .zero) b (s.info x.1), s.text⟩ (xs ++ [(b, f)])
      (r ++ [⟨m.name, (s.info x.1).dlHandle, (s.info x.1).dlSymbol⟩]) := here.enter refines
    (Function.update_self ..) (fun a ne => by rw [Function.update_of_ne ne, Function.update_of_ne ne])
    (fun p n held => held) (named ▸ text) (here.texts x inside) ⟨m, listed, rfl⟩
    ⟨by rw [handle]; exact usable.1, by rw [ops]; exact usable.2⟩
    (fun y among same => here.shared y among x inside (by rw [same, text, named]))
    (fun e' other same => by rw [whole]; exact here.apart e' other e member (by rw [same, ops]))
  rw [whole] at after
  refine ⟨⟨list, Function.update (Function.update s.info b .zero) b (s.info x.1), s.text⟩, ⟨.pointer e.ops, []⟩, ?_, ?_,
    ⟨_, seen ▸ after⟩, fun failed => ?_⟩
  · rw [step, osRequestApiModule]
    dsimp only
    rw [table_find, first]
    dsimp only
    rw [getByCheck_eq here.refines _ (name_readable here m.name), found]
    dsimp only
    rw [added]
    dsimp only
    rw [ArtikList.addrOf, Option.map_some, Option.getD_some, if_neg nonnull, if_pos node,
      if_pos (by rw [handle]; exact usable.1), finishRequest, if_neg (here.texts x inside), ← ops]
  · rw [Answers, first]
    dsimp only
    rw [there]
    exact .inr rfl
  · have null : e.ops = .null := by simpa [Output.failed] using failed
    rw [null] at usable
    exact absurd rfl usable.2

/-- The first request for a module: its library is opened. -/
theorem request_opened (v : Version) (here : Represents s xs r) (w : World) {m : ApiModule} {b : Nat} (listed : m ∈ artikApiModules)
    (first : artikApiModules.find? (fun m' => m'.name = m.name) = some m)
    (granted : (w.node.pick fun a => (s.requestedNode.heap.cell a).isSome) = some b)
    (missing : xs.find? (fun x => (artikCompareModuleName s.text m.name).equal (s.info x.1)) = none)
    (absent : r.find? (fun e => e.name = m.name) = none) (opens : Opens v s r m w) : Served v s r (.request (some m.name) w) := by
  obtain ⟨list, f, added, nonnull, refines⟩ := add_granted here.refines granted
  obtain ⟨opened, stored, ops, symbol, address, apart⟩ := opens
  obtain ⟨a, copied⟩ := Option.isSome_iff_exists.mp stored
  obtain ⟨pointer, unused⟩ := w.moduleName.fresh _ _ copied
  have other : ∀ y ∈ xs, s.text (s.info y.1).moduleName ≠ some m.name := by
    intro y among same
    obtain ⟨e, member, holds⟩ := related_right here.holds among
    rw [(Holds.iff.mp holds).1] at same
    exact (by simpa using List.find?_eq_none.mp absent e member : e.name ≠ m.name) (Option.some.inj same)
  have after : Represents
      ⟨list, Function.update (Function.update s.info b .zero) b ⟨a, w.dlopen (pathString v m.object), ops⟩,
        Function.update s.text a (some m.name)⟩ (xs ++ [(b, f)]) (r ++ [⟨m.name, w.dlopen (pathString v m.object), ops⟩]) := by
    refine here.enter (i := ⟨a, w.dlopen (pathString v m.object), ops⟩) refines (Function.update_self ..)
      (fun c ne => by rw [Function.update_of_ne ne, Function.update_of_ne ne]) ?_ (Function.update_self ..) pointer
      ⟨m, listed, rfl⟩ ⟨opened, address⟩ (fun y among same => absurd same (other y among))
      (fun e member same => absurd same (apart e member))
    intro p n held
    rw [Function.update_of_ne]
    · exact held
    · rintro rfl
      rw [held] at unused
      cases unused
  have seen : observe r (.request (some m.name) w) ⟨.pointer ops, [.dlopen (w.dlopen (pathString v m.object))]⟩ =
      r ++ [⟨m.name, w.dlopen (pathString v m.object), ops⟩] := by simp only [observe, absent]
  refine ⟨_, ⟨.pointer ops, [.dlopen (w.dlopen (pathString v m.object))]⟩, ?_, ?_, ⟨_, seen ▸ after⟩, fun failed => ?_⟩
  · rw [step, osRequestApiModule]
    dsimp only
    rw [table_find, first]
    dsimp only
    rw [getByCheck_eq here.refines _ (name_readable here m.name), missing]
    dsimp only
    rw [added]
    dsimp only
    have null : ¬ Info.zero.dlHandle ≠ 0 := not_not.mpr rfl
    rw [ArtikList.addrOf, Option.map_none, Option.getD_none, if_neg nonnull, if_neg (not_not.mpr rfl), if_neg null, openLibrary,
      if_neg opened, symbol]
    dsimp only
    rw [finishRequest, if_pos (show Info.zero.moduleName = 0 from rfl), copied]
  · rw [Answers, first]
    dsimp only
    rw [absent]
    exact .inr ⟨ops, symbol, rfl⟩
  · have null : ops = .null := by simpa [Output.failed] using failed
    rw [null] at address
    exact absurd rfl address

theorem request_served (v : Version) (here : Represents s xs r) (asked : Option (List Char)) (w : World)
    (fits : Fits v s r (.request asked w)) : Served v s r (.request asked w) := by
  cases asked with
  | none => exact ⟨s, ⟨.invalidModule, []⟩, rfl, rfl, ⟨xs, here⟩, fun _ => rfl⟩
  | some name =>
    cases first : artikApiModules.find? fun m => m.name = name with
    | none => exact request_unknown v here w first
    | some m =>
      have listed := List.mem_of_find?_eq_some first
      obtain rfl : m.name = name := by simpa using List.find?_some first
      cases outcome : w.node.pick fun a => (s.requestedNode.heap.cell a).isSome with
      | none => exact request_refused v here w first outcome
      | some b =>
        obtain ⟨missing, absent⟩ | ⟨x, e, found, there, holds⟩ := name_found here listed
        · have none_named : ∀ e ∈ r, e.name ≠ m.name := fun e member => by simpa using List.find?_eq_none.mp absent e member
          exact request_opened v here w listed first outcome missing absent (fits m listed rfl none_named (by rw [outcome]; rfl))
        · exact request_again v here w listed first outcome found there holds

/-! ## Releases -/

/-- A node leaves the list, and with the last of its name the string. -/
theorem Represents.leave {list : ArtikList.State} {xs' : List ArtikList.Elem} {r' : Registry} {text : Nat → Option (List Char)}
    (here : Represents s xs r) (refines : ArtikList.Refines list xs') (holds : List.Forall₂ (Holds s) xs' r')
    (nodes : ∀ y ∈ xs', y ∈ xs) (entries : ∀ e ∈ r', e ∈ r)
    (kept : ∀ y ∈ xs', text (s.info y.1).moduleName = s.text (s.info y.1).moduleName) : Represents ⟨list, s.info, text⟩ xs' r' where
  refines := refines
  holds := related_mono holds fun y member e held => by
    obtain ⟨named, rest⟩ := Holds.iff.mp held
    exact Holds.iff.mpr ⟨(kept y member).trans named, rest⟩
  texts y member := here.texts y (nodes y member)
  shared y left z right same := by
    apply here.shared y (nodes y left) z (nodes z right)
    rw [← kept y left, ← kept z right]
    exact same
  known e member := here.known e (entries e member)
  usable e member := here.usable e (entries e member)
  apart e left e' right := here.apart e (entries e left) e' (entries e' right)

/-- The table is that of no module. -/
theorem release_unknown (v : Version) (here : Represents s xs r) {target : Option Ops}
    (readable : ∀ x ∈ xs, (artikCompareModuleOps target).readable (s.info x.1) = true)
    (missing : xs.find? (fun x => (artikCompareModuleOps target).equal (s.info x.1)) = none)
    (absent : r.find? (fun e => some e.ops = target) = none) : Served v s r (.release target) := by
  refine ⟨s, ⟨.code .badArgs, []⟩, ?_, ?_, ⟨xs, here⟩, fun _ => rfl⟩
  · rw [step, osReleaseApiModule, getByCheck_eq here.refines _ readable, missing]
    rfl
  · rw [Answers, absent]

/-- The node that is found is taken out of the list. -/
theorem release_removes (v : Version) (here : Represents s xs r)
    (found : xs.find? (fun x => (artikCompareModuleOps (some t)).equal (s.info x.1)) = some x) :
    ∃ list, ArtikList.Refines list (xs.eraseP fun x => (artikCompareModuleOps (some t)).stop s.info x.1 x.2) ∧
      step v (.release (some t)) s = closeUnused (some t) (s.info x.1) ⟨list, s.info, s.text⟩ := by
  have readable := ops_readable here t
  have node : x.1 ≠ 0 := (Segment.cells here.refines.chain (List.mem_of_find?_eq_some found)).1
  have first : xs.find? (fun x => (artikCompareModuleOps (some t)).stop s.info x.1 x.2) = some x := by
    rw [← found]
    exact List.find?_congr fun x member => by rw [Comparison.stop, readable x member, Bool.not_true, Bool.false_or]
  obtain ⟨list, ret, deleted, code, follows⟩ :=
    ArtikList.deleteCheck_follows noClear here.refines (some ((artikCompareModuleOps (some t)).stop s.info))
  rw [ArtikList.Op.onSequence, ArtikList.removeFirst, first] at code follows
  cases code
  refine ⟨list, follows.refines, ?_⟩
  rw [step, osReleaseApiModule, getByCheck_eq here.refines _ readable, found]
  dsimp only
  rw [ArtikList.addrOf, Option.map_some, Option.getD_some, if_neg node, deleted]
  dsimp only
  rw [if_neg (not_not.mpr rfl)]

theorem release_known (v : Version) (here : Represents s xs r) (fits : ∀ e ∈ r, e.ops.word = t.word → e.ops = t)
    (found : xs.find? (fun x => (artikCompareModuleOps (some t)).equal (s.info x.1)) = some x)
    (there : r.find? (fun e => some e.ops = some t) = some e) (holds : Holds s x e) : Served v s r (.release (some t)) := by
  have readable := ops_readable here t
  have same : ∀ x ∈ xs, ∀ e ∈ r, Holds s x e → (artikCompareModuleOps (some t)).equal (s.info x.1) = decide (some e.ops = some t) :=
    fun x _ e member held => ops_same fits member held
  have stop : ∀ x ∈ xs, ∀ e ∈ r, Holds s x e → (artikCompareModuleOps (some t)).stop s.info x.1 x.2 = decide (some e.ops = some t) := by
    intro x inside e member held
    rw [Comparison.stop, readable x inside, Bool.not_true, Bool.false_or, same x inside e member held]
  have inside := List.mem_of_find?_eq_some found
  have member := List.mem_of_find?_eq_some there
  have mine : e.ops = t := by simpa using List.find?_some there
  obtain ⟨text, handle, -⟩ := Holds.iff.mp holds
  obtain ⟨list, refines, removed⟩ := release_removes v here found
  have left := related_eraseP here.holds stop
  have nodes : ∀ y ∈ xs.eraseP fun x => (artikCompareModuleOps (some t)).stop s.info x.1 x.2, y ∈ xs :=
    fun y among => List.mem_of_mem_eraseP among
  have entries : ∀ e' ∈ r.eraseP fun e => some e.ops = some t, e' ∈ r := fun e' among => List.mem_of_mem_eraseP among
  have again := getByCheck_eq (s := ⟨list, s.info, s.text⟩) refines (artikCompareModuleOps (some t)) fun y among =>
    readable y (nodes y among)
  have after := related_find left fun y among e' among' held => same y (nodes y among) e' (entries e' among') held
  obtain ⟨missing, absent⟩ | ⟨y, e', found', there', holds'⟩ := after
  · -- the last node of the module
    have other : ∀ y ∈ xs.eraseP fun x => (artikCompareModuleOps (some t)).stop s.info x.1 x.2,
        (s.info y.1).moduleName ≠ (s.info x.1).moduleName := by
      intro y among name
      have one := here.shared y (nodes y among) x inside (by rw [name])
      have differs := List.find?_eq_none.mp missing y among
      rw [one, same x inside e member holds, mine] at differs
      simp at differs
    have last : ((r.eraseP fun e => some e.ops = some t).any fun e' => e'.name = e.name) = false := by
      refine List.any_eq_false.mpr fun e' among name => ?_
      have one := here.same_name (entries e' among) member (by simpa using name)
      exact (by simpa using List.find?_eq_none.mp absent e' among : e'.ops ≠ t) (by rw [one, mine])
    have freed : freeText (s.info x.1).moduleName ⟨list, s.info, s.text⟩ =
        .ok ⟨list, s.info, Function.update s.text (s.info x.1).moduleName none⟩ := by
      rw [freeText, if_neg (here.texts x inside), if_pos (by rw [text]; rfl)]
    refine ⟨⟨list, s.info, Function.update s.text (s.info x.1).moduleName none⟩, ⟨.code .ok, [.dlclose e.handle]⟩, ?_, ?_,
      ⟨_, here.leave refines left nodes entries fun y among => Function.update_of_ne (other y among) _ _⟩, fun failed => ?_⟩
    · rw [removed, closeUnused, again, missing, ← handle]
      dsimp only
      rw [if_pos (show ArtikList.addrOf none = 0 from rfl), freed]
    · rw [Answers, there]
      dsimp only
      rw [last]
      rfl
    · cases failed
  · have more : ((r.eraseP fun e => some e.ops = some t).any fun e' => e'.name = e.name) = true := by
      have among := List.mem_of_find?_eq_some there'
      have ops : e'.ops = t := by simpa using List.find?_some there'
      refine List.any_eq_true.mpr ⟨e', among, ?_⟩
      rw [here.apart e' (entries e' among) e member (by rw [ops, mine])]
      exact decide_eq_true rfl
    have node' : y.1 ≠ 0 := (Segment.cells refines.chain (List.mem_of_find?_eq_some found')).1
    refine ⟨⟨list, s.info, s.text⟩, ⟨.code .ok, []⟩, ?_, ?_, ⟨_, here.leave refines left nodes entries fun y among => rfl⟩,
      fun failed => ?_⟩
    · rw [removed, closeUnused, again, found']
      dsimp only
      rw [ArtikList.addrOf, Option.map_some, Option.getD_some, if_neg node']
    · rw [Answers, there]
      dsimp only
      rw [more]
      rfl
    · cases failed

theorem release_served (v : Version) (here : Represents s xs r) (target : Option Ops) (fits : Fits v s r (.release target)) :
    Served v s r (.release target) := by
  by_cases empty : r = []
  · subst empty
    cases here.holds
    exact release_unknown v here (fun x member => by cases member) rfl rfl
  · obtain ⟨t, rfl, same⟩ := fits empty
    obtain ⟨missing, absent⟩ | ⟨x, e, found, there, holds⟩ :=
      related_find here.holds fun x _ e member held => ops_same same member held
    · exact release_unknown v here (ops_readable here t) missing absent
    · exact release_known v here same found there holds

theorem step_served (v : Version) (here : Represents s xs r) (input : Input) (fits : Fits v s r input) : Served v s r input := by
  cases input with
  | request name w => exact request_served v here name w fits
  | release target => exact release_served v here target fits

end ArtikSdk.Module
