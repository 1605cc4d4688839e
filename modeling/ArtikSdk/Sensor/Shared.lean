import ArtikSdk.Base.ArtikSequence
import ArtikSdk.Lib.Traced

/-!
# Shared sensors

`request` and `release` of `HTS221.c` and of `K6DS3.c`, which are the same but for the bus and for a
check of the configuration. All users of one device share an element of the driver's list and the device
handle in it. An element lies behind the fields of its node, and is read and written only as long as the
node is allocated.
-/

namespace ArtikSdk.Sensor
open Lib

/-- A driver: whether it checks that there is a configuration. -/
structure Driver where
  checksConfig : Bool
deriving DecidableEq

def hts221 : Driver := ⟨false⟩

def k6ds3 : Driver := ⟨true⟩

/-- `struct hts221_config_s`, `struct k6ds3_config_s`: whether the bus module is set, the device of the
handle, what `check_exist` compares, and the count. -/
structure Config where
  bus : Bool
  hdl : Option Int
  id : Int
  numberOfInstances : Int
deriving DecidableEq

/-- An element after `artik_list_add`. -/
def Config.zero : Config := ⟨false, none, 0, 0⟩

/-- `sizeof(struct hts221_config_s)` -/
theorem configNode_holds : ArtikList.sizeofNode ≤ ArtikList.sizeofNode + 24 := Nat.le_add_right ..

def configNode : ArtikList.SizeOfNode := ⟨ArtikList.sizeofNode + 24, configNode_holds⟩

/-- The list of the driver, and what lies behind the fields of its nodes. -/
structure State where
  list : ArtikList.State
  config : Nat → Config

def State.init : State := ⟨.init, fun _ => .zero⟩

/-- A use of memory that is not allocated, one through a null pointer, or a count beyond `int`. -/
inductive Fault where
  | heap (f : Heap.Fault)
  | nullPointer
  | overflow
deriving DecidableEq

/-- A call on the bus that succeeds: of its module, or of a device. -/
inductive BusCall where
  | requestModule
  | request (id : Int)
  | release (hdl : Option Int)
  | releaseModule
deriving DecidableEq

/-- What a call returns, what it stores in `*handle`, and what it asks of the bus. -/
structure Output where
  result : ArtikError
  handle : Option Nat
  bus : List BusCall
deriving DecidableEq

/-- The answers of the device to `initialize` of the driver: to the question who it is, whether it is the right one, and to
two settings. -/
structure Probe where
  whoAmI : ArtikError
  known : Bool
  first : ArtikError
  second : ArtikError
deriving DecidableEq

/-- The outcomes in a request. -/
structure World where
  malloc : Malloc
  module : Bool
  request : ArtikError
  probe : Probe

/-! ## The elements -/

def State.read (elem : Nat) (s : State) : Except Fault Config :=
  match s.list.heap.cell elem with
  | none => .error (.heap .wild)
  | some _ => .ok (s.config elem)

def State.write (elem : Nat) (c : Config) (s : State) : Except Fault State :=
  match s.list.heap.cell elem with
  | none => .error (.heap .wild)
  | some _ => .ok { s with config := Function.update s.config elem c }

/-- `artik_list_get_by_check` with `check_exist`. -/
def State.getByCheck (id : Int) (s : State) : Except Fault Nat :=
  (ArtikList.artikListGetByCheck (some fun a _ => decide ((s.config a).id = id)) s.list).mapError .heap

def State.getByHandle (handle : Nat) (s : State) : Except Fault Nat :=
  (ArtikList.artikListGetByHandle handle s.list).mapError .heap

/-- `artik_list_delete_node`; no node has a clear function. -/
def State.deleteNode (elem : Nat) (s : State) : Except Fault State :=
  ((ArtikList.artikListDeleteNode (fun _ _ x => x) elem s.list).mapError .heap).map fun r => { s with list := r.2 }

/-- `artik_list_add`, and what `memset` leaves behind the fields. -/
def State.add (malloc : Malloc) (s : State) : Except Fault (Nat × State) :=
  ((ArtikList.artikListAdd 0 configNode malloc s.list).mapError .heap).map fun r =>
    (r.1, ⟨r.2, if r.1 = 0 then s.config else Function.update s.config r.1 .zero⟩)

/-! ## The drivers -/

/-- `initialize` -/
def initializeDevice (p : Probe) : ArtikError :=
  if p.whoAmI ≠ .ok then p.whoAmI
  else if ¬ p.known then .notSupported
  else if p.first ≠ .ok then p.first
  else p.second

/-- `release`, of which every user is told that it succeeds. -/
def release (handle : Nat) (s : State) : Except Fault (State × List BusCall) := do
  let elem ← s.getByHandle handle
  if elem = 0 then return (s, [])
  let c ← s.read elem
  let n := c.numberOfInstances - 1
  let s ← s.write elem { c with numberOfInstances := n }
  if n ≠ 0 then return (s, [])
  let s ← s.deleteNode elem
  -- the element is read once more
  let c ← s.read elem
  if c.bus then return (s, [.release c.hdl, .releaseModule])
  return (s, [])

/-- The first request for a device; a failing one releases the new element. -/
def requestFirst (id : Int) (w : World) (s : State) : Except Fault (State × Output) := do
  let (elem, s) ← s.add w.malloc
  if elem = 0 then return (s, ⟨.noMem, none, []⟩)
  let c : Config := { Config.zero with numberOfInstances := 1 }
  let s ← s.write elem c
  if w.module = false then
    let (s, bus) ← release elem s
    return (s, ⟨.invalidValue, none, bus⟩)
  let s ← s.write elem { c with bus := true }
  if w.request ≠ .ok then
    let (s, bus) ← release elem s
    return (s, ⟨w.request, some 0, .requestModule :: bus⟩)
  let s ← s.write elem ⟨true, some id, id, 1⟩
  if initializeDevice w.probe ≠ .ok then
    let (s, bus) ← release elem s
    return (s, ⟨initializeDevice w.probe, some 0, .requestModule :: .request id :: bus⟩)
  return (s, ⟨.ok, some elem, [.requestModule, .request id]⟩)

/-- `request`; a configuration is the number of its device. -/
def request (d : Driver) (config : Option Int) (w : World) (s : State) : Except Fault (State × Output) :=
  match config with
  | none => if d.checksConfig then .ok (s, ⟨.badArgs, none, []⟩) else .error .nullPointer
  | some id => do
    let elem ← s.getByCheck id
    if elem ≠ 0 then
      let c ← s.read elem
      if c.numberOfInstances + 1 < 2 ^ 31 then
        let s ← s.write elem { c with numberOfInstances := c.numberOfInstances + 1 }
        return (s, ⟨.ok, some elem, []⟩)
      else .error .overflow
    else requestFirst id w s

/-! ## The users -/

/-- What is shared for a device: the bus module, and the handle. -/
inductive Asset where
  | module
  | handle
deriving DecidableEq

inductive Op where
  | request (config : Option Int) (w : World)
  | release (handle : Nat)

/-- The driver, the handles that its users have, each with its device, and how often what is shared for a device
was asked for and released. -/
structure Registry where
  state : State
  users : List (Nat × Int)
  asked : Asset → Int → Nat
  released : Asset → Int → Nat

def Registry.init : Registry := ⟨.init, [], fun _ _ => 0, fun _ _ => 0⟩

/-- How many users a device has. -/
def Registry.usersOf (r : Registry) (id : Int) : Nat := r.users.countP fun u => u.2 = id

/-- How many users have the handle. -/
def Registry.holders (r : Registry) (handle : Nat) : Nat := r.users.countP fun u => u.1 = handle

/-- What a call on the bus asks for, for the device of the element. -/
def BusCall.asks (id : Int) : BusCall → Option (Asset × Int)
  | .requestModule => some (.module, id)
  | .request id => some (.handle, id)
  | _ => none

def BusCall.releases (id : Int) : BusCall → Option (Asset × Int)
  | .releaseModule => some (.module, id)
  | .release (some id) => some (.handle, id)
  | _ => none

/-- The calls of the bus for the device. -/
def Registry.record (id : Int) (bus : List BusCall) (r : Registry) : Registry :=
  { r with
    asked := fun a i => r.asked a i + bus.countP fun b => b.asks id = some (a, i)
    released := fun a i => r.released a i + bus.countP fun b => b.releases id = some (a, i) }

def Registry.step (d : Driver) (op : Op) (r : Registry) : Except Fault (Registry × Output) :=
  match op with
  | .request config w =>
    (request d config w r.state).map fun p =>
      let id := config.getD 0
      let users := if p.2.result = .ok then r.users ++ [(p.2.handle.getD 0, id)] else r.users
      ({ r with state := p.1, users := users }.record id p.2.bus, p.2)
  | .release handle =>
    (release handle r.state).map fun p =>
      let user := r.users.find? fun u => u.1 = handle
      let users := r.users.eraseP fun u => u.1 = handle
      ({ r with state := p.1, users := users }.record ((user.map Prod.snd).getD 0) p.2, ⟨.ok, none, p.2⟩)

/-- **The law of a call**: behind it, what is shared for a device is held once if the device has users and not at
all if it has none; and it is asked for at most once, and not while the device has users. -/
structure Keeps (c : Call Op Registry Output) : Prop where
  held : ∀ a id, c.after.asked a id = c.after.released a id + if c.after.usersOf id = 0 then 0 else 1
  once : ∀ a id, c.after.asked a id ≤ c.before.asked a id + if c.before.usersOf id = 0 then 1 else 0

/-- No call deletes an element: a first request succeeds, or has no memory for one, and no user is the last to
release. Besides there is a configuration, and fewer than 2^31 users. -/
def Fits (d : Driver) : Op → Registry → Prop
  | .request none _, _ => d.checksConfig = true
  | .request (some id) w, r =>
    if r.usersOf id = 0 then
      w.malloc.pick (fun a => (r.state.list.heap.cell a).isSome) = none ∨
        w.module = true ∧ w.request = .ok ∧ initializeDevice w.probe = .ok
    else r.usersOf id + 1 < 2 ^ 31
  | .release handle, r => r.holders handle ≠ 1

/-! ## Elements -/

open ArtikList (Elem Refines)

variable {d : Driver} {s s' : State} {r r' : Registry} {o : Output} {xs : List Elem} {x : Elem} {a : Nat} {c : Config} {id : Int} {w : World}
  {bus : List BusCall}

theorem cell_of_mem (refines : Refines s.list xs) (member : x ∈ xs) : ∃ cell, s.list.heap.cell x.1 = some cell :=
  Option.isSome_iff_exists.1 ((refines.nodes x.1).trans (decide_eq_true (List.mem_map_of_mem member)))

theorem read_mem (refines : Refines s.list xs) (member : x ∈ xs) : s.read x.1 = .ok (s.config x.1) := by
  obtain ⟨cell, there⟩ := cell_of_mem refines member
  rw [State.read, there]

theorem write_mem (refines : Refines s.list xs) (member : x ∈ xs) :
    s.write x.1 c = .ok { s with config := Function.update s.config x.1 c } := by
  obtain ⟨cell, there⟩ := cell_of_mem refines member
  rw [State.write, there]

/-- A node that is deleted is not read any more. -/
theorem deleteNode_read (refines : Refines s.list xs) (member : x ∈ xs) :
    ∃ s', s.deleteNode x.1 = .ok s' ∧ s'.read x.1 = .error (.heap .wild) := by
  obtain ⟨list, code, deleted, -, follows⟩ := ArtikList.deleteNode_follows (fun _ _ x => x) refines x.1
  refine ⟨{ s with list := list }, by rw [State.deleteNode, deleted]; rfl, ?_⟩
  have gone : list.heap.cell x.1 = none := by
    obtain ⟨y, front, back, earlier, here, whole, erased⟩ := List.exists_of_eraseP (p := fun e : Elem => decide (e.1 = x.1)) member (by simp)
    have found : ∃ e, xs.find? (fun e => e.1 = x.1) = some e := by
      rw [← Option.isSome_iff_exists, List.find?_isSome]
      exact ⟨x, member, by simp⟩
    obtain ⟨e, found⟩ := found
    have nodes := follows.refines.nodes x.1
    rw [ArtikList.removeFirst, found] at nodes
    dsimp only at nodes
    have once : (front ++ y :: back).map Prod.fst |>.Nodup := whole ▸ refines.chain.nodup
    have away : x.1 ∉ (front ++ back).map Prod.fst := of_decide_eq_true here ▸ ArtikList.not_mem_rest once
    rw [erased, decide_eq_false away] at nodes
    exact Option.isSome_eq_false_iff.1 nodes |> Option.isNone_iff_eq_none.1
  rw [State.read, gone]

/-- An element with one user less. -/
def Config.less (c : Config) : Config := { c with numberOfInstances := c.numberOfInstances - 1 }

/-- An element with one user more. -/
def Config.more (c : Config) : Config := { c with numberOfInstances := c.numberOfInstances + 1 }

/-- **The last release** reads the element that it has deleted. -/
theorem release_last (refines : Refines s.list xs) (member : x ∈ xs) (found : s.getByHandle a = .ok x.1) (nonnull : x.1 ≠ 0)
    (last : (s.config x.1).numberOfInstances = 1) : release a s = .error (.heap .wild) := by
  obtain ⟨s', deleted, read⟩ := deleteNode_read (s := { s with config := Function.update s.config x.1 (s.config x.1).less }) refines member
  rw [Config.less, last] at deleted
  rw [release, found]
  simp only [ok_bind, if_neg nonnull, read_mem refines member, last, write_mem refines member, Int.sub_self, ne_eq, not_true_eq_false,
    if_false]
  rw [Int.sub_self] at deleted
  rw [deleted, ok_bind, read]
  rfl

/-- Any other release counts down. -/
theorem release_more (refines : Refines s.list xs) (member : x ∈ xs) (found : s.getByHandle a = .ok x.1) (nonnull : x.1 ≠ 0)
    (more : (s.config x.1).numberOfInstances ≠ 1) :
    release a s = .ok ({ s with config := Function.update s.config x.1 (s.config x.1).less }, []) := by
  have left : (s.config x.1).numberOfInstances - 1 ≠ 0 := by omega
  rw [release, found]
  simp only [ok_bind, if_neg nonnull, read_mem refines member, write_mem refines member, if_pos left]
  rfl

theorem release_absent (absent : s.getByHandle a = .ok 0) : release a s = .ok (s, []) := by
  rw [release, absent]
  rfl

/-! ## What the driver knows -/

/-- The elements are those of the devices with users, each with its number of users. -/
structure Shares (r : Registry) (xs : List Elem) : Prop where
  refines : Refines r.state.list xs
  handles : ∀ x ∈ xs, x.2.handle = x.1
  shared : ∀ x ∈ xs, ∃ id, r.state.config x.1 = ⟨true, some id, id, r.holders x.1⟩ ∧ r.holders x.1 ≠ 0
  apart : ∀ x ∈ xs, ∀ y ∈ xs, (r.state.config x.1).id = (r.state.config y.1).id → x.1 = y.1
  known : ∀ u ∈ r.users, ∃ x ∈ xs, x.1 = u.1 ∧ (r.state.config x.1).id = u.2

/-- What is shared for a device is held while it has users. -/
def Registry.Held (r : Registry) : Prop := ∀ a id, r.asked a id = r.released a id + if r.usersOf id = 0 then 0 else 1

structure Registry.Inv (r : Registry) : Prop where
  shares : ∃ xs, Shares r xs
  held : r.Held

theorem Registry.Inv.init : Registry.init.Inv where
  shares := ⟨[], ⟨rfl, rfl, fun _ => rfl⟩, nofun, nofun, nofun, nofun⟩
  held _ _ := rfl

/-- The users of a device are those with the handle of its element. -/
theorem Shares.usersOf (shares : Shares r xs) (member : x ∈ xs) :
    r.usersOf (r.state.config x.1).id = r.holders x.1 := by
  refine List.countP_congr fun u user => ?_
  obtain ⟨y, inside, handle, device⟩ := shares.known u user
  rw [decide_eq_true_iff, decide_eq_true_iff, ← device, ← handle]
  constructor
  · exact fun same => shares.apart y inside x member same
  · intro same
    rw [same]

/-- A device without users has no element. -/
theorem Shares.usersOf_eq_zero_iff (shares : Shares r xs) : r.usersOf id = 0 ↔ ∀ x ∈ xs, (r.state.config x.1).id ≠ id := by
  constructor
  · rintro none x member rfl
    obtain ⟨id, -, some⟩ := shares.shared x member
    exact some ((shares.usersOf member).symm.trans none)
  · intro absent
    refine List.countP_eq_zero.2 fun u user same => ?_
    obtain ⟨x, member, -, device⟩ := shares.known u user
    exact absent x member (device.trans (of_decide_eq_true same))

/-- A device has an element just where it has users. -/
theorem Shares.getByCheck (shares : Shares r xs) (id : Int) :
    r.usersOf id = 0 ∧ r.state.getByCheck id = .ok 0 ∨
      r.usersOf id ≠ 0 ∧ ∃ x ∈ xs, (r.state.config x.1).id = id ∧ r.state.getByCheck id = .ok x.1 := by
  rw [State.getByCheck, ArtikList.getByCheck_eq shares.refines]
  cases found : xs.find? fun e => decide ((r.state.config e.1).id = id) with
  | none =>
    have absent := List.find?_eq_none.1 found
    exact Or.inl ⟨shares.usersOf_eq_zero_iff.2 fun x member same => absent x member (decide_eq_true same), rfl⟩
  | some x =>
    have member := List.mem_of_find?_eq_some found
    have device : (r.state.config x.1).id = id := by simpa using List.find?_some found
    exact Or.inr ⟨fun none => shares.usersOf_eq_zero_iff.1 none x member device, x, member, device, rfl⟩

/-- A handle that is listed is the address of its element. -/
theorem Shares.getByHandle (shares : Shares r xs) (handle : Nat) :
    r.state.getByHandle handle = .ok 0 ∧ (∀ u ∈ r.users, u.1 ≠ handle) ∨
      ∃ x ∈ xs, x.1 = handle ∧ x.1 ≠ 0 ∧ r.state.getByHandle handle = .ok x.1 := by
  rw [State.getByHandle, ArtikList.getByHandle_eq shares.refines]
  by_cases null : handle = 0
  · refine Or.inl ⟨by rw [if_pos null]; rfl, fun u user same => ?_⟩
    obtain ⟨x, member, here, -⟩ := shares.known u user
    exact (Segment.cells shares.refines.chain member).1 (here.trans (same.trans null))
  · rw [if_neg null]
    cases found : xs.find? fun e => decide (e.2.handle = handle) with
    | none =>
      have absent := List.find?_eq_none.1 found
      refine Or.inl ⟨rfl, fun u user same => ?_⟩
      obtain ⟨x, member, here, -⟩ := shares.known u user
      exact absent x member (decide_eq_true ((shares.handles x member).trans (here.trans same)))
    | some x =>
      have member := List.mem_of_find?_eq_some found
      have here : x.2.handle = handle := by simpa using List.find?_some found
      exact Or.inr ⟨x, member, (shares.handles x member).symm.trans here, (Segment.cells shares.refines.chain member).1, rfl⟩

/-! ## Requests -/

/-- A further user. -/
theorem request_more (shares : Shares r xs) (member : x ∈ xs) (found : r.state.getByCheck id = .ok x.1) :
    request d (some id) w r.state =
      if r.usersOf (r.state.config x.1).id + 1 < 2 ^ 31 then
        .ok ({ r.state with config := Function.update r.state.config x.1 (r.state.config x.1).more }, ⟨.ok, some x.1, []⟩)
      else .error .overflow := by
  obtain ⟨device, config, -⟩ := shares.shared x member
  have count : (r.state.config x.1).numberOfInstances = r.usersOf (r.state.config x.1).id := by
    rw [shares.usersOf member, config]
  have nonnull : x.1 ≠ 0 := (Segment.cells shares.refines.chain member).1
  have bound : (r.state.config x.1).numberOfInstances + 1 < 2 ^ 31 ↔ r.usersOf (r.state.config x.1).id + 1 < 2 ^ 31 := by
    rw [count]
    omega
  rw [request]
  dsimp only
  rw [found]
  simp only [ok_bind, if_pos nonnull, read_mem shares.refines member, bound]
  split
  · rw [write_mem shares.refines member]
    rfl
  · rfl

/-- The last element is found by its handle. -/
theorem getByHandle_last (refines : Refines s.list (xs ++ [x])) (handles : ∀ y ∈ xs, y.2.handle = y.1) (here : x.2.handle = x.1) :
    s.getByHandle x.1 = .ok x.1 := by
  have nonnull : x.1 ≠ 0 := (Segment.cells refines.chain (List.mem_append_right _ (List.mem_singleton_self x))).1
  have once := refines.chain.nodup
  rw [List.map_append, List.nodup_append] at once
  have others : xs.find? (fun e => decide (e.2.handle = x.1)) = none := by
    refine List.find?_eq_none.2 fun y member same => ?_
    exact once.2.2 y.1 (List.mem_map_of_mem member) x.1 (by simp) ((handles y member).symm.trans (of_decide_eq_true same))
  rw [State.getByHandle, ArtikList.getByHandle_eq refines, if_neg nonnull, List.find?_append, others, Option.none_or,
    List.find?_singleton, if_pos (decide_eq_true here)]
  rfl

/-- The first request: there is no memory, or all goes well, or it deletes the element that it has added. -/
theorem requestFirst_cases (shares : Shares r xs) (id : Int) (w : World) :
    w.malloc.pick (fun a => (r.state.list.heap.cell a).isSome) = none ∧
        (∃ list, requestFirst id w r.state = .ok (⟨list, r.state.config⟩, ⟨.noMem, none, []⟩) ∧ Refines list xs) ∨
      w.malloc.pick (fun a => (r.state.list.heap.cell a).isSome) ≠ none ∧
        if w.module = true ∧ w.request = .ok ∧ initializeDevice w.probe = .ok then
          ∃ list x, requestFirst id w r.state = .ok (⟨list, Function.update r.state.config x.1 ⟨true, some id, id, 1⟩⟩,
              ⟨.ok, some x.1, [.requestModule, .request id]⟩) ∧ x.2.handle = x.1 ∧ x.1 ∉ xs.map Prod.fst ∧ Refines list (xs ++ [x])
        else requestFirst id w r.state = .error (.heap .wild) := by
  obtain ⟨list, a, added, ⟨rfl, none, refines⟩ | ⟨nonnull, some, away, refines⟩⟩ := ArtikList.add_cases shares.refines configNode w.malloc
  · refine Or.inl ⟨none, list, ?_, refines⟩
    rw [requestFirst, State.add, added]
    rfl
  · refine Or.inr ⟨by rw [some]; nofun, ?_⟩
    obtain ⟨x, rfl, here, refines⟩ : ∃ x : Elem, x.1 = a ∧ x.2.handle = x.1 ∧ Refines list (xs ++ [x]) := ⟨_, rfl, rfl, refines⟩
    have last : x ∈ xs ++ [x] := List.mem_append_right _ (List.mem_singleton_self x)
    have written : ∀ config c, State.write x.1 c ⟨list, config⟩ = .ok ⟨list, Function.update config x.1 c⟩ := fun config c =>
      write_mem (s := ⟨list, config⟩) refines last
    -- in a failing request the new element has its only user
    have failing : ∀ config c, c.numberOfInstances = 1 → release x.1 ⟨list, Function.update config x.1 c⟩ = .error (.heap .wild) := by
      intro config c one
      refine release_last (s := ⟨list, Function.update config x.1 c⟩) refines last (getByHandle_last refines shares.handles here) nonnull ?_
      dsimp only
      rw [Function.update_self, one]
    rw [requestFirst, State.add, added]
    simp only [Except.mapError, Except.map, ok_bind, if_neg nonnull, written, Function.update_idem]
    cases module : w.module with
    | false =>
      rw [if_neg fun all => Bool.false_ne_true all.1, if_pos rfl, failing _ _ rfl]
      rfl
    | true =>
      have there : ¬ (true = false) := nofun
      by_cases requested : w.request = .ok
      · by_cases ready : initializeDevice w.probe = .ok
        · rw [if_pos ⟨rfl, requested, ready⟩, if_neg there, if_neg (not_not.2 requested), if_neg (not_not.2 ready)]
          exact ⟨list, x, rfl, here, away, refines⟩
        · rw [if_neg fun all => ready all.2.2, if_neg there, if_neg (not_not.2 requested), if_pos ready, failing _ _ rfl]
          rfl
      · rw [if_neg fun all => requested all.2.1, if_neg there, if_pos requested, failing _ _ rfl]
        rfl

/-! ## One call -/

/-- A user comes or goes, and the element has the new count. -/
theorem Shares.recount {n : Nat} (shares : Shares r xs) (member : x ∈ xs)
    (state : r'.state = { r.state with config := Function.update r.state.config x.1 { r.state.config x.1 with numberOfInstances := n } })
    (count : r'.holders x.1 = n) (some : n ≠ 0) (others : ∀ b ≠ x.1, r'.holders b = r.holders b)
    (users : ∀ u ∈ r'.users, u ∈ r.users ∨ u = (x.1, (r.state.config x.1).id)) :
    Shares r' xs ∧ ∀ id, r'.usersOf id = 0 ↔ r.usersOf id = 0 := by
  have ids : ∀ b, (r'.state.config b).id = (r.state.config b).id := by
    intro b
    rw [state]
    dsimp only
    rw [Function.update_apply]
    split
    · rename_i here
      rw [here]
    · rfl
  have shares' : Shares r' xs := by
    refine ⟨by rw [state]; exact shares.refines, shares.handles, ?_, ?_, ?_⟩
    · intro y inside
      obtain ⟨id, config, users⟩ := shares.shared y inside
      refine ⟨id, ?_⟩
      rw [state]
      dsimp only
      rw [Function.update_apply]
      split
      · rename_i here
        rw [← here, config, here, count]
        exact ⟨rfl, some⟩
      · rename_i other
        rw [config, others y.1 other]
        exact ⟨rfl, users⟩
    · intro y inside z inside'
      rw [ids, ids]
      exact shares.apart y inside z inside'
    · intro u user
      simp only [ids]
      obtain old | rfl := users u user
      · exact shares.known u old
      · exact ⟨x, member, rfl, rfl⟩
  refine ⟨shares', fun id => ?_⟩
  rw [shares'.usersOf_eq_zero_iff, shares.usersOf_eq_zero_iff]
  simp only [ids]

/-- Where the same devices have users and nothing is asked for, what is shared is held as before. -/
theorem Registry.Held.same (held : r.Held) (asked : r'.asked = r.asked) (released : r'.released = r.released)
    (users : ∀ id, r'.usersOf id = 0 ↔ r.usersOf id = 0) : r'.Held := by
  intro a id
  rw [asked, released, held a id]
  simp only [users]

/-- The law holds of a call that asks for nothing and leaves the users of each device, up to their number. -/
theorem keeps_same {op : Op} (held : r.Held) (asked : r'.asked = r.asked) (released : r'.released = r.released)
    (users : ∀ id, r'.usersOf id = 0 ↔ r.usersOf id = 0) : Keeps ⟨r, op, r', o⟩ :=
  ⟨held.same asked released users, fun a id => by rw [asked]; exact Nat.le_add_right _ _⟩

theorem step_request {config : Option Int} (answered : request d config w r.state = .ok (s, o)) :
    r.step d (.request config w) =
      .ok (({ r with state := s, users := if o.result = .ok then r.users ++ [(o.handle.getD 0, config.getD 0)] else r.users } : Registry).record
        (config.getD 0) o.bus, o) := by
  rw [Registry.step, answered]
  rfl

/-- One user more has the handle. -/
def Registry.joined (handle : Nat) (r : Registry) : Registry where
  state := { r.state with config := Function.update r.state.config handle (r.state.config handle).more }
  users := r.users ++ [(handle, (r.state.config handle).id)]
  asked := r.asked
  released := r.released

/-- One user less has the handle. -/
def Registry.parted (handle : Nat) (r : Registry) : Registry where
  state := { r.state with config := Function.update r.state.config handle (r.state.config handle).less }
  users := r.users.eraseP fun u => u.1 = handle
  asked := r.asked
  released := r.released

theorem holders_joined (handle b : Nat) : (r.joined handle).holders b = r.holders b + if handle = b then 1 else 0 := by
  rw [Registry.holders, Registry.joined, List.countP_append, List.countP_singleton]
  simp only [decide_eq_true_eq]
  rfl

theorem Shares.joined (shares : Shares r xs) (member : x ∈ xs) :
    Shares (r.joined x.1) xs ∧ ∀ id, (r.joined x.1).usersOf id = 0 ↔ r.usersOf id = 0 := by
  obtain ⟨id, config, users⟩ := shares.shared x member
  have more : (r.state.config x.1).more = { r.state.config x.1 with numberOfInstances := (r.holders x.1 + 1 : Nat) } := by
    rw [config]
    rfl
  refine shares.recount member (by rw [Registry.joined, more]) ?_ (Nat.succ_ne_zero _) (fun b other => ?_) (by simp [Registry.joined])
  · rw [holders_joined, if_pos rfl]
  · rw [holders_joined, if_neg (Ne.symm other), Nat.add_zero]

theorem countP_eraseP_self {α : Type} (p : α → Bool) (l : List α) : (l.eraseP p).countP p = l.countP p - 1 := by
  induction l with
  | nil => rfl
  | cons a l ih =>
    by_cases here : p a = true
    · rw [List.eraseP_cons_of_pos here, List.countP_cons_of_pos here, Nat.add_sub_cancel]
    · rw [List.eraseP_cons_of_neg here, List.countP_cons_of_neg here, List.countP_cons_of_neg here, ih]

theorem countP_eraseP_other {α : Type} {p q : α → Bool} (apart : ∀ a, q a = true → ¬ p a = true) (l : List α) :
    (l.eraseP q).countP p = l.countP p := by
  induction l with
  | nil => rfl
  | cons a l ih =>
    by_cases here : q a = true
    · rw [List.eraseP_cons_of_pos here, List.countP_cons_of_neg (apart a here)]
    · rw [List.eraseP_cons_of_neg here, List.countP_cons, List.countP_cons, ih]

theorem holders_parted (handle : Nat) : (r.parted handle).holders handle = r.holders handle - 1 := countP_eraseP_self _ _

theorem holders_parted_other {handle b : Nat} (other : b ≠ handle) : (r.parted handle).holders b = r.holders b :=
  countP_eraseP_other (fun _ here there => other ((of_decide_eq_true there).symm.trans (of_decide_eq_true here))) _

theorem Shares.parted (shares : Shares r xs) (member : x ∈ xs) (more : r.holders x.1 ≠ 1) :
    Shares (r.parted x.1) xs ∧ ∀ id, (r.parted x.1).usersOf id = 0 ↔ r.usersOf id = 0 := by
  obtain ⟨id, config, users⟩ := shares.shared x member
  have less : (r.state.config x.1).less = { r.state.config x.1 with numberOfInstances := (r.holders x.1 - 1 : Nat) } := by
    rw [config, Config.less]
    congr 1
    dsimp only
    omega
  refine shares.recount member (by rw [Registry.parted, less]) (holders_parted x.1) (by omega) (fun b other => holders_parted_other other) ?_
  exact fun u user => Or.inl (List.mem_of_mem_eraseP user)

/-- A request that adds a user to those of the device. -/
theorem requestMore_keeps (shares : Shares r xs) (held : r.Held) (member : x ∈ xs)
    (found : r.state.getByCheck (r.state.config x.1).id = .ok x.1) (room : r.usersOf (r.state.config x.1).id + 1 < 2 ^ 31) :
    ∃ r' o, r.step d (.request (some (r.state.config x.1).id) w) = .ok (r', o) ∧
      Keeps ⟨r, .request (some (r.state.config x.1).id) w, r', o⟩ ∧ r'.Inv := by
  have answered := request_more (d := d) (w := w) shares member found
  rw [if_pos room] at answered
  obtain ⟨shares', same⟩ := shares.joined member
  exact ⟨r.joined x.1, _, step_request answered, keeps_same held rfl rfl same, ⟨xs, shares'⟩, held.same rfl rfl same⟩

/-- The first user has the handle of a new element. -/
def Registry.opened (list : ArtikList.State) (handle : Nat) (id : Int) (r : Registry) : Registry :=
  Registry.record id [.requestModule, .request id]
    { r with
      state := ⟨list, Function.update r.state.config handle ⟨true, some id, id, 1⟩⟩
      users := r.users ++ [(handle, id)] }

theorem Shares.opened {list : ArtikList.State} (shares : Shares r xs) (none : r.usersOf id = 0) (here : x.2.handle = x.1)
    (away : x.1 ∉ xs.map Prod.fst) (refines : Refines list (xs ++ [x])) : Shares (r.opened list x.1 id) (xs ++ [x]) := by
  have absent := shares.usersOf_eq_zero_iff.1 none
  have other : ∀ y ∈ xs, y.1 ≠ x.1 := fun y member same => away (same ▸ List.mem_map_of_mem member)
  have users : ∀ b, (r.opened list x.1 id).holders b = r.holders b + if x.1 = b then 1 else 0 := by
    intro b
    rw [Registry.holders, Registry.opened, Registry.record, List.countP_append, List.countP_singleton]
    simp only [decide_eq_true_eq]
    rfl
  have unknown : r.holders x.1 = 0 := by
    refine List.countP_eq_zero.2 fun u user same => ?_
    obtain ⟨y, member, handle, -⟩ := shares.known u user
    exact other y member (handle.trans (of_decide_eq_true same))
  have old : ∀ y ∈ xs, (r.opened list x.1 id).state.config y.1 = r.state.config y.1 := fun y member =>
    Function.update_of_ne (other y member) ..
  have new : (r.opened list x.1 id).state.config x.1 = ⟨true, some id, id, 1⟩ := Function.update_self ..
  refine ⟨refines, ?_, ?_, ?_, ?_⟩
  · exact List.forall_mem_append.2 ⟨shares.handles, List.forall_mem_singleton.2 here⟩
  · refine List.forall_mem_append.2 ⟨fun y member => ?_, List.forall_mem_singleton.2 ?_⟩
    · rw [old y member, users, if_neg (Ne.symm (other y member)), Nat.add_zero]
      exact shares.shared y member
    · rw [new, users, if_pos rfl, unknown]
      exact ⟨id, rfl, Nat.one_ne_zero⟩
  · refine List.forall_mem_append.2 ⟨fun y member => List.forall_mem_append.2 ⟨fun z inside => ?_, List.forall_mem_singleton.2 ?_⟩,
      List.forall_mem_singleton.2 (List.forall_mem_append.2 ⟨fun z inside => ?_, List.forall_mem_singleton.2 fun _ => rfl⟩)⟩
    · rw [old y member, old z inside]
      exact shares.apart y member z inside
    · rw [old y member, new]
      exact fun same => absurd same (absent y member)
    · rw [old z inside, new]
      exact fun same => absurd same.symm (absent z inside)
  · intro u user
    obtain user | user := List.mem_append.1 user
    · obtain ⟨y, member, handle, device⟩ := shares.known u user
      exact ⟨y, List.mem_append_left _ member, handle, (congrArg Config.id (old y member)).trans device⟩
    · obtain rfl := List.mem_singleton.1 user
      exact ⟨x, List.mem_append_right _ (List.mem_singleton_self x), rfl, congrArg Config.id new⟩

/-- The bus module and the handle are asked for, and nothing is released. -/
theorem opened_asked (r : Registry) (list : ArtikList.State) (handle : Nat) (id : Int) (a : Asset) (i : Int) :
    (r.opened list handle id).asked a i = r.asked a i + (if i = id then 1 else 0) ∧ (r.opened list handle id).released a i = r.released a i := by
  by_cases same : i = id
  · cases a <;> simp [Registry.opened, Registry.record, BusCall.asks, BusCall.releases, same]
  · cases a <;> simp [Registry.opened, Registry.record, BusCall.asks, BusCall.releases, same, Ne.symm same]

theorem usersOf_opened {list : ArtikList.State} {handle : Nat} (i : Int) :
    (r.opened list handle id).usersOf i = r.usersOf i + if id = i then 1 else 0 := by
  rw [Registry.usersOf, Registry.opened, Registry.record, List.countP_append, List.countP_singleton]
  simp only [decide_eq_true_eq]
  rfl

/-- A first request that succeeds, or has no memory. -/
theorem requestFirst_keeps (shares : Shares r xs) (held : r.Held) (absent : r.state.getByCheck id = .ok 0) (none : r.usersOf id = 0)
    (fits : w.malloc.pick (fun a => (r.state.list.heap.cell a).isSome) = .none ∨
      w.module = true ∧ w.request = .ok ∧ initializeDevice w.probe = .ok) :
    ∃ r' o, r.step d (.request (some id) w) = .ok (r', o) ∧ Keeps ⟨r, .request (some id) w, r', o⟩ ∧ r'.Inv := by
  have first : request d (some id) w r.state = requestFirst id w r.state := by
    rw [request, absent]
    rfl
  obtain ⟨-, list, answered, refines⟩ | ⟨memory, answered⟩ := requestFirst_cases shares id w
  · rw [← first] at answered
    have shares' : Shares { r with state := ⟨list, r.state.config⟩ } xs :=
      ⟨refines, shares.handles, shares.shared, shares.apart, shares.known⟩
    exact ⟨_, _, step_request answered, keeps_same held rfl rfl fun _ => Iff.rfl, ⟨xs, shares'⟩, held⟩
  · rw [if_pos (fits.resolve_left memory), ← first] at answered
    obtain ⟨list, x, answered, here, away, refines⟩ := answered
    have held' : (r.opened list x.1 id).Held := by
      intro a i
      obtain ⟨asked, released⟩ := opened_asked r list x.1 id a i
      rw [asked, released, held a i, usersOf_opened]
      by_cases same : i = id
      · rw [same, none, if_pos rfl, if_pos rfl]
        rfl
      · rw [if_neg same, if_neg (Ne.symm same)]
        rfl
    have once : ∀ a i, (r.opened list x.1 id).asked a i ≤ r.asked a i + if r.usersOf i = 0 then 1 else 0 := by
      intro a i
      rw [(opened_asked r list x.1 id a i).1]
      by_cases same : i = id
      · rw [same, none, if_pos rfl, if_pos rfl]
      · rw [if_neg same]
        exact Nat.le_add_right _ _
    exact ⟨r.opened list x.1 id, _, step_request answered, ⟨held', once⟩, ⟨xs ++ [x], shares.opened none here away refines⟩, held'⟩

theorem step_release {handle : Nat} (answered : release handle r.state = .ok (s, bus)) :
    ∃ id, r.step d (.release handle) =
      .ok (({ r with state := s, users := r.users.eraseP fun u => u.1 = handle } : Registry).record id bus, ⟨.ok, none, bus⟩) :=
  ⟨_, by rw [Registry.step, answered]; rfl⟩

/-- A release of the last user deletes the element, and any other keeps the law. -/
theorem release_cases (inv : r.Inv) (handle : Nat) :
    r.holders handle = 1 ∧ r.step d (.release handle) = .error (.heap .wild) ∨
      r.holders handle ≠ 1 ∧ ∃ r' o, r.step d (.release handle) = .ok (r', o) ∧ Keeps ⟨r, .release handle, r', o⟩ ∧ r'.Inv := by
  obtain ⟨⟨xs, shares⟩, held⟩ := inv
  obtain ⟨absent, others⟩ | ⟨x, member, rfl, nonnull, found⟩ := shares.getByHandle handle
  · have none : r.holders handle = 0 := List.countP_eq_zero.2 fun u user same => others u user (of_decide_eq_true same)
    have all : r.users.eraseP (fun u => u.1 = handle) = r.users :=
      List.eraseP_of_forall_not fun u user same => others u user (of_decide_eq_true same)
    obtain ⟨id, answered⟩ := step_release (d := d) (release_absent absent)
    rw [all] at answered
    exact Or.inr ⟨by omega, r, _, answered, keeps_same held rfl rfl fun _ => Iff.rfl, ⟨xs, shares⟩, held⟩
  · obtain ⟨id, config, users⟩ := shares.shared x member
    have count : (r.state.config x.1).numberOfInstances = r.holders x.1 := by rw [config]
    by_cases last : r.holders x.1 = 1
    · refine Or.inl ⟨last, ?_⟩
      rw [Registry.step, release_last shares.refines member found nonnull (by omega)]
      rfl
    · obtain ⟨id, answered⟩ := step_release (d := d) (release_more shares.refines member found nonnull (by omega))
      obtain ⟨shares', same⟩ := shares.parted member last
      exact Or.inr ⟨last, r.parted x.1, _, answered, keeps_same held rfl rfl same, ⟨xs, shares'⟩, held.same rfl rfl same⟩

/-- **One call** keeps the law if it fits, and faults otherwise. -/
theorem step_cases (inv : r.Inv) (op : Op) :
    (∃ f, r.step d op = .error f) ∧ ¬ Fits d op r ∨
      Fits d op r ∧ ∃ r' o, r.step d op = .ok (r', o) ∧ Keeps ⟨r, op, r', o⟩ ∧ r'.Inv := by
  cases op with
  | release handle =>
    obtain ⟨last, faults⟩ | ⟨more, answers⟩ := release_cases (d := d) inv handle
    · exact Or.inl ⟨⟨_, faults⟩, fun fits => fits last⟩
    · exact Or.inr ⟨more, answers⟩
  | request config w =>
    obtain ⟨⟨xs, shares⟩, held⟩ := inv
    cases config with
    | none =>
      cases checks : d.checksConfig with
      | false =>
        refine Or.inl ⟨⟨.nullPointer, ?_⟩, fun fits => ?_⟩
        · rw [Registry.step, request, checks]
          rfl
        · rw [Fits, checks] at fits
          cases fits
      | true =>
        have answered : request d none w r.state = .ok (r.state, ⟨.badArgs, none, []⟩) := by
          rw [request, checks]
          rfl
        exact Or.inr ⟨checks, r, _, step_request answered, keeps_same held rfl rfl fun _ => Iff.rfl, ⟨xs, shares⟩, held⟩
    | some id =>
      obtain ⟨none, absent⟩ | ⟨busy, x, member, rfl, found⟩ := shares.getByCheck id
      · by_cases fits : w.malloc.pick (fun a => (r.state.list.heap.cell a).isSome) = .none ∨
            w.module = true ∧ w.request = .ok ∧ initializeDevice w.probe = .ok
        · refine Or.inr ⟨?_, requestFirst_keeps shares held absent none fits⟩
          rw [Fits, if_pos none]
          exact fits
        · obtain ⟨memory, going⟩ := not_or.1 fits
          obtain ⟨empty, -⟩ | ⟨-, faults⟩ := requestFirst_cases shares id w
          · exact absurd empty memory
          · rw [if_neg going] at faults
            refine Or.inl ⟨⟨.heap .wild, ?_⟩, ?_⟩
            · rw [Registry.step, request, absent]
              simp only [ok_bind]
              rw [if_neg (not_not.2 rfl), faults]
              rfl
            · rw [Fits, if_pos none]
              exact fits
      · by_cases room : r.usersOf (r.state.config x.1).id + 1 < 2 ^ 31
        · refine Or.inr ⟨?_, requestMore_keeps shares held member found room⟩
          rw [Fits, if_neg busy]
          exact room
        · have faults := request_more (d := d) (w := w) shares member found
          rw [if_neg room] at faults
          refine Or.inl ⟨⟨.overflow, by rw [Registry.step, faults]; rfl⟩, ?_⟩
          rw [Fits, if_neg busy]
          exact room

/-- **The law of the shared sensors** holds in a run just where no call deletes an element. -/
theorem shared_iff (d : Driver) (ops : List Op) :
    (∃ cs r, exec (fun op r => r.step d op) ops Registry.init = .ok (cs, r) ∧ ∀ c ∈ cs, Keeps c) ↔
      Along (Fits d) (fun op r => r.step d op) ops Registry.init := by
  refine exec_along_iff ?_ ?_ Registry.Inv.init
  · intro op r inv
    obtain ⟨⟨f, faults⟩, refused⟩ | ⟨fits, r', o, answered, keeps, -⟩ := step_cases (d := d) inv op
    · refine iff_of_false ?_ refused
      rintro ⟨r', o, answered, -⟩
      rw [faults] at answered
      cases answered
    · exact iff_of_true ⟨r', o, answered, keeps⟩ fits
  · intro op r r' o inv fits answered
    obtain ⟨-, refused⟩ | ⟨-, r'', o', answered', -, inv'⟩ := step_cases (d := d) inv op
    · exact absurd fits refused
    · rw [answered] at answered'
      cases answered'
      exact inv'

/-! ## One user -/

def good : World := ⟨.only 8, true, .ok, ⟨.ok, true, .ok, .ok⟩⟩

/-- A user of HTS221 that requests device 1 and releases it. -/
theorem hts221_released : ¬ ∀ (d : Driver) (ops : List Op),
    ∃ cs r, exec (fun op r => r.step d op) ops Registry.init = .ok (cs, r) ∧ ∀ c ∈ cs, Keeps c := by
  intro all
  obtain ⟨cs, r, ran, -⟩ := all hts221 [.request (some 1) good, .release 8]
  have faults : exec (fun op (r : Registry) => r.step hts221 op) [.request (some 1) good, .release 8] Registry.init = .error (.heap .wild) := by
    rfl
  rw [faults] at ran
  cases ran

end ArtikSdk.Sensor
