import ArtikSdk.Bluetooth.Devices
import ArtikSdk.Bluetooth.Objects
import ArtikSdk.Lib.Row

/-!
# The list of devices

`_get_devices` passes over the first two objects, which it takes for `AgentManager1` and
`Adapter1`, and has an entry for each other object; what it writes behind them is outside.
-/

namespace ArtikSdk.Bluetooth.Enumeration
open Lib Objects Devices

/-- The answers of the bus to `_is_paired` and `_is_connected`, `FALSE` where there is an error. -/
structure Bus where
  isPaired : String → Bool
  isConnected : String → Bool

/-- An entry of the list, with the path of the object that it was read from. -/
abbrev Entry := String × ArtikBtDevice

section
variable (names : AssignedNumbers) (bus : Bus) (state : HciState)

/-- Whether an object is one of those that are asked for. -/
def asked (path : String) : Bool :=
  match state with
  | .paired => bus.isPaired path
  | .connected => bus.isConnected path
  | _ => true

/-- The iteration over the interfaces. -/
def addInterface (path : String) (tmpList : Row Entry) (interface : String × List Property) : Option (Row Entry) :=
  if strcasecmp interface.1 dbusIfDevice1 = true then
    if asked bus state path = true then tmpList.push (path, getDeviceProperties names interface.2) else some tmpList
  else some tmpList

/-- The iteration over the objects. -/
def addObject (tmpList : Row Entry) (o : ManagedObject) : Option (Row Entry) :=
  o.interfaces.foldlM (addInterface names bus state o.path) tmpList

/-- `_get_devices`: the array with the count, or no result where something is written outside. That
`path_count - 2` wraps below two is harmless, as then there is no iteration. -/
def getDevices (memory : Bool) (answer : Except ArtikError ManagedObjects) : Option (ArtikError × Option (Row Entry)) :=
  match answer with
  | .error ret => some (ret, none)
  | .ok objects =>
    let tmpList : List (Option Entry) := if memory then List.replicate (objects.objects.length - 2) none else []
    ((objects.objects.drop 2).foldlM (addObject names bus state) ⟨tmpList, 0⟩).map fun row => (.ok, some row)

/-- The entries that an object should have: one where it has the interface and is asked for. -/
def expected (o : ManagedObject) : List Entry :=
  if asked bus state o.path = true then
    (o.interfaces.filter fun interface => interface.1 = dbusIfDevice1).map fun interface =>
      (o.path, getDeviceProperties names interface.2)
  else []

/-- What was written are exactly the devices that are asked for, each once, and the count is theirs. -/
def Exact (objects : ManagedObjects) (row : Row Entry) : Prop :=
  ∃ entries n, row = Row.filled entries n ∧
    (∀ o ∈ objects.objects, entries.filter (fun e => e.1 = o.path) = expected names bus state o) ∧
    ∀ e ∈ entries, ∃ o ∈ objects.objects, e.1 = o.path

/-- The call succeeds, with such an array. -/
def Enumerated (memory : Bool) (objects : ManagedObjects) : Prop :=
  ∃ row, getDevices names bus state memory (.ok objects) = some (.ok, some row) ∧ Exact names bus state objects row

/-- The entries that an object gets. -/
def found (o : ManagedObject) : List Entry :=
  if asked bus state o.path = true then
    (o.interfaces.filter fun interface => strcasecmp interface.1 dbusIfDevice1).map fun interface =>
      (o.path, getDeviceProperties names interface.2)
  else []

end

/-- An object with the interface that is asked for. -/
def Requested (bus : Bus) (state : HciState) (o : ManagedObject) : Prop :=
  asked bus state o.path = true ∧ dbusIfDevice1 ∈ o.interfaces.map Prod.fst

/-- No name of an interface is that of a device but for upper and lower case. -/
def Spelled (o : ManagedObject) : Prop :=
  ∀ name ∈ o.interfaces.map Prod.fst, strcasecmp name dbusIfDevice1 = true → name = dbusIfDevice1

variable {names : AssignedNumbers} {bus : Bus} {state : HciState} {memory : Bool} {o : ManagedObject} {objects : ManagedObjects}

/-! ## The loops -/

theorem addObject_eq (o : ManagedObject) (row : Row Entry) :
    addObject names bus state row o = row.pushAll (found names bus state o) := by
  rw [addObject, found]
  induction o.interfaces generalizing row with
  | nil => split <;> rfl
  | cons interface interfaces ih =>
    rw [List.foldlM_cons, addInterface]
    by_cases device : strcasecmp interface.1 dbusIfDevice1 = true
    · rw [if_pos device, List.filter_cons, if_pos device]
      by_cases called : asked bus state o.path = true
      · rw [if_pos called, if_pos called, List.map_cons, Row.pushAll, List.foldlM_cons]
        refine bind_congr fun row => ?_
        rw [ih, if_pos called]
        rfl
      · rw [if_neg called, if_neg called]
        exact (ih row).trans (by rw [if_neg called])
    · rw [if_neg device, List.filter_cons, if_neg device]
      exact ih row

theorem addObjects_eq (l : List ManagedObject) (row : Row Entry) :
    l.foldlM (addObject names bus state) row = row.pushAll (l.flatMap (found names bus state)) := by
  induction l generalizing row with
  | nil => rfl
  | cons o l ih =>
    rw [List.foldlM_cons, addObject_eq, List.flatMap_cons, Row.pushAll_append]
    exact congrArg _ (funext ih)

/-- How many entries there is memory for. -/
def space (memory : Bool) (objects : ManagedObjects) : Nat := if memory then objects.objects.length - 2 else 0

/-- All that is written. -/
def written (names : AssignedNumbers) (bus : Bus) (state : HciState) (objects : ManagedObjects) : List Entry :=
  (objects.objects.drop 2).flatMap (found names bus state)

theorem getDevices_eq (names : AssignedNumbers) (bus : Bus) (state : HciState) (memory : Bool) (objects : ManagedObjects) :
    getDevices names bus state memory (.ok objects) =
      if (written names bus state objects).length ≤ space memory objects then
        some (.ok, some (Row.filled (written names bus state objects) (space memory objects)))
      else none := by
  have start : (⟨if memory then List.replicate (objects.objects.length - 2) none else [], 0⟩ : Row Entry) =
      Row.filled [] (space memory objects) := by
    rw [Row.filled_nil, space]
    cases memory <;> rfl
  rw [getDevices, start, addObjects_eq, Row.pushAll_filled (Nat.zero_le _), List.length_nil, Nat.zero_add, List.nil_append]
  rw [← written]
  split <;> rfl

/-! ## The entries of one object -/

theorem found_path (o : ManagedObject) : ∀ e ∈ found names bus state o, e.1 = o.path := by
  intro e member
  rw [found] at member
  split at member
  · obtain ⟨interface, -, rfl⟩ := List.mem_map.1 member
    rfl
  · cases member

/-- A path that no object has is that of no entry. -/
theorem filter_outside {l : List ManagedObject} (outside : o.path ∉ l.map ManagedObject.path) :
    (l.flatMap (found names bus state)).filter (fun e => e.1 = o.path) = [] := by
  refine List.filter_eq_nil_iff.2 fun e member same => outside ?_
  obtain ⟨o', member', entry⟩ := List.mem_flatMap.1 member
  rw [← of_decide_eq_true same, found_path o' e entry]
  exact List.mem_map_of_mem member'

/-- Of the entries of a list those with the path of an object are its own. -/
theorem filter_found {l : List ManagedObject} (distinct : (l.map ManagedObject.path).Nodup) (inside : o ∈ l) :
    (l.flatMap (found names bus state)).filter (fun e => e.1 = o.path) = found names bus state o := by
  have foreign : ∀ {o'}, o'.path ≠ o.path → (found names bus state o').filter (fun e => e.1 = o.path) = [] := by
    intro o' other
    refine List.filter_eq_nil_iff.2 fun e member same => other ?_
    rw [← found_path o' e member]
    exact of_decide_eq_true same
  have own : (found names bus state o).filter (fun e => e.1 = o.path) = found names bus state o :=
    List.filter_eq_self.2 fun e member => decide_eq_true (found_path o e member)
  induction l with
  | nil => cases inside
  | cons first l ih =>
    rw [List.map_cons, List.nodup_cons] at distinct
    rw [List.flatMap_cons, List.filter_append]
    obtain rfl | later := List.mem_cons.1 inside
    · rw [own, filter_outside distinct.1, List.append_nil]
    · have other : first.path ≠ o.path := fun same => distinct.1 (same ▸ List.mem_map_of_mem later)
      rw [foreign other, ih distinct.2 later, List.nil_append]

/-! ## What an object should have -/

theorem expected_nil : expected names bus state o = [] ↔ ¬Requested bus state o := by
  rw [expected, Requested]
  by_cases called : asked bus state o.path = true
  · rw [if_pos called, and_iff_right called, List.map_eq_nil_iff, List.filter_eq_nil_iff, List.mem_map, not_exists]
    exact forall_congr' fun interface => by simp
  · rw [if_neg called]
    exact iff_of_true rfl fun requested => called requested.1

/-- A dictionary has a name once. -/
theorem expected_length (o : ManagedObject) : (expected names bus state o).length ≤ 1 := by
  rw [expected]
  split
  · rw [List.length_map, ← List.countP_eq_length_filter]
    have once := List.nodup_iff_count_le_one.1 o.names dbusIfDevice1
    rw [List.count, List.countP_map] at once
    refine le_of_eq_of_le (List.countP_congr fun interface _ => ?_) once
    simp
  · exact Nat.zero_le _

theorem found_eq_iff : found names bus state o = expected names bus state o ↔ (asked bus state o.path = true → Spelled o) := by
  rw [found, expected]
  by_cases called : asked bus state o.path = true
  · rw [if_pos called, if_pos called, imp_iff_right called]
    constructor
    · intro same name member alike
      obtain ⟨interface, inside, rfl⟩ := List.mem_map.1 member
      have twice : (o.interfaces.filter fun interface => strcasecmp interface.1 dbusIfDevice1).filter
          (fun interface => interface.1 = dbusIfDevice1) = o.interfaces.filter fun interface => interface.1 = dbusIfDevice1 := by
        rw [List.filter_filter]
        refine List.filter_congr fun interface _ => ?_
        by_cases device : interface.1 = dbusIfDevice1
        · simp [device, strcasecmp_self]
        · simp [device]
      have lengths := congrArg List.length same
      rw [List.length_map, List.length_map, ← twice, eq_comm, List.length_filter_eq_length_iff] at lengths
      exact of_decide_eq_true (lengths interface (List.mem_filter.2 ⟨inside, alike⟩))
    · intro spelled
      refine congrArg _ (List.filter_congr fun interface inside => ?_)
      rw [Bool.eq_iff_iff, decide_eq_true_iff]
      constructor
      · exact spelled interface.1 (List.mem_map_of_mem inside)
      · intro device
        rw [device]
        exact strcasecmp_self _
  · rw [if_neg called, if_neg called]
    exact iff_of_true rfl fun called' => absurd called' called

/-! ## The whole list -/

theorem exact_iff (n : Nat) :
    Exact names bus state objects (Row.filled (written names bus state objects) n) ↔
      (∀ o ∈ objects.objects.take 2, expected names bus state o = []) ∧
        ∀ o ∈ objects.objects.drop 2, found names bus state o = expected names bus state o := by
  have parts := List.take_append_drop 2 objects.objects
  have paths := objects.paths
  rw [← parts, List.map_append, List.nodup_append] at paths
  have skipped : ∀ o ∈ objects.objects.take 2, (written names bus state objects).filter (fun e => e.1 = o.path) = [] :=
    fun o member => filter_outside fun again => paths.2.2 _ (List.mem_map_of_mem member) _ again rfl
  have visited : ∀ o ∈ objects.objects.drop 2,
      (written names bus state objects).filter (fun e => e.1 = o.path) = found names bus state o :=
    fun o member => filter_found paths.2.1 member
  constructor
  · rintro ⟨entries, m, same, all, -⟩
    obtain rfl := Row.filled_injective same
    rw [← parts, List.forall_mem_append] at all
    exact ⟨fun o member => (all.1 o member).symm.trans (skipped o member),
      fun o member => (visited o member).symm.trans (all.2 o member)⟩
  · rintro ⟨first, rest⟩
    refine ⟨_, n, rfl, ?_, fun e member => ?_⟩
    · rw [← parts, List.forall_mem_append]
      exact ⟨fun o member => (skipped o member).trans (first o member).symm,
        fun o member => (visited o member).trans (rest o member)⟩
    · obtain ⟨o, inside, entry⟩ := List.mem_flatMap.1 member
      exact ⟨o, List.mem_of_mem_drop inside, found_path o e entry⟩

theorem length_flatMap_le {l : List ManagedObject} {f : ManagedObject → List Entry} (single : ∀ o ∈ l, (f o).length ≤ 1) :
    (l.flatMap f).length ≤ l.length := by
  induction l with
  | nil => rfl
  | cons o l ih =>
    rw [List.forall_mem_cons] at single
    rw [List.flatMap_cons, List.length_append, List.length_cons, Nat.add_comm]
    exact Nat.add_le_add (ih single.2) single.1

/-- Where each object has its entries, they are too many only where there is no memory for any. -/
theorem fits_iff (visited : ∀ o ∈ objects.objects.drop 2, found names bus state o = expected names bus state o) :
    (written names bus state objects).length ≤ space memory objects ↔
      memory = true ∨ ∀ o ∈ objects.objects.drop 2, ¬Requested bus state o := by
  rw [space]
  cases memory with
  | true =>
    refine iff_of_true ?_ (.inl rfl)
    rw [if_pos rfl, ← List.length_drop]
    exact length_flatMap_le fun o member => visited o member ▸ expected_length o
  | false =>
    rw [if_neg Bool.false_ne_true, Nat.le_zero, List.length_eq_zero_iff, written, List.flatMap_eq_nil_iff]
    simp only [Bool.false_eq_true, false_or]
    exact forall₂_congr fun o member => by rw [visited o member, expected_nil]

/-- The list is that of the devices if and only if none of them is among the first two objects, the
names of interfaces differ in more than upper and lower case, and there is memory where it is used. -/
theorem devices_iff (names : AssignedNumbers) (bus : Bus) (state : HciState) (memory : Bool) (objects : ManagedObjects) :
    Enumerated names bus state memory objects ↔
      (∀ o ∈ objects.objects.take 2, ¬Requested bus state o) ∧
        (∀ o ∈ objects.objects.drop 2, asked bus state o.path = true → Spelled o) ∧
        (memory = true ∨ ∀ o ∈ objects.objects.drop 2, ¬Requested bus state o) := by
  have first : (∀ o ∈ objects.objects.take 2, ¬Requested bus state o) ↔
      ∀ o ∈ objects.objects.take 2, expected names bus state o = [] := forall₂_congr fun o _ => expected_nil.symm
  have visited : (∀ o ∈ objects.objects.drop 2, asked bus state o.path = true → Spelled o) ↔
      ∀ o ∈ objects.objects.drop 2, found names bus state o = expected names bus state o :=
    forall₂_congr fun o _ => found_eq_iff.symm
  rw [Enumerated, getDevices_eq, first, visited]
  constructor
  · rintro ⟨row, returned, exact_row⟩
    split at returned
    · rename_i inside
      cases returned
      obtain ⟨none_first, all⟩ := (exact_iff _).1 exact_row
      exact ⟨none_first, all, (fits_iff all).1 inside⟩
    · cases returned
  · rintro ⟨none_first, all, enough⟩
    rw [if_pos ((fits_iff all).2 enough)]
    exact ⟨_, rfl, (exact_iff _).2 ⟨none_first, all⟩⟩

/-- A device that stands before the adapter is not listed. -/
theorem firstDevice_missing :
    ∃ objects : ManagedObjects,
      objects.objects.map ManagedObject.path = ["/org/bluez/hci0/dev_00", "/org/bluez", "/org/bluez/hci0"] ∧
      (∀ o ∈ objects.objects.take 1, dbusIfDevice1 ∈ o.interfaces.map Prod.fst) ∧
      ∀ names bus, (getDevices names bus .idle true (.ok objects)).map (fun r => r.2.map Row.count) = some (some 0) ∧
        ¬Enumerated names bus .idle true objects := by
  refine ⟨⟨[⟨"/org/bluez/hci0/dev_00", [("org.bluez.Device1", [])], by decide, by decide⟩,
    ⟨"/org/bluez", [("org.bluez.AgentManager1", [])], by decide, by decide⟩,
    ⟨"/org/bluez/hci0", [("org.bluez.Adapter1", [])], by decide, by decide⟩], by decide⟩, rfl, by decide, fun names bus => ⟨rfl, ?_⟩⟩
  rintro ⟨row, returned, entries, n, rfl, all, -⟩
  have counts : some (some 0) = some (some entries.length) :=
    congrArg (Option.map fun r : ArtikError × Option (Row Entry) => r.2.map Row.count) returned
  obtain rfl := List.length_eq_zero_iff.1 (Option.some.inj (Option.some.inj counts)).symm
  exact absurd (congrArg List.length (all _ List.mem_cons_self)) Nat.zero_ne_one

end ArtikSdk.Bluetooth.Enumeration
