import ArtikSdk.Base.Error
import ArtikSdk.Bluetooth.Objects

/-!
# GATT client: the path of a characteristic

`_get_gatt_path` goes over all objects below the path of the device for the first one with an
interface, a UUID and a link to the object that the step before has found. The calls that read and
write go from the service over the characteristic to the descriptor, and never back: where the
first service with a UUID has no such characteristic, there is none.
-/

namespace ArtikSdk.Bluetooth.Gatt.Resolve
open Lib Objects

inductive Fault where
  | nullPointer
deriving DecidableEq

/-- `DBUS_IF_GATTSERVICE1` -/
def dbusIfGattService1 : String := "org.bluez.GattService1"

/-- `DBUS_IF_GATTCHARACTERISTIC1` -/
def dbusIfGattCharacteristic1 : String := "org.bluez.GattCharacteristic1"

/-- `DBUS_IF_GATTDESCRIPTOR1` -/
def dbusIfGattDescriptor1 : String := "org.bluez.GattDescriptor1"

/-- `g_str_has_prefix` -/
def gStrHasPrefix (str pre : String) : Bool := pre.toList.isPrefixOf str.toList

section
variable (names : AssignedNumbers)

/-- The walk over the interfaces of an object in `_get_object_path`: `strcasecmp` of the address of a
device that has none. -/
def deviceInterface (addr : String) : List (String × List Property) → Except Fault Bool
  | [] => .ok false
  | (itf, properties) :: interfaces =>
    if strcasecmp itf dbusIfDevice1 = true then
      match (getDeviceProperties names properties).remoteAddress with
      | none => .error .nullPointer
      | some address => if strcasecmp address addr = true then .ok true else deviceInterface addr interfaces
    else deviceInterface addr interfaces

/-- `_get_object_path` -/
def getObjectPath (addr : String) : List ManagedObject → Except Fault (Option String)
  | [] => .ok none
  | o :: objects =>
    match deviceInterface names addr o.interfaces with
    | .error f => .error f
    | .ok true => .ok (some o.path)
    | .ok false => getObjectPath addr objects

/-- The walk over the properties in `_get_gatt_path`, with `is_good_uuid` and `is_good_property`. -/
def goodProperties (uuid : String) (link : Option (String × String)) : Bool → Bool → List Property → Bool
  | _, _, [] => false
  | isGoodUuid, isGoodProperty, (key, val) :: properties =>
    let isGoodUuid := isGoodUuid || (key = "UUID" && val.getString = some uuid)
    let isGoodProperty := isGoodProperty || link.any fun l => key = l.1 && val.getString = some l.2
    if isGoodProperty && isGoodUuid then true else goodProperties uuid link isGoodUuid isGoodProperty properties

/-- Whether an object is the one that `_get_gatt_path` looks for. -/
def goodObject (devPath interface uuid : String) (link : Option (String × String)) (o : ManagedObject) : Bool :=
  gStrHasPrefix o.path devPath &&
    o.interfaces.any fun i => i.1 = interface && goodProperties uuid link false link.isNone i.2

/-- `_get_gatt_path`, with the property and its value as a link: each walk ends behind the first hit. -/
def getGattPath (addr interface uuid : String) (link : Option (String × String)) (objects : List ManagedObject) :
    Except Fault (Option String) :=
  match getObjectPath names addr objects with
  | .error f => .error f
  | .ok none => .ok none
  | .ok (some devPath) => .ok ((objects.find? (goodObject devPath interface uuid link)).map ManagedObject.path)

/-- The path that `bt_gatt_char_read_value` and `bt_gatt_char_write_value` find. -/
def charPath (addr srvUuid charUuid : String) (objects : List ManagedObject) : Except Fault (Option String) :=
  match getGattPath names addr dbusIfGattService1 srvUuid none objects with
  | .error f => .error f
  | .ok none => .ok none
  | .ok (some srvPath) => getGattPath names addr dbusIfGattCharacteristic1 charUuid (some ("Service", srvPath)) objects

/-- The path that `bt_gatt_desc_read_value` and `bt_gatt_desc_write_value` find. -/
def descPath (addr srvUuid charUuid descUuid : String) (objects : List ManagedObject) : Except Fault (Option String) :=
  match charPath names addr srvUuid charUuid objects with
  | .error f => .error f
  | .ok none => .ok none
  | .ok (some charPath) =>
    getGattPath names addr dbusIfGattDescriptor1 descUuid (some ("Characteristic", charPath)) objects

end

/-- `ReadValue` or `WriteValue` of an object. -/
structure Access where
  path : String
  interface : String
  method : String
  argument : List Byte
deriving DecidableEq

/-- The code, the call on the bus, and the value that was read. -/
structure Output where
  code : ArtikError
  access : Option Access
  value : List Byte
deriving DecidableEq

/-- `_read_value`, with the reply of the bus where there is one. -/
def readValue (itf path : String) (reply : Option (List Byte)) : Output :=
  match reply with
  | none => ⟨.btError, some ⟨path, itf, "ReadValue", []⟩, []⟩
  | some bytes => ⟨.ok, some ⟨path, itf, "ReadValue", []⟩, bytes⟩

/-- `_write_value` -/
def writeValue (itf path : String) (bytes : List Byte) (replied : Bool) : Output :=
  ⟨if replied then .ok else .btError, some ⟨path, itf, "WriteValue", bytes⟩, []⟩

/-- `E_BT_ERROR` where there is no path. -/
def onPath (call : String → Output) : Option String → Output
  | none => ⟨.btError, none, []⟩
  | some path => call path

section
variable (names : AssignedNumbers) (addr srvUuid charUuid descUuid : String) (objects : ManagedObjects)

/-- `bt_gatt_char_read_value` -/
def btGattCharReadValue (reply : Option (List Byte)) : Except Fault Output :=
  (charPath names addr srvUuid charUuid objects.objects).map (onPath fun p => readValue dbusIfGattCharacteristic1 p reply)

/-- `bt_gatt_char_write_value` -/
def btGattCharWriteValue (bytes : List Byte) (replied : Bool) : Except Fault Output :=
  (charPath names addr srvUuid charUuid objects.objects).map (onPath fun p => writeValue dbusIfGattCharacteristic1 p bytes replied)

/-- `bt_gatt_desc_read_value` -/
def btGattDescReadValue (reply : Option (List Byte)) : Except Fault Output :=
  (descPath names addr srvUuid charUuid descUuid objects.objects).map (onPath fun p => readValue dbusIfGattDescriptor1 p reply)

/-- `bt_gatt_desc_write_value` -/
def btGattDescWriteValue (bytes : List Byte) (replied : Bool) : Except Fault Output :=
  (descPath names addr srvUuid charUuid descUuid objects.objects).map (onPath fun p => writeValue dbusIfGattDescriptor1 p bytes replied)

end

/-! ## Devices, services, characteristics and descriptors -/

/-- A property with this text. -/
def Has (properties : List Property) (key text : String) : Prop := ∃ val, (key, val) ∈ properties ∧ val.getString = some text

/-- An object with the interface, the UUID and the link. -/
def Matches (interface uuid : String) (link : Option (String × String)) (o : ManagedObject) : Prop :=
  ∃ i ∈ o.interfaces, i.1 = interface ∧ Has i.2 "UUID" uuid ∧ ∀ l ∈ link, Has i.2 l.1 l.2

/-- The device with the address. -/
def IsDevice (addr : String) (d : ManagedObject) : Prop :=
  ∃ i ∈ d.interfaces, i.1 = dbusIfDevice1 ∧ ∃ a, ("Address", .string a) ∈ i.2 ∧ strcasecmp a addr = true

/-- An object of a device. -/
def Below (d o : ManagedObject) : Prop := (d.path ++ "/").toList <+: o.path.toList

instance (d o : ManagedObject) : Decidable (Below d o) := inferInstanceAs (Decidable (_ <+: _))

section
variable (addr srvUuid charUuid descUuid : String) (objects : ManagedObjects)

/-- A characteristic of a service of the device with the address. -/
structure CharOf (d s c : ManagedObject) : Prop where
  inside : d ∈ objects.objects ∧ s ∈ objects.objects ∧ c ∈ objects.objects
  device : IsDevice addr d
  service : Below d s ∧ Matches dbusIfGattService1 srvUuid none s
  characteristic : Below d c ∧ Matches dbusIfGattCharacteristic1 charUuid (some ("Service", s.path)) c

/-- A descriptor of such a characteristic. -/
structure DescOf (d s c e : ManagedObject) : Prop extends CharOf addr srvUuid charUuid objects d s c where
  here : e ∈ objects.objects
  descriptor : Below d e ∧ Matches dbusIfGattDescriptor1 descUuid (some ("Characteristic", c.path)) e

end

/-- A call is right where it goes to one of the objects, or fails and there is none. -/
def Addresses (interface : String) (good : ManagedObject → Prop) (result : Except Fault Output) : Prop :=
  ∃ o, result = .ok o ∧
    match o.access with
    | some access => access.interface = interface ∧ ∃ c, good c ∧ c.path = access.path
    | none => o.code = .btError ∧ ¬∃ c, good c

/-! ## The first hits -/

/-- The first element with a property. -/
def First {α : Type} (l : List α) (P : α → Prop) (x : α) : Prop := ∃ before after, l = before ++ x :: after ∧ P x ∧ ∀ y ∈ before, ¬P y

/-- What `_get_object_path` looks at: the path and the address of each device. -/
def devices (names : AssignedNumbers) (objects : List ManagedObject) : List (String × Option String) :=
  objects.flatMap fun o => (o.interfaces.filter fun i => strcasecmp i.1 dbusIfDevice1).map fun i =>
    (o.path, (getDeviceProperties names i.2).remoteAddress)

def sameAddress (addr : String) (e : String × Option String) : Bool := e.2.any fun a => strcasecmp a addr

/-- An object whose path begins with that of the device. -/
def Candidate (devPath interface uuid : String) (link : Option (String × String)) (o : ManagedObject) : Prop :=
  gStrHasPrefix o.path devPath = true ∧ Matches interface uuid link o

section
variable (names : AssignedNumbers) (addr srvUuid charUuid descUuid : String) (objects : ManagedObjects)

/-- Every device before the first one with the address has an address. -/
def Addressed : Prop := ∀ e ∈ (devices names objects.objects).takeWhile fun e => !sameAddress addr e, e.2 ≠ none

/-- The first device with the address, the first service below its path, and the first
characteristic of this service. -/
structure FirstChar (s c : ManagedObject) : Prop where
  found : ∃ dev, First (devices names objects.objects) (fun e => sameAddress addr e = true) dev ∧
    First objects.objects (Candidate dev.1 dbusIfGattService1 srvUuid none) s ∧
    First objects.objects (Candidate dev.1 dbusIfGattCharacteristic1 charUuid (some ("Service", s.path))) c

/-- And the first descriptor of this characteristic. -/
structure FirstDesc (s c e : ManagedObject) : Prop where
  found : ∃ dev, First (devices names objects.objects) (fun e => sameAddress addr e = true) dev ∧
    First objects.objects (Candidate dev.1 dbusIfGattService1 srvUuid none) s ∧
    First objects.objects (Candidate dev.1 dbusIfGattCharacteristic1 charUuid (some ("Service", s.path))) c ∧
    First objects.objects (Candidate dev.1 dbusIfGattDescriptor1 descUuid (some ("Characteristic", c.path))) e

/-- The first hits are of a device with the address; and where the device has such a characteristic,
the first service has one. -/
structure CharFits : Prop where
  addressed : Addressed names addr objects
  own : ∀ s c, FirstChar names addr srvUuid charUuid objects s c → ∃ d ∈ objects.objects, IsDevice addr d ∧ Below d s ∧ Below d c
  served : (∃ d s c, CharOf addr srvUuid charUuid objects d s c) → ∃ s c, FirstChar names addr srvUuid charUuid objects s c

/-- The same for descriptors. -/
structure DescFits : Prop where
  addressed : Addressed names addr objects
  own : ∀ s c e, FirstDesc names addr srvUuid charUuid descUuid objects s c e →
    ∃ d ∈ objects.objects, IsDevice addr d ∧ Below d s ∧ Below d c ∧ Below d e
  served : (∃ d s c e, DescOf addr srvUuid charUuid descUuid objects d s c e) →
    ∃ s c e, FirstDesc names addr srvUuid charUuid descUuid objects s c e

end

variable {names : AssignedNumbers} {addr srvUuid charUuid descUuid : String} {objects : ManagedObjects}

/-! ## The walks -/

theorem find?_iff_first {α : Type} {l : List α} {p : α → Bool} {P : α → Prop} (same : ∀ x, p x = true ↔ P x) {x : α} :
    l.find? p = some x ↔ First l P x := by
  rw [List.find?_eq_some_iff_append, same, First]
  constructor
  · rintro ⟨holds, before, after, parts, none⟩
    refine ⟨before, after, parts, holds, fun y member => ?_⟩
    rw [← same, Bool.not_eq_true, ← Bool.not_eq_true']
    exact none y member
  · rintro ⟨before, after, parts, holds, none⟩
    refine ⟨holds, before, after, parts, fun y member => ?_⟩
    rw [Bool.not_eq_true', ← Bool.not_eq_true, same]
    exact none y member

/-- The walk over all devices. -/
def scan (addr : String) : List (String × Option String) → Except Fault (Option String)
  | [] => .ok none
  | (_, none) :: _ => .error .nullPointer
  | (path, some address) :: rest => if strcasecmp address addr = true then .ok (some path) else scan addr rest

theorem scan_interfaces (path : String) (interfaces : List (String × List Property)) (rest : List (String × Option String)) :
    scan addr (((interfaces.filter fun i => strcasecmp i.1 dbusIfDevice1).map fun i =>
        (path, (getDeviceProperties names i.2).remoteAddress)) ++ rest) =
      match deviceInterface names addr interfaces with
      | .error f => .error f
      | .ok true => .ok (some path)
      | .ok false => scan addr rest := by
  induction interfaces with
  | nil => rfl
  | cons i interfaces ih =>
    rw [deviceInterface, List.filter_cons]
    by_cases device : strcasecmp i.1 dbusIfDevice1 = true
    · rw [if_pos device, if_pos device, List.map_cons, List.cons_append]
      cases (getDeviceProperties names i.2).remoteAddress with
      | none => rfl
      | some address =>
        rw [scan]
        dsimp only
        by_cases same : strcasecmp address addr = true
        · rw [if_pos same, if_pos same]
        · rw [if_neg same, if_neg same, ih]
    · rw [if_neg device, if_neg device, ih]

theorem getObjectPath_eq (l : List ManagedObject) : getObjectPath names addr l = scan addr (devices names l) := by
  induction l with
  | nil => rfl
  | cons o l ih =>
    rw [getObjectPath, devices, List.flatMap_cons, scan_interfaces, ih]
    rfl

theorem scan_eq (l : List (String × Option String)) :
    scan addr l =
      if ∀ e ∈ l.takeWhile fun e => !sameAddress addr e, e.2 ≠ none then .ok ((l.find? (sameAddress addr)).map Prod.fst)
      else .error .nullPointer := by
  induction l with
  | nil => rfl
  | cons e l ih =>
    obtain ⟨path, address⟩ := e
    cases address with
    | none =>
      rw [scan, if_neg]
      intro all
      exact all (path, none) (by simp [sameAddress]) rfl
    | some address =>
      rw [scan, ih]
      by_cases same : strcasecmp address addr = true
      · have first : sameAddress addr (path, some address) = true := same
        rw [if_pos same, List.takeWhile_cons, first, List.find?_cons_of_pos first]
        exact (if_pos (by simp)).symm
      · have other : sameAddress addr (path, some address) = false := Bool.eq_false_of_not_eq_true same
        rw [if_neg same, List.takeWhile_cons, other, List.find?_cons_of_neg (by rw [other]; exact Bool.false_ne_true)]
        simp only [Bool.not_false, if_true, List.forall_mem_cons, ne_eq, reduceCtorEq, not_false_eq_true, true_and]

theorem has_cons {key text : String} {property : Property} {properties : List Property} :
    Has (property :: properties) key text ↔ (property.1 = key ∧ property.2.getString = some text) ∨ Has properties key text := by
  constructor
  · rintro ⟨val, member, value⟩
    obtain rfl | later := List.mem_cons.1 member
    · exact .inl ⟨rfl, value⟩
    · exact .inr ⟨val, later, value⟩
  · rintro (⟨rfl, value⟩ | ⟨val, member, value⟩)
    · exact ⟨property.2, List.mem_cons_self, value⟩
    · exact ⟨val, List.mem_cons_of_mem _ member, value⟩

/-- The two flags do not depend on the order of the properties. -/
theorem goodProperties_iff {uuid : String} {link : Option (String × String)} (u l : Bool) (properties : List Property)
    (open_walk : (l && u) = false) :
    goodProperties uuid link u l properties = true ↔
      (u = true ∨ Has properties "UUID" uuid) ∧ (l = true ∨ ∃ k ∈ link, Has properties k.1 k.2) := by
  induction properties generalizing u l with
  | nil =>
    rw [goodProperties]
    refine iff_of_false Bool.false_ne_true ?_
    have empty : ∀ key text, ¬Has [] key text := fun _ _ ⟨_, member, _⟩ => by cases member
    rintro ⟨rfl | has, linked⟩
    · obtain rfl | ⟨k, -, has⟩ := linked
      · cases open_walk
      · exact empty _ _ has
    · exact empty _ _ has
  | cons property properties ih =>
    obtain ⟨key, val⟩ := property
    rw [goodProperties]
    have uuid_step : (u || (key = "UUID" && val.getString = some uuid)) = true ∨ Has properties "UUID" uuid ↔
        u = true ∨ Has ((key, val) :: properties) "UUID" uuid := by
      rw [has_cons, Bool.or_eq_true, Bool.and_eq_true, decide_eq_true_iff, decide_eq_true_iff, or_assoc]
    have link_step : (l || link.any fun k => key = k.1 && val.getString = some k.2) = true ∨ (∃ k ∈ link, Has properties k.1 k.2) ↔
        l = true ∨ ∃ k ∈ link, Has ((key, val) :: properties) k.1 k.2 := by
      cases link with
      | none => simp
      | some k =>
        simp only [Option.any_some, Option.mem_def, Option.some_inj, exists_eq_left', has_cons, Bool.or_eq_true, Bool.and_eq_true,
          decide_eq_true_iff, or_assoc]
    rw [← uuid_step, ← link_step]
    split
    · rename_i both
      rw [Bool.and_eq_true] at both
      exact iff_of_true rfl ⟨.inl both.2, .inl both.1⟩
    · rename_i walking
      exact ih _ _ (Bool.eq_false_of_not_eq_true walking)

theorem goodObject_iff {devPath interface uuid : String} {link : Option (String × String)} (o : ManagedObject) :
    goodObject devPath interface uuid link o = true ↔ Candidate devPath interface uuid link o := by
  rw [goodObject, Candidate, Matches, Bool.and_eq_true, List.any_eq_true]
  refine and_congr_right fun _ => exists_congr fun i => and_congr_right fun _ => ?_
  rw [Bool.and_eq_true, decide_eq_true_iff, goodProperties_iff false link.isNone i.2 (Bool.and_false _)]
  refine and_congr_right fun _ => ?_
  cases link with
  | none => simp
  | some k => simp

theorem getGattPath_eq (addressed : Addressed names addr objects) (interface uuid : String) (link : Option (String × String)) :
    getGattPath names addr interface uuid link objects.objects =
      .ok (((devices names objects.objects).find? (sameAddress addr)).bind fun dev =>
        (objects.objects.find? (goodObject dev.1 interface uuid link)).map ManagedObject.path) := by
  rw [Addressed] at addressed
  rw [getGattPath, getObjectPath_eq, scan_eq, if_pos addressed]
  cases (devices names objects.objects).find? (sameAddress addr) <;> rfl

theorem getGattPath_fault (fault : ¬Addressed names addr objects) (interface uuid : String) (link : Option (String × String)) :
    getGattPath names addr interface uuid link objects.objects = .error .nullPointer := by
  rw [Addressed] at fault
  rw [getGattPath, getObjectPath_eq, scan_eq, if_neg fault]

/-! ## What determines what -/

theorem ManagedObjects.unique {o o' : ManagedObject} (here : o ∈ objects.objects) (here' : o' ∈ objects.objects)
    (same : o.path = o'.path) : o = o' := List.inj_on_of_nodup_map objects.paths here here' same

/-- An object has one link of a kind. -/
theorem Matches.link_unique {interface uuid key text text' : String} {o : ManagedObject}
    (first : Matches interface uuid (some (key, text)) o) (second : Matches interface uuid (some (key, text')) o) : text = text' := by
  obtain ⟨i, inside, rfl, -, linked⟩ := first
  obtain ⟨i', inside', name, -, linked'⟩ := second
  obtain rfl := List.inj_on_of_nodup_map o.names inside' inside name
  obtain ⟨val, member, value⟩ := linked _ rfl
  obtain ⟨val', member', value'⟩ := linked' _ rfl
  have same := List.inj_on_of_nodup_map (o.keys i' inside) member member' rfl
  have vals : val = val' := congrArg Prod.snd same
  rw [vals, value'] at value
  exact (Option.some.inj value).symm

theorem First.mem {α : Type} {l : List α} {P : α → Prop} {x : α} (first : First l P x) : x ∈ l := by
  obtain ⟨before, after, rfl, -⟩ := first
  exact List.mem_append_right _ List.mem_cons_self

theorem First.holds {α : Type} {l : List α} {P : α → Prop} {x : α} (first : First l P x) : P x := by
  obtain ⟨_, _, _, holds, _⟩ := first
  exact holds

theorem find?_of_first {α : Type} {l : List α} {p : α → Bool} {x : α} (first : First l (fun x => p x = true) x) : l.find? p = some x :=
  (find?_iff_first fun _ => Iff.rfl).2 first

theorem find?_candidate {devPath interface uuid : String} {link : Option (String × String)} {o : ManagedObject} :
    objects.objects.find? (goodObject devPath interface uuid link) = some o ↔
      First objects.objects (Candidate devPath interface uuid link) o := find?_iff_first goodObject_iff

/-! ## The stages -/

theorem charPath_found (addressed : Addressed names addr objects) {s c : ManagedObject}
    (first : FirstChar names addr srvUuid charUuid objects s c) :
    charPath names addr srvUuid charUuid objects.objects = .ok (some c.path) := by
  obtain ⟨dev, device, service, characteristic⟩ := first.found
  rw [charPath, getGattPath_eq addressed, find?_of_first device, Option.bind_some, find?_candidate.2 service]
  dsimp only [Option.map_some]
  rw [getGattPath_eq addressed, find?_of_first device, Option.bind_some, find?_candidate.2 characteristic]
  rfl

theorem charPath_missing (addressed : Addressed names addr objects)
    (missing : ¬∃ s c, FirstChar names addr srvUuid charUuid objects s c) :
    charPath names addr srvUuid charUuid objects.objects = .ok none := by
  rw [charPath, getGattPath_eq addressed]
  cases device : (devices names objects.objects).find? (sameAddress addr) with
  | none => rfl
  | some dev =>
    rw [Option.bind_some]
    cases service : objects.objects.find? (goodObject dev.1 dbusIfGattService1 srvUuid none) with
    | none => rfl
    | some s =>
      dsimp only [Option.map_some]
      rw [getGattPath_eq addressed, device, Option.bind_some]
      cases characteristic : objects.objects.find? (goodObject dev.1 dbusIfGattCharacteristic1 charUuid (some ("Service", s.path))) with
      | none => rfl
      | some c =>
        have first := (find?_iff_first fun _ => Iff.rfl).1 device
        exact absurd ⟨s, c, ⟨dev, first, find?_candidate.1 service, find?_candidate.1 characteristic⟩⟩ missing

theorem charPath_fault (fault : ¬Addressed names addr objects) :
    charPath names addr srvUuid charUuid objects.objects = .error .nullPointer := by
  rw [charPath, getGattPath_fault fault]

theorem FirstDesc.char {s c e : ManagedObject} (first : FirstDesc names addr srvUuid charUuid descUuid objects s c e) :
    FirstChar names addr srvUuid charUuid objects s c := by
  obtain ⟨dev, device, service, characteristic, -⟩ := first.found
  exact ⟨dev, device, service, characteristic⟩

theorem descPath_found (addressed : Addressed names addr objects) {s c e : ManagedObject}
    (first : FirstDesc names addr srvUuid charUuid descUuid objects s c e) :
    descPath names addr srvUuid charUuid descUuid objects.objects = .ok (some e.path) := by
  obtain ⟨dev, device, -, -, descriptor⟩ := first.found
  rw [descPath, charPath_found addressed first.char]
  dsimp only
  rw [getGattPath_eq addressed, find?_of_first device, Option.bind_some, find?_candidate.2 descriptor]
  rfl

theorem descPath_missing (addressed : Addressed names addr objects)
    (missing : ¬∃ s c e, FirstDesc names addr srvUuid charUuid descUuid objects s c e) :
    descPath names addr srvUuid charUuid descUuid objects.objects = .ok none := by
  rw [descPath]
  by_cases hit : ∃ s c, FirstChar names addr srvUuid charUuid objects s c
  · obtain ⟨s, c, first⟩ := hit
    obtain ⟨dev, device, service, characteristic⟩ := first.found
    rw [charPath_found addressed first]
    dsimp only
    rw [getGattPath_eq addressed, find?_of_first device, Option.bind_some]
    cases descriptor : objects.objects.find? (goodObject dev.1 dbusIfGattDescriptor1 descUuid (some ("Characteristic", c.path))) with
    | none => rfl
    | some e => exact absurd ⟨s, c, e, ⟨dev, device, service, characteristic, find?_candidate.1 descriptor⟩⟩ missing
  · rw [charPath_missing addressed hit]

theorem descPath_fault (fault : ¬Addressed names addr objects) :
    descPath names addr srvUuid charUuid descUuid objects.objects = .error .nullPointer := by
  rw [descPath, charPath_fault fault]

/-! ## Right paths -/

/-- A path that is right: of one of the objects, or none where there is none. -/
def Right (good : ManagedObject → Prop) : Except Fault (Option String) → Prop
  | .error _ => False
  | .ok none => ¬∃ c, good c
  | .ok (some p) => ∃ c, good c ∧ c.path = p

theorem addresses_iff {interface : String} {good : ManagedObject → Prop} {call : String → Output}
    (goes : ∀ p, ∃ method argument, (call p).access = some ⟨p, interface, method, argument⟩) (result : Except Fault (Option String)) :
    Addresses interface good (result.map (onPath call)) ↔ Right good result := by
  cases result with
  | error f => exact iff_of_false (fun ⟨_, returned, _⟩ => nomatch returned) id
  | ok found =>
    rw [Addresses]
    simp only [Except.map, Except.ok.injEq, exists_eq_left']
    cases found with
    | none => exact and_iff_right rfl
    | some p =>
      obtain ⟨method, argument, access⟩ := goes p
      rw [onPath, access]
      exact and_iff_right rfl

/-- What is found is right where the first hits are own ones, and there are some where there is a
right one. -/
theorem right_iff {α : Type} {own : α → Prop} {good : ManagedObject → Prop} {result : Except Fault (Option String)}
    (hit : α → Prop) (object : α → ManagedObject) (found : ∀ a, hit a → result = .ok (some (object a).path))
    (missing : (¬∃ a, hit a) → result = .ok none)
    (owned : ∀ a, hit a → ((∃ c, good c ∧ c.path = (object a).path) ↔ own a)) :
    Right good result ↔ (∀ a, hit a → own a) ∧ ((∃ c, good c) → ∃ a, hit a) := by
  by_cases some_hit : ∃ a, hit a
  · obtain ⟨a, first⟩ := some_hit
    rw [found a first, and_iff_left fun _ => ⟨a, first⟩]
    constructor
    · rintro ⟨c, holds, path⟩ a' first'
      have same := (found a first).symm.trans (found a' first')
      exact (owned a' first').1 ⟨c, holds, path.trans (Option.some.inj (Except.ok.inj same))⟩
    · exact fun all => (owned a first).2 (all a first)
  · rw [missing some_hit]
    constructor
    · exact fun none => ⟨fun a first => absurd ⟨a, first⟩ some_hit, fun holds => absurd holds none⟩
    · exact fun fits holds => some_hit (fits.2 holds)

/-- The service of a characteristic is the one that it names. -/
theorem firstChar_own {s c : ManagedObject} (first : FirstChar names addr srvUuid charUuid objects s c) :
    (∃ c', (∃ d s', CharOf addr srvUuid charUuid objects d s' c') ∧ c'.path = c.path) ↔
      ∃ d ∈ objects.objects, IsDevice addr d ∧ Below d s ∧ Below d c := by
  obtain ⟨dev, -, service, characteristic⟩ := first.found
  constructor
  · rintro ⟨c', ⟨d, s', of⟩, path⟩
    obtain rfl := ManagedObjects.unique of.inside.2.2 characteristic.mem path
    obtain rfl := ManagedObjects.unique of.inside.2.1 service.mem (of.characteristic.2.link_unique characteristic.holds.2)
    exact ⟨d, of.inside.1, of.device, of.service.1, of.characteristic.1⟩
  · rintro ⟨d, inside, device, belowS, belowC⟩
    exact ⟨c, ⟨d, s, ⟨inside, service.mem, characteristic.mem⟩, device, ⟨belowS, service.holds.2⟩,
      ⟨belowC, characteristic.holds.2⟩⟩, rfl⟩

theorem firstDesc_own {s c e : ManagedObject} (first : FirstDesc names addr srvUuid charUuid descUuid objects s c e) :
    (∃ e', (∃ d s' c', DescOf addr srvUuid charUuid descUuid objects d s' c' e') ∧ e'.path = e.path) ↔
      ∃ d ∈ objects.objects, IsDevice addr d ∧ Below d s ∧ Below d c ∧ Below d e := by
  obtain ⟨dev, -, service, characteristic, descriptor⟩ := first.found
  constructor
  · rintro ⟨e', ⟨d, s', c', of⟩, path⟩
    obtain rfl := ManagedObjects.unique of.here descriptor.mem path
    obtain rfl := ManagedObjects.unique of.inside.2.2 characteristic.mem (of.descriptor.2.link_unique descriptor.holds.2)
    obtain rfl := ManagedObjects.unique of.inside.2.1 service.mem (of.characteristic.2.link_unique characteristic.holds.2)
    exact ⟨d, of.inside.1, of.device, of.service.1, of.characteristic.1, of.descriptor.1⟩
  · rintro ⟨d, inside, device, belowS, belowC, belowE⟩
    have char : CharOf addr srvUuid charUuid objects d s c :=
      ⟨⟨inside, service.mem, characteristic.mem⟩, device, ⟨belowS, service.holds.2⟩, ⟨belowC, characteristic.holds.2⟩⟩
    exact ⟨e, ⟨d, s, c, char, descriptor.mem, ⟨belowE, descriptor.holds.2⟩⟩, rfl⟩

theorem charPath_right :
    Right (fun c => ∃ d s, CharOf addr srvUuid charUuid objects d s c) (charPath names addr srvUuid charUuid objects.objects) ↔
      CharFits names addr srvUuid charUuid objects := by
  by_cases addressed : Addressed names addr objects
  · have exact_iff := right_iff
      (fun a : ManagedObject × ManagedObject => FirstChar names addr srvUuid charUuid objects a.1 a.2) Prod.snd
      (fun a first => charPath_found addressed first)
      (fun missing => charPath_missing addressed fun ⟨s, c, first⟩ => missing ⟨(s, c), first⟩)
      (fun a first => firstChar_own first)
    rw [exact_iff]
    constructor
    · rintro ⟨own, served⟩
      refine ⟨addressed, fun s c first => own (s, c) first, ?_⟩
      rintro ⟨d, s, c, of⟩
      obtain ⟨a, first⟩ := served ⟨c, d, s, of⟩
      exact ⟨a.1, a.2, first⟩
    · rintro ⟨-, own, served⟩
      refine ⟨fun a first => own a.1 a.2 first, ?_⟩
      rintro ⟨c, d, s, of⟩
      obtain ⟨s, c, first⟩ := served ⟨d, s, c, of⟩
      exact ⟨(s, c), first⟩
  · rw [charPath_fault addressed]
    exact iff_of_false id fun fits => addressed fits.addressed

theorem descPath_right :
    Right (fun e => ∃ d s c, DescOf addr srvUuid charUuid descUuid objects d s c e)
        (descPath names addr srvUuid charUuid descUuid objects.objects) ↔
      DescFits names addr srvUuid charUuid descUuid objects := by
  by_cases addressed : Addressed names addr objects
  · have exact_iff := right_iff
      (fun a : ManagedObject × ManagedObject × ManagedObject =>
        FirstDesc names addr srvUuid charUuid descUuid objects a.1 a.2.1 a.2.2) (fun a => a.2.2)
      (fun a first => descPath_found addressed first)
      (fun missing => descPath_missing addressed fun ⟨s, c, e, first⟩ => missing ⟨(s, c, e), first⟩)
      (fun a first => firstDesc_own first)
    rw [exact_iff]
    constructor
    · rintro ⟨own, served⟩
      refine ⟨addressed, fun s c e first => own (s, c, e) first, ?_⟩
      rintro ⟨d, s, c, e, of⟩
      obtain ⟨a, first⟩ := served ⟨e, d, s, c, of⟩
      exact ⟨a.1, a.2.1, a.2.2, first⟩
    · rintro ⟨-, own, served⟩
      refine ⟨fun a first => own a.1 a.2.1 a.2.2 first, ?_⟩
      rintro ⟨e, d, s, c, of⟩
      obtain ⟨s, c, e, first⟩ := served ⟨d, s, c, e, of⟩
      exact ⟨(s, c, e), first⟩
  · rw [descPath_fault addressed]
    exact iff_of_false id fun fits => addressed fits.addressed

theorem readValue_goes (interface : String) (reply : Option (List Byte)) (p : String) :
    ∃ method argument, (readValue interface p reply).access = some ⟨p, interface, method, argument⟩ := by
  cases reply with
  | none => exact ⟨_, _, rfl⟩
  | some bytes => exact ⟨_, _, rfl⟩

/-- The calls go to a characteristic, or descriptor, of the device with the UUIDs, or fail where it
has none, if and only if the first hits are those of such an object. -/
theorem paths_iff (names : AssignedNumbers) (addr srvUuid charUuid descUuid : String) (objects : ManagedObjects)
    (reply : Option (List Byte)) (bytes : List Byte) (replied : Bool) :
    let ofChar := fun c => ∃ d s, CharOf addr srvUuid charUuid objects d s c
    let ofDesc := fun e => ∃ d s c, DescOf addr srvUuid charUuid descUuid objects d s c e
    (Addresses dbusIfGattCharacteristic1 ofChar (btGattCharReadValue names addr srvUuid charUuid objects reply) ↔
        CharFits names addr srvUuid charUuid objects) ∧
      (Addresses dbusIfGattCharacteristic1 ofChar (btGattCharWriteValue names addr srvUuid charUuid objects bytes replied) ↔
        CharFits names addr srvUuid charUuid objects) ∧
      (Addresses dbusIfGattDescriptor1 ofDesc (btGattDescReadValue names addr srvUuid charUuid descUuid objects reply) ↔
        DescFits names addr srvUuid charUuid descUuid objects) ∧
      (Addresses dbusIfGattDescriptor1 ofDesc (btGattDescWriteValue names addr srvUuid charUuid descUuid objects bytes replied) ↔
        DescFits names addr srvUuid charUuid descUuid objects) :=
  ⟨(addresses_iff (readValue_goes _ reply) _).trans charPath_right,
    (addresses_iff (fun _ => ⟨_, _, rfl⟩) _).trans charPath_right,
    (addresses_iff (readValue_goes _ reply) _).trans descPath_right,
    (addresses_iff (fun _ => ⟨_, _, rfl⟩) _).trans descPath_right⟩

/-- A device with two services of one UUID, the second of which has the characteristic. -/
def twoServices : ManagedObjects where
  objects :=
    [⟨"/d", [("org.bluez.Device1", [("Address", .string "A")])], by decide, by decide⟩,
      ⟨"/d/s1", [("org.bluez.GattService1", [("UUID", .string "180f")])], by decide, by decide⟩,
      ⟨"/d/s2", [("org.bluez.GattService1", [("UUID", .string "180f")])], by decide, by decide⟩,
      ⟨"/d/s2/c", [("org.bluez.GattCharacteristic1", [("UUID", .string "2a19"), ("Service", .objectPath "/d/s2")])], by decide,
        by decide⟩]
  paths := by decide

theorem secondService_missed :
    let read := btGattCharReadValue ⟨fun _ => "", fun _ => none⟩ "A" "180f" "2a19" twoServices (some [80])
    read = .ok ⟨.btError, none, []⟩ ∧
      ¬Addresses dbusIfGattCharacteristic1 (fun c => ∃ d s, CharOf "A" "180f" "2a19" twoServices d s c) read := by
  refine ⟨rfl, ?_⟩
  rintro ⟨o, returned, law⟩
  cases returned
  refine law.2 ⟨twoServices.objects[3], twoServices.objects[0], twoServices.objects[2], ?_⟩
  constructor
  · exact ⟨List.getElem_mem _, List.getElem_mem _, List.getElem_mem _⟩
  · exact ⟨_, List.mem_cons_self, rfl, "A", List.mem_cons_self, rfl⟩
  · exact ⟨by decide, _, List.mem_cons_self, rfl, ⟨_, List.mem_cons_self, rfl⟩, nofun⟩
  · refine ⟨by decide, _, List.mem_cons_self, rfl, ⟨_, List.mem_cons_self, rfl⟩, ?_⟩
    rintro _ ⟨⟩
    exact ⟨_, List.mem_cons_of_mem _ List.mem_cons_self, rfl⟩

end ArtikSdk.Bluetooth.Gatt.Resolve
