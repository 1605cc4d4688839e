import ArtikSdk.Base.Error
import ArtikSdk.Lib.Bytes
import ArtikSdk.Lib.Cells
import ArtikSdk.Lib.Run

/-!
# GATT server: services, characteristics and descriptors

The lists behind the ids, the object paths exported on the bus, and the calls that add, look up
and remove. The connection to the bus is there, and memory is always found. A pointer to a
characteristic or descriptor is the number of its registration, which the bus never gives twice.
-/

namespace ArtikSdk.Bluetooth.Gatt
open Lib

inductive Fault where
  | nullPointer
  | useAfterFree
  | doubleFree
deriving DecidableEq

/-- An object path, by the numbers printed in it. -/
inductive Path where
  | service (svc : Nat)
  | characteristic (svc chr : Nat)
  | descriptor (svc chr desc : Nat)
deriving DecidableEq

/-- `GATT_SERVICE_PREFIX` -/
def gattServicePrefix : List Char := "/artik/service".toList

/-- `GATT_CHARACTERISTIC_PREFIX` -/
def gattCharacteristicPrefix : List Char := "/characteristic".toList

/-- `GATT_DESCRIPTOR_PREFIX` -/
def gattDescriptorPrefix : List Char := "/descriptor".toList

/-- What `%d` prints of a position. -/
def printed (n : Nat) : List Char := Nat.toDigits 10 n

/-- What is printed behind the number of the service. -/
def Path.tail : Path → List Char
  | .service _ => []
  | .characteristic _ chr => gattCharacteristicPrefix ++ printed chr
  | .descriptor _ chr desc => gattCharacteristicPrefix ++ (printed chr ++ (gattDescriptorPrefix ++ printed desc))

def Path.svc : Path → Nat
  | .service svc | .characteristic svc _ | .descriptor svc _ _ => svc

/-- The text of a path. -/
def Path.text (p : Path) : List Char := gattServicePrefix ++ (printed p.svc ++ p.tail)

/-- What `bt_gatt_char` and `bt_gatt_desc` have in common: the path, the number of its
registration, the stored value with its length, and which callbacks are set. That for
notifications is of a characteristic only. -/
structure Attribute where
  path : Path
  objectId : Nat
  uuid : Option String
  props : List String
  value : Option Nat
  valueLength : Nat
  readCallback : Bool
  writeCallback : Bool
  notifyCallback : Bool

/-- `bt_gatt_char`. -/
structure BtGattChar extends Attribute where
  descData : List Attribute

/-- `bt_gatt_service`. -/
structure BtGattService where
  servPath : Path
  servId : Nat
  serviceUuid : Option String
  isSvcPrimary : Bool
  charData : List BtGattChar

/-- `bt_gatt_req_type`, without the end mark. -/
inductive BtGattReqType where
  | read
  | write
  | notify
deriving DecidableEq

/-- `bt_gatt_req_handle`: one is made for each invocation, which names it. -/
structure BtGattReqHandle where
  type : BtGattReqType
  chr : Option Nat
  desc : Option Nat
  invocation : Nat
  len : Nat
  value : Option Nat

/-- The server's part of `hci`, with the exported paths, how many registrations there were, the
value buffers, the handles that were not freed, and how many method calls there were. -/
structure Hci where
  gattServices : List BtGattService
  exported : List Path
  objects : Nat
  heap : Cells (List Byte)
  requests : List BtGattReqHandle
  invocations : Nat

def Hci.init : Hci := ⟨[], [], 0, .empty, [], 0⟩

/-- `g_slist_nth_data`: an index below zero, read as unsigned, is behind every list. -/
def nth {α : Type} (l : List α) (id : Int) : Option α := if id < 0 then none else l[id.toNat]?

/-- `g_slist_length(l) < id`, with `id` read as unsigned. -/
def shorter {α : Type} (l : List α) (id : Int) : Prop := id < 0 ∨ (l.length : Int) < id

instance {α : Type} (l : List α) (id : Int) : Decidable (shorter l id) := inferInstanceAs (Decidable (_ ∨ _))

/-! ## Attributes -/

/-- The characteristics and descriptors of a service. -/
def BtGattService.attributes (svc : BtGattService) : List Attribute := svc.charData.flatMap fun chr => chr.toAttribute :: chr.descData

def Hci.attributes (s : Hci) : List Attribute := s.gattServices.flatMap BtGattService.attributes

/-- What a pointer to an attribute points to. -/
def Hci.attribute (o : Nat) (s : Hci) : Option Attribute := s.attributes.find? fun a => a.objectId = o

/-- An assignment through a pointer to an attribute. -/
def assign (o : Nat) (f : Attribute → Attribute) (a : Attribute) : Attribute := if a.objectId = o then f a else a

def BtGattChar.assign (o : Nat) (f : Attribute → Attribute) (chr : BtGattChar) : BtGattChar where
  toAttribute := Gatt.assign o f chr.toAttribute
  descData := chr.descData.map (Gatt.assign o f)

def Hci.assign (o : Nat) (f : Attribute → Attribute) (s : Hci) : Hci :=
  { s with gattServices := s.gattServices.map fun svc => { svc with charData := svc.charData.map (·.assign o f) } }

/-! ## Looking up -/

/-- `_find_chr_list_by_id` -/
def findChrListById (svcId charId : Int) (s : Hci) : Except Fault (Option BtGattChar) :=
  if shorter s.gattServices svcId then .ok none
  else
    match nth s.gattServices svcId with
    | none => .error .nullPointer
    | some svc => .ok (if shorter svc.charData charId then none else nth svc.charData charId)

/-- `_find_desc_list_by_id` -/
def findDescListById (svcId charId descId : Int) (s : Hci) : Except Fault (Option Attribute) :=
  (findChrListById svcId charId s).map fun found => found.bind fun chr =>
    if shorter chr.descData descId then none else nth chr.descData descId

/-! ## Adding -/

/-- `artik_bt_gatt_chr` and `artik_bt_gatt_desc`, which have the same fields. -/
structure ArtikBtGattAttribute where
  uuid : Option String
  value : List Byte
  property : BitVec 32

/-- A `GError` of the bus: `dbusError` is code 36 of the I/O errors. -/
inductive GError where
  | dbusError
  | other

/-- `bt_check_error` -/
def btCheckError : Option GError → ArtikError
  | none => .ok
  | some .dbusError => .busy
  | some .other => .btError

/-- `g_dbus_connection_register_object`: a path is exported once. -/
def registerObject (path : Path) (error : Option GError) (s : Hci) : Option GError :=
  if error.isSome then error else if path ∈ s.exported then some .other else none

/-- The flags of the bits that are set, `read` where there is none. -/
def flags (names : List (BitVec 32 × String)) (properties : BitVec 32) : List String :=
  if properties = 0 then ["read"] else names.filterMap fun n => if properties &&& n.1 ≠ 0 then some n.2 else none

/-- `_set_char_properties` -/
def setCharProperties : BitVec 32 → List String :=
  flags
    [(0x01, "broadcast"), (0x02, "read"), (0x04, "write-without-response"), (0x08, "write"), (0x10, "notify"),
      (0x20, "indicate"), (0x40, "authenticated-signed-writes")]

/-- `_set_desc_properties` -/
def setDescProperties : BitVec 32 → List String :=
  flags
    [(0x01, "read"), (0x02, "write"), (0x04, "encrypt-read"), (0x08, "encrypt-write"),
      (0x10, "encrypt-authenticated-read"), (0x20, "encrypt-authenticated-write"), (0x40, "secure-read"),
      (0x80, "secure-write")]

/-- A new characteristic or descriptor; its value is a buffer of its own where it has one. -/
def ArtikBtGattAttribute.make (given : ArtikBtGattAttribute) (path : Path) (props : List String) (s : Hci) : Attribute where
  path := path
  objectId := s.objects
  uuid := given.uuid
  props := props
  value := if given.value = [] then none else some s.heap.next
  valueLength := given.value.length
  readCallback := false
  writeCallback := false
  notifyCallback := false

/-- The registration, and the buffer of the value. -/
def Hci.register (path : Path) (value : List Byte) (s : Hci) : Hci :=
  { s with
    exported := s.exported ++ [path]
    objects := s.objects + 1
    heap := if value = [] then s.heap else s.heap.alloc value }

/-- `bt_gatt_add_service` -/
def btGattAddService (uuid : Option String) (primary : Bool) (error : Option GError) (s : Hci) : ArtikError × Option Nat × Hci :=
  let servId := s.gattServices.length
  let path := Path.service servId
  match registerObject path error s with
  | some e => (btCheckError (some e), none, s)
  | none =>
    let registered := s.register path []
    (.ok, some servId, { registered with gattServices := s.gattServices ++ [⟨path, s.objects, uuid, primary, []⟩] })

/-- `bt_gatt_add_characteristic`: whatever `svc_id` is, the service is that with id 0. -/
def btGattAddCharacteristic (_svcId : Int) (chr : ArtikBtGattAttribute) (error : Option GError) (s : Hci) :
    Except Fault (ArtikError × Option Nat × Hci) :=
  if chr.uuid = none then .ok (.btError, none, s)
  else
    match s.gattServices with
    | [] => .error .nullPointer
    | service :: rest =>
      let charId := service.charData.length
      let path := Path.characteristic 0 charId
      match registerObject path error s with
      | some e => .ok (btCheckError (some e), none, s)
      | none =>
        let characteristic : BtGattChar := ⟨chr.make path (setCharProperties chr.property) s, []⟩
        .ok
          (.ok, some charId,
            { s.register path chr.value with
              gattServices := { service with charData := service.charData ++ [characteristic] } :: rest })

/-- The descriptor behind those of the characteristic at the given positions. -/
def appendDesc (i j : Nat) (desc : Attribute) (services : List BtGattService) : List BtGattService :=
  services.modify i fun svc =>
    { svc with charData := svc.charData.modify j fun chr => { chr with descData := chr.descData ++ [desc] } }

/-- `bt_gatt_add_descriptor` -/
def btGattAddDescriptor (serviceId charId : Int) (desc : ArtikBtGattAttribute) (error : Option GError) (s : Hci) :
    Except Fault (ArtikError × Option Nat × Hci) :=
  match nth s.gattServices serviceId with
  | none => .error .nullPointer
  | some service =>
    match nth service.charData charId with
    | none => .error .nullPointer
    | some characteristic =>
      let descId := characteristic.descData.length
      let path := Path.descriptor serviceId.toNat charId.toNat descId
      match registerObject path error s with
      | some e => .ok (btCheckError (some e), none, s)
      | none =>
        .ok
          (.ok, some descId,
            { s.register path desc.value with
              gattServices := appendDesc serviceId.toNat charId.toNat (desc.make path (setDescProperties desc.property) s) s.gattServices })

/-! ## Callbacks -/

def Attribute.onRead (callback : Bool) (a : Attribute) : Attribute := { a with readCallback := callback }

def Attribute.onWrite (callback : Bool) (a : Attribute) : Attribute := { a with writeCallback := callback }

def Attribute.onNotify (callback : Bool) (a : Attribute) : Attribute := { a with notifyCallback := callback }

def setChr (f : Attribute → Attribute) (svcId charId : Int) (s : Hci) : Except Fault (ArtikError × Hci) :=
  (findChrListById svcId charId s).map fun found =>
    match found with
    | none => (.badArgs, s)
    | some chr => (.ok, s.assign chr.objectId f)

def setDesc (f : Attribute → Attribute) (svcId charId descId : Int) (s : Hci) : Except Fault (ArtikError × Hci) :=
  (findDescListById svcId charId descId s).map fun found =>
    match found with
    | none => (.badArgs, s)
    | some desc => (.ok, s.assign desc.objectId f)

/-- `bt_gatt_set_chr_on_read_request` -/
def btGattSetChrOnReadRequest (svcId charId : Int) (callback : Bool) : Hci → Except Fault (ArtikError × Hci) :=
  setChr (.onRead callback) svcId charId

/-- `bt_gatt_set_chr_on_write_request` -/
def btGattSetChrOnWriteRequest (svcId charId : Int) (callback : Bool) : Hci → Except Fault (ArtikError × Hci) :=
  setChr (.onWrite callback) svcId charId

/-- `bt_gatt_set_chr_on_notify_request` -/
def btGattSetChrOnNotifyRequest (svcId charId : Int) (callback : Bool) : Hci → Except Fault (ArtikError × Hci) :=
  setChr (.onNotify callback) svcId charId

/-- `bt_gatt_set_desc_on_read_request` -/
def btGattSetDescOnReadRequest (svcId charId descId : Int) (callback : Bool) : Hci → Except Fault (ArtikError × Hci) :=
  setDesc (.onRead callback) svcId charId descId

/-- `bt_gatt_set_desc_on_write_request` -/
def btGattSetDescOnWriteRequest (svcId charId descId : Int) (callback : Bool) : Hci → Except Fault (ArtikError × Hci) :=
  setDesc (.onWrite callback) svcId charId descId

/-! ## Removing -/

/-- The buffers that `_free_service` frees: those of values that are not empty. -/
def BtGattService.freed (svc : BtGattService) : List Nat :=
  (svc.attributes.filter fun a => 0 < a.valueLength).filterMap Attribute.value

/-- `_free_service` -/
def freeService (id : Int) (s : Hci) : Except Fault Hci :=
  match nth s.gattServices id with
  | none => .ok s
  | some svc =>
    match s.heap.freeAll svc.freed with
    | none => .error .doubleFree
    | some heap => .ok { s with gattServices := s.gattServices.eraseIdx id.toNat, heap := heap }

/-- `bt_gatt_unregister_service`: the error that it checks is never set. -/
def btGattUnregisterService (id : Int) (s : Hci) : Except Fault (ArtikError × Hci) := (freeService id s).map fun s => (.ok, s)

/-! ## Calls of the application -/

/-- A call that adds, looks up or removes. -/
inductive ServerCall where
  | addService (uuid : Option String) (primary : Bool) (error : Option GError)
  | addCharacteristic (svcId : Int) (chr : ArtikBtGattAttribute) (error : Option GError)
  | addDescriptor (serviceId charId : Int) (desc : ArtikBtGattAttribute) (error : Option GError)
  | setChrOnReadRequest (svcId charId : Int) (callback : Bool)
  | setChrOnWriteRequest (svcId charId : Int) (callback : Bool)
  | setChrOnNotifyRequest (svcId charId : Int) (callback : Bool)
  | setDescOnReadRequest (svcId charId descId : Int) (callback : Bool)
  | setDescOnWriteRequest (svcId charId descId : Int) (callback : Bool)
  | unregisterService (id : Int)

/-- The result and, for a successful add, the id. -/
structure ServerOutput where
  result : ArtikError
  id : Option Nat

def serverStep (c : ServerCall) (s : Hci) : Except Fault (Hci × ServerOutput) :=
  let plain (r : Except Fault (ArtikError × Hci)) := r.map fun r => (r.2, (⟨r.1, none⟩ : ServerOutput))
  match c with
  | .addService uuid primary error =>
    let r := btGattAddService uuid primary error s
    .ok (r.2.2, ⟨r.1, r.2.1⟩)
  | .addCharacteristic svcId chr error => (btGattAddCharacteristic svcId chr error s).map fun r => (r.2.2, ⟨r.1, r.2.1⟩)
  | .addDescriptor serviceId charId desc error => (btGattAddDescriptor serviceId charId desc error s).map fun r => (r.2.2, ⟨r.1, r.2.1⟩)
  | .setChrOnReadRequest svcId charId callback => plain (btGattSetChrOnReadRequest svcId charId callback s)
  | .setChrOnWriteRequest svcId charId callback => plain (btGattSetChrOnWriteRequest svcId charId callback s)
  | .setChrOnNotifyRequest svcId charId callback => plain (btGattSetChrOnNotifyRequest svcId charId callback s)
  | .setDescOnReadRequest svcId charId descId callback => plain (btGattSetDescOnReadRequest svcId charId descId callback s)
  | .setDescOnWriteRequest svcId charId descId callback => plain (btGattSetDescOnWriteRequest svcId charId descId callback s)
  | .unregisterService id => plain (btGattUnregisterService id s)

end ArtikSdk.Bluetooth.Gatt
