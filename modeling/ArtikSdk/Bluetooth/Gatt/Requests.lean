import ArtikSdk.Bluetooth.Gatt.State

/-!
# GATT server: method calls and their answers

The method calls of the bus, the answers of the application, and notifications. A request is a
handle with pointers to the attribute and, for a write, to the buffer that was received; it stays
until an answer frees it.
-/

namespace ArtikSdk.Bluetooth.Gatt
open Lib

/-- `artik_bt_gatt_req_state_type`; `other` is any value outside of the enumeration. -/
inductive ReqState where
  | ok
  | failed
  | inProgress
  | notPermitted
  | invalidValueLength
  | notAuthorized
  | notSupported
  | other
deriving DecidableEq

/-- A property of a managed object. -/
inductive Variant where
  | string (s : String)
  | boolean (b : Bool)
  | path (p : Path)
  | paths (ps : List Path)
  | bytes (bs : List Byte)
  | strings (ss : List String)

/-- An entry of the answer to GetManagedObjects. -/
structure ManagedObject where
  path : Path
  interface : String
  properties : List (String × Variant)

/-- What is sent for an invocation. -/
inductive Reply where
  | unit
  | value (bytes : List Byte)
  | objects (os : List ManagedObject)
  | error (name message : String)

/-- The methods of the three interfaces; `options` are not read. -/
inductive Method where
  | readValue
  | writeValue (value : List Byte)
  | startNotify
  | stopNotify
  | indicateConfirm (address : String) (complete : Bool)
  | getManagedObjects

/-- `g_dbus_method_invocation_return_value` with no value: it is sent where the method returns none. -/
def returnNull : Method → List Reply
  | .readValue | .getManagedObjects => []
  | .writeValue _ | .startNotify | .stopNotify | .indicateConfirm .. => [.unit]

/-- `g_dbus_method_invocation_return_dbus_error`: neither argument may be null. -/
def returnDbusError (name message : Option String) : List Reply :=
  match name, message with
  | some name, some message => [.error name message]
  | _, _ => []

/-! ## Values -/

/-- The bytes that are read through the value pointer of an attribute. -/
def Hci.stored (a : Attribute) (s : Hci) : Except Fault (List Byte) :=
  match a.value with
  | none => if a.valueLength = 0 then .ok [] else .error .nullPointer
  | some b =>
    match s.heap.cells b with
    | none => .error .useAfterFree
    | some bytes => .ok (bytes.take a.valueLength)

/-- `if (*val) free(*val)` -/
def freeValue (o : Nat) (s : Hci) : Except Fault Hci :=
  match s.attribute o with
  | none => .error .useAfterFree
  | some a =>
    match a.value with
    | none => .ok s
    | some b =>
      match s.heap.free b with
      | none => .error .doubleFree
      | some heap => .ok { s with heap := heap }

/-- The attribute takes over a buffer. -/
def Attribute.keep (value : Option Nat) (len : Nat) (a : Attribute) : Attribute := { a with value := value, valueLength := len }

def Hci.setValue (o : Nat) (value : Option Nat) (len : Nat) (s : Hci) : Hci := s.assign o (.keep value len)

/-- The old value is freed and a copy of the new one is stored. -/
def replaceValue (o : Nat) (bytes : List Byte) (s : Hci) : Except Fault Hci :=
  (freeValue o s).map fun s => { s with heap := s.heap.alloc bytes }.setValue o (some s.heap.next) bytes.length

/-! ## Requests -/

def Hci.request (k : Nat) (s : Hci) : Option BtGattReqHandle := s.requests.find? fun r => r.invocation = k

/-- `free(handle)` -/
def Hci.close (k : Nat) (s : Hci) : Hci := { s with requests := s.requests.eraseP fun r => r.invocation = k }

/-- What a call sent: the result, and the replies with their invocations. -/
structure Output where
  result : ArtikError
  replies : List (Nat × Reply)

/-- `bt_gatt_req_set_value`; the callers pass at least one byte. -/
def btGattReqSetValue (k : Nat) (value : List Byte) (s : Hci) : Except Fault (Hci × Output) :=
  match s.request k with
  | none => .error .useAfterFree
  | some handle =>
    if handle.type ≠ .read then .ok (s, ⟨.badArgs, []⟩)
    else
      match handle.chr.or handle.desc with
      | none => .error .nullPointer
      | some o => (replaceValue o value s).map fun s => (s.close k, ⟨.ok, [(k, .value value)]⟩)

/-- `_return_dbus_state` -/
def returnDbusState (type : BtGattReqType) (state : ReqState) (errMsg : Option String) : ArtikError × List Reply :=
  let error (name : Option String) := (ArtikError.ok, returnDbusError name errMsg)
  match state with
  | .ok => if type ≠ .write then (.badArgs, []) else (.ok, returnNull (.writeValue []))
  | .failed => error (some "org.bluez.Error.Failed")
  | .inProgress => error (some "org.bluez.Error.InProgress")
  | .notPermitted => if type = .notify then (.badArgs, []) else error (some "org.bluez.Error.NotPermitted")
  | .invalidValueLength => if type ≠ .write then (.badArgs, []) else error (some "org.bluez.Error.InvalidValueLength")
  | .notAuthorized => if type = .notify then (.badArgs, []) else error (some "org.bluez.Error.NotAuthorized")
  | .notSupported => error (some "org.bluez.Error.NotSupported")
  | .other => error none

/-- The attribute takes over the buffer of an accepted write. -/
def acceptWrite (handle : BtGattReqHandle) (s : Hci) : Except Fault Hci :=
  match handle.chr.or handle.desc with
  | none => .ok s
  | some o => (freeValue o s).map fun s => s.setValue o handle.value handle.len

/-- The buffer of a write that was not accepted is freed. -/
def dropWrite (handle : BtGattReqHandle) (s : Hci) : Except Fault Hci :=
  match handle.value with
  | none => .ok s
  | some b =>
    match s.heap.free b with
    | none => .error .doubleFree
    | some heap => .ok { s with heap := heap }

/-- `bt_gatt_req_set_result` -/
def btGattReqSetResult (k : Nat) (state : ReqState) (errMsg : Option String) (s : Hci) : Except Fault (Hci × Output) :=
  match s.request k with
  | none => .error .useAfterFree
  | some handle =>
    match if handle.type = .write ∧ state = .ok then acceptWrite handle s else .ok s with
    | .error f => .error f
    | .ok s =>
      let (err, replies) := returnDbusState handle.type state errMsg
      if err ≠ .ok then .ok (s, ⟨err, []⟩)
      else
        (if state = .ok then .ok s else dropWrite handle s).map fun s =>
          (s.close k, ⟨.ok, replies.map fun reply => (k, reply)⟩)

/-! ## Method calls -/

/-- A new request. -/
def Hci.open (handle : BtGattReqHandle) (s : Hci) : Hci := { s with requests := s.requests ++ [handle] }

/-- `ReadValue` of `_char_method_call` and `_desc_method_call`, with the pointers of the handle. -/
def readValue (a : Attribute) (chr desc : Option Nat) (k : Nat) (s : Hci) : Except Fault (Hci × Output) :=
  if a.readCallback then .ok (s.open ⟨.read, chr, desc, k, 0, none⟩, ⟨.ok, []⟩)
  else (s.stored a).map fun bytes => (s, ⟨.ok, [(k, .value bytes)]⟩)

/-- `WriteValue` of the two. -/
def writeValue (a : Attribute) (chr desc : Option Nat) (value : List Byte) (k : Nat) (s : Hci) : Except Fault (Hci × Output) :=
  let s := { s with heap := s.heap.alloc value }.open ⟨.write, chr, desc, k, value.length, some s.heap.next⟩
  if a.writeCallback then .ok (s, ⟨.ok, []⟩) else btGattReqSetResult k .ok none s

/-- `_find_chr_list_by_path` -/
def findChrListByPath (path : Path) (s : Hci) : Option BtGattChar :=
  (s.gattServices.flatMap BtGattService.charData).find? fun chr => chr.path = path

/-- `_find_desc_list` -/
def findDescList (path : Path) (s : Hci) : Option Attribute :=
  ((s.gattServices.flatMap BtGattService.charData).flatMap BtGattChar.descData).find? fun desc => desc.path = path

/-- `_char_method_call` -/
def charMethodCall (path : Path) (method : Method) (k : Nat) (s : Hci) : Except Fault (Hci × Output) :=
  match findChrListByPath path s with
  | none => .ok (s, ⟨.ok, (returnNull method).map fun reply => (k, reply)⟩)
  | some chr =>
    match method with
    | .readValue => readValue chr.toAttribute (some chr.objectId) none k s
    | .writeValue value => writeValue chr.toAttribute (some chr.objectId) none value k s
    -- the notify callback is called and no value is returned
    | .startNotify | .stopNotify | .indicateConfirm .. | .getManagedObjects => .ok (s, ⟨.ok, []⟩)

/-- `_desc_method_call` -/
def descMethodCall (path : Path) (method : Method) (k : Nat) (s : Hci) : Except Fault (Hci × Output) :=
  match findDescList path s with
  | none => .ok (s, ⟨.ok, (returnNull method).map fun reply => (k, reply)⟩)
  | some desc =>
    match method with
    | .readValue => readValue desc none (some desc.objectId) k s
    | .writeValue value => writeValue desc none (some desc.objectId) value k s
    | .startNotify | .stopNotify | .indicateConfirm .. | .getManagedObjects => .ok (s, ⟨.ok, []⟩)

/-- `g_variant_new_string`, of a UUID. -/
def uuidString (uuid : Option String) : Except Fault Variant :=
  match uuid with
  | none => .error .nullPointer
  | some uuid => .ok (.string uuid)

/-- The `Value` of an attribute that has one. -/
def Hci.valueProperty (a : Attribute) (s : Hci) : Except Fault (List (String × Variant)) :=
  if a.value = none then .ok [] else (s.stored a).map fun bytes => [("Value", .bytes bytes)]

def managedDesc (chr : BtGattChar) (s : Hci) (desc : Attribute) : Except Fault ManagedObject := do
  let uuid ← uuidString desc.uuid
  let value ← s.valueProperty desc
  return ⟨desc.path, "org.bluez.GattDescriptor1",
    [("UUID", uuid), ("Characteristic", .path chr.path)] ++ value ++ [("Flags", .strings desc.props)]⟩

def managedChar (svc : BtGattService) (s : Hci) (chr : BtGattChar) : Except Fault (List ManagedObject) := do
  let uuid ← uuidString chr.uuid
  let value ← s.valueProperty chr.toAttribute
  let descs ← chr.descData.mapM (managedDesc chr s)
  return ⟨chr.path, "org.bluez.GattCharacteristic1",
    [("UUID", uuid), ("Service", .path svc.servPath)] ++ value ++
      [("Flags", .strings chr.props), ("Notifying", .boolean false), ("Unicast", .string "00:00:00:00:00:00"),
        ("Descriptors", .paths (chr.descData.map Attribute.path))]⟩ :: descs

def managedObjects (svc : BtGattService) (s : Hci) : Except Fault (List ManagedObject) := do
  let uuid ← uuidString svc.serviceUuid
  let chars ← svc.charData.mapM (managedChar svc s)
  return ⟨svc.servPath, "org.bluez.GattService1",
    [("UUID", uuid), ("Primary", .boolean svc.isSvcPrimary),
      ("Characteristics", .paths (svc.charData.map fun chr => chr.path))]⟩ :: chars.flatten

/-- `_serv_method_call`: the number in the path, whose prefix is that of every service, is the
position. -/
def servMethodCall (serv : Nat) (method : Method) (k : Nat) (s : Hci) : Except Fault (Hci × Output) :=
  match method with
  | .getManagedObjects =>
    match s.gattServices[serv]? with
    | none => .error .nullPointer
    | some svc => (managedObjects svc s).map fun os => (s, ⟨.ok, [(k, .objects os)]⟩)
  | _ => .ok (s, ⟨.ok, []⟩)

/-- The interface exported at a path has the method. -/
def Path.offers : Path → Method → Bool
  | .service _, .getManagedObjects => true
  | .characteristic .., .getManagedObjects => false
  | .characteristic .., _ => true
  | .descriptor .., .readValue | .descriptor .., .writeValue _ => true
  | _, _ => false

/-- A method call that the bus passes on: the path is exported, and its interface has the method. -/
def Hci.dispatches (path : Path) (method : Method) (s : Hci) : Bool := path ∈ s.exported ∧ path.offers method

def methodCall (path : Path) (method : Method) (s : Hci) : Except Fault (Hci × Output) :=
  if s.dispatches path method then
    let k := s.invocations
    let s := { s with invocations := k + 1 }
    match path with
    | .service serv => servMethodCall serv method k s
    | .characteristic .. => charMethodCall path method k s
    | .descriptor .. => descMethodCall path method k s
  else .ok (s, ⟨.ok, []⟩)

/-- `bt_gatt_notify`, with the signal that it emits left out. -/
def btGattNotify (serviceId charId : Int) (bytes : List Byte) (s : Hci) : Except Fault (Hci × Output) :=
  if bytes = [] then .ok (s, ⟨.btError, []⟩)
  else
    match findChrListById serviceId charId s with
    | .error f => .error f
    | .ok none => .ok (s, ⟨.btError, []⟩)
    | .ok (some chr) => (replaceValue chr.objectId bytes s).map fun s => (s, ⟨.ok, []⟩)

/-- A call of the application or of the bus. -/
inductive Event where
  | server (c : ServerCall)
  | notify (serviceId charId : Int) (bytes : List Byte)
  | methodCall (path : Path) (method : Method)
  | reqSetValue (k : Nat) (value : List Byte)
  | reqSetResult (k : Nat) (state : ReqState) (errMsg : Option String)

def step (e : Event) (s : Hci) : Except Fault (Hci × Output) :=
  match e with
  | .server c => (serverStep c s).map fun r => (r.1, ⟨r.2.result, []⟩)
  | .notify serviceId charId bytes => btGattNotify serviceId charId bytes s
  | .methodCall path method => methodCall path method s
  | .reqSetValue k value => btGattReqSetValue k value s
  | .reqSetResult k state errMsg => btGattReqSetResult k state errMsg s

end ArtikSdk.Bluetooth.Gatt
