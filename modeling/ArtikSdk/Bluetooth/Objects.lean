import ArtikSdk.Lib.Bytes

/-!
# The objects of BlueZ

What `GetManagedObjects` answers: the objects by their paths, each with its interfaces by name, and
these with their properties. A property has the type that is documented for it, or is not read.
-/

namespace ArtikSdk.Bluetooth.Objects
open Lib

/-- The value of a property. Of a dictionary only the first entry is read, and there is one. -/
inductive Variant where
  | string (s : String)
  | objectPath (s : String)
  | boolean (b : Bool)
  | uint32 (n : BitVec 32)
  | int16 (n : BitVec 16)
  | strings (l : List String)
  | manufacturerData (id : BitVec 16) (data : List Byte)
  | serviceData (uuid : String) (data : List Byte)
  | other
deriving DecidableEq

abbrev Property := String × Variant

structure ManagedObject where
  path : String
  interfaces : List (String × List Property)
  names : (interfaces.map Prod.fst).Nodup
  keys : ∀ i ∈ interfaces, (i.2.map Prod.fst).Nodup

structure ManagedObjects where
  objects : List ManagedObject
  paths : (objects.map ManagedObject.path).Nodup

/-- `g_variant_get_boolean`: `FALSE` of another type. -/
def Variant.getBoolean : Variant → Bool
  | .boolean b => b
  | _ => false

/-- `g_variant_get_string`: the null pointer of another type. -/
def Variant.getString : Variant → Option String
  | .string s | .objectPath s => some s
  | _ => none

/-- `strcasecmp` finds no difference. -/
def strcasecmp (a b : String) : Bool := a.toList.map Char.toLower = b.toList.map Char.toLower

/-- `DBUS_IF_DEVICE1` -/
def dbusIfDevice1 : String := "org.bluez.Device1"

theorem strcasecmp_self (a : String) : strcasecmp a a = true := decide_eq_true rfl

/-! ## Devices -/

/-- `artik_bt_class` -/
structure ArtikBtClass where
  major : BitVec 32
  minor : BitVec 32
  serviceClass : BitVec 32
deriving DecidableEq

/-- `artik_bt_device`, with the list of UUIDs and their names, and the data of services, as lists. -/
structure ArtikBtDevice where
  remoteAddress : Option String
  remoteName : Option String
  cod : ArtikBtClass
  rssi : BitVec 16
  uuidList : List (String × Option String)
  isBonded : Bool
  isConnected : Bool
  isAuthorized : Bool
  manufacturerDataLen : Nat
  manufacturerData : List Byte
  manufacturerId : BitVec 16
  manufacturerName : List Char
  svcData : List Byte
  svcUuid : List Char
deriving DecidableEq

/-- The tables of `assigned_numbers.c`. -/
structure AssignedNumbers where
  getCompanyName : BitVec 16 → String
  getUuidName : String → Option String

/-- `_set_device_class` -/
def setDeviceClass (cod : BitVec 32) : ArtikBtClass where
  major := (cod &&& 0x00001f00) >>> 8
  minor := cod &&& 0x000000fc
  serviceClass := (cod &&& 0x00ff0000) ||| if cod &&& 0x002000 ≠ 0 then 0x002000 else 0

/-- `memset` with zeros. -/
def ArtikBtDevice.zero : ArtikBtDevice := ⟨none, none, ⟨0, 0, 0⟩, 0, [], false, false, false, 0, [], 0, [], [], []⟩

/-- The iteration of `_get_device_properties`. A `gboolean` takes four bytes and the fields that it
is read into have one each: it is followed by zeros, in `is_bonded` in the next two fields and the
padding, in `is_connected` in the next field, the padding and the low byte of `manufacturer_data_len`. -/
def setDeviceProperty (names : AssignedNumbers) (device : ArtikBtDevice) : Property → ArtikBtDevice
  | ("Address", .string s) => { device with remoteAddress := some s }
  | ("Name", .string s) => { device with remoteName := some s }
  | ("Class", .uint32 cod) => { device with cod := setDeviceClass cod }
  | ("RSSI", .int16 n) => { device with rssi := n }
  | ("Paired", .boolean b) => { device with isBonded := b, isConnected := false, isAuthorized := false }
  | ("Connected", .boolean b) =>
    { device with
      isConnected := b
      isAuthorized := false
      manufacturerDataLen := device.manufacturerDataLen / 256 * 256 }
  | ("UUIDs", .strings l) => { device with uuidList := l.map fun uuid => (uuid, names.getUuidName uuid) }
  | ("ManufacturerData", .manufacturerData id data) =>
    { device with
      manufacturerId := id
      manufacturerName := (names.getCompanyName id).toList.take 128
      manufacturerDataLen := data.length
      manufacturerData := data }
  | ("ServiceData", .serviceData uuid data) => { device with svcUuid := uuid.toList.take 128, svcData := data }
  | _ => device

/-- `_get_device_properties` -/
def getDeviceProperties (names : AssignedNumbers) (properties : List Property) : ArtikBtDevice :=
  properties.foldl (setDeviceProperty names) .zero

end ArtikSdk.Bluetooth.Objects
