import ArtikSdk.Lib.Run
import ArtikSdk.Base.Error

/-!
# WiFi on Linux

`linux_wifi.c` over `wifi.c` and the connection to the supplicant of `wpa_cli.c`. The flags of the
module, the name of the interface in `wifi.c` and two copies of the connection are static variables
of three files. `CONFIG_ELOOP_GMAINLOOP` is set, with which `eloop_init` always works.
-/

namespace ArtikSdk.Wifi
open Lib

/-- `artik_wifi_mode_t` -/
inductive Mode where
  | station
  | ap
  | none
deriving DecidableEq

/-- The results of `wifi.c`. -/
inductive WifiResult where
  | success
  | error
  | alreadyInitialized
  | connectSocket
  | noControlHandle
  | wpaCmdReqFail
  | scanFailBusy
  | connectInvalidSsid
  | connectInvalidPsk
deriving DecidableEq

/-- A connection is named by its number. `wifiCtrlConn` is `ctrl_conn` of `wifi.c`, which stays when
`wpa_cli.c` closes the connection; `cliCtrlConn` is that of `wpa_cli.c`. `opened` is not in the
source: the number of connections so far. -/
structure State where
  wifiInitialized : Bool
  wifiConnected : Bool
  wifiMode : Mode
  ctrlIfname : Bool
  wifiCtrlConn : Option Nat
  cliCtrlConn : Option Nat
  opened : Nat
deriving DecidableEq

def State.init : State := ⟨false, false, .none, false, none, none, 0⟩

inductive Fault where
  | freed
deriving DecidableEq

/-! ## The supplicant -/

/-- The answers of `wpa_cli_open_connection`: the memory of the path, the connection, and of the
connection that monitors, where there is one, whether it is attached. -/
structure OpenAnswers where
  memory : Bool
  ctrl : Bool
  mon : Option Bool
deriving DecidableEq

/-- `wpa_cli_close_connection`. -/
def wpaCliCloseConnection (s : State) : State := { s with cliCtrlConn := none }

/-- `wpa_cli_open_connection(ifname, 1)`, and whether it works. -/
def wpaCliOpenConnection (ifname : Bool) (answers : OpenAnswers) (s : State) : State × Bool :=
  if ifname = false ∨ answers.memory = false then (s, false)
  else if answers.ctrl = false then ({ s with cliCtrlConn := none }, false)
  else
    let s := { s with cliCtrlConn := some s.opened, opened := s.opened + 1 }
    if answers.mon = some false then (wpaCliCloseConnection s, false) else (s, true)

/-- `wpa_cli_reconnect`, when a monitored connection is lost. -/
def wpaCliReconnect (answers : OpenAnswers) (s : State) : State :=
  (wpaCliOpenConnection s.ctrlIfname answers (wpaCliCloseConnection s)).1

/-- The connection of `wifi.c` can be used, is null, or is closed. -/
def State.control (s : State) : Except Fault Bool :=
  match s.wifiCtrlConn with
  | none => .ok false
  | some k => if s.cliCtrlConn = some k then .ok true else .error .freed

/-- `_wifi_send_cmd`; a request that fails has no reply. -/
def wifiSendCmd (reply : Option (List Char)) (s : State) : Except Fault (WifiResult × List Char) :=
  s.control.map fun there =>
    if there = false then (.noControlHandle, [])
    else
      match reply with
      | none => (.wpaCmdReqFail, [])
      | some buf => (.success, buf)

/-- A command whose reply has to start with `OK`. -/
def obeyed (reply : Option (List Char)) (s : State) : Except Fault WifiResult :=
  (wifiSendCmd reply s).map fun r =>
    if r.1 ≠ .success then r.1 else if "OK".toList.isPrefixOf r.2 then .success else .error

/-! ## wifi.c -/

def wifiScanRequest (reply : Option (List Char)) (s : State) : Except Fault WifiResult :=
  (wifiSendCmd reply s).map fun r =>
    if r.1 ≠ .success then r.1
    else if "OK".toList.isPrefixOf r.2 then .success
    else if "FAIL-BUSY".toList.isPrefixOf r.2 then .scanFailBusy
    else .error

def wifiDisconnect (reply : Option (List Char)) (s : State) : Except Fault WifiResult := obeyed reply s

/-- The commands of `wifi_connect`. -/
inductive Command where
  | listNetworks
  | addNetwork
  | setNetworkSsid
  | setNetworkPsk
  | setNetworkKeyMgmt
  | selectNetwork
  | saveConfig
deriving DecidableEq

/-- The commands are sent one after the other as long as they are obeyed. -/
def obeyedAll (replies : Command → Option (List Char)) (s : State) : List Command → Except Fault WifiResult
  | [] => .ok .success
  | c :: cs => do
    let result ← obeyed (replies c) s
    if result ≠ .success then return result else obeyedAll replies s cs

/-- What `wifi_connect` sends once it has the number of the network. -/
def configuring (psk : Option (List Char)) (saveProfile : Bool) : List Command :=
  [.setNetworkSsid, if (psk.getD []).length ≠ 0 then .setNetworkPsk else .setNetworkKeyMgmt, .selectNetwork] ++
    if saveProfile then [.saveConfig] else []

/-- `wifi_connect`: a network whose SSID is listed is configured anew, another one is added. -/
def wifiConnect (ssid psk : Option (List Char)) (saveProfile : Bool) (replies : Command → Option (List Char)) (s : State) :
    Except Fault WifiResult :=
  if ssid = none ∨ ssid = some [] ∨ ' ' ∈ ssid.getD [] then .ok .connectInvalidSsid
  else if psk.any fun psk => psk.length < 8 || ' ' ∈ psk then .ok .connectInvalidPsk
  else do
    let list ← wifiSendCmd (replies .listNetworks) s
    if list.1 ≠ .success then return list.1
    let added ← if (ssid.getD []) <:+: list.2 then pure (.success, []) else wifiSendCmd (replies .addNetwork) s
    if added.1 ≠ .success then return added.1
    obeyedAll replies s (configuring psk saveProfile)

/-- `strdup("wlan0")`, and the answers of `wpa_cli_open_connection`. -/
structure InitAnswers where
  ifname : Bool
  connection : OpenAnswers
deriving DecidableEq

/-- `wifi_initialize`. -/
def wifiInitialize (answers : InitAnswers) (s : State) : State × WifiResult :=
  if s.ctrlIfname then (s, .alreadyInitialized)
  else
    let (s, works) := wpaCliOpenConnection answers.ifname answers.connection { s with ctrlIfname := answers.ifname }
    if works = false then (s, .connectSocket) else ({ s with wifiCtrlConn := s.cliCtrlConn }, .success)

/-- `wifi_deinitialize`. -/
def wifiDeinitialize (s : State) : State := wpaCliCloseConnection { s with ctrlIfname := false }

/-! ## linux_wifi.c -/

/-- What `os_wifi_*` makes of a result. -/
def WifiResult.code (r : WifiResult) : ArtikError := if r = .success then .ok else .wifiError

def osWifiInit (mode : Mode) (answers : InitAnswers) (s : State) : State × ArtikError :=
  if s.wifiInitialized then (s, .busy)
  else if mode ≠ .station ∧ mode ≠ .ap then (s, .badArgs)
  else
    let (s, result) := wifiInitialize answers s
    if result ≠ .success then (s, .wifiError) else ({ s with wifiInitialized := true, wifiMode := mode }, .ok)

def osWifiDeinit (s : State) : State × ArtikError :=
  if s.wifiInitialized = false then (s, .notInitialized)
  else ({ wifiDeinitialize s with wifiInitialized := false, wifiMode := .none }, .ok)

def osWifiScanRequest (reply : Option (List Char)) (s : State) : Except Fault ArtikError :=
  if s.wifiMode ≠ .station then .ok .notInitialized else (wifiScanRequest reply s).map WifiResult.code

def osWifiConnect (ssid psk : Option (List Char)) (persistent : Bool) (replies : Command → Option (List Char)) (s : State) :
    Except Fault (State × ArtikError) :=
  if s.wifiMode ≠ .station then .ok (s, .notInitialized)
  else if s.wifiConnected then .ok (s, .busy)
  else
    (wifiConnect ssid psk persistent replies s).map fun result =>
      if result ≠ .success then (s, .wifiError) else ({ s with wifiConnected := true }, .ok)

def osWifiDisconnect (reply : Option (List Char)) (s : State) : Except Fault (State × ArtikError) :=
  if s.wifiConnected = false then .ok (s, .notInitialized)
  else
    (wifiDisconnect reply s).map fun result =>
      if result ≠ .success then (s, .wifiError) else ({ s with wifiConnected := false, wifiMode := .none }, .ok)

def maxApNameLen : Nat := 32
def maxApChannel : Nat := 52
def minApWpa2passLen : Nat := 8
def maxApWpa2passLen : Nat := 64
def wifiEncryptionWpa2 : BitVec 32 := 1 <<< 2

/-- `os_wifi_start_ap`, and whether hostapd can be reached; what it replies is only logged. -/
def osWifiStartAp (ssid password : Option (List Char)) (channel encryptionFlags : BitVec 32) (hostapd : Bool) (s : State) : ArtikError :=
  if s.wifiMode ≠ .ap then .notInitialized
  else if (ssid.getD []).length < 1 ∨ (ssid.getD []).length > maxApNameLen ∨ channel.toNat < 1 ∨ channel.toNat > maxApChannel then .badArgs
  else if encryptionFlags ≠ 0 ∧ encryptionFlags &&& wifiEncryptionWpa2 = 0 then .notSupported
  else if encryptionFlags &&& wifiEncryptionWpa2 ≠ 0 ∧
      (password = none ∨ (password.getD []).length < minApWpa2passLen ∨ (password.getD []).length > maxApWpa2passLen) then .badArgs
  else if hostapd = false then .accessDenied
  else .ok

/-! ## Steps -/

/-- A call with the answers of the supplicant, or what comes from it: a lost connection, and that it
terminates. -/
inductive Input where
  | init (mode : Mode) (answers : InitAnswers)
  | deinit
  | startAp (ssid password : Option (List Char)) (channel encryptionFlags : BitVec 32) (hostapd : Bool)
  | scanRequest (reply : Option (List Char))
  | connect (ssid psk : Option (List Char)) (persistent : Bool) (replies : Command → Option (List Char))
  | disconnect (reply : Option (List Char))
  | lost (answers : OpenAnswers)
  | terminating

def step : Input → State → Except Fault (State × Option ArtikError)
  | .init mode answers, s => .ok ((osWifiInit mode answers s).1, some (osWifiInit mode answers s).2)
  | .deinit, s => .ok ((osWifiDeinit s).1, some (osWifiDeinit s).2)
  | .startAp ssid password channel encryptionFlags hostapd, s =>
    .ok (s, some (osWifiStartAp ssid password channel encryptionFlags hostapd s))
  | .scanRequest reply, s => (osWifiScanRequest reply s).map fun e => (s, some e)
  | .connect ssid psk persistent replies, s => (osWifiConnect ssid psk persistent replies s).map fun p => (p.1, some p.2)
  | .disconnect reply, s => (osWifiDisconnect reply s).map fun p => (p.1, some p.2)
  -- both are read from the connection
  | .lost answers, s => .ok (if s.cliCtrlConn = none then s else wpaCliReconnect answers s, none)
  | .terminating, s => .ok (wpaCliCloseConnection s, none)

end ArtikSdk.Wifi
