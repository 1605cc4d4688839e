import ArtikSdk.Wifi.Linux

/-!
# Events of the supplicant

The connection that monitors: `wpa_cli.c` opens it beside the one for commands, the loop calls `wpa_cli_mon_receive` when
there is something to read, and `check_event` calls what the application has set. That may call anything again, before the
loop in `wpa_cli_recv_pending` goes on. The module is that of the commands, with what it has besides.
-/

namespace ArtikSdk.Wifi.Events
open Lib

/-! ## State -/

/-- A function of the application, if there is one, with its data. -/
structure Callback where
  func : Option Nat
  userData : Nat
deriving DecidableEq

/-- A `wpa_cli_recv_pending` that runs: the connection whose watch the loop has called, its `ctrl`, and its `buf` while the
application is called. -/
structure Frame where
  watch : Nat
  ctrl : Nat
  buf : Option (List Char)
deriving DecidableEq

/-- The static variables of `wpa_cli.c`, where a connection that monitors is named by its number, and `readers` is the table
of `eloop.c`. `inbox` and `opened` are not in the source: what is to be read from a connection, and how many there were. -/
structure State where
  base : Wifi.State
  monConn : Option Nat
  attached : Bool
  activeScan : Bool
  scanResult : Callback
  connect : Callback
  readers : List Nat
  inbox : Nat → List (List Char)
  opened : Nat
  frames : List Frame

def Callback.null : Callback := ⟨none, 0⟩

def State.init : State := ⟨.init, none, false, false, .null, .null, [], fun _ => [], 0, []⟩

inductive Fault where
  | wifi (f : Wifi.Fault)
  | nullPointer
  | closed
deriving DecidableEq

/-! ## wpa_cli.c -/

/-- `wpa_cli_close_connection`. -/
def wpaCliCloseConnection (s : State) : Except Fault State :=
  if s.base.cliCtrlConn = none then .ok s
  else if s.attached = true ∧ s.monConn = none then .error .nullPointer
  else
    .ok { s with
      base := Wifi.wpaCliCloseConnection s.base
      attached := false
      readers := s.readers.filter fun k => s.monConn ≠ some k
      monConn := none }

/-- `wpa_cli_open_connection(ifname, 1)`; a connection that cannot be put into the table has no watch. -/
def wpaCliOpenConnection (ifname : Bool) (answers : OpenAnswers) (registers : Bool) (s : State) : Except Fault (State × Bool) :=
  if ifname = false ∨ answers.memory = false then .ok (s, false)
  else if answers.ctrl = false then .ok ({ s with base := { s.base with cliCtrlConn := none } }, false)
  else
    let s := { s with base := { s.base with cliCtrlConn := some s.base.opened, opened := s.base.opened + 1 } }
    match answers.mon with
    | none => .ok ({ s with monConn := none }, true)
    | some attaches =>
      let s := { s with monConn := some s.opened, opened := s.opened + 1 }
      if attaches then
        .ok ({ s with attached := true, readers := if registers then s.readers ++ s.monConn.toList else s.readers }, true)
      else (wpaCliCloseConnection s).map (·, false)

/-- `wpa_cli_reconnect`. -/
def wpaCliReconnect (answers : OpenAnswers) (registers : Bool) (s : State) : Except Fault State := do
  let s ← wpaCliCloseConnection s
  let (s, _) ← wpaCliOpenConnection s.base.ctrlIfname answers registers s
  return s

def wpaEventConnected : List Char := "CTRL-EVENT-CONNECTED ".toList
def wpaEventDisconnected : List Char := "CTRL-EVENT-DISCONNECTED ".toList
def wpaEventTerminating : List Char := "CTRL-EVENT-TERMINATING ".toList
def wpaEventScanResults : List Char := "CTRL-EVENT-SCAN-RESULTS ".toList
def wpaEventBssAdded : List Char := "CTRL-EVENT-BSS-ADDED ".toList
def wpaEventBssRemoved : List Char := "CTRL-EVENT-BSS-REMOVED ".toList

/-- `str_starts` -/
def strStarts (src match' : List Char) : Bool := match'.isPrefixOf src

/-- What follows the first `>`, if there is one. -/
def behindLevel : List Char → Option (List Char)
  | [] => none
  | c :: cs => if c = '>' then some cs else behindLevel cs

/-- What a callback is told: that there are results, or an `artik_wifi_connection_info`, whose error is `S_OK`. -/
inductive Told where
  | scanned
  | connection (connected : Bool)
deriving DecidableEq

/-- `check_event`, and the callback that is called. -/
def checkEvent (event : List Char) (s : State) : State × Option (Callback × Told) :=
  match behindLevel event with
  | none => (s, none)
  | some start =>
    if strStarts start wpaEventBssAdded || strStarts start wpaEventBssRemoved then (s, none)
    else if s.activeScan && strStarts start wpaEventScanResults then ({ s with activeScan := false }, some (s.scanResult, .scanned))
    else if strStarts start wpaEventConnected then (s, some (s.connect, .connection true))
    else if strStarts start wpaEventDisconnected then (s, some (s.connect, .connection false))
    else (s, none)

/-- Whether a message tells that the supplicant ends; its priority is skipped. -/
def tellsTerminating (msg : List Char) : Bool :=
  strStarts (if msg.head? = some '<' then (behindLevel msg).getD msg else msg) wpaEventTerminating

/-- `check_terminating` -/
def checkTerminating (msg : List Char) (s : State) : Except Fault (State × Bool) :=
  if tellsTerminating msg ∧ s.base.cliCtrlConn ≠ none then (wpaCliCloseConnection { s with attached := false }).map (·, true)
  else .ok (s, false)

/-- The `buf` of `wpa_cli_recv_pending`, which a longer message does not fit in. -/
def received (message : List Char) : List Char := (message.take 4095).takeWhile (· ≠ '\x00')

/-! ## wifi.c -/

/-- `wifi_initialize`; `eloop_init` clears the table. -/
def wifiInitialize (answers : InitAnswers) (registers : Bool) (s : State) : Except Fault (State × WifiResult) :=
  if s.base.ctrlIfname then .ok (s, .alreadyInitialized)
  else do
    let (s, works) ← wpaCliOpenConnection answers.ifname answers.connection registers
      { s with base := { s.base with ctrlIfname := answers.ifname }, readers := [] }
    if works = false then return (s, .connectSocket)
    return ({ s with base := { s.base with wifiCtrlConn := s.base.cliCtrlConn }, activeScan := false }, .success)

/-- `wifi_deinitialize`; `eloop_destroy` removes the watches that are left. -/
def wifiDeinitialize (s : State) : Except Fault State := do
  let s ← wpaCliCloseConnection { s with base := { s.base with ctrlIfname := false } }
  return { s with readers := [] }

def wifiScanRequest (reply : Option (List Char)) (s : State) : Except Wifi.Fault (State × WifiResult) := do
  let result ← Wifi.wifiScanRequest reply s.base
  return ({ s with activeScan := s.activeScan || result = .success }, result)

/-! ## linux_wifi.c -/

def osWifiInit (mode : Mode) (answers : InitAnswers) (registers : Bool) (s : State) : Except Fault (State × ArtikError) :=
  if s.base.wifiInitialized then .ok (s, .busy)
  else if mode ≠ .station ∧ mode ≠ .ap then .ok (s, .badArgs)
  else do
    let (s, result) ← wifiInitialize answers registers s
    if result ≠ .success then return (s, .wifiError)
    return ({ s with base := { s.base with wifiInitialized := true, wifiMode := mode } }, .ok)

def osWifiDeinit (s : State) : Except Fault (State × ArtikError) :=
  if s.base.wifiInitialized = false then .ok (s, .notInitialized)
  else do
    let s ← wifiDeinitialize s
    return ({ s with base := { s.base with wifiInitialized := false, wifiMode := .none } }, .ok)

def osWifiScanRequest (reply : Option (List Char)) (s : State) : Except Wifi.Fault (State × ArtikError) :=
  if s.base.wifiMode ≠ .station then .ok (s, .notInitialized)
  else (wifiScanRequest reply s).map fun r => (r.1, r.2.code)

def osWifiSetConnectCallback (cb : Callback) (s : State) : State := { s with connect := cb }
def osWifiSetScanResultCallback (cb : Callback) (s : State) : State := { s with scanResult := cb }
def osWifiUnsetConnectCallback (s : State) : State := { s with connect := .null }
def osWifiUnsetScanResultCallback (s : State) : State := { s with scanResult := .null }

/-! ## Steps -/

/-- A call of the application, from anywhere; a message of the supplicant; a call of the loop through the watch of a
connection; a round of the `wpa_cli_recv_pending` that runs last, with what `wpa_ctrl_recv` says; and the return of the
callback that it has called. -/
inductive Event where
  | init (mode : Mode) (answers : InitAnswers) (registers : Bool)
  | deinit
  | startAp (ssid password : Option (List Char)) (channel encryptionFlags : BitVec 32) (hostapd : Bool)
  | scanRequest (reply : Option (List Char))
  | connect (ssid psk : Option (List Char)) (persistent : Bool) (replies : Command → Option (List Char))
  | disconnect (reply : Option (List Char))
  | setConnect (cb : Callback)
  | setScanResult (cb : Callback)
  | unsetConnect
  | unsetScanResult
  | tells (message : List Char)
  | dispatch (watch : Nat) (answers : OpenAnswers) (registers : Bool)
  | goOn (receives : Bool)
  | goBack

/-- What a call returns, and the function that is called, with what it is told and its data. -/
inductive Output where
  | code (e : ArtikError)
  | calls (func : Nat) (told : Told) (userData : Nat)
  | nothing
deriving DecidableEq

def onWifi {α : Type} (x : Except Wifi.Fault α) : Except Fault α := x.mapError .wifi

/-- `wpa_cli_mon_receive`, which the loop does not call while it runs. -/
def dispatch (watch : Nat) (answers : OpenAnswers) (registers : Bool) (s : State) : Except Fault (State × Output) :=
  if watch ∈ s.readers ∧ ∀ f ∈ s.frames, f.watch ≠ watch then
    match s.monConn with
    | none => (wpaCliReconnect answers registers s).map (·, .nothing)
    | some ctrl => .ok ({ s with frames := ⟨watch, ctrl, none⟩ :: s.frames }, .nothing)
  else .ok (s, .nothing)

/-- Behind `check_event`: the loop ends when the supplicant does. -/
def afterEvent (f : Frame) (frames : List Frame) (msg : List Char) (s : State) : Except Fault (State × Output) :=
  (checkTerminating msg s).map fun r => ({ r.1 with frames := if r.2 then frames else { f with buf := none } :: frames }, .nothing)

/-- A round of `wpa_cli_recv_pending`. `wpa_ctrl_pending` reads the connection. -/
def goOn (receives : Bool) (s : State) : Except Fault (State × Output) :=
  match s.frames with
  | [] => .ok (s, .nothing)
  | f :: frames =>
    if f.buf ≠ none then .ok (s, .nothing)
    else if s.monConn ≠ some f.ctrl then .error .closed
    else
      match s.inbox f.ctrl with
      | [] => .ok ({ s with frames }, .nothing)
      | message :: rest =>
        if receives = false then .ok ({ s with frames }, .nothing)
        else
          let buf := received message
          let (s, call) := checkEvent buf { s with inbox := Function.update s.inbox f.ctrl rest }
          match call with
          | some (⟨some func, userData⟩, told) => .ok ({ s with frames := { f with buf := some buf } :: frames }, .calls func told userData)
          | _ => afterEvent f frames buf s

/-- The application returns. -/
def goBack (s : State) : Except Fault (State × Output) :=
  match s.frames with
  | { watch, ctrl, buf := some buf } :: frames => afterEvent ⟨watch, ctrl, none⟩ frames buf s
  | _ => .ok (s, .nothing)

/-- The supplicant tells those who are attached. -/
def tells (message : List Char) (s : State) : State :=
  match s.monConn with
  | none => s
  | some k => { s with inbox := Function.update s.inbox k (s.inbox k ++ [message]) }

def step : Event → State → Except Fault (State × Output)
  | .init mode answers registers, s => (osWifiInit mode answers registers s).map fun r => (r.1, .code r.2)
  | .deinit, s => (osWifiDeinit s).map fun r => (r.1, .code r.2)
  | .startAp ssid password channel encryptionFlags hostapd, s =>
    .ok (s, .code (osWifiStartAp ssid password channel encryptionFlags hostapd s.base))
  | .scanRequest reply, s => (onWifi (osWifiScanRequest reply s)).map fun r => (r.1, .code r.2)
  | .connect ssid psk persistent replies, s =>
    (onWifi (osWifiConnect ssid psk persistent replies s.base)).map fun r => ({ s with base := r.1 }, .code r.2)
  | .disconnect reply, s => (onWifi (osWifiDisconnect reply s.base)).map fun r => ({ s with base := r.1 }, .code r.2)
  | .setConnect cb, s => .ok (osWifiSetConnectCallback cb s, .code .ok)
  | .setScanResult cb, s => .ok (osWifiSetScanResultCallback cb s, .code .ok)
  | .unsetConnect, s => .ok (osWifiUnsetConnectCallback s, .code .ok)
  | .unsetScanResult, s => .ok (osWifiUnsetScanResultCallback s, .code .ok)
  | .tells message, s => .ok (tells message s, .nothing)
  | .dispatch watch answers registers, s => dispatch watch answers registers s
  | .goOn receives, s => goOn receives s
  | .goBack, s => goBack s

end ArtikSdk.Wifi.Events
