import ArtikSdk.Lib.Alloc
import ArtikSdk.Cloud.Requests

/-!
# Cloud websockets

The websocket operations of `artik_cloud.c` over `artik_websocket.c`: two lists, one of the cloud
module and one of the websocket module, whose nodes have the same handle, the address of the
latter. What the system does with a stream comes in as the outcome of each call, and its callbacks
as calls. The memory of the uri is never freed and is not in the state.
-/

namespace ArtikSdk.Cloud
open Lib Lib.Printf

def artikCloudWebsocketHost : List Char := "api.artik.cloud".toList
def artikCloudSecureWebsocketHost : List Char := "s-api.artik.cloud".toList
def artikCloudWebsocketPath : List Char := "/v1.1/websocket?ack=true".toList
def artikCloudWebsocketPort : Int := 443
def artikCloudWebsocketMessageBody : List Char := "\x7b\"sdid\":\"%s\",\"Authorization\":\"bearer %s\",\"type\":\"%s\"\x7d".toList
def artikCloudWebsocketSendMessageBody : List Char := "\x7b\"sdid\":\"%s\",\"type\":\"%s\",\"data\":%s\x7d".toList

/-- `cloud_node`; the copies of the strings may be null. `given` is not in the source: the device and
the token that the stream was opened with. -/
structure CloudNode where
  address : Nat
  handle : Nat
  registrationMessage : List Char
  accessToken : Option (List Char)
  deviceId : Option (List Char)
  callback : Callback
  given : List Char × List Char
deriving DecidableEq

/-- `websocket_node`, whose handle is its address. `opened` is not in the source: the stream was opened
and not closed. -/
structure WebsocketNode where
  address : Nat
  uri : List Char
  useSe : Bool
  opened : Bool
deriving DecidableEq

/-- The two `requested_node`. -/
structure State where
  cloud : List CloudNode
  websocket : List WebsocketNode

def State.init : State := ⟨[], []⟩

def State.used (s : State) (a : Nat) : Bool :=
  (s.cloud.any fun n => n.address = a) || s.websocket.any fun n => n.address = a

/-! ## The websocket module -/

/-- `artik_list_get_by_handle` on the websocket module's list. -/
def State.websocketByHandle (handle : Nat) (s : State) : Option WebsocketNode :=
  if handle = 0 then none else s.websocket.find? fun n => n.address = handle

/-- A store into a node. -/
def State.updateWebsocket (handle : Nat) (f : WebsocketNode → WebsocketNode) (s : State) : State :=
  { s with websocket := s.websocket.map fun n => if n.address = handle then f n else n }

/-- `artik_websocket_request`: the handle, or no memory. -/
def artikWebsocketRequest (uri : List Char) (useSe : Bool) (node : Malloc) (s : State) : Option (Nat × State) :=
  (node.pick s.used).map fun a => (a, { s with websocket := s.websocket ++ [⟨a, uri, useSe, false⟩] })

/-- `artik_websocket_open_stream`; `opens` is what `os_websocket_open_stream` returns. -/
def artikWebsocketOpenStream (handle : Nat) (opens : ArtikError) (s : State) : State × ArtikError :=
  match s.websocketByHandle handle with
  | none => (s, .badArgs)
  | some _ => if opens ≠ .ok then (s, .websocketError) else (s.updateWebsocket handle fun n => { n with opened := true }, .ok)

/-- `artik_websocket_write_stream`, and what it sends. -/
def artikWebsocketWriteStream (handle : Nat) (message : List Char) (writes : ArtikError) (s : State) : ArtikError × Option Sent :=
  match s.websocketByHandle handle with
  | none => (.badArgs, none)
  | some _ => (if writes ≠ .ok then .websocketError else .ok, some (.stream handle message))

/-- `artik_websocket_set_connection_callback` and `artik_websocket_set_receive_callback`: what they return. -/
def artikWebsocketSetCallback (handle : Nat) (sets : ArtikError) (s : State) : ArtikError :=
  match s.websocketByHandle handle with
  | none => .badArgs
  | some _ => sets

/-- `artik_websocket_close_stream`, which removes the node whatever `os_websocket_close_stream` returns. -/
def artikWebsocketCloseStream (handle : Nat) (closes : ArtikError) (s : State) : State × ArtikError :=
  match s.websocketByHandle handle with
  | none => (s, .badArgs)
  | some _ => ({ s with websocket := s.websocket.eraseP fun n => n.address = handle }, closes)

/-! ## The cloud module -/

/-- `artik_list_get_by_handle` on the cloud module's list. -/
def State.cloudByHandle (handle : Nat) (s : State) : Option CloudNode :=
  if handle = 0 then none else s.cloud.find? fun n => n.handle = handle

/-- `artik_list_delete_handle` on the cloud module's list. -/
def State.deleteCloud (handle : Nat) (s : State) : State := { s with cloud := s.cloud.eraseP fun n => n.handle = handle }

/-- The registration message of a device. -/
def registration (given : List Char × List Char) : Text :=
  .printed artikCloudWebsocketStrMax artikCloudWebsocketMessageBody [.s given.1, .s given.2, .s "register".toList]

/-- What is sent on a device's stream. -/
def dataMessage (deviceId message : List Char) : Text :=
  .printed artikCloudWebsocketStrMax artikCloudWebsocketSendMessageBody [.s deviceId, .s "message".toList, .s message]

/-- `config.uri`, whose memory has `len` bytes. -/
def uri (useSe : Bool) : List Char :=
  let host := if useSe then artikCloudSecureWebsocketHost else artikCloudWebsocketHost
  let port := snprintf ⟨4, by decide⟩ "%d".toList [.d artikCloudWebsocketPort]
  snprintf ⟨6 + host.length + 1 + port.length + artikCloudWebsocketPath.length + 1, Nat.succ_pos _⟩ "wss://%s:%s%s".toList
    [.s host, .s port, .s artikCloudWebsocketPath]

/-- The outcomes in `websocket_open_stream`: of the request for the module, the `malloc` of the uri, of the
websocket node and of the cloud node, the two `strndup`, and what the system returns for the stream and
for the callback. -/
structure OpenAnswers where
  websocket : ModuleAnswer
  uri : Bool
  request : Malloc
  opens : ArtikError
  node : Malloc
  accessToken : Bool
  deviceId : Bool
  sets : ArtikError

/-- What a return from `websocket_open_stream` shows behind `websocket_request`. -/
def opened (ret : ArtikError) (modules : List ModuleCall) (handle : Nat) : Output :=
  { Output.returns ret modules with handle := some handle }

/-- `websocket_open_stream` behind its `artik_list_add`, whose node is at `a`. -/
def registerStream (a handle : Nat) (given : List Char × List Char) (answers : OpenAnswers) (s : State) : State × Output :=
  let node : CloudNode := ⟨a, handle, (registration given).held, if answers.accessToken then some given.2 else none,
    if answers.deviceId then some given.1 else none, ⟨0, 0⟩, given⟩
  let s := { s with cloud := s.cloud ++ [node] }
  let ret := artikWebsocketSetCallback handle answers.sets s
  (if ret ≠ .ok then s.deleteCloud handle else s, opened ret [.request .module, .release] handle)

/-- `websocket_open_stream` behind `websocket_request`. -/
def openRequested (handle : Nat) (accessToken deviceId : Option (List Char)) (answers : OpenAnswers) (s : State) :
    Except Fault (State × Output) :=
  let r := artikWebsocketOpenStream handle answers.opens s
  if r.2 ≠ .ok then .ok (r.1, opened r.2 [.request .module, .release] handle)
  else
    match answers.node.pick r.1.used with
    | none => .ok (r.1, opened .noMem [.request .module] handle)
    | some a =>
      match deviceId, accessToken with
      | some deviceId, some accessToken => .ok (registerStream a handle (deviceId, accessToken) answers r.1)
      -- `strlen` of null
      | _, _ => .error .badPointer

/-- `websocket_open_stream`; `sslConfig` is `ssl_config->use_se`, or null. -/
def websocketOpenStream (accessToken deviceId : Option (List Char)) (sslConfig : Option Bool) (answers : OpenAnswers) (s : State) :
    Except Fault (State × Output) :=
  match sslConfig with
  | none => .error .badPointer
  | some useSe =>
    match answers.websocket with
    | .null => .ok (s, .returns .notSupported [.request .null])
    | .invalidModule => .error .badPointer
    | .module =>
      if answers.uri = false then .error .badPointer
      else
        match artikWebsocketRequest (uri useSe) useSe answers.request s with
        | none => .ok (s, .returns .noMem [.request .module, .release])
        | some (handle, s) => openRequested handle accessToken deviceId answers s

/-- `websocket_send_message`. -/
def websocketSendMessage (handle : Nat) (message : Option (List Char)) (websocket : ModuleAnswer) (writes : ArtikError) (s : State) :
    Except Fault (State × Output) :=
  if websocket = .null then .ok (s, .returns .notSupported [.request .null])
  else
    match s.cloudByHandle handle with
    | none => .ok (s, .returns .badArgs [.request websocket])
    | some node =>
      match node.deviceId, message, websocket with
      | some deviceId, some message, .module =>
        let r := artikWebsocketWriteStream handle (dataMessage deviceId message).held writes s
        .ok (s, { Output.returns r.1 [.request .module, .release] with sent := r.2 })
      | _, _, _ => .error .badPointer

/-- `websocket_set_connection_callback`. -/
def websocketSetConnectionCallback (handle : Nat) (callback : Callback) (s : State) : State × Output :=
  match s.cloudByHandle handle with
  | none => (s, .returns .badArgs [])
  | some node =>
    ({ s with cloud := s.cloud.map fun n => if n.address = node.address then { n with callback } else n }, .returns .ok [])

/-- `websocket_set_receive_callback`. -/
def websocketSetReceiveCallback (handle : Nat) (websocket : ModuleAnswer) (sets : ArtikError) (s : State) : Except Fault (State × Output) :=
  match websocket with
  | .null => .ok (s, .returns .notSupported [.request .null])
  | .invalidModule => .error .badPointer
  | .module => .ok (s, .returns (artikWebsocketSetCallback handle sets s) [.request .module, .release])

/-- `websocket_close_stream`. -/
def websocketCloseStream (handle : Nat) (websocket : ModuleAnswer) (closes : ArtikError) (s : State) : Except Fault (State × Output) :=
  if websocket = .null then .ok (s, .returns .notSupported [.request .null])
  else
    match s.cloudByHandle handle with
    | none => .ok (s, .returns .badArgs [.request websocket])
    | some _ =>
      if websocket ≠ .module then .error .badPointer
      else
        let r := artikWebsocketCloseStream handle closes (s.deleteCloud handle)
        .ok (r.1, .returns r.2 [.request .module, .release])

/-- `websocket_connection_callback`; `userData` is the address of the node of its data. -/
def websocketConnectionCallback (userData : Nat) (result : ConnectionState) (websocket : ModuleAnswer) (writes : ArtikError) (s : State) :
    Except Fault (State × Output) :=
  match s.cloud.find? fun n => n.address = userData with
  | none => .error .freed
  | some node =>
    match websocket with
    | .null => .ok (s, ⟨none, [.request .null], none, none, none⟩)
    | .invalidModule => .error .badPointer
    | .module =>
      let sent := if result = .connected then (artikWebsocketWriteStream node.handle node.registrationMessage writes s).2 else none
      let calls := if result = .other ∨ node.callback.fn = 0 then none else some (node.callback, result)
      .ok (s, ⟨none, [.request .module, .release], sent, none, calls⟩)

/-! ## Calls -/

/-- A REST or SDR operation, by its arguments. -/
inductive Rest where
  | getCurrentUserProfile (accessToken : Option (List Char))
  | getUserDevices (accessToken : Option (List Char)) (count : Int) (properties : Bool) (offset : Int) (userId : Option (List Char))
  | getUserDeviceTypes (accessToken : Option (List Char)) (count : Int) (shared : Bool) (offset : Int) (userId : Option (List Char))
  | getUserApplicationProperties (accessToken userId appId : Option (List Char))
  | getDevice (accessToken deviceId : Option (List Char)) (properties : Bool)
  | getDeviceToken (accessToken deviceId : Option (List Char))
  | addDevice (accessToken userId dtId name : Option (List Char))
  | sendMessage (accessToken deviceId message : Option (List Char))
  | sendAction (accessToken deviceId action : Option (List Char))
  | updateDeviceToken (accessToken deviceId : Option (List Char))
  | deleteDeviceToken (accessToken deviceId : Option (List Char))
  | deleteDevice (accessToken deviceId : Option (List Char))
  | sdrStartRegistration (deviceTypeId vendorId : Option (List Char))
  | sdrRegistrationStatus (regId : Option (List Char))
  | sdrCompleteRegistration (regId regNonce : Option (List Char))

def Rest.operation : Rest → Option Operation
  | .getCurrentUserProfile accessToken => Cloud.getCurrentUserProfile accessToken
  | .getUserDevices accessToken count properties offset userId => Cloud.getUserDevices accessToken count properties offset userId
  | .getUserDeviceTypes accessToken count shared offset userId => Cloud.getUserDeviceTypes accessToken count shared offset userId
  | .getUserApplicationProperties accessToken userId appId => Cloud.getUserApplicationProperties accessToken userId appId
  | .getDevice accessToken deviceId properties => Cloud.getDevice accessToken deviceId properties
  | .getDeviceToken accessToken deviceId => Cloud.getDeviceToken accessToken deviceId
  | .addDevice accessToken userId dtId name => Cloud.addDevice accessToken userId dtId name
  | .sendMessage accessToken deviceId message => Cloud.sendMessage accessToken deviceId message
  | .sendAction accessToken deviceId action => Cloud.sendAction accessToken deviceId action
  | .updateDeviceToken accessToken deviceId => Cloud.updateDeviceToken accessToken deviceId
  | .deleteDeviceToken accessToken deviceId => Cloud.deleteDeviceToken accessToken deviceId
  | .deleteDevice accessToken deviceId => Cloud.deleteDevice accessToken deviceId
  | .sdrStartRegistration deviceTypeId vendorId => Cloud.sdrStartRegistration deviceTypeId vendorId
  | .sdrRegistrationStatus regId => Cloud.sdrRegistrationStatus regId
  | .sdrCompleteRegistration regId regNonce => Cloud.sdrCompleteRegistration regId regNonce

/-- A call of the module's operations, or of its callback, with its outcomes. -/
inductive Input where
  | rest (call : Rest) (answers : Answers)
  | openStream (accessToken deviceId : Option (List Char)) (sslConfig : Option Bool) (answers : OpenAnswers)
  | websocketSendMessage (handle : Nat) (message : Option (List Char)) (websocket : ModuleAnswer) (writes : ArtikError)
  | setReceiveCallback (handle : Nat) (websocket : ModuleAnswer) (sets : ArtikError)
  | setConnectionCallback (handle : Nat) (callback : Callback)
  | closeStream (handle : Nat) (websocket : ModuleAnswer) (closes : ArtikError)
  | connectionCallback (userData : Nat) (result : ConnectionState) (websocket : ModuleAnswer) (writes : ArtikError)

def step (input : Input) (s : State) : Except Fault (State × Output) :=
  match input with
  | .rest call answers => return (s, ← run call.operation answers)
  | .openStream accessToken deviceId sslConfig answers => websocketOpenStream accessToken deviceId sslConfig answers s
  | .websocketSendMessage handle message websocket writes => Cloud.websocketSendMessage handle message websocket writes s
  | .setReceiveCallback handle websocket sets => websocketSetReceiveCallback handle websocket sets s
  | .setConnectionCallback handle callback => .ok (websocketSetConnectionCallback handle callback s)
  | .closeStream handle websocket closes => websocketCloseStream handle websocket closes s
  | .connectionCallback userData result websocket writes => websocketConnectionCallback userData result websocket writes s

end ArtikSdk.Cloud
