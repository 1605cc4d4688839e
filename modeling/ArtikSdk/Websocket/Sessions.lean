import ArtikSdk.Lib.Alloc
import ArtikSdk.Websocket.Container

/-!
# Websocket: sessions

Interfaces, their entries in `requested_node`, and libwebsockets with its connections. An
entry is found by the address of the connection, which libwebsockets gives out again once the
connection is gone. Interfaces are named by the `os_websocket_open_stream` that made them.
-/

namespace ArtikSdk.Websocket.Sessions
open Lib

/-- `os_websocket_interface`; `serviced` is whether the idle callback of its context is set. -/
structure Interface where
  wsi : Nat
  container : Container
  serviced : Bool

/-- `websocket_node`. Of the copy of the interface only `error_connect` is used again; `number`
is not in the source: the interface that was copied. -/
structure Entry where
  handle : Nat
  errorConnect : Bool
  number : Nat
deriving DecidableEq

/-- `requested_node`, the interfaces, `private_data` of each configuration, the connections of
libwebsockets with the interface that their protocol points to, and how many interfaces there
have been. -/
structure State where
  requestedNode : List Entry
  interfaces : Nat → Option Interface
  privateData : Nat → Option Nat
  connections : Nat → Option Nat
  made : Nat

def State.init : State := ⟨[], fun _ => none, fun _ => none, fun _ => none, 0⟩

/-- `artik_list_get_by_handle(requested_node, wsi)`. -/
def State.entry (s : State) (wsi : Nat) : Option Entry := s.requestedNode.find? fun n => n.handle = wsi

/-- `node->interface.error_connect = true` on the entry that a look-up finds. -/
def flagFirst (wsi : Nat) : List Entry → List Entry
  | [] => []
  | n :: ns => if n.handle = wsi then { n with errorConnect := true } :: ns else n :: flagFirst wsi ns

/-- The reasons with a case of their own. -/
def handled (reason : Reason) : Bool := reason ≠ .other

/-- What an event handled finds: the interface that its connection belongs to, the one of the
entry it looks up, and whether the eventfds are there. -/
structure Visit where
  own : Nat
  found : Option Nat
  ready : Bool
deriving DecidableEq

/-- `lws_callback`, for a connection that libwebsockets still has. -/
def lwsCallback (wsi : Nat) (reason : Reason) (works : Bool) (s : State) : Except Fault (State × List Visit) :=
  match s.connections wsi with
  | none => .ok (s, [])
  | some g =>
    match s.interfaces g with
    | none => .error .wildPointer
    | some interface =>
      let node := s.entry wsi
      if reason = .wsiDestroy ∧ node = none then .error .nullPointer
      else
        (interface.container.lwsCallback reason works).map fun r =>
          ({ s with
              requestedNode := if reason = .wsiDestroy then flagFirst wsi s.requestedNode else s.requestedNode
              interfaces := Function.update s.interfaces g (some { interface with container := r.1 })
              connections := if reason = .wsiDestroy then Function.update s.connections wsi none else s.connections },
            if handled reason then [⟨g, node.map (·.number), interface.container.fds.isSome⟩] else [])

/-- The events that libwebsockets delivers for a connection from inside one of its functions. -/
def lwsEvents (wsi : Nat) : List (Reason × Bool) → State → Except Fault (State × List Visit)
  | [], s => .ok (s, [])
  | (reason, works) :: rest, s =>
    match lwsCallback wsi reason works s with
    | .error f => .error f
    | .ok (s, visits) => (lwsEvents wsi rest s).map fun r => (r.1, visits ++ r.2)

/-- The answers of the world to `os_websocket_open_stream`. The steps in front of the connect fail
with an error code; `connection` is the address of the new connection, `inside` what is delivered
for it before the connect returns, and `connects` whether it returns the connection. -/
structure OpenAnswers where
  prepared : ArtikError
  sendGarbage : Bool
  receiveGarbage : Bool
  len : Nat
  connection : Malloc
  inside : List (Reason × Bool)
  connects : Bool
  fds : Bool
  node : Bool

/-- The container of the new interface. -/
def OpenAnswers.container (answers : OpenAnswers) : Container :=
  .uncleared answers.sendGarbage answers.receiveGarbage answers.len

/-- The connections that are left when a connect fails: not the new one. -/
def State.disconnect (wsi : Nat) (s : State) : State := { s with connections := Function.update s.connections wsi none }

/-- `os_websocket_open_stream` once the connect has returned. -/
def finishOpen (config g wsi : Nat) (answers : OpenAnswers) (s : State) : ArtikError × State :=
  if answers.connects = false then (.websocketError, s.disconnect wsi)
  else if answers.fds = false then (.noMem, s)
  else
    let interface (serviced : Bool) : Interface := ⟨wsi, { answers.container with fds := some fun _ => 0 }, serviced⟩
    if answers.node = false then (.noMem, { s with interfaces := Function.update s.interfaces g (some (interface false)) })
    else
      (.ok,
        { s with
          requestedNode := s.requestedNode ++ [⟨wsi, false, g⟩]
          interfaces := Function.update s.interfaces g (some (interface true))
          privateData := Function.update s.privateData config (some g) })

/-- `os_websocket_open_stream`. -/
def osWebsocketOpenStream (config : Nat) (answers : OpenAnswers) (s : State) : Except Fault (ArtikError × State × List Visit) :=
  if answers.prepared ≠ .ok then .ok (answers.prepared, s, [])
  else
    let g := s.made
    let s := { s with
      interfaces := Function.update s.interfaces g (some ⟨0, answers.container, false⟩)
      made := g + 1 }
    match answers.connection.pick fun a => (s.connections a).isSome with
    | none => .ok (.websocketError, s, [])
    | some wsi =>
      (lwsEvents wsi answers.inside { s with connections := Function.update s.connections wsi (some g) }).map fun r =>
        let (result, s) := finishOpen config g wsi answers r.1
        (result, s, r.2)

/-- `os_websocket_write_stream`: the result, the interface written to and that of the entry whose
flag is read. -/
def osWebsocketWriteStream (config : Nat) (message : List Byte) (malloc : Bool) (s : State) :
    Except Fault (ArtikError × State × Nat × Nat) :=
  match s.privateData config with
  | none => .error .nullPointer
  | some g =>
    match s.interfaces g with
    | none => .error .wildPointer
    | some interface =>
      match s.entry interface.wsi with
      | none => .error .nullPointer
      | some node =>
        if node.errorConnect then .ok (.websocketError, s, g, node.number)
        else if malloc = false then .ok (.noMem, s, g, node.number)
        else
          .ok
            (.ok,
              { s with
                interfaces := Function.update s.interfaces g
                  (some { interface with container := interface.container.store message }) },
              g, node.number)

/-- `lws_cleanup`: `inside` is what `lws_context_destroy` delivers; the connection's protocol is read
before. -/
def lwsCleanup (config : Nat) (inside : List (Reason × Bool)) (s : State) : Except Fault (State × List Visit × Option Nat) :=
  match s.privateData config with
  | none => .ok (s, [], none)
  | some g =>
    match s.interfaces g with
    | none => .error .wildPointer
    | some interface =>
      if s.connections interface.wsi = none then .error .wildPointer
      else
        (lwsEvents interface.wsi inside s).map fun r =>
          ({ r.1 with
              interfaces := Function.update r.1.interfaces g none
              privateData := Function.update r.1.privateData config none
              connections := Function.update r.1.connections interface.wsi none },
            r.2, some interface.wsi)

/-- A call on a websocket, or an event of a connection that `lws_service` finds. -/
inductive Event where
  | openStream (config : Nat) (answers : OpenAnswers)
  | writeStream (config : Nat) (message : List Byte) (malloc : Bool)
  | closeStream (config : Nat) (inside : List (Reason × Bool))
  | service (wsi : Nat) (reason : Reason) (works : Bool)

/-- The result, the events handled, the connection that was cleaned up, and for a write the
interface written to and the one whose flag was read. -/
structure Output where
  result : ArtikError
  visits : List Visit
  cleaned : Option Nat
  consulted : Option (Nat × Nat)

/-- `lws_service` runs from the idle callback of a context. -/
def serviced (wsi : Nat) (s : State) : Bool :=
  (((s.connections wsi).bind s.interfaces).map (·.serviced)).getD false

def step (e : Event) (s : State) : Except Fault (State × Output) :=
  match e with
  | .openStream config answers =>
    (osWebsocketOpenStream config answers s).map fun r => (r.2.1, ⟨r.1, r.2.2, none, none⟩)
  | .writeStream config message malloc =>
    (osWebsocketWriteStream config message malloc s).map fun r => (r.2.1, ⟨r.1, [], none, some r.2.2⟩)
  | .closeStream config inside => (lwsCleanup config inside s).map fun r => (r.1, ⟨.ok, r.2.1, r.2.2, none⟩)
  | .service wsi reason works =>
    if serviced wsi s then (lwsCallback wsi reason works s).map fun r => (r.1, ⟨.ok, r.2, none, none⟩)
    else .ok (s, ⟨.ok, [], none, none⟩)

end ArtikSdk.Websocket.Sessions
