import ArtikSdk.Base.Error
import ArtikSdk.Lib.Bytes
import ArtikSdk.Lib.Run

/-!
# Websocket: messages of a connection

The container of a websocket's interface, through which every message passes: one slot for
the message to send, one for the message received, and the counters of the eventfds. The
container is part of an interface that `malloc` gave and nobody cleared, so that a pointer
which was never stored is `wild`, or null by luck.
-/

namespace ArtikSdk.Websocket
open Lib

/-- A `char *`. -/
inductive Pointer where
  | null
  | wild
  | buffer (bytes : List Byte)
deriving DecidableEq

/-- `FD_CLOSE`, `FD_CONNECT`, `FD_RECEIVE`, `FD_ERROR` -/
inductive Fd where
  | close
  | connect
  | receive
  | error
deriving DecidableEq

/-- `os_websocket_container`: `fds` are the counters of the eventfds, once the pointer is stored. -/
structure Container where
  sendMessage : Pointer
  sendMessageLen : Nat
  receiveMessage : Pointer
  fds : Option (Fd → Nat)

inductive Fault where
  | wildPointer
  | nullPointer
deriving DecidableEq

/-- The string at an address: the bytes in front of the first zero. -/
def stringAt (memory : List Byte) : List Byte := memory.takeWhile (· ≠ 0)

/-- The reasons of `lws_callback`. A message received is `payload`, with `beyond` behind it in
memory; `copied` is whether `strndup` finds memory. -/
inductive Reason where
  | established
  | writeable
  | receive (payload beyond : List Byte) (copied : Bool)
  | connectionError
  | closed
  | wsiDestroy
  | confirmExtensionSupported
  | other
deriving DecidableEq

namespace Container

/-- A container as `malloc` gives it: zeros or garbage. -/
def uncleared (sendGarbage receiveGarbage : Bool) (len : Nat) : Container where
  sendMessage := if sendGarbage then .wild else .null
  sendMessageLen := len
  receiveMessage := if receiveGarbage then .wild else .null
  fds := none

/-- `write(CB_FDS[fd], &event_setter, sizeof(event_setter))`. -/
def notify (fd : Fd) (works : Bool) (c : Container) : Except Fault Container :=
  match c.fds with
  | none => .error .wildPointer
  | some counters => .ok (if works then { c with fds := some (Function.update counters fd (counters fd + 1)) } else c)

/-- `lws_callback` on the container, and what it passes to `lws_write`. -/
def lwsCallback (reason : Reason) (works : Bool) (c : Container) : Except Fault (Container × List (List Byte)) :=
  match reason with
  | .established => (c.notify .connect works).map (·, [])
  | .writeable =>
    match c.sendMessage with
    | .null => .ok (c, [])
    | .wild => .error .wildPointer
    | .buffer bytes => .ok ({ c with sendMessage := .null }, [bytes.take c.sendMessageLen])
  | .receive payload beyond copied =>
    if copied = false then .ok (c, [])
    else ({ c with receiveMessage := .buffer (stringAt (payload ++ beyond)) }.notify .receive works).map (·, [])
  | .connectionError | .closed | .wsiDestroy => (c.notify .close works).map (·, [])
  | .confirmExtensionSupported | .other => .ok (c, [])

/-- The end of `os_websocket_write_stream`. -/
def store (message : List Byte) (c : Container) : Container :=
  { c with sendMessage := .buffer message, sendMessageLen := message.length }

/-- `os_websocket_receive_callback`: the result, and what the user callback gets. -/
def osWebsocketReceiveCallback (reads : Bool) (c : Container) : Except Fault (Container × Int × List (List Byte)) :=
  match c.fds with
  | none => .error .wildPointer
  | some counters =>
    if reads = false then .ok (c, 0, [])
    else
      let c := { c with fds := some (Function.update counters .receive 0) }
      match c.receiveMessage with
      | .null => .ok (c, 0, [])
      | .wild => .error .wildPointer
      | .buffer bytes => .ok (c, 1, [bytes])

end Container

/-! ## An open connection -/

/-- A connection with its entry in `requested_node`; `receiveWatch` is whether the loop watches
`FD_RECEIVE`. -/
structure Connection where
  container : Container
  errorConnect : Bool
  receiveWatch : Bool

/-- After `os_websocket_open_stream` and `os_websocket_set_receive_callback`. -/
def Connection.opened (sendGarbage receiveGarbage : Bool) (len : Nat) : Connection where
  container := { Container.uncleared sendGarbage receiveGarbage len with fds := some fun _ => 0 }
  errorConnect := false
  receiveWatch := true

/-- How often a message has been announced since the last `read`. -/
def Connection.announced (c : Connection) : Nat := (c.container.fds.map (· .receive)).getD 0

/-- `os_websocket_write_stream`. -/
def osWebsocketWriteStream (message : List Byte) (malloc : Bool) (c : Connection) : ArtikError × Connection :=
  if c.errorConnect then (.websocketError, c)
  else if malloc = false then (.noMem, c)
  else (.ok, { c with container := c.container.store message })

/-- `lws_callback` for the connection. -/
def lwsCallback (reason : Reason) (works : Bool) (c : Connection) : Except Fault (Connection × List (List Byte)) :=
  (c.container.lwsCallback reason works).map fun r =>
    ({ c with container := r.1, errorConnect := c.errorConnect || decide (reason = .wsiDestroy) }, r.2)

/-- The loop looks at `FD_RECEIVE`: the handler runs where the eventfd can be read, and the
watch goes with a result of 0. -/
def pollReceive (reads : Bool) (c : Connection) : Except Fault (Connection × List (List Byte)) :=
  if c.receiveWatch = true ∧ 0 < c.announced then
    (c.container.osWebsocketReceiveCallback reads).map fun r =>
      ({ c with container := r.1, receiveWatch := decide (r.2.1 ≠ (0 : Int)) }, r.2.2)
  else .ok (c, [])

inductive Event where
  | writeStream (message : List Byte) (malloc : Bool)
  | lws (reason : Reason) (works : Bool)
  | pollReceive (reads : Bool)
deriving DecidableEq

/-- What an event returns, passes to `lws_write` and passes to the receive callback. -/
structure Output where
  result : Option ArtikError
  written : List (List Byte)
  delivered : List (List Byte)
deriving DecidableEq

def step (e : Event) (c : Connection) : Except Fault (Connection × Output) :=
  match e with
  | .writeStream message malloc =>
    let (result, c) := osWebsocketWriteStream message malloc c
    .ok (c, ⟨some result, [], []⟩)
  | .lws reason works => (lwsCallback reason works c).map fun r => (r.1, ⟨none, r.2, []⟩)
  | .pollReceive reads => (pollReceive reads c).map fun r => (r.1, ⟨none, [], r.2⟩)

end ArtikSdk.Websocket
