import ArtikSdk.Lib.Alloc
import ArtikSdk.Base.Error
import ArtikSdk.Dhcp.Client.State
import ArtikSdk.Dhcp.Server.Instances

/-!
# DHCP handles

The DHCP calls of `linux_network.c`. Clients and servers share `requested_node`; a client's handle
is what `dhcpc_open` returned, a server's is its node. Timers and watches are sources of the loop,
with ids of one kind. A renewal is armed with the place of the handle that the caller passed to
the start, and reads the handle there when it fires.
-/

namespace ArtikSdk.Network.Dhcp
open Lib ArtikSdk.Dhcp
open ArtikSdk.Dhcp.Client (DhcpcState)
open ArtikSdk.Dhcp.Server (ServerConfig StartWorld checkDhcpServerConfig)

/-- `dhcp_handle_client` and `dhcp_handle_server`, behind the `artik_list` that both begin with. No
socket is `sockfd == -1`. -/
inductive Payload where
  | client (renewCbkId : Nat) (loopModule : Bool)
  | server (sockfd : Option Nat) (watchId : Nat)
deriving DecidableEq

structure Node where
  address : Nat
  handle : Nat
  payload : Payload
deriving DecidableEq

/-- `struct dhcpc_state_s`, as far as it is not `dhcpc_request`'s. -/
structure Dhcpc where
  address : Nat
  sockfd : Nat
deriving DecidableEq

/-- `on_dhcp_client_renew_callback` with its argument, the address of a handle, or `loop_handler` on
a descriptor. -/
inductive Callback where
  | renew (msec : BitVec 32) (handle : Nat)
  | loopHandler (fd : Nat)
deriving DecidableEq

structure Source where
  id : Nat
  callback : Callback
deriving DecidableEq

/-- `places` are the variables of the callers, by address. `started` is not in the source: the handles
between a start that returned `S_OK` and their stop. -/
structure State where
  requestedNode : List Node
  dhcpcs : List Dhcpc
  sockets : List Nat
  sources : List Source
  places : Nat → Nat
  started : List Nat

def State.init : State := ⟨[], [], [], [], fun _ => 0, []⟩

inductive Fault where
  | nullPointer
  | freed
  | wrongNode
deriving DecidableEq

/-- The outcome of a `socket`, given which descriptors are open: -1, or one that is not. -/
structure Socket where
  pick : (Nat → Bool) → Option Nat
  fresh : ∀ used fd, pick used = some fd → used fd = false

/-- One descriptor to give. -/
def Socket.only (fd : Nat) : Socket where
  pick used := if used fd = false then some fd else none
  fresh used fd' given := by
    split at given
    · cases given
      assumption
    · cases given

/-! ## Tables -/

/-- `artik_list_get_by_handle(requested_node, handle)`. -/
def State.byHandle (handle : Nat) (s : State) : Option Node :=
  if handle = 0 then none else s.requestedNode.find? fun n => n.handle = handle

def State.used (s : State) (a : Nat) : Bool := (s.requestedNode.any fun n => n.address = a) || s.dhcpcs.any fun d => d.address = a

def State.isOpen (s : State) (fd : Nat) : Bool := s.sockets.any fun fd' => fd' = fd

def State.attached (s : State) (id : Nat) : Bool := s.sources.any fun c => c.id = id

/-- `artik_list_add(&requested_node, 0, ...)`, and the stores into the new node. -/
def State.addNode (n : Node) (s : State) : State := { s with requestedNode := s.requestedNode ++ [n] }

/-- `dhcp_client->renew_cbk_id = id`, in the node at `a`. -/
def State.storeRenewCbkId (a id : Nat) (s : State) : State :=
  { s with
    requestedNode := s.requestedNode.map fun n =>
      match n.payload with
      | .client _ loopModule => if n.address = a then { n with payload := .client id loopModule } else n
      | .server _ _ => n }

/-- `*handle = value` -/
def State.assign (place value : Nat) (s : State) : State := { s with places := Function.update s.places place value }

def State.start (handle : Nat) (s : State) : State := { s with started := s.started ++ [handle] }
def State.stop (handle : Nat) (s : State) : State := { s with started := s.started.filter fun h => h ≠ handle }

/-- `close(fd)`; nothing where it fails without closing. -/
def State.close (fd : Option Nat) (s : State) : Option State :=
  fd.bind fun fd => if s.isOpen fd then some { s with sockets := s.sockets.erase fd } else none

/-! ## The loop -/

def State.attach (c : Source) (s : State) : State := { s with sources := s.sources ++ [c] }

/-- `add_timeout_callback(&id, msec, on_dhcp_client_renew_callback, handle)`. -/
def State.addTimeoutCallback (timeout : Malloc) (msec : BitVec 32) (place : Nat) (s : State) : Option (Nat × State) :=
  (timeout.pick s.attached).map fun id => (id, s.attach ⟨id, .renew msec place⟩)

/-- The loop module's `add_fd_watch(fd, ..., loop_handler, server, &id)`; an error leaves the id 0. -/
def State.addFdWatch (watch : Malloc) (fd : Option Nat) (s : State) : Nat × State :=
  match fd, watch.pick s.attached with
  | some fd, some id => (id, s.attach ⟨id, .loopHandler fd⟩)
  | _, _ => (0, s)

/-- A source is gone. -/
def State.detach (id : Nat) (s : State) : State := { s with sources := s.sources.filter fun c => c.id ≠ id }

/-- `remove_timeout_callback(id)` and `remove_fd_watch(id)`; nothing is an error. -/
def State.removeSource (id : Nat) (s : State) : Option State :=
  if id ≠ 0 ∧ s.attached id then some (s.detach id) else none

/-! ## The client -/

/-- `set_defaultroute` with a gateway: an error whose `errno` is `ROUTE_EXISTS` is apart. -/
inductive Gateway where
  | set
  | routeExists
  | error
deriving DecidableEq

/-- What the calls that configure the interface answer. -/
structure Setting where
  ipv4addr : Bool
  ipv4netmask : Bool
  dripv4addr : Bool
  ipv4dnsaddr : Bool

def Setting.working : Setting := ⟨true, true, true, true⟩

/-- The address is set, and of the others what the server gave. -/
def Setting.applies (answers : Setting) (ds : DhcpcState) : Bool :=
  answers.ipv4addr && (ds.netmask == 0 || answers.ipv4netmask) && (ds.defaultRouter == 0 || answers.dripv4addr) &&
    (ds.dnsaddr == 0 || answers.ipv4dnsaddr)

/-- `(ds.lease_time-(30))*1000` -/
def renewalTime (ds : DhcpcState) : BitVec 32 := (ds.leaseTime - 30) * 1000

/-- The answers of a start, in the order of the calls: `configured` are those of `bind` and of both
`setsockopt` in `dhcpc_open`, and a `dhcpc_request` that fails has no result. -/
structure ClientAnswers where
  delAllroutes : Bool
  setDefaultroute : Bool
  getmacaddr : Bool
  dhcpc : Malloc
  socket : Socket
  configured : Bool
  request : Option DhcpcState
  node : Malloc
  loopModule : Bool
  setting : Setting
  gateway : Gateway
  timeout : Malloc

/-- `dhcpc_open`; where it fails it closes and frees what it has. -/
def dhcpcOpen (answers : ClientAnswers) (s : State) : Option (Nat × State) :=
  match answers.dhcpc.pick s.used, answers.socket.pick s.isOpen with
  | some h, some fd =>
    if answers.configured then some (h, { s with dhcpcs := s.dhcpcs ++ [⟨h, fd⟩], sockets := s.sockets ++ [fd] }) else none
  | _, _ => none

/-- `dhcpc_close`. -/
def dhcpcClose (d : Dhcpc) (s : State) : State :=
  let closed := if d.sockfd ≠ 0 then (s.close (some d.sockfd)).getD s else s
  { closed with dhcpcs := closed.dhcpcs.filter fun d' => d'.address ≠ d.address }

/-- The end of `os_dhcp_client_start`, with the node at `a` in the list. -/
def clientConfigure (answers : ClientAnswers) (ds : DhcpcState) (place h a : Nat) (s : State) :
    Except Fault (State × ArtikError) :=
  if answers.setting.applies ds = false ∨ answers.gateway ≠ .set then .ok (s, .networkError)
  else if answers.loopModule = false then .error .nullPointer
  else
    match s.addTimeoutCallback answers.timeout (renewalTime ds) place with
    | none => .ok (s, .noMem)
    | some (id, s) => .ok ((s.storeRenewCbkId a id).start h, .ok)

/-- `os_dhcp_client_start`. -/
def osDhcpClientStart (handle : Option Nat) (answers : ClientAnswers) (s : State) : Except Fault (State × ArtikError) :=
  if (answers.delAllroutes && answers.setDefaultroute && answers.getmacaddr) = false then .ok (s, .networkError)
  else
    match handle, dhcpcOpen answers s with
    | none, _ => .error .nullPointer
    | some place, none => .ok (s.assign place 0, .networkError)
    | some place, some (h, s) =>
      let s := s.assign place h
      match answers.request with
      | none => .ok (s, .networkError)
      | some ds =>
        match answers.node.pick s.used with
        | none => .ok (s, .noMem)
        | some a => clientConfigure answers ds place h a (s.addNode ⟨a, h, .client 0 answers.loopModule⟩)

/-- `os_dhcp_client_stop`. -/
def osDhcpClientStop (handle : Nat) (s : State) : Except Fault (State × ArtikError) :=
  match s.byHandle handle with
  | none => .ok (s, .noMem)
  | some n =>
    match n.payload, s.dhcpcs.find? fun d => d.address = handle with
    | .server _ _, _ => .error .wrongNode
    | .client _ _, none => .error .freed
    | .client _ _, some d => .ok ((dhcpcClose d s).stop handle, .ok)

/-- The answers of a renewal: of its calls, then, where they fail, of `set_ipv4addr` to 0.0.0.0 and of
the request for the loop module. -/
structure RenewAnswers where
  request : Option DhcpcState
  setting : Setting
  gateway : Gateway
  timeout : Malloc
  reset : Bool
  loopModule : Bool

/-- `dhcp_client_renew`. -/
def dhcpClientRenew (place : Nat) (answers : RenewAnswers) (s : State) : Except Fault (State × Bool) :=
  match s.byHandle (s.places place) with
  | none => .ok (s, false)
  | some n =>
    match n.payload, s.dhcpcs.find? fun d => d.address = s.places place with
    | .server _ _, _ => .error .wrongNode
    | .client _ _, none => .error .freed
    | .client renewCbkId loopModule, some _ =>
      match answers.request with
      | none => .ok (s, false)
      | some ds =>
        if answers.setting.applies ds = false ∨ answers.gateway = .error then .ok (s, false)
        else if loopModule = false then .error .nullPointer
        else
          match s.removeSource renewCbkId with
          | none => .ok (s, false)
          | some s' =>
            -- the loop does not give the id of a source away before its callback has returned
            match answers.timeout.pick s.attached with
            | none => .ok (s', false)
            | some id =>
              .ok ((s'.attach ⟨id, .renew (renewalTime ds) place⟩).storeRenewCbkId n.address id, true)

/-- What a step shows: a code, or the handle that a renewal acts on. -/
inductive Output where
  | code (e : ArtikError)
  | acts (handle : Nat)
  | nothing
deriving DecidableEq

/-- `on_dhcp_client_renew_callback`, with what it was armed with. -/
def onDhcpClientRenewCallback (place : Nat) (answers : RenewAnswers) (s : State) : Except Fault (State × Output) :=
  match s.byHandle (s.places place) with
  | none => .ok (s, .nothing)
  | some _ =>
    match dhcpClientRenew place answers s with
    | .error f => .error f
    | .ok (s', renewed) =>
      if renewed ∨ answers.reset = false then .ok (s', .acts (s.places place))
      else if answers.loopModule = false then .error .nullPointer
      else .ok (s', .acts (s.places place))

/-- A timer fires: its source goes when the callback has returned. -/
def fire (id : Nat) (answers : RenewAnswers) (s : State) : Except Fault (State × Output) :=
  match s.sources.find? fun c => c.id = id with
  | some ⟨_, .renew _ place⟩ =>
    match onDhcpClientRenewCallback place answers s with
    | .error f => .error f
    | .ok (s', o) => .ok (s'.detach id, o)
  | _ => .ok (s, .nothing)

/-! ## The server -/

/-- The answers of a server start: whether `handle` and `config` are there, the calls that configure
the interface, and in `dhcpd_run` the memory, the socket of the listener and the watch. -/
structure ServerAnswers where
  node : Malloc
  os : StartWorld
  memory : Bool
  loopModule : Bool
  socket : Socket
  watch : Malloc

/-- `dhcpd_run`, as far as it concerns the loop and the listener. -/
def dhcpdRun (answers : ServerAnswers) (config : ServerConfig) (s : State) : Except Fault (Option Nat × Nat × State) :=
  if answers.memory = false ∨ answers.loopModule = false then .error .nullPointer
  else
    match answers.os.openlistener config.interface, answers.socket.pick s.isOpen with
    | some _, some fd =>
      let (id, s) := { s with sockets := s.sockets ++ [fd] }.addFdWatch answers.watch (some fd)
      .ok (some fd, id, s)
    | _, _ => .ok (none, 0, s)

section

variable (regexec : List Char → Bool) (inetAddr : List Char → Addr)

/-- The interface is configured: the calls of `os_dhcp_server_start` up to `dhcpd_run` work. -/
def configures (config : ServerConfig) (os : StartWorld) : Bool :=
  (Server.osDhcpServerStart regexec inetAddr config os Server.Process.empty).1 = .ok

/-- `os_dhcp_server_start`; null pointers are nothing. -/
def osDhcpServerStart (handle : Option Nat) (config : Option ServerConfig) (answers : ServerAnswers) (s : State) :
    Except Fault (State × ArtikError) :=
  match handle, config with
  | some place, some config =>
    if checkDhcpServerConfig regexec config = false then .ok (s, .networkError)
    else
      match answers.node.pick s.used with
      | none => .ok (s, .noMem)
      | some a =>
        let s := s.assign place a
        if configures regexec inetAddr config answers.os = false then .ok (s.addNode ⟨a, a, .server (some 0) 0⟩, .networkError)
        else
          match dhcpdRun answers config s with
          | .error f => .error f
          | .ok (sockfd, watchId, s) => .ok ((s.addNode ⟨a, a, .server sockfd watchId⟩).start a, .ok)
  | _, _ => .ok (s, .badArgs)

end

/-- The answers of a server stop; a `close` may report an error of the descriptor that it closes. -/
structure StopAnswers where
  loopModule : Bool
  close : Bool
  delAllroutes : Bool
  setDefaultroute : Bool
  setIpv4addr : Bool

/-- The end of `os_dhcp_server_stop`, behind the `close`. -/
def serverDown (handle watchId : Nat) (answers : StopAnswers) (s : State) : Except Fault (State × ArtikError) :=
  if answers.loopModule = false then .error .nullPointer
  else
    match s.removeSource watchId with
    | none => .ok (s, .networkError)
    | some s =>
      if (answers.delAllroutes && answers.setDefaultroute && answers.setIpv4addr) = false then .ok (s, .networkError)
      else .ok (s.stop handle, .ok)

/-- `os_dhcp_server_stop`. -/
def osDhcpServerStop (handle : Nat) (answers : StopAnswers) (s : State) : Except Fault (State × ArtikError) :=
  match s.byHandle handle with
  | none => .ok (s, .noMem)
  | some n =>
    match n.payload with
    | .client _ _ => .error .wrongNode
    | .server sockfd watchId =>
      match s.close sockfd with
      | none => .ok (s, .networkError)
      | some s => if answers.close = false then .ok (s, .networkError) else serverDown handle watchId answers s

/-! ## Steps -/

/-- The four calls, a timer that fires, a `loop_handler` whose `recv` fails with another error than
`EINTR`, and a caller that stores into a variable. -/
inductive Input where
  | clientStart (handle : Option Nat) (answers : ClientAnswers)
  | clientStop (handle : Nat)
  | serverStart (handle : Option Nat) (config : Option ServerConfig) (answers : ServerAnswers)
  | serverStop (handle : Nat) (answers : StopAnswers)
  | fire (id : Nat) (answers : RenewAnswers)
  | recvFails (fd : Nat)
  | assign (place value : Nat)

/-- The code of a call. -/
def coded (r : Except Fault (State × ArtikError)) : Except Fault (State × Output) := r.map fun p => (p.1, .code p.2)

def step (regexec : List Char → Bool) (inetAddr : List Char → Addr) : Input → State → Except Fault (State × Output)
  | .clientStart handle answers, s => coded (osDhcpClientStart handle answers s)
  | .clientStop handle, s => coded (osDhcpClientStop handle s)
  | .serverStart handle config answers, s => coded (osDhcpServerStart regexec inetAddr handle config answers s)
  | .serverStop handle answers, s => coded (osDhcpServerStop handle answers s)
  | .fire id answers, s => fire id answers s
  | .recvFails fd, s => .ok ((s.close (some fd)).getD s, .nothing)
  | .assign place value, s => .ok (s.assign place value, .nothing)

end ArtikSdk.Network.Dhcp
