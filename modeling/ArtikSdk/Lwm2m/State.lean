import ArtikSdk.Lib.Alloc
import ArtikSdk.Base.Error

/-!
# LWM2M: nodes, wakaama clients and what services them

`linux_lwm2m.c` and `tinyara_lwm2m.c`. A handle is the address of a node, and an address is
given out again once its block is freed; a pointer that something keeps is named by the number
of the node it points to. On Linux the clients are serviced by timeout callbacks, and user
callbacks run from idle callbacks. On Tinyara every node has a service thread, which runs the
user callbacks, too. A call of the module is one step, so a lock that it takes and gives back
is not seen.
-/

namespace ArtikSdk.Lwm2m
open Lib

inductive Port where
  | linux
  | tinyara
deriving DecidableEq

/-- `artik_lwm2m_event_t` below `ARTIK_LWM2M_EVENT_COUNT`. -/
inductive Event where
  | error
  | resourceExecute
  | resourceChanged
deriving DecidableEq

/-- The callbacks of wakaama: `LWM2M_EXE_FACTORY_RESET` and so on. -/
inductive Hook where
  | exeFactoryReset
  | exeDeviceReboot
  | exeFirmwareUpdate
  | notifyResourceChanged
deriving DecidableEq

/-- The user callback that the function behind a hook runs. -/
def Hook.event : Hook → Event
  | .notifyResourceChanged => .resourceChanged
  | _ => .resourceExecute

/-- `lwm2m_node`: `serviceCbkId` is there on Linux, `quit` on Tinyara. `number` is not in the
source: which connect made the node. -/
structure Node where
  number : Nat
  address : Nat
  client : Nat
  callbacks : Event → Option Nat
  callbacksParams : Event → Nat
  serviceCbkId : Nat
  quit : Bool

/-- A wakaama client that runs, for the node of its number, and the parameter of each callback
that is registered in it. -/
structure Client where
  number : Nat
  address : Nat
  hooks : Hook → Option Nat

/-- `on_lwm2m_service_callback` armed with a node. -/
structure Timer where
  id : Nat
  node : Nat
deriving DecidableEq

/-- `on_idle_callback` waiting with its `lwm2m_idle_params`. -/
structure Idle where
  id : Nat
  node : Nat
  hook : Hook
deriving DecidableEq

/-- `_lwm2m_service_thread` of a node; `leaving` once servicing failed. -/
structure Thread where
  node : Nat
  leaving : Bool
deriving DecidableEq

/-- `entered` are the nodes of the idle callbacks that wait for a user callback to return, the
innermost first, and `made` counts the nodes. -/
structure State where
  nodes : List Node
  clients : List Client
  timers : List Timer
  idles : List Idle
  entered : List Nat
  threads : List Thread
  made : Nat

def State.init : State := ⟨[], [], [], [], [], [], 0⟩

inductive Fault where
  | nullPointer
  | freed
deriving DecidableEq

/-- `extra` of a user callback: an error code, or the URI that goes with a hook. -/
inductive Extra where
  | code (e : ArtikError)
  | uri (h : Hook)
deriving DecidableEq

/-- What a step shows: the handle of a connect, a code, or the user callback that is run. -/
inductive Output where
  | connected (handle : Nat)
  | code (e : ArtikError)
  | runs (fn : Nat) (extra : Extra) (userData : Nat)
  | nothing
deriving DecidableEq

/-! ## Tables -/

/-- `artik_list_get_by_handle(nodes, handle)`. -/
def State.byHandle (handle : Nat) (s : State) : Option Node := s.nodes.find? fun n => n.address = handle

/-- What a pointer to a node reads: nothing once the node is freed. -/
def State.node (k : Nat) (s : State) : Option Node := s.nodes.find? fun n => n.number = k

/-- What the pointer of a node to its client reads. -/
def State.client (k : Nat) (s : State) : Option Client := s.clients.find? fun c => c.number = k

def State.used (s : State) (a : Nat) : Bool := (s.nodes.any fun n => n.address = a) || s.clients.any fun c => c.address = a

/-- `artik_list_add(&nodes, 0, sizeof(lwm2m_node))`, which clears the node. -/
def State.addNode (a : Nat) (s : State) : State :=
  { s with nodes := s.nodes ++ [⟨s.made, a, 0, fun _ => none, fun _ => 0, 0, false⟩], made := s.made + 1 }

/-- `artik_list_delete_node(&nodes, node)`. -/
def State.deleteNode (k : Nat) (s : State) : State := { s with nodes := s.nodes.filter fun n => n.number ≠ k }

/-- A store into a node. -/
def State.update (k : Nat) (f : Node → Node) (s : State) : State :=
  { s with nodes := s.nodes.map fun n => if n.number = k then f n else n }

/-- `node->client = lwm2m_client_start(&objects)`. -/
def State.startClient (k p : Nat) (s : State) : State :=
  { s.update k fun n => { n with client := p } with clients := s.clients ++ [⟨k, p, fun _ => none⟩] }

/-- `lwm2m_client_stop(node->client)`. -/
def State.stopClient (k : Nat) (s : State) : State := { s with clients := s.clients.filter fun c => c.number ≠ k }

/-- `lwm2m_register_callback` and `lwm2m_unregister_callback` on the client of a node. -/
def State.setHooks (k : Nat) (hs : List Hook) (parameter : Option Nat) (s : State) : Except Fault State :=
  match s.client k with
  | none => .error .freed
  | some _ =>
    .ok
      { s with
        clients := s.clients.map fun c =>
          if c.number = k then { c with hooks := fun h => if h ∈ hs then parameter else c.hooks h } else c }

/-- `add_timeout_callback(&node->service_cbk_id, ..., on_lwm2m_service_callback, node)`. -/
def State.addTimeout (timer : Malloc) (k : Nat) (s : State) : Option State :=
  (timer.pick fun id => s.timers.any fun t => t.id = id).map fun id =>
    { s.update k fun n => { n with serviceCbkId := id } with timers := s.timers ++ [⟨id, k⟩] }

def State.removeTimeout (id : Nat) (s : State) : State := { s with timers := s.timers.filter fun t => t.id ≠ id }

/-! ## Callbacks of the user -/

/-- The hooks that (un)setting the callback of an event touches. -/
def hooksOf (event : Event) : List Hook :=
  if event = .resourceExecute then [.exeFactoryReset, .exeDeviceReboot, .exeFirmwareUpdate]
  -- `else if (ARTIK_LWM2M_EVENT_RESOURCE_CHANGED)` tests the constant
  else [.notifyResourceChanged]

/-- `node->callbacks[event] = ...; node->callbacks_params[event] = ...` -/
def Node.store (event : Event) (fn : Option Nat) (userData : Nat) (n : Node) : Node :=
  { n with
    callbacks := Function.update n.callbacks event fn
    callbacksParams := Function.update n.callbacksParams event userData }

/-- `os_lwm2m_set_callback`; no event is one from `ARTIK_LWM2M_EVENT_COUNT` on. -/
def setCallback (handle : Nat) (event : Option Event) (userCallback : Option Nat) (userData : Nat) (s : State) :
    Except Fault (State × ArtikError) :=
  match s.byHandle handle, userCallback, event with
  | some n, some fn, some e => do
    let s := s.update n.number (Node.store e (some fn) userData)
    let s ← s.setHooks n.number (hooksOf e) (some n.number)
    return (s, .ok)
  | _, _, _ => .ok (s, .badArgs)

/-- `os_lwm2m_unset_callback`. -/
def unsetCallback (handle : Nat) (event : Option Event) (s : State) : Except Fault (State × ArtikError) :=
  match s.byHandle handle, event with
  | some n, some e => do
    let s := s.update n.number (Node.store e none 0)
    let s ← s.setHooks n.number (hooksOf e) none
    return (s, .ok)
  | _, _ => .ok (s, .badArgs)

/-- The user callback of a node for an event, if one is set. -/
def Node.runs (n : Node) (event : Event) (extra : Extra) : Output :=
  match n.callbacks event with
  | none => .nothing
  | some fn => .runs fn extra (n.callbacksParams event)

/-- `on_exec_factory_reset`, `on_exec_device_reboot`, `on_exec_firmware_update` and
`on_resource_changed`, when the client of node `k` calls them: memory for the parameters, and
the id of the idle callback. -/
def onHook (port : Port) (k : Nat) (h : Hook) (params : Bool) (idle : Malloc) (s : State) :
    Except Fault (State × Output) :=
  match (s.client k).bind fun c => c.hooks h with
  | none => .ok (s, .nothing)
  | some p =>
    match s.node p with
    | none => .error .freed
    | some n =>
      if n.callbacks h.event = none then .ok (s, .nothing)
      else if params = false then .error .nullPointer
      else
        match port with
        | .tinyara => .ok (s, n.runs h.event (.uri h))
        | .linux =>
          match idle.pick fun id => s.idles.any fun i => i.id = id with
          | none => .ok (s, .nothing)
          | some id => .ok ({ s with idles := s.idles ++ [⟨id, n.number, h⟩] }, .nothing)

/-- `on_idle_callback` up to the user callback. -/
def onIdleCallback (id : Nat) (s : State) : Except Fault (State × Output) :=
  match s.idles.find? fun i => i.id = id with
  | none => .ok (s, .nothing)
  | some params =>
    let s := { s with idles := s.idles.filter fun i => i.id ≠ id }
    match s.node params.node with
    | none => .error .freed
    | some n =>
      if n.callbacks params.hook.event = none then .ok (s, .nothing)
      else .ok ({ s with entered := params.node :: s.entered }, n.runs params.hook.event (.uri params.hook))

/-- The rest of `on_idle_callback`: `params->node->loop_module->remove_idle_callback(params->id)`. -/
def onIdleReturned (s : State) : Except Fault (State × Output) :=
  match s.entered with
  | [] => .ok (s, .nothing)
  | k :: rest =>
    match s.node k with
    | none => .error .freed
    | some _ => .ok ({ s with entered := rest }, .nothing)

/-! ## Connecting -/

/-- The end of `_lwm2m_service_thread`: `lwm2m_client_stop(node->client)`. -/
def State.endThread (k : Nat) (s : State) : State :=
  { s.stopClient k with threads := s.threads.filter fun t => t.node ≠ k }

/-- `pthread_join` in a disconnect. It waits until the thread has ended, and fails in the thread
itself, which is then the caller. -/
def State.join (caller : Option Nat) (k : Nat) (s : State) : State :=
  if caller ≠ some k ∧ (s.threads.any fun t => t.node = k) then s.endThread k else s

/-- `os_lwm2m_client_disconnect`, called by the application or by a service thread in a user
callback. -/
def disconnect (port : Port) (caller : Option Nat) (handle : Nat) (s : State) : State × ArtikError :=
  match s.byHandle handle with
  | none => (s, .badArgs)
  | some n =>
    match port with
    | .linux => ((s.stopClient n.number).deleteNode n.number, .ok)
    | .tinyara =>
      let s := s.update n.number fun n => { n with quit := true }
      ((s.join caller n.number).deleteNode n.number, .ok)

/-- The outcomes of the steps of `os_lwm2m_client_connect`: whether the arguments are there, the
node, the loop module, the client, then the timer on Linux, and the mutex, the attributes and
the thread on Tinyara. -/
structure Answers where
  args : Bool
  node : Malloc
  loopModule : Bool
  client : Malloc
  timer : Malloc
  mutexInit : Bool
  attrInit : Bool
  attrSetStackSize : Bool
  threadCreate : Bool

/-- Every step works, with the node at `a`, the client at `p` and the timer `id`. -/
def Answers.working (a p id : Nat) : Answers := ⟨true, .only a, true, .only p, .only id, true, true, true, true⟩

/-- The end of `os_lwm2m_client_connect` on Linux, with a client at `p`. -/
def startTimer (answers : Answers) (k a p : Nat) (s : State) : Except Fault (State × Output) :=
  if answers.loopModule = false then .error .nullPointer
  else
    match s.addTimeout answers.timer k with
    | none => .ok ((disconnect .linux none p s).1, .code .noMem)
    | some s => .ok (s, .connected a)

/-- The end of `os_lwm2m_client_connect` on Tinyara, with a client at `p`. -/
def startThread (answers : Answers) (k a p : Nat) (s : State) : Except Fault (State × Output) :=
  if answers.mutexInit = false then .ok (((disconnect .tinyara none p s).1).deleteNode k, .code .lwm2mError)
  -- the mutex is destroyed before the disconnect that locks it, and there is no thread to join
  else if answers.attrInit = false ∨ answers.attrSetStackSize = false ∨ answers.threadCreate = false then
    .ok (((disconnect .tinyara none a s).1).deleteNode k, .code .lwm2mError)
  else .ok ({ s with threads := s.threads ++ [⟨k, false⟩] }, .connected a)

/-- `os_lwm2m_client_connect`. -/
def connect (port : Port) (answers : Answers) (s : State) : Except Fault (State × Output) :=
  if answers.args = false then .ok (s, .code .badArgs)
  else
    match answers.node.pick s.used with
    | none => .ok (s, .code .noMem)
    | some a =>
      match answers.client.pick (s.addNode a).used with
      | none => .ok ((s.addNode a).deleteNode s.made, .code .lwm2mError)
      | some p =>
        let started := (s.addNode a).startClient s.made p
        match port with
        | .linux => startTimer answers s.made a p started
        | .tinyara => startThread answers s.made a p started

/-! ## Servicing -/

/-- `lwm2m_client_service`: a timeout, `LWM2M_CLIENT_QUIT` or another error. -/
inductive Serviced where
  | timeout
  | quit
  | error
deriving DecidableEq

/-- `err` for the callback of `ARTIK_LWM2M_EVENT_ERROR`. -/
def Serviced.code (result : Serviced) : ArtikError := if result = .quit then .interrupted else .lwm2mError

/-- `on_lwm2m_service_callback`, when the timer `id` fires. -/
def onServiceCallback (id : Nat) (result : Serviced) (timer : Malloc) (s : State) : Except Fault (State × Output) :=
  match s.timers.find? fun t => t.id = id with
  | none => .ok (s, .nothing)
  | some t =>
    let s := s.removeTimeout id
    match s.node t.node, s.client t.node with
    | some n, some _ =>
      if result = .timeout then
        let s := s.removeTimeout n.serviceCbkId
        match s.addTimeout timer n.number with
        | none => .ok ((disconnect .linux none n.client s).1, .nothing)
        | some s => .ok (s, .nothing)
      else .ok (s, n.runs .error (.code result.code))
    | _, _ => .error .freed

/-- `_lwm2m_service_thread` of node `k`: to its next call of `lwm2m_client_service` and of a user
callback, or to its end. -/
def serviceThread (k : Nat) (result : Serviced) (s : State) : Except Fault (State × Output) :=
  match s.threads.find? fun t => t.node = k with
  | none => .ok (s, .nothing)
  | some t =>
    match s.node k, s.client k with
    | some n, some _ =>
      if t.leaving then .ok ((s.update k fun n => { n with quit := true }).endThread k, .nothing)
      else if n.quit then .ok (s.endThread k, .nothing)
      else if result = .timeout then .ok (s, .nothing)
      else
        .ok ({ s with threads := s.threads.map fun t => if t.node = k then { t with leaving := true } else t },
          n.runs .error (.code result.code))
    | _, _ => .error .freed

/-! ## Steps -/

/-- What can happen: a call of the module, a call of a hook by wakaama, a timer or an idle
callback that fires, the return of a user callback, and a round of a service thread. -/
inductive Input where
  | connect (answers : Answers)
  | disconnect (caller : Option Nat) (handle : Nat)
  | setCallback (handle : Nat) (event : Option Event) (userCallback : Option Nat) (userData : Nat)
  | unsetCallback (handle : Nat) (event : Option Event)
  | hook (node : Nat) (h : Hook) (params : Bool) (idle : Malloc)
  | timeout (id : Nat) (result : Serviced) (timer : Malloc)
  | idle (id : Nat)
  | returned
  | thread (node : Nat) (result : Serviced)

def step (port : Port) (input : Input) (s : State) : Except Fault (State × Output) :=
  match input with
  | .connect answers => Lwm2m.connect port answers s
  | .disconnect caller handle =>
    let r := Lwm2m.disconnect port caller handle s
    .ok (r.1, .code r.2)
  | .setCallback handle event userCallback userData =>
    (Lwm2m.setCallback handle event userCallback userData s).map fun r => (r.1, .code r.2)
  | .unsetCallback handle event => (Lwm2m.unsetCallback handle event s).map fun r => (r.1, .code r.2)
  | .hook node h params idle => onHook port node h params idle s
  | .timeout id result timer => onServiceCallback id result timer s
  | .idle id => onIdleCallback id s
  | .returned => onIdleReturned s
  | .thread node result => serviceThread node result s

end ArtikSdk.Lwm2m
