import ArtikSdk.Lib.Simulation
import ArtikSdk.Base.Loop.Sources
import ArtikSdk.Mqtt.Create

/-!
# MQTT clients on the loop

`mqtt_client.c` between the application, mosquitto and the loop: callbacks are set by handle, mosquitto calls back
with the handle that it was given, and the loop calls `loop_handler` while a watch is there. What is called may make
any call again. Creating and destroying are those of the clients, with what a node has besides.
-/

namespace ArtikSdk.Mqtt.Sessions
open Lib

/-- `on_connect` and so on. -/
inductive Hook where
  | connect
  | disconnect
  | subscribe
  | unsubscribe
  | publish
  | message
deriving DecidableEq

/-- What else is in a `mqtt_handle_client`: the addresses of the configuration and of mosquitto's client, named by its
number, the watch, and the callbacks with their data. -/
structure Node where
  config : Nat
  mosq : Nat
  watchId : Int
  on : Hook → Option Nat
  dataCb : Hook → Nat

/-- A client of mosquitto, with what `mosquitto_user_data_set` gave it. -/
structure Instance where
  number : Nat
  obj : Nat
deriving DecidableEq

/-- `mosquitto_loop_read`, `mosquitto_loop_write` and `mosquitto_loop_misc`. -/
inductive Stage where
  | read
  | write
  | misc
deriving DecidableEq

/-- A callback of the loop that runs: `loop_handler` with its client, or another one. -/
inductive Frame where
  | handler (client : Nat) (stage : Stage)
  | other
deriving DecidableEq

/-- `nodes` is the rest of the node at an address, and `made` counts mosquitto's clients. -/
structure State where
  clients : Mqtt.State
  nodes : Nat → Node
  instances : List Instance
  loop : Loop.Sources.State
  frames : List Frame
  made : Nat

/-- `memset` -/
def Node.zero : Node := ⟨0, 0, 0, fun _ => none, fun _ => 0⟩

def State.boot (files : File → Option (List UInt8)) : State := ⟨.boot files, fun _ => .zero, [], .init, [], 0⟩

inductive Fault where
  | client (f : Mqtt.Fault)
  | loop (f : Loop.Sources.Fault)
deriving DecidableEq

/-- `struct mosquitto_message`, and `artik_mqtt_msg`. -/
structure Message where
  mid : Int
  topic : List Char
  payload : List UInt8
  payloadlen : Int
  qos : Int
  retain : Bool
deriving DecidableEq

/-- What mosquitto calls back with; for a message, whether there is memory for a copy. -/
inductive Note where
  | connect (result : Int)
  | disconnect (result : Int)
  | subscribe (mid : Int) (grantedQos : List Int)
  | unsubscribe (mid : Int)
  | publish (mid : Int)
  | message (msg : Message) (memory : Bool)
deriving DecidableEq

/-- What a user callback is called with, besides the configuration and its data. -/
inductive Told where
  | result (e : ArtikError)
  | granted (mid : Int) (grantedQos : List Int)
  | mid (mid : Int)
  | message (msg : Message)
deriving DecidableEq

/-- `MQTT_ERROR_CODE`, which is returned negated. -/
inductive Code where
  | success
  | param
  | nomem
  | lib
deriving DecidableEq

/-- What mosquitto is asked for. -/
inductive Request where
  | disconnect
  | subscribe (msgtopic : List Char) (qos : Int)
  | unsubscribe (msgTopic : List Char)
  | publish (msgTopic : List Char) (payloadLen : Int) (msgContent : List UInt8) (qos : Int) (retain : Bool)
deriving DecidableEq

/-- What an event shows: what a call returns and asks of mosquitto's client, a user callback, the function of
mosquitto that `loop_handler` calls, or what the loop shows. -/
inductive Output where
  | created (handle : Nat)
  | failed
  | done
  | code (c : Code)
  | requests (mosq : Nat) (r : Request) (c : Code)
  | calls (fn config dataCb : Nat) (told : Told)
  | services (mosq : Nat) (stage : Stage)
  | loop (o : Loop.Sources.Seen)
  | nothing

def onClients {α : Type} (x : Except Mqtt.Fault α) : Except Fault α := x.mapError .client

/-- `artik_list_get_by_handle(requested_node, handle)`. -/
def State.byHandle (handle : Nat) (s : State) : Except Fault (Option Client) := onClients (s.clients.byHandle handle)

/-- A call of the loop, or what GLib does with it. -/
def State.onLoop (e : Loop.Sources.Event) (s : State) : Except Fault (State × Loop.Sources.Seen) :=
  ((Loop.Sources.step e s.loop).mapError .loop).map fun r => ({ s with loop := r.1 }, r.2)

/-- A store into a node. -/
def State.store (a : Nat) (f : Node → Node) (s : State) : State := { s with nodes := Function.update s.nodes a (f (s.nodes a)) }

/-! ## Creating and destroying -/

/-- `mqtt_create_client(config)`. -/
def mqttCreateClient (pointer : Nat) (config : Config) (answers : CreateAnswers) (s : State) : Except Fault (State × Output) := do
  let r ← onClients (Mqtt.mqttCreateClient config answers s.clients)
  match r.2 with
  | .created a =>
    return ({ s with
      clients := r.1
      nodes := Function.update s.nodes a { Node.zero with config := pointer, mosq := s.made }
      instances := s.instances ++ [⟨s.made, a⟩]
      made := s.made + 1 }, .created a)
  | _ => return ({ s with clients := r.1 }, .failed)

/-- `mqtt_destroy_client`; nobody checks what the loop returns. -/
def mqttDestroyClient (handle : Nat) (removes : File → Bool) (s : State) : Except Fault State := do
  match ← s.byHandle handle with
  | none => return s
  | some client =>
    if client.loop = false then throw (.client .nullPointer)
    let r ← s.onLoop (.call (.removeFdWatch (s.nodes client.address).watchId))
    let clients ← onClients (destroyClient handle removes r.1.clients)
    -- `mosquitto_destroy(client->mosq)`
    return { r.1 with clients, instances := r.1.instances.filter fun i => i.number ≠ (s.nodes client.address).mosq }

/-! ## Callbacks -/

/-- The part that the six functions have in common. -/
def State.setCallback (hook : Hook) (handle : Nat) (cb : Option Nat) (userData : Nat) (s : State) : Except Fault (State × Output) := do
  match ← s.byHandle handle with
  | none => return (s, .code .param)
  | some client =>
    let store (n : Node) : Node := { n with on := Function.update n.on hook cb, dataCb := Function.update n.dataCb hook userData }
    return (s.store client.address store, .code .success)

def mqttSetConnect := State.setCallback .connect
def mqttSetDisconnect := State.setCallback .disconnect
def mqttSetSubscribe := State.setCallback .subscribe
def mqttSetUnsubscribe := State.setCallback .unsubscribe
def mqttSetPublish := State.setCallback .publish
def mqttSetMessage := State.setCallback .message

/-- The part that the callbacks given to mosquitto have in common. -/
def State.callBack (hook : Hook) (handle : Nat) (told : Told) (s : State) : Except Fault (State × Output) := do
  match ← s.byHandle handle with
  | none => return (s, .nothing)
  | some client =>
    let node := s.nodes client.address
    match node.on hook with
    | none => return (s, .nothing)
    | some fn => return (s, .calls fn node.config (node.dataCb hook) told)

/-- `result ? E_MQTT_ERROR : S_OK` -/
def errorOf (result : Int) : ArtikError := if result ≠ 0 then .mqttError else .ok

def onConnectCallback (handle : Nat) (result : Int) := State.callBack .connect handle (.result (errorOf result))
def onDisconnectCallback (handle : Nat) (result : Int) := State.callBack .disconnect handle (.result (errorOf result))
def onSubscribeCallback (handle : Nat) (mid : Int) (grantedQos : List Int) := State.callBack .subscribe handle (.granted mid grantedQos)
def onUnsubscribeCallback (handle : Nat) (mid : Int) := State.callBack .unsubscribe handle (.mid mid)
def onPublishCallback (handle : Nat) (mid : Int) := State.callBack .publish handle (.mid mid)

/-- The node is looked up before the copy is allocated. -/
def onMessageCallback (handle : Nat) (msg : Message) (memory : Bool) (s : State) : Except Fault (State × Output) :=
  if memory then s.callBack .message handle (.message msg) else (s.byHandle handle).map fun _ => (s, .nothing)

/-! ## Connections -/

/-- `WATCH_IO_IN | WATCH_IO_ERR | WATCH_IO_HUP | WATCH_IO_NVAL` -/
def watchIo : BitVec 32 := 1 <<< 0 ||| 1 <<< 3 ||| 1 <<< 4 ||| 1 <<< 5

/-- The address of the function `loop_handler`. -/
def loopHandler : Nat := 1

/-- `client->watch_id`, where the loop stores an id. -/
def State.keepId (a : Nat) (o : Loop.Sources.Seen) (s : State) : State :=
  match o with
  | .returned ⟨_, some id, _⟩ => s.store a fun n => { n with watchId := id }
  | _ => s

/-- `mqtt_connect`: whether `mosquitto_connect` or `mosquitto_connect_async` works, and what `mosquitto_socket` returns. -/
def mqttConnect (handle : Nat) (connects : Bool) (socketFd : Int) (removes : File → Bool) (answers : Loop.Sources.Answers) (s : State) :
    Except Fault (State × Output) := do
  match ← s.byHandle handle with
  | none => return (s, .code .param)
  | some client =>
    if connects = false then return (s, .code .lib)
    if socketFd = -1 then
      let s ← mqttDestroyClient handle removes s
      return (s, .code .lib)
    if client.loop = false then throw (.client .nullPointer)
    let r ← s.onLoop (.call (.addFdWatch socketFd watchIo loopHandler client.address true answers))
    return (r.1.keepId client.address r.2, .code .success)

/-- `mqtt_disconnect` -/
def mqttDisconnect (handle : Nat) (s : State) : Except Fault (State × Output) := do
  match ← s.byHandle handle with
  | none => throw (.client .nullPointer)
  | some client => return (s, .requests (s.nodes client.address).mosq .disconnect .success)

/-- A request, if its arguments were accepted; `works` is what mosquitto says of it. -/
def State.ask (handle : Nat) (request : Option Request) (works : Bool) (s : State) : Except Fault (State × Output) := do
  match ← s.byHandle handle, request with
  | some client, some r => return (s, .requests (s.nodes client.address).mosq r (if works then .success else .lib))
  | _, _ => return (s, .code .param)

def Request.ofSubscribe (qos : Int) (msgtopic : Option (List Char)) : Option Request :=
  if qos < 0 ∨ qos > 2 then none else msgtopic.map fun t => .subscribe t qos

def Request.ofPublish (qos : Int) (retain : Bool) (msgTopic : Option (List Char)) (payloadLen : Int) (msgContent : Option (List UInt8)) :
    Option Request :=
  if qos < 0 ∨ qos > 2 then none
  else if payloadLen = 0 then none
  else msgTopic.bind fun t => msgContent.map fun c => .publish t payloadLen c qos retain

def mqttSubscribe (handle : Nat) (qos : Int) (msgtopic : Option (List Char)) := State.ask handle (Request.ofSubscribe qos msgtopic)

def mqttUnsubscribe (handle : Nat) (msgTopic : Option (List Char)) := State.ask handle (msgTopic.map .unsubscribe)

def mqttPublish (handle : Nat) (qos : Int) (retain : Bool) (msgTopic : Option (List Char)) (payloadLen : Int)
    (msgContent : Option (List UInt8)) := State.ask handle (Request.ofPublish qos retain msgTopic payloadLen msgContent)

/-! ## The loop -/

/-- The source of a callback that runs is told to go on, or not. -/
def State.leave (rest : List Frame) (ret : Int) (s : State) : Except Fault (State × Output) :=
  (s.onLoop (.back ret)).map fun r => ({ r.1 with frames := rest }, .nothing)

/-- The loop calls back. `loop_handler` looks for its client, whose `mosq` is there for as long as it is. -/
def dispatch (id : Nat) (revents : BitVec 32) (s : State) : Except Fault (State × Output) := do
  let r ← s.onLoop (.dispatch id revents)
  match r.2 with
  | .called func userData args =>
    if func = loopHandler then
      match ← r.1.byHandle userData with
      | none => r.1.leave r.1.frames 0
      | some client =>
        return ({ r.1 with frames := .handler client.address .read :: r.1.frames }, .services (s.nodes client.address).mosq .read)
    else return ({ r.1 with frames := .other :: r.1.frames }, .loop (.called func userData args))
  | o => return (r.1, .loop o)

/-- What `loop_handler` calls next. -/
def Stage.next : Stage → Option Stage
  | .read => some .write
  | .write => some .misc
  | .misc => none

/-- Whether there is a node at an address. -/
def State.there (a : Nat) (s : State) : Bool := s.clients.requestedNode.any fun n => !n.freed && n.address = a

/-- `loop_handler`, when a function of mosquitto has returned. It reads `client->mosq` again. -/
def goOn (works : Bool) (s : State) : Except Fault (State × Output) :=
  match s.frames with
  | .handler a stage :: rest =>
    if works = false then s.leave rest 0
    else
      match stage.next with
      | none => s.leave rest 1
      | some stage =>
        if s.there a then .ok ({ s with frames := .handler a stage :: rest }, .services (s.nodes a).mosq stage)
        else .error (.client .freed)
  | _ => .ok (s, .nothing)

/-- Another callback of the loop returns. -/
def goBack (ret : Int) (s : State) : Except Fault (State × Output) :=
  match s.frames with
  | .other :: rest => s.leave rest ret
  | _ => .ok (s, .nothing)

/-! ## Events -/

/-- A call of the application, a client of mosquitto calls back, a call of the loop, the loop calls back, and what it
called returns. -/
inductive Event where
  | create (pointer : Nat) (config : Config) (answers : CreateAnswers)
  | destroy (handle : Nat) (removes : File → Bool)
  | set (hook : Hook) (handle : Nat) (cb : Option Nat) (userData : Nat)
  | connect (handle : Nat) (connects : Bool) (socketFd : Int) (removes : File → Bool) (answers : Loop.Sources.Answers)
  | disconnect (handle : Nat)
  | subscribe (handle : Nat) (qos : Int) (msgtopic : Option (List Char)) (works : Bool)
  | unsubscribe (handle : Nat) (msgTopic : Option (List Char)) (works : Bool)
  | publish (handle : Nat) (qos : Int) (retain : Bool) (msgTopic : Option (List Char)) (payloadLen : Int)
      (msgContent : Option (List UInt8)) (works : Bool)
  | notes (mosq : Nat) (note : Note)
  | loop (op : Loop.Sources.Op)
  | dispatch (id : Nat) (revents : BitVec 32)
  | goOn (works : Bool)
  | goBack (ret : Int)

/-- The function that sets a callback. -/
def setterOf : Hook → Nat → Option Nat → Nat → State → Except Fault (State × Output)
  | .connect => mqttSetConnect
  | .disconnect => mqttSetDisconnect
  | .subscribe => mqttSetSubscribe
  | .unsubscribe => mqttSetUnsubscribe
  | .publish => mqttSetPublish
  | .message => mqttSetMessage

/-- The function that mosquitto calls. -/
def callbackOf : Note → Nat → State → Except Fault (State × Output)
  | .connect result, handle => onConnectCallback handle result
  | .disconnect result, handle => onDisconnectCallback handle result
  | .subscribe mid grantedQos, handle => onSubscribeCallback handle mid grantedQos
  | .unsubscribe mid, handle => onUnsubscribeCallback handle mid
  | .publish mid, handle => onPublishCallback handle mid
  | .message msg memory, handle => onMessageCallback handle msg memory

def step : Event → State → Except Fault (State × Output)
  | .create pointer config answers, s => mqttCreateClient pointer config answers s
  | .destroy handle removes, s => (mqttDestroyClient handle removes s).map fun s => (s, .done)
  | .set hook handle cb userData, s => setterOf hook handle cb userData s
  | .connect handle connects socketFd removes answers, s => mqttConnect handle connects socketFd removes answers s
  | .disconnect handle, s => mqttDisconnect handle s
  | .subscribe handle qos msgtopic works, s => mqttSubscribe handle qos msgtopic works s
  | .unsubscribe handle msgTopic works, s => mqttUnsubscribe handle msgTopic works s
  | .publish handle qos retain msgTopic payloadLen msgContent works, s =>
    mqttPublish handle qos retain msgTopic payloadLen msgContent works s
  | .notes mosq note, s =>
    match s.instances.find? fun i => i.number = mosq with
    | none => .ok (s, .nothing)
    | some i => callbackOf note i.obj s
  | .loop op, s =>
    -- `loop_handler` is static
    if op.entry.any fun e => e.func = loopHandler then .ok (s, .nothing)
    else (s.onLoop (.call op)).map fun r => (r.1, .loop r.2)
  | .dispatch id revents, s => dispatch id revents s
  | .goOn works, s => goOn works s
  | .goBack ret, s => goBack ret s

end ArtikSdk.Mqtt.Sessions
