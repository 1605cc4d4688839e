import ArtikSdk.Lib.Alloc

/-!
# MQTT clients on libmosquitto

`mqtt_client.c`: creating, connecting and destroying clients, and the three temporary files that
hold the TLS credentials of whichever client was created last. libmosquitto and the loop answer
through parameters. Texts that only go to mosquitto are left out, and so are the fd watches,
whose removal nobody checks.
-/

namespace ArtikSdk.Mqtt
open Lib

/-- `TLS_CA_FILENAME`, `TLS_CERT_FILENAME` and `TLS_KEY_FILENAME`. -/
inductive File where
  | ca
  | cert
  | key
deriving DecidableEq

/-- `artik_ssl_config`: the data of `ca_cert`, `client_cert` and `client_key`, or null. -/
structure Tls where
  data : File → Option (List UInt8)

/-- `data && len`. -/
def Tls.configured (tls : Tls) (f : File) : Option (List UInt8) := (tls.data f).filter fun data => data.length ≠ 0

/-- `artik_mqtt_config`: what is there of it. -/
structure Config where
  userName : Bool
  pwd : Bool
  willMsg : Bool
  tls : Option Tls
  psk : Bool

/-- `mqtt_handle_client`, whose handle is its address. `secured`: `mosquitto_tls_set` took the
files. `freed` is not in the source: the node was freed while it was linked. -/
structure Client where
  address : Nat
  config : Config
  loop : Bool
  secured : Bool
  freed : Bool

/-- Not in the source: the credential that was written to a file last, and whether all of it was
written and the file was not longer. -/
structure Written where
  data : List UInt8
  covers : Bool
deriving DecidableEq

structure State where
  requestedNode : List Client
  files : File → Option (List UInt8)
  latest : File → Option Written

/-- No client yet, and files that an earlier process may have left. -/
def State.boot (files : File → Option (List UInt8)) : State := ⟨[], files, fun _ => none⟩

inductive Fault where
  | nullPointer
  | freed
deriving DecidableEq

/-- What a call shows: the handle of a new client or null, or, for a client that connects, its
configuration and what mosquitto reads: of each file that it was given the contents, if any. -/
inductive Output where
  | created (handle : Nat)
  | failed
  | connects (config : Config) (reads : File → Option (Option (List UInt8)))
  | done

/-! ## The list -/

/-- The walk of `artik_list_get_by_handle`. -/
def find (handle : Nat) : List Client → Except Fault (Option Client)
  | [] => .ok none
  | n :: ns => if n.freed then .error .freed else if n.address = handle then .ok (some n) else find handle ns

/-- `artik_list_get_by_handle(requested_node, handle)`. -/
def State.byHandle (handle : Nat) (s : State) : Except Fault (Option Client) :=
  if handle = 0 then .ok none else find handle s.requestedNode

def State.used (s : State) (a : Nat) : Bool := s.requestedNode.any fun n => !n.freed && n.address = a

/-- `artik_list_add(&requested_node, 0, sizeof(mqtt_handle_client))`, which walks to the end. -/
def State.add (node : Malloc) (config : Config) (s : State) : Except Fault (Option (Nat × State)) :=
  if s.requestedNode.any fun n => n.freed then .error .freed
  else
    .ok ((node.pick s.used).map fun a =>
      (a, { s with requestedNode := s.requestedNode ++ [⟨a, config, false, false, false⟩] }))

/-- A store into a node. -/
def State.update (a : Nat) (f : Client → Client) (s : State) : State :=
  { s with requestedNode := s.requestedNode.map fun n => if n.address = a then f n else n }

/-- `artik_list_delete_node(&requested_node, client)`. -/
def State.delete (a : Nat) (s : State) : State := { s with requestedNode := s.requestedNode.eraseP fun n => n.address = a }

/-! ## Temporary files -/

/-- `write` at the start of a file that `open` did not truncate. -/
def overwrite (old data : List UInt8) : List UInt8 := data ++ old.drop data.length

/-- `open(f, O_CREAT | O_WRONLY, 0600)` and a `write` of so many bytes. -/
def State.write (f : File) (data : List UInt8) (written : Nat) (s : State) : State :=
  let old := (s.files f).getD []
  { s with
    files := Function.update s.files f (some (overwrite old (data.take written)))
    latest := Function.update s.latest f (some ⟨data, data.length ≤ written && old.length ≤ data.length⟩) }

/-- `tls_cleanup_temp_cert_files`; a `remove` may fail. -/
def State.cleanup (removes : File → Bool) (s : State) : State :=
  { s with
    files := fun f => if removes f then none else s.files f
    latest := fun f => if removes f then none else s.latest f }

/-- The outcomes in `tls_write_temp_cert_files`: of each `open` and `write`, of `mosquitto_tls_set`
and of the removals after an error. -/
structure TlsAnswers where
  opens : File → Bool
  written : File → Nat
  set : Bool
  removes : File → Bool

/-- The credentials that are configured, one after the other, until an `open` fails. -/
def writeFiles (tls : Tls) (answers : TlsAnswers) : List File → State → State × Bool
  | [], s => (s, true)
  | f :: fs, s =>
    match tls.configured f with
    | none => writeFiles tls answers fs s
    | some data =>
      if answers.opens f = false then (s, false)
      else writeFiles tls answers fs (s.write f data (answers.written f))

/-- `tls_write_temp_cert_files`, and whether it returns `S_OK`. -/
def tlsWriteTempCertFiles (tls : Tls) (answers : TlsAnswers) (s : State) : State × Bool :=
  let r := writeFiles tls answers [.ca, .cert, .key] s
  if r.2 && answers.set then (r.1, true) else (r.1.cleanup answers.removes, false)

/-! ## The calls -/

/-- `destroy_client`. -/
def destroyClient (handle : Nat) (removes : File → Bool) (s : State) : Except Fault State := do
  match ← s.byHandle handle with
  | none => return s
  | some client =>
    let s := if client.config.tls.isSome then s.cleanup removes else s
    return s.delete client.address

/-- `mqtt_destroy_client`. -/
def mqttDestroyClient (handle : Nat) (removes : File → Bool) (s : State) : Except Fault State := do
  match ← s.byHandle handle with
  | none => return s
  | some client =>
    -- `client->loop->remove_fd_watch(client->watch_id)`
    if client.loop = false then throw .nullPointer
    destroyClient handle removes s

/-- The outcomes of the steps of `mqtt_create_client`. -/
structure CreateAnswers where
  node : Malloc
  mosquittoNew : Bool
  usernamePwSet : Bool
  willSet : Bool
  tls : TlsAnswers
  tlsPskSet : Bool
  loop : Bool

/-- `mqtt_destroy_client(mqtt_client); return NULL;` -/
def abandon (a : Nat) (answers : CreateAnswers) (s : State) : Except Fault (State × Output) := do
  let s ← mqttDestroyClient a answers.tls.removes s
  return (s, .failed)

/-- The security parameters, and the loop module, which is asked for last. -/
def secure (a : Nat) (config : Config) (answers : CreateAnswers) (s : State) : Except Fault (State × Output) :=
  let finish (secured : Bool) (s : State) : State × Output :=
    (s.update a fun n => { n with secured, loop := answers.loop }, .created a)
  match config.tls with
  | some tls =>
    -- the result of `tls_write_temp_cert_files` is not looked at
    let r := tlsWriteTempCertFiles tls answers.tls s
    .ok (finish r.2 r.1)
  | none => if config.psk && !answers.tlsPskSet then abandon a answers s else .ok (finish false s)

/-- `mqtt_create_client`. -/
def mqttCreateClient (config : Config) (answers : CreateAnswers) (s : State) : Except Fault (State × Output) := do
  match ← s.add answers.node config with
  | none => return (s, .failed)
  | some (a, s) =>
    if answers.mosquittoNew = false then
      -- `free(mqtt_client)`, and the node stays in the list
      return (s.update a fun n => { n with freed := true }, .failed)
    if config.userName && config.pwd && !answers.usernamePwSet then
      return ← abandon a answers s
    if config.willMsg && !answers.willSet then
      return ← abandon a answers s
    secure a config answers s

/-- What mosquitto is given for a client, and reads when it connects. -/
def State.reads (client : Client) (s : State) (f : File) : Option (Option (List UInt8)) :=
  match client.config.tls with
  | none => none
  | some tls => if client.secured then (tls.configured f).map fun _ => s.files f else none

/-- `mqtt_connect`: `mosquitto_connect` or `mosquitto_connect_async` works, and there is a socket. -/
def mqttConnect (handle : Nat) (connects socket : Bool) (removes : File → Bool) (s : State) : Except Fault (State × Output) := do
  match ← s.byHandle handle with
  | none => return (s, .failed)
  | some client =>
    let output := Output.connects client.config (s.reads client)
    if connects = false then return (s, output)
    if socket = false then
      let s ← mqttDestroyClient handle removes s
      return (s, output)
    -- `client->loop->add_fd_watch(...)`
    if client.loop = false then throw .nullPointer
    return (s, output)

/-- A call of the module. -/
inductive Input where
  | create (config : Config) (answers : CreateAnswers)
  | connect (handle : Nat) (connects socket : Bool) (removes : File → Bool)
  | destroy (handle : Nat) (removes : File → Bool)

def step (input : Input) (s : State) : Except Fault (State × Output) :=
  match input with
  | .create config answers => mqttCreateClient config answers s
  | .connect handle connects socket removes => mqttConnect handle connects socket removes s
  | .destroy handle removes => return (← mqttDestroyClient handle removes s, .done)

end ArtikSdk.Mqtt
