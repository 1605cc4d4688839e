import ArtikSdk.Mqtt.Sessions
import ArtikSdk.Mqtt.Credentials

/-!
# What the MQTT callbacks are for

A registry has, for each client of mosquitto, the configuration and the callbacks that were set last; a handle names a
client for as long as it is there. Every run of the module does what the registry says.
-/

namespace ArtikSdk.Mqtt.Sessions
open Lib

/-! ## The registry -/

structure Entry where
  config : Nat
  on : Hook → Option Nat
  dataCb : Hook → Nat

/-- What each handle names, and what was set for each client. -/
@[ext] structure Registry where
  names : Nat → Option Nat
  clients : Nat → Option Entry

def Registry.empty : Registry := ⟨fun _ => none, fun _ => none⟩

def Registry.add (handle mosq config : Nat) (b : Registry) : Registry where
  names := Function.update b.names handle (some mosq)
  clients := Function.update b.clients mosq (some ⟨config, fun _ => none, fun _ => 0⟩)

def Registry.drop (handle mosq : Nat) (b : Registry) : Registry where
  names := Function.update b.names handle none
  clients := Function.update b.clients mosq none

def Registry.put (mosq : Nat) (x : Entry) (b : Registry) : Registry := { b with clients := Function.update b.clients mosq (some x) }

def Entry.set (hook : Hook) (cb : Option Nat) (userData : Nat) (x : Entry) : Entry :=
  { x with on := Function.update x.on hook cb, dataCb := Function.update x.dataCb hook userData }

/-- What a call asks of mosquitto if its arguments are right, and whether that works. -/
def Event.asks : Event → Option (Nat × Option Request × Bool)
  | .subscribe handle qos msgtopic works => some (handle, Request.ofSubscribe qos msgtopic, works)
  | .unsubscribe handle msgTopic works => some (handle, msgTopic.map .unsubscribe, works)
  | .publish handle qos retain msgTopic payloadLen msgContent works =>
    some (handle, Request.ofPublish qos retain msgTopic payloadLen msgContent, works)
  | _ => none

/-- The loop is called, or calls. -/
def Event.ofLoop : Event → Bool
  | .loop _ | .dispatch _ _ | .goOn _ | .goBack _ => true
  | _ => false

def Note.hook : Note → Hook
  | .connect _ => .connect
  | .disconnect _ => .disconnect
  | .subscribe _ _ => .subscribe
  | .unsubscribe _ => .unsubscribe
  | .publish _ => .publish
  | .message _ _ => .message

def Note.told : Note → Told
  | .connect result | .disconnect result => .result (errorOf result)
  | .subscribe mid grantedQos => .granted mid grantedQos
  | .unsubscribe mid | .publish mid => .mid mid
  | .message msg _ => .message msg

/-- A message is told of if there is memory. -/
def Note.tells : Note → Bool
  | .message _ memory => memory
  | _ => true

/-- **What the module is for**: a handle that was handed out names a client of mosquitto of its own until it is
destroyed, or connects without a socket; requests reach the client that the handle names, and what mosquitto tells of a
client reaches the callback that was set for it last, with the data that was set with it and its configuration. The loop
serves clients that are there. -/
inductive Registry.Next (b : Registry) : Event → Output → Registry → Prop where
  | created {pointer : Nat} {config : Config} {answers : CreateAnswers} {handle mosq : Nat} (nonnull : handle ≠ 0)
      (unused : b.names handle = none) (new : b.clients mosq = none) :
      Next b (.create pointer config answers) (.created handle) (b.add handle mosq pointer)
  | failed {pointer : Nat} {config : Config} {answers : CreateAnswers} : Next b (.create pointer config answers) .failed b
  | destroyed {handle mosq : Nat} {removes : File → Bool} (named : b.names handle = some mosq) :
      Next b (.destroy handle removes) .done (b.drop handle mosq)
  | absent {handle : Nat} {removes : File → Bool} (unnamed : b.names handle = none) : Next b (.destroy handle removes) .done b
  | set {hook : Hook} {handle mosq : Nat} {cb : Option Nat} {userData : Nat} {x : Entry} (named : b.names handle = some mosq)
      (entry : b.clients mosq = some x) :
      Next b (.set hook handle cb userData) (.code .success) (b.put mosq (x.set hook cb userData))
  | unset {hook : Hook} {handle : Nat} {cb : Option Nat} {userData : Nat} (unnamed : b.names handle = none) :
      Next b (.set hook handle cb userData) (.code .param) b
  | connected {handle mosq : Nat} {connects : Bool} {socketFd : Int} {removes : File → Bool} {answers : Loop.Sources.Answers}
      (named : b.names handle = some mosq) (broken : connects = true → socketFd ≠ -1) :
      Next b (.connect handle connects socketFd removes answers) (.code (if connects then .success else .lib)) b
  | broken {handle mosq : Nat} {removes : File → Bool} {answers : Loop.Sources.Answers} (named : b.names handle = some mosq) :
      Next b (.connect handle true (-1) removes answers) (.code .lib) (b.drop handle mosq)
  | unconnected {handle : Nat} {connects : Bool} {socketFd : Int} {removes : File → Bool} {answers : Loop.Sources.Answers}
      (unnamed : b.names handle = none) : Next b (.connect handle connects socketFd removes answers) (.code .param) b
  | disconnects {handle mosq : Nat} (named : b.names handle = some mosq) :
      Next b (.disconnect handle) (.requests mosq .disconnect .success) b
  | asked {e : Event} {handle mosq : Nat} {r : Request} {works : Bool} (asks : e.asks = some (handle, some r, works))
      (named : b.names handle = some mosq) : Next b e (.requests mosq r (if works then .success else .lib)) b
  | refused {e : Event} {handle : Nat} {r : Option Request} {works : Bool} (asks : e.asks = some (handle, r, works))
      (refusal : b.names handle = none ∨ r = none) : Next b e (.code .param) b
  | called {mosq fn : Nat} {note : Note} {x : Entry} (entry : b.clients mosq = some x) (given : x.on note.hook = some fn)
      (tells : note.tells = true) : Next b (.notes mosq note) (.calls fn x.config (x.dataCb note.hook) note.told) b
  | uncalled {mosq : Nat} {note : Note} (none : ∀ x, b.clients mosq = some x → x.on note.hook = none ∨ note.tells = false) :
      Next b (.notes mosq note) .nothing b
  | services {e : Event} {handle mosq : Nat} {stage : Stage} (loop : e.ofLoop = true) (named : b.names handle = some mosq) :
      Next b e (.services mosq stage) b
  | shows {e : Event} {o : Loop.Sources.Seen} (loop : e.ofLoop = true) : Next b e (.loop o) b
  | rests {e : Event} (loop : e.ofLoop = true) : Next b e .nothing b

/-! ## The registry of a state -/

def Node.entry (n : Node) : Entry := ⟨n.config, n.on, n.dataCb⟩

def State.registry (s : State) : Registry where
  names handle := (s.instances.find? fun i => i.obj = handle).map Instance.number
  clients mosq := (s.instances.find? fun i => i.number = mosq).map fun i => (s.nodes i.obj).entry

/-- The nodes that are allocated. -/
def live (s : Mqtt.State) : List Client := s.requestedNode.filter fun n => !n.freed

/-- What every event keeps: each node that is allocated has a client of mosquitto of its own, which has its address. -/
structure State.Kept (s : State) : Prop where
  instances : s.instances = (live s.clients).map fun n => ⟨(s.nodes n.address).mosq, n.address⟩
  numbers : (s.instances.map Instance.number).Nodup
  objs : (s.instances.map Instance.obj).Nodup
  made : ∀ i ∈ s.instances, i.number < s.made
  nonnull : ∀ i ∈ s.instances, i.obj ≠ 0

theorem boot_kept (files : File → Option (List UInt8)) : (State.boot files).Kept := by
  refine ⟨rfl, .nil, .nil, fun i member => ?_, fun i member => ?_⟩ <;> cases member

theorem onClients_ok {α : Type} {x : Except Mqtt.Fault α} {a : α} : onClients x = .ok a ↔ x = .ok a := by
  cases x <;> simp [onClients, Except.mapError]

/-! ## Looking up -/

/-- A look-up finds the first node with the handle, before which none was freed. -/
theorem find_some {handle : Nat} {ns : List Client} {client : Client} (found : find handle ns = .ok (some client)) :
    ∃ before after, ns = before ++ client :: after ∧ client.address = handle ∧ client.freed = false ∧ ∀ n ∈ before, n.address ≠ handle := by
  induction ns with
  | nil => cases found
  | cons n ns ih =>
    rw [find] at found
    split at found
    · cases found
    · rename_i allocated
      split at found
      · rename_i here
        cases found
        exact ⟨[], ns, rfl, here, Bool.eq_false_iff.2 allocated, fun n member => by cases member⟩
      · rename_i other
        obtain ⟨before, after, rfl, here, kept, others⟩ := ih found
        exact ⟨n :: before, after, rfl, here, kept, List.forall_mem_cons.2 ⟨other, others⟩⟩

theorem find_none {handle : Nat} {ns : List Client} (found : find handle ns = .ok none) : ∀ n ∈ ns, n.address ≠ handle ∧ n.freed = false := by
  induction ns with
  | nil =>
    intro n member
    cases member
  | cons n ns ih =>
    rw [find] at found
    split at found
    · cases found
    · rename_i allocated
      split at found
      · cases found
      · rename_i other
        exact List.forall_mem_cons.2 ⟨⟨other, Bool.eq_false_iff.2 allocated⟩, ih found⟩

namespace State

variable {s s' : State} {handle : Nat} {client : Client}

theorem byHandle_iff {r : Option Client} : s.byHandle handle = .ok r ↔ s.clients.byHandle handle = .ok r := onClients_ok

/-- The node found has a client of mosquitto, which its handle names. -/
theorem Kept.found (kept : s.Kept) (found : s.byHandle handle = .ok (some client)) :
    client.address = handle ∧ client ∈ live s.clients ∧ (⟨(s.nodes handle).mosq, handle⟩ : Instance) ∈ s.instances := by
  rw [byHandle_iff, Mqtt.State.byHandle] at found
  split at found
  · cases found
  · obtain ⟨before, after, split, rfl, allocated, -⟩ := find_some found
    have there : client ∈ live s.clients := by
      rw [live, List.mem_filter, split, allocated]
      exact ⟨List.mem_append_right _ (List.mem_cons_self ..), rfl⟩
    refine ⟨rfl, there, ?_⟩
    rw [kept.instances]
    exact List.mem_map.2 ⟨client, there, rfl⟩

theorem Kept.unfound (kept : s.Kept) (found : s.byHandle handle = .ok none) : ∀ i ∈ s.instances, i.obj ≠ handle := by
  rw [byHandle_iff, Mqtt.State.byHandle] at found
  split at found
  · rename_i null
    exact fun i member => null ▸ kept.nonnull i member
  · intro i member
    rw [kept.instances] at member
    obtain ⟨n, there, rfl⟩ := List.mem_map.1 member
    exact (find_none found n (List.mem_of_mem_filter there)).1

/-- Of two of mosquitto's clients neither the numbers nor the objects are the same. -/
theorem Kept.number_eq (kept : s.Kept) {i j : Instance} (member : i ∈ s.instances) (member' : j ∈ s.instances)
    (same : i.number = j.number) : i = j := List.inj_on_of_nodup_map kept.numbers member member' same

theorem Kept.obj_eq (kept : s.Kept) {i j : Instance} (member : i ∈ s.instances) (member' : j ∈ s.instances) (same : i.obj = j.obj) :
    i = j := List.inj_on_of_nodup_map kept.objs member member' same

theorem Kept.find_obj (kept : s.Kept) {i : Instance} (member : i ∈ s.instances) :
    (s.instances.find? fun j => j.obj = i.obj) = some i := by
  cases found : s.instances.find? fun j => j.obj = i.obj with
  | none => simpa using List.find?_eq_none.1 found i member
  | some j => rw [kept.obj_eq (List.mem_of_find?_eq_some found) member (by simpa using List.find?_some found)]

theorem Kept.find_number (kept : s.Kept) {i : Instance} (member : i ∈ s.instances) :
    (s.instances.find? fun j => j.number = i.number) = some i := by
  cases found : s.instances.find? fun j => j.number = i.number with
  | none => simpa using List.find?_eq_none.1 found i member
  | some j => rw [kept.number_eq (List.mem_of_find?_eq_some found) member (by simpa using List.find?_some found)]

theorem Kept.names (kept : s.Kept) {i : Instance} (member : i ∈ s.instances) : s.registry.names i.obj = some i.number := by
  dsimp only [registry]
  rw [kept.find_obj member]
  rfl

theorem Kept.entry (kept : s.Kept) {i : Instance} (member : i ∈ s.instances) :
    s.registry.clients i.number = some (s.nodes i.obj).entry := by
  dsimp only [registry]
  rw [kept.find_number member]
  rfl

theorem unnamed (absent : ∀ i ∈ s.instances, i.obj ≠ handle) : s.registry.names handle = none := by
  dsimp only [registry]
  rw [List.find?_eq_none.2 fun i member => by simpa using absent i member]
  rfl

theorem unnumbered {mosq : Nat} (absent : ∀ i ∈ s.instances, i.number ≠ mosq) : s.registry.clients mosq = none := by
  dsimp only [registry]
  rw [List.find?_eq_none.2 fun i member => by simpa using absent i member]
  rfl

/-- What an event does that is not about the clients. -/
structure Same (s s' : State) : Prop where
  clients : s'.clients = s.clients
  instances : s'.instances = s.instances
  made : s'.made = s.made
  mosq : ∀ a, (s'.nodes a).mosq = (s.nodes a).mosq
  entry : ∀ a, (s'.nodes a).entry = (s.nodes a).entry

theorem Same.refl (s : State) : Same s s := ⟨rfl, rfl, rfl, fun _ => rfl, fun _ => rfl⟩

theorem Same.kept (same : Same s s') (kept : s.Kept) : s'.Kept := by
  refine ⟨?_, ?_, ?_, ?_, ?_⟩
  · rw [same.instances, same.clients, kept.instances]
    exact List.map_congr_left fun n _ => by rw [same.mosq]
  · exact same.instances ▸ kept.numbers
  · exact same.instances ▸ kept.objs
  · rw [same.instances, same.made]
    exact kept.made
  · exact same.instances ▸ kept.nonnull

theorem Same.registry (same : Same s s') : s'.registry = s.registry := by
  refine Registry.ext (funext fun handle => ?_) (funext fun mosq => ?_)
  · dsimp only [State.registry]
    rw [same.instances]
  · dsimp only [State.registry]
    rw [same.instances]
    simp only [same.entry]

end State

/-! ## Creating and destroying -/

section

variable {s s' : Mqtt.State} {config : Config} {answers : CreateAnswers} {o : Mqtt.Output}

theorem live_linked (linked : s.Linked) : live s = s.requestedNode :=
  List.filter_eq_self.2 fun n member => by rw [linked n member]; rfl

theorem add_ok {node : Malloc} {r : Option (Nat × Mqtt.State)} (added : s.add node config = .ok r) : s.Linked := by
  intro n member
  unfold Mqtt.State.add at added
  split at added
  · cases added
  · rename_i none'
    rw [List.any_eq_true] at none'
    exact Bool.eq_false_iff.2 fun freed => none' ⟨n, member, freed⟩

/-- A clean-up dereferences the loop module that the node does not have yet. -/
theorem abandon_error (linked : s.Linked) {a : Nat} (picked : answers.node.pick s.used = some a) (config : Config) :
    abandon a answers (s.linked a config) = .error .nullPointer := by
  unfold abandon Mqtt.mqttDestroyClient
  rw [byHandle_linked linked picked]
  rfl

/-- A store into the new node reaches no other one. -/
theorem update_new {t : Mqtt.State} {a : Nat} (nodes : t.requestedNode = (s.linked a config).requestedNode)
    (others : ∀ n ∈ s.requestedNode, n.address ≠ a) (f : Client → Client) :
    (t.update a f).requestedNode = s.requestedNode ++ [f ⟨a, config, false, false, false⟩] := by
  dsimp only [Mqtt.State.update]
  rw [nodes, Mqtt.State.linked, List.map_append, List.map_singleton, if_pos rfl]
  congr 1
  exact (List.map_congr_left fun n member => if_neg (others n member)).trans (List.map_id _)

/-- The new node is at the end of the list; after a failure it is freed, if it is there. -/
theorem create_answered (answered : Mqtt.mqttCreateClient config answers s = .ok (s', o)) :
    s.Linked ∧
      ((o = .failed ∧ live s' = s.requestedNode ∧
          (s'.requestedNode = s.requestedNode ∨ answers.mosquittoNew = false ∧ ∃ a, answers.node.pick s.used = some a)) ∨
        ∃ a client, o = .created a ∧ a ≠ 0 ∧ (∀ n ∈ s.requestedNode, n.address ≠ a) ∧ client.address = a ∧ client.freed = false ∧
          client.loop = answers.loop ∧ s'.requestedNode = s.requestedNode ++ [client]) := by
  unfold Mqtt.mqttCreateClient at answered
  obtain ⟨r, added, rest⟩ := bind_ok_iff.1 answered
  have linked := add_ok added
  refine ⟨linked, ?_⟩
  rw [add_linked linked] at added
  cases picked : answers.node.pick s.used with
  | none =>
    rw [picked] at added
    cases added
    cases rest
    exact Or.inl ⟨rfl, live_linked linked, Or.inl rfl⟩
  | some a =>
    rw [picked, Option.map_some] at added
    cases added
    obtain ⟨nonnull, unused⟩ := answers.node.fresh _ _ picked
    have others := unused_address linked unused
    have nowhere : abandon a answers _ = _ := abandon_error linked picked config
    dsimp only at rest
    split at rest
    · rename_i refused
      cases rest
      refine Or.inl ⟨rfl, ?_, Or.inr ⟨refused, a, rfl⟩⟩
      have nodes := update_new (t := s.linked a config) rfl others fun n => { n with freed := true }
      rw [live, nodes, List.filter_append]
      exact (List.append_nil _).trans (live_linked linked)
    · split at rest
      · rw [nowhere] at rest
        cases rest
      split at rest
      · rw [nowhere] at rest
        cases rest
      unfold secure at rest
      dsimp only at rest
      split at rest
      · rename_i tls _
        cases rest
        refine Or.inr ⟨a, ⟨a, config, answers.loop, (tlsWriteTempCertFiles tls answers.tls (s.linked a config)).2, false⟩, rfl, nonnull, others,
          rfl, rfl, rfl, ?_⟩
        exact update_new (tlsWrite_requestedNode tls answers.tls _) others _
      · split at rest
        · rw [nowhere] at rest
          cases rest
        · cases rest
          exact Or.inr ⟨a, ⟨a, config, answers.loop, false, false⟩, rfl, nonnull, others, rfl, rfl, rfl, update_new rfl others _⟩

/-- The node found is the one that is destroyed. -/
theorem destroy_answered {handle : Nat} {removes : File → Bool} {client : Client} (found : s.byHandle handle = .ok (some client))
    (answered : destroyClient handle removes s = .ok s') :
    s'.requestedNode = s.requestedNode.eraseP fun n => n.address = handle := by
  have here : client.address = handle := by
    rw [Mqtt.State.byHandle] at found
    split at found
    · cases found
    · obtain ⟨-, -, -, here, -, -⟩ := find_some found
      exact here
  unfold destroyClient at answered
  rw [found] at answered
  cases answered
  rw [here]
  dsimp only [Mqtt.State.delete]
  split <;> rfl

/-- Among nodes with addresses of their own, the first with an address is the only one. -/
theorem live_erased {handle : Nat} {client : Client} (found : find handle s.requestedNode = .ok (some client))
    (objs : ((live s).map Client.address).Nodup) (after : s'.requestedNode = s.requestedNode.eraseP fun n => n.address = handle) :
    live s' = (live s).filter fun n => n.address ≠ handle := by
  obtain ⟨before, rest, split, here, allocated, others⟩ := find_some found
  rw [live, split, List.filter_append, List.filter_cons_of_pos (by rw [allocated]; rfl)] at objs
  rw [live, live, after, split, List.eraseP_append_right _ fun n member => by simpa using others n member,
    List.eraseP_cons_of_pos (by simpa using here), List.filter_append, List.filter_append, List.filter_cons_of_pos (by rw [allocated]; rfl),
    List.filter_append, List.filter_cons_of_neg (by simpa using here)]
  rw [List.map_append, List.map_cons, List.nodup_middle, List.nodup_cons, List.mem_append, not_or] at objs
  congr 1
  · exact (List.filter_eq_self.2 fun n member => by simpa using others n (List.mem_of_mem_filter member)).symm
  · refine (List.filter_eq_self.2 fun n member => ?_).symm
    rw [decide_eq_true_iff]
    rintro rfl
    exact objs.1.2 (here ▸ List.mem_map_of_mem member)

end

namespace State

variable {s s' : State} {handle mosq : Nat} {client : Client} {o : Output}

theorem Kept.names_iff (kept : s.Kept) : s.registry.names handle = some mosq ↔ (⟨mosq, handle⟩ : Instance) ∈ s.instances := by
  constructor
  · intro named
    dsimp only [State.registry] at named
    obtain ⟨i, found, rfl⟩ := Option.map_eq_some_iff.1 named
    have here : i.obj = handle := by simpa using List.find?_some found
    exact here ▸ List.mem_of_find?_eq_some found
  · exact kept.names

theorem Kept.clients_iff (kept : s.Kept) {x : Entry} :
    s.registry.clients mosq = some x ↔ ∃ handle, (⟨mosq, handle⟩ : Instance) ∈ s.instances ∧ (s.nodes handle).entry = x := by
  constructor
  · intro named
    dsimp only [State.registry] at named
    obtain ⟨i, found, rfl⟩ := Option.map_eq_some_iff.1 named
    have here : i.number = mosq := by simpa using List.find?_some found
    exact ⟨i.obj, here ▸ List.mem_of_find?_eq_some found, rfl⟩
  · rintro ⟨handle, member, rfl⟩
    exact kept.entry member

/-- A client is added under an address and a number that no other one has. -/
theorem Kept.registry_add (kept : s.Kept) (kept' : s'.Kept) {pointer : Nat} (instances : s'.instances = s.instances ++ [⟨mosq, handle⟩])
    (nodes : s'.nodes = Function.update s.nodes handle { Node.zero with config := pointer, mosq := mosq })
    (unused : ∀ i ∈ s.instances, i.obj ≠ handle) (new : ∀ i ∈ s.instances, i.number ≠ mosq) :
    s'.registry = s.registry.add handle mosq pointer := by
  refine Registry.ext (funext fun a => Option.ext fun n => ?_) (funext fun n => Option.ext fun x => ?_)
  · rw [kept'.names_iff, instances, List.mem_append, List.mem_singleton]
    dsimp only [Registry.add]
    by_cases here : a = handle
    · subst here
      rw [Function.update_self, Option.some_inj, or_iff_right fun old => unused _ old rfl, Instance.mk.injEq, and_iff_left rfl, eq_comm]
    · rw [Function.update_of_ne here, kept.names_iff]
      exact or_iff_left fun same => here (congrArg Instance.obj same)
  · rw [kept'.clients_iff, instances, nodes]
    dsimp only [Registry.add]
    by_cases here : n = mosq
    · subst here
      rw [Function.update_self, Option.some_inj]
      constructor
      · rintro ⟨a, member, rfl⟩
        obtain old | same := List.mem_append.1 member
        · exact absurd rfl (new _ old)
        · obtain rfl : a = handle := congrArg Instance.obj (List.mem_singleton.1 same)
          rw [Function.update_self]
          rfl
      · rintro rfl
        refine ⟨handle, List.mem_append_right _ (List.mem_singleton_self _), ?_⟩
        rw [Function.update_self]
        rfl
    · rw [Function.update_of_ne here, kept.clients_iff]
      refine exists_congr fun a => ?_
      rw [List.mem_append, List.mem_singleton, or_iff_left fun same => here (congrArg Instance.number same)]
      refine and_congr_right fun old => ?_
      rw [Function.update_of_ne (unused _ old)]

theorem Kept.registry_drop (kept : s.Kept) (kept' : s'.Kept) (member : (⟨mosq, handle⟩ : Instance) ∈ s.instances)
    (instances : s'.instances = s.instances.filter fun i => i.number ≠ mosq) (nodes : s'.nodes = s.nodes) :
    s'.registry = s.registry.drop handle mosq := by
  have left : ∀ i, i ∈ s'.instances ↔ i ∈ s.instances ∧ i.number ≠ mosq := by
    intro i
    rw [instances, List.mem_filter, decide_eq_true_iff]
  refine Registry.ext (funext fun a => Option.ext fun n => ?_) (funext fun n => Option.ext fun x => ?_)
  · rw [kept'.names_iff, left]
    dsimp only [Registry.drop]
    by_cases here : a = handle
    · subst here
      rw [Function.update_self]
      refine iff_of_false ?_ (fun none' => by cases none')
      rintro ⟨old, other⟩
      exact other (congrArg Instance.number (kept.obj_eq old member rfl))
    · rw [Function.update_of_ne here, kept.names_iff]
      refine and_iff_left_of_imp ?_
      rintro old rfl
      exact here (congrArg Instance.obj (kept.number_eq old member rfl))
  · rw [kept'.clients_iff, nodes]
    dsimp only [Registry.drop]
    by_cases here : n = mosq
    · subst here
      rw [Function.update_self]
      refine iff_of_false ?_ (fun none' => by cases none')
      rintro ⟨a, stays, -⟩
      exact ((left _).1 stays).2 rfl
    · rw [Function.update_of_ne here, kept.clients_iff]
      refine exists_congr fun a => and_congr_left fun _ => ?_
      rw [left]
      exact and_iff_left here

theorem Kept.create (kept : s.Kept) {pointer : Nat} {config : Config} {answers : CreateAnswers}
    (answered : mqttCreateClient pointer config answers s = .ok (s', o)) :
    s'.Kept ∧ Registry.Next s.registry (.create pointer config answers) o s'.registry := by
  obtain ⟨r, made, rest⟩ := bind_ok_iff.1 answered
  obtain ⟨t, shown⟩ := r
  obtain ⟨linked, outcome⟩ := create_answered (onClients_ok.1 made)
  have all := live_linked linked
  obtain ⟨rfl, nodes, -⟩ | ⟨a, client, rfl, nonnull, others, rfl, allocated, -, nodes⟩ := outcome
  · cases rest
    refine ⟨⟨?_, kept.numbers, kept.objs, kept.made, kept.nonnull⟩, .failed⟩
    dsimp only
    rw [nodes, ← all]
    exact kept.instances
  · cases rest
    have unused : ∀ i ∈ s.instances, i.obj ≠ client.address := by
      intro i member
      rw [kept.instances, all] at member
      obtain ⟨n, there, rfl⟩ := List.mem_map.1 member
      exact others n there
    have new : ∀ i ∈ s.instances, i.number ≠ s.made := fun i member => Nat.ne_of_lt (kept.made i member)
    have lives : live t = live s.clients ++ [client] := by
      rw [live, nodes, List.filter_append, ← live, List.filter_cons_of_pos (by rw [allocated]; rfl)]
      rfl
    have after : State.Kept { s with
        clients := t
        nodes := Function.update s.nodes client.address { Node.zero with config := pointer, mosq := s.made }
        instances := s.instances ++ [⟨s.made, client.address⟩]
        made := s.made + 1 } := by
      refine ⟨?_, ?_, ?_, ?_, ?_⟩
      · dsimp only
        rw [lives, List.map_append, List.map_singleton, Function.update_self]
        congr 1
        rw [kept.instances]
        refine List.map_congr_left fun n member => ?_
        rw [all] at member
        rw [Function.update_of_ne (others n member)]
      · dsimp only
        rw [List.map_append, List.nodup_append]
        refine ⟨kept.numbers, List.nodup_singleton _, fun n old n' last => ?_⟩
        obtain ⟨i, member, rfl⟩ := List.mem_map.1 old
        rw [List.mem_singleton.1 last]
        exact new i member
      · dsimp only
        rw [List.map_append, List.nodup_append]
        refine ⟨kept.objs, List.nodup_singleton _, fun n old n' last => ?_⟩
        obtain ⟨i, member, rfl⟩ := List.mem_map.1 old
        rw [List.mem_singleton.1 last]
        exact unused i member
      · intro i member
        obtain old | last := List.mem_append.1 member
        · exact Nat.lt_succ_of_lt (kept.made i old)
        · rw [List.mem_singleton.1 last]
          exact Nat.lt_succ_self _
      · intro i member
        obtain old | last := List.mem_append.1 member
        · exact kept.nonnull i old
        · rw [List.mem_singleton.1 last]
          exact nonnull
    refine ⟨after, ?_⟩
    rw [kept.registry_add after rfl rfl unused new]
    exact .created nonnull (unnamed unused) (unnumbered new)

theorem onLoop_ok {e : Loop.Sources.Event} {shown : Loop.Sources.Seen} (answered : s.onLoop e = .ok (s', shown)) :
    Loop.Sources.step e s.loop = .ok (s'.loop, shown) ∧ s' = { s with loop := s'.loop } := by
  unfold State.onLoop at answered
  cases answer : Loop.Sources.step e s.loop with
  | error f =>
    rw [answer] at answered
    cases answered
  | ok r =>
    rw [answer] at answered
    cases answered
    exact ⟨rfl, rfl⟩

theorem Same.onLoop {e : Loop.Sources.Event} {shown : Loop.Sources.Seen} (answered : s.onLoop e = .ok (s', shown)) : Same s s' := by
  rw [(onLoop_ok answered).2]
  exact ⟨rfl, rfl, rfl, fun _ => rfl, fun _ => rfl⟩

/-- A destroyed client: what its watch id removes from the loop, and what is left. -/
theorem Kept.destroy (kept : s.Kept) {removes : File → Bool} (answered : mqttDestroyClient handle removes s = .ok s') :
    (s.byHandle handle = .ok none ∧ s' = s) ∨
      (s.byHandle handle ≠ .ok none ∧ (⟨(s.nodes handle).mosq, handle⟩ : Instance) ∈ s.instances ∧ s'.Kept ∧
        s'.instances = (s.instances.filter fun i => i.number ≠ (s.nodes handle).mosq) ∧ s'.nodes = s.nodes ∧ s'.frames = s.frames ∧
          s'.clients.requestedNode = (s.clients.requestedNode.eraseP fun n => n.address = handle) ∧
            ∃ shown, Loop.Sources.step (.call (.removeFdWatch (s.nodes handle).watchId)) s.loop = .ok (s'.loop, shown)) := by
  obtain ⟨r, found, rest⟩ := bind_ok_iff.1 answered
  cases r with
  | none =>
    cases rest
    exact Or.inl ⟨found, rfl⟩
  | some client =>
    refine Or.inr ⟨fun none' => (by rw [found] at none'; cases none'), ?_⟩
    obtain ⟨rfl, there, member⟩ := kept.found found
    refine ⟨member, ?_⟩
    dsimp only at rest
    split at rest
    · cases rest
    obtain ⟨⟨u, shown⟩, removed, rest⟩ := bind_ok_iff.1 rest
    obtain ⟨called, same⟩ := onLoop_ok removed
    obtain ⟨t, destroyed, rest⟩ := bind_ok_iff.1 rest
    cases rest
    rw [same] at destroyed ⊢
    have found' := byHandle_iff.1 found
    have erased := destroy_answered found' (onClients_ok.1 destroyed)
    have objs : ((live s.clients).map Client.address).Nodup := by
      have := kept.objs
      rw [kept.instances, List.map_map] at this
      exact this
    have lives : live t = (live s.clients).filter fun n => n.address ≠ client.address := by
      rw [Mqtt.State.byHandle] at found'
      split at found'
      · cases found'
      · exact live_erased found' objs erased
    refine ⟨⟨?_, ?_, ?_, ?_, ?_⟩, rfl, rfl, rfl, erased, shown, called⟩
    · dsimp only
      rw [lives, kept.instances, List.filter_map]
      congr 1
      refine List.filter_congr fun n present => ?_
      have member' : (⟨(s.nodes n.address).mosq, n.address⟩ : Instance) ∈ s.instances := by
        rw [kept.instances]
        exact List.mem_map.2 ⟨n, present, rfl⟩
      refine decide_eq_decide.2 (not_congr ⟨fun same => ?_, fun same => ?_⟩)
      · exact congrArg Instance.obj (kept.number_eq member' member same)
      · dsimp only [Function.comp]
        rw [same]
    · exact kept.numbers.sublist (List.filter_sublist.map _)
    · exact kept.objs.sublist (List.filter_sublist.map _)
    · exact fun i left => kept.made i (List.mem_of_mem_filter left)
    · exact fun i left => kept.nonnull i (List.mem_of_mem_filter left)

end State

/-! ## One event -/

namespace State

variable {s s' : State} {handle : Nat} {client : Client} {o : Output} {e : Event}

/-- A store that leaves mosquitto's client alone is seen where that client is. -/
theorem Kept.store (kept : s.Kept) {f : Node → Node} (mosq : (f (s.nodes handle)).mosq = (s.nodes handle).mosq)
    (member : (⟨(s.nodes handle).mosq, handle⟩ : Instance) ∈ s.instances) :
    (s.store handle f).Kept ∧ (s.store handle f).registry = s.registry.put (s.nodes handle).mosq (f (s.nodes handle)).entry := by
  have mosqs : ∀ a, ((s.store handle f).nodes a).mosq = (s.nodes a).mosq := by
    intro a
    dsimp only [State.store]
    by_cases here : a = handle
    · rw [here, Function.update_self, mosq]
    · rw [Function.update_of_ne here]
  have after : (s.store handle f).Kept := by
    refine ⟨?_, kept.numbers, kept.objs, kept.made, kept.nonnull⟩
    refine kept.instances.trans (List.map_congr_left fun n _ => ?_)
    rw [mosqs]
  refine ⟨after, Registry.ext rfl (funext fun n => Option.ext fun x => ?_)⟩
  rw [after.clients_iff]
  dsimp only [Registry.put, State.store]
  by_cases here : n = (s.nodes handle).mosq
  · subst here
    rw [Function.update_self, Option.some_inj]
    constructor
    · rintro ⟨a, there, rfl⟩
      obtain rfl : a = handle := congrArg Instance.obj (kept.number_eq there member rfl)
      rw [Function.update_self]
    · rintro rfl
      exact ⟨handle, member, by rw [Function.update_self]⟩
  · rw [Function.update_of_ne here, kept.clients_iff]
    refine exists_congr fun a => and_congr_right fun there => ?_
    have other : a ≠ handle := by
      rintro rfl
      exact here (congrArg Instance.number (kept.obj_eq there member rfl))
    rw [Function.update_of_ne other]

theorem setterOf_eq (hook : Hook) : setterOf hook = State.setCallback hook := by
  cases hook <;> rfl

theorem Kept.set (kept : s.Kept) {hook : Hook} {cb : Option Nat} {userData : Nat}
    (answered : State.setCallback hook handle cb userData s = .ok (s', o)) :
    s'.Kept ∧ Registry.Next s.registry (.set hook handle cb userData) o s'.registry := by
  obtain ⟨r, found, rest⟩ := bind_ok_iff.1 answered
  cases r with
  | none =>
    cases rest
    exact ⟨kept, .unset (unnamed (kept.unfound found))⟩
  | some client =>
    cases rest
    obtain ⟨rfl, -, member⟩ := kept.found found
    obtain ⟨after, put⟩ := kept.store (f := fun n =>
      { n with on := Function.update n.on hook cb, dataCb := Function.update n.dataCb hook userData }) rfl member
    refine ⟨after, ?_⟩
    rw [put]
    exact .set (kept.names member) (kept.entry member)

theorem callbackOf_eq (note : Note) (handle : Nat) (s : State) :
    callbackOf note handle s = if note.tells then s.callBack note.hook handle note.told else (s.byHandle handle).map fun _ => (s, .nothing) := by
  cases note <;> rfl

theorem Kept.notes (kept : s.Kept) {mosq : Nat} {note : Note} (answered : step (.notes mosq note) s = .ok (s', o)) :
    s' = s ∧ Registry.Next s.registry (.notes mosq note) o s.registry := by
  rw [step] at answered
  cases there : s.instances.find? fun i => i.number = mosq with
  | none =>
    rw [there] at answered
    cases answered
    refine ⟨rfl, .uncalled fun x entry => ?_⟩
    rw [unnumbered fun i member => by simpa using List.find?_eq_none.1 there i member] at entry
    cases entry
  | some i =>
    rw [there] at answered
    dsimp only at answered
    obtain rfl : i.number = mosq := by simpa using List.find?_some there
    have member := List.mem_of_find?_eq_some there
    have entry := kept.entry member
    rw [callbackOf_eq] at answered
    split at answered
    · rename_i tells
      obtain ⟨r, found, rest⟩ := bind_ok_iff.1 answered
      cases r with
      | none => exact absurd rfl (kept.unfound found i member)
      | some client =>
        obtain ⟨here, -, -⟩ := kept.found found
        dsimp only at rest
        rw [here] at rest
        cases given : (s.nodes i.obj).on note.hook with
        | none =>
          rw [given] at rest
          cases rest
          refine ⟨rfl, .uncalled fun x known => Or.inl ?_⟩
          rw [entry] at known
          exact Option.some.inj known ▸ given
        | some fn =>
          rw [given] at rest
          cases rest
          exact ⟨rfl, .called entry given tells⟩
    · rename_i silent
      obtain ⟨r, found, rest⟩ := map_ok_iff.1 answered
      cases rest
      exact ⟨rfl, .uncalled fun _ _ => Or.inr (Bool.eq_false_iff.2 silent)⟩

theorem Same.keepId (a : Nat) (shown : Loop.Sources.Seen) (s : State) : Same s (s.keepId a shown) := by
  unfold State.keepId
  split
  · refine ⟨rfl, rfl, rfl, fun b => ?_, fun b => ?_⟩
    all_goals
      dsimp only [State.store, Node.entry]
      by_cases here : b = a
      · rw [here, Function.update_self]
      · rw [Function.update_of_ne here]
  · exact .refl s

theorem Same.trans {s'' : State} (first : Same s s') (second : Same s' s'') : Same s s'' :=
  ⟨second.clients.trans first.clients, second.instances.trans first.instances, second.made.trans first.made,
    fun a => (second.mosq a).trans (first.mosq a), fun a => (second.entry a).trans (first.entry a)⟩

theorem Kept.connect (kept : s.Kept) {connects : Bool} {socketFd : Int} {removes : File → Bool} {answers : Loop.Sources.Answers}
    (answered : mqttConnect handle connects socketFd removes answers s = .ok (s', o)) :
    s'.Kept ∧ Registry.Next s.registry (.connect handle connects socketFd removes answers) o s'.registry := by
  obtain ⟨r, found, rest⟩ := bind_ok_iff.1 answered
  cases r with
  | none =>
    cases rest
    exact ⟨kept, .unconnected (unnamed (kept.unfound found))⟩
  | some client =>
    obtain ⟨rfl, -, member⟩ := kept.found found
    have named := kept.names member
    dsimp only at rest
    split at rest
    · rename_i fails
      cases rest
      subst fails
      exact ⟨kept, .connected named fun works => by cases works⟩
    · rename_i works
      rw [Bool.not_eq_false] at works
      subst works
      split at rest
      · rename_i none'
        subst none'
        obtain ⟨t, destroyed, rest⟩ := bind_ok_iff.1 rest
        cases rest
        obtain ⟨gone, -⟩ | ⟨-, -, after, instances, nodes, -⟩ := kept.destroy destroyed
        · rw [found] at gone
          cases gone
        · refine ⟨after, ?_⟩
          rw [kept.registry_drop after member instances nodes]
          exact .broken named
      · rename_i socket
        split at rest
        · cases rest
        obtain ⟨⟨t, shown⟩, called, rest⟩ := bind_ok_iff.1 rest
        cases rest
        have same := (Same.onLoop called).trans (Same.keepId client.address shown t)
        refine ⟨same.kept kept, ?_⟩
        rw [same.registry]
        exact .connected named fun _ => socket

theorem Kept.asks (kept : s.Kept) {request : Option Request} {works : Bool} (asks : e.asks = some (handle, request, works))
    (answered : State.ask handle request works s = .ok (s', o)) : s' = s ∧ Registry.Next s.registry e o s.registry := by
  obtain ⟨r, found, rest⟩ := bind_ok_iff.1 answered
  cases r with
  | none =>
    cases rest
    exact ⟨rfl, .refused asks (Or.inl (unnamed (kept.unfound found)))⟩
  | some client =>
    obtain ⟨rfl, -, member⟩ := kept.found found
    cases request with
    | none =>
      cases rest
      exact ⟨rfl, .refused asks (Or.inr rfl)⟩
    | some q =>
      cases rest
      exact ⟨rfl, .asked asks (kept.names member)⟩

theorem Same.leave {rest : List Frame} {ret : Int} (answered : s.leave rest ret = .ok (s', o)) : Same s s' ∧ o = .nothing := by
  obtain ⟨⟨t, shown⟩, called, both⟩ := map_ok_iff.1 answered
  cases both
  have same := Same.onLoop called
  exact ⟨⟨same.clients, same.instances, same.made, same.mosq, same.entry⟩, rfl⟩

/-- An event of the loop that leaves the clients as they are. -/
theorem Kept.quiet (kept : s.Kept) (loop : e.ofLoop = true) (same : Same s s')
    (shown : o = .nothing ∨ (∃ seen, o = .loop seen) ∨ ∃ handle stage, o = .services (s.nodes handle).mosq stage ∧
      (⟨(s.nodes handle).mosq, handle⟩ : Instance) ∈ s.instances) :
    s'.Kept ∧ Registry.Next s.registry e o s'.registry := by
  refine ⟨same.kept kept, ?_⟩
  rw [same.registry]
  obtain rfl | ⟨seen, rfl⟩ | ⟨handle, stage, rfl, member⟩ := shown
  · exact .rests loop
  · exact .shows loop
  · exact .services loop (kept.names member)

theorem Kept.dispatch (kept : s.Kept) {id : Nat} {revents : BitVec 32} (answered : dispatch id revents s = .ok (s', o)) :
    s'.Kept ∧ Registry.Next s.registry (.dispatch id revents) o s'.registry := by
  obtain ⟨⟨t, seen⟩, called, rest⟩ := bind_ok_iff.1 answered
  have same := Same.onLoop called
  have between := same.kept kept
  dsimp only at rest
  split at rest
  · split at rest
    · obtain ⟨r, found, rest⟩ := bind_ok_iff.1 rest
      cases r with
      | none =>
        obtain ⟨left, rfl⟩ := Same.leave rest
        exact kept.quiet rfl (same.trans left) (Or.inl rfl)
      | some client =>
        cases rest
        obtain ⟨here, -, member⟩ := between.found found
        rw [← here, same.instances, same.mosq] at member
        exact kept.quiet rfl ⟨same.clients, same.instances, same.made, same.mosq, same.entry⟩
          (Or.inr (Or.inr ⟨client.address, .read, rfl, member⟩))
    · cases rest
      exact kept.quiet rfl ⟨same.clients, same.instances, same.made, same.mosq, same.entry⟩ (Or.inr (Or.inl ⟨_, rfl⟩))
  · cases rest
    exact kept.quiet rfl same (Or.inr (Or.inl ⟨_, rfl⟩))

theorem Kept.there (kept : s.Kept) {a : Nat} (there : s.there a = true) : (⟨(s.nodes a).mosq, a⟩ : Instance) ∈ s.instances := by
  obtain ⟨n, member, both⟩ := List.any_eq_true.1 there
  rw [Bool.and_eq_true, decide_eq_true_iff] at both
  obtain ⟨allocated, rfl⟩ := both
  rw [kept.instances]
  exact List.mem_map.2 ⟨n, List.mem_filter.2 ⟨member, allocated⟩, rfl⟩

theorem Kept.goOn (kept : s.Kept) {works : Bool} (answered : goOn works s = .ok (s', o)) :
    s'.Kept ∧ Registry.Next s.registry (.goOn works) o s'.registry := by
  unfold Sessions.goOn at answered
  split at answered
  · split at answered
    · obtain ⟨left, rfl⟩ := Same.leave answered
      exact kept.quiet rfl left (Or.inl rfl)
    · split at answered
      · obtain ⟨left, rfl⟩ := Same.leave answered
        exact kept.quiet rfl left (Or.inl rfl)
      · rename_i stage _
        split at answered
        · rename_i there
          cases answered
          exact kept.quiet rfl ⟨rfl, rfl, rfl, fun _ => rfl, fun _ => rfl⟩ (Or.inr (Or.inr ⟨_, stage, rfl, kept.there there⟩))
        · cases answered
  · cases answered
    exact kept.quiet rfl (.refl s) (Or.inl rfl)

theorem Kept.goBack (kept : s.Kept) {ret : Int} (answered : goBack ret s = .ok (s', o)) :
    s'.Kept ∧ Registry.Next s.registry (.goBack ret) o s'.registry := by
  unfold Sessions.goBack at answered
  split at answered
  · obtain ⟨left, rfl⟩ := Same.leave answered
    exact kept.quiet rfl left (Or.inl rfl)
  · cases answered
    exact kept.quiet rfl (.refl s) (Or.inl rfl)

theorem Kept.ofLoop (kept : s.Kept) {op : Loop.Sources.Op} (answered : step (.loop op) s = .ok (s', o)) :
    s'.Kept ∧ Registry.Next s.registry (.loop op) o s'.registry := by
  rw [step] at answered
  split at answered
  · cases answered
    exact kept.quiet rfl (.refl s) (Or.inl rfl)
  · obtain ⟨⟨t, seen⟩, called, same⟩ := map_ok_iff.1 answered
    cases same
    exact kept.quiet rfl (Same.onLoop called) (Or.inr (Or.inl ⟨seen, rfl⟩))

/-- Every answered event is a step of the registry. -/
theorem Kept.next (kept : s.Kept) (answered : step e s = .ok (s', o)) : s'.Kept ∧ Registry.Next s.registry e o s'.registry := by
  cases e with
  | create pointer config answers => exact kept.create answered
  | destroy handle removes =>
    obtain ⟨t, destroyed, same⟩ := map_ok_iff.1 answered
    cases same
    obtain ⟨absent, rfl⟩ | ⟨-, member, after, instances, nodes, -⟩ := kept.destroy destroyed
    · exact ⟨kept, .absent (unnamed (kept.unfound absent))⟩
    · refine ⟨after, ?_⟩
      rw [kept.registry_drop after member instances nodes]
      exact .destroyed (kept.names member)
  | set hook handle cb userData =>
    rw [step, setterOf_eq] at answered
    exact kept.set answered
  | connect handle connects socketFd removes answers => exact kept.connect answered
  | disconnect handle =>
    obtain ⟨r, found, rest⟩ := bind_ok_iff.1 answered
    cases r with
    | none => cases rest
    | some client =>
      cases rest
      obtain ⟨rfl, -, member⟩ := kept.found found
      exact ⟨kept, .disconnects (kept.names member)⟩
  | subscribe handle qos msgtopic works =>
    obtain ⟨rfl, next⟩ := kept.asks (e := .subscribe handle qos msgtopic works) rfl answered
    exact ⟨kept, next⟩
  | unsubscribe handle msgTopic works =>
    obtain ⟨rfl, next⟩ := kept.asks (e := .unsubscribe handle msgTopic works) rfl answered
    exact ⟨kept, next⟩
  | publish handle qos retain msgTopic payloadLen msgContent works =>
    obtain ⟨rfl, next⟩ := kept.asks (e := .publish handle qos retain msgTopic payloadLen msgContent works) rfl answered
    exact ⟨kept, next⟩
  | notes mosq note =>
    obtain ⟨rfl, next⟩ := kept.notes answered
    exact ⟨kept, next⟩
  | loop op => exact kept.ofLoop answered
  | dispatch id revents => exact kept.dispatch answered
  | goOn works => exact kept.goOn answered
  | goBack ret => exact kept.goBack answered

end State

/-- **The module does what its registry says.** In every run, each user callback is the one that was set last for the
client that mosquitto tells of, and is called with its own configuration and data; each request reaches the client that its
handle names. -/
theorem sessions_registered {files : File → Option (List UInt8)} {cs : List (Call Event State Output)} {s : State}
    (run : Run step (.boot files) cs s) : Follows Registry.Next .empty cs s.registry := by
  have start : (State.boot files).Kept ∧ (State.boot files).registry = .empty := ⟨boot_kept files, rfl⟩
  obtain ⟨b, follows, -, rfl⟩ := run.follows (R := fun s b => s.Kept ∧ s.registry = b) (C := fun _ _ => True) start (fun _ _ => trivial) (by
    rintro e t t' o b ⟨kept, rfl⟩ - answered
    obtain ⟨after, next⟩ := kept.next answered
    exact ⟨t'.registry, next, after, rfl⟩)
  exact follows

/-- Every step of a creation at this address works. -/
def CreateAnswers.working (a : Nat) : CreateAnswers := ⟨.only a, true, true, true, ⟨fun _ => true, fun _ => 0, true, fun _ => true⟩, true, true⟩

def plain : Config := ⟨false, false, false, none, false⟩

/-- Two clients have a callback for messages. The second one connects, and a message comes while its handler runs. -/
def twoClients : List Event :=
  [.create 100 plain (CreateAnswers.working 2), .create 101 plain (CreateAnswers.working 3), .set .message 2 (some 7) 8,
    .set .message 3 (some 9) 10, .connect 3 true 5 (fun _ => true) ⟨true, Malloc.only 1⟩, .dispatch 1 1,
    .notes 1 (.message ⟨1, ['t'], [120], 1, 0, false⟩ true), .goOn true, .goOn true, .goOn true, .destroy 3 fun _ => true]

theorem twoClients_seen :
    ∃ cs s, exec step twoClients (.boot fun _ => none) = .ok (cs, s) ∧
      cs.map Call.output = [.created 2, .created 3, .code .success, .code .success, .code .success, .services 1 .read,
        .calls 9 101 10 (.message ⟨1, ['t'], [120], 1, 0, false⟩), .services 1 .write, .services 1 .misc, .nothing, .done] :=
  ⟨_, _, rfl, rfl⟩

theorem sessions_registered_twoClients :
    ∃ (cs : List (Call Event State Output)) (b : Registry), cs.map Call.input = twoClients ∧ Follows Registry.Next .empty cs b := by
  obtain ⟨cs, s, ran, -⟩ := twoClients_seen
  obtain ⟨run, inputs⟩ := exec_run ran
  exact ⟨cs, s.registry, inputs, sessions_registered run⟩

end ArtikSdk.Mqtt.Sessions
