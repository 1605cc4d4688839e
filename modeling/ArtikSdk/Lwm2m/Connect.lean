import ArtikSdk.Lib.Run
import ArtikSdk.Lwm2m.Service

/-!
# LWM2M: connecting and disconnecting

A connect that fails leaves nothing behind, and nothing refers to a node that was removed. Both
hold in the runs in which no connect fails behind the start of its client, and no node is
removed while a timer, an idle callback or its own service thread still needs it.
-/

namespace ArtikSdk.Lwm2m
open Lib

def State.numbers (s : State) : List Nat := s.nodes.map Node.number

/-- A timer that is armed, an idle callback that waits or runs, or a service thread refers to node `k`. -/
def State.Refers (k : Nat) (s : State) : Prop :=
  (∃ t ∈ s.timers, t.node = k) ∨ (∃ i ∈ s.idles, i.node = k) ∨ k ∈ s.entered ∨ ∃ t ∈ s.threads, t.node = k

/-- Every client that runs is that of a node in the list, and what refers to a node refers to one
in the list. -/
structure State.Sound (s : State) : Prop where
  clients : ∀ c ∈ s.clients, c.number ∈ s.numbers
  timers : ∀ t ∈ s.timers, t.node ∈ s.numbers
  idles : ∀ i ∈ s.idles, i.node ∈ s.numbers
  entered : ∀ k ∈ s.entered, k ∈ s.numbers
  threads : ∀ t ∈ s.threads, t.node ∈ s.numbers

/-- What a connect that returns an error leaves as it was, and what every step leaves. -/
def Clean (c : Call Input State Output) : Prop :=
  c.after.Sound ∧ ∀ answers e, c.input = .connect answers → c.output = .code e → c.after.nodes = c.before.nodes

/-- The steps of a connect behind the start of the client. -/
def Answers.starts (port : Port) (answers : Answers) (s : State) : Prop :=
  match port with
  | .linux => answers.timer.pick (fun id => s.timers.any fun t => t.id = id) ≠ none
  | .tinyara =>
    answers.mutexInit = true ∧ answers.attrInit = true ∧ answers.attrSetStackSize = true ∧ answers.threadCreate = true

/-- A connect that has started its client goes on to its end. A node is removed on Linux when
nothing refers to it, and on Tinyara not by its own service thread. -/
def Input.Fits (port : Port) : Input → State → Prop
  | .connect answers, s =>
    ∀ a p, answers.args = true → answers.node.pick s.used = some a → answers.client.pick (s.addNode a).used = some p →
      answers.starts port s
  | .disconnect caller handle, s =>
    ∀ n, s.byHandle handle = some n →
      match port with
      | .linux => ¬ s.Refers n.number
      | .tinyara => caller = some n.number → ∀ t ∈ s.threads, t.node ≠ n.number
  | _, _ => True

/-- What the other port has. -/
def State.Ported (port : Port) (s : State) : Prop :=
  match port with
  | .linux => s.threads = []
  | .tinyara => s.timers = [] ∧ s.idles = [] ∧ s.entered = []

/-- A sound state in which numbers are below the next one, no node is where a client is, a node
that has its client points to it, and on Tinyara a client has its service thread. -/
structure State.Inv (port : Port) (s : State) : Prop where
  sound : s.Sound
  below : ∀ k ∈ s.numbers, k < s.made
  apart : ∀ n ∈ s.nodes, ∀ c ∈ s.clients, n.address ≠ c.address
  points : ∀ n ∈ s.nodes, ∀ c ∈ s.clients, n.number = c.number → n.client = c.address
  serviced : port = .tinyara → ∀ c ∈ s.clients, ∃ t ∈ s.threads, t.node = c.number
  ported : s.Ported port

/-! ## Frames -/

/-- What of a node decides what refers to it. -/
def Node.key (n : Node) : Nat × Nat × Nat := (n.number, n.address, n.client)

/-- The nodes are the same, no client is new, and the tables refer to the nodes. -/
theorem State.Inv.of_frame {port : Port} {s s' : State} (inv : s.Inv port) (nodes : s'.nodes.map Node.key = s.nodes.map Node.key)
    (clients : ∀ c' ∈ s'.clients, ∃ c ∈ s.clients, c'.number = c.number ∧ c'.address = c.address)
    (timers : ∀ t ∈ s'.timers, t.node ∈ s.numbers) (idles : ∀ i ∈ s'.idles, i.node ∈ s.numbers)
    (entered : ∀ k ∈ s'.entered, k ∈ s.numbers) (threads : ∀ t ∈ s'.threads, t.node ∈ s.numbers) (made : s.made ≤ s'.made)
    (serviced : port = .tinyara → ∀ c ∈ s'.clients, ∃ t ∈ s'.threads, t.node = c.number) (ported : s'.Ported port) :
    s'.Inv port := by
  have numbers : s'.numbers = s.numbers := by
    have := congrArg (List.map Prod.fst) nodes
    rw [List.map_map, List.map_map] at this
    exact this
  -- a node of the new list has a node of the old one with its number, address and client
  have node (n' : Node) (member : n' ∈ s'.nodes) : ∃ n ∈ s.nodes, n.key = n'.key := by
    apply List.mem_map.1
    rw [← nodes]
    exact List.mem_map_of_mem member
  refine ⟨?_, fun k member => ?_, fun n' member c' member' => ?_, fun n' member c' member' same => ?_, serviced, ported⟩
  · rw [← numbers] at timers idles entered threads
    refine ⟨fun c' member => ?_, timers, idles, entered, threads⟩
    obtain ⟨c, present, number, -⟩ := clients c' member
    rw [numbers, number]
    exact inv.sound.clients c present
  · rw [numbers] at member
    exact lt_of_lt_of_le (inv.below k member) made
  · obtain ⟨c, present, -, address⟩ := clients c' member'
    obtain ⟨n, present', key⟩ := node n' member
    have same : n.address = n'.address := congrArg (fun x => x.2.1) key
    rw [address, ← same]
    exact inv.apart n present' c present
  · obtain ⟨c, present, number, address⟩ := clients c' member'
    obtain ⟨n, present', key⟩ := node n' member
    have same' : n.number = n'.number := congrArg (fun x => x.1) key
    have client : n.client = n'.client := congrArg (fun x => x.2.2) key
    rw [address, ← client]
    exact inv.points n present' c present (by rw [same', same, number])

theorem update_keys {k : Nat} {f : Node → Node} (same : ∀ n, (f n).key = n.key) (s : State) :
    (s.update k f).nodes.map Node.key = s.nodes.map Node.key := by
  unfold State.update
  rw [List.map_map]
  apply List.map_congr_left
  intro n _
  rw [Function.comp_apply]
  split
  · exact same n
  · rfl

theorem sameClients (s : State) : ∀ c' ∈ s.clients, ∃ c ∈ s.clients, c'.number = c.number ∧ c'.address = c.address :=
  fun c member => ⟨c, member, rfl, rfl⟩

/-- The pointer to a client is no handle. -/
theorem client_noHandle {port : Port} {s : State} (inv : s.Inv port) {n : Node} {c : Client} (member : n ∈ s.nodes)
    (running : c ∈ s.clients) (same : n.number = c.number) : s.byHandle n.client = none := by
  apply List.find?_eq_none.2
  intro m present equal
  rw [inv.points n member c running same] at equal
  exact inv.apart m present c running (of_decide_eq_true equal)

/-! ## Steps between connecting and disconnecting -/

theorem setHooks_inv {port : Port} {k : Nat} {hs : List Hook} {parameter : Option Nat} {s s' : State} (inv : s.Inv port)
    (set : s.setHooks k hs parameter = .ok s') : s'.Inv port := by
  have numbers : ∀ c' ∈ s'.clients, ∃ c ∈ s.clients, c'.number = c.number ∧ c'.address = c.address := by
    unfold State.setHooks at set
    split at set
    · cases set
    · cases set
      intro c' member
      obtain ⟨c, present, rfl⟩ := List.mem_map.1 member
      refine ⟨c, present, ?_⟩
      split <;> exact ⟨rfl, rfl⟩
  have serviced (tinyara : port = .tinyara) : ∀ c' ∈ s'.clients, ∃ t ∈ s.threads, t.node = c'.number := by
    intro c' member
    obtain ⟨c, present, number, -⟩ := numbers c' member
    rw [number]
    exact inv.serviced tinyara c present
  unfold State.setHooks at set
  split at set
  · cases set
  · cases set
    exact inv.of_frame rfl numbers inv.sound.timers inv.sound.idles inv.sound.entered inv.sound.threads le_rfl serviced inv.ported

theorem store_inv {port : Port} {s : State} (inv : s.Inv port) (k : Nat) (e : Event) (fn : Option Nat) (userData : Nat) :
    (s.update k (Node.store e fn userData)).Inv port :=
  inv.of_frame (update_keys (f := Node.store e fn userData) (fun _ => rfl) s) (sameClients s) inv.sound.timers inv.sound.idles
    inv.sound.entered inv.sound.threads le_rfl inv.serviced inv.ported

theorem setCallback_inv {port : Port} {handle userData : Nat} {event : Option Event} {userCallback : Option Nat} {s s' : State}
    {r : ArtikError} (inv : s.Inv port) (answered : setCallback handle event userCallback userData s = .ok (s', r)) :
    s'.Inv port := by
  unfold setCallback at answered
  split at answered
  · obtain ⟨t, set, result⟩ := bind_ok_iff.1 answered
    cases result
    exact setHooks_inv (store_inv inv _ _ _ _) set
  · cases answered
    exact inv

theorem unsetCallback_inv {port : Port} {handle : Nat} {event : Option Event} {s s' : State} {r : ArtikError} (inv : s.Inv port)
    (answered : unsetCallback handle event s = .ok (s', r)) : s'.Inv port := by
  unfold unsetCallback at answered
  split at answered
  · obtain ⟨t, set, result⟩ := bind_ok_iff.1 answered
    cases result
    exact setHooks_inv (store_inv inv _ _ _ _) set
  · cases answered
    exact inv

theorem removeTimeout_inv {port : Port} {s : State} (inv : s.Inv port) (id : Nat) : (s.removeTimeout id).Inv port := by
  refine inv.of_frame rfl (sameClients s) (fun t member => inv.sound.timers t (List.mem_of_mem_filter member)) inv.sound.idles
    inv.sound.entered inv.sound.threads le_rfl inv.serviced ?_
  cases port with
  | linux => exact inv.ported
  | tinyara => exact ⟨by rw [State.removeTimeout, inv.ported.1]; rfl, inv.ported.2⟩

theorem addTimeout_inv {timer : Malloc} {k : Nat} {s s' : State} (inv : s.Inv .linux) (member : k ∈ s.numbers)
    (added : s.addTimeout timer k = some s') : s'.Inv .linux := by
  obtain ⟨id, -, rfl⟩ := Option.map_eq_some_iff.1 added
  refine inv.of_frame (update_keys (f := fun n => { n with serviceCbkId := id }) (fun _ => rfl) s) (sameClients s)
    (fun t armed => ?_) inv.sound.idles inv.sound.entered inv.sound.threads le_rfl inv.serviced inv.ported
  obtain old | new := List.mem_append.1 armed
  · exact inv.sound.timers t old
  · rw [List.mem_singleton.1 new]
    exact member

theorem endThread_inv {port : Port} {s : State} (inv : s.Inv port) (k : Nat) : (s.endThread k).Inv port := by
  refine inv.of_frame rfl (fun c member => ⟨c, List.mem_of_mem_filter member, rfl, rfl⟩) inv.sound.timers inv.sound.idles
    inv.sound.entered (fun t member => inv.sound.threads t (List.mem_of_mem_filter member)) le_rfl (fun tinyara c member => ?_) ?_
  · obtain ⟨present, other⟩ := List.mem_filter.1 member
    obtain ⟨t, runs, number⟩ := inv.serviced tinyara c present
    refine ⟨t, List.mem_filter.2 ⟨runs, ?_⟩, number⟩
    rw [number]
    exact other
  · cases port with
    | linux =>
      have absent : s.threads = [] := inv.ported
      show s.threads.filter _ = []
      rw [absent]
      rfl
    | tinyara => exact inv.ported

theorem quit_inv {port : Port} {s : State} (inv : s.Inv port) (k : Nat) : (s.update k fun n => { n with quit := true }).Inv port :=
  inv.of_frame (update_keys (f := fun n => { n with quit := true }) (fun _ => rfl) s) (sameClients s) inv.sound.timers
    inv.sound.idles inv.sound.entered inv.sound.threads le_rfl inv.serviced inv.ported

/-- Only whether the thread is leaving changes. -/
theorem leave_inv {port : Port} {s : State} (inv : s.Inv port) {t : Thread} (runs : t ∈ s.threads) (k : Nat) :
    State.Inv port { s with threads := s.threads.map fun t => if t.node = k then { t with leaving := true } else t } := by
  refine inv.of_frame rfl (sameClients s) inv.sound.timers inv.sound.idles inv.sound.entered (fun t' member => ?_) le_rfl
    (fun tinyara c member => ?_) ?_
  · obtain ⟨t, present, rfl⟩ := List.mem_map.1 member
    have same : (if t.node = k then { t with leaving := true } else t).node = t.node := by split <;> rfl
    rw [same]
    exact inv.sound.threads t present
  · obtain ⟨t, present, number⟩ := inv.serviced tinyara c member
    refine ⟨_, List.mem_map_of_mem present, ?_⟩
    split <;> exact number
  · cases port with
    | linux =>
      have absent : s.threads = [] := inv.ported
      rw [absent] at runs
      cases runs
    | tinyara => exact inv.ported

/-- Idle callbacks are there on Linux only. -/
theorem State.Inv.idle_linux {port : Port} {s : State} (inv : s.Inv port) {i : Idle} (member : i ∈ s.idles) : port = .linux := by
  cases port with
  | linux => rfl
  | tinyara =>
    rw [inv.ported.2.1] at member
    cases member

/-- Timers are there on Linux only. -/
theorem State.Inv.timer_linux {port : Port} {s : State} (inv : s.Inv port) {t : Timer} (member : t ∈ s.timers) : port = .linux := by
  cases port with
  | linux => rfl
  | tinyara =>
    rw [inv.ported.1] at member
    cases member

theorem Between.inv {port : Port} {s s' : State} (between : Between port s s') (inv : s.Inv port) : s'.Inv port := by
  have fewer (id : Nat) : ∀ i ∈ s.idles.filter fun i => i.id ≠ id, i.node ∈ s.numbers :=
    fun i member => inv.sound.idles i (List.mem_of_mem_filter member)
  cases between with
  | nothing => exact inv
  | waits linux listed =>
    subst linux
    refine inv.of_frame rfl (sameClients s) inv.sound.timers (fun i member => ?_) inv.sound.entered inv.sound.threads le_rfl
      inv.serviced inv.ported
    obtain old | new := List.mem_append.1 member
    · exact inv.sound.idles i old
    · rw [List.mem_singleton.1 new]
      exact List.mem_map_of_mem listed
  | passes member =>
    cases inv.idle_linux member
    exact inv.of_frame rfl (sameClients s) inv.sound.timers (fewer _) inv.sound.entered inv.sound.threads le_rfl inv.serviced inv.ported
  | @enters i member =>
    cases inv.idle_linux member
    refine inv.of_frame rfl (sameClients s) inv.sound.timers (fewer _) (fun k entered => ?_) inv.sound.threads le_rfl inv.serviced
      inv.ported
    obtain rfl | old := List.mem_cons.1 entered
    · exact inv.sound.idles i member
    · exact inv.sound.entered k old
  | returns waiting =>
    have entered := inv.sound.entered
    rw [waiting, List.forall_mem_cons] at entered
    cases port with
    | tinyara =>
      rw [inv.ported.2.2] at waiting
      cases waiting
    | linux =>
      exact inv.of_frame rfl (sameClients s) inv.sound.timers inv.sound.idles entered.2 inv.sound.threads le_rfl inv.serviced inv.ported
  | fires _ => exact removeTimeout_inv inv _
  | rearms member listed added =>
    cases inv.timer_linux member
    exact addTimeout_inv (removeTimeout_inv (removeTimeout_inv inv _) _) (List.mem_map_of_mem listed) added
  | @unarmed t n c member listed running same =>
    -- the disconnect finds no node, and nothing happens
    have removed := removeTimeout_inv (removeTimeout_inv inv t.id) n.serviceCbkId
    rw [disconnect, client_noHandle removed listed running same]
    exact removed
  | ends => exact endThread_inv inv _
  | quits => exact endThread_inv (quit_inv inv _) _
  | leaves runs => exact leave_inv inv runs _

/-! ## Disconnecting -/

theorem deleteNode_numbers (k : Nat) (s : State) {j : Nat} : j ∈ (s.deleteNode k).numbers ↔ j ∈ s.numbers ∧ j ≠ k := by
  constructor
  · intro member
    obtain ⟨n, left, rfl⟩ := List.mem_map.1 member
    obtain ⟨present, other⟩ := List.mem_filter.1 left
    exact ⟨List.mem_map_of_mem present, of_decide_eq_true other⟩
  · rintro ⟨member, other⟩
    obtain ⟨n, present, rfl⟩ := List.mem_map.1 member
    exact List.mem_map_of_mem (List.mem_filter.2 ⟨present, decide_eq_true other⟩)

/-- A node is removed soundly exactly when it has no client left and nothing refers to it. -/
theorem deleteNode_sound_iff {s : State} (sound : s.Sound) {k : Nat} (member : k ∈ s.numbers) :
    (s.deleteNode k).Sound ↔ (∀ c ∈ s.clients, c.number ≠ k) ∧ ¬ s.Refers k := by
  have gone : k ∉ (s.deleteNode k).numbers := fun left => ((deleteNode_numbers k s).1 left).2 rfl
  constructor
  · intro after
    refine ⟨fun c running same => gone (same ▸ after.clients c running), fun refers => gone ?_⟩
    · obtain ⟨t, armed, rfl⟩ | ⟨i, waiting, rfl⟩ | entered | ⟨t, runs, rfl⟩ := refers
      · exact after.timers t armed
      · exact after.idles i waiting
      · exact after.entered k entered
      · exact after.threads t runs
  · rintro ⟨stopped, unreferred⟩
    refine ⟨fun c running => ?_, fun t armed => ?_, fun i waiting => ?_, fun j entered => ?_, fun t runs => ?_⟩ <;>
      rw [deleteNode_numbers]
    · exact ⟨sound.clients c running, stopped c running⟩
    · exact ⟨sound.timers t armed, fun same => unreferred (.inl ⟨t, armed, same⟩)⟩
    · exact ⟨sound.idles i waiting, fun same => unreferred (.inr (.inl ⟨i, waiting, same⟩))⟩
    · exact ⟨sound.entered j entered, fun same => unreferred (.inr (.inr (.inl (same ▸ entered))))⟩
    · exact ⟨sound.threads t runs, fun same => unreferred (.inr (.inr (.inr ⟨t, runs, same⟩)))⟩

theorem deleteNode_inv {port : Port} {s : State} (inv : s.Inv port) {k : Nat} (sound : (s.deleteNode k).Sound) :
    (s.deleteNode k).Inv port := by
  have before {n : Node} (member : n ∈ (s.deleteNode k).nodes) : n ∈ s.nodes := List.mem_of_mem_filter member
  exact ⟨sound, fun j member => inv.below j ((deleteNode_numbers k s).1 member).1,
    fun n member c running => inv.apart n (before member) c running,
    fun n member c running => inv.points n (before member) c running, inv.serviced, inv.ported⟩

/-- A client is stopped, which on Linux has nothing that services it but timers. -/
theorem stopClient_inv {s : State} (inv : s.Inv .linux) (k : Nat) : (s.stopClient k).Inv .linux :=
  inv.of_frame rfl (fun c member => ⟨c, List.mem_of_mem_filter member, rfl, rfl⟩) inv.sound.timers inv.sound.idles
    inv.sound.entered inv.sound.threads le_rfl (fun tinyara => by cases tinyara) inv.ported

theorem byHandle_numbers {s : State} {handle : Nat} {n : Node} (found : s.byHandle handle = some n) : n.number ∈ s.numbers :=
  List.mem_map_of_mem (List.mem_of_find?_eq_some found)

theorem refers_thread_iff {s : State} (inv : s.Inv .tinyara) (k : Nat) : s.Refers k ↔ ∃ t ∈ s.threads, t.node = k := by
  obtain ⟨timers, idles, entered⟩ := inv.ported
  unfold State.Refers
  rw [timers, idles, entered]
  simp

/-- After the join the node has neither client nor thread, unless the thread itself joins. -/
theorem join_left_iff {s : State} (inv : s.Inv .tinyara) (caller : Option Nat) (k : Nat) :
    (∀ c ∈ (s.join caller k).clients, c.number ≠ k) ∧ ¬ (s.join caller k).Refers k ↔
      (caller = some k → ∀ t ∈ s.threads, t.node ≠ k) := by
  unfold State.join
  split
  · rename_i joined
    refine iff_of_true ⟨fun c member => of_decide_eq_true (List.mem_filter.1 member).2, ?_⟩ fun same => absurd same joined.1
    rw [refers_thread_iff (endThread_inv inv k)]
    rintro ⟨t, member, same⟩
    exact of_decide_eq_true (List.mem_filter.1 member).2 same
  · rename_i left
    rw [refers_thread_iff inv]
    have unjoined : (caller = some k → ∀ t ∈ s.threads, t.node ≠ k) ↔ ∀ t ∈ s.threads, t.node ≠ k := by
      constructor
      · intro own t runs same
        by_cases own' : caller = some k
        · exact own own' t runs same
        · exact left ⟨own', List.any_eq_true.2 ⟨t, runs, decide_eq_true same⟩⟩
      · exact fun absent _ => absent
    rw [unjoined]
    constructor
    · exact fun clean t runs same => clean.2 ⟨t, runs, same⟩
    · intro absent
      refine ⟨fun c running same => ?_, fun ⟨t, runs, same⟩ => absent t runs same⟩
      obtain ⟨t, runs, number⟩ := inv.serviced rfl c running
      exact absent t runs (number.trans same)

theorem join_inv {s : State} (inv : s.Inv .tinyara) (caller : Option Nat) (k : Nat) : (s.join caller k).Inv .tinyara := by
  unfold State.join
  split
  · exact endThread_inv inv k
  · exact inv

theorem join_numbers (caller : Option Nat) (k : Nat) (s : State) : (s.join caller k).numbers = s.numbers := by
  unfold State.join
  split <;> rfl

theorem update_numbers {k : Nat} {f : Node → Node} (same : ∀ n, (f n).number = n.number) (s : State) :
    (s.update k f).numbers = s.numbers := by
  unfold State.update State.numbers
  rw [List.map_map]
  apply List.map_congr_left
  intro n _
  rw [Function.comp_apply]
  split
  · exact same n
  · rfl

theorem disconnect_exact {port : Port} (caller : Option Nat) (handle : Nat) {s : State} (inv : s.Inv port) :
    ((disconnect port caller handle s).1.Sound ↔ (Input.disconnect caller handle).Fits port s) ∧
      ((disconnect port caller handle s).1.Sound → (disconnect port caller handle s).1.Inv port) := by
  unfold disconnect
  split
  · rename_i missing
    refine ⟨iff_of_true inv.sound fun n found => ?_, fun _ => inv⟩
    rw [missing] at found
    cases found
  · rename_i n found
    have member := byHandle_numbers found
    have only {Q : Node → Prop} : (∀ m, s.byHandle handle = some m → Q m) ↔ Q n := by
      rw [found]
      exact ⟨fun all => all n rfl, fun here m same => Option.some.inj same ▸ here⟩
    cases port with
    | linux =>
      have stopped := stopClient_inv inv n.number
      refine ⟨?_, deleteNode_inv stopped⟩
      dsimp only
      rw [deleteNode_sound_iff stopped.sound member]
      refine Iff.trans ?_ only.symm
      exact and_iff_right fun c running => of_decide_eq_true (List.mem_filter.1 running).2
    | tinyara =>
      have joined := join_inv (quit_inv inv n.number) caller n.number
      refine ⟨?_, deleteNode_inv joined⟩
      dsimp only
      rw [deleteNode_sound_iff joined.sound]
      · refine Iff.trans ?_ only.symm
        exact join_left_iff (quit_inv inv n.number) caller n.number
      · rw [join_numbers, update_numbers (f := fun n => { n with quit := true }) (fun _ => rfl)]
        exact member

/-! ## Connecting -/

theorem used_none {s : State} {a : Nat} (unused : s.used a = false) :
    (∀ n ∈ s.nodes, n.address ≠ a) ∧ ∀ c ∈ s.clients, c.address ≠ a := by
  unfold State.used at unused
  rw [Bool.or_eq_false_iff, List.any_eq_false, List.any_eq_false] at unused
  exact ⟨fun n member same => unused.1 n member (decide_eq_true same), fun c member same => unused.2 c member (decide_eq_true same)⟩

theorem addNode_numbers (a : Nat) (s : State) : (s.addNode a).numbers = s.numbers ++ [s.made] := List.map_append

theorem addNode_inv {port : Port} {s : State} (inv : s.Inv port) {a : Nat} (unused : s.used a = false) : (s.addNode a).Inv port := by
  have old {k : Nat} (member : k ∈ s.numbers) : k ∈ (s.addNode a).numbers := by
    rw [addNode_numbers]
    exact List.mem_append_left _ member
  refine ⟨⟨fun c running => old (inv.sound.clients c running), fun t armed => old (inv.sound.timers t armed),
    fun i waiting => old (inv.sound.idles i waiting), fun k entered => old (inv.sound.entered k entered),
    fun t runs => old (inv.sound.threads t runs)⟩, fun k member => ?_, fun n member c running => ?_,
    fun n member c running same => ?_, inv.serviced, inv.ported⟩
  · rw [addNode_numbers] at member
    obtain earlier | new := List.mem_append.1 member
    · exact Nat.lt_succ_of_lt (inv.below k earlier)
    · rw [List.mem_singleton.1 new]
      exact Nat.lt_succ_self s.made
  · obtain earlier | new := List.mem_append.1 member
    · exact inv.apart n earlier c running
    · rw [List.mem_singleton.1 new]
      exact fun same => (used_none unused).2 c running same.symm
  · obtain earlier | new := List.mem_append.1 member
    · exact inv.points n earlier c running same
    · rw [List.mem_singleton.1 new] at same
      exact absurd same.symm (inv.below _ (inv.sound.clients c running)).ne

/-- With the client of the last node, and with its thread where the port has threads. -/
theorem startClient_inv {port : Port} {s : State} (inv : s.Inv port) {a p : Nat} (unused : s.used a = false)
    (unused' : (s.addNode a).used p = false) (extra : List Thread) (ours : ∀ t ∈ extra, t.node = s.made)
    (linux : port = .linux → extra = []) (tinyara : port = .tinyara → ∃ t ∈ extra, t.node = s.made) :
    State.Inv port { (s.addNode a).startClient s.made p with threads := s.threads ++ extra } := by
  have added := addNode_inv inv unused
  have numbers : ((s.addNode a).startClient s.made p).numbers = (s.addNode a).numbers :=
    update_numbers (f := fun n => { n with client := p }) (fun _ => rfl) _
  have made : s.made ∈ (s.addNode a).numbers := by
    rw [addNode_numbers]
    exact List.mem_append_right _ (List.mem_singleton_self s.made)
  -- a node of the new list has the number and the address of one of the old list, and the client if it is not the last
  have node {n' : Node} (member : n' ∈ ((s.addNode a).startClient s.made p).nodes) :
      ∃ n ∈ (s.addNode a).nodes, n'.number = n.number ∧ n'.address = n.address ∧
        n'.client = if n.number = s.made then p else n.client := by
    obtain ⟨n, present, rfl⟩ := List.mem_map.1 member
    refine ⟨n, present, ?_⟩
    split <;> exact ⟨rfl, rfl, rfl⟩
  refine ⟨⟨fun c running => ?_, fun t armed => ?_, fun i waiting => ?_, fun k entered => ?_, fun t runs => ?_⟩,
    fun k member => ?_, fun n' member c running => ?_, fun n' member c running same => ?_, fun isTinyara c running => ?_, ?_⟩
  · show c.number ∈ ((s.addNode a).startClient s.made p).numbers
    rw [numbers]
    obtain earlier | new := List.mem_append.1 running
    · exact added.sound.clients c earlier
    · rw [List.mem_singleton.1 new]
      exact made
  · exact numbers ▸ added.sound.timers t armed
  · exact numbers ▸ added.sound.idles i waiting
  · exact numbers ▸ added.sound.entered k entered
  · show t.node ∈ ((s.addNode a).startClient s.made p).numbers
    rw [numbers]
    obtain earlier | new := List.mem_append.1 runs
    · exact added.sound.threads t earlier
    · rw [ours t new]
      exact made
  · exact added.below k (numbers ▸ member)
  · obtain ⟨n, present, -, address, -⟩ := node member
    rw [address]
    obtain earlier | new := List.mem_append.1 running
    · exact added.apart n present c earlier
    · rw [List.mem_singleton.1 new]
      exact (used_none unused').1 n present
  · obtain ⟨n, present, number, -, client⟩ := node member
    rw [client]
    rw [number] at same
    obtain earlier | new := List.mem_append.1 running
    · have old := inv.below _ (inv.sound.clients c earlier)
      rw [if_neg (by omega)]
      exact added.points n present c earlier same
    · rw [List.mem_singleton.1 new] at same ⊢
      rw [if_pos same]
  · obtain earlier | new := List.mem_append.1 running
    · obtain ⟨t, runs, number⟩ := inv.serviced isTinyara c earlier
      exact ⟨t, List.mem_append_left _ runs, number⟩
    · obtain ⟨t, runs, number⟩ := tinyara isTinyara
      rw [List.mem_singleton.1 new]
      exact ⟨t, List.mem_append_right _ runs, number⟩
  · cases port with
    | linux =>
      have absent : s.threads = [] := inv.ported
      show s.threads ++ extra = []
      rw [absent, linux rfl]
      rfl
    | tinyara => exact inv.ported

/-- A disconnect leaves a client that has no thread. -/
theorem disconnect_client (caller : Option Nat) (handle : Nat) {s : State} {c : Client} (running : c ∈ s.clients)
    (threadless : ∀ t ∈ s.threads, t.node ≠ c.number) : c ∈ (disconnect .tinyara caller handle s).1.clients := by
  unfold disconnect
  split
  · exact running
  · rename_i n _
    show c ∈ (State.join caller n.number _).clients
    unfold State.join
    split
    · rename_i joined
      obtain ⟨t, runs, same⟩ := List.any_eq_true.1 joined.2
      refine List.mem_filter.2 ⟨running, decide_eq_true fun own => threadless t runs ?_⟩
      rw [own]
      exact of_decide_eq_true same
    · exact running

/-- On Tinyara an error behind the start of the client leaves the client. -/
theorem abandoned_unsound {s : State} (inv : s.Inv .tinyara) (a p handle : Nat) :
    ¬ ((disconnect .tinyara none handle ((s.addNode a).startClient s.made p)).1.deleteNode s.made).Sound := by
  intro sound
  have running : (⟨s.made, p, fun _ => none⟩ : Client) ∈ ((s.addNode a).startClient s.made p).clients :=
    List.mem_append_right _ (List.mem_singleton_self _)
  have threadless : ∀ t ∈ s.threads, t.node ≠ s.made := fun t runs => (inv.below _ (inv.sound.threads t runs)).ne
  have listed := sound.clients _ (disconnect_client none handle running threadless)
  exact ((deleteNode_numbers s.made _).1 listed).2 rfl

/-- The end on Linux: without memory for the timer the started client stays. -/
theorem startTimer_exact {answers : Answers} {s s' : State} {o : Output} {a p : Nat} (inv : s.Inv .linux)
    (unused : s.used a = false) (unused' : (s.addNode a).used p = false)
    (answered : startTimer answers s.made a p ((s.addNode a).startClient s.made p) = .ok (s', o)) :
    (Clean ⟨s, .connect answers, s', o⟩ ↔ answers.starts .linux s) ∧ (answers.starts .linux s → s'.Inv .linux) := by
  have started := startClient_inv inv unused unused' [] (fun t member => by cases member) (fun _ => rfl)
    fun isTinyara => by cases isTinyara
  rw [List.append_nil] at started
  have started : State.Inv .linux ((s.addNode a).startClient s.made p) := started
  unfold startTimer at answered
  split at answered
  · cases answered
  · split at answered
    · rename_i unarmed
      have new : (⟨s.made, p, fun _ => none⟩ : Client) ∈ ((s.addNode a).startClient s.made p).clients :=
        List.mem_append_right _ (List.mem_singleton_self _)
      have missing : ((s.addNode a).startClient s.made p).byHandle p = none := by
        apply List.find?_eq_none.2
        intro n member same
        exact started.apart n member _ new (of_decide_eq_true same)
      cases answered
      have unstarts : ¬ answers.starts .linux s := fun starts => starts (Option.map_eq_none_iff.1 unarmed)
      refine ⟨iff_of_false (fun clean => ?_) unstarts, fun starts => absurd starts unstarts⟩
      have same := congrArg List.length (clean.2 answers .noMem rfl rfl)
      rw [disconnect, missing] at same
      dsimp only [State.startClient, State.update, State.addNode] at same
      rw [List.length_map, List.length_append, List.length_singleton] at same
      omega
    · rename_i t added
      cases answered
      have listed : s.made ∈ ((s.addNode a).startClient s.made p).numbers :=
        started.sound.clients _ (List.mem_append_right _ (List.mem_singleton_self _))
      have after := addTimeout_inv started listed added
      have starts : answers.starts .linux s := by
        obtain ⟨id, armed, -⟩ := Option.map_eq_some_iff.1 added
        intro unarmed
        exact absurd (armed.symm.trans unarmed) (Option.some_ne_none id)
      exact ⟨iff_of_true ⟨after.sound, fun _ _ _ failed => by cases failed⟩ starts, fun _ => after⟩

/-- The end on Tinyara: an error leaves the client without its node. -/
theorem startThread_exact {answers : Answers} {s s' : State} {o : Output} {a p : Nat} (inv : s.Inv .tinyara)
    (unused : s.used a = false) (unused' : (s.addNode a).used p = false)
    (answered : startThread answers s.made a p ((s.addNode a).startClient s.made p) = .ok (s', o)) :
    (Clean ⟨s, .connect answers, s', o⟩ ↔ answers.starts .tinyara s) ∧ (answers.starts .tinyara s → s'.Inv .tinyara) := by
  unfold startThread at answered
  split at answered
  · rename_i failed
    cases answered
    have unstarts : ¬ answers.starts .tinyara s := fun starts => absurd (starts.1.symm.trans failed) (by decide)
    exact ⟨iff_of_false (fun clean => abandoned_unsound inv a p p clean.1) unstarts, fun starts => absurd starts unstarts⟩
  · rename_i mutexInit
    split at answered
    · rename_i failed
      cases answered
      have unstarts : ¬ answers.starts .tinyara s := by
        rintro ⟨-, attrInit, attrSetStackSize, threadCreate⟩
        rw [attrInit, attrSetStackSize, threadCreate] at failed
        simp at failed
      exact ⟨iff_of_false (fun clean => abandoned_unsound inv a p a clean.1) unstarts, fun starts => absurd starts unstarts⟩
    · rename_i works
      cases answered
      have after := startClient_inv inv unused unused' [⟨s.made, false⟩] (fun t member => by rw [List.mem_singleton.1 member])
        (fun isLinux => by cases isLinux) fun _ => ⟨_, List.mem_singleton_self _, rfl⟩
      simp only [not_or, Bool.not_eq_false] at works mutexInit
      exact ⟨iff_of_true ⟨after.sound, fun _ _ _ failed => by cases failed⟩ ⟨mutexInit, works⟩, fun _ => after⟩

theorem connect_exact {port : Port} {answers : Answers} {s s' : State} {o : Output} (inv : s.Inv port)
    (answered : connect port answers s = .ok (s', o)) :
    (Clean ⟨s, .connect answers, s', o⟩ ↔ (Input.connect answers).Fits port s) ∧
      ((Input.connect answers).Fits port s → s'.Inv port) := by
  have kept (nodes : s'.nodes = s.nodes) (after : s'.Inv port) (fits : (Input.connect answers).Fits port s) :
      (Clean ⟨s, .connect answers, s', o⟩ ↔ (Input.connect answers).Fits port s) ∧
        ((Input.connect answers).Fits port s → s'.Inv port) :=
    ⟨iff_of_true ⟨after.sound, fun _ _ _ _ => nodes⟩ fits, fun _ => after⟩
  unfold connect at answered
  split at answered
  · rename_i missing
    cases answered
    exact kept rfl inv fun a p args => by rw [missing] at args; cases args
  · rename_i args
    split at answered
    · rename_i unallocated
      cases answered
      exact kept rfl inv fun a p _ node => by rw [unallocated] at node; cases node
    · rename_i a node
      obtain ⟨-, unused⟩ := answers.node.fresh _ _ node
      split at answered
      · rename_i unstarted
        cases answered
        have gone : (s.addNode a).deleteNode s.made = { s with made := s.made + 1 } := by
          unfold State.deleteNode State.addNode
          rw [List.filter_append, List.filter_eq_self.2]
          · simp
          · exact fun n member => decide_eq_true (inv.below _ (List.mem_map_of_mem member)).ne
        have after : State.Inv port { s with made := s.made + 1 } :=
          inv.of_frame rfl (sameClients s) inv.sound.timers inv.sound.idles inv.sound.entered inv.sound.threads (Nat.le_succ _)
            inv.serviced inv.ported
        rw [gone]
        refine ⟨iff_of_true ⟨after.sound, fun _ _ _ _ => rfl⟩ ?_, fun _ => after⟩
        intro a' p' _ node' client
        rw [node] at node'
        cases node'
        rw [unstarted] at client
        cases client
      · rename_i p client
        obtain ⟨-, unused'⟩ := answers.client.fresh _ _ client
        have only : (Input.connect answers).Fits port s ↔ answers.starts port s := by
          constructor
          · exact fun fits => fits a p (Bool.not_eq_false _ ▸ args) node client
          · exact fun starts _ _ _ _ _ => starts
        rw [only]
        cases port with
        | linux => exact startTimer_exact inv unused unused' answered
        | tinyara => exact startThread_exact inv unused unused' answered

/-- Only a loop module that is not there keeps a connect from returning. -/
theorem connect_returns_iff {port : Port} {answers : Answers} {s : State} :
    (∃ s' o, connect port answers s = .ok (s', o)) ↔
      ∀ a p, answers.args = true → answers.node.pick s.used = some a → answers.client.pick (s.addNode a).used = some p →
        port = .linux → answers.loopModule = true := by
  unfold connect
  split
  · rename_i missing
    refine iff_of_true ⟨_, _, rfl⟩ fun a p args => ?_
    rw [missing] at args
    cases args
  · rename_i args
    split
    · rename_i unallocated
      refine iff_of_true ⟨_, _, rfl⟩ fun a p _ node => ?_
      rw [unallocated] at node
      cases node
    · rename_i a node
      split
      · rename_i unstarted
        refine iff_of_true ⟨_, _, rfl⟩ fun a' p _ node' client => ?_
        rw [node] at node'
        cases node'
        rw [unstarted] at client
        cases client
      · rename_i p client
        cases port with
        | linux =>
          dsimp only [startTimer]
          split
          · rename_i missing
            refine iff_of_false (fun ⟨_, _, answered⟩ => by cases answered) fun there => ?_
            have := there a p (Bool.not_eq_false _ ▸ args) node client rfl
            rw [missing] at this
            cases this
          · rename_i there
            refine iff_of_true ?_ fun _ _ _ _ _ _ => Bool.not_eq_false _ ▸ there
            split <;> exact ⟨_, _, rfl⟩
        | tinyara =>
          refine iff_of_true ?_ fun _ _ _ _ _ linux => by cases linux
          dsimp only [startThread]
          split
          · exact ⟨_, _, rfl⟩
          · split <;> exact ⟨_, _, rfl⟩

/-! ## Every step, and every run -/

theorem step_exact {port : Port} {input : Input} {s s' : State} {o : Output} (inv : s.Inv port)
    (answered : step port input s = .ok (s', o)) :
    (Clean ⟨s, input, s', o⟩ ↔ input.Fits port s) ∧ (input.Fits port s → s'.Inv port) := by
  have quiet (after : s'.Inv port) (connects : ∀ answers, input ≠ .connect answers) (fits : input.Fits port s) :
      (Clean ⟨s, input, s', o⟩ ↔ input.Fits port s) ∧ (input.Fits port s → s'.Inv port) :=
    ⟨iff_of_true ⟨after.sound, fun answers _ same => absurd same (connects answers)⟩ fits, fun _ => after⟩
  cases input with
  | connect answers => exact connect_exact inv answered
  | disconnect caller handle =>
    obtain ⟨decided, after⟩ := disconnect_exact caller handle inv
    cases answered
    refine ⟨Iff.trans ?_ decided, fun fits => after (decided.2 fits)⟩
    exact and_iff_left fun answers _ same => by cases same
  | setCallback handle event userCallback userData =>
    obtain ⟨r, done, result⟩ := map_ok_iff.1 answered
    cases result
    exact quiet (setCallback_inv inv done) (fun _ same => by cases same) trivial
  | unsetCallback handle event =>
    obtain ⟨r, done, result⟩ := map_ok_iff.1 answered
    cases result
    exact quiet (unsetCallback_inv inv done) (fun _ same => by cases same) trivial
  | hook node h params idle => exact quiet ((step_between rfl answered).inv inv) (fun _ same => by cases same) trivial
  | timeout id result timer => exact quiet ((step_between rfl answered).inv inv) (fun _ same => by cases same) trivial
  | idle id => exact quiet ((step_between rfl answered).inv inv) (fun _ same => by cases same) trivial
  | returned => exact quiet ((step_between rfl answered).inv inv) (fun _ same => by cases same) trivial
  | thread node result => exact quiet ((step_between rfl answered).inv inv) (fun _ same => by cases same) trivial

theorem State.Inv.init (port : Port) : State.init.Inv port := by
  have empty {α : Type} (P : α → Prop) : ∀ x ∈ ([] : List α), P x := List.forall_mem_nil P
  refine ⟨⟨empty _, empty _, empty _, empty _, empty _⟩, empty _, empty _, empty _, fun _ => empty _, ?_⟩
  cases port with
  | linux => rfl
  | tinyara => exact ⟨rfl, rfl, rfl⟩

/-- **Connect and disconnect.** On both ports and in every run, a connect that returns an error leaves
the list of nodes as it was, and after every step the clients that run are those of nodes in the
list and nothing refers to a node that is not, if and only if every connect and disconnect fits. -/
theorem connect_iff (port : Port) {cs : List (Call Input State Output)} {s : State} (run : Run (step port) .init cs s) :
    (∀ c ∈ cs, Clean c) ↔ ∀ c ∈ cs, c.input.Fits port c.before := by
  refine Run.fits_iff (I := State.Inv port) (P := Clean) ?_ ?_ run (.init port)
  · intro e t t' o inv answered
    exact (step_exact inv answered).1
  · intro e t t' o inv fits answered
    exact (step_exact inv answered).2 fits

/-- A client fails while it is serviced and is then disconnected; another one fails to start. -/
theorem connect_serviceFails :
    ∃ cs s, Run (step .linux) .init cs s ∧ cs.length = 4 ∧ ((∀ c ∈ cs, Clean c) ↔ ∀ c ∈ cs, c.input.Fits .linux c.before) := by
  have computed : execTest (step .linux)
      [.connect (.working 1 2 3), .timeout 3 .error (.only 4), .disconnect none 1, .connect { Answers.working 1 2 3 with client := .only 0 }]
      .init (fun _ => true) = true := by
    decide
  obtain ⟨cs, s, run, inputs, -⟩ := execTest_run computed
  exact ⟨cs, s, run, by simpa using congrArg List.length inputs, connect_iff .linux run⟩

/-- An armed timer of a node that is not in the list. -/
def State.dangling (s : State) : Bool := s.timers.any fun t => !s.numbers.contains t.node

/-- A disconnect leaves the timer armed. -/
theorem disconnect_timerArmed :
    ¬ ∀ (port : Port) (cs : List (Call Input State Output)) (s : State), Run (step port) .init cs s → ∀ c ∈ cs, Clean c := by
  intro clean
  have computed : execTest (step .linux) [.connect (.working 1 2 3), .disconnect none 1] .init
      (fun cs => cs.any fun c => c.after.dangling) = true := by
    decide
  obtain ⟨cs, s, run, -, dangling⟩ := execTest_run computed
  obtain ⟨c, member, dangles⟩ := List.any_eq_true.1 dangling
  obtain ⟨t, armed, unlisted⟩ := List.any_eq_true.1 dangles
  have listed := (clean .linux cs s run c member).1.timers t armed
  rw [Bool.not_eq_true', List.contains_eq_mem, decide_eq_false_iff_not] at unlisted
  exact unlisted listed

end ArtikSdk.Lwm2m
