import ArtikSdk.Lib.Run
import ArtikSdk.Mqtt.Client

/-!
# MQTT: a create that fails

`mqtt_create_client` links its node before anything else. Whatever fails behind that either
frees the node in the list, or runs into the loop module that the node does not have yet.
-/

namespace ArtikSdk.Mqtt
open Lib

/-- Every node in the list is allocated. -/
def State.Linked (s : State) : Prop := ∀ n ∈ s.requestedNode, n.freed = false

/-- `mosquitto_new` and the calls that the configuration asks for work, but for the TLS files. -/
structure CreateAnswers.Works (answers : CreateAnswers) (config : Config) : Prop where
  mosquittoNew : answers.mosquittoNew = true
  usernamePwSet : config.userName = true → config.pwd = true → answers.usernamePwSet = true
  willSet : config.willMsg = true → answers.willSet = true
  tlsPskSet : config.tls = none → config.psk = true → answers.tlsPskSet = true

/-- What a create from `s` is to do: it returns, leaves allocated nodes, and after a failure those
of before. -/
def Cleanly (s : State) (answer : Except Fault (State × Output)) : Prop :=
  ∃ s' o, answer = .ok (s', o) ∧ s'.Linked ∧ (o = .failed → s'.requestedNode = s.requestedNode)

/-- The list with the new node at its end. -/
def State.linked (a : Nat) (config : Config) (s : State) : State :=
  { s with requestedNode := s.requestedNode ++ [⟨a, config, false, false, false⟩] }

theorem add_linked {s : State} (linked : s.Linked) (node : Malloc) (config : Config) :
    s.add node config = .ok ((node.pick s.used).map fun a => (a, s.linked a config)) := by
  unfold State.add
  rw [if_neg]
  · rfl
  · rw [List.any_eq_true]
    rintro ⟨n, member, freed⟩
    rw [linked n member] at freed
    cases freed

theorem unused_address {s : State} (linked : s.Linked) {a : Nat} (unused : s.used a = false) : ∀ n ∈ s.requestedNode, n.address ≠ a := by
  intro n member same
  unfold State.used at unused
  rw [List.any_eq_false] at unused
  apply unused n member
  rw [linked n member, decide_eq_true same]
  rfl

/-- A look-up passes the nodes with other handles. -/
theorem find_append {handle : Nat} {ns ms : List Client} (allocated : ∀ n ∈ ns, n.freed = false) (others : ∀ n ∈ ns, n.address ≠ handle) :
    find handle (ns ++ ms) = find handle ms := by
  induction ns with
  | nil => rfl
  | cons n ns ih =>
    rw [List.forall_mem_cons] at allocated others
    rw [List.cons_append, find, allocated.1, if_neg Bool.false_ne_true, if_neg others.1]
    exact ih allocated.2 others.2

theorem byHandle_linked {s : State} (linked : s.Linked) {node : Malloc} {a : Nat} (picked : node.pick s.used = some a) (config : Config) :
    (s.linked a config).byHandle a = .ok (some ⟨a, config, false, false, false⟩) := by
  obtain ⟨nonzero, unused⟩ := node.fresh _ _ picked
  unfold State.byHandle
  rw [if_neg nonzero]
  refine (find_append linked (unused_address linked unused)).trans ?_
  rw [find, if_neg Bool.false_ne_true, if_pos rfl]

/-- Every clean-up that destroys the client dereferences its loop module. -/
theorem abandon_faults {s : State} (linked : s.Linked) {answers : CreateAnswers} {a : Nat} (picked : answers.node.pick s.used = some a)
    (config : Config) : ¬ Cleanly s (abandon a answers (s.linked a config)) := by
  rintro ⟨s', o, answered, -⟩
  unfold abandon mqttDestroyClient at answered
  rw [byHandle_linked linked picked] at answered
  cases answered

theorem writeFiles_requestedNode (tls : Tls) (answers : TlsAnswers) (fs : List File) (s : State) :
    (writeFiles tls answers fs s).1.requestedNode = s.requestedNode := by
  induction fs generalizing s with
  | nil => rfl
  | cons f fs ih =>
    rw [writeFiles]
    split
    · exact ih s
    · split
      · rfl
      · exact ih _

theorem tlsWrite_requestedNode (tls : Tls) (answers : TlsAnswers) (s : State) :
    (tlsWriteTempCertFiles tls answers s).1.requestedNode = s.requestedNode := by
  unfold tlsWriteTempCertFiles
  dsimp only
  split <;> exact writeFiles_requestedNode tls answers _ s

/-- A node that is stored into stays allocated. -/
theorem update_linked {s : State} (linked : s.Linked) {a : Nat} {f : Client → Client} (keeps : ∀ n, (f n).freed = n.freed) :
    (s.update a f).Linked := by
  intro n' member
  obtain ⟨n, present, rfl⟩ := List.mem_map.1 member
  split
  · rw [keeps]
    exact linked n present
  · exact linked n present

theorem linked_linked {s : State} (linked : s.Linked) (a : Nat) (config : Config) : (s.linked a config).Linked := by
  intro n member
  obtain old | new := List.mem_append.1 member
  · exact linked n old
  · rw [List.mem_singleton.1 new]

/-- Behind the will only the pre-shared key can fail. -/
theorem secure_clean_iff {s : State} (linked : s.Linked) {answers : CreateAnswers} {a : Nat} (picked : answers.node.pick s.used = some a)
    (config : Config) :
    Cleanly s (secure a config answers (s.linked a config)) ↔ (config.tls = none → config.psk = true → answers.tlsPskSet = true) := by
  unfold secure
  cases tls : config.tls with
  | some tls =>
    refine iff_of_true ⟨_, _, rfl, ?_, fun failed => by cases failed⟩ fun absent => by cases absent
    refine update_linked ?_ fun n => rfl
    intro n member
    rw [tlsWrite_requestedNode] at member
    exact linked_linked linked a config n member
  | none =>
    dsimp only
    split
    · rename_i fails
      rw [Bool.and_eq_true, Bool.not_eq_true'] at fails
      exact iff_of_false (abandon_faults linked picked config) fun works => absurd (works rfl fails.1) (Bool.eq_false_iff.1 fails.2)
    · rename_i works
      rw [Bool.and_eq_true, Bool.not_eq_true', not_and, Bool.not_eq_false] at works
      refine iff_of_true ⟨_, _, rfl, ?_, fun failed => by cases failed⟩ fun _ => works
      exact update_linked (linked_linked linked a config) fun n => rfl

/-- **Create.** From a list of allocated nodes, with every configuration and outcome: a create returns,
leaves only allocated nodes in the list, and leaves the list as it was when it fails, if and only
if its node cannot be allocated, or `mosquitto_new` and what is asked of mosquitto works. -/
theorem create_iff {s : State} (linked : s.Linked) (config : Config) (answers : CreateAnswers) :
    Cleanly s (mqttCreateClient config answers s) ↔ answers.node.pick s.used = none ∨ answers.Works config := by
  unfold mqttCreateClient
  rw [add_linked linked]
  cases picked : answers.node.pick s.used with
  | none => exact iff_of_true ⟨s, .failed, rfl, linked, fun _ => rfl⟩ (.inl rfl)
  | some a =>
    have faults := abandon_faults linked picked config
    rw [or_iff_right (Option.some_ne_none a)]
    dsimp only [bind, Except.bind, Option.map]
    by_cases mosquittoNew : answers.mosquittoNew = true
    · rw [if_neg (by rw [mosquittoNew]; decide)]
      split
      · rename_i fails
        rw [Bool.and_eq_true, Bool.and_eq_true, Bool.not_eq_true'] at fails
        obtain ⟨⟨userName, pwd⟩, fails⟩ := fails
        exact iff_of_false faults fun works => absurd (works.usernamePwSet userName pwd) (Bool.eq_false_iff.1 fails)
      · rename_i usernamePwSet
        rw [Bool.and_eq_true, Bool.and_eq_true, Bool.not_eq_true', not_and, Bool.not_eq_false, and_imp] at usernamePwSet
        split
        · rename_i fails
          rw [Bool.and_eq_true, Bool.not_eq_true'] at fails
          exact iff_of_false faults fun works => absurd (works.willSet fails.1) (Bool.eq_false_iff.1 fails.2)
        · rename_i willSet
          rw [Bool.and_eq_true, Bool.not_eq_true', not_and, Bool.not_eq_false] at willSet
          rw [secure_clean_iff linked picked]
          exact ⟨fun tlsPskSet => ⟨mosquittoNew, usernamePwSet, willSet, tlsPskSet⟩, fun works => works.tlsPskSet⟩
    · rw [if_pos (Bool.eq_false_iff.2 mosquittoNew)]
      refine iff_of_false ?_ fun works => mosquittoNew works.mosquittoNew
      -- the node that was freed is still linked
      rintro ⟨s', o, answered, after, -⟩
      cases answered
      have freed := after ⟨a, config, false, false, true⟩ (List.mem_map.2
        ⟨⟨a, config, false, false, false⟩, List.mem_append_right _ (List.mem_singleton_self _), if_pos rfl⟩)
      cases freed

/-- A configuration with a will and nothing else. -/
def withWill : Config := ⟨false, false, true, none, false⟩

/-- Every step works but `mosquitto_will_set`, or `mosquitto_new`. -/
def CreateAnswers.only (mosquittoNew willSet : Bool) : CreateAnswers :=
  ⟨.only 1, mosquittoNew, true, willSet, ⟨fun _ => true, fun _ => 0, true, fun _ => true⟩, true, true⟩

theorem create_withWill :
    Cleanly (.boot fun _ => none) (mqttCreateClient withWill (.only true true) (.boot fun _ => none)) :=
  (create_iff (s := .boot fun _ => none) (fun n member => by cases member) withWill (.only true true)).2
    (.inr ⟨rfl, fun userName => (by cases userName), fun _ => rfl, fun _ psk => by cases psk⟩)

/-- Where `mosquitto_new` fails, the node is freed and stays in the list; where the will is refused,
the clean-up dereferences null. -/
theorem create_notClean :
    ¬ Cleanly (.boot fun _ => none) (mqttCreateClient withWill (.only false true) (.boot fun _ => none)) ∧
      ¬ Cleanly (.boot fun _ => none) (mqttCreateClient withWill (.only true false) (.boot fun _ => none)) := by
  constructor
  · rintro ⟨s', o, answered, after, -⟩
    cases answered
    cases after _ (List.mem_singleton_self _)
  · rintro ⟨s', o, answered, -⟩
    cases answered

end ArtikSdk.Mqtt
