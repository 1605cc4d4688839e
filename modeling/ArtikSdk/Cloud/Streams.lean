import ArtikSdk.Lib.Run
import ArtikSdk.Cloud.Websocket

/-!
# Cloud websockets: the two lists

A stream has a node in the list of the cloud module and one in that of the websocket module, and
each call keeps it so. An open adds both only if every step behind `websocket_request` works;
nothing that was made is taken back but the cloud module's node.
-/

namespace ArtikSdk.Cloud
open Lib Lib.Printf

/-- The handles of the cloud module's nodes are distinct, and each is one of the websocket module's. -/
structure State.Paired (s : State) : Prop where
  addresses : (s.websocket.map WebsocketNode.address).Nodup
  handles : (s.cloud.map CloudNode.handle).Nodup
  belongs : ∀ n ∈ s.cloud, n.handle ∈ s.websocket.map WebsocketNode.address

theorem State.Paired.init : State.init.Paired := ⟨List.nodup_nil, List.nodup_nil, fun n member => by cases member⟩

/-! ## Finding -/

section Lists

variable {α : Type} {f : α → Nat} {xs : List α} {k : Nat}

theorem find_of_mem (present : k ∈ xs.map f) : ∃ x, xs.find? (fun x => f x = k) = some x ∧ f x = k := by
  obtain ⟨x, member, same⟩ := List.mem_map.1 present
  cases found : xs.find? fun x => f x = k with
  | none =>
    rw [List.find?_eq_none] at found
    exact absurd (decide_eq_true same) (found x member)
  | some y => exact ⟨y, rfl, of_decide_eq_true (List.find?_some (p := fun x => f x = k) found)⟩

theorem mem_of_find {x : α} (found : xs.find? (fun x => f x = k) = some x) : x ∈ xs ∧ f x = k :=
  ⟨List.mem_of_find?_eq_some found, of_decide_eq_true (List.find?_some (p := fun x => f x = k) found)⟩

/-- Where keys are distinct, an element is erased with its key. -/
theorem map_eraseP (xs : List α) (k : Nat) : (xs.eraseP fun x => f x = k).map f = (xs.map f).erase k := by
  rw [List.erase_eq_eraseP', List.eraseP_map]
  congr 2

/-- A new key at the end is the one that is erased. -/
theorem eraseP_append_new {x : α} (absent : k ∉ xs.map f) (same : f x = k) : (xs ++ [x]).eraseP (fun x => f x = k) = xs := by
  have others : ∀ y ∈ xs, ¬ decide (f y = k) = true := by
    intro y member equal
    exact absent (List.mem_map.2 ⟨y, member, of_decide_eq_true equal⟩)
  rw [List.eraseP_append_right _ others, List.eraseP_cons_of_pos (p := fun x => decide (f x = k)) (decide_eq_true same), List.append_nil]

theorem filter_key_length (distinct : (xs.map f).Nodup) (present : k ∈ xs.map f) : (xs.filter fun x => f x = k).length = 1 := by
  rw [← List.countP_eq_length_filter]
  calc xs.countP (fun x => f x = k) = (xs.map f).count k := by
        rw [List.count, List.countP_map]
        congr 1
    _ = 1 := List.count_eq_one_of_mem distinct present

end Lists

theorem unused {s : State} {m : Malloc} {a : Nat} (picked : m.pick s.used = some a) :
    a ≠ 0 ∧ a ∉ s.websocket.map WebsocketNode.address := by
  obtain ⟨nonzero, free⟩ := m.fresh _ _ picked
  refine ⟨nonzero, fun present => ?_⟩
  obtain ⟨n, member, same⟩ := List.mem_map.1 present
  unfold State.used at free
  rw [Bool.or_eq_false_iff, List.any_eq_false, List.any_eq_false] at free
  exact free.2 n member (decide_eq_true same)

/-! ## Opening -/

/-- The websocket list with a new node at its end. -/
def State.requested (h : Nat) (useSe opened : Bool) (s : State) : State :=
  { s with websocket := s.websocket ++ [⟨h, Cloud.uri useSe, useSe, opened⟩] }

/-- The node of a stream that was opened for a device with a token. -/
def cloudNode (a h : Nat) (given : List Char × List Char) (answers : OpenAnswers) : CloudNode :=
  ⟨a, h, (registration given).held, if answers.accessToken then some given.2 else none,
    if answers.deviceId then some given.1 else none, ⟨0, 0⟩, given⟩

/-- The two lists with a new node at the end of each. -/
def State.streaming (a h : Nat) (useSe : Bool) (given : List Char × List Char) (answers : OpenAnswers) (s : State) : State :=
  { s.requested h useSe true with cloud := s.cloud ++ [cloudNode a h given answers] }

/-- How a `websocket_open_stream` from `s` ends. -/
inductive Opens (accessToken deviceId : Option (List Char)) (answers : OpenAnswers) (s : State) : State → Output → Prop where
  | unsupported (module : answers.websocket = .null) : Opens accessToken deviceId answers s s (.returns .notSupported [.request .null])
  | refused (module : answers.websocket = .module) (picked : answers.request.pick s.used = none) :
      Opens accessToken deviceId answers s s (.returns .noMem [.request .module, .release])
  | shut {h : Nat} {useSe : Bool} (module : answers.websocket = .module) (picked : answers.request.pick s.used = some h)
      (opens : answers.opens ≠ .ok) :
      Opens accessToken deviceId answers s (s.requested h useSe false) (opened .websocketError [.request .module, .release] h)
  | unlisted {h : Nat} {useSe : Bool} (module : answers.websocket = .module) (picked : answers.request.pick s.used = some h)
      (opens : answers.opens = .ok) (node : answers.node.pick (s.requested h useSe true).used = none) :
      Opens accessToken deviceId answers s (s.requested h useSe true) (opened .noMem [.request .module] h)
  | unset {h a : Nat} {useSe : Bool} {given : List Char × List Char} (module : answers.websocket = .module)
      (picked : answers.request.pick s.used = some h) (opens : answers.opens = .ok)
      (node : answers.node.pick (s.requested h useSe true).used = some a) (sets : answers.sets ≠ .ok) :
      Opens accessToken deviceId answers s ((s.streaming a h useSe given answers).deleteCloud h)
        (opened answers.sets [.request .module, .release] h)
  | streams {h a : Nat} {useSe : Bool} {given : List Char × List Char} (module : answers.websocket = .module)
      (picked : answers.request.pick s.used = some h) (opens : answers.opens = .ok)
      (node : answers.node.pick (s.requested h useSe true).used = some a) (strings : deviceId = some given.1 ∧ accessToken = some given.2)
      (sets : answers.sets = .ok) :
      Opens accessToken deviceId answers s (s.streaming a h useSe given answers) (opened .ok [.request .module, .release] h)

variable {s s' : State} {o : Output} {accessToken deviceId : Option (List Char)} {answers : OpenAnswers}

/-- The node that was just requested is found. -/
theorem requested_found {h : Nat} (nonzero : h ≠ 0) (useSe opened : Bool) :
    ∃ n, (s.requested h useSe opened).websocketByHandle h = some n := by
  unfold State.websocketByHandle
  rw [if_neg nonzero]
  have present : h ∈ (s.requested h useSe opened).websocket.map WebsocketNode.address :=
    List.mem_map.2 ⟨⟨h, Cloud.uri useSe, useSe, opened⟩, List.mem_append_right _ (List.mem_singleton_self _), rfl⟩
  obtain ⟨n, found, -⟩ := find_of_mem present
  exact ⟨n, found⟩

theorem requested_used (h : Nat) (useSe opened : Bool) (s : State) :
    (s.requested h useSe opened).used = fun a => s.used a || decide (h = a) := by
  funext a
  unfold State.used State.requested
  rw [List.any_append, List.any_cons, List.any_nil, Bool.or_false, Bool.or_assoc]

/-- The stream of the node that was just requested is opened. -/
theorem requested_opens {h : Nat} (picked : answers.request.pick s.used = some h) (useSe : Bool) :
    (s.requested h useSe false).updateWebsocket h (fun n => { n with opened := true }) = s.requested h useSe true := by
  obtain ⟨-, absent⟩ := unused picked
  have others : s.websocket.map (fun n => if n.address = h then { n with opened := true } else n) = s.websocket := by
    refine (List.map_congr_left fun n member => ?_).trans (List.map_id _)
    exact if_neg fun same => absent (List.mem_map.2 ⟨n, member, same⟩)
  unfold State.updateWebsocket State.requested
  dsimp only
  rw [List.map_append, others, List.map_singleton, if_pos rfl]

/-- The callback is set on the node that was just requested. -/
theorem registerStream_eq {a h : Nat} (nonzero : h ≠ 0) (useSe : Bool) (given : List Char × List Char) :
    registerStream a h given answers (s.requested h useSe true) =
      (if answers.sets ≠ .ok then (s.streaming a h useSe given answers).deleteCloud h else s.streaming a h useSe given answers,
        opened answers.sets [.request .module, .release] h) := by
  obtain ⟨n, found⟩ := requested_found (s := s) nonzero useSe true
  have sets : artikWebsocketSetCallback h answers.sets (s.streaming a h useSe given answers) = answers.sets := by
    unfold artikWebsocketSetCallback
    have here : (s.streaming a h useSe given answers).websocketByHandle h = some n := found
    rw [here]
  calc registerStream a h given answers (s.requested h useSe true)
      = (if artikWebsocketSetCallback h answers.sets (s.streaming a h useSe given answers) ≠ .ok
            then (s.streaming a h useSe given answers).deleteCloud h else s.streaming a h useSe given answers,
          opened (artikWebsocketSetCallback h answers.sets (s.streaming a h useSe given answers)) [.request .module, .release] h) := rfl
    _ = _ := by rw [sets]

theorem openStream_opens {sslConfig : Option Bool}
    (answered : websocketOpenStream accessToken deviceId sslConfig answers s = .ok (s', o)) : Opens accessToken deviceId answers s s' o := by
  unfold websocketOpenStream at answered
  split at answered
  · cases answered
  · rename_i useSe
    split at answered
    · rename_i module
      cases answered
      exact .unsupported module
    · cases answered
    · rename_i module
      split at answered
      · cases answered
      · unfold artikWebsocketRequest at answered
        cases picked : answers.request.pick s.used with
        | none =>
          rw [picked] at answered
          cases answered
          exact .refused module picked
        | some h =>
          rw [picked] at answered
          change openRequested h accessToken deviceId answers (s.requested h useSe false) = _ at answered
          unfold openRequested artikWebsocketOpenStream at answered
          obtain ⟨n, found⟩ := requested_found (s := s) (unused picked).1 useSe false
          rw [found] at answered
          dsimp only at answered
          by_cases opens : answers.opens = .ok
          · rw [if_neg (not_not_intro opens), requested_opens picked useSe, if_neg (not_not_intro rfl)] at answered
            cases node : answers.node.pick (s.requested h useSe true).used with
            | none =>
              rw [node] at answered
              cases answered
              exact .unlisted module picked opens node
            | some a =>
              rw [node] at answered
              dsimp only at answered
              split at answered
              · rename_i device token
                rw [registerStream_eq (unused picked).1 useSe] at answered
                by_cases sets : answers.sets = .ok
                · rw [if_neg (not_not_intro sets), sets] at answered
                  cases answered
                  exact .streams module picked opens node ⟨rfl, rfl⟩ sets
                · rw [if_pos sets] at answered
                  cases answered
                  exact .unset module picked opens node sets
              · cases answered
          · have fails : ArtikError.websocketError ≠ .ok := by decide
            rw [if_pos opens] at answered
            dsimp only at answered
            rw [if_pos fails] at answered
            cases answered
            exact .shut module picked opens

/-- A handle that was just given out is new in both lists. -/
theorem new_handle (paired : s.Paired) {h : Nat} (picked : answers.request.pick s.used = some h) :
    h ∉ s.cloud.map CloudNode.handle := by
  intro present
  obtain ⟨n, member, same⟩ := List.mem_map.1 present
  exact (unused picked).2 (same ▸ paired.belongs n member)

/-- What is taken back after the callback could not be set: the cloud module's node. -/
theorem unset_eq (paired : s.Paired) {h a : Nat} (picked : answers.request.pick s.used = some h) (useSe : Bool)
    (given : List Char × List Char) : (s.streaming a h useSe given answers).deleteCloud h = s.requested h useSe true := by
  unfold State.deleteCloud State.streaming
  dsimp only
  rw [eraseP_append_new (f := CloudNode.handle) (new_handle paired picked) rfl]
  rfl

/-! ## Closing -/

/-- How a `websocket_close_stream` from `s` ends. -/
inductive Closes (handle : Nat) (websocket : ModuleAnswer) (closes : ArtikError) (s : State) : State → Output → Prop where
  | unsupported (module : websocket = .null) : Closes handle websocket closes s s (.returns .notSupported [.request .null])
  | unknown (module : websocket ≠ .null) (absent : s.cloudByHandle handle = none) :
      Closes handle websocket closes s s (.returns .badArgs [.request websocket])
  | closes {n : CloudNode} (module : websocket = .module) (found : s.cloudByHandle handle = some n) :
      Closes handle websocket closes s (artikWebsocketCloseStream handle closes (s.deleteCloud handle)).1
        (.returns (artikWebsocketCloseStream handle closes (s.deleteCloud handle)).2 [.request .module, .release])

theorem closeStream_closes {handle : Nat} {websocket : ModuleAnswer} {closes : ArtikError}
    (answered : websocketCloseStream handle websocket closes s = .ok (s', o)) : Closes handle websocket closes s s' o := by
  unfold websocketCloseStream at answered
  split at answered
  · rename_i module
    cases answered
    exact .unsupported module
  · rename_i module
    split at answered
    · rename_i absent
      cases answered
      exact .unknown module absent
    · rename_i n found
      split at answered
      · cases answered
      · rename_i granted
        cases answered
        exact .closes (not_not.1 granted) found

/-- The websocket module knows the handle of a stream. -/
theorem websocket_known (paired : s.Paired) {handle : Nat} {n : CloudNode} (found : s.cloudByHandle handle = some n) :
    n ∈ s.cloud ∧ n.handle = handle ∧ ∃ w, s.websocketByHandle handle = some w := by
  unfold State.cloudByHandle at found
  split at found
  · cases found
  · rename_i nonzero
    obtain ⟨member, same⟩ := mem_of_find (f := CloudNode.handle) found
    obtain ⟨w, present, -⟩ := find_of_mem (f := WebsocketNode.address) (same ▸ paired.belongs n member)
    refine ⟨member, same, w, ?_⟩
    unfold State.websocketByHandle
    rw [if_neg nonzero]
    exact present

/-- Where the lists belong together, both nodes are removed. -/
theorem close_removes (paired : s.Paired) {handle : Nat} {n : CloudNode} (found : s.cloudByHandle handle = some n) (closes : ArtikError) :
    (artikWebsocketCloseStream handle closes (s.deleteCloud handle)).1 =
      ⟨s.cloud.eraseP fun n => n.handle = handle, s.websocket.eraseP fun n => n.address = handle⟩ := by
  obtain ⟨-, -, w, known⟩ := websocket_known paired found
  have known : (s.deleteCloud handle).websocketByHandle handle = some w := known
  unfold artikWebsocketCloseStream
  rw [known]
  rfl

/-! ## Every call -/

/-- A node but for its callback. -/
def CloudNode.quiet (n : CloudNode) : CloudNode := { n with callback := ⟨0, 0⟩ }

/-- The other calls leave both lists, but for the callbacks of the cloud module's nodes. -/
theorem step_quiet {input : Input} (answered : step input s = .ok (s', o))
    (notOpen : ∀ accessToken deviceId sslConfig answers, input ≠ .openStream accessToken deviceId sslConfig answers)
    (notClose : ∀ handle websocket closes, input ≠ .closeStream handle websocket closes) :
    s'.cloud.map CloudNode.quiet = s.cloud.map CloudNode.quiet ∧ s'.websocket = s.websocket := by
  unfold step at answered
  split at answered
  · rename_i call answers
    obtain ⟨o', -, same⟩ := bind_ok_iff.1 answered
    cases same
    exact ⟨rfl, rfl⟩
  · exact absurd rfl (notOpen _ _ _ _)
  · unfold Cloud.websocketSendMessage at answered
    repeat' split at answered
    all_goals cases answered
    all_goals exact ⟨rfl, rfl⟩
  · unfold websocketSetReceiveCallback at answered
    split at answered
    all_goals cases answered
    all_goals exact ⟨rfl, rfl⟩
  · rename_i handle callback
    obtain ⟨rfl, -⟩ := Prod.mk.inj (Except.ok.inj answered)
    split
    · exact ⟨rfl, rfl⟩
    · refine ⟨?_, rfl⟩
      dsimp only
      rw [List.map_map]
      refine List.map_congr_left fun n _ => ?_
      rw [Function.comp_apply]
      split <;> rfl
  · exact absurd rfl (notClose _ _ _)
  · unfold websocketConnectionCallback at answered
    repeat' split at answered
    all_goals cases answered
    all_goals exact ⟨rfl, rfl⟩

theorem requested_paired (paired : s.Paired) {h : Nat} (picked : answers.request.pick s.used = some h) (useSe opened : Bool) :
    (s.requested h useSe opened).Paired where
  addresses := by
    unfold State.requested
    rw [List.map_append, List.map_singleton, ← List.concat_eq_append]
    exact paired.addresses.concat (unused picked).2
  handles := paired.handles
  belongs n member := by
    unfold State.requested
    rw [List.map_append]
    exact List.mem_append_left _ (paired.belongs n member)

theorem streaming_paired (paired : s.Paired) {h : Nat} (picked : answers.request.pick s.used = some h) (a : Nat) (useSe : Bool)
    (given : List Char × List Char) : (s.streaming a h useSe given answers).Paired where
  addresses := (requested_paired paired picked useSe true).addresses
  handles := by
    unfold State.streaming
    rw [List.map_append, List.map_singleton, ← List.concat_eq_append]
    exact paired.handles.concat (new_handle paired picked)
  belongs n member := by
    obtain old | new := List.mem_append.1 member
    · exact (requested_paired paired picked useSe true).belongs n old
    · rw [List.mem_singleton.1 new]
      exact List.mem_map.2 ⟨⟨h, Cloud.uri useSe, useSe, true⟩, List.mem_append_right _ (List.mem_singleton_self _), rfl⟩

theorem closed_paired (paired : s.Paired) (handle : Nat) :
    State.Paired ⟨s.cloud.eraseP fun n => n.handle = handle, s.websocket.eraseP fun n => n.address = handle⟩ where
  addresses := by
    rw [map_eraseP]
    exact paired.addresses.erase _
  handles := by
    rw [map_eraseP]
    exact paired.handles.erase _
  belongs n member := by
    have left : n.handle ∈ (s.cloud.map CloudNode.handle).erase handle := by
      rw [← map_eraseP]
      exact List.mem_map.2 ⟨n, member, rfl⟩
    rw [map_eraseP]
    rw [paired.handles.mem_erase_iff] at left
    exact (List.mem_erase_of_ne left.1).2 (paired.belongs n (List.mem_of_mem_eraseP member))

/-- Every call keeps the two lists together. -/
theorem step_paired (paired : s.Paired) {input : Input} (answered : step input s = .ok (s', o)) : s'.Paired := by
  by_cases opens : ∃ accessToken deviceId sslConfig answers, input = .openStream accessToken deviceId sslConfig answers
  · obtain ⟨accessToken, deviceId, sslConfig, answers, rfl⟩ := opens
    obtain - | - | ⟨-, picked, -⟩ | ⟨-, picked, -, -⟩ | ⟨-, picked, -, -, -⟩ | ⟨-, picked, -, -, -, -⟩ := openStream_opens answered
    · exact paired
    · exact paired
    · exact requested_paired paired picked _ _
    · exact requested_paired paired picked _ _
    · rw [unset_eq paired picked]
      exact requested_paired paired picked _ _
    · exact streaming_paired paired picked _ _ _
  · by_cases closes : ∃ handle websocket closes, input = .closeStream handle websocket closes
    · obtain ⟨handle, websocket, closes, rfl⟩ := closes
      obtain - | ⟨-, -⟩ | ⟨-, found⟩ := closeStream_closes answered
      · exact paired
      · exact paired
      · rw [close_removes paired found]
        exact closed_paired paired handle
    · obtain ⟨quiet, websocket⟩ := step_quiet answered (fun _ _ _ _ same => opens ⟨_, _, _, _, same⟩)
        (fun _ _ _ same => closes ⟨_, _, _, same⟩)
      have handles : s'.cloud.map CloudNode.handle = s.cloud.map CloudNode.handle := by
        have same := congrArg (List.map CloudNode.handle) quiet
        rw [List.map_map, List.map_map] at same
        exact same
      refine ⟨websocket ▸ paired.addresses, handles ▸ paired.handles, fun n member => ?_⟩
      obtain ⟨m, present, same⟩ := List.mem_map.1 (handles ▸ List.mem_map.2 ⟨n, member, rfl⟩ : n.handle ∈ s.cloud.map CloudNode.handle)
      rw [websocket, ← same]
      exact paired.belongs m present

/-! ## All or nothing -/

/-- How many nodes of the two lists belong to a handle. -/
def State.nodes (h : Nat) (s : State) : Nat × Nat :=
  ((s.cloud.filter fun n => n.handle = h).length, (s.websocket.filter fun n => n.address = h).length)

/-- What the two calls are to do: an open that fails leaves both lists, with their streams, as they were;
one that succeeds leaves one node in each for its handle, and a close of a handle that the cloud module
knows leaves none. -/
def AllOrNothing (c : Call Input State Output) : Prop :=
  match c.input with
  | .openStream .. =>
    (c.output.ret ≠ some .ok → c.after.cloud = c.before.cloud ∧ c.after.websocket = c.before.websocket) ∧
      (c.output.ret = some .ok → ∃ h, c.output.handle = some h ∧ c.after.nodes h = (1, 1))
  | .closeStream handle _ _ => c.before.cloudByHandle handle ≠ none → c.after.nodes handle = (0, 0)
  | _ => True

/-- Behind `websocket_request`, which gave out `h`, every step of an open from `s` works. -/
structure OpenAnswers.Works (answers : OpenAnswers) (h : Nat) (s : State) : Prop where
  opens : answers.opens = .ok
  node : answers.node.pick (fun a => s.used a || decide (h = a)) ≠ none
  sets : answers.sets = .ok

/-- An open that streams had every step working. -/
theorem OpenAnswers.Works.of_streams {h a : Nat} {useSe : Bool} (opens : answers.opens = .ok)
    (node : answers.node.pick (s.requested h useSe true).used = some a) (sets : answers.sets = .ok) : answers.Works h s := by
  refine ⟨opens, fun none => ?_, sets⟩
  rw [← requested_used h useSe true, node] at none
  cases none

/-- An open that gets a websocket handle goes through, and a close of a stream gets the websocket module. -/
def Lasts (input : Input) (s : State) : Prop :=
  match input with
  | .openStream _ _ _ answers => answers.websocket = .module → ∀ h, answers.request.pick s.used = some h → answers.Works h s
  | .closeStream handle websocket _ => websocket = .null → s.cloudByHandle handle = none
  | _ => True

/-- A list with one more node is another one. -/
theorem requested_ne (h : Nat) (useSe opened : Bool) (s : State) : (s.requested h useSe opened).websocket ≠ s.websocket := by
  intro same
  have lengths := congrArg List.length same
  unfold State.requested at lengths
  rw [List.length_append, List.length_singleton] at lengths
  omega

theorem openStream_exact (paired : s.Paired) {sslConfig : Option Bool}
    (answered : step (.openStream accessToken deviceId sslConfig answers) s = .ok (s', o)) :
    AllOrNothing ⟨s, .openStream accessToken deviceId sslConfig answers, s', o⟩ ↔
      Lasts (.openStream accessToken deviceId sslConfig answers) s := by
  unfold AllOrNothing Lasts
  obtain module | ⟨module, picked⟩ | ⟨module, picked, opens⟩ | ⟨module, picked, opens, node⟩ | ⟨module, picked, opens, node, sets⟩ |
    ⟨module, picked, opens, node, -, sets⟩ := openStream_opens answered
  · refine iff_of_true ⟨fun _ => ⟨rfl, rfl⟩, fun ok => by cases ok⟩ fun granted => ?_
    rw [module] at granted
    cases granted
  · refine iff_of_true ⟨fun _ => ⟨rfl, rfl⟩, fun ok => by cases ok⟩ fun _ h given => ?_
    rw [picked] at given
    cases given
  · refine iff_of_false (fun all => ?_) fun lasts => opens (lasts module _ picked).opens
    exact requested_ne _ _ _ s (all.1 fun ok => by cases ok).2
  · refine iff_of_false (fun all => ?_) fun lasts => (lasts module _ picked).node (by rw [← node, requested_used])
    exact requested_ne _ _ _ s (all.1 fun ok => by cases ok).2
  · refine iff_of_false (fun all => ?_) fun lasts => sets (lasts module _ picked).sets
    rw [unset_eq paired picked] at all
    exact requested_ne _ _ _ s (all.1 fun ok => sets (Option.some.inj ok)).2
  · rename_i h a useSe given
    have after := streaming_paired paired picked a useSe given
    refine iff_of_true ⟨fun failed => absurd rfl failed, fun _ => ⟨h, rfl, ?_⟩⟩ fun _ h' given' => ?_
    · refine Prod.ext (filter_key_length after.handles ?_) (filter_key_length after.addresses ?_)
      · exact List.mem_map.2 ⟨cloudNode a h given answers, List.mem_append_right _ (List.mem_singleton_self _), rfl⟩
      · exact List.mem_map.2 ⟨⟨h, Cloud.uri useSe, useSe, true⟩, List.mem_append_right _ (List.mem_singleton_self _), rfl⟩
    · rw [picked] at given'
      cases given'
      exact .of_streams opens node sets

theorem closeStream_exact (paired : s.Paired) {handle : Nat} {websocket : ModuleAnswer} {closes : ArtikError}
    (answered : step (.closeStream handle websocket closes) s = .ok (s', o)) :
    AllOrNothing ⟨s, .closeStream handle websocket closes, s', o⟩ ↔ Lasts (.closeStream handle websocket closes) s := by
  unfold AllOrNothing Lasts
  dsimp only
  obtain module | ⟨module, absent⟩ | ⟨module, found⟩ := closeStream_closes answered
  · constructor
    · intro removes _
      by_contra known
      obtain ⟨n, found⟩ := Option.ne_none_iff_exists'.1 known
      obtain ⟨member, same, -⟩ := websocket_known paired found
      have one := filter_key_length (f := CloudNode.handle) paired.handles (List.mem_map.2 ⟨n, member, same⟩)
      have zero := congrArg Prod.fst (removes known)
      unfold State.nodes at zero
      dsimp only at zero
      omega
    · intro unknown known
      exact absurd (unknown module) known
  · exact iff_of_true (fun known => absurd absent known) fun _ => absent
  · refine iff_of_true (fun _ => ?_) fun null => ?_
    · rw [close_removes paired found]
      have after := closed_paired paired handle
      refine Prod.ext (List.length_eq_zero_iff.2 (List.filter_eq_nil_iff.2 fun n member same => ?_))
        (List.length_eq_zero_iff.2 (List.filter_eq_nil_iff.2 fun n member same => ?_))
      · have left : n.handle ∈ (s.cloud.eraseP fun n => n.handle = handle).map CloudNode.handle := List.mem_map.2 ⟨n, member, rfl⟩
        rw [map_eraseP, paired.handles.mem_erase_iff] at left
        exact left.1 (of_decide_eq_true same)
      · have left : n.address ∈ (s.websocket.eraseP fun n => n.address = handle).map WebsocketNode.address :=
          List.mem_map.2 ⟨n, member, rfl⟩
        rw [map_eraseP, paired.addresses.mem_erase_iff] at left
        exact left.1 (of_decide_eq_true same)
    · rw [module] at null
      cases null

/-- **Streams.** In every run from lists that belong together: every open is all or nothing and every close
removes both nodes if and only if every open that gets a websocket handle goes through, and every
close of a stream gets the websocket module. -/
theorem streams_iff {calls : List (Call Input State Output)} (paired : s.Paired) (run : Run step s calls s') :
    (∀ c ∈ calls, AllOrNothing c) ↔ ∀ c ∈ calls, Lasts c.input c.before := by
  refine Run.fits_iff (I := State.Paired) (fun input t t' o paired answered => ?_)
    (fun input t t' o paired _ answered => step_paired paired answered) run paired
  cases input with
  | openStream accessToken deviceId sslConfig answers => exact openStream_exact paired answered
  | closeStream handle websocket closes => exact closeStream_exact paired answered
  | _ => exact iff_of_true trivial trivial

/-- Every step works but what is given for the stream and the callback. -/
def OpenAnswers.only (opens sets : ArtikError) : OpenAnswers := ⟨.module, true, .only 1, opens, .only 2, true, true, sets⟩

theorem streams_opened : ∃ calls s, Run step .init calls s ∧ calls.length = 2 ∧
    ((∀ c ∈ calls, AllOrNothing c) ↔ ∀ c ∈ calls, Lasts c.input c.before) := by
  have computed : execTest step [.openStream (some ['t']) (some ['d']) (some true) (.only .ok .ok), .closeStream 1 .module .ok]
      .init (fun _ => true) = true := by
    decide
  obtain ⟨calls, s, run, inputs, -⟩ := execTest_run computed
  exact ⟨calls, s, run, by simpa using congrArg List.length inputs, streams_iff .init run⟩

/-- An open whose stream cannot be opened leaves the node of the websocket module behind. -/
theorem streams_left : ¬ ∀ calls s, Run step .init calls s → ∀ c ∈ calls, AllOrNothing c := by
  intro all
  have computed : execTest step [.openStream (some ['t']) (some ['d']) (some true) (.only .websocketError .ok)] .init
      (fun calls => calls.any fun c =>
        match c.input with
        | .openStream .. => c.output.ret ≠ some .ok && c.after.websocket ≠ c.before.websocket
        | _ => false) = true := by
    decide
  obtain ⟨calls, s, run, -, leaves⟩ := execTest_run computed
  obtain ⟨c, member, leaves⟩ := List.any_eq_true.1 leaves
  have whole := all calls s run c member
  unfold AllOrNothing at whole
  split at leaves
  · rename_i input
    rw [input] at whole
    rw [Bool.and_eq_true, decide_eq_true_eq, decide_eq_true_eq] at leaves
    exact leaves.2 (whole.1 leaves.1).2
  · cases leaves

end ArtikSdk.Cloud
