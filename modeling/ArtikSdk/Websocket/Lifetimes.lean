import ArtikSdk.Websocket.Sessions

/-!
# Websocket: whose entry an event finds

Entries are never taken out of `requested_node`, so that the first entry with an address is
that of the first connection which ever had it. An event or a write finds its own entry exactly
where no older connection had the address.
-/

namespace ArtikSdk.Websocket.Sessions
open Lib

/-- Address and interface of each entry. -/
def State.keys (s : State) : List (Nat × Nat) := s.requestedNode.map fun n => (n.handle, n.number)

/-- What the entries, the interfaces and the connections have to do with each other while no
session is closed. -/
structure Tied (s : State) : Prop where
  sorted : s.keys.Pairwise fun a b => a.2 < b.2
  past : ∀ k ∈ s.keys, k.2 < s.made
  held : ∀ g i, s.interfaces g = some i → g < s.made
  owner : ∀ w g, s.connections w = some g → ∃ i, s.interfaces g = some i
  entry : ∀ g i, s.interfaces g = some i → i.serviced = true → (i.wsi, g) ∈ s.keys
  stored : ∀ g i, s.interfaces g = some i → i.serviced = true → i.container.fds.isSome = true
  same : ∀ w g i, s.connections w = some g → s.interfaces g = some i → i.serviced = true → i.wsi = w
  opened : ∀ config g, s.privateData config = some g → ∃ i, s.interfaces g = some i ∧ i.serviced = true

theorem Tied.init : Tied .init where
  sorted := .nil
  past k member := by cases member
  held g i interface := by cases interface
  owner w g connected := by cases connected
  entry g i interface := by cases interface
  stored g i interface := by cases interface
  same w g i connected := by cases connected
  opened config g data := by cases data

variable {s s' : State} {w g : Nat} {i : Interface} {o : Output} {e : Event}

/-! ## Finding an entry -/

/-- No older connection had the address. -/
def State.First (s : State) (w g : Nat) : Prop := ∀ n ∈ s.requestedNode, n.handle = w → g ≤ n.number

theorem find_own {ns : List Entry} (sorted : (ns.map fun n => (n.handle, n.number)).Pairwise fun a b => a.2 < b.2)
    (own : (w, g) ∈ ns.map fun n => (n.handle, n.number)) :
    ∃ n, (ns.find? fun n => n.handle = w) = some n ∧ (n.number = g ↔ ∀ n ∈ ns, n.handle = w → g ≤ n.number) := by
  induction ns with
  | nil => cases own
  | cons m ns ih =>
    rw [List.map_cons, List.pairwise_cons] at sorted
    obtain ⟨later, sorted⟩ := sorted
    by_cases here : m.handle = w
    · refine ⟨m, List.find?_cons_of_pos (by simpa using here), ?_⟩
      constructor
      · intro mine n member _
        rcases List.mem_cons.1 member with rfl | behind
        · exact Nat.le_of_eq mine.symm
        · have := later _ (List.mem_map_of_mem behind)
          exact mine ▸ Nat.le_of_lt this
      · intro first
        rcases List.mem_cons.1 own with mine | behind
        · exact (congrArg Prod.snd mine).symm
        · have less := later _ behind
          have bound := first m (List.mem_cons_self ..) here
          dsimp only at less
          omega
    · have behind : (w, g) ∈ ns.map fun n => (n.handle, n.number) := by
        rcases List.mem_cons.1 own with mine | behind
        · exact absurd (congrArg Prod.fst mine).symm here
        · exact behind
      obtain ⟨n, found, exactly⟩ := ih sorted behind
      refine ⟨n, by rw [List.find?_cons_of_neg (by simpa using here), found], exactly.trans ?_⟩
      rw [List.forall_mem_cons]
      exact ⟨fun first => ⟨fun same => absurd same here, first⟩, And.right⟩

/-- The look-up of a connection's entry. -/
theorem Tied.finds (tied : Tied s) (own : (w, g) ∈ s.keys) : ∃ n, s.entry w = some n ∧ (n.number = g ↔ s.First w g) :=
  find_own tied.sorted own

/-! ## One event -/

theorem flagFirst_keys (w : Nat) (ns : List Entry) :
    ((flagFirst w ns).map fun n => (n.handle, n.number)) = ns.map fun n => (n.handle, n.number) := by
  induction ns with
  | nil => rfl
  | cons n ns ih =>
    rw [flagFirst]
    split
    · rfl
    · rw [List.map_cons, List.map_cons, ih]

theorem container_crashes {k : Container} (wild : k.sendMessage = .wild) (works : Bool) :
    k.lwsCallback .writeable works = .error .wildPointer := by
  rw [Container.lwsCallback, wild]

theorem container_answers {k : Container} (stored : k.fds.isSome = true) (reason : Reason) (works : Bool)
    (sound : reason = .writeable → k.sendMessage ≠ .wild) :
    ∃ k' written, k.lwsCallback reason works = .ok (k', written) ∧ k'.fds.isSome = true := by
  obtain ⟨counters, stored⟩ := Option.isSome_iff_exists.1 stored
  have notified (fd : Fd) (k : Container) (stored : k.fds = some counters) :
      ∃ k', k.notify fd works = .ok k' ∧ k'.fds.isSome = true := by
    rw [Container.notify, stored]
    refine ⟨_, rfl, ?_⟩
    cases works <;> simp [stored]
  cases reason with
  | writeable =>
    rw [Container.lwsCallback]
    cases slot : k.sendMessage with
    | wild => exact absurd slot (sound rfl)
    | null => exact ⟨_, _, rfl, by rw [stored]; rfl⟩
    | buffer bytes => exact ⟨_, _, rfl, by dsimp only; rw [stored]; rfl⟩
  | receive payload beyond copied =>
    cases copied with
    | false => exact ⟨k, [], rfl, by rw [stored]; rfl⟩
    | true =>
      obtain ⟨k', does, stored'⟩ := notified .receive { k with receiveMessage := .buffer (stringAt (payload ++ beyond)) } stored
      refine ⟨k', [], ?_, stored'⟩
      rw [Container.lwsCallback, if_neg (by decide), does]
      rfl
  | established =>
    obtain ⟨k', does, stored'⟩ := notified .connect k stored
    exact ⟨k', [], by rw [Container.lwsCallback, does]; rfl, stored'⟩
  | connectionError =>
    obtain ⟨k', does, stored'⟩ := notified .close k stored
    exact ⟨k', [], by rw [Container.lwsCallback, does]; rfl, stored'⟩
  | closed =>
    obtain ⟨k', does, stored'⟩ := notified .close k stored
    exact ⟨k', [], by rw [Container.lwsCallback, does]; rfl, stored'⟩
  | wsiDestroy =>
    obtain ⟨k', does, stored'⟩ := notified .close k stored
    exact ⟨k', [], by rw [Container.lwsCallback, does]; rfl, stored'⟩
  | confirmExtensionSupported => exact ⟨k, [], rfl, by rw [stored]; rfl⟩
  | other => exact ⟨k, [], rfl, by rw [stored]; rfl⟩

/-- The events of a connection leave addresses and interfaces of the entries as they are. -/
theorem lwsCallback_keys {reason : Reason} {works : Bool} {visits : List Visit}
    (answered : lwsCallback w reason works s = .ok (s', visits)) : s'.keys = s.keys := by
  unfold lwsCallback at answered
  split at answered
  · cases answered
    rfl
  split at answered
  · cases answered
  dsimp only at answered
  split at answered
  · cases answered
  obtain ⟨r, -, result⟩ := map_ok_iff.1 answered
  cases result
  rw [State.keys]
  dsimp only
  split
  · exact flagFirst_keys w s.requestedNode
  · rfl

/-- An event that `lws_service` finds. -/
theorem lwsCallback_serviced (tied : Tied s) (connected : s.connections w = some g) (interface : s.interfaces g = some i)
    (serviced : i.serviced = true) (reason : Reason) (works : Bool) :
    ∃ n, s.entry w = some n ∧ (n.number = g ↔ s.First w g) ∧
      (reason = .writeable ∧ i.container.sendMessage = .wild → lwsCallback w reason works s = .error .wildPointer) ∧
      (¬(reason = .writeable ∧ i.container.sendMessage = .wild) → ∃ k, k.fds.isSome = true ∧
        lwsCallback w reason works s =
          .ok ({ s with
              requestedNode := if reason = .wsiDestroy then flagFirst w s.requestedNode else s.requestedNode
              interfaces := Function.update s.interfaces g (some { i with container := k })
              connections := if reason = .wsiDestroy then Function.update s.connections w none else s.connections },
            if handled reason then [⟨g, some n.number, true⟩] else [])) := by
  have own := tied.entry g i interface serviced
  rw [tied.same w g i connected interface serviced] at own
  obtain ⟨n, found, exactly⟩ := tied.finds own
  have there : ¬(reason = .wsiDestroy ∧ some n = none) := by simp
  refine ⟨n, found, exactly, ?_, ?_⟩
  · rintro ⟨rfl, wild⟩
    rw [lwsCallback, connected]
    simp only [interface, found]
    rw [if_neg there, container_crashes wild]
    rfl
  · intro sound
    have stored := tied.stored g i interface serviced
    obtain ⟨k, written, does, stored'⟩ := container_answers stored reason works fun same wild => sound ⟨same, wild⟩
    refine ⟨k, stored', ?_⟩
    rw [lwsCallback, connected]
    simp only [interface, found]
    rw [if_neg there, does, stored]
    rfl

theorem Tied.congr (tied : Tied s) (keys : s'.keys = s.keys) (made : s'.made = s.made) (interfaces : s'.interfaces = s.interfaces)
    (connections : ∀ w g, s'.connections w = some g → s.connections w = some g) (privateData : s'.privateData = s.privateData) :
    Tied s' where
  sorted := by rw [keys]; exact tied.sorted
  past := by rw [keys, made]; exact tied.past
  held := by rw [interfaces, made]; exact tied.held
  owner := by rw [interfaces]; exact fun w g connected => tied.owner w g (connections w g connected)
  entry := by rw [interfaces, keys]; exact tied.entry
  stored := by rw [interfaces]; exact tied.stored
  same := by rw [interfaces]; exact fun w g i connected => tied.same w g i (connections w g connected)
  opened := by rw [interfaces, privateData]; exact tied.opened

/-- The container of an interface changes, and nothing is torn down in it. -/
theorem Tied.setContainer (tied : Tied s) (interface : s.interfaces g = some i) {k : Container}
    (stored : i.serviced = true → k.fds.isSome = true) :
    Tied { s with interfaces := Function.update s.interfaces g (some { i with container := k }) } := by
  have back (h : Nat) (j : Interface) (there : Function.update s.interfaces g (some { i with container := k }) h = some j) :
      ∃ j', s.interfaces h = some j' ∧ j'.wsi = j.wsi ∧ j'.serviced = j.serviced ∧
        (j.serviced = true → j'.container.fds.isSome = true → j.container.fds.isSome = true) := by
    by_cases here : h = g
    · subst here
      rw [Function.update_self] at there
      cases there
      exact ⟨i, interface, rfl, rfl, fun serviced _ => stored serviced⟩
    · rw [Function.update_of_ne here] at there
      exact ⟨j, there, rfl, rfl, fun _ had => had⟩
  refine ⟨tied.sorted, tied.past, ?_, ?_, ?_, ?_, ?_, ?_⟩
  · intro h j there
    obtain ⟨j', before, -⟩ := back h j there
    exact tied.held h j' before
  · intro w h connected
    obtain ⟨j, before⟩ := tied.owner w h connected
    by_cases here : h = g
    · exact ⟨_, by rw [here]; exact Function.update_self ..⟩
    · exact ⟨j, by rw [← before]; exact Function.update_of_ne here ..⟩
  · intro h j there serviced
    obtain ⟨j', before, wsi, same, -⟩ := back h j there
    rw [← wsi]
    exact tied.entry h j' before (same.trans serviced)
  · intro h j there serviced
    obtain ⟨j', before, -, same, keeps⟩ := back h j there
    exact keeps serviced (tied.stored h j' before (same.trans serviced))
  · intro w h j connected there serviced
    obtain ⟨j', before, wsi, same, -⟩ := back h j there
    rw [← wsi]
    exact tied.same w h j' connected before (same.trans serviced)
  · intro config h data
    obtain ⟨j, before, serviced⟩ := tied.opened config h data
    by_cases here : h = g
    · subst here
      rw [interface] at before
      cases before
      exact ⟨_, Function.update_self .., serviced⟩
    · exact ⟨j, by rw [← before]; exact Function.update_of_ne here .., serviced⟩

theorem lwsCallback_tied (tied : Tied s) (connected : s.connections w = some g) (interface : s.interfaces g = some i)
    (serviced : i.serviced = true) {reason : Reason} {works : Bool} {visits : List Visit}
    (answered : lwsCallback w reason works s = .ok (s', visits)) : Tied s' := by
  obtain ⟨n, -, -, crashes, answers⟩ := lwsCallback_serviced tied connected interface serviced reason works
  by_cases wild : reason = .writeable ∧ i.container.sendMessage = .wild
  · rw [crashes wild] at answered
    cases answered
  obtain ⟨k, stored, does⟩ := answers wild
  rw [does] at answered
  cases answered
  refine (tied.setContainer interface fun _ => stored).congr ?_ rfl rfl ?_ rfl
  · rw [State.keys, State.keys]
    dsimp only
    split
    · exact flagFirst_keys w s.requestedNode
    · rfl
  · intro v h
    dsimp only
    split
    · intro left
      by_cases here : v = w
      · rw [here, Function.update_self] at left
        cases left
      · rwa [Function.update_of_ne here] at left
    · exact id

/-! ## Opening -/

/-- A new interface that is not serviced yet. -/
theorem Tied.make (tied : Tied s) {j : Interface} (quiet : j.serviced = false) :
    Tied { s with interfaces := Function.update s.interfaces s.made (some j), made := s.made + 1 } := by
  have back (h : Nat) (k : Interface) (there : Function.update s.interfaces s.made (some j) h = some k)
      (serviced : k.serviced = true) : s.interfaces h = some k := by
    by_cases here : h = s.made
    · rw [here, Function.update_self] at there
      cases there
      rw [quiet] at serviced
      cases serviced
    · rwa [Function.update_of_ne here] at there
  have old {h : Nat} {k : Interface} (before : s.interfaces h = some k) :
      Function.update s.interfaces s.made (some j) h = some k := by
    rw [Function.update_of_ne (Nat.ne_of_lt (tied.held h k before))]
    exact before
  refine ⟨tied.sorted, fun k member => Nat.lt_succ_of_lt (tied.past k member), ?_, ?_, ?_, ?_, ?_, ?_⟩
  · intro h k there
    by_cases here : h = s.made
    · rw [here]
      exact Nat.lt_succ_self _
    · dsimp only at there
      rw [Function.update_of_ne here] at there
      exact Nat.lt_succ_of_lt (tied.held h k there)
  · intro w h connected
    obtain ⟨k, before⟩ := tied.owner w h connected
    exact ⟨k, old before⟩
  · exact fun h k there serviced => tied.entry h k (back h k there serviced) serviced
  · exact fun h k there serviced => tied.stored h k (back h k there serviced) serviced
  · exact fun w h k connected there serviced => tied.same w h k connected (back h k there serviced) serviced
  · intro config h data
    obtain ⟨k, before, serviced⟩ := tied.opened config h data
    exact ⟨k, old before, serviced⟩

/-- A connection for an interface that is not serviced yet. -/
theorem Tied.connect (tied : Tied s) (interface : s.interfaces g = some i) (quiet : i.serviced = false) :
    Tied { s with connections := Function.update s.connections w (some g) } := by
  refine ⟨tied.sorted, tied.past, tied.held, ?_, tied.entry, tied.stored, ?_, tied.opened⟩
  · intro v h connected
    by_cases here : v = w
    · rw [here] at connected
      dsimp only at connected
      rw [Function.update_self] at connected
      cases connected
      exact ⟨i, interface⟩
    · dsimp only at connected
      rw [Function.update_of_ne here] at connected
      exact tied.owner v h connected
  · intro v h k connected there serviced
    by_cases here : v = w
    · rw [here] at connected
      dsimp only at connected
      rw [Function.update_self] at connected
      cases connected
      rw [interface] at there
      cases there
      rw [quiet] at serviced
      cases serviced
    · dsimp only at connected
      rw [Function.update_of_ne here] at connected
      exact tied.same v h k connected there serviced

theorem Tied.disconnect (tied : Tied s) (w : Nat) : Tied (s.disconnect w) := by
  refine tied.congr rfl rfl rfl ?_ rfl
  intro v h left
  rw [State.disconnect] at left
  by_cases here : v = w
  · rw [here] at left
    dsimp only at left
    rw [Function.update_self] at left
    cases left
  · dsimp only at left
    rwa [Function.update_of_ne here] at left

/-- The session is entered. -/
theorem Tied.enter (tied : Tied s) (config : Nat) {j : Interface} (wsi : j.wsi = w) (stored : j.container.fds.isSome = true)
    (serviced : j.serviced = true) :
    Tied
      { requestedNode := s.requestedNode ++ [⟨w, false, s.made⟩]
        interfaces := Function.update s.interfaces s.made (some j)
        privateData := Function.update s.privateData config (some s.made)
        connections := Function.update s.connections w (some s.made)
        made := s.made + 1 } := by
  have keys : ((s.requestedNode ++ [⟨w, false, s.made⟩] : List Entry).map fun n => (n.handle, n.number)) = s.keys ++ [(w, s.made)] := by
    rw [List.map_append]
    rfl
  have split (h : Nat) (k : Interface) (there : Function.update s.interfaces s.made (some j) h = some k) :
      h = s.made ∧ k = j ∨ h < s.made ∧ s.interfaces h = some k := by
    by_cases here : h = s.made
    · rw [here, Function.update_self] at there
      cases there
      exact Or.inl ⟨here, rfl⟩
    · rw [Function.update_of_ne here] at there
      exact Or.inr ⟨tied.held h k there, there⟩
  refine ⟨?_, ?_, ?_, ?_, ?_, ?_, ?_, ?_⟩
  · rw [State.keys, keys, List.pairwise_append]
    refine ⟨tied.sorted, List.pairwise_singleton _ _, fun k member k' last => ?_⟩
    rw [List.mem_singleton.1 last]
    exact tied.past k member
  · intro k member
    rw [State.keys, keys, List.mem_append, List.mem_singleton] at member
    rcases member with member | rfl
    · exact Nat.lt_succ_of_lt (tied.past k member)
    · exact Nat.lt_succ_self _
  · intro h k there
    rcases split h k there with ⟨rfl, -⟩ | ⟨less, -⟩
    · exact Nat.lt_succ_self _
    · exact Nat.lt_succ_of_lt less
  · intro v h connected
    dsimp only at connected
    by_cases here : v = w
    · rw [here, Function.update_self] at connected
      cases connected
      exact ⟨j, Function.update_self ..⟩
    · rw [Function.update_of_ne here] at connected
      obtain ⟨k, before⟩ := tied.owner v h connected
      exact ⟨k, by rw [← before]; exact Function.update_of_ne (Nat.ne_of_lt (tied.held h k before)) ..⟩
  · intro h k there serviced
    rw [State.keys, keys, List.mem_append, List.mem_singleton]
    rcases split h k there with ⟨rfl, rfl⟩ | ⟨-, before⟩
    · exact Or.inr (by rw [wsi])
    · exact Or.inl (tied.entry h k before serviced)
  · intro h k there serviced
    rcases split h k there with ⟨-, rfl⟩ | ⟨-, before⟩
    · exact stored
    · exact tied.stored h k before serviced
  · intro v h k connected there serviced
    dsimp only at connected
    rcases split h k there with ⟨rfl, rfl⟩ | ⟨less, before⟩
    · by_cases here : v = w
      · rw [here, wsi]
      · rw [Function.update_of_ne here] at connected
        obtain ⟨k', before⟩ := tied.owner v _ connected
        exact absurd (tied.held _ k' before) (Nat.lt_irrefl _)
    · by_cases here : v = w
      · rw [here, Function.update_self] at connected
        cases connected
        exact absurd less (Nat.lt_irrefl _)
      · rw [Function.update_of_ne here] at connected
        exact tied.same v h k connected before serviced
  · intro c h data
    dsimp only at data
    by_cases here : c = config
    · rw [here, Function.update_self] at data
      cases data
      exact ⟨j, Function.update_self .., serviced⟩
    · rw [Function.update_of_ne here] at data
      obtain ⟨k, before, serviced⟩ := tied.opened c h data
      exact ⟨k, by rw [← before]; exact Function.update_of_ne (Nat.ne_of_lt (tied.held h k before)) .., serviced⟩

/-! ## Exactly when -/

/-- (a), (b) and (c) of a call: every event handled finds the entry of its own connection and
eventfds, no entry is left for a connection that was cleaned up, and the flag read is that of the
connection written to. -/
structure Respects (c : Call Event State Output) : Prop where
  live : ∀ v ∈ c.output.visits, v.found = some v.own ∧ v.ready = true
  cleaned : ∀ w, c.output.cleaned = some w → ∀ n ∈ c.after.requestedNode, n.handle ≠ w
  own : ∀ g g', c.output.consulted = some (g, g') → g' = g

/-- Nothing handled happens inside a connect, no open session is closed, and no write or handled
event concerns a connection whose address an older one had; a write finds an open session, and a
WRITEABLE no garbage. -/
def Fits (e : Event) (s : State) : Prop :=
  match e with
  | .openStream _ answers =>
    answers.prepared = .ok → (∃ w, (answers.connection.pick fun a => (s.connections a).isSome) = some w) →
      ∀ r ∈ answers.inside, handled r.1 = false
  | .writeStream config _ _ => ∃ g i, s.privateData config = some g ∧ s.interfaces g = some i ∧ s.First i.wsi g
  | .closeStream config _ => s.privateData config = none
  | .service w reason _ =>
    ∀ g i, s.connections w = some g → s.interfaces g = some i → i.serviced = true → handled reason = true →
      s.First w g ∧ ¬(reason = .writeable ∧ i.container.sendMessage = .wild)

theorem lwsCallback_other (connected : s.connections w = some g) (interface : s.interfaces g = some i) (works : Bool) :
    lwsCallback w .other works s = .ok (s, []) := by
  have same : Function.update s.interfaces g (some { i with container := i.container }) = s.interfaces := by
    rw [← interface]
    exact Function.update_eq_self g s.interfaces
  rw [lwsCallback, connected]
  simp only [interface]
  rw [if_neg (by simp), Container.lwsCallback]
  simp only [Except.map, same]
  rfl

/-- Events without a case of their own do nothing. -/
theorem lwsEvents_quiet (connected : s.connections w = some g) (interface : s.interfaces g = some i) {inside : List (Reason × Bool)}
    (quiet : ∀ r ∈ inside, handled r.1 = false) : lwsEvents w inside s = .ok (s, []) := by
  induction inside with
  | nil => rfl
  | cons r inside ih =>
    obtain ⟨reason, works⟩ := r
    have unhandled := quiet _ (List.mem_cons_self ..)
    obtain rfl : reason = .other := by simpa [handled] using unhandled
    rw [lwsEvents, lwsCallback_other connected interface]
    dsimp only
    rw [ih fun r member => quiet r (List.mem_cons_of_mem _ member)]
    rfl

/-- The first event handled finds what the interface was when the events began. -/
theorem lwsEvents_handled (connected : s.connections w = some g) (interface : s.interfaces g = some i)
    {inside : List (Reason × Bool)} {visits : List Visit} (happens : ∃ r ∈ inside, handled r.1 = true)
    (answered : lwsEvents w inside s = .ok (s', visits)) : ∃ v ∈ visits, v.ready = i.container.fds.isSome := by
  induction inside with
  | nil =>
    obtain ⟨r, member, -⟩ := happens
    cases member
  | cons r inside ih =>
    obtain ⟨reason, works⟩ := r
    by_cases first : handled reason = true
    · rw [lwsEvents] at answered
      split at answered
      · cases answered
      · rename_i t seen called
        obtain ⟨q, -, result⟩ := map_ok_iff.1 answered
        cases result
        unfold lwsCallback at called
        rw [connected] at called
        simp only [interface] at called
        split at called
        · cases called
        · obtain ⟨k, -, result⟩ := map_ok_iff.1 called
          cases result
          exact ⟨_, List.mem_append_left _ (List.mem_singleton_self _), rfl⟩
    · obtain rfl : reason = .other := by simpa [handled] using first
      rw [lwsEvents, lwsCallback_other connected interface] at answered
      dsimp only at answered
      obtain ⟨q, rest, result⟩ := map_ok_iff.1 answered
      cases result
      refine ih ?_ rest
      obtain ⟨r, member, handles⟩ := happens
      rcases List.mem_cons.1 member with rfl | member
      · exact absurd handles first
      · exact ⟨r, member, handles⟩

theorem lwsEvents_keys {inside : List (Reason × Bool)} {visits : List Visit} (answered : lwsEvents w inside s = .ok (s', visits)) :
    s'.keys = s.keys := by
  induction inside generalizing s visits with
  | nil =>
    cases answered
    rfl
  | cons r inside ih =>
    rw [lwsEvents] at answered
    split at answered
    · cases answered
    · rename_i t seen called
      obtain ⟨q, rest, result⟩ := map_ok_iff.1 answered
      cases result
      exact (ih rest).trans (lwsCallback_keys called)

/-- What the connect of a new session sees. -/
def State.connecting (answers : OpenAnswers) (w : Nat) (s : State) : State :=
  { s with
    interfaces := Function.update s.interfaces s.made (some ⟨0, answers.container, false⟩)
    made := s.made + 1
    connections := Function.update s.connections w (some s.made) }

theorem osWebsocketOpenStream_eq {answers : OpenAnswers} (prepared : answers.prepared = .ok)
    (connection : (answers.connection.pick fun a => (s.connections a).isSome) = some w) (config : Nat) :
    osWebsocketOpenStream config answers s = (lwsEvents w answers.inside (s.connecting answers w)).map fun r =>
      ((finishOpen config s.made w answers r.1).1, (finishOpen config s.made w answers r.1).2, r.2) := by
  rw [osWebsocketOpenStream, if_neg (not_not.2 prepared)]
  simp only [connection]
  rfl

theorem openStream_exact (config : Nat) (answers : OpenAnswers) (s : State) :
    (∃ s' o, step (.openStream config answers) s = .ok (s', o) ∧ Respects ⟨s, .openStream config answers, s', o⟩) ↔
      Fits (.openStream config answers) s := by
  have idle (result : ArtikError) (t : State) (here : osWebsocketOpenStream config answers s = .ok (result, t, [])) :
      ∃ s' o, step (.openStream config answers) s = .ok (s', o) ∧ Respects ⟨s, .openStream config answers, s', o⟩ :=
    ⟨t, ⟨result, [], none, none⟩, by rw [step, here]; rfl, by constructor <;> simp⟩
  by_cases prepared : answers.prepared = .ok
  · cases connection : answers.connection.pick fun a => (s.connections a).isSome with
    | none =>
      refine iff_of_true (idle .websocketError { s.connecting answers 0 with connections := s.connections } ?_) fun _ there => ?_
      · rw [osWebsocketOpenStream, if_neg (not_not.2 prepared)]
        simp only [connection]
        rfl
      · rw [connection] at there
        obtain ⟨w, there⟩ := there
        cases there
    | some w =>
      have connected : (s.connecting answers w).connections w = some s.made := Function.update_self ..
      have interface : (s.connecting answers w).interfaces s.made = some ⟨0, answers.container, false⟩ := Function.update_self ..
      rw [step, osWebsocketOpenStream_eq prepared connection]
      by_cases quiet : ∀ r ∈ answers.inside, handled r.1 = false
      · refine iff_of_true ?_ fun _ _ => quiet
        rw [lwsEvents_quiet connected interface quiet]
        exact ⟨_, _, rfl, by constructor <;> simp⟩
      · refine iff_of_false ?_ fun fits => quiet (fits prepared ⟨w, connection⟩)
        rintro ⟨s', o, answered, respects⟩
        obtain ⟨r, opened, result⟩ := map_ok_iff.1 answered
        obtain ⟨q, events, rfl⟩ := map_ok_iff.1 opened
        cases result
        push Not at quiet
        obtain ⟨r, member, handles⟩ := quiet
        obtain ⟨v, seen, ready⟩ := lwsEvents_handled connected interface ⟨r, member, by simpa using handles⟩ events
        have live := (respects.live v seen).2
        rw [ready] at live
        cases live
  · refine iff_of_true (idle answers.prepared s ?_) fun ok => absurd ok prepared
    rw [osWebsocketOpenStream, if_pos prepared]

theorem writeStream_exact (tied : Tied s) (config : Nat) (message : List Byte) (malloc : Bool) :
    (∃ s' o, step (.writeStream config message malloc) s = .ok (s', o) ∧ Respects ⟨s, .writeStream config message malloc, s', o⟩) ↔
      Fits (.writeStream config message malloc) s := by
  cases data : s.privateData config with
  | none =>
    refine iff_of_false ?_ ?_
    · rintro ⟨s', o, answered, -⟩
      rw [step, osWebsocketWriteStream, data] at answered
      cases answered
    · rintro ⟨g, i, opened, -⟩
      rw [data] at opened
      cases opened
  | some g =>
    obtain ⟨i, interface, serviced⟩ := tied.opened config g data
    obtain ⟨n, found, exactly⟩ := tied.finds (tied.entry g i interface serviced)
    have writes : ∃ result s', osWebsocketWriteStream config message malloc s = .ok (result, s', g, n.number) := by
      rw [osWebsocketWriteStream, data]
      simp only [interface, found]
      split
      · exact ⟨_, _, rfl⟩
      split
      · exact ⟨_, _, rfl⟩
      · exact ⟨_, _, rfl⟩
    obtain ⟨result, s', writes⟩ := writes
    rw [step, writes]
    constructor
    · rintro ⟨t, o, answered, respects⟩
      cases answered
      exact ⟨g, i, data, interface, exactly.1 (respects.own g n.number rfl)⟩
    · rintro ⟨g', i', data', interface', first⟩
      rw [data] at data'
      cases data'
      rw [interface] at interface'
      cases interface'
      refine ⟨_, _, rfl, ⟨by simp, by simp, ?_⟩⟩
      rintro h h' consulted
      cases consulted
      exact exactly.2 first

theorem closeStream_exact (tied : Tied s) (config : Nat) (inside : List (Reason × Bool)) :
    (∃ s' o, step (.closeStream config inside) s = .ok (s', o) ∧ Respects ⟨s, .closeStream config inside, s', o⟩) ↔
      Fits (.closeStream config inside) s := by
  rw [step, Fits]
  cases data : s.privateData config with
  | none =>
    refine iff_of_true ?_ rfl
    rw [lwsCleanup, data]
    exact ⟨_, _, rfl, by constructor <;> simp⟩
  | some g =>
    refine iff_of_false ?_ (by simp)
    rintro ⟨s', o, answered, respects⟩
    obtain ⟨i, interface, serviced⟩ := tied.opened config g data
    rw [lwsCleanup, data] at answered
    simp only [interface] at answered
    split at answered
    · cases answered
    · obtain ⟨r, cleaned, result⟩ := map_ok_iff.1 answered
      obtain ⟨q, events, rfl⟩ := map_ok_iff.1 cleaned
      cases result
      have own := tied.entry g i interface serviced
      rw [← lwsEvents_keys events] at own
      obtain ⟨n, member, same⟩ := List.mem_map.1 own
      exact respects.cleaned i.wsi rfl n member (congrArg Prod.fst same)

theorem service_exact (tied : Tied s) (w : Nat) (reason : Reason) (works : Bool) :
    (∃ s' o, step (.service w reason works) s = .ok (s', o) ∧ Respects ⟨s, .service w reason works, s', o⟩) ↔
      Fits (.service w reason works) s := by
  rw [step, Fits]
  by_cases runs : serviced w s = true
  · rw [if_pos runs]
    cases connected : s.connections w with
    | none => simp [serviced, connected] at runs
    | some g =>
      obtain ⟨i, interface⟩ := tied.owner w g connected
      have open' : i.serviced = true := by simpa [serviced, connected, interface] using runs
      obtain ⟨n, found, exactly, crashes, answers⟩ := lwsCallback_serviced tied connected interface open' reason works
      have mine (h : Nat) (j : Interface) (same : some g = some h) (there : s.interfaces h = some j) : h = g ∧ j = i := by
        cases same
        rw [interface] at there
        cases there
        exact ⟨rfl, rfl⟩
      by_cases wild : reason = .writeable ∧ i.container.sendMessage = .wild
      · rw [crashes wild]
        refine iff_of_false ?_ fun fits => (fits g i rfl interface open' (by rw [wild.1]; rfl)).2 wild
        rintro ⟨s', o, answered, -⟩
        cases answered
      · obtain ⟨k, -, does⟩ := answers wild
        rw [does]
        constructor
        · rintro ⟨s', o, answered, respects⟩ h j same there - handles
          obtain ⟨rfl, rfl⟩ := mine h j same there
          cases answered
          refine ⟨exactly.1 ?_, wild⟩
          have live := (respects.live ⟨h, some n.number, true⟩ (by rw [if_pos handles]; exact List.mem_singleton_self _)).1
          exact Option.some.inj live
        · intro fits
          refine ⟨_, _, rfl, ⟨?_, by simp, by simp⟩⟩
          intro v member
          by_cases handles : handled reason = true
          · dsimp only at member
            rw [if_pos handles, List.mem_singleton] at member
            subst member
            exact ⟨congrArg some (exactly.2 (fits g i rfl interface open' handles).1), rfl⟩
          · dsimp only at member
            rw [if_neg handles] at member
            cases member
  · rw [if_neg runs]
    refine iff_of_true ⟨_, _, rfl, by constructor <;> simp⟩ fun g i connected interface open' => ?_
    exact absurd (by simpa [serviced, connected, interface] using open') runs

theorem step_exact (tied : Tied s) (e : Event) : (∃ s' o, step e s = .ok (s', o) ∧ Respects ⟨s, e, s', o⟩) ↔ Fits e s := by
  cases e with
  | openStream config answers => exact openStream_exact config answers s
  | writeStream config message malloc => exact writeStream_exact tied config message malloc
  | closeStream config inside => exact closeStream_exact tied config inside
  | service w reason works => exact service_exact tied w reason works

theorem openStream_tied (tied : Tied s) {config : Nat} {answers : OpenAnswers} (fits : Fits (.openStream config answers) s)
    (answered : step (.openStream config answers) s = .ok (s', o)) : Tied s' := by
  have make (j : Interface) (quiet : j.serviced = false) := tied.make (j := j) quiet
  obtain ⟨r, opened, result⟩ := map_ok_iff.1 answered
  cases result
  by_cases prepared : answers.prepared = .ok
  · cases connection : answers.connection.pick fun a => (s.connections a).isSome with
    | none =>
      rw [osWebsocketOpenStream, if_neg (not_not.2 prepared)] at opened
      simp only [connection] at opened
      cases opened
      exact make _ rfl
    | some w =>
      have connected : (s.connecting answers w).connections w = some s.made := Function.update_self ..
      have interface : (s.connecting answers w).interfaces s.made = some ⟨0, answers.container, false⟩ := Function.update_self ..
      rw [osWebsocketOpenStream_eq prepared connection, lwsEvents_quiet connected interface (fits prepared ⟨w, connection⟩)] at opened
      cases opened
      have base : Tied (s.connecting answers w) := (make _ rfl).connect (i := ⟨0, answers.container, false⟩) (Function.update_self ..) rfl
      unfold finishOpen
      split
      · exact base.disconnect w
      split
      · exact base
      split
      · have reset : Function.update (s.connecting answers w).interfaces s.made =
            fun v => Function.update s.interfaces s.made v := by
          funext v
          exact Function.update_idem ..
        dsimp only
        rw [reset]
        exact (make ⟨w, { answers.container with fds := some fun _ => 0 }, false⟩ rfl).connect (Function.update_self ..) rfl
      · have reset : Function.update (s.connecting answers w).interfaces s.made =
            fun v => Function.update s.interfaces s.made v := by
          funext v
          exact Function.update_idem ..
        dsimp only
        rw [reset]
        exact tied.enter config rfl rfl rfl
  · rw [osWebsocketOpenStream, if_pos prepared] at opened
    cases opened
    exact tied

/-- What meets the condition keeps the entries tied. -/
theorem step_tied (tied : Tied s) (fits : Fits e s) (answered : step e s = .ok (s', o)) : Tied s' := by
  cases e with
  | openStream config answers => exact openStream_tied tied fits answered
  | writeStream config message malloc =>
    obtain ⟨g, i, data, interface, -⟩ := fits
    obtain ⟨r, wrote, result⟩ := map_ok_iff.1 answered
    cases result
    rw [osWebsocketWriteStream, data] at wrote
    simp only [interface] at wrote
    split at wrote
    · cases wrote
    split at wrote
    · cases wrote
      exact tied
    split at wrote
    · cases wrote
      exact tied
    · cases wrote
      exact tied.setContainer interface fun serviced => tied.stored g i interface serviced
  | closeStream config inside =>
    rw [Fits] at fits
    rw [step, lwsCleanup, fits] at answered
    cases answered
    exact tied
  | service w reason works =>
    rw [step] at answered
    split at answered
    · rename_i runs
      obtain ⟨r, called, result⟩ := map_ok_iff.1 answered
      cases result
      cases connected : s.connections w with
      | none => simp [serviced, connected] at runs
      | some g =>
        obtain ⟨i, interface⟩ := tied.owner w g connected
        exact lwsCallback_tied tied connected interface (by simpa [serviced, connected, interface] using runs) called
    · cases answered
      exact tied

/-- **Sessions.** Over a sequence of calls and events every event handled finds the live session
of its connection, no entry is left for a connection that was cleaned up, and every write
consults its own flag, exactly when on the way nothing handled comes from inside a connect, no
open session is closed, and no write or handled event concerns a connection whose address an
older one had. -/
theorem sessions_iff (es : List Event) :
    (∃ cs s, exec step es .init = .ok (cs, s) ∧ ∀ c ∈ cs, Respects c) ↔ Along Fits step es .init :=
  exec_along_iff (I := Tied) (fun e _ tied => step_exact tied e) (fun _ _ _ _ tied fits answered => step_tied tied fits answered)
    Tied.init

/-- The session at address 1 is closed and its entry stays. -/
theorem closedSession_entered :
    ¬ ∃ cs s, exec step
        [.openStream 0 ⟨.ok, false, false, 0, .only 1, [], true, true, true⟩, .closeStream 0 [(.closed, true), (.wsiDestroy, true)]]
        .init = .ok (cs, s) ∧ ∀ c ∈ cs, Respects c := by
  rintro ⟨cs, s, ran, all⟩
  cases ran
  exact (all _ (List.mem_cons_of_mem _ (List.mem_cons_self ..))).cleaned 1 rfl ⟨1, true, 0⟩ (List.mem_singleton_self _) rfl

end ArtikSdk.Websocket.Sessions
