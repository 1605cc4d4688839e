import ArtikSdk.Lib.Run
import ArtikSdk.Lwm2m.Service

/-!
# LWM2M: the callbacks of the user and the hooks of wakaama

The table of a node and the table of its client say the same. Every step but two kinds keeps
that: setting and unsetting the callback for errors touches the hook for changes.
-/

namespace ArtikSdk.Lwm2m
open Lib

/-- In the client of each node a hook is registered exactly when the user callback behind it is set. -/
def State.Agrees (s : State) : Prop :=
  ∀ n ∈ s.nodes, ∀ c ∈ s.clients, c.number = n.number → ∀ h, (c.hooks h).isSome ↔ (n.callbacks h.event).isSome

/-- The tables agree, and the number of the next node was never given. -/
structure State.Agreed (s : State) : Prop where
  agrees : s.Agrees
  nodes : ∀ n ∈ s.nodes, n.number < s.made
  clients : ∀ c ∈ s.clients, c.number < s.made

theorem State.Agreed.init : State.init.Agreed :=
  ⟨fun n member => (by cases member), fun n member => (by cases member), fun c member => (by cases member)⟩

/-! ## Steps that touch neither table -/

/-- Each node and each client that is left has the callbacks that it had. -/
structure Keeps (s s' : State) : Prop where
  nodes : ∀ n' ∈ s'.nodes, ∃ n ∈ s.nodes, n'.number = n.number ∧ n'.callbacks = n.callbacks
  clients : ∀ c' ∈ s'.clients, ∃ c ∈ s.clients, c'.number = c.number ∧ c'.hooks = c.hooks
  made : s.made ≤ s'.made

theorem Keeps.refl (s : State) : Keeps s s :=
  ⟨fun n member => ⟨n, member, rfl, rfl⟩, fun c member => ⟨c, member, rfl, rfl⟩, le_refl _⟩

theorem Keeps.trans {s s' s'' : State} (first : Keeps s s') (second : Keeps s' s'') : Keeps s s'' := by
  refine ⟨fun n'' member => ?_, fun c'' member => ?_, le_trans first.made second.made⟩
  · obtain ⟨n', member', number', callbacks'⟩ := second.nodes n'' member
    obtain ⟨n, present, number, callbacks⟩ := first.nodes n' member'
    exact ⟨n, present, number'.trans number, callbacks'.trans callbacks⟩
  · obtain ⟨c', member', number', hooks'⟩ := second.clients c'' member
    obtain ⟨c, present, number, hooks⟩ := first.clients c' member'
    exact ⟨c, present, number'.trans number, hooks'.trans hooks⟩

theorem Keeps.agreed {s s' : State} (keeps : Keeps s s') (agreed : s.Agreed) : s'.Agreed := by
  refine ⟨fun n' member c' member' same h => ?_, fun n' member => ?_, fun c' member => ?_⟩
  · obtain ⟨n, present, number, callbacks⟩ := keeps.nodes n' member
    obtain ⟨c, present', number', hooks⟩ := keeps.clients c' member'
    rw [hooks, callbacks]
    exact agreed.agrees n present c present' (by rw [← number', same, number]) h
  · obtain ⟨n, present, number, -⟩ := keeps.nodes n' member
    rw [number]
    exact lt_of_lt_of_le (agreed.nodes n present) keeps.made
  · obtain ⟨c, present, number, -⟩ := keeps.clients c' member
    rw [number]
    exact lt_of_lt_of_le (agreed.clients c present) keeps.made

theorem Keeps.deleteNode (k : Nat) (s : State) : Keeps s (s.deleteNode k) :=
  ⟨fun n member => ⟨n, List.mem_of_mem_filter member, rfl, rfl⟩, (Keeps.refl s).clients, le_refl _⟩

theorem Keeps.stopClient (k : Nat) (s : State) : Keeps s (s.stopClient k) :=
  ⟨(Keeps.refl s).nodes, fun c member => ⟨c, List.mem_of_mem_filter member, rfl, rfl⟩, le_refl _⟩

theorem Keeps.update {k : Nat} {f : Node → Node} (same : ∀ n, (f n).number = n.number ∧ (f n).callbacks = n.callbacks)
    (s : State) : Keeps s (s.update k f) := by
  refine ⟨fun n' member => ?_, (Keeps.refl s).clients, le_refl _⟩
  obtain ⟨n, present, rfl⟩ := List.mem_map.1 member
  refine ⟨n, present, ?_⟩
  split
  · exact same n
  · exact ⟨rfl, rfl⟩

theorem Keeps.endThread (k : Nat) (s : State) : Keeps s (s.endThread k) :=
  ⟨(Keeps.stopClient k s).nodes, (Keeps.stopClient k s).clients, le_refl _⟩

theorem Keeps.addTimeout {timer : Malloc} {k : Nat} {s s' : State} (added : s.addTimeout timer k = some s') : Keeps s s' := by
  obtain ⟨id, -, rfl⟩ := Option.map_eq_some_iff.1 added
  have stored : Keeps s (s.update k fun n => { n with serviceCbkId := id }) :=
    .update (f := fun n => { n with serviceCbkId := id }) (fun n => ⟨rfl, rfl⟩) s
  exact ⟨stored.nodes, stored.clients, stored.made⟩

theorem Keeps.disconnect (port : Port) (caller : Option Nat) (handle : Nat) (s : State) :
    Keeps s (disconnect port caller handle s).1 := by
  unfold Lwm2m.disconnect
  split
  · exact .refl s
  · rename_i n found
    cases port with
    | linux => exact (Keeps.stopClient n.number s).trans (.deleteNode _ _)
    | tinyara =>
      have quits : Keeps s (s.update n.number fun n => { n with quit := true }) :=
        .update (f := fun n => { n with quit := true }) (fun n => ⟨rfl, rfl⟩) s
      refine (quits.trans ?_).trans (.deleteNode _ _)
      unfold State.join
      split
      · exact .endThread _ _
      · exact .refl _

/-! ## Connecting -/

theorem addNode_agreed {s : State} (agreed : s.Agreed) (a : Nat) : (s.addNode a).Agreed := by
  refine ⟨fun n member c present same => ?_, fun n member => ?_, fun c present => Nat.lt_succ_of_lt (agreed.clients c present)⟩
  · obtain old | new := List.mem_append.1 member
    · exact agreed.agrees n old c present same
    · rw [List.mem_singleton.1 new] at same
      exact absurd same (agreed.clients c present).ne
  · obtain old | new := List.mem_append.1 member
    · exact Nat.lt_succ_of_lt (agreed.nodes n old)
    · rw [List.mem_singleton.1 new]
      exact Nat.lt_succ_self s.made

theorem startClient_agreed {s : State} (agreed : s.Agreed) (a p : Nat) : ((s.addNode a).startClient s.made p).Agreed := by
  have added := addNode_agreed agreed a
  have stored : Keeps (s.addNode a) ((s.addNode a).update s.made fun n => { n with client := p }) :=
    .update (f := fun n => { n with client := p }) (fun n => ⟨rfl, rfl⟩) _
  have old := stored.agreed added
  refine ⟨fun n' member c present same h => ?_, old.nodes, fun c present => ?_⟩
  · obtain earlier | new := List.mem_append.1 present
    · exact old.agrees n' member c earlier same h
    · -- the node of the new client is the new one, and has no callbacks
      obtain ⟨n, member, number, callbacks⟩ := stored.nodes n' member
      rw [List.mem_singleton.1 new] at same ⊢
      rw [callbacks]
      obtain before | made := List.mem_append.1 member
      · exact absurd (number.symm.trans same.symm) (agreed.nodes n before).ne
      · rw [List.mem_singleton.1 made]
  · obtain earlier | new := List.mem_append.1 present
    · exact old.clients c earlier
    · rw [List.mem_singleton.1 new]
      exact Nat.lt_succ_self s.made

theorem connect_agreed {port : Port} {answers : Answers} {s s' : State} {o : Output} (agreed : s.Agreed)
    (answered : connect port answers s = .ok (s', o)) : s'.Agreed := by
  unfold connect at answered
  split at answered
  · cases answered
    exact agreed
  · split at answered
    · cases answered
      exact agreed
    · rename_i a _
      split at answered
      · cases answered
        exact (Keeps.deleteNode _ _).agreed (addNode_agreed agreed a)
      · rename_i p _
        have started := startClient_agreed agreed a p
        cases port with
        | linux =>
          dsimp only [startTimer] at answered
          split at answered
          · cases answered
          · split at answered
            · cases answered
              exact (Keeps.disconnect _ _ _ _).agreed started
            · rename_i t added
              cases answered
              exact (Keeps.addTimeout added).agreed started
        | tinyara =>
          dsimp only [startThread] at answered
          have left (handle : Nat) := (Keeps.disconnect .tinyara none handle _).trans (.deleteNode s.made _) |>.agreed started
          split at answered
          · cases answered
            exact left p
          · split at answered
            · cases answered
              exact left a
            · cases answered
              exact ⟨started.agrees, started.nodes, started.clients⟩

/-! ## Servicing -/

theorem Keeps.removeTimeout (id : Nat) (s : State) : Keeps s (s.removeTimeout id) :=
  ⟨(Keeps.refl s).nodes, (Keeps.refl s).clients, le_refl _⟩

/-- Between the calls no table of callbacks is touched. -/
theorem Between.keeps {port : Port} {s s' : State} (between : Between port s s') : Keeps s s' := by
  cases between with
  | nothing => exact .refl s
  | waits _ _ => exact ⟨(Keeps.refl s).nodes, (Keeps.refl s).clients, le_refl _⟩
  | passes _ => exact ⟨(Keeps.refl s).nodes, (Keeps.refl s).clients, le_refl _⟩
  | enters _ => exact ⟨(Keeps.refl s).nodes, (Keeps.refl s).clients, le_refl _⟩
  | returns _ => exact ⟨(Keeps.refl s).nodes, (Keeps.refl s).clients, le_refl _⟩
  | fires _ => exact .removeTimeout _ s
  | rearms _ _ added => exact ((Keeps.removeTimeout _ s).trans (.removeTimeout _ _)).trans (.addTimeout added)
  | unarmed _ _ _ _ => exact ((Keeps.removeTimeout _ s).trans (.removeTimeout _ _)).trans (.disconnect _ _ _ _)
  | leaves _ => exact ⟨(Keeps.refl s).nodes, (Keeps.refl s).clients, le_refl _⟩
  | ends => exact .endThread _ s
  | quits => exact (Keeps.update (f := fun n => { n with quit := true }) (fun n => ⟨rfl, rfl⟩) s).trans (.endThread _ _)

/-! ## Setting and unsetting -/

/-- The callback of event `e` of node `k` becomes `fn`, and the hooks of the event become `parameter`. -/
theorem setHooks_agrees_iff {s s' : State} {n : Node} {e : Event} {fn parameter : Option Nat} {userData : Nat}
    (agreed : s.Agreed) (found : n ∈ s.nodes) (alike : fn.isSome = parameter.isSome)
    (set : (s.update n.number (Node.store e fn userData)).setHooks n.number (hooksOf e) parameter = .ok s') :
    s'.nodes = (s.update n.number (Node.store e fn userData)).nodes ∧ s'.made = s.made ∧ (∀ c' ∈ s'.clients, ∃ c ∈ s.clients, c'.number = c.number) ∧
      (s'.Agrees ↔ e = .error → ((n.callbacks .resourceChanged).isSome ↔ fn.isSome)) := by
  unfold State.setHooks at set
  split at set
  · cases set
  rename_i client present
  cases set
  have runs : client ∈ s.clients := List.mem_of_find?_eq_some present
  have number : client.number = n.number := of_decide_eq_true (List.find?_some (p := fun c : Client => decide (c.number = n.number)) present)
  refine ⟨rfl, rfl, fun c' member => ?_, ?_⟩
  · obtain ⟨c, earlier, rfl⟩ := List.mem_map.1 member
    refine ⟨c, earlier, ?_⟩
    split <;> rfl
  -- what a hook and its callback are in the node and its client
  have hook (m : Node) (member : m ∈ s.nodes) (c : Client) (member' : c ∈ s.clients) (same : m.number = n.number)
      (same' : c.number = n.number) (h : Hook) :
      ((if h ∈ hooksOf e then parameter else c.hooks h).isSome ↔ ((m.store e fn userData).callbacks h.event).isSome) ↔
        (e = .error → h = .notifyResourceChanged → ((m.callbacks .resourceChanged).isSome ↔ fn.isSome)) := by
    have before := agreed.agrees m member c member' (same'.trans same.symm) h
    cases e <;> cases h <;> simp_all [hooksOf, Hook.event, Node.store, Function.update]
    exact eq_comm
  constructor
  · intro agrees isError
    refine (hook n found client runs rfl number .notifyResourceChanged).1 ?_ isError rfl
    have stored : n.store e fn userData ∈ (s.update n.number (Node.store e fn userData)).nodes :=
      List.mem_map.2 ⟨n, found, if_pos rfl⟩
    have registered := List.mem_map_of_mem (f := fun c : Client =>
      if c.number = n.number then { c with hooks := fun h => if h ∈ hooksOf e then parameter else c.hooks h } else c) runs
    rw [if_pos number] at registered
    exact agrees _ stored _ registered number .notifyResourceChanged
  · intro fits m' member c' member' same h
    obtain ⟨m, earlier, rfl⟩ := List.mem_map.1 member
    obtain ⟨c, earlier', rfl⟩ := List.mem_map.1 member'
    by_cases mine : m.number = n.number
    · rw [if_pos mine] at same
      have mine' : c.number = n.number := by
        by_contra other
        rw [if_neg other] at same
        exact other (same.trans mine)
      rw [if_pos mine, if_pos mine']
      refine (hook m earlier c earlier' mine mine' h).2 fun isError _ => ?_
      -- nodes of one number with a client have the same callbacks
      have first := agreed.agrees m earlier c earlier' (mine'.trans mine.symm) .notifyResourceChanged
      have second := agreed.agrees n found c earlier' mine' .notifyResourceChanged
      exact (first.symm.trans second).trans (fits isError)
    · rw [if_neg mine] at same ⊢
      have other : c.number ≠ n.number := by
        intro mine'
        rw [if_pos mine'] at same
        exact mine (same.symm.trans mine')
      rw [if_neg other] at same ⊢
      exact agreed.agrees m earlier c earlier' same h

/-- Setting or unsetting the callback for errors finds the callback for changes set or unset, too. -/
def Input.Matches : Input → State → Prop
  | .setCallback handle (some .error) (some _) _, s => ∀ n, s.byHandle handle = some n → (n.callbacks .resourceChanged).isSome
  | .unsetCallback handle (some .error), s => ∀ n, s.byHandle handle = some n → n.callbacks .resourceChanged = none
  | _, _ => True

theorem byHandle_mem {s : State} {handle : Nat} {n : Node} (found : s.byHandle handle = some n) : n ∈ s.nodes :=
  List.mem_of_find?_eq_some found

/-- What a step does to the tables: they agree again exactly when its input matches, and numbers
stay below the next one. -/
theorem touch_agreed {s s' : State} {n : Node} {e : Event} {fn parameter : Option Nat} {userData : Nat}
    (agreed : s.Agreed) (found : n ∈ s.nodes) (alike : fn.isSome = parameter.isSome)
    (set : (s.update n.number (Node.store e fn userData)).setHooks n.number (hooksOf e) parameter = .ok s') :
    (s'.Agrees ↔ e = .error → ((n.callbacks .resourceChanged).isSome ↔ fn.isSome)) ∧ (s'.Agrees → s'.Agreed) := by
  obtain ⟨nodes, made, clients, agrees⟩ := setHooks_agrees_iff agreed found alike set
  refine ⟨agrees, fun agreed' => ⟨agreed', fun n' member => ?_, fun c' member => ?_⟩⟩
  · rw [nodes] at member
    obtain ⟨m, earlier, rfl⟩ := List.mem_map.1 member
    rw [made]
    split <;> exact agreed.nodes m earlier
  · obtain ⟨c, earlier, number⟩ := clients c' member
    rw [made, number]
    exact agreed.clients c earlier

theorem setCallback_agreed {handle userData : Nat} {event : Option Event} {userCallback : Option Nat} {s s' : State}
    {r : ArtikError} (agreed : s.Agreed) (answered : setCallback handle event userCallback userData s = .ok (s', r)) :
    (s'.Agrees ↔ (Input.setCallback handle event userCallback userData).Matches s) ∧ (s'.Agrees → s'.Agreed) := by
  unfold setCallback at answered
  split at answered
  · rename_i n fn e found
    obtain ⟨t, set, result⟩ := bind_ok_iff.1 answered
    cases result
    obtain ⟨agrees, keeps⟩ := touch_agreed agreed (byHandle_mem found) (by rfl) set
    refine ⟨agrees.trans ?_, keeps⟩
    cases e with
    | error =>
      constructor
      · intro matched n' found'
        rw [found] at found'
        cases found'
        exact (matched rfl).2 rfl
      · exact fun matched _ => iff_of_true (matched n found) rfl
    | resourceExecute => exact iff_of_true (fun isError => (by cases isError)) trivial
    | resourceChanged => exact iff_of_true (fun isError => (by cases isError)) trivial
  · rename_i missing
    cases answered
    refine ⟨iff_of_true agreed.agrees ?_, fun _ => agreed⟩
    unfold Input.Matches
    split
    · rename_i handle' fn data same
      cases same
      intro n found
      exact (missing n fn .error found rfl rfl).elim
    · rename_i same
      cases same
    · trivial

theorem unsetCallback_agreed {handle : Nat} {event : Option Event} {s s' : State} {r : ArtikError} (agreed : s.Agreed)
    (answered : unsetCallback handle event s = .ok (s', r)) :
    (s'.Agrees ↔ (Input.unsetCallback handle event).Matches s) ∧ (s'.Agrees → s'.Agreed) := by
  unfold unsetCallback at answered
  split at answered
  · rename_i n e found
    obtain ⟨t, set, result⟩ := bind_ok_iff.1 answered
    cases result
    obtain ⟨agrees, keeps⟩ := touch_agreed agreed (byHandle_mem found) (by rfl) set
    refine ⟨agrees.trans ?_, keeps⟩
    cases e with
    | error =>
      constructor
      · intro matched n' found'
        rw [found] at found'
        cases found'
        rw [← Option.not_isSome_iff_eq_none, matched rfl]
        exact Bool.false_ne_true
      · intro matched _
        rw [matched n found]
    | resourceExecute => exact iff_of_true (fun isError => (by cases isError)) trivial
    | resourceChanged => exact iff_of_true (fun isError => (by cases isError)) trivial
  · rename_i missing
    cases answered
    refine ⟨iff_of_true agreed.agrees ?_, fun _ => agreed⟩
    unfold Input.Matches
    split
    · rename_i same
      cases same
    · rename_i handle' same
      cases same
      intro n found
      exact (missing n .error found rfl).elim
    · trivial

/-! ## Every step, and every run -/

theorem step_agreed {port : Port} {input : Input} {s s' : State} {o : Output} (agreed : s.Agreed)
    (answered : step port input s = .ok (s', o)) : (s'.Agrees ↔ input.Matches s) ∧ (s'.Agrees → s'.Agreed) := by
  have kept (after : s'.Agreed) (matched : input.Matches s) : (s'.Agrees ↔ input.Matches s) ∧ (s'.Agrees → s'.Agreed) :=
    ⟨iff_of_true after.agrees matched, fun _ => after⟩
  cases input with
  | connect answers => exact kept (connect_agreed agreed answered) trivial
  | disconnect caller handle =>
    cases answered
    exact kept ((Keeps.disconnect port caller handle s).agreed agreed) trivial
  | setCallback handle event userCallback userData =>
    obtain ⟨r, done, result⟩ := map_ok_iff.1 answered
    cases result
    exact setCallback_agreed agreed done
  | unsetCallback handle event =>
    obtain ⟨r, done, result⟩ := map_ok_iff.1 answered
    cases result
    exact unsetCallback_agreed agreed done
  | hook node h params idle => exact kept ((step_between rfl answered).keeps.agreed agreed) trivial
  | timeout id result timer => exact kept ((step_between rfl answered).keeps.agreed agreed) trivial
  | idle id => exact kept ((step_between rfl answered).keeps.agreed agreed) trivial
  | returned => exact kept ((step_between rfl answered).keeps.agreed agreed) trivial
  | thread node result => exact kept ((step_between rfl answered).keeps.agreed agreed) trivial

/-- **Hooks.** On both ports and in every run, after each step the hooks of every client that runs
are registered exactly when the user callbacks of its node are set, if and only if the callback
for errors is set only where that for changes is set, and unset only where that is not. -/
theorem hooks_iff (port : Port) {cs : List (Call Input State Output)} {s : State} (run : Run (step port) .init cs s) :
    (∀ c ∈ cs, c.after.Agrees) ↔ ∀ c ∈ cs, c.input.Matches c.before := by
  refine Run.fits_iff (I := State.Agreed) (P := fun c => c.after.Agrees) ?_ ?_ run .init
  · intro e t t' o agreed answered
    exact (step_agreed agreed answered).1
  · intro e t t' o agreed matched answered
    obtain ⟨agrees, keeps⟩ := step_agreed agreed answered
    exact keeps (agrees.2 matched)

/-- Of two clients one has its callbacks set and unset, and the other goes. -/
theorem hooks_twoClients :
    ∃ cs s, Run (step .tinyara) .init cs s ∧ cs.length = 6 ∧
      ((∀ c ∈ cs, c.after.Agrees) ↔ ∀ c ∈ cs, c.input.Matches c.before) := by
  have computed : execTest (step .tinyara)
      [.connect (.working 1 2 0), .connect (.working 3 4 0), .setCallback 1 (some .resourceChanged) (some 5) 6,
        .setCallback 1 (some .error) (some 5) 6, .disconnect none 3, .unsetCallback 1 (some .resourceChanged)]
      .init (fun _ => true) = true := by
    decide
  obtain ⟨cs, s, run, inputs, -⟩ := execTest_run computed
  exact ⟨cs, s, run, by simpa using congrArg List.length inputs, hooks_iff .tinyara run⟩

/-- A hook for changes is registered, and no callback for them is set. -/
def State.unasked (s : State) : Bool :=
  s.nodes.any fun n => s.clients.any fun c =>
    c.number = n.number && (c.hooks .notifyResourceChanged).isSome && (n.callbacks .resourceChanged).isNone

theorem State.unasked_disagrees {s : State} (unasked : s.unasked = true) : ¬ s.Agrees := by
  intro agrees
  obtain ⟨n, member, found⟩ := List.any_eq_true.1 unasked
  obtain ⟨c, member', found⟩ := List.any_eq_true.1 found
  simp only [Bool.and_eq_true, decide_eq_true_eq] at found
  obtain ⟨⟨number, registered⟩, unset⟩ := found
  have set : (n.callbacks .resourceChanged).isSome := (agrees n member c member' number .notifyResourceChanged).1 registered
  rw [Option.isNone_iff_eq_none.1 unset] at set
  cases set

/-- Setting the callback for errors registers the hook for changes. -/
theorem errorCallback_registers :
    ¬ ∀ (port : Port) (cs : List (Call Input State Output)) (s : State), Run (step port) .init cs s → ∀ c ∈ cs, c.after.Agrees := by
  intro agrees
  have computed : execTest (step .linux) [.connect (.working 1 2 3), .setCallback 1 (some .error) (some 5) 6] .init
      (fun cs => cs.any fun c => c.after.unasked) = true := by
    decide
  obtain ⟨cs, s, run, -, unasked⟩ := execTest_run computed
  obtain ⟨c, member, disagrees⟩ := List.any_eq_true.1 unasked
  exact State.unasked_disagrees disagrees (agrees .linux cs s run c member)

end ArtikSdk.Lwm2m
