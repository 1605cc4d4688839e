import ArtikSdk.Mqtt.Registry

/-!
# MQTT: nodes, watches and the handlers that run

A node keeps the id of one watch. As long as no node is connected again while it is watched, none is destroyed while its
handler runs, and GLib hands out no id that a node still keeps, each watch is that of a node, and no node is used after
it was freed.
-/

namespace ArtikSdk.Loop.Sources
open Lib

/-- What picks the id of the source that a call adds. -/
def Op.ids : Op → Option Malloc
  | .addTimeout _ _ _ _ answers | .addPeriodic _ _ _ _ answers | .addFdWatch _ _ _ _ _ answers | .addSignalWatch _ _ _ _ _ answers
  | .addIdle _ _ _ answers => some answers.ids
  | _ => none

section

variable {s s' : State} {op : Op} {r : Returned} {id : Nat}

theorem add_source {kind : Kind} {func userData : Nat} {place : Bool} {answers : Answers}
    (added : s.add kind func userData place answers = .ok (s', r)) (source : r.source = some id) :
    answers.ids.pick s.attached = some id := by
  unfold State.add at added
  split at added
  · cases added
    cases source
  · obtain ⟨⟨t, i⟩, done, same⟩ := map_ok_iff.1 added
    cases same
    cases source
    unfold State.attach at done
    split at done
    · cases done
    · rename_i picked
      split at done
      · cases done
        exact picked
      · cases done

/-- The id of a new source was picked for it. -/
theorem api_source (called : api op s = .ok (s', r)) (source : r.source = some id) : ∃ ids, op.ids = some ids ∧ ids.pick s.attached = some id := by
  have absurdly {code : Int} (refusal : Except.ok (s, refused code) = (.ok (s', r) : Except Fault (State × Returned))) : False := by
    cases refusal
    cases source
  have removed {refusal i : Int} (removed : s.remove refusal i = .ok (s', r)) : False := by
    unfold State.remove at removed
    split at removed
    · exact absurdly removed
    · split at removed
      · exact absurdly removed
      · obtain ⟨t, -, same⟩ := map_ok_iff.1 removed
        cases same
        cases source
  cases op with
  | addTimeout timeoutId msec func userData answers =>
    dsimp only [api, osAddTimeoutCallback] at called
    split at called
    · exact (absurdly called).elim
    · exact ⟨_, rfl, add_source called source⟩
  | addPeriodic periodicId msec func userData answers =>
    dsimp only [api, osAddPeriodicCallback] at called
    split at called
    · exact (absurdly called).elim
    · exact ⟨_, rfl, add_source called source⟩
  | addFdWatch fd io func userData watchId answers =>
    dsimp only [api, osAddFdWatch] at called
    split at called
    · exact (absurdly called).elim
    split at called
    · exact (absurdly called).elim
    split at called
    · exact (absurdly called).elim
    · exact ⟨_, rfl, add_source called source⟩
  | addSignalWatch signum supported func userData signalId answers =>
    dsimp only [api, osAddSignalWatch] at called
    split at called
    · exact (absurdly called).elim
    split at called
    · exact ⟨_, rfl, add_source called source⟩
    · cases called
      cases source
  | addIdle idleId func userData answers =>
    dsimp only [api, osAddIdleCallback] at called
    split at called
    · exact (absurdly called).elim
    split at called
    · exact (absurdly called).elim
    split at called
    · cases called
    · exact ⟨_, rfl, add_source called source⟩
  | removeTimeout i => exact (removed called).elim
  | removePeriodic i => exact (removed called).elim
  | removeFdWatch i => exact (removed called).elim
  | removeSignalWatch i => exact (removed called).elim
  | removeIdle i => exact (removed called).elim

/-- A watch is told the id of its source. -/
theorem watch_told {fd : Int} {io : BitVec 32} {func userData : Nat} {answers : Answers}
    (called : osAddFdWatch fd io func userData true answers s = .ok (s', r)) : r.id = r.source.map handed := by
  have refusal {code : Int} (same : Except.ok (s, refused code) = (.ok (s', r) : Except Fault (State × Returned))) :
      r.id = r.source.map handed := by
    cases same
    rfl
  unfold osAddFdWatch at called
  split at called
  · exact refusal called
  split at called
  · exact refusal called
  split at called
  · exact refusal called
  unfold State.add at called
  split at called
  · exact refusal called
  · obtain ⟨t, -, same⟩ := map_ok_iff.1 called
    cases same
    rfl

/-- An id that is an `int` is handed out as it is. -/
theorem handed_small (small : id < 2 ^ 31) : handed id = id := by
  have value : (BitVec.ofNat 32 id).toNat = id := by
    rw [BitVec.toNat_ofNat]
    omega
  rw [handed, BitVec.toInt_eq_toNat_of_lt (by omega), value]

/-- A call that adds nothing, and everything else that the loop does, makes no entry. -/
theorem Book.Next.shrinks {b b' : Book} {e : Event} {o : Seen} (next : Book.Next b e o b')
    (nothing : ∀ op, e = .call op → op.entry = none) (id : Nat) {x : Entry} (there : b'.entries id = some x) : b.entries id = some x := by
  have dropped {i : Nat} {c : Book} (there : (c.drop i).entries id = some x) : c.entries id = some x := by
    dsimp only [Book.drop] at there
    by_cases here : id = i
    · rw [here, Function.update_self] at there
      cases there
    · rwa [Function.update_of_ne here] at there
  cases next with
  | added adds =>
    rw [nothing _ rfl] at adds
    cases adds
  | refused => exact there
  | lost => exact there
  | removed => exact dropped there
  | unknown => exact there
  | called => exact there
  | waits => exact there
  | goesOn => exact there
  | ends => exact dropped there
  | gone => exact there
  | idle => exact there

theorem Book.set_some {b : Book} {j : Nat} {x y : Entry} (there : (b.set id x).entries j = some y) :
    j = id ∧ y = x ∨ j ≠ id ∧ b.entries j = some y := by
  rw [Book.set] at there
  dsimp only at there
  by_cases here : j = id
  · rw [here, Function.update_self] at there
    exact Or.inl ⟨here, (Option.some.inj there).symm⟩
  · rw [Function.update_of_ne here] at there
    exact Or.inr ⟨here, there⟩

theorem removes_none {x : Entry} (adds : op.entry = some x) : op.removes = none := by
  cases op <;> first | rfl | cases adds

/-- What a call removes is gone. -/
theorem Book.Next.gone_of {b b' : Book} {i : Int} {o : Seen} (next : Book.Next b (.call (.removeFdWatch i)) o b') (positive : 0 < i) :
    b'.entries i.toNat = none := by
  cases next with
  | added adds => cases adds
  | refused adds => cases adds
  | removed removes =>
    cases removes
    exact Function.update_self ..
  | unknown removes absent =>
    cases removes
    exact absent.resolve_left (by omega)

end

end ArtikSdk.Loop.Sources

namespace ArtikSdk.Mqtt.Sessions
open Lib

/-! ## Conditions -/

/-- `loop_handler` watches for the node at `a`. -/
def State.Watches (id a : Nat) (s : State) : Prop :=
  ∃ x, s.loop.book.entries id = some x ∧ x.func = loopHandler ∧ x.userData = a

/-- The handler of the node at `a` runs. -/
def State.Runs (a : Nat) (s : State) : Prop := ∃ stage, Frame.handler a stage ∈ s.frames

/-- There is a client at `a`. -/
def State.Has (a : Nat) (s : State) : Prop := ∃ i ∈ s.instances, i.obj = a

/-- An id that is picked is an `int`, and no node keeps it. -/
def State.Fresh (ids : Malloc) (s : State) : Prop :=
  ∀ id, ids.pick s.loop.attached = some id → id < 2 ^ 31 ∧ ∀ i ∈ s.instances, (s.nodes i.obj).watchId ≠ id

/-- Creating works, a node is not destroyed while its handler runs, and not connected while it is watched, only what
is there is disconnected, and ids are fresh. -/
def Event.Careful : Event → State → Prop
  | .create _ config answers, _ => answers.Works config ∧ answers.loop = true
  | .destroy handle _, s => ¬ s.Runs handle
  | .connect handle connects socketFd _ answers, s =>
    (connects = true → socketFd = -1 → ¬ s.Runs handle) ∧ (∀ id, ¬ s.Watches id handle) ∧ s.Fresh answers.ids
  | .disconnect handle, s => s.Has handle
  | .loop op, s => ∀ ids, op.ids = some ids → s.Fresh ids
  | _, _ => True

/-- What careful events keep. -/
structure State.Owned (s : State) : Prop where
  kept : s.Kept
  loop : s.loop.Kept
  linked : s.clients.Linked
  modules : ∀ n ∈ s.clients.requestedNode, n.loop = true
  positive : s.loop.book.entries 0 = none
  watched : ∀ id a, s.Watches id a → s.Has a ∧ (s.nodes a).watchId = id
  ids : ∀ i ∈ s.instances, ∀ id x, (s.nodes i.obj).watchId = (id : Nat) → s.loop.book.entries id = some x →
    x.func = loopHandler ∧ x.userData = i.obj
  frames : ∀ a, s.Runs a → s.Has a

/-! ## One event -/

/-- An answer that uses nothing that was freed, nor a node that is not there, and keeps things in order. -/
structure Sound (r : Except Fault (State × Output)) : Prop where
  fault : ∀ f, r = .error f → ∃ g, f = .loop g ∧ g ≠ .freed
  owned : ∀ s' o, r = .ok (s', o) → s'.Owned

namespace State

variable {s s' : State} {handle : Nat} {o : Output} {removes : File → Bool}

theorem Owned.sound (owned : s.Owned) (o : Output) : Sound (.ok (s, o)) := by
  refine ⟨fun f failed => (by cases failed), fun s' o' same => ?_⟩
  cases same
  exact owned

theorem onLoop_error (kept : s.loop.Kept) {e : Loop.Sources.Event} {f : Fault} (failed : s.onLoop e = .error f) :
    ∃ g, f = .loop g ∧ g ≠ .freed := by
  unfold State.onLoop at failed
  have safe := (kept.fine e).safe
  cases answer : Loop.Sources.step e s.loop with
  | error g =>
    rw [answer] at failed safe
    cases failed
    exact ⟨g, rfl, fun freed => safe (congrArg _ freed)⟩
  | ok r =>
    rw [answer] at failed
    cases failed

theorem sound_onLoop (kept : s.loop.Kept) {e : Loop.Sources.Event} {k : State × Loop.Sources.Seen → Except Fault (State × Output)}
    (next : ∀ t seen, s.onLoop e = .ok (t, seen) → Sound (k (t, seen))) : Sound (s.onLoop e >>= k) := by
  cases answer : s.onLoop e with
  | error f => exact ⟨fun g failed => Except.error.inj failed ▸ onLoop_error kept answer, fun s' o answered => by cases answered⟩
  | ok r => exact next r.1 r.2 answer

theorem find_total {ns : List Client} (allocated : ∀ n ∈ ns, n.freed = false) : ∃ r, find handle ns = .ok r := by
  induction ns with
  | nil => exact ⟨none, rfl⟩
  | cons n ns ih =>
    rw [List.forall_mem_cons] at allocated
    rw [find, allocated.1, if_neg Bool.false_ne_true]
    split
    · exact ⟨some n, rfl⟩
    · exact ih allocated.2

theorem byHandle_total {t : Mqtt.State} (linked : t.Linked) (handle : Nat) : ∃ r, t.byHandle handle = .ok r := by
  unfold Mqtt.State.byHandle
  split
  · exact ⟨none, rfl⟩
  · exact find_total linked

theorem sound_byHandle (linked : s.clients.Linked) {k : Option Client → Except Fault (State × Output)}
    (next : ∀ r, s.byHandle handle = .ok r → Sound (k r)) : Sound (s.byHandle handle >>= k) := by
  obtain ⟨r, found⟩ := byHandle_total linked handle
  rw [byHandle_iff.2 found]
  exact next r (byHandle_iff.2 found)

/-- The clients stay, and no entry is made. -/
theorem Owned.shrink (owned : s.Owned) (clients : s'.clients = s.clients) (nodes : s'.nodes = s.nodes)
    (instances : s'.instances = s.instances) (made : s'.made = s.made) (loop : s'.loop.Kept)
    (entries : ∀ id x, s'.loop.book.entries id = some x → s.loop.book.entries id = some x)
    (frames : ∀ a, s'.Runs a → s.Runs a ∨ s.Has a) : s'.Owned := by
  have has : ∀ a, s.Has a → s'.Has a := fun a => by rw [Has, Has, instances]; exact id
  refine ⟨?_, loop, clients ▸ owned.linked, clients ▸ owned.modules, ?_, ?_, ?_, ?_⟩
  · exact Same.kept ⟨clients, instances, made, fun a => by rw [nodes], fun a => by rw [nodes]⟩ owned.kept
  · refine Option.eq_none_iff_forall_not_mem.2 fun x there => ?_
    have := entries 0 x there
    rw [owned.positive] at this
    cases this
  · rintro id a ⟨x, there, handler, here⟩
    obtain ⟨client, keeps⟩ := owned.watched id a ⟨x, entries id x there, handler, here⟩
    exact ⟨has a client, nodes ▸ keeps⟩
  · rw [instances, nodes]
    exact fun i member id x keeps there => owned.ids i member id x keeps (entries id x there)
  · exact fun a runs => has a ((frames a runs).elim (owned.frames a) fun client => client)

/-- What the loop does besides adding. -/
theorem Owned.onLoop (owned : s.Owned) {e : Loop.Sources.Event} {seen : Loop.Sources.Seen}
    (nothing : ∀ op, e = .call op → op.entry = none) (answered : s.onLoop e = .ok (s', seen)) :
    s'.Owned := by
  obtain ⟨called, same⟩ := onLoop_ok answered
  have fine := owned.loop.fine e
  rw [same]
  exact owned.shrink rfl rfl rfl rfl (fine.kept _ _ called)
    (fun id x there => (fine.next _ _ called).shrinks nothing id there) fun a runs => Or.inl runs

theorem Owned.leave (owned : s.Owned) {rest : List Frame} (fewer : ∀ f ∈ rest, f ∈ s.frames) (ret : Int) : Sound (s.leave rest ret) := by
  unfold State.leave
  constructor
  · intro f failed
    cases answer : s.onLoop (.back ret) with
    | error g =>
      rw [answer] at failed
      cases failed
      exact onLoop_error owned.loop answer
    | ok r =>
      rw [answer] at failed
      cases failed
  · intro s' o answered
    obtain ⟨⟨t, seen⟩, called, same⟩ := map_ok_iff.1 answered
    cases same
    have after := owned.onLoop (fun op call => by cases call) called
    obtain ⟨-, same⟩ := onLoop_ok called
    rw [same] at after ⊢
    exact after.shrink rfl rfl rfl rfl after.loop (fun _ _ there => there) fun a ⟨stage, runs⟩ => Or.inl ⟨stage, fewer _ runs⟩

/-- A node that is destroyed takes its watch with it. -/
theorem Owned.destroy (owned : s.Owned) (removes : File → Bool) (idle : ¬ s.Runs handle) :
    (∀ f, mqttDestroyClient handle removes s = .error f → ∃ g, f = .loop g ∧ g ≠ .freed) ∧
      ∀ s', mqttDestroyClient handle removes s = .ok s' → s'.Owned := by
  constructor
  · intro f failed
    unfold mqttDestroyClient at failed
    obtain ⟨r, found⟩ := byHandle_total owned.linked handle
    rw [byHandle_iff.2 found] at failed
    cases r with
    | none => cases failed
    | some client =>
      obtain ⟨-, there, -⟩ := owned.kept.found (byHandle_iff.2 found)
      dsimp only [bind, Except.bind] at failed
      rw [if_neg (by rw [owned.modules client (List.mem_of_mem_filter there)]; decide)] at failed
      dsimp only [pure, Except.pure] at failed
      cases answer : s.onLoop (.call (.removeFdWatch (s.nodes client.address).watchId)) with
      | error g =>
        rw [answer] at failed
        cases failed
        exact onLoop_error owned.loop answer
      | ok q =>
        obtain ⟨t, seen⟩ := q
        obtain ⟨-, same⟩ := onLoop_ok answer
        have found' : t.clients.byHandle handle = .ok (some client) := same ▸ found
        rw [answer] at failed
        dsimp only at failed
        unfold destroyClient at failed
        rw [found'] at failed
        cases failed
  · intro s' answered
    obtain ⟨-, rfl⟩ | ⟨-, member, after, instances, nodes, frames, clients, seen, called⟩ := owned.kept.destroy answered
    · exact owned
    · have fine := owned.loop.fine (.call (.removeFdWatch (s.nodes handle).watchId))
      have next := fine.next _ _ called
      have entries : ∀ id x, s'.loop.book.entries id = some x → s.loop.book.entries id = some x :=
        fun id x there => next.shrinks (fun op call => by cases call; rfl) id there
      have left : ∀ a, a ≠ handle → s.Has a → s'.Has a := by
        rintro a other ⟨i, there, rfl⟩
        refine ⟨i, ?_, rfl⟩
        rw [instances, List.mem_filter, decide_eq_true_iff]
        exact ⟨there, fun same => other (congrArg Instance.obj (owned.kept.number_eq there member same))⟩
      have sub : ∀ n ∈ s'.clients.requestedNode, n ∈ s.clients.requestedNode :=
        fun n stays => List.mem_of_mem_eraseP (clients ▸ stays)
      refine ⟨after, fine.kept _ _ called, fun n stays => owned.linked n (sub n stays), fun n stays => owned.modules n (sub n stays),
        ?_, ?_, ?_, ?_⟩
      · refine Option.eq_none_iff_forall_not_mem.2 fun x there => ?_
        have := entries 0 x there
        rw [owned.positive] at this
        cases this
      · rintro id a ⟨x, there, handler, here⟩
        obtain ⟨client, keeps⟩ := owned.watched id a ⟨x, entries id x there, handler, here⟩
        refine ⟨left a ?_ client, nodes ▸ keeps⟩
        -- its watch was removed
        rintro rfl
        have positive : 0 < id := by
          refine Nat.pos_of_ne_zero ?_
          rintro rfl
          have zero := entries 0 x there
          rw [owned.positive] at zero
          cases zero
        have gone := next.gone_of (by omega)
        rw [keeps, Int.toNat_natCast, there] at gone
        cases gone
      · rw [instances, nodes]
        exact fun i stays id x keeps there => owned.ids i (List.mem_of_mem_filter stays) id x keeps (entries id x there)
      · rintro a ⟨stage, runs⟩
        rw [frames] at runs
        refine left a ?_ (owned.frames a ⟨stage, runs⟩)
        rintro rfl
        exact idle ⟨stage, runs⟩

end State

namespace State

variable {s s' : State} {handle : Nat} {o : Output} {removes : File → Bool}

theorem Owned.create (owned : s.Owned) {pointer : Nat} {config : Config} {answers : CreateAnswers} (works : answers.Works config)
    (loop : answers.loop = true) : Sound (mqttCreateClient pointer config answers s) := by
  obtain ⟨t, shown, made, -, -⟩ := (create_iff owned.linked config answers).2 (Or.inr works)
  have answered : step (.create pointer config answers) s = mqttCreateClient pointer config answers s := rfl
  rw [← answered]
  refine ⟨fun f failed => ?_, fun s' o answer => ?_⟩
  · rw [answered, mqttCreateClient, onClients_ok.2 made] at failed
    dsimp only [bind, Except.bind] at failed
    split at failed <;> cases failed
  · have after := (owned.kept.next answer).1
    rw [answered, mqttCreateClient, onClients_ok.2 made] at answer
    obtain ⟨-, outcome⟩ := create_answered made
    obtain ⟨rfl, -, nodes⟩ | ⟨a, client, rfl, -, others, rfl, allocated, module', nodes⟩ := outcome
    · cases answer
      have same : t.requestedNode = s.clients.requestedNode := by
        obtain same | ⟨refused, -⟩ := nodes
        · exact same
        · rw [works.mosquittoNew] at refused
          cases refused
      refine ⟨after, owned.loop, ?_, ?_, owned.positive, owned.watched, owned.ids, owned.frames⟩
      · exact fun n member => owned.linked n (same ▸ member)
      · exact fun n member => owned.modules n (same ▸ member)
    · cases answer
      have unused : ∀ i ∈ s.instances, i.obj ≠ client.address := by
        intro i member
        rw [owned.kept.instances] at member
        obtain ⟨n, there, rfl⟩ := List.mem_map.1 member
        exact others n (List.mem_of_mem_filter there)
      have other : ∀ a, s.Has a → a ≠ client.address := by
        rintro a ⟨i, member, rfl⟩
        exact unused i member
      have has : ∀ a, s.Has a → ∃ i ∈ s.instances ++ [⟨s.made, client.address⟩], i.obj = a :=
        fun a ⟨i, member, here⟩ => ⟨i, List.mem_append_left _ member, here⟩
      refine ⟨after, owned.loop, ?_, ?_, owned.positive, ?_, ?_, ?_⟩
      · intro n member
        obtain old | last := List.mem_append.1 (nodes ▸ member)
        · exact owned.linked n old
        · exact List.mem_singleton.1 last ▸ allocated
      · intro n member
        obtain old | last := List.mem_append.1 (nodes ▸ member)
        · exact owned.modules n old
        · exact List.mem_singleton.1 last ▸ module'.trans loop
      · intro id a watches
        obtain ⟨client', keeps⟩ := owned.watched id a watches
        refine ⟨has a client', ?_⟩
        dsimp only
        rw [Function.update_of_ne (other a client')]
        exact keeps
      · intro i member id x keeps there
        dsimp only at keeps there
        obtain old | last := List.mem_append.1 member
        · rw [Function.update_of_ne (unused i old)] at keeps
          exact owned.ids i old id x keeps there
        · rw [List.mem_singleton.1 last, Function.update_self] at keeps
          obtain rfl : id = 0 := by
            have zero : (0 : Int) = id := keeps
            omega
          rw [owned.positive] at there
          cases there
      · exact fun a runs => has a (owned.frames a runs)

/-- Where the loop attaches a source, its id is new. -/
theorem added_entry (kept : s.loop.Kept) {op : Loop.Sources.Op} {r : Loop.Sources.Returned} {x : Loop.Sources.Entry}
    (adds : op.entry = some x) (called : s.onLoop (.call op) = .ok (s', .returned r)) :
    (s'.loop.book = s.loop.book ∧ r.source = none) ∨
      ∃ id ids, s'.loop.book = s.loop.book.set id x ∧ op.ids = some ids ∧ ids.pick s.loop.attached = some id ∧ 0 < id ∧
        r.source = some id := by
  obtain ⟨answered, -⟩ := onLoop_ok called
  have next := (kept.fine _).next _ _ answered
  have asked : ∀ id, r.source = some id → ∃ ids, op.ids = some ids ∧ ids.pick s.loop.attached = some id := by
    obtain ⟨⟨t, q⟩, answer, same⟩ := map_ok_iff.1 answered
    obtain ⟨-, shown⟩ := Prod.mk.inj same
    cases shown
    exact fun id => Loop.Sources.api_source answer
  generalize s'.loop.book = b at next ⊢
  cases next with
  | added adds' code source positive =>
    obtain ⟨ids, picks, picked⟩ := asked _ source
    cases adds.symm.trans adds'
    exact Or.inr ⟨_, ids, rfl, picks, picked, positive, source⟩
  | refused _ _ source => exact Or.inl ⟨rfl, source⟩
  | lost _ source => exact Or.inl ⟨rfl, source⟩
  | removed removes =>
    rw [Loop.Sources.removes_none adds] at removes
    cases removes
  | unknown removes =>
    rw [Loop.Sources.removes_none adds] at removes
    cases removes

end State

namespace State

variable {s s' : State} {handle : Nat} {o : Output} {removes : File → Bool}

/-- A source of something else is attached. -/
theorem Owned.added (owned : s.Owned) {id : Nat} {x : Loop.Sources.Entry} (clients : s'.clients = s.clients)
    (instances : s'.instances = s.instances) (made : s'.made = s.made) (nodes : s'.nodes = s.nodes) (frames : s'.frames = s.frames)
    (loop : s'.loop.Kept) (book : s'.loop.book = s.loop.book.set id x) (positive : 0 < id)
    (other : x.func ≠ loopHandler) (fresh : ∀ i ∈ s.instances, (s.nodes i.obj).watchId ≠ id) : s'.Owned := by
  have entries : ∀ j y, s'.loop.book.entries j = some y → j = id ∧ y = x ∨ j ≠ id ∧ s.loop.book.entries j = some y :=
    fun j y there => Loop.Sources.Book.set_some (book ▸ there)
  refine ⟨Same.kept ⟨clients, instances, made, fun a => by rw [nodes], fun a => by rw [nodes]⟩ owned.kept, loop, clients ▸ owned.linked,
    clients ▸ owned.modules, ?_, ?_, ?_, ?_⟩
  · rw [book, Loop.Sources.Book.set]
    exact (Function.update_of_ne (Nat.ne_of_lt positive) ..).trans owned.positive
  · rintro j a ⟨y, there, handler, here⟩
    obtain ⟨-, rfl⟩ | ⟨-, old⟩ := entries j y there
    · exact absurd handler other
    · rw [Has, instances, nodes]
      exact owned.watched j a ⟨y, old, handler, here⟩
  · rw [instances, nodes]
    intro i member j y keeps there
    obtain ⟨rfl, -⟩ | ⟨-, old⟩ := entries j y there
    · exact absurd keeps (fresh i member)
    · exact owned.ids i member j y keeps old
  · intro a runs
    rw [Runs, frames] at runs
    rw [Has, instances]
    exact owned.frames a runs

/-- The watch of a node that is not watched is attached. -/
theorem Owned.watch (owned : s.Owned) {id : Nat} {x : Loop.Sources.Entry} {i : Instance} (member : i ∈ s.instances)
    (unwatched : ∀ id, ¬ s.Watches id i.obj) (clients : s'.clients = s.clients) (instances : s'.instances = s.instances)
    (made : s'.made = s.made) (frames : s'.frames = s.frames)
    (nodes : s'.nodes = Function.update s.nodes i.obj { s.nodes i.obj with watchId := id }) (loop : s'.loop.Kept)
    (book : s'.loop.book = s.loop.book.set id x) (positive : 0 < id) (handler : x.func = loopHandler) (userData : x.userData = i.obj)
    (fresh : ∀ j ∈ s.instances, (s.nodes j.obj).watchId ≠ id) : s'.Owned := by
  have entries : ∀ j y, s'.loop.book.entries j = some y → j = id ∧ y = x ∨ j ≠ id ∧ s.loop.book.entries j = some y :=
    fun j y there => Loop.Sources.Book.set_some (book ▸ there)
  have rest : ∀ a, (s'.nodes a).mosq = (s.nodes a).mosq ∧ (s'.nodes a).entry = (s.nodes a).entry := by
    intro a
    rw [nodes]
    by_cases here : a = i.obj
    · rw [here, Function.update_self]
      exact ⟨rfl, rfl⟩
    · rw [Function.update_of_ne here]
      exact ⟨rfl, rfl⟩
  refine ⟨Same.kept ⟨clients, instances, made, fun a => (rest a).1, fun a => (rest a).2⟩ owned.kept, loop, clients ▸ owned.linked,
    clients ▸ owned.modules, ?_, ?_, ?_, ?_⟩
  · rw [book, Loop.Sources.Book.set]
    exact (Function.update_of_ne (Nat.ne_of_lt positive) ..).trans owned.positive
  · rintro j a ⟨y, there, handler', here⟩
    rw [Has, instances, nodes]
    obtain ⟨rfl, rfl⟩ | ⟨-, old⟩ := entries j y there
    · obtain rfl : i.obj = a := userData.symm.trans here
      rw [Function.update_self]
      exact ⟨⟨i, member, rfl⟩, rfl⟩
    · have watches : s.Watches j a := ⟨y, old, handler', here⟩
      have other : a ≠ i.obj := by
        rintro rfl
        exact unwatched j watches
      rw [Function.update_of_ne other]
      exact owned.watched j a watches
  · rw [instances, nodes]
    intro k member' j y keeps there
    by_cases here : k.obj = i.obj
    · rw [here, Function.update_self] at keeps
      obtain rfl : id = j := Int.natCast_inj.1 keeps
      obtain ⟨-, rfl⟩ | ⟨differs, -⟩ := entries id y there
      · exact ⟨handler, userData.trans here.symm⟩
      · exact absurd rfl differs
    · rw [Function.update_of_ne here] at keeps
      obtain ⟨rfl, -⟩ | ⟨-, old⟩ := entries j y there
      · exact absurd keeps (fresh k member')
      · exact owned.ids k member' j y keeps old
  · intro a runs
    rw [Runs, frames] at runs
    rw [Has, instances]
    exact owned.frames a runs

end State

namespace State

variable {s s' : State} {handle : Nat} {o : Output} {removes : File → Bool}

theorem Owned.connect (owned : s.Owned) {connects : Bool} {socketFd : Int} {answers : Loop.Sources.Answers}
    (idle : connects = true → socketFd = -1 → ¬ s.Runs handle) (unwatched : ∀ id, ¬ s.Watches id handle) (fresh : s.Fresh answers.ids) :
    Sound (mqttConnect handle connects socketFd removes answers s) := by
  refine sound_byHandle owned.linked fun r found => ?_
  cases r with
  | none => exact owned.sound _
  | some client =>
    obtain ⟨rfl, there, member⟩ := owned.kept.found found
    dsimp only
    split
    · exact owned.sound _
    · rename_i works
      rw [Bool.not_eq_false] at works
      split
      · rename_i broken
        obtain ⟨faults, after⟩ := owned.destroy removes (idle works broken)
        cases answer : mqttDestroyClient client.address removes s with
        | error f => exact ⟨fun g failed => Except.error.inj failed ▸ faults f answer, fun s' o answered => by cases answered⟩
        | ok t => exact (after t answer).sound _
      · rw [if_neg (by rw [owned.modules client (List.mem_of_mem_filter there)]; decide)]
        refine sound_onLoop owned.loop fun t seen called => ?_
        obtain ⟨answered, same⟩ := onLoop_ok called
        have after := (owned.loop.fine _).kept _ _ answered
        obtain ⟨⟨u, q⟩, answer, both⟩ := map_ok_iff.1 answered
        obtain ⟨-, rfl⟩ := Prod.mk.inj both
        refine Owned.sound ?_ _
        have told := Loop.Sources.watch_told answer
        rw [same] at called ⊢
        obtain ⟨book, source⟩ | ⟨id, ids, book, picks, picked, positive, source⟩ := added_entry owned.loop rfl called
        · rw [source] at told
          have unkept : State.keepId client.address (.returned q) { s with loop := t.loop } = { s with loop := t.loop } := by
            unfold State.keepId
            split
            · rename_i kept
              cases kept
              cases told
            · rfl
          rw [unkept]
          exact owned.shrink rfl rfl rfl rfl after (fun id x there => by rw [book] at there; exact there) fun a runs => Or.inl runs
        · cases picks
          obtain ⟨small, new⟩ := fresh id picked
          obtain ⟨code, told', source'⟩ := q
          dsimp only at told source
          subst source
          rw [Option.map_some, Loop.Sources.handed_small small] at told
          subst told
          exact owned.watch member unwatched rfl rfl rfl rfl rfl after book positive rfl rfl new

theorem Owned.dispatch (owned : s.Owned) {id : Nat} {revents : BitVec 32} : Sound (dispatch id revents s) := by
  refine sound_onLoop owned.loop fun t seen called => ?_
  have between := owned.onLoop (fun op call => by cases call) called
  dsimp only
  split
  · split
    · refine sound_byHandle between.linked fun r found => ?_
      cases r with
      | none => exact between.leave (fun f member => member) 0
      | some client =>
        obtain ⟨here, -, member⟩ := between.kept.found found
        refine Owned.sound ?_ _
        refine between.shrink rfl rfl rfl rfl between.loop (fun _ _ there => there) ?_
        rintro a ⟨stage, runs⟩
        obtain new | old := List.mem_cons.1 runs
        · cases new
          exact Or.inr ⟨_, member, here.symm⟩
        · exact Or.inl ⟨stage, old⟩
    · refine Owned.sound ?_ _
      refine between.shrink rfl rfl rfl rfl between.loop (fun _ _ there => there) ?_
      rintro a ⟨stage, runs⟩
      obtain new | old := List.mem_cons.1 runs
      · cases new
      · exact Or.inl ⟨stage, old⟩
  · exact between.sound _

theorem Has.there (owned : s.Owned) {a : Nat} (has : s.Has a) : s.there a = true := by
  obtain ⟨i, member, rfl⟩ := has
  rw [owned.kept.instances] at member
  obtain ⟨n, present, rfl⟩ := List.mem_map.1 member
  obtain ⟨member, allocated⟩ := List.mem_filter.1 present
  exact List.any_eq_true.2 ⟨n, member, by rw [allocated, decide_eq_true rfl]; rfl⟩

theorem Owned.goOn (owned : s.Owned) {works : Bool} : Sound (goOn works s) := by
  unfold Sessions.goOn
  split
  · rename_i a stage rest running
    have fewer : ∀ f ∈ rest, f ∈ s.frames := fun f member => running ▸ List.mem_cons_of_mem _ member
    have has : s.Has a := owned.frames a ⟨stage, running ▸ List.mem_cons_self ..⟩
    split
    · exact owned.leave fewer 0
    · split
      · exact owned.leave fewer 1
      · rw [if_pos (has.there owned)]
        refine Owned.sound ?_ _
        refine owned.shrink rfl rfl rfl rfl owned.loop (fun _ _ there => there) ?_
        rintro b ⟨stage', runs⟩
        obtain new | old := List.mem_cons.1 runs
        · cases new
          exact Or.inr has
        · exact Or.inl ⟨stage', fewer _ old⟩
  · exact owned.sound _

theorem Owned.goBack (owned : s.Owned) {ret : Int} : Sound (goBack ret s) := by
  unfold Sessions.goBack
  split
  · rename_i rest running
    exact owned.leave (fun f member => running ▸ List.mem_cons_of_mem _ member) ret
  · exact owned.sound _

theorem Owned.call (owned : s.Owned) {op : Loop.Sources.Op} (fresh : ∀ ids, op.ids = some ids → s.Fresh ids) : Sound (step (.loop op) s) := by
  rw [step]
  split
  · exact owned.sound _
  · rename_i other
    suffices Sound (s.onLoop (.call op) >>= fun r => .ok (r.1, .loop r.2)) by
      cases answer : s.onLoop (.call op) <;> rw [answer] at this <;> exact this
    refine sound_onLoop owned.loop fun t seen called => Owned.sound ?_ _
    cases adds : op.entry with
    | none => exact owned.onLoop (fun op' call => by cases call; exact adds) called
    | some x =>
      obtain ⟨answered, same⟩ := onLoop_ok called
      have after := (owned.loop.fine _).kept _ _ answered
      obtain ⟨⟨u, q⟩, answer, both⟩ := map_ok_iff.1 answered
      obtain ⟨-, rfl⟩ := Prod.mk.inj both
      rw [same] at called ⊢
      obtain ⟨book, -⟩ | ⟨id, ids, book, picks, picked, positive, -⟩ := added_entry owned.loop adds called
      · exact owned.shrink rfl rfl rfl rfl after (fun id x there => by rw [book] at there; exact there) fun a runs => Or.inl runs
      · refine owned.added rfl rfl rfl rfl rfl after book positive (fun handler => other ?_) (fresh ids picks id picked).2
        rw [adds, Option.any_some, handler]
        rfl

theorem Owned.ask (owned : s.Owned) {request : Option Request} {works : Bool} : Sound (s.ask handle request works) := by
  refine sound_byHandle owned.linked fun r found => ?_
  split <;> exact owned.sound _

theorem Owned.callBack (owned : s.Owned) (hook : Hook) (handle : Nat) (told : Told) : Sound (s.callBack hook handle told) := by
  refine sound_byHandle owned.linked fun r found => ?_
  cases r with
  | none => exact owned.sound _
  | some client =>
    dsimp only
    split <;> exact owned.sound _

/-- **A careful event** uses no node that was freed or is not there, and keeps things in order. -/
theorem Owned.step (owned : s.Owned) {e : Event} (careful : e.Careful s) : Sound (step e s) := by
  cases e with
  | create pointer config answers => exact owned.create careful.1 careful.2
  | destroy handle removes =>
    obtain ⟨faults, after⟩ := owned.destroy removes careful
    rw [Sessions.step]
    cases answer : mqttDestroyClient handle removes s with
    | error f => exact ⟨fun g failed => Except.error.inj failed ▸ faults f answer, fun s' o answered => by cases answered⟩
    | ok t => exact (after t answer).sound _
  | set hook handle cb userData =>
    rw [Sessions.step, setterOf_eq]
    refine sound_byHandle owned.linked fun r found => ?_
    cases r with
    | none => exact owned.sound _
    | some client =>
      obtain ⟨rfl, -, member⟩ := owned.kept.found found
      refine Owned.sound ?_ _
      obtain ⟨after, -⟩ := owned.kept.store (f := fun n =>
        { n with on := Function.update n.on hook cb, dataCb := Function.update n.dataCb hook userData }) rfl member
      have ids : ∀ a, ((s.store client.address fun n =>
          { n with on := Function.update n.on hook cb, dataCb := Function.update n.dataCb hook userData }).nodes a).watchId =
            (s.nodes a).watchId := by
        intro a
        dsimp only [State.store]
        by_cases here : a = client.address
        · rw [here, Function.update_self]
        · rw [Function.update_of_ne here]
      refine ⟨after, owned.loop, owned.linked, owned.modules, owned.positive, fun id a watches => ?_, fun i member' id x keeps => ?_, owned.frames⟩
      · rw [ids]
        exact owned.watched id a watches
      · rw [ids] at keeps
        exact owned.ids i member' id x keeps
  | connect handle connects socketFd removes answers => exact owned.connect careful.1 careful.2.1 careful.2.2
  | disconnect handle =>
    refine sound_byHandle owned.linked fun r found => ?_
    cases r with
    | none =>
      obtain ⟨i, member, here⟩ := careful
      exact absurd here (owned.kept.unfound found i member)
    | some client => exact owned.sound _
  | subscribe handle qos msgtopic works => exact owned.ask
  | unsubscribe handle msgTopic works => exact owned.ask
  | publish handle qos retain msgTopic payloadLen msgContent works => exact owned.ask
  | notes mosq note =>
    rw [Sessions.step]
    split
    · exact owned.sound _
    · rw [callbackOf_eq]
      split
      · exact owned.callBack _ _ _
      · obtain ⟨r, found⟩ := byHandle_total owned.linked (Instance.obj (by assumption))
        rw [byHandle_iff.2 found]
        exact owned.sound _
  | loop op => exact owned.call careful
  | dispatch id revents => exact owned.dispatch
  | goOn works => exact owned.goOn
  | goBack ret => exact owned.goBack

end State

theorem boot_owned (files : File → Option (List UInt8)) : (State.boot files).Owned := by
  refine ⟨boot_kept files, Loop.Sources.init_kept, ?_, ?_, rfl, ?_, ?_, ?_⟩
  · intro n member
    cases member
  · intro n member
    cases member
  · rintro id a ⟨x, there, -⟩
    cases there
  · intro i member
    cases member
  · rintro a ⟨stage, runs⟩
    cases runs

/-- A client is created, connects, and its handler runs. -/
def handled : List Event :=
  [.create 100 plain (CreateAnswers.working 2), .connect 2 true 5 (fun _ => true) ⟨true, Malloc.only 1⟩, .dispatch 1 1]

/-- A node that is destroyed while its handler runs is used after it was freed. -/
example : exec step (handled ++ [.destroy 2 fun _ => true, .goOn true]) (.boot fun _ => none) = .error (.client .freed) := rfl

end ArtikSdk.Mqtt.Sessions
