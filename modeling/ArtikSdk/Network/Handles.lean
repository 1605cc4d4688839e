import ArtikSdk.Lib.Run
import ArtikSdk.Network.Dhcp

/-!
# DHCP handles: the list against the starts

No stop takes a node from `requested_node`, and a start that fails behind `dhcpc_open` or behind
`artik_list_add` leaves its socket or its node. Everything else keeps the list and the handles that
are started the same, so that a renewal acts on a started one.
-/

namespace ArtikSdk.Network.Dhcp
open Lib ArtikSdk.Dhcp
open ArtikSdk.Dhcp.Client (DhcpcState)
open ArtikSdk.Dhcp.Server (ServerConfig checkDhcpServerConfig)

/-- The handles in `requested_node`. -/
def State.handles (s : State) : List Nat := s.requestedNode.map Node.handle

def Input.isStart : Input → Bool
  | .clientStart _ _ | .serverStart _ _ _ => true
  | _ => false

/-- The law of a call: what is listed after it is what is started, a start that fails leaves the list,
the sources of the loop and the sockets, and a renewal acts on a started handle. -/
structure HandleLaw (c : Call Input State Output) : Prop where
  listed : ∀ h, h ∈ c.after.handles ↔ h ∈ c.after.started
  clean : c.input.isStart = true → c.output ≠ .code .ok →
    c.after.requestedNode = c.before.requestedNode ∧ c.after.sources = c.before.sources ∧ c.after.sockets = c.before.sockets
  renews : ∀ h, c.output = .acts h → h ∈ c.before.started

/-- What is listed is started, and no handle is null. -/
structure State.Kept (s : State) : Prop where
  listed : ∀ h, h ∈ s.handles ↔ h ∈ s.started
  nonzero : 0 ∉ s.handles

theorem State.Kept.init : State.init.Kept := ⟨fun _ => Iff.rfl, by intro h; cases h⟩

/-! ## The condition -/

/-- Every step of a client start behind `dhcpc_open` works. -/
def ClientAnswers.Completes (answers : ClientAnswers) (s : State) : Prop :=
  ∃ ds, answers.request = some ds ∧ (answers.node.pick s.used).isSome ∧ answers.setting.applies ds = true ∧
    answers.gateway = .set ∧ (answers.timeout.pick s.attached).isSome

/-- Every step of a server stop works. -/
def StopAnswers.Completes (answers : StopAnswers) (sockfd : Option Nat) (watchId : Nat) (s : State) : Prop :=
  (s.close sockfd).isSome ∧ answers.close = true ∧ watchId ≠ 0 ∧ s.attached watchId = true ∧
    (answers.delAllroutes && answers.setDefaultroute && answers.setIpv4addr) = true

/-- A start that gets past `dhcpc_open`, or has its node, completes; no listed client is stopped, and
no listed server whose stop completes. -/
def Input.Fits (regexec : List Char → Bool) (inetAddr : List Char → Addr) : Input → State → Prop
  | .clientStart _ answers, s =>
    (answers.delAllroutes && answers.setDefaultroute && answers.getmacaddr) = true →
      ∀ h t, dhcpcOpen answers s = some (h, t) → answers.Completes t
  | .serverStart (some _) (some config) answers, s =>
    checkDhcpServerConfig regexec config = true → (answers.node.pick s.used).isSome →
      configures regexec inetAddr config answers.os = true
  | .clientStop handle, s => handle ∉ s.handles
  | .serverStop handle answers, s =>
    ∀ n sockfd watchId, s.byHandle handle = some n → n.payload = .server sockfd watchId → ¬ answers.Completes sockfd watchId s
  | _, _ => True

/-! ## Frames -/

/-- The list, the sources, the sockets and the started handles are the same. -/
structure Same (s t : State) : Prop where
  requestedNode : t.requestedNode = s.requestedNode
  sources : t.sources = s.sources
  sockets : t.sockets = s.sockets
  started : t.started = s.started

theorem Same.refl (s : State) : Same s s := ⟨rfl, rfl, rfl, rfl⟩

theorem Same.assign (s : State) (place value : Nat) : Same s (s.assign place value) := ⟨rfl, rfl, rfl, rfl⟩

/-- The handles in the list and those that are started are the same. -/
structure Holds (s t : State) : Prop where
  handles : t.handles = s.handles
  started : t.started = s.started

variable {s t s' : State} {o : Output} {e : ArtikError}

theorem Holds.refl (s : State) : Holds s s := ⟨rfl, rfl⟩

theorem Holds.trans {r : State} (first : Holds r s) (second : Holds s t) : Holds r t :=
  ⟨second.handles.trans first.handles, second.started.trans first.started⟩

theorem Same.holds (same : Same s t) : Holds s t := ⟨congrArg (List.map Node.handle) same.requestedNode, same.started⟩

theorem Holds.kept (holds : Holds s t) (kept : s.Kept) : t.Kept :=
  ⟨fun h => by rw [holds.handles, holds.started]; exact kept.listed h, by rw [holds.handles]; exact kept.nonzero⟩

@[simp] theorem handles_addNode (n : Node) (s : State) : (s.addNode n).handles = s.handles ++ [n.handle] := by
  simp [State.addNode, State.handles]

@[simp] theorem handles_storeRenewCbkId (a id : Nat) (s : State) : (s.storeRenewCbkId a id).handles = s.handles := by
  unfold State.storeRenewCbkId State.handles
  rw [List.map_map]
  apply List.map_congr_left
  intro n _
  rw [Function.comp_apply]
  split
  · split <;> rfl
  · rfl

theorem Holds.storeRenewCbkId (a id : Nat) (s : State) : Holds s (s.storeRenewCbkId a id) := ⟨handles_storeRenewCbkId a id s, rfl⟩

theorem Holds.close {fd : Option Nat} (closed : s.close fd = some t) : Holds s t := by
  cases fd with
  | none => cases closed
  | some fd =>
    rw [State.close, Option.bind_some] at closed
    split at closed
    · cases closed
      exact ⟨rfl, rfl⟩
    · cases closed

theorem Holds.removeSource {id : Nat} (removed : s.removeSource id = some t) : Holds s t := by
  unfold State.removeSource at removed
  split at removed
  · cases removed
    exact ⟨rfl, rfl⟩
  · cases removed

/-- A handle is found exactly when a node of the list has it. -/
theorem byHandle_isSome (kept : s.Kept) (h : Nat) : (s.byHandle h).isSome ↔ h ∈ s.handles := by
  unfold State.byHandle State.handles
  by_cases null : h = 0
  · rw [if_pos null]
    have absent := kept.nonzero
    rw [← null] at absent
    exact iff_of_false Bool.false_ne_true absent
  · rw [if_neg null, List.find?_isSome, List.mem_map]
    simp only [decide_eq_true_eq]

/-! ## Clients -/

section Client

variable {handle : Option Nat} {answers : ClientAnswers} {h : Nat}

theorem dhcpcOpen_some (opened : dhcpcOpen answers s = some (h, t)) :
    ∃ fd, h ≠ 0 ∧ t = { s with dhcpcs := s.dhcpcs ++ [⟨h, fd⟩], sockets := s.sockets ++ [fd] } := by
  unfold dhcpcOpen at opened
  split at opened
  · rename_i h' fd address descriptor
    split at opened
    · cases opened
      exact ⟨fd, (answers.dhcpc.fresh _ _ address).1, rfl⟩
    · cases opened
  · cases opened

/-- A start that does not get past `dhcpc_open` fails and leaves everything. -/
theorem clientStart_early (early : (answers.delAllroutes && answers.setDefaultroute && answers.getmacaddr) = true → dhcpcOpen answers s = none)
    (answered : osDhcpClientStart handle answers s = .ok (s', e)) : e ≠ .ok ∧ Same s s' := by
  unfold osDhcpClientStart at answered
  split at answered
  · cases answered
    exact ⟨by decide, .refl s⟩
  · rename_i ready
    rw [early (Bool.eq_true_of_not_eq_false ready)] at answered
    cases handle with
    | none => cases answered
    | some place =>
      cases answered
      exact ⟨by decide, .assign s place 0⟩

/-- The end of a start on a node that is in the list already. -/
theorem clientConfigure_cases {ds : DhcpcState} {place a : Nat} (answered : clientConfigure answers ds place h a s = .ok (s', e)) :
    (e = .ok ∧ answers.setting.applies ds = true ∧ answers.gateway = .set ∧ (answers.timeout.pick s.attached).isSome ∧
      s'.handles = s.handles ∧ s'.started = s.started ++ [h]) ∨
    (e ≠ .ok ∧ ¬ (answers.setting.applies ds = true ∧ answers.gateway = .set ∧ (answers.timeout.pick s.attached).isSome) ∧ s' = s) := by
  unfold clientConfigure at answered
  split at answered
  · rename_i fails
    cases answered
    refine .inr ⟨by decide, ?_, rfl⟩
    rintro ⟨applies, gateway, -⟩
    rcases fails with fails | fails
    · exact absurd (applies.symm.trans fails) (by decide)
    · exact fails gateway
  · rename_i configured
    rw [not_or, not_not] at configured
    split at answered
    · cases answered
    · unfold State.addTimeoutCallback at answered
      cases armed : answers.timeout.pick s.attached with
      | none =>
        rw [armed] at answered
        cases answered
        refine .inr ⟨by decide, ?_, rfl⟩
        rintro ⟨-, -, given⟩
        cases given
      | some id =>
        rw [armed] at answered
        cases answered
        exact .inl ⟨rfl, Bool.eq_true_of_not_eq_false configured.1, configured.2, rfl, handles_storeRenewCbkId .., rfl⟩

/-- A start that gets past `dhcpc_open` works exactly when it completes; otherwise the socket stays. -/
theorem clientStart_late (ready : (answers.delAllroutes && answers.setDefaultroute && answers.getmacaddr) = true)
    (opened : dhcpcOpen answers s = some (h, t)) (answered : osDhcpClientStart handle answers s = .ok (s', e)) :
    (e = .ok ∧ answers.Completes t ∧ s'.handles = s.handles ++ [h] ∧ s'.started = s.started ++ [h]) ∨
    (e ≠ .ok ∧ ¬ answers.Completes t ∧ s'.sockets ≠ s.sockets) := by
  obtain ⟨fd, -, rfl⟩ := dhcpcOpen_some opened
  have longer : s.sockets ++ [fd] ≠ s.sockets := by simp
  unfold osDhcpClientStart at answered
  rw [if_neg (by rw [ready]; decide), opened] at answered
  cases handle with
  | none => cases answered
  | some place =>
    dsimp only at answered
    cases request : answers.request with
    | none =>
      rw [request] at answered
      cases answered
      refine .inr ⟨by decide, ?_, longer⟩
      rintro ⟨ds, result, -⟩
      cases request.symm.trans result
    | some ds =>
      rw [request] at answered
      dsimp only at answered
      split at answered
      · rename_i full
        cases answered
        refine .inr ⟨by decide, ?_, longer⟩
        rintro ⟨-, -, node, -⟩
        cases (congrArg Option.isSome full).symm.trans node
      · rename_i a node
        rcases clientConfigure_cases answered with ⟨rfl, applies, gateway, armed, handles, started⟩ | ⟨failed, fails, rfl⟩
        · refine .inl ⟨rfl, ⟨ds, request, ?_, applies, gateway, armed⟩, ?_, started⟩
          · exact congrArg Option.isSome node
          · rw [handles, handles_addNode]
            rfl
        · refine .inr ⟨failed, ?_, longer⟩
          rintro ⟨ds', request', -, applies, gateway, armed⟩
          obtain rfl : ds = ds' := Option.some.inj (request.symm.trans request')
          exact fails ⟨applies, gateway, armed⟩

/-- A client that is in the list is still there after its stop. -/
theorem clientStop_cases {h : Nat} (kept : s.Kept) (answered : osDhcpClientStop h s = .ok (s', e)) :
    (h ∉ s.handles ∧ s' = s) ∨ (h ∈ s.handles ∧ s'.handles = s.handles ∧ s'.started = s.started.filter fun h' => h' ≠ h) := by
  unfold osDhcpClientStop at answered
  have found := byHandle_isSome kept h
  cases entry : s.byHandle h with
  | none =>
    rw [entry] at answered found
    cases answered
    exact .inl ⟨fun member => absurd (found.2 member) Bool.false_ne_true, rfl⟩
  | some n =>
    rw [entry] at answered found
    dsimp only at answered
    split at answered
    · cases answered
    · cases answered
    · rename_i d _ _
      cases answered
      refine .inr ⟨found.1 rfl, ?_⟩
      have closed : Holds s (dhcpcClose d s) := by
        unfold dhcpcClose
        split
        · cases closing : s.close (some d.sockfd) with
          | none => exact ⟨rfl, rfl⟩
          | some u => exact (Holds.close closing).trans ⟨rfl, rfl⟩
        · exact ⟨rfl, rfl⟩
      exact ⟨closed.handles, congrArg (List.filter fun h' => decide (h' ≠ h)) closed.started⟩

end Client

/-! ## Renewals -/

section Renew

variable {answers : RenewAnswers} {place : Nat}

theorem dhcpClientRenew_holds {renewed : Bool} (answered : dhcpClientRenew place answers s = .ok (s', renewed)) : Holds s s' := by
  unfold dhcpClientRenew at answered
  split at answered
  · cases answered
    exact .refl s
  · split at answered
    · cases answered
    · cases answered
    · split at answered
      · cases answered
        exact .refl s
      · split at answered
        · cases answered
          exact .refl s
        · split at answered
          · cases answered
          · split at answered
            · cases answered
              exact .refl s
            · rename_i u removed
              have holds := Holds.removeSource removed
              split at answered
              · cases answered
                exact holds
              · cases answered
                exact holds.trans (Holds.trans (s := u.attach _) ⟨rfl, rfl⟩ (.storeRenewCbkId ..))

/-- A renewal changes neither the list nor what is started, and acts on the handle that it finds. -/
theorem onDhcpClientRenewCallback_cases (answered : onDhcpClientRenewCallback place answers s = .ok (s', o)) :
    Holds s s' ∧ ∀ h, o = .acts h → (s.byHandle h).isSome := by
  unfold onDhcpClientRenewCallback at answered
  split at answered
  · cases answered
    exact ⟨.refl s, fun h shown => by cases shown⟩
  · rename_i n found
    split at answered
    · cases answered
    · rename_i u renewed call
      have holds := dhcpClientRenew_holds call
      have acts : ∀ h, Output.acts (s.places place) = .acts h → (s.byHandle h).isSome := by
        intro h shown
        cases shown
        rw [found]
        rfl
      split at answered
      · cases answered
        exact ⟨holds, acts⟩
      · split at answered
        · cases answered
        · cases answered
          exact ⟨holds, acts⟩

theorem fire_cases {id : Nat} (answered : fire id answers s = .ok (s', o)) :
    Holds s s' ∧ ∀ h, o = .acts h → (s.byHandle h).isSome := by
  unfold fire at answered
  split at answered
  · split at answered
    · cases answered
    · rename_i u shown call
      cases answered
      obtain ⟨holds, acts⟩ := onDhcpClientRenewCallback_cases call
      exact ⟨holds.trans ⟨rfl, rfl⟩, acts⟩
  · cases answered
    exact ⟨.refl s, fun h shown => by cases shown⟩

end Renew

/-! ## Servers -/

section Server

variable {regexec : List Char → Bool} {inetAddr : List Char → Addr} {handle : Option Nat} {config : Option ServerConfig}
  {answers : ServerAnswers}

theorem dhcpdRun_holds {c : ServerConfig} {fd : Option Nat} {watchId : Nat} (ran : dhcpdRun answers c s = .ok (fd, watchId, t)) :
    Holds s t := by
  unfold dhcpdRun State.addFdWatch at ran
  split at ran
  · cases ran
  · split at ran
    · dsimp only at ran
      split at ran <;>
        · cases ran
          exact ⟨rfl, rfl⟩
    · cases ran
      exact ⟨rfl, rfl⟩

/-- A server start has its new node in the list, where it has one; it works exactly when the interface
can be configured. -/
theorem serverStart_cases (answered : osDhcpServerStart regexec inetAddr handle config answers s = .ok (s', e)) :
    ((Input.serverStart handle config answers).Fits regexec inetAddr s ∧ e ≠ .ok ∧ Same s s') ∨
    (¬ (Input.serverStart handle config answers).Fits regexec inetAddr s ∧ e ≠ .ok ∧ s'.requestedNode ≠ s.requestedNode) ∨
    ((Input.serverStart handle config answers).Fits regexec inetAddr s ∧ e = .ok ∧
      ∃ a, a ≠ 0 ∧ s'.handles = s.handles ++ [a] ∧ s'.started = s.started ++ [a]) := by
  unfold osDhcpServerStart at answered
  split at answered
  · rename_i place config
    split at answered
    · rename_i wrong
      cases answered
      refine .inl ⟨fun right => ?_, by decide, .refl s⟩
      exact absurd (right.symm.trans wrong) (by decide)
    · rename_i right
      have right := Bool.eq_true_of_not_eq_false right
      cases node : answers.node.pick s.used with
      | none =>
        rw [node] at answered
        cases answered
        refine .inl ⟨fun _ some => ?_, by decide, .refl s⟩
        rw [node] at some
        cases some
      | some a =>
        rw [node] at answered
        dsimp only at answered
        split at answered
        · rename_i fails
          cases answered
          refine .inr (.inl ⟨fun fits => ?_, by decide, by simp [State.addNode, State.assign]⟩)
          exact absurd ((fits right (by rw [node]; rfl)).symm.trans fails) (by decide)
        · rename_i works
          split at answered
          · cases answered
          · rename_i fd watchId u ran
            cases answered
            have holds := dhcpdRun_holds ran
            refine .inr (.inr ⟨fun _ _ => Bool.eq_true_of_not_eq_false works, rfl, a, (answers.node.fresh _ _ node).1, ?_, ?_⟩)
            · exact (handles_addNode _ u).trans (congrArg (· ++ [a]) holds.handles)
            · exact congrArg (· ++ [a]) holds.started
  · rename_i missing
    cases answered
    refine .inl ⟨?_, by decide, .refl s⟩
    match handle, config with
    | none, _ => trivial
    | some _, none => trivial
    | some place, some config => exact absurd rfl (missing place config rfl)

/-- The end of a server stop, behind the `close`. -/
theorem serverDown_cases {h watchId : Nat} {answers : StopAnswers} (answered : serverDown h watchId answers s = .ok (s', e)) :
    s'.handles = s.handles ∧
      ((¬ (watchId ≠ 0 ∧ s.attached watchId = true ∧ (answers.delAllroutes && answers.setDefaultroute && answers.setIpv4addr) = true) ∧
          s'.started = s.started) ∨
        ((watchId ≠ 0 ∧ s.attached watchId = true ∧ (answers.delAllroutes && answers.setDefaultroute && answers.setIpv4addr) = true) ∧
          s'.started = s.started.filter fun h' => h' ≠ h)) := by
  unfold serverDown State.removeSource at answered
  split at answered
  · cases answered
  · by_cases watching : watchId ≠ 0 ∧ s.attached watchId = true
    · rw [if_pos watching] at answered
      dsimp only at answered
      split at answered
      · rename_i fails
        cases answered
        refine ⟨rfl, .inl ⟨fun works => ?_, rfl⟩⟩
        exact absurd (works.2.2.symm.trans fails) (by decide)
      · rename_i works
        cases answered
        exact ⟨rfl, .inr ⟨⟨watching.1, watching.2, Bool.eq_true_of_not_eq_false works⟩, rfl⟩⟩
    · rw [if_neg watching] at answered
      cases answered
      exact ⟨rfl, .inl ⟨fun works => watching ⟨works.1, works.2.1⟩, rfl⟩⟩

theorem attached_close {fd : Option Nat} (closed : s.close fd = some t) (id : Nat) : t.attached id = s.attached id := by
  obtain ⟨fd, -, opened⟩ := Option.bind_eq_some_iff.1 closed
  split at opened
  · cases opened
    rfl
  · cases opened

variable (regexec inetAddr) in
/-- The stop of a server is judged by the socket and the watch of its node. -/
theorem serverStop_fits_iff {h watchId : Nat} {sockfd : Option Nat} {answers : StopAnswers} {n : Node} (found : s.byHandle h = some n)
    (payload : n.payload = .server sockfd watchId) :
    (Input.serverStop h answers).Fits regexec inetAddr s ↔ ¬ answers.Completes sockfd watchId s := by
  constructor
  · exact fun fits => fits n sockfd watchId found payload
  · intro fails n' sockfd' watchId' entry payload'
    obtain rfl : n = n' := Option.some.inj (found.symm.trans entry)
    cases payload.symm.trans payload'
    exact fails

variable (regexec inetAddr) in
/-- A server that is in the list is still there after its stop. -/
theorem serverStop_cases {h : Nat} {answers : StopAnswers} (kept : s.Kept) (answered : osDhcpServerStop h answers s = .ok (s', e)) :
    s'.handles = s.handles ∧
      (((Input.serverStop h answers).Fits regexec inetAddr s ∧ s'.started = s.started) ∨
        (¬ (Input.serverStop h answers).Fits regexec inetAddr s ∧ h ∈ s.handles ∧ s'.started = s.started.filter fun h' => h' ≠ h)) := by
  unfold osDhcpServerStop at answered
  have member := byHandle_isSome kept h
  cases found : s.byHandle h with
  | none =>
    rw [found] at answered
    cases answered
    refine ⟨rfl, .inl ⟨fun n sockfd watchId entry => ?_, rfl⟩⟩
    cases found.symm.trans entry
  | some n =>
    rw [found] at answered member
    dsimp only at answered
    cases payload : n.payload with
    | client id loopModule =>
      rw [payload] at answered
      cases answered
    | server sockfd watchId =>
      rw [payload] at answered
      rw [serverStop_fits_iff regexec inetAddr found payload]
      dsimp only at answered
      cases closing : s.close sockfd with
      | none =>
        rw [closing] at answered
        cases answered
        refine ⟨rfl, .inl ⟨fun completes => ?_, rfl⟩⟩
        cases (congrArg Option.isSome closing).symm.trans completes.1
      | some u =>
        rw [closing] at answered
        dsimp only at answered
        have holds := Holds.close closing
        split at answered
        · rename_i reports
          cases answered
          refine ⟨holds.handles, .inl ⟨fun completes => ?_, holds.started⟩⟩
          exact absurd (completes.2.1.symm.trans reports) (by decide)
        · rename_i silent
          obtain ⟨handles, cases⟩ := serverDown_cases answered
          rw [attached_close closing] at cases
          refine ⟨handles.trans holds.handles, ?_⟩
          rcases cases with ⟨fails, started⟩ | ⟨works, started⟩
          · exact .inl ⟨fun completes => fails completes.2.2, started.trans holds.started⟩
          · refine .inr ⟨not_not_intro ⟨?_, Bool.eq_true_of_not_eq_false silent, works⟩, member.1 rfl, ?_⟩
            · exact congrArg Option.isSome closing
            · rw [started, holds.started]

end Server

/-! ## Runs -/

section Runs

variable {regexec : List Char → Bool} {inetAddr : List Char → Addr}

/-- A call that is not a start and renews nothing has the law when it leaves the list and what is started. -/
theorem HandleLaw.of_holds {input : Input} (kept : s.Kept) (holds : Holds s s') (passive : input.isStart = false)
    (acts : ∀ h, o = .acts h → (s.byHandle h).isSome) : HandleLaw ⟨s, input, s', o⟩ where
  listed := (holds.kept kept).listed
  clean starts := absurd (passive.symm.trans starts) (by decide)
  renews h shown := (kept.listed h).1 ((byHandle_isSome kept h).1 (acts h shown))

/-- A start that fails and leaves everything has the law. -/
theorem HandleLaw.of_same {input : Input} (kept : s.Kept) (same : Same s s') (shown : o = .code e) : HandleLaw ⟨s, input, s', o⟩ where
  listed := (same.holds.kept kept).listed
  clean _ _ := ⟨same.requestedNode, same.sources, same.sockets⟩
  renews h acts := by cases shown.symm.trans acts

/-- A start that works and lists its handle has the law. -/
theorem HandleLaw.of_started {input : Input} {h : Nat} (kept : s.Kept) (handles : s'.handles = s.handles ++ [h])
    (started : s'.started = s.started ++ [h]) (shown : o = .code .ok) : HandleLaw ⟨s, input, s', o⟩ where
  listed h' := by
    dsimp only
    rw [handles, started, List.mem_append, List.mem_append, kept.listed]
  clean _ failed := absurd shown failed
  renews h' acts := by cases shown.symm.trans acts

/-- A stop that works leaves its handle in the list. -/
theorem HandleLaw.not_of_stopped {input : Input} {h : Nat} (listed : h ∈ s.handles) (handles : s'.handles = s.handles)
    (started : s'.started = s.started.filter fun h' => h' ≠ h) : ¬ HandleLaw ⟨s, input, s', o⟩ := by
  intro law
  have still := (law.listed h).1 (show h ∈ s'.handles by rw [handles]; exact listed)
  dsimp only at still
  rw [started] at still
  exact absurd rfl (of_decide_eq_true (List.mem_filter.1 still).2)

theorem coded_ok {r : Except Fault (State × ArtikError)} (answered : coded r = .ok (s', o)) : ∃ e, r = .ok (s', e) ∧ o = .code e := by
  obtain ⟨⟨t, e⟩, result, same⟩ := map_ok_iff.1 answered
  cases same
  exact ⟨e, result, rfl⟩

theorem clientStart_exact {handle : Option Nat} {answers : ClientAnswers} (kept : s.Kept)
    (answered : osDhcpClientStart handle answers s = .ok (s', e)) :
    HandleLaw ⟨s, .clientStart handle answers, s', .code e⟩ ↔ (Input.clientStart handle answers).Fits regexec inetAddr s := by
  by_cases ready : (answers.delAllroutes && answers.setDefaultroute && answers.getmacaddr) = true
  · cases opened : dhcpcOpen answers s with
    | none =>
      obtain ⟨-, same⟩ := clientStart_early (fun _ => opened) answered
      refine iff_of_true (.of_same kept same rfl) fun _ h t got => ?_
      cases opened.symm.trans got
    | some p =>
      have fits : (Input.clientStart handle answers).Fits regexec inetAddr s ↔ answers.Completes p.2 := by
        constructor
        · exact fun fits => fits ready p.1 p.2 opened
        · intro completes _ h t got
          cases opened.symm.trans got
          exact completes
      rw [fits]
      rcases clientStart_late ready opened answered with ⟨rfl, completes, handles, started⟩ | ⟨failed, fails, leaks⟩
      · exact iff_of_true (.of_started kept handles started rfl) completes
      · refine iff_of_false (fun law => ?_) fails
        exact leaks (law.clean rfl fun code => failed (Output.code.inj code)).2.2
  · obtain ⟨-, same⟩ := clientStart_early (fun now => absurd now ready) answered
    exact iff_of_true (.of_same kept same rfl) fun now => absurd now ready

/-- A call from a list that is what is started has the law exactly when it fits. -/
theorem step_exact {input : Input} (kept : s.Kept) (answered : step regexec inetAddr input s = .ok (s', o)) :
    HandleLaw ⟨s, input, s', o⟩ ↔ input.Fits regexec inetAddr s := by
  cases input with
  | clientStart handle answers =>
    obtain ⟨e, result, rfl⟩ := coded_ok answered
    exact clientStart_exact kept result
  | clientStop handle =>
    obtain ⟨e, result, rfl⟩ := coded_ok answered
    rcases clientStop_cases kept result with ⟨absent, rfl⟩ | ⟨listed, handles, started⟩
    · exact iff_of_true (.of_holds kept (.refl s') rfl fun h acts => by cases acts) absent
    · exact iff_of_false (HandleLaw.not_of_stopped listed handles started) (not_not_intro listed)
  | serverStart handle config answers =>
    obtain ⟨e, result, rfl⟩ := coded_ok answered
    rcases serverStart_cases result with ⟨fits, -, same⟩ | ⟨fails, failed, node⟩ | ⟨fits, rfl, a, -, handles, started⟩
    · exact iff_of_true (.of_same kept same rfl) fits
    · refine iff_of_false (fun law => ?_) fails
      exact node (law.clean rfl fun code => failed (Output.code.inj code)).1
    · exact iff_of_true (.of_started kept handles started rfl) fits
  | serverStop handle answers =>
    obtain ⟨e, result, rfl⟩ := coded_ok answered
    obtain ⟨handles, ⟨fits, started⟩ | ⟨fails, listed, started⟩⟩ :=
      serverStop_cases regexec inetAddr kept result
    · exact iff_of_true (.of_holds kept ⟨handles, started⟩ rfl fun h acts => by cases acts) fits
    · exact iff_of_false (HandleLaw.not_of_stopped listed handles started) fails
  | fire id answers =>
    obtain ⟨holds, acts⟩ := fire_cases answered
    exact iff_of_true (.of_holds kept holds rfl acts) trivial
  | recvFails fd =>
    cases answered
    refine iff_of_true (.of_holds kept ?_ rfl fun h acts => by cases acts) trivial
    cases closing : s.close (some fd) with
    | none => exact .refl s
    | some u => exact Holds.close closing
  | assign place value =>
    cases answered
    exact iff_of_true (.of_holds kept (Same.assign s place value).holds rfl fun h acts => by cases acts) trivial

/-- No call lists a null handle. -/
theorem step_nonzero {input : Input} (kept : s.Kept) (answered : step regexec inetAddr input s = .ok (s', o)) (fits : input.Fits regexec inetAddr s) :
    0 ∉ s'.handles := by
  have same : s'.handles = s.handles → 0 ∉ s'.handles := fun handles => by rw [handles]; exact kept.nonzero
  have added : ∀ h, h ≠ 0 → s'.handles = s.handles ++ [h] → 0 ∉ s'.handles := by
    intro h nonzero handles
    rw [handles, List.mem_append, List.mem_singleton, not_or]
    exact ⟨kept.nonzero, nonzero.symm⟩
  cases input with
  | clientStart handle answers =>
    obtain ⟨e, result, rfl⟩ := coded_ok answered
    by_cases ready : (answers.delAllroutes && answers.setDefaultroute && answers.getmacaddr) = true
    · cases opened : dhcpcOpen answers s with
      | none => exact same (clientStart_early (fun _ => opened) result).2.holds.handles
      | some p =>
        obtain ⟨fd, nonzero, -⟩ := dhcpcOpen_some opened
        rcases clientStart_late ready opened result with ⟨-, -, handles, -⟩ | ⟨-, fails, -⟩
        · exact added p.1 nonzero handles
        · exact absurd (fits ready p.1 p.2 opened) fails
    · exact same (clientStart_early (fun now => absurd now ready) result).2.holds.handles
  | clientStop handle =>
    obtain ⟨e, result, rfl⟩ := coded_ok answered
    rcases clientStop_cases kept result with ⟨-, rfl⟩ | ⟨-, handles, -⟩
    · exact kept.nonzero
    · exact same handles
  | serverStart handle config answers =>
    obtain ⟨e, result, rfl⟩ := coded_ok answered
    rcases serverStart_cases result with ⟨-, -, unchanged⟩ | ⟨fails, -, -⟩ | ⟨-, -, a, nonzero, handles, -⟩
    · exact same unchanged.holds.handles
    · exact absurd fits fails
    · exact added a nonzero handles
  | serverStop handle answers =>
    obtain ⟨e, result, rfl⟩ := coded_ok answered
    exact same (serverStop_cases regexec inetAddr kept result).1
  | fire id answers => exact same (fire_cases answered).1.handles
  | recvFails fd =>
    cases answered
    cases closing : s.close (some fd) with
    | none => exact kept.nonzero
    | some u =>
      rw [Option.getD_some, (Holds.close closing).handles]
      exact kept.nonzero
  | assign place value =>
    cases answered
    exact kept.nonzero

theorem step_kept {input : Input} (kept : s.Kept) (fits : input.Fits regexec inetAddr s)
    (answered : step regexec inetAddr input s = .ok (s', o)) : s'.Kept :=
  ⟨((step_exact kept answered).2 fits).listed, step_nonzero kept answered fits⟩

end Runs

/-- **Handles.** In a run of starts, stops, renewals and what the callers do with their variables, every
call has the law exactly when each start that gets past `dhcpc_open` (or `artik_list_add`) completes,
and nothing that is listed is stopped. -/
theorem handles_iff (regexec : List Char → Bool) (inetAddr : List Char → Addr) {calls : List (Call Input State Output)} {s : State}
    (run : Run (step regexec inetAddr) .init calls s) :
    (∀ c ∈ calls, HandleLaw c) ↔ ∀ c ∈ calls, c.input.Fits regexec inetAddr c.before :=
  Run.fits_iff (I := State.Kept) (fun _ _ _ _ kept answered => step_exact kept answered)
    (fun _ _ _ _ kept fits answered => step_kept kept fits answered) run .init

/-- A start whose every step works, with the handle `h`, the node at `a` and the timer `id`. -/
def ClientAnswers.working (h fd a id : Nat) : ClientAnswers :=
  ⟨true, true, true, .only h, .only fd, true, some .zero, .only a, true, .working, .set, .only id⟩

/-- A client is started, its timer fires, and the lease is renewed. -/
theorem handles_renewed : ∃ calls s, Run (step (fun _ => true) fun _ => 0) .init calls s ∧ calls.length = 2 ∧
    ((∀ c ∈ calls, HandleLaw c) ↔ ∀ c ∈ calls, c.input.Fits (fun _ => true) (fun _ => 0) c.before) := by
  have computed : execTest (step (fun _ => true) fun _ => 0)
      [.clientStart (some 1) (.working 8 3 16 1), .fire 1 ⟨some .zero, .working, .routeExists, .only 2, true, true⟩] .init
      (fun calls => calls.map Call.output == [.code .ok, .acts 8]) = true := by
    decide
  obtain ⟨calls, s, run, inputs, -⟩ := execTest_run computed
  exact ⟨calls, s, run, by simpa using congrArg List.length inputs, handles_iff _ _ run⟩

/-- A client that was started and stopped is still in the list, and its timer is still armed. -/
theorem handles_left : ¬ ∀ regexec inetAddr calls s, Run (step regexec inetAddr) .init calls s → ∀ c ∈ calls, HandleLaw c := by
  intro all
  have computed : execTest (step (fun _ => true) fun _ => 0) [.clientStart (some 1) (.working 8 3 16 1), .clientStop 8] .init
      (fun calls => calls.any fun c => 8 ∈ c.after.handles && 8 ∉ c.after.started) = true := by
    decide
  obtain ⟨calls, s, run, -, left⟩ := execTest_run computed
  obtain ⟨c, member, left⟩ := List.any_eq_true.1 left
  rw [Bool.and_eq_true, decide_eq_true_eq, decide_eq_true_eq] at left
  exact left.2 (((all _ _ calls s run c member).listed 8).1 left.1)

end ArtikSdk.Network.Dhcp
