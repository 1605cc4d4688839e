import ArtikSdk.Dhcp.Client.Request
import ArtikSdk.Dhcp.Server.Handler

/-!
# DHCP: one client and one server

`dhcpc_request` against `loop_handler`, with nobody else on the network. The channel keeps
the datagrams of each direction in order until the other party takes them; an event is one
move of a party, with what the world answers to it. How long a datagram is on the way is
left open, so the client may give up a `recv` at any time.
-/

namespace ArtikSdk.Dhcp.Handshake
open Lib

/-- Where the client is: in front of a send, in a `recv`, or back from `dhcpc_request`. -/
inductive Phase where
  | sending
  | waiting
  | returned (status : Client.Status)
deriving DecidableEq

/-- The two parties, the datagrams on the way, and the last one that the client has received. -/
structure Joint where
  client : Client.State
  phase : Phase
  server : Server.State
  toServer : List (List Byte)
  toClient : List Server.Sent
  heard : Option Server.Sent

/-- The client goes on to its next `recv`; the server takes a datagram; the `recv` of the
client ends, with a datagram, a timeout or an error. -/
inductive Event where
  | sends (e : Client.Sending)
  | handles (w : Server.World)
  | hears (e : Client.Receiving)
  | timesOut (e : Client.Receiving)
  | recvFails (e : Client.Receiving)

/-- Why there is no next state: it is not the party's turn, or `loop_handler` has faulted. -/
inductive Stop where
  | notDue
  | fault (f : Server.Fault)
deriving DecidableEq

/-- The datagrams that the client has sent between two states. -/
def newlySent (c c' : Client.State) : List (List Byte) := (c'.sent.drop c.sent.length).map Client.Sent.bytes

/-- The client has gone on, to `phase` or out of `dhcpc_request`. -/
def Joint.goes (j : Joint) (phase : Phase) : Client.State ⊕ (Client.Status × Client.State) → Joint
  | .inl c => { j with client := c, phase := phase, toServer := j.toServer ++ newlySent j.client c }
  | .inr (status, c) => { j with client := c, phase := .returned status, toServer := j.toServer ++ newlySent j.client c }

/-- The `recv` of the client comes to `r`. -/
def Joint.receives (j : Joint) (e : Client.Receiving) (r : Client.Recv) : Joint :=
  j.goes .sending (Client.recvPhase { e with recv := r } j.client)

/-- One event. What `recv` comes to is the channel's to say. -/
def step (fuel : Nat) (srv : Server.Handle) (addr : Addr) : Event → Joint → Except Stop (Joint × Unit)
  | .sends e, j => if j.phase = .sending then .ok (j.goes .waiting (Client.sendPhase addr e j.client), ()) else .error .notDue
  | .handles w, j =>
    match j.toServer with
    | [] => .error .notDue
    | bytes :: rest =>
      match Server.loopHandler fuel srv { w with recv := some bytes } j.server with
      | .ok (g, ps) => .ok ({ j with server := g, toServer := rest, toClient := j.toClient ++ ps }, ())
      | .error f => .error (.fault f)
  | .hears e, j =>
    match j.toClient with
    | [] => .error .notDue
    | p :: rest =>
      if j.phase = .waiting then .ok ({ j with toClient := rest, heard := some p }.receives e (.datagram p.bytes), ())
      else .error .notDue
  | .timesOut e, j => if j.phase = .waiting then .ok (j.receives e .timeout, ()) else .error .notDue
  | .recvFails e, j => if j.phase = .waiting then .ok (j.receives e .error, ()) else .error .notDue

/-- `dhcpc_request` is entered in the state `c`, and nothing is on the way. -/
def Joint.start (c : Client.State) (g : Server.State) : Joint := ⟨c, .sending, g, [], [], none⟩

@[simp] theorem goes_server (j : Joint) (phase : Phase) (r : Client.State ⊕ (Client.Status × Client.State)) :
    (j.goes phase r).server = j.server := by
  cases r <;> rfl

@[simp] theorem receives_server (j : Joint) (e : Client.Receiving) (r : Client.Recv) : (j.receives e r).server = j.server :=
  goes_server _ _ _

/-- What an event that is due does. -/
inductive Moves (fuel : Nat) (srv : Server.Handle) (addr : Addr) (j : Joint) : Joint → Prop where
  | sent (e : Client.Sending) : j.phase = .sending → Moves fuel srv addr j (j.goes .waiting (Client.sendPhase addr e j.client))
  | handled {bytes : List Byte} {rest : List (List Byte)} {g : Server.State} {ps : List Server.Sent} (w : Server.World) :
      j.toServer = bytes :: rest → Server.loopHandler fuel srv { w with recv := some bytes } j.server = .ok (g, ps) →
      Moves fuel srv addr j { j with server := g, toServer := rest, toClient := j.toClient ++ ps }
  | heard {p : Server.Sent} {rest : List Server.Sent} (e : Client.Receiving) : j.phase = .waiting → j.toClient = p :: rest →
      Moves fuel srv addr j ({ j with toClient := rest, heard := some p }.receives e (.datagram p.bytes))
  | gaveUp (e : Client.Receiving) (r : Client.Recv) : j.phase = .waiting → Moves fuel srv addr j (j.receives e r)

/-! ## The parties -/

variable {fuel : Nat} {srv : Server.Handle} {addr serverip : Addr} {c : Client.State} {j j' : Joint} {cs : List (Call Event Joint Unit)}

theorem step_moves {e : Event} {u : Unit} (answered : step fuel srv addr e j = .ok (j', u)) : Moves fuel srv addr j j' := by
  cases e with
  | sends e =>
    rw [step] at answered
    split at answered
    · rename_i due
      cases answered
      exact .sent e due
    · cases answered
  | handles w =>
    rw [step] at answered
    split at answered
    · cases answered
    · rename_i bytes rest onTheWay
      split at answered
      · rename_i handled
        cases answered
        exact .handled w onTheWay handled
      · cases answered
  | hears e =>
    rw [step] at answered
    split at answered
    · cases answered
    · rename_i p rest onTheWay
      split at answered
      · rename_i due
        cases answered
        exact .heard e due onTheWay
      · cases answered
  | timesOut e =>
    rw [step] at answered
    split at answered
    · rename_i due
      cases answered
      exact .gaveUp e _ due
    · cases answered
  | recvFails e =>
    rw [step] at answered
    split at answered
    · rename_i due
      cases answered
      exact .gaveUp e _ due
    · cases answered

/-- The server of a run is a server: it has been reached by calls of `loop_handler`. -/
theorem run_reached {g : Server.State} (reached : Server.Reached fuel srv serverip g)
    (run : Run (step fuel srv addr) (Joint.start c g) cs j) : Server.Reached fuel srv serverip j.server := by
  refine run.invariant (I := fun j => Server.Reached fuel srv serverip j.server) reached ?_
  intro e j j' _ reached answered
  cases step_moves answered with
  | sent e => rwa [goes_server]
  | handled w _ handled => exact Reachable.snoc reached handled
  | heard e => rwa [receives_server]
  | gaveUp e => rwa [receives_server]

/-- The client has come as far as `dhcpc_request` does in `n` turns. -/
def Follows (addr : Addr) (env : Nat → Client.Turn) (c : Client.State) (n : Nat) (j : Joint) : Prop :=
  match j.phase with
  | .sending => after (Client.round addr) env c n = .inl j.client
  | .waiting => ∃ t, after (Client.round addr) env c n = .inl t ∧ Client.sendPhase addr (env n).sending t = .inl j.client
  | .returned status => after (Client.round addr) env c n = .inr (status, j.client)

theorem Follows.sends {env : Nat → Client.Turn} {n : Nat} (follows : Follows addr env c n j) (due : j.phase = .sending)
    (e : Client.Sending) : ∃ env n, Follows addr env c n (j.goes .waiting (Client.sendPhase addr e j.client)) := by
  rw [Follows, due] at follows
  have here : after (Client.round addr) (Function.update env n ⟨e, (env n).receiving⟩) c n = .inl j.client :=
    (after_update _ _ _ _ _).trans follows
  cases sent : Client.sendPhase addr e j.client with
  | inl c' =>
    refine ⟨_, n, j.client, here, ?_⟩
    rw [Function.update_self]
    exact sent
  | inr r =>
    refine ⟨_, n + 1, (after_succ here).trans ?_⟩
    rw [Function.update_self, Client.round, sent]
    rfl

theorem Follows.receives {env : Nat → Client.Turn} {n : Nat} (follows : Follows addr env c n j) (due : j.phase = .waiting)
    (e : Client.Receiving) (r : Client.Recv) : ∃ env n, Follows addr env c n (j.receives e r) := by
  rw [Follows, due] at follows
  obtain ⟨t, here, sent⟩ := follows
  obtain ⟨env', there⟩ : ∃ env', after (Client.round addr) env' c (n + 1) = Client.recvPhase { e with recv := r } j.client := by
    refine ⟨Function.update env n ⟨(env n).sending, { e with recv := r }⟩, ?_⟩
    rw [after_succ ((after_update _ _ _ _ _).trans here), Function.update_self, Client.round, sent]
  refine ⟨env', n + 1, ?_⟩
  rw [Joint.receives]
  cases result : Client.recvPhase { e with recv := r } j.client with
  | inl c' => exact there.trans result
  | inr p => exact there.trans result

/-- The client of a run is a `dhcpc_request`. -/
theorem run_request {g : Server.State} (run : Run (step fuel srv addr) (Joint.start c g) cs j) :
    ∃ env n, Follows addr env c n j := by
  refine run.invariant (I := fun j => ∃ env n, Follows addr env c n j) ?_ ?_
  · exact ⟨fun _ => ⟨⟨false, false, none, false, false⟩, ⟨.error, fun _ => 0, false, none, false, false⟩⟩, 0, rfl⟩
  intro e j j' _ ⟨env, n, follows⟩ answered
  cases step_moves answered with
  | sent e due => exact follows.sends due e
  | handled w => exact ⟨env, n, follows⟩
  | @heard p rest e due => exact Follows.receives (j := { j with toClient := rest, heard := some p }) follows due e _
  | gaveUp e r due => exact follows.receives due e r

end ArtikSdk.Dhcp.Handshake
