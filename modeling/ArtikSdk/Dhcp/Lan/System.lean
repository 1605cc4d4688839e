import ArtikSdk.Dhcp.Handshake.System
import ArtikSdk.Dhcp.Server.Exclusive

/-!
# DHCP: many clients and one server

Any number of hosts, each in a `dhcpc_request`, on one network with a running server. The
network loses, repeats, delays and reorders datagrams at will: nothing that has ever been
sent goes away, and any of it may arrive at any time, or never. A broadcast reaches every
host. What is sent to one address reaches the host that the server has just entered in its
ARP cache for it, the one with the MAC address in `chaddr`.
-/

namespace ArtikSdk.Dhcp.Lan
open Lib Handshake

/-- `INADDR_BROADCAST` -/
abbrev everyone : Addr := 0xffffffff

/-- A host in `dhcpc_request`, and the reply it has received last. -/
structure Host where
  client : Client.State
  phase : Phase
  heard : Option Server.Sent

/-- The hosts, the server, and the calls of `loop_handler` so far. -/
structure Net (ι : Type) where
  host : ι → Host
  server : Server.State
  served : Server.Calls

/-- Every reply so far, in the order in which they were sent. -/
def Net.replies {ι : Type} (net : Net ι) : List Server.Sent := net.served.flatMap Call.output

/-- `getmacaddr` answers with the host's own address, where it does. -/
def Own (mac : Mac) (answer : Option Mac) : Prop := answer = none ∨ answer = some mac

instance (mac : Mac) (answer : Option Mac) : Decidable (Own mac answer) := inferInstanceAs (Decidable (_ ∨ _))

/-- The host with address `mac` gets to see the reply. -/
def Reaches (mac : Mac) (p : Server.Sent) : Prop := p.dest = everyone ∨ chaddrOf p.bytes = mac

instance (mac : Mac) (p : Server.Sent) : Decidable (Reaches mac p) := inferInstanceAs (Decidable (_ ∨ _))

/-- A host goes on to its next `recv`; the server takes the `k`-th datagram that a host has
sent; the `recv` of a host ends, with the `k`-th reply, a timeout or an error. -/
inductive Event (ι : Type) where
  | sends (n : ι) (e : Client.Sending)
  | handles (n : ι) (k : Nat) (w : Server.World)
  | hears (n : ι) (k : Nat) (e : Client.Receiving)
  | timesOut (n : ι) (e : Client.Receiving)
  | recvFails (n : ι) (e : Client.Receiving)

/-- The host has gone on, to `phase` or out of `dhcpc_request`. -/
def Host.goes (h : Host) (phase : Phase) : Client.State ⊕ (Client.Status × Client.State) → Host
  | .inl c => { h with client := c, phase := phase }
  | .inr (status, c) => { h with client := c, phase := .returned status }

/-- The `recv` of the host comes to `r`. -/
def Host.receives (h : Host) (e : Client.Receiving) (r : Client.Recv) : Host :=
  h.goes .sending (Client.recvPhase { e with recv := r } h.client)

/-- The host waits for a reply, and is called `mac`. -/
def Host.Waits (h : Host) (mac : Mac) (e : Client.Receiving) : Prop := h.phase = .waiting ∧ Own mac e.getmacaddr

instance (h : Host) (mac : Mac) (e : Client.Receiving) : Decidable (h.Waits mac e) := inferInstanceAs (Decidable (_ ∧ _))

section
variable {ι : Type} [DecidableEq ι]

def Net.setHost (net : Net ι) (n : ι) (h : Host) : Net ι := { net with host := Function.update net.host n h }

/-- `loop_handler` has answered `w`. -/
def Net.serve (net : Net ι) (w : Server.World) (g : Server.State) (ps : List Server.Sent) : Net ι :=
  { net with server := g, served := net.served ++ [⟨net.server, w, g, ps⟩] }

/-- One event; `addr n` is the address that host `n` renews. -/
def step (fuel : Nat) (srv : Server.Handle) (mac : ι → Mac) (addr : ι → Addr) : Event ι → Net ι → Except Stop (Net ι × Unit)
  | .sends n e, net =>
    if (net.host n).phase = .sending ∧ Own (mac n) e.getmacaddr then
      .ok (net.setHost n ((net.host n).goes .waiting (Client.sendPhase (addr n) e (net.host n).client)), ())
    else .error .notDue
  | .handles n k w, net =>
    match (net.host n).client.sent[k]? with
    | none => .error .notDue
    | some s =>
      match Server.loopHandler fuel srv { w with recv := some s.bytes } net.server with
      | .ok (g, ps) => .ok (net.serve { w with recv := some s.bytes } g ps, ())
      | .error f => .error (.fault f)
  | .hears n k e, net =>
    match net.replies[k]? with
    | none => .error .notDue
    | some p =>
      if (net.host n).Waits (mac n) e ∧ Reaches (mac n) p then
        .ok (net.setHost n ({ net.host n with heard := some p }.receives e (.datagram p.bytes)), ())
      else .error .notDue
  | .timesOut n e, net =>
    if (net.host n).Waits (mac n) e then .ok (net.setHost n ((net.host n).receives e .timeout), ()) else .error .notDue
  | .recvFails n e, net =>
    if (net.host n).Waits (mac n) e then .ok (net.setHost n ((net.host n).receives e .error), ()) else .error .notDue

/-- Every host enters `dhcpc_request`, and the server has just started. -/
def Net.start (client : ι → Client.State) (srv : Server.Handle) (serverip : Addr) : Net ι :=
  ⟨fun n => ⟨client n, .sending, none⟩, Server.State.boot srv serverip, []⟩

/-- What an event that is due does. -/
inductive Moves (fuel : Nat) (srv : Server.Handle) (mac : ι → Mac) (addr : ι → Addr) (net : Net ι) : Net ι → Prop where
  | sent (n : ι) (e : Client.Sending) : (net.host n).phase = .sending → Own (mac n) e.getmacaddr →
      Moves fuel srv mac addr net (net.setHost n ((net.host n).goes .waiting (Client.sendPhase (addr n) e (net.host n).client)))
  | handled {n : ι} {s : Client.Sent} {g : Server.State} {ps : List Server.Sent} (w : Server.World) : s ∈ (net.host n).client.sent →
      w.recv = some s.bytes → Server.loopHandler fuel srv w net.server = .ok (g, ps) →
      Moves fuel srv mac addr net (net.serve w g ps)
  | heard {p : Server.Sent} (n : ι) (e : Client.Receiving) : (net.host n).Waits (mac n) e → p ∈ net.replies → Reaches (mac n) p →
      Moves fuel srv mac addr net (net.setHost n ({ net.host n with heard := some p }.receives e (.datagram p.bytes)))
  | gaveUp (n : ι) (e : Client.Receiving) (r : Client.Recv) : (net.host n).Waits (mac n) e → (∀ bytes, r ≠ .datagram bytes) →
      Moves fuel srv mac addr net (net.setHost n ((net.host n).receives e r))

variable {fuel : Nat} {srv : Server.Handle} {mac : ι → Mac} {addr : ι → Addr} {net net' : Net ι}

theorem step_moves {e : Event ι} {u : Unit} (answered : step fuel srv mac addr e net = .ok (net', u)) :
    Moves fuel srv mac addr net net' := by
  cases e with
  | sends n e =>
    rw [step] at answered
    split at answered
    · rename_i due
      cases answered
      exact .sent n e due.1 due.2
    · cases answered
  | handles n k w =>
    rw [step] at answered
    split at answered
    · cases answered
    · rename_i s sent
      split at answered
      · rename_i handled
        cases answered
        exact .handled _ (List.mem_of_getElem? sent) rfl handled
      · cases answered
  | hears n k e =>
    rw [step] at answered
    split at answered
    · cases answered
    · rename_i p onTheWay
      split at answered
      · rename_i due
        cases answered
        exact .heard n e due.1 (List.mem_of_getElem? onTheWay) due.2
      · cases answered
  | timesOut n e =>
    rw [step] at answered
    split at answered
    · rename_i due
      cases answered
      exact .gaveUp n e _ due (by simp)
    · cases answered
  | recvFails n e =>
    rw [step] at answered
    split at answered
    · rename_i due
      cases answered
      exact .gaveUp n e _ due (by simp)
    · cases answered

@[simp] theorem setHost_self (net : Net ι) (n : ι) (h : Host) : (net.setHost n h).host n = h := Function.update_self ..

@[simp] theorem setHost_other {n k : ι} (other : k ≠ n) (net : Net ι) (h : Host) : (net.setHost n h).host k = net.host k :=
  Function.update_of_ne other ..

@[simp] theorem setHost_served (net : Net ι) (n : ι) (h : Host) : (net.setHost n h).served = net.served := rfl

@[simp] theorem setHost_replies (net : Net ι) (n : ι) (h : Host) : (net.setHost n h).replies = net.replies := rfl

/-! ## The clock of the server -/

/-- The clock that an event lets the server read. -/
def Event.clock? : Event ι → Option (Nat → Int)
  | .handles _ _ w => some w.clock
  | .sends .. | .hears .. | .timesOut .. | .recvFails .. => none

theorem step_clocks {e : Event ι} {u : Unit} (answered : step fuel srv mac addr e net = .ok (net', u)) :
    net'.served.map (fun c => c.input.clock) = net.served.map (fun c => c.input.clock) ++ e.clock?.toList := by
  cases e with
  | handles n k w =>
    rw [step] at answered
    split at answered
    · cases answered
    · split at answered
      · cases answered
        simp [Net.serve, Event.clock?]
      · cases answered
  | sends =>
    rw [step] at answered
    split at answered <;> cases answered
    simp [Event.clock?]
  | hears =>
    rw [step] at answered
    split at answered
    · cases answered
    · split at answered <;> cases answered
      simp [Event.clock?]
  | timesOut =>
    rw [step] at answered
    split at answered <;> cases answered
    simp [Event.clock?]
  | recvFails =>
    rw [step] at answered
    split at answered <;> cases answered
    simp [Event.clock?]

/-- The server has read the clocks of the events in their order. -/
theorem run_clocks {cs : List (Call (Event ι) (Net ι) Unit)} (run : Run (step fuel srv mac addr) net cs net') :
    net'.served.map (fun c => c.input.clock) = net.served.map (fun c => c.input.clock) ++ (cs.map Call.input).filterMap Event.clock? := by
  induction run with
  | nil => simp
  | @cons _ _ _ e _ _ answered _ ih =>
    rw [ih, step_clocks answered, List.append_assoc, List.map_cons, List.filterMap_cons]
    cases e.clock? <;> rfl

/-- A server whose events come at times in their order has been called in order. -/
theorem ordered_of_times {cs : List (Call (Event ι) (Net ι) Unit)} (times : List Int) (run : Run (step fuel srv mac addr) net cs net')
    (first : net.served = []) (clocks : (cs.map Call.input).filterMap Event.clock? = times.map fun t _ => t)
    (sorted : times.Pairwise (· ≤ ·)) : Server.Ordered net'.served := by
  have all := run_clocks run
  rw [first, clocks, List.map_nil, List.nil_append] at all
  constructor
  · intro c member j k _
    have there : c.input.clock ∈ times.map fun t _ => t := all ▸ List.mem_map_of_mem member
    obtain ⟨t, -, same⟩ := List.mem_map.1 there
    rw [← same]
  · have pairs : (net'.served.map fun c => c.input.clock).Pairwise fun f g => ∀ j k, f j ≤ g k := by
      rw [all]
      exact List.pairwise_map.2 (sorted.imp fun le _ _ => le)
    exact List.pairwise_map.1 pairs

end

end ArtikSdk.Dhcp.Lan
