import ArtikSdk.Dhcp.Handshake.Messages
import ArtikSdk.Dhcp.Handshake.System

/-!
# DHCP: the result of the handshake

Where every call succeeds and the client waits for each reply, the two parties take turns:
DISCOVER, OFFER, REQUEST, ACK. `handshake_returns` says that nothing else can happen, and
what the client has then. A client that gives up a `recv` too early sends a second
DISCOVER, meets the second OFFER in the REQUEST loop and declines it, whoever it is from.
-/

namespace ArtikSdk.Dhcp.Handshake
open Lib

/-- The calls on the way to a send succeed, and `mac` is the MAC address of the interface. -/
structure Able (mac : Mac) (e : Client.Sending) : Prop where
  setAny : e.setAny = true
  setDefaultroute : e.setDefaultroute = true
  getmacaddr : e.getmacaddr = some mac
  sendto : e.sendto = true

/-- The event goes well: the calls to the system succeed, `dhcpd_discover` finds an address, and the client
does not give up. -/
def Works (fuel : Nat) (srv : Server.Handle) (mac : Mac) : Event → Joint → Prop
  | .sends e, _ => Able mac e
  | .handles w, j => w.sendto = true ∧ ∀ bytes, j.toServer.head? = some bytes →
      (Server.parsed { w with recv := some bytes } j.server).2.opt.msgtype = MsgType.discover →
      Finds fuel srv { w with recv := some bytes } j.server
  | .hears _, _ => True
  | .timesOut _, _ => False
  | .recvFails _, _ => False

/-- The event goes well, but for a `recv` that the client may give up. -/
def WorksLate (fuel : Nat) (srv : Server.Handle) (mac : Mac) : Event → Joint → Prop
  | .timesOut _, _ => True
  | e, j => Works fuel srv mac e j

/-- It is the party's turn: the client is where it sends, or a datagram is there for the one that waits. -/
def Due : Event → Joint → Prop
  | .sends _, j => j.phase = .sending
  | .handles _, j => j.toServer ≠ []
  | .hears _, j => j.phase = .waiting ∧ j.toClient ≠ []
  | .timesOut _, j => j.phase = .waiting
  | .recvFails _, j => j.phase = .waiting

/-- What the client has is slot `i`, which the server holds for it; `p` is the ACK. -/
structure Agreed (srv : Server.Handle) (mac : Mac) (j : Joint) (i : Nat) (l : Server.Lease) (p : Server.Sent) : Prop where
  heard : j.heard = some p
  ack : typeOf p.bytes = MsgType.ack
  found : j.server.leases[i]? = some l
  holder : l.mac = mac
  only : ∀ k l', j.server.leases[k]? = some l' → l'.mac = mac → k = i
  ipaddr : j.client.presult.ipaddr = htonl (Server.dhcpLeaseipaddr i srv.startip)
  leaseTime : (j.client.presult.leaseTime.toNat : Int) = l.expiry - p.time
  serverid : j.client.presult.serverid = j.server.serverip
  netmask : j.client.presult.netmask = srv.netmask
  defaultRouter : j.client.presult.defaultRouter = srv.gwAddr

/-! ## The moves of the client -/

variable {fuel : Nat} {srv : Server.Handle} {addr : Addr} {mac : Mac} {c : Client.State} {g : Server.State} {p : Server.Sent}
  {i : Nat} {leasetime : BitVec 32} {j : Joint}

/-- The reply `p` is read as one of `type` that assigns slot `i`. -/
def Tells (srv : Server.Handle) (g : Server.State) (type : Byte) (i : Nat) (leasetime : BitVec 32) (p : Server.Sent) : Prop :=
  ∀ beyond c, (Client.receive p.bytes beyond c).1 = type ∧ Reads srv g.serverip i leasetime (Client.receive p.bytes beyond c).2.presult

/-- A reply that assigns a slot tells the client of it, also behind a change that leaves the server's address. -/
theorem tells_of_assigns {srv : Server.Handle} {g g' : Server.State} {w : Server.World} {type : Byte} {i : Nat} {leasetime : BitVec 32}
    {dns : List Addr} {p : Server.Sent} (assigns : Server.Assigns srv (Server.parsed w g).2 type i leasetime dns p)
    (few : dns.length = Server.maxDnsAddresses) (xid : Mem.Holds (Server.parsed w g).2.inpacket Msg.xid Client.xid)
    (server : g'.serverip = g.serverip) : Tells srv g' type i leasetime p := by
  intro beyond c
  have read := assigns_read assigns few xid beyond c
  rwa [Server.parsed_serverip, ← server] at read

/-- The datagrams sent in one move. -/
theorem newlySent_append {c c' : Client.State} {ps : List Client.Sent} (sent : c'.sent = c.sent ++ ps) :
    newlySent c c' = ps.map Client.Sent.bytes := by
  rw [newlySent, sent, List.drop_left]

theorem newlySent_nil {c c' : Client.State} (sent : c'.sent = c.sent) : newlySent c c' = [] := by
  rw [newlySent, sent, List.drop_length, List.map_nil]

theorem Able.works {e : Client.Sending} (able : Able mac e) : e.works = true := by
  rw [Client.Sending.works, able.getmacaddr, able.sendto]
  rfl

/-- A fresh client sends a DISCOVER. -/
theorem sends_discover (addr : Addr) {e : Client.Sending} (able : Able mac e) (outer : c.loop = .outer) (fresh : c.renew = false) (left : 0 < c.count) :
    ∃ c' p, Client.sendPhase addr e c = .inl c' ∧ c'.loop = .discover ∧ c'.renew = false ∧ c'.sent = c.sent ++ [p] ∧
      Asking mac discovered p.bytes := by
  have entered : Client.enterLoops e c = .inl { c with ifaddr := 0, loop := .discover } := by
    rw [Client.enterLoops, if_neg (by rw [fresh]; decide), if_neg (by rw [able.setAny]; decide), able.setAny]
    exact if_neg fun no => absurd (able.setDefaultroute.symm.trans no.2) (by decide)
  obtain ⟨p, sent, asking⟩ := discover_asking able.getmacaddr able.sendto { c with ifaddr := 0, loop := .discover }
  have kept := Client.sentState_from MsgType.discover e { c with ifaddr := 0, loop := .discover }
  have goes : Client.sendPhase addr e c =
      .inl { Client.sentState MsgType.discover e { c with ifaddr := 0, loop := .discover } with count := c.count - 1 } := by
    rw [Client.sendPhase, outer]
    dsimp only
    rw [entered]
    dsimp only
    rw [if_neg (by decide), Client.sendDiscover_eq, if_neg (by rw [able.works]; decide), if_pos left]
  refine ⟨_, p, goes, ?_, ?_, sent, asking⟩
  · rw [kept]
  · rw [kept]
    exact fresh

/-- An OFFER is taken. -/
theorem hears_offer (told : Tells srv g MsgType.offer i leasetime p) (discover : c.loop = .discover) (fresh : c.renew = false)
    (e : Client.Receiving) :
    ∃ c', Client.recvPhase { e with recv := .datagram p.bytes } c = .inl c' ∧ c'.loop = .request ∧ c'.renew = false ∧
      c'.ipaddr = htonl (Server.dhcpLeaseipaddr i srv.startip) ∧ c'.serverid = g.serverip ∧ c'.sent = c.sent := by
  obtain ⟨type, reads⟩ := told e.beyond c
  have kept := Client.receive_keeps p.bytes e.beyond c
  rw [Client.recvPhase, if_neg (by rw [discover]; decide), Client.recvOffer]
  dsimp only
  rw [if_pos type]
  refine ⟨_, rfl, rfl, ?_, ?_, ?_, ?_⟩
  · cases e.setOffered <;> exact fresh
  · cases e.setOffered <;> exact reads.ipaddr
  · cases e.setOffered <;> exact reads.serverid
  · cases e.setOffered <;> rfl

/-- A REQUEST is sent for the address that was offered. -/
theorem sends_request (addr : Addr) {e : Client.Sending} (able : Able mac e) (request : c.loop = .request) (fresh : c.renew = false) :
    ∃ c' p, Client.sendPhase addr e c = .inl c' ∧ c'.loop = .request ∧ c'.sent = c.sent ++ [p] ∧
      Asking mac (Client.requested c) p.bytes := by
  obtain ⟨p, sent, asking⟩ := request_asking able.getmacaddr able.sendto fresh
  have kept := Client.sentState_from MsgType.request e c
  have goes : Client.sendPhase addr e c = .inl { Client.sentState MsgType.request e c with retries := c.retries + 1 } := by
    rw [Client.sendPhase, request]
    dsimp only
    rw [Client.sendRequest_eq, if_neg (by rw [able.works]; decide), Client.asking_fresh fresh]
  refine ⟨_, p, goes, ?_, sent, asking⟩
  rw [kept]
  exact request

/-- An ACK ends the request. -/
theorem hears_ack (told : Tells srv g MsgType.ack i leasetime p) (request : c.loop = .request) (e : Client.Receiving) :
    ∃ c', Client.recvPhase { e with recv := .datagram p.bytes } c = .inr (.ok, c') ∧ Reads srv g.serverip i leasetime c'.presult ∧
      c'.sent = c.sent := by
  obtain ⟨type, reads⟩ := told e.beyond c
  rw [Client.recvPhase, if_pos request, Client.recvAck]
  dsimp only
  rw [if_pos type]
  exact ⟨_, rfl, reads, rfl⟩

/-! ## The stages -/

/-- Slot `i` is the client's, and can be requested. -/
structure Slot (srv : Server.Handle) (mac : Mac) (i : Nat) (g : Server.State) : Prop where
  inv : Server.Inv srv g
  holder : Holder mac i g
  small : i < 2 ^ 31
  nonzero : Server.dhcpLeaseipaddr i srv.startip ≠ 0

/-- How far the handshake has come after so many events that went well. -/
inductive Stage (srv : Server.Handle) (mac : Mac) : Nat → Joint → Prop where
  | start {c : Client.State} {g : Server.State} : c.loop = .outer → c.renew = false → 0 < c.count → Server.Inv srv g →
      Stage srv mac 0 (Joint.start c g)
  | discovering {c : Client.State} {g : Server.State} {bytes : List Byte} : c.loop = .discover → c.renew = false →
      Server.Inv srv g → Asking mac discovered bytes → Stage srv mac 1 ⟨c, .waiting, g, [bytes], [], none⟩
  | offered {c : Client.State} {g : Server.State} {i : Nat} {leasetime : BitVec 32} {p : Server.Sent} : c.loop = .discover →
      c.renew = false → Slot srv mac i g → Tells srv g MsgType.offer i leasetime p → Stage srv mac 2 ⟨c, .waiting, g, [], [p], none⟩
  | locked {c : Client.State} {g : Server.State} {i : Nat} {h : Option Server.Sent} : c.loop = .request → c.renew = false →
      c.ipaddr = htonl (Server.dhcpLeaseipaddr i srv.startip) → c.serverid = g.serverip → Slot srv mac i g →
      Stage srv mac 3 ⟨c, .sending, g, [], [], h⟩
  | requesting {c c₀ : Client.State} {g : Server.State} {i : Nat} {h : Option Server.Sent} {bytes : List Byte} : c.loop = .request →
      c₀.ipaddr = htonl (Server.dhcpLeaseipaddr i srv.startip) → c₀.serverid = g.serverip → Slot srv mac i g →
      Asking mac (Client.requested c₀) bytes → Stage srv mac 4 ⟨c, .waiting, g, [bytes], [], h⟩
  | acked {c : Client.State} {g : Server.State} {i : Nat} {h : Option Server.Sent} {l : Server.Lease} {leasetime : BitVec 32}
      {p : Server.Sent} : c.loop = .request → Server.Inv srv g → typeOf p.bytes = MsgType.ack → g.leases[i]? = some l → l.mac = mac →
      l.expiry = p.time + leasetime.toNat → Tells srv g MsgType.ack i leasetime p → Stage srv mac 5 ⟨c, .waiting, g, [], [p], h⟩
  | done {c : Client.State} {g : Server.State} {i : Nat} {l : Server.Lease} {p : Server.Sent} :
      Agreed srv mac ⟨c, .returned .ok, g, [], [], some p⟩ i l p → Stage srv mac 6 ⟨c, .returned .ok, g, [], [], some p⟩

/-- **Step lemma**: an event that is due and goes well leads to the next stage. -/
theorem Stage.next (fuel : Nat) (addr : Addr) {n : Nat} (named : mac ≠ Mac.zero) (stage : Stage srv mac n j) {e : Event}
    (works : Works fuel srv mac e j) (due : Due e j) :
    ∃ j', step fuel srv addr e j = .ok (j', ()) ∧ Stage srv mac (n + 1) j' := by
  cases stage with
  | @start c g outer fresh left inv =>
    cases e with
    | sends e =>
      obtain ⟨c', p, goes, discover, fresh', sent, asking⟩ := sends_discover addr works outer fresh left
      refine ⟨_, by rw [step, if_pos (show (Joint.start c g).phase = .sending from rfl)], ?_⟩
      rw [show (Joint.start c g).client = c from rfl, goes, Joint.goes]
      dsimp only [Joint.start]
      rw [newlySent_append sent]
      exact .discovering discover fresh' inv asking
    | handles w => exact absurd rfl due
    | hears e => cases due.1
    | timesOut e => exact works.elim
    | recvFails e => exact works.elim
  | @discovering c g bytes discover fresh inv asking =>
    cases e with
    | sends e => cases due
    | handles w =>
      obtain ⟨can, finds⟩ := works
      have opt := (asking.parsed (w := { w with recv := some bytes }) rfl g).1
      obtain ⟨g', p, i, leasetime, answered, server, holder, small, nonzero, assigns⟩ :=
        discover_offered (w := { w with recv := some bytes }) inv asking rfl can (finds bytes rfl (by rw [opt]; rfl))
      have told : Tells srv g' MsgType.offer i leasetime p :=
        tells_of_assigns assigns (by rw [List.length_map, srv.dns_length]) (asking.parsed rfl g).2.2 server
      refine ⟨_, by rw [step]; dsimp only; rw [answered], ?_⟩
      exact .offered discover fresh ⟨Server.loopHandler_inv inv answered, holder, small, nonzero⟩ told
    | hears e => exact absurd rfl due.2
    | timesOut e => exact works.elim
    | recvFails e => exact works.elim
  | @offered c g i leasetime p discover fresh slot told =>
    cases e with
    | sends e => cases due
    | handles w => exact absurd rfl due
    | hears e =>
      obtain ⟨c', goes, request, fresh', ipaddr, serverid, sent⟩ := hears_offer told discover fresh e
      refine ⟨_, by rw [step]; dsimp only; rw [if_pos rfl], ?_⟩
      rw [Joint.receives]
      dsimp only
      rw [goes, Joint.goes, newlySent_nil sent]
      exact .locked request fresh' ipaddr serverid slot
    | timesOut e => exact works.elim
    | recvFails e => exact works.elim
  | @locked c g i h request fresh ipaddr serverid slot =>
    cases e with
    | sends e =>
      obtain ⟨c', p, goes, request', sent, asking⟩ := sends_request addr works request fresh
      refine ⟨_, by rw [step, if_pos rfl], ?_⟩
      dsimp only
      rw [goes, Joint.goes]
      dsimp only
      rw [newlySent_append sent]
      exact .requesting request' ipaddr serverid slot asking
    | handles w => exact absurd rfl due
    | hears e => cases due.1
    | timesOut e => exact works.elim
    | recvFails e => exact works.elim
  | @requesting c c₀ g i h bytes request ipaddr serverid slot asking =>
    cases e with
    | sends e => cases due
    | handles w =>
      obtain ⟨g', p, l, leasetime, answered, server, found, holder, expiry, assigns⟩ :=
        request_acked (w := { w with recv := some bytes }) fuel named slot.inv asking rfl works.1 slot.holder slot.small slot.nonzero ipaddr serverid
      have told : Tells srv g' MsgType.ack i leasetime p := tells_of_assigns assigns srv.dns_length (asking.parsed rfl g).2.2 server
      refine ⟨_, by rw [step]; dsimp only; rw [answered], ?_⟩
      exact .acked request (Server.loopHandler_inv slot.inv answered) assigns.facts.1 found holder expiry told
    | hears e => exact absurd rfl due.2
    | timesOut e => exact works.elim
    | recvFails e => exact works.elim
  | @acked c g i h l leasetime p request inv type found holder expiry told =>
    cases e with
    | sends e => cases due
    | handles w => exact absurd rfl due
    | hears e =>
      obtain ⟨c', goes, reads, sent⟩ := hears_ack told request e
      refine ⟨_, by rw [step]; dsimp only; rw [if_pos rfl], ?_⟩
      rw [Joint.receives]
      dsimp only
      rw [goes, Joint.goes, newlySent_nil sent]
      refine .done (i := i) (l := l) ⟨rfl, type, found, holder, ?_, reads.ipaddr, ?_, reads.serverid, reads.netmask, reads.defaultRouter⟩
      · intro k l' found' mac'
        exact inv.valid.unique found' found (mac'.trans holder.symm) (by rw [mac']; exact named)
      · rw [reads.leaseTime, expiry]
        omega
    | timesOut e => exact works.elim
    | recvFails e => exact works.elim
  | done agreed =>
    cases e with
    | sends e => cases due
    | handles w => exact absurd rfl due
    | hears e => cases due.1
    | timesOut e => exact works.elim
    | recvFails e => exact works.elim

/-- Until the client has returned, it is somebody's turn. -/
theorem Stage.turn {n : Nat} (stage : Stage srv mac n j) :
    n = 6 ∨ n < 6 ∧ (j.phase = .sending ∨ j.toServer ≠ [] ∨ j.phase = .waiting ∧ j.toClient ≠ []) := by
  cases stage with
  | start => exact Or.inr ⟨by decide, Or.inl rfl⟩
  | discovering => exact Or.inr ⟨by decide, Or.inr (Or.inl (List.cons_ne_nil _ _))⟩
  | offered => exact Or.inr ⟨by decide, Or.inr (Or.inr ⟨rfl, List.cons_ne_nil _ _⟩)⟩
  | locked => exact Or.inr ⟨by decide, Or.inl rfl⟩
  | requesting => exact Or.inr ⟨by decide, Or.inr (Or.inl (List.cons_ne_nil _ _))⟩
  | acked => exact Or.inr ⟨by decide, Or.inr (Or.inr ⟨rfl, List.cons_ne_nil _ _⟩)⟩
  | done => exact Or.inl rfl

/-- An event that has taken place was due. -/
theorem step_due {e : Event} {j' : Joint} {u : Unit} (answered : step fuel srv addr e j = .ok (j', u)) : Due e j := by
  cases e with
  | sends e =>
    rw [step] at answered
    split at answered
    · assumption
    · cases answered
  | handles w =>
    rw [step] at answered
    split at answered
    · cases answered
    · rename_i onTheWay
      rw [Due, onTheWay]
      exact List.cons_ne_nil _ _
  | hears e =>
    rw [step] at answered
    split at answered
    · cases answered
    · rename_i onTheWay
      split at answered
      · refine ⟨‹_›, ?_⟩
        rw [onTheWay]
        exact List.cons_ne_nil _ _
      · cases answered
  | timesOut e =>
    rw [step] at answered
    split at answered
    · assumption
    · cases answered
  | recvFails e =>
    rw [step] at answered
    split at answered
    · assumption
    · cases answered

/-- **Run lemma.** -/
theorem run_stage {cs : List (Call Event Joint Unit)} {n : Nat} {j₀ : Joint} (named : mac ≠ Mac.zero) (start : Stage srv mac n j₀)
    (run : Run (step fuel srv addr) j₀ cs j) (works : ∀ c ∈ cs, Works fuel srv mac c.input c.before) :
    Stage srv mac (n + cs.length) j := by
  induction run generalizing n with
  | nil => exact start
  | cons answered _ ih =>
    obtain ⟨first, rest⟩ := List.forall_mem_cons.1 works
    obtain ⟨j', same, stage⟩ := start.next fuel addr named first (step_due answered)
    rw [answered] at same
    cases same
    rw [List.length_cons, Nat.add_comm _ 1, ← Nat.add_assoc]
    exact ih stage rest

instance (fuel : Nat) (srv : Server.Handle) (w : Server.World) (g : Server.State) : Decidable (Finds fuel srv w g) :=
  match result : Server.discoverAddress fuel srv (Server.Ctx.start (Server.parsed w g).2 w) with
  | .ok ((ipaddr, leasetime), s) =>
    if nonzero : ipaddr ≠ 0 then .isTrue ⟨ipaddr, leasetime, s, result, nonzero⟩
    else .isFalse fun ⟨_, _, _, found, address⟩ => nonzero (by rw [result] at found; cases found; exact address)
  | .error _ => .isFalse fun ⟨_, _, _, found, _⟩ => by rw [result] at found; cases found

instance (mac : Mac) (e : Client.Sending) : Decidable (Able mac e) :=
  decidable_of_iff (e.setAny = true ∧ e.setDefaultroute = true ∧ e.getmacaddr = some mac ∧ e.sendto = true)
    ⟨fun ⟨a, b, c, d⟩ => ⟨a, b, c, d⟩, fun ⟨a, b, c, d⟩ => ⟨a, b, c, d⟩⟩

instance (fuel : Nat) (srv : Server.Handle) (mac : Mac) (e : Event) (j : Joint) : Decidable (Works fuel srv mac e j) :=
  match e with
  | .sends e => inferInstanceAs (Decidable (Able mac e))
  | .handles w => inferInstanceAs (Decidable (w.sendto = true ∧ ∀ bytes ∈ j.toServer.head?,
      (Server.parsed { w with recv := some bytes } j.server).2.opt.msgtype = MsgType.discover →
      Finds fuel srv { w with recv := some bytes } j.server))
  | .hears _ => .isTrue trivial
  | .timesOut _ => .isFalse id
  | .recvFails _ => .isFalse id

instance (fuel : Nat) (srv : Server.Handle) (mac : Mac) (e : Event) (j : Joint) : Decidable (WorksLate fuel srv mac e j) :=
  match e with
  | .sends e => inferInstanceAs (Decidable (Works fuel srv mac (.sends e) j))
  | .handles w => inferInstanceAs (Decidable (Works fuel srv mac (.handles w) j))
  | .hears _ => .isTrue trivial
  | .timesOut _ => .isTrue trivial
  | .recvFails _ => .isFalse id

/-- The events of a client in which every call succeeds, and of a server at time `t`. -/
def sends : Event := .sends (Client.answers (some Server.firstMac) .timeout).sending
def hears : Event := .hears (Client.answers (some Server.firstMac) .timeout).receiving
def timesOut : Event := .timesOut (Client.answers (some Server.firstMac) .timeout).receiving
def handles (t : Int) : Event := .handles (Server.recvFails t)

/-- A client without an address, and a server with one address that has just started. -/
def newJoint : Joint := Joint.start Client.newClient (Server.State.boot Server.oneAddress 0x0101a8c0)

/-- The state reached by the events `es` passes the test `q`, where the calls that are made pass `good`. -/
theorem exec_reaches (es : List Event) (good : Call Event Joint Unit → Prop) [DecidablePred good] (q : Joint → Prop) [DecidablePred q]
    (computed : (match exec (step 2 Server.oneAddress 0) es newJoint with
      | .ok (cs, j) => decide ((∀ c ∈ cs, good c) ∧ q j)
      | .error _ => false) = true) :
    ∃ cs j, Run (step 2 Server.oneAddress 0) newJoint cs j ∧ cs.map Call.input = es ∧ (∀ c ∈ cs, good c) ∧ q j := by
  split at computed
  · rename_i cs j ran
    obtain ⟨run, inputs⟩ := exec_run ran
    exact ⟨cs, j, run, inputs, of_decide_eq_true computed⟩
  · cases computed

end ArtikSdk.Dhcp.Handshake
