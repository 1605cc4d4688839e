import ArtikSdk.Dhcp.Lan.Hosts
import ArtikSdk.Dhcp.Server.Destination

/-!
# DHCP: no two hosts with one address

A host tells the replies to others from its own neither by the `xid`, which all hosts
share, nor by `chaddr`. What keeps it from taking the lease of another is the server: an
ACK goes to the address of the one host it is for, never to all. So a host that is back
holds a slot that the server has granted to it, and hosts whose leases run at one time
have different addresses.
-/

namespace ArtikSdk.Dhcp.Lan
open Lib Handshake

/-! ## The network -/

/-- The parties: hosts with MAC addresses of their own, none of which is to use the
broadcast address, and a server that does not lease it. -/
structure Setup (ι : Type) where
  srv : Server.Handle
  serverip : Addr
  mac : ι → Mac
  addr : ι → Addr
  client : ι → Client.State
  distinct : Function.Injective mac
  named : ∀ n, mac n ≠ Mac.zero
  renewed : ∀ n, addr n ≠ everyone
  fresh : ∀ n, (client n).sent = [] ∧ (client n).ipaddr ≠ everyone ∧ (client n).presult.ipaddr ≠ everyone
  usable : ∀ i < srv.numLeases.toNat, htonl (Server.dhcpLeaseipaddr i srv.startip) ≠ everyone

section
variable {ι : Type} [DecidableEq ι]

/-- A state of the network, some events after its start. -/
def Setup.Reached (s : Setup ι) (fuel : Nat) (net : Net ι) : Prop :=
  Reachable (step fuel s.srv s.mac s.addr) (Net.start s.client s.srv s.serverip) net

end

/-- The host `mac` has read the ACK `p`, which grants it slot `i` for `leasetime` seconds. -/
structure Granted (srv : Server.Handle) (serverip : Addr) (mac : Mac) (i : Nat) (leasetime : BitVec 32) (p : Server.Sent)
    (r : Client.DhcpcState) : Prop where
  ack : typeOf p.bytes = MsgType.ack
  chaddr : chaddrOf p.bytes = mac
  bound : i < srv.numLeases.toNat
  yiaddr : yiaddrOf p.bytes = htonl (Server.dhcpLeaseipaddr i srv.startip)
  lease : optionOf Code.leaseTime p.bytes = some (Mem.wordBytes (htonl leasetime))
  reads : Reads srv serverip i leasetime r

/-! ## The replies -/

/-- What a reply to the host `mac` can do to any host that reads it: name an address, which
is not everyone's, and be taken for an ACK, if it is one. -/
structure Replies (srv : Server.Handle) (serverip : Addr) (mac : Mac) (p : Server.Sent) : Prop where
  address : ∀ beyond c, (Client.receive p.bytes beyond c).2.presult.ipaddr ≠ everyone
  granted : ∀ beyond c, (Client.receive p.bytes beyond c).1 = MsgType.ack →
    p.dest ≠ everyone ∧ ∃ i leasetime, Granted srv serverip mac i leasetime p (Client.receive p.bytes beyond c).2.presult

variable {fuel : Nat} {srv : Server.Handle} {serverip : Addr} {mac : Mac} {w : Server.World} {g g' : Server.State}
  {ps : List Server.Sent} {p : Server.Sent} {bytes : List Byte}

/-- A NAK is read as one, and names no address. -/
theorem replying_of_refusal (carried : Server.Carried g [0, 0, 0, 0] (Server.initOptions MsgType.nak g.serverip) p)
    (xid : Mem.Holds g.inpacket Msg.xid Client.xid) :
    Replying 0 MsgType.nak [(Code.serverId, Mem.wordBytes g.serverip)] p.bytes := by
  obtain ⟨g₀, g', same, reply, bytes⟩ := carried
  have len := reply.length
  have size : (Tlv.encode (Server.initOptions MsgType.nak g.serverip)).length = 9 := rfl
  rw [size] at len
  have held {a : Nat} {bs : List Byte} (holds : Mem.Holds g'.outpacket a bs) (inside : a + bs.length ≤ g'.datagram.length) :
      Mem.Holds (Mem.ofList g'.datagram) a bs := by
    refine holds.congr fun k low high => ?_
    rw [Server.State.datagram, Mem.load_length] at inside
    rw [Server.State.datagram, Mem.ofList_load _ (by omega)]
  have area := reply.area
  rw [Mem.holds_append] at area
  rw [bytes]
  refine ⟨⟨?_, ?_, held area.2 ?_, Server.initOptions_plain, ?_⟩, ?_, ?_, ?_, ?_⟩
  · rw [len, Msg.options, Msg.size]
    omega
  · rw [len]
    exact le_of_eq rfl
  · rw [len]
    exact le_of_eq rfl
  · intro o member valued
    simp only [List.mem_cons, List.not_mem_nil, or_false] at member
    rcases member with rfl | rfl
    · obtain server | ⟨f, code⟩ := valued
      · cases server
      · cases f <;> cases code
    · exact le_of_eq rfl
  · intro o member
    rw [List.mem_singleton.1 member]
    exact (by decide : Code.serverId ≠ Code.msgType)
  · exact Server.holds_byte.1 (held (Server.holds_byte.2 reply.op) (by rw [len]; decide))
  · have kept := reply.xid
    rw [same, show g.inpacket.load Msg.xid 4 = Client.xid from xid.load_eq] at kept
    exact held kept (by rw [len]; decide)
  · exact @Server.Reply.yiaddrOf _ _ 0 _ reply

/-- A host reads the address of an assignment in it. -/
theorem Replying.address {yi : Addr} {type : Byte} {os : List Tlv.Opt} (replying : Replying yi type os bytes)
    (beyond : Mem) (c : Client.State) : (Client.receive bytes beyond c).2.presult.ipaddr = yi := by
  rw [(replying.receive beyond c).2, Client.applied_ipaddr]

/-- A datagram of the host, once the server has it. -/
theorem Mine.parsed (mine : Mine mac bytes) (received : w.recv = some bytes) (g : Server.State) :
    (Server.parsed w g).2.client = mac ∧ Mem.Holds (Server.parsed w g).2.inpacket Msg.xid Client.xid ∧
      (Server.receive w g).inpacket.word Msg.ciaddr ≠ everyone := by
  obtain ⟨fits, inside, xid, chaddr, ciaddr⟩ := mine
  simp only [Msg.options] at inside
  have incoming := Server.parsed_inpacket w g
  refine ⟨?_, ?_, ?_⟩
  · rw [Server.State.client, incoming, ← chaddr]
    exact Server.receive_client received fits (by rw [Msg.chaddr]; omega) g
  · rw [incoming]
    exact Server.receive_holds received fits g xid (by rw [Client.xid_length, Msg.xid]; omega)
  · rwa [Mem.word_of_holds (Server.receive_holds received fits g (Mem.holds_word _ _)
      (by rw [Mem.wordBytes_length, Msg.ciaddr]; omega))]

/-- An ACK for a datagram of a host is not for everyone. -/
theorem ack_addressed (usable : ∀ i < srv.numLeases.toNat, htonl (Server.dhcpLeaseipaddr i srv.startip) ≠ everyone)
    (mine : Mine mac bytes) (received : w.recv = some bytes) (answered : Server.loopHandler fuel srv w g = .ok (g', ps))
    (sent : p ∈ ps) {i : Nat} (bound : i < srv.numLeases.toNat) (isAck : typeOf p.bytes = MsgType.ack)
    (yiaddr : yiaddrOf p.bytes = htonl (Server.dhcpLeaseipaddr i srv.startip)) : p.dest ≠ everyone := by
  rw [Server.loopHandler_directed answered p sent, Server.chosen, if_neg (not_not.2 isAck)]
  split
  · exact (mine.parsed received g).2.2
  · rw [yiaddr]
    exact usable i bound

/-- **What the server answers** a datagram of a host with. -/
theorem replies_of_answered (usable : ∀ i < srv.numLeases.toNat, htonl (Server.dhcpLeaseipaddr i srv.startip) ≠ everyone)
    (inv : Server.Inv srv g) (server : g.serverip = serverip) (mine : Mine mac bytes) (received : w.recv = some bytes)
    (answered : Server.loopHandler fuel srv w g = .ok (g', ps)) (sent : p ∈ ps) : Replies srv serverip mac p := by
  obtain ⟨client, xid, -⟩ := mine.parsed received g
  have server : (Server.parsed w g).2.serverip = serverip := by rw [Server.parsed_serverip, server]
  have inTable {i : Nat} {l : Server.Lease} (found : (Server.parsed w g).2.leases[i]? = some l) : i < srv.numLeases.toNat := by
    rw [Server.parsed_leases] at found
    rw [← inv.sized]
    exact (List.getElem?_eq_some_iff.1 found).1
  have outcome := (Server.loopHandler_outcome inv.sized answered).1
  generalize g'.leases = table at outcome
  cases outcome with
  | idle quiet =>
    obtain rfl | ⟨q, carried, rfl⟩ := quiet
    · cases sent
    · obtain rfl := List.mem_singleton.1 sent
      have replying := replying_of_refusal carried xid
      refine ⟨fun beyond c => ?_, fun beyond c isAck => ?_⟩
      · rw [Replying.address replying]
        decide
      · rw [(replying.receive beyond c).1] at isAck
        cases isAck
  | lapse => cases sent
  | @offer i k l _ _ found _ _ sends =>
    obtain ⟨-, q, ⟨-, leasetime, offered⟩, rfl⟩ | ⟨-, rfl⟩ := sends
    · obtain rfl := List.mem_singleton.1 sent
      have replying := replying_of_assigns offered (by rw [List.length_map, srv.dns_length]) xid
      refine ⟨fun beyond c => ?_, fun beyond c isAck => ?_⟩
      · rw [Replying.address replying]
        exact usable i (inTable found)
      · rw [(replying.receive beyond c).1] at isAck
        cases isAck
    · cases sent
  | @ack i l q _ found _ _ _ _ granted =>
    obtain rfl := List.mem_singleton.1 sent
    have bound := inTable found
    obtain ⟨type, yiaddr, chaddr, lease⟩ := Server.Assigns.facts granted
    refine ⟨fun beyond c => ?_, fun beyond c _ => ?_⟩
    · rw [Replying.address (replying_of_assigns granted srv.dns_length xid)]
      exact usable i bound
    · have reads : Reads srv (Server.parsed w g).2.serverip i _ _ := (assigns_read granted srv.dns_length xid beyond c).2
      rw [server] at reads
      exact ⟨ack_addressed usable mine received answered sent bound type yiaddr, i, _, type, chaddr.trans client, bound,
        yiaddr, lease, reads⟩
  | decline => cases sent
  | release => cases sent

/-! ## Every state of the network -/

section
variable {ι : Type} {s : Setup ι} {net net' : Net ι} {n k : ι}

/-- What every event keeps. -/
structure Sound (s : Setup ι) (fuel : Nat) (net : Net ι) : Prop where
  hosts : ∀ n, Orderly (s.mac n) (net.host n).client
  run : Run (Server.loopHandler fuel s.srv) (Server.State.boot s.srv s.serverip) net.served net.server
  asked : ∀ c ∈ net.served, ∃ n bytes, c.input.recv = some bytes ∧ Mine (s.mac n) bytes
  back : ∀ n, (net.host n).phase = .returned .ok → ∃ p i leasetime, p ∈ net.replies ∧ (net.host n).heard = some p ∧
    Granted s.srv s.serverip (s.mac n) i leasetime p (net.host n).client.presult

theorem start_sound (s : Setup ι) (fuel : Nat) : Sound s fuel (Net.start s.client s.srv s.serverip) := by
  refine ⟨fun n => ?_, .nil _, fun c member => (by cases member), fun n returned => (by cases returned)⟩
  obtain ⟨none', ipaddr, presult⟩ := s.fresh n
  exact ⟨ipaddr, presult, fun q member => absurd (none' ▸ member) List.not_mem_nil⟩

/-- The state in which a call of the server was answered. -/
theorem Sound.before (sound : Sound s fuel net) {c : Server.Answered} (member : c ∈ net.served) :
    (Server.Inv s.srv c.before ∧ c.before.serverip = s.serverip) ∧
      Server.loopHandler fuel s.srv c.input c.before = .ok (c.after, c.output) := by
  refine sound.run.invariant_before (I := fun g => Server.Inv s.srv g ∧ g.serverip = s.serverip) ⟨Server.boot_inv _ _, rfl⟩ ?_ member
  rintro w g g' ps ⟨inv, server⟩ answered
  exact ⟨Server.loopHandler_inv inv answered, (Server.loopHandler_outcome inv.sized answered).2.serverip.trans server⟩

theorem Sound.replies (sound : Sound s fuel net) (sent : p ∈ net.replies) : ∃ n, Replies s.srv s.serverip (s.mac n) p := by
  obtain ⟨c, member, output⟩ := List.mem_flatMap.1 sent
  obtain ⟨n, bytes, received, mine⟩ := sound.asked c member
  obtain ⟨⟨inv, server⟩, answered⟩ := sound.before member
  exact ⟨n, replies_of_answered s.usable inv server mine received answered output⟩

theorem serve_replies (net : Net ι) (w : Server.World) (g : Server.State) (ps : List Server.Sent) :
    (net.serve w g ps).replies = net.replies ++ ps := by
  simp [Net.replies, Net.serve]

variable [DecidableEq ι]

/-- A host has moved, and is not back with `OK` unless it has been granted what it has. -/
theorem Sound.setHost (sound : Sound s fuel net) {h : Host} (orderly : Orderly (s.mac n) h.client)
    (back : h.phase = .returned .ok → ∃ p i leasetime, p ∈ net.replies ∧ h.heard = some p ∧
      Granted s.srv s.serverip (s.mac n) i leasetime p h.client.presult) : Sound s fuel (net.setHost n h) := by
  refine ⟨fun k => ?_, sound.run, sound.asked, fun k returned => ?_⟩
  · obtain rfl | other := eq_or_ne k n
    · rwa [setHost_self]
    · rw [setHost_other other]
      exact sound.hosts k
  · obtain rfl | other := eq_or_ne k n
    · rw [setHost_self] at returned ⊢
      exact back returned
    · rw [setHost_other other] at returned ⊢
      exact sound.back k returned

/-- **One event.** -/
theorem Sound.moves (sound : Sound s fuel net) (moves : Moves fuel s.srv s.mac s.addr net net') : Sound s fuel net' := by
  cases moves with
  | sent n e due own =>
    refine sound.setHost ?_ fun returned => ?_
    · rw [goes_client]
      exact (sound.hosts n).sendPhase own (s.renewed n)
    · exact absurd (goes_returned (by simp) returned) sendPhase_ok
  | @handled n d g ps w sent received answered =>
    refine ⟨sound.hosts, sound.run.append (.cons answered (.nil g)), fun c member => ?_, fun n returned => ?_⟩
    · rcases List.mem_append.1 member with before | last
      · exact sound.asked c before
      · rw [List.mem_singleton.1 last]
        exact ⟨n, d.bytes, received, (sound.hosts n).sent d sent⟩
    · obtain ⟨p, i, leasetime, old, rest⟩ := sound.back n returned
      exact ⟨p, i, leasetime, by rw [serve_replies]; exact List.mem_append_left _ old, rest⟩
  | @heard p n e waits sent reaches =>
    obtain ⟨m, address, granted⟩ := sound.replies sent
    refine sound.setHost ?_ fun returned => ?_
    · rw [Host.receives, goes_client]
      refine (sound.hosts n).recvPhase waits.2 fun bytes arrived => ?_
      cases arrived
      exact address _ _
    · have ok := goes_returned (by simp) returned
      obtain ⟨bytes, arrived, type, result⟩ := recvPhase_ok ok
      cases arrived
      obtain ⟨unicast, i, leasetime, grant⟩ := granted _ _ type
      -- the ACK came to this host alone
      have mine := reaches.resolve_left unicast
      refine ⟨p, i, leasetime, sent, by rw [Host.receives, goes_heard], ?_⟩
      rw [Host.receives, goes_client, result]
      exact { grant with chaddr := mine }
  | gaveUp n e r waits silent =>
    refine sound.setHost ?_ fun returned => ?_
    · rw [Host.receives, goes_client]
      exact (sound.hosts n).recvPhase waits.2 fun bytes arrived => absurd arrived (silent bytes)
    · obtain ⟨bytes, arrived, -⟩ := recvPhase_ok (goes_returned (by simp) returned)
      exact absurd arrived (silent bytes)

/-- **Every run.** -/
theorem reached_sound (reached : s.Reached fuel net) : Sound s fuel net := by
  obtain ⟨events, run⟩ := reached
  exact run.invariant (start_sound s fuel) fun e t t' u sound answered => sound.moves (step_moves answered)

end

/-! ## Leases that run at one time -/

section
variable {ι : Type} {s : Setup ι} {net : Net ι} {n k : ι}

/-- The host `n` is back with the ACK `p`; the server has not handled a DECLINE or RELEASE
of its in the calls since. -/
structure Lease (s : Setup ι) (net : Net ι) (n : ι) (p : Server.Sent) (since : Server.Calls) : Prop where
  returned : (net.host n).phase = .returned .ok
  heard : (net.host n).heard = some p
  granted : ∃ xs r, net.served = xs ++ r :: since ∧ p ∈ r.output
  kept : ∀ c ∈ since, ¬ Server.Drops c (s.mac n)

/-- When the lease of a host ends. -/
def Net.ends (net : Net ι) (n : ι) (p : Server.Sent) : Int := p.time + (net.host n).client.presult.leaseTime.toNat

/-- Of two places in a list one comes first, or they are the same. -/
theorem order_of_places {α : Type} {xs xs' ys ys' : List α} {a b : α} (same : xs ++ a :: ys = xs' ++ b :: ys') :
    a = b ∨ (∃ zs, ys = zs ++ b :: ys') ∨ ∃ zs, ys' = zs ++ a :: ys := by
  rcases List.append_eq_append_iff.1 same with ⟨l, -, rest⟩ | ⟨l, -, rest⟩
  · cases l with
    | nil => exact Or.inl (List.cons.inj rest).1
    | cons c l => exact Or.inr (Or.inl ⟨l, (List.cons.inj rest).2⟩)
  · cases l with
    | nil => exact Or.inl (List.cons.inj rest).1.symm
    | cons c l => exact Or.inr (Or.inr ⟨l, (List.cons.inj rest).2⟩)

/-- An ACK of a later call, before the lease that an earlier one has granted ends, gives
another host another address. -/
theorem later_apart (sound : Sound s fuel net) (ordered : Server.Ordered net.served)
    (keeping : ∀ c ∈ net.served, Server.Keeping s.srv c.input c.before) {xs zs ys' : Server.Calls} {r r' : Server.Answered}
    (calls : net.served = xs ++ r :: (zs ++ r' :: ys')) {q : Server.Sent} {i j : Nat} {t t' : BitVec 32} {d d' : Client.DhcpcState}
    (sent : p ∈ r.output) (sent' : q ∈ r'.output) (grant : Granted s.srv s.serverip (s.mac n) i t p d)
    (grant' : Granted s.srv s.serverip (s.mac k) j t' q d') (apart : n ≠ k) (kept : ∀ c ∈ zs, ¬ Server.Drops c (s.mac n))
    (early : q.time < p.time + t.toNat) : d.ipaddr ≠ d'.ipaddr := by
  intro same
  have run := sound.run
  rw [calls] at run
  have inRun : ∀ c ∈ zs, c ∈ net.served := by
    intro c member
    rw [calls]
    simp [member]
  have rInRun : r ∈ net.served := by simp [calls]
  have rInRun' : r' ∈ net.served := by simp [calls]
  obtain ⟨⟨inv, -⟩, answered⟩ := sound.before rInRun
  obtain ⟨⟨inv', -⟩, answered'⟩ := sound.before rInRun'
  obtain ⟨m, -, later⟩ := run.split
  obtain ⟨rfl, -, rest⟩ := later.head
  obtain ⟨m', between, last⟩ := rest.split
  obtain ⟨rfl, -, -⟩ := last.head
  have chaddr := grant.chaddr
  have named : chaddrOf p.bytes ≠ Mac.zero := by
    rw [chaddr]
    exact s.named n
  obtain ⟨l, bound, yiaddr, guarded⟩ := Server.guarded_ack inv answered sent grant.ack named grant.lease
  rw [chaddr] at guarded
  have still := Server.guarded_run between (Server.loopHandler_inv inv answered) (fun c member => keeping c (inRun c member))
    (fun c member => ordered.within c (inRun c member)) guarded kept
  rcases still with still | ⟨c, member, x, passed⟩
  · have address : yiaddrOf q.bytes = htonl (Server.dhcpLeaseipaddr l s.srv.startip) := by
      rw [grant'.yiaddr, ← grant'.reads.ipaddr, ← same, grant.reads.ipaddr, ← grant.yiaddr, yiaddr]
    have size : r.before.leases.length = r'.before.leases.length := inv.sized.trans inv'.sized.symm
    have own := Server.guarded_assign inv' answered' (ordered.within r' rInRun') still (size ▸ bound) sent' (Or.inr grant'.ack)
      address early
    exact apart (s.distinct (own.symm.trans grant'.chaddr))
  · -- the lease was over before the later ACK was sent
    obtain ⟨a, reflects⟩ := Server.loopHandler_reflects inv' answered'
    obtain ⟨-, -, -, y, -, -, -, time, -⟩ := reflects.assigns q sent' (Or.inr grant'.ack)
    have order := ordered.across
    rw [calls, List.pairwise_append, List.pairwise_cons, List.pairwise_append] at order
    have := order.2.1.2.2.2 c member r' (List.mem_cons_self ..) x y
    simp only [Server.Ctx.start] at time
    omega

variable [DecidableEq ι]

end

/-! ## Two hosts -/

/-- A server of two addresses, and two hosts without one: `false` is the first. -/
def twoHosts : Setup Bool where
  srv := { Server.oneAddress with numLeases := 2, endip := 0xc0a80165, endip_eq := by decide }
  serverip := 0x0101a8c0
  mac := fun n => if n then Server.secondMac else Server.firstMac
  addr := fun _ => 0
  client := fun _ => Client.newClient
  distinct := by decide
  named := by decide
  renewed := by decide
  fresh := fun _ => ⟨rfl, by decide, by decide⟩
  usable := by decide

def sends (n : Bool) : Event Bool := .sends n (Client.answers (some (twoHosts.mac n)) .timeout).sending
def hears (n : Bool) (k : Nat) : Event Bool := .hears n k (Client.answers (some (twoHosts.mac n)) .timeout).receiving
def handles (n : Bool) (k : Nat) (t : Int) : Event Bool := .handles n k (Server.recvFails t)

/-- Both hosts take the OFFER that the first has been made, and ask for its address. -/
def oneOffer : List (Event Bool) :=
  [sends false, sends true, handles false 0 7, handles true 0 8, hears false 0, hears true 0, sends false, sends true,
    handles false 1 9, handles true 1 10, hears false 2, hears true 3]

/-- What is computed of the state after these events. -/
def BothBack (net : Net Bool) : Bool :=
  match net.served with
  | [a, b, c, d] =>
    match c.output, d.output with
    | [p], [q] => decide <|
      (∀ r ∈ [a, b, c, d], Server.Keeping twoHosts.srv r.input r.before) ∧
        ((net.host false).phase = .returned .ok ∧ (net.host true).phase = .returned .ok) ∧
          ((net.host false).heard = some p ∧ (net.host true).heard = some q) ∧ ¬ Server.Drops d (twoHosts.mac false) ∧
            q.time < net.ends false p ∧ p.time < net.ends true q
    | _, _ => false
  | _ => false

end ArtikSdk.Dhcp.Lan
