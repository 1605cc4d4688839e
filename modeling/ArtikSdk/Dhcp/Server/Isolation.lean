import ArtikSdk.Dhcp.Server.Outcome

/-!
# DHCP server: what a call takes from earlier datagrams

`loop_handler` goes on after a failed `recv` or parse, and `dhcpd_parseoptions` looks at
more than was received. Two properties hold of the calls that keep clear of both: a
rejected datagram is ignored, and an accepted one is handled the same in every state
with the same table and server address.
-/

namespace ArtikSdk.Dhcp.Server
open Lib Checked

/-! ## Rejected datagrams -/

/-- `recv` fails, or the datagram is one for which `dhcpd_parseoptions` returns `false`. -/
def Rejected (w : World) (g : State) : Prop := w.recv = none ∨ (parsed w g).1 = false

instance (w : World) (g : State) : Decidable (Rejected w g) := by
  unfold Rejected
  exact decidable_of_iff (w.recv.isNone = true ∨ (parsed w g).1 = false) (by rw [Option.isNone_iff_eq_none])

/-- The call leaves the table alone and sends nothing. -/
def Ignored (before after : State) (sent : List Sent) : Prop := after.leases = before.leases ∧ sent = []

/-- After a wrong cookie the message type of an earlier datagram is still there. -/
theorem parsed_unmarked {w : World} {g : State} (wrong : (receive w g).inpacket.load Msg.options 4 ≠ magicCookie) :
    parsed w g = (false, receive w g) := by
  have held := (Mem.holds_load (receive w g).inpacket Msg.options 4)
  have shown : View.Reads (receive w g).view Msg.options ((receive w g).inpacket.load Msg.options 4) := view_reads held (by simp)
  have bytes : (receive w g).inpacket.load Msg.options 4 = [(receive w g).inpacket 236, (receive w g).inpacket 237,
      (receive w g).inpacket 238, (receive w g).inpacket 239] := rfl
  rw [bytes] at shown wrong
  simp only [View.reads_cons, Nat.add_assoc, Nat.reduceAdd] at shown
  obtain ⟨h0, h1, h2, h3, -⟩ := shown
  have cookie : cookieMatches (receive w g).view = some false := by
    rw [cookieMatches, Scan.bind_apply_of_some h0, Scan.bind_apply_of_some h1, Scan.bind_apply_of_some h2,
      Scan.bind_apply_of_some h3, Scan.pure_apply, decide_eq_false wrong]
  have result := parseoptions_eq w g
  rw [dhcpdParseoptions, Scan.bind_apply_of_some cookie] at result
  exact (Option.some.inj result).symm

/-- **Rejected input.** In a run where no rejected datagram finds a handled message type
in `ds_optmsgtype`, left there by an earlier one or found before the missing END, every
rejected datagram is ignored. -/
theorem rejected_ignored {fuel : Nat} {srv : Handle} {serverip : Addr} {cs : List (Call World State (List Sent))} {g' : State}
    (run : Run (loopHandler fuel srv) (State.boot srv serverip) cs g')
    (unhandled : ∀ c ∈ cs, Rejected c.input c.before → ¬ Handled (parsed c.input c.before).2.opt.msgtype) :
    ∀ c ∈ cs, Rejected c.input c.before → Ignored c.before c.after c.output := by
  intro c member rejected
  obtain ⟨-, answered⟩ := run.invariant_before (I := fun _ => True) trivial (fun _ _ _ _ _ _ => trivial) member
  rw [loopHandler_unhandled (unhandled c member rejected)] at answered
  simp only [Except.ok.injEq, Prod.mk.injEq] at answered
  obtain ⟨after, sent⟩ := answered
  exact ⟨by rw [← after, parsed_leases], sent.symm⟩

/-! ## Two states with one table -/

/-- Two contexts that differ only in what earlier datagrams have left behind: bytes of
`ds_inpacket` behind the header, and the outgoing message. -/
structure Twin (s t : Ctx) : Prop where
  leases : s.g.leases = t.g.leases
  serverip : s.g.serverip = t.g.serverip
  opt : s.g.opt = t.g.opt
  header : ∀ k < Msg.sname, s.g.inpacket k = t.g.inpacket k
  clock : s.clock = t.clock
  inUsed : s.inUsed = t.inUsed
  sendto : s.sendto = t.sendto
  sent : s.sent = t.sent

theorem load_congr {m m' : Mem} {a n : Nat} (same : ∀ k, a ≤ k → k < a + n → m k = m' k) : m.load a n = m'.load a n := by
  unfold Mem.load
  apply List.map_congr_left
  intro k member
  have := List.mem_range.1 member
  exact same _ (by omega) (by omega)

theorem Twin.client {s t : Ctx} (h : Twin s t) : s.g.client = t.g.client := by
  have same : s.g.inpacket.load Msg.chaddr 6 = t.g.inpacket.load Msg.chaddr 6 := load_congr fun k _ hi =>
    h.header k (by simp only [Msg.chaddr, Msg.sname] at *; omega)
  simp only [State.client, macAt, same]

theorem Twin.ciaddr {s t : Ctx} (h : Twin s t) : s.g.inpacket.load Msg.ciaddr 4 = t.g.inpacket.load Msg.ciaddr 4 :=
  load_congr fun k _ hi => h.header k (by simp only [Msg.ciaddr, Msg.sname] at *; omega)

theorem same_slot (i : Nat) : Same Twin (slot i) := by
  intro s t h
  unfold slot
  rw [h.leases]
  split
  · exact ⟨rfl, h⟩
  · rfl

theorem same_setSlot (i : Nat) (l : Lease) : Same Twin (setSlot i l) := by
  intro s t h
  unfold setSlot
  rw [h.leases]
  split
  · exact ⟨rfl, { h with leases := by rw [setSlot_leases, setSlot_leases, h.leases] }⟩
  · rfl

theorem same_time : Same Twin dhcpdTime := by
  intro s t h
  exact ⟨congrFun h.clock 0, { h with clock := funext fun k => congrFun h.clock (k + 1) }⟩

theorem same_ping (addr : Addr) : Same Twin (verifyIpv4addrInUsed addr) := by
  intro s t h
  exact ⟨congrFun (congrFun h.inUsed 0) addr, { h with inUsed := funext fun k => congrFun h.inUsed (k + 1) }⟩

theorem same_leaseexpired (i : Nat) : Same Twin (dhcpdLeaseexpired i) :=
  (same_slot i).bind fun _ => same_time.bind fun _ => (same_pure _).ite ((same_setSlot _ _).bind fun _ => same_pure _)

theorem same_setlease (mac : Mac) (ipaddr : Addr) (expiry : Int) (numLeases : BitVec 32) (startip : Addr) :
    Same Twin (dhcpdSetlease mac ipaddr expiry numLeases startip) :=
  Same.ite (same_time.bind fun _ => (same_setSlot _ _).bind fun _ => same_pure _) (same_pure _)

theorem same_findbymac (mac : Mac) (numLeases : BitVec 32) : Same Twin (dhcpdFindbymac mac numLeases) :=
  same_get (fun s t h => by rw [h.leases]) fun _ => same_lift _

theorem same_findbyipaddr (ipaddr startip endip : Addr) : Same Twin (dhcpdFindbyipaddr ipaddr startip endip) :=
  Same.ite ((same_slot _).bind fun _ => (same_pure _).ite (same_pure _)) (same_pure _)

theorem same_freeOrExpired (o : Option Nat) : Same Twin (freeOrExpired o) := by
  cases o with
  | none => exact same_pure _
  | some i => exact same_leaseexpired i

theorem same_reserveSlot (i : Nat) : Same Twin (reserveSlot i) := same_time.bind fun _ => same_setSlot _ _

theorem same_allocipaddrFrom (startip endip : Addr) (fuel : Nat) (ipaddr : Addr) :
    Same Twin (allocipaddrFrom startip endip fuel ipaddr) := by
  induction fuel generalizing ipaddr with
  | zero => exact same_fault _
  | succ fuel ih =>
    refine Same.ite ((same_ping _).bind fun _ => Same.ite (ih _) (Same.ite (ih _) ?_)) (same_pure _)
    refine (same_findbyipaddr _ _ _).bind fun _ => (same_freeOrExpired _).bind fun _ => Same.ite ?_ (ih _)
    exact (same_reserveSlot _).bind fun _ => same_pure _

theorem same_verifyreqip (srv : Handle) : Same Twin (dhcpdVerifyreqip srv) :=
  same_get (fun s t h => by rw [h.opt]) fun _ =>
    Same.ite ((same_findbyipaddr _ _ _).bind fun _ => same_freeOrExpired _) (same_pure _)

theorem same_discoverAddress (fuel : Nat) (srv : Handle) : Same Twin (discoverAddress fuel srv) := by
  refine same_get (fun s t h => by rw [h.client, h.opt]) fun u => (same_findbymac _ _).bind fun o => ?_
  cases o with
  | some i =>
    refine (same_leaseexpired i).bind fun b => Same.ite (same_pure _) ?_
    exact (same_slot i).bind fun _ => same_time.bind fun _ => same_pure _
  | none =>
    exact (same_verifyreqip srv).bind fun b => Same.ite (same_pure _) ((same_allocipaddrFrom _ _ _ _).bind fun _ => same_pure _)

/-! ### The replies -/

/-- Two states from which the packet builders write the same: one server, one header of
the incoming message, one outgoing message so far. -/
structure Facing (g g' : State) : Prop where
  serverip : g.serverip = g'.serverip
  header : ∀ k < Msg.sname, g.inpacket k = g'.inpacket k
  outpacket : g.outpacket = g'.outpacket
  optend : g.optend = g'.optend

theorem Facing.addoption {g g' : State} (h : Facing g g') (option : List Byte) :
    Facing (dhcpdAddoption option g).2 (dhcpdAddoption option g').2 := by
  unfold dhcpdAddoption
  rw [h.optend]
  split
  · exact h
  · dsimp only
    split
    · exact ⟨h.serverip, h.header, by rw [h.outpacket], rfl⟩
    · exact h

theorem Facing.set {g g' : State} (h : Facing g g') (a : Nat) (bs : List Byte) :
    Facing { g with outpacket := g.outpacket.store a bs } { g' with outpacket := g'.outpacket.store a bs } :=
  ⟨h.serverip, h.header, by rw [h.outpacket], h.optend⟩

theorem initMessage_congr {m m' : Mem} (same : ∀ k < Msg.sname, m k = m' k) : initMessage m = initMessage m' := by
  have bytes : ∀ a n, a + n ≤ Msg.sname → m.load a n = m'.load a n := fun a n inside =>
    load_congr fun k _ hi => same k (by omega)
  unfold initMessage
  rw [same Msg.htype (by decide), same Msg.hlen (by decide), bytes Msg.xid 4 (by decide), bytes Msg.chaddr 16 (by decide),
    bytes Msg.flags 2 (by decide)]

theorem facing_initpacket {g g' : State} (serverip : g.serverip = g'.serverip)
    (header : ∀ k < Msg.sname, g.inpacket k = g'.inpacket k) (mtype : Byte) :
    Facing (dhcpdInitpacket mtype g) (dhcpdInitpacket mtype g') := by
  have start : Facing { g with outpacket := initMessage g.inpacket, optend := some (Msg.options + 4) }
      { g' with outpacket := initMessage g'.inpacket, optend := some (Msg.options + 4) } :=
    ⟨serverip, header, initMessage_congr header, rfl⟩
  have typed := start.addoption [Code.msgType, 1, mtype]
  unfold dhcpdInitpacket
  dsimp only [dhcpdAddoption32, dhcpdAddoption8]
  rw [typed.serverip]
  exact typed.addoption _

theorem Facing.addLeaseOptions {g g' : State} (h : Facing g g') (srv : Handle) (leasetime : BitVec 32) :
    Facing (addLeaseOptions srv leasetime g) (addLeaseOptions srv leasetime g') :=
  ((h.addoption _).addoption _).addoption _

theorem Facing.addDnsOptions {g g' : State} (h : Facing g g') (dnsaddr : List Addr) :
    Facing (addDnsOptions dnsaddr g) (addDnsOptions dnsaddr g') := by
  induction dnsaddr generalizing g g' with
  | nil => exact h
  | cons d ds ih =>
    apply ih
    dsimp only
    split
    · exact h.addoption _
    · exact h

theorem facing_offer {g g' : State} (serverip : g.serverip = g'.serverip)
    (header : ∀ k < Msg.sname, g.inpacket k = g'.inpacket k) (srv : Handle) (ipaddr : Addr) (leasetime : BitVec 32) :
    Facing (offerPacket srv ipaddr leasetime g) (offerPacket srv ipaddr leasetime g') :=
  (((facing_initpacket serverip header MsgType.offer).set _ _).addLeaseOptions srv leasetime).addDnsOptions _

theorem Facing.setCiaddr {g g' : State} (h : Facing g g') :
    Facing { g with outpacket := g.outpacket.store Msg.ciaddr (g.inpacket.load Msg.ciaddr 4) }
      { g' with outpacket := g'.outpacket.store Msg.ciaddr (g'.inpacket.load Msg.ciaddr 4) } := by
  have same : g.inpacket.load Msg.ciaddr 4 = g'.inpacket.load Msg.ciaddr 4 :=
    load_congr fun k _ hi => h.header k (by simp only [Msg.ciaddr, Msg.sname] at *; omega)
  rw [same]
  exact h.set _ _

theorem facing_ack {g g' : State} (serverip : g.serverip = g'.serverip)
    (header : ∀ k < Msg.sname, g.inpacket k = g'.inpacket k) (srv : Handle) (ipaddr : Addr) (leasetime : BitVec 32) :
    Facing (ackPacket srv ipaddr leasetime g) (ackPacket srv ipaddr leasetime g') :=
  ((((facing_initpacket serverip header MsgType.ack).setCiaddr).set _ _).addLeaseOptions srv leasetime).addDnsOptions _

theorem facing_nak {g g' : State} (serverip : g.serverip = g'.serverip)
    (header : ∀ k < Msg.sname, g.inpacket k = g'.inpacket k) : Facing (nakPacket g) (nakPacket g') :=
  (facing_initpacket serverip header MsgType.nak).setCiaddr

/-- A reply is the same from both, and leaves nothing behind that differs. -/
theorem same_send {build : State → State} {bbroadcast : Bool}
    (facing : ∀ g g' : State, g.serverip = g'.serverip → (∀ k < Msg.sname, g.inpacket k = g'.inpacket k) → Facing (build g) (build g'))
    (kept : ∀ g, ∃ yi os, Reply g (build g) yi os) :
    Same Twin (do modifyState build; dhcpdSendpacket bbroadcast : M Int) := by
  intro s t h
  obtain ⟨serverip, header, outpacket, optend⟩ := facing s.g t.g h.serverip h.header
  obtain ⟨yi, os, left⟩ := kept s.g
  obtain ⟨yi', os', right⟩ := kept t.g
  have leases : (build s.g).leases = (build t.g).leases := by
    rw [left.rest, right.rest]
    exact h.leases
  have opt : (build s.g).opt = (build t.g).opt := by
    rw [left.rest, right.rest]
    exact h.opt
  have datagram : (build s.g).datagram = (build t.g).datagram := by
    rw [State.datagram, State.datagram, outpacket, optend]
  rw [bind_apply_of_ok (modifyState_apply _ _), bind_apply_of_ok (modifyState_apply _ _), dhcpdSendpacket, dhcpdSendpacket]
  dsimp only
  rw [h.sendto]
  split
  · refine ⟨by rw [datagram], leases, serverip, opt, header, h.clock, h.inUsed, rfl, ?_⟩
    dsimp only
    rw [h.sent, datagram, outpacket, h.clock]
  · exact ⟨rfl, leases, serverip, opt, header, h.clock, h.inUsed, rfl, h.sent⟩

theorem same_sendoffer (srv : Handle) (ipaddr : Addr) (leasetime : BitVec 32) : Same Twin (dhcpdSendoffer srv ipaddr leasetime) :=
  same_send (fun _ _ serverip header => facing_offer serverip header srv ipaddr leasetime)
    fun g => ⟨_, _, offerPacket_reply srv ipaddr leasetime g⟩

theorem same_sendnak : Same Twin dhcpdSendnak :=
  same_send (fun _ _ serverip header => facing_nak serverip header) fun g => ⟨_, _, nakPacket_reply g⟩

theorem same_sendack (srv : Handle) (ipaddr : Addr) : Same Twin (dhcpdSendack srv ipaddr) := by
  refine same_get (fun s t h => by rw [h.opt, h.client]) fun u => ?_
  dsimp only
  rw [← bind_assoc]
  refine (same_send (fun _ _ serverip header => facing_ack serverip header srv ipaddr _)
    fun g => ⟨_, _, ackPacket_reply srv ipaddr _ g⟩).bind fun n => Same.ite (same_pure _) ?_
  exact (same_setlease _ _ _ _ _).bind fun _ => same_pure _

/-! ### The handlers -/

theorem same_discover (fuel : Nat) (srv : Handle) : Same Twin (dhcpdDiscover fuel srv) := by
  refine (same_discoverAddress fuel srv).bind fun chosen => Same.ite (same_pure _) ?_
  refine same_get (fun s t h => by rw [h.opt, h.client]) fun u => (same_setlease _ _ _ _ _).bind fun b => ?_
  exact Same.ite (same_sendoffer _ _ _) (same_pure _)

theorem Twin.leaseResponse {s t : Ctx} (h : Twin s t) (ipaddr : Addr) : leaseResponse s.g ipaddr = leaseResponse t.g ipaddr := by
  rw [Server.leaseResponse, Server.leaseResponse, h.opt, h.serverip, h.ciaddr]

theorem same_requestResponse (srv : Handle) : Same Twin (requestResponse srv) := by
  refine same_get (fun s t h => ?_) fun u => (same_findbymac _ _).bind fun o => ?_
  · simp only [h.client, h.opt, h.leaseResponse]
  · cases o with
    | some i => exact same_pure _
    | none =>
      refine Same.ite ((same_findbyipaddr _ _ _).bind fun o' => ?_) (same_pure _)
      cases o' with
      | some i => exact (same_leaseexpired i).bind fun _ => (same_pure _).ite (same_pure _)
      | none => exact (same_pure _).ite (same_pure _)

theorem same_request (srv : Handle) : Same Twin (dhcpdRequest srv) :=
  (same_requestResponse srv).bind fun _ => Same.ite ((same_sendack _ _).bind fun _ => same_pure _)
    (Same.ite (same_sendnak.bind fun _ => same_pure _) (same_pure _))

theorem same_decline (srv : Handle) : Same Twin (dhcpdDecline srv) := by
  refine same_get (fun s t h => by rw [h.client]) fun u => (same_findbymac _ _).bind fun o => ?_
  cases o with
  | some i => exact (same_slot i).bind fun _ => same_time.bind fun _ => (same_setSlot _ _).bind fun _ => same_pure _
  | none => exact same_pure _

theorem same_release (srv : Handle) : Same Twin (dhcpdRelease srv) := by
  refine same_get (fun s t h => by rw [h.client]) fun u => (same_findbymac _ _).bind fun o => ?_
  cases o with
  | some i => exact (same_setSlot _ _).bind fun _ => same_pure _
  | none => exact same_pure _

/-- **Every handler** treats twins alike. -/
theorem same_dispatch (fuel : Nat) (srv : Handle) : Same Twin (dispatch fuel srv) :=
  same_get (fun s t h => by rw [h.opt]) fun _ =>
    Same.ite (same_discover fuel srv) (Same.ite (same_request srv) (Same.ite (same_decline srv)
      (Same.ite (same_release srv) (same_pure _))))

/-! ### Self-contained datagrams -/

/-- The datagram carries the magic cookie, and the parser comes to its end inside it. -/
def SelfContained (bytes : List Byte) : Prop :=
  cookieMatches (View.ofList (bytes.take Msg.size)) = some true ∧
    (parseLoop 512 Cursor.start (View.ofList (bytes.take Msg.size))).isSome = true

instance (bytes : List Byte) : Decidable (SelfContained bytes) := by
  unfold SelfContained
  infer_instance

/-- What is received is shown. -/
theorem receive_sub {w : World} {bytes : List Byte} (received : w.recv = some bytes) (g : State) :
    View.Sub (View.ofList (bytes.take Msg.size)) (receive w g).view := by
  intro k b shown
  obtain ⟨bound, rfl⟩ := List.getElem?_eq_some_iff.1 shown
  have small : k < Msg.size := lt_of_lt_of_le bound (List.length_take_le _ _)
  simp only [State.view, if_pos small, receive, received, Option.some.injEq]
  rw [Mem.store_inside _ (Nat.zero_le k) (by omega)]
  rfl

/-- A self-contained datagram is parsed the same in every state. -/
theorem SelfContained.parsed {w : World} {bytes : List Byte} (contained : SelfContained bytes) (received : w.recv = some bytes) :
    ∃ found opt, ∀ g, parsed w g = (found, { receive w g with opt := opt, optend := none }) := by
  obtain ⟨cookie, ends⟩ := contained
  obtain ⟨⟨found, opt⟩, loop⟩ := Option.isSome_iff_exists.1 ends
  refine ⟨found, opt, fun g => ?_⟩
  have inside : dhcpdParseoptions (receive w g) (View.ofList (bytes.take Msg.size)) =
      some (found, { receive w g with opt := opt, optend := none }) := by
    rw [dhcpdParseoptions, Scan.bind_apply_of_some cookie, if_pos rfl, Scan.bind_apply_of_some loop]
    rfl
  exact Option.some.inj ((parseoptions_eq w g).symm.trans (mono_parseoptions _ _ _ _ (receive_sub received g) inside))

theorem SelfContained.long {bytes : List Byte} (contained : SelfContained bytes) : Msg.options + 3 < (bytes.take Msg.size).length := by
  obtain ⟨b0, -, rest⟩ := Scan.bind_some.1 contained.1
  obtain ⟨b1, -, rest⟩ := Scan.bind_some.1 rest
  obtain ⟨b2, -, rest⟩ := Scan.bind_some.1 rest
  obtain ⟨b3, last, -⟩ := Scan.bind_some.1 rest
  exact (List.getElem?_eq_some_iff.1 last).1

/-- The header of a self-contained datagram replaces the one before it. -/
theorem SelfContained.header {w : World} {bytes : List Byte} (contained : SelfContained bytes) (received : w.recv = some bytes)
    (g g' : State) {k : Nat} (h : k < Msg.sname) : (receive w g).inpacket k = (receive w g').inpacket k := by
  have long := contained.long
  have bound : k < (bytes.take Msg.size).length := by
    simp only [Msg.options, Msg.sname] at *
    omega
  simp only [receive, received]
  rw [Mem.store_inside _ (Nat.zero_le k) (by omega), Mem.store_inside _ (Nat.zero_le k) (by omega)]

/-- The lease table and the packets sent. -/
def outcome (r : Except Fault (State × List Sent)) : Except Fault (List Lease × List Sent) := r.map fun p => (p.1.leases, p.2)

/-- **One call.** -/
theorem isolated_call {fuel : Nat} {srv : Handle} {w : World} {bytes : List Byte} {g g' : State} (received : w.recv = some bytes)
    (contained : SelfContained bytes) (leases : g.leases = g'.leases) (serverip : g.serverip = g'.serverip) :
    outcome (loopHandler fuel srv w g) = outcome (loopHandler fuel srv w g') := by
  obtain ⟨found, opt, parse⟩ := contained.parsed received
  have twin : Twin (Ctx.start (parsed w g).2 w) (Ctx.start (parsed w g').2 w) := by
    refine ⟨?_, ?_, ?_, ?_, rfl, rfl, rfl, rfl⟩
    · simp only [Ctx.start, parsed_leases, leases]
    · simp only [Ctx.start, parsed_serverip, serverip]
    · rw [Ctx.start, Ctx.start, parse g, parse g']
    · intro k small
      simp only [Ctx.start, parsed_inpacket]
      exact contained.header received g g' small
  have same := same_dispatch fuel srv _ _ twin
  rw [loopHandler_eq, loopHandler_eq]
  cases left : dispatch fuel srv (Ctx.start (parsed w g).2 w) with
  | error e =>
    cases right : dispatch fuel srv (Ctx.start (parsed w g').2 w) with
    | error e' =>
      rw [left, right] at same
      exact congrArg Except.error same
    | ok q =>
      rw [left, right] at same
      exact same.elim
  | ok p =>
    cases right : dispatch fuel srv (Ctx.start (parsed w g').2 w) with
    | error e' =>
      rw [left, right] at same
      exact same.elim
    | ok q =>
      rw [left, right] at same
      obtain ⟨-, final⟩ := same
      exact congrArg Except.ok (Prod.ext final.leases final.sent)

/-- What is seen of a call: the table it leaves and what it sends. -/
def change (g : State) (ps : List Sent) : List Lease × List Sent := (g.leases, ps)

/-- A run keeps the size of the table and the server's address. -/
theorem run_config {fuel : Nat} {srv : Handle} {serverip : Addr} {cs : List (Call World State (List Sent))} {g : State}
    (run : Run (loopHandler fuel srv) (State.boot srv serverip) cs g) : Sized srv g ∧ g.serverip = serverip := by
  refine run.invariant (I := fun g => Sized srv g ∧ g.serverip = serverip) ⟨boot_sized srv serverip, rfl⟩ ?_
  rintro w t t' ps ⟨sized, server⟩ answered
  exact ⟨loopHandler_sized sized answered, (loopHandler_outcome sized answered).2.serverip.trans server⟩

/-- A sequence of self-contained datagrams. -/
def AllContained (ws : List World) : Prop := ∀ w ∈ ws, ∃ bytes, w.recv = some bytes ∧ SelfContained bytes

/-- **Packet isolation.** Whatever two runs have received before, from states with the same
table they answer self-contained datagrams with the same tables and packets. -/
theorem isolated {fuel : Nat} {srv : Handle} {serverip : Addr} {cs cs' : List (Call World State (List Sent))} {g g' : State}
    {ws : List World} (run : Run (loopHandler fuel srv) (State.boot srv serverip) cs g)
    (run' : Run (loopHandler fuel srv) (State.boot srv serverip) cs' g') (leases : g.leases = g'.leases) (contained : AllContained ws) :
    seen change (exec (loopHandler fuel srv) ws g) = seen change (exec (loopHandler fuel srv) ws g') := by
  obtain ⟨sized, server⟩ := run_config run
  obtain ⟨-, server'⟩ := run_config run'
  refine exec_seen (R := fun g g' => Sized srv g ∧ g.leases = g'.leases ∧ g.serverip = g'.serverip) ?_ ?_
    ⟨sized, leases, server.trans server'.symm⟩
  · rintro w member g g' ⟨-, leases, serverip⟩
    obtain ⟨bytes, received, self⟩ := contained w member
    exact isolated_call received self leases serverip
  · rintro w g g' t t' ps ps' ⟨sized, leases, serverip⟩ left right same
    have sized' : Sized srv g' := by rw [Sized, ← leases, sized]
    refine ⟨loopHandler_sized sized left, (Prod.mk.inj same).1, ?_⟩
    rw [(loopHandler_outcome sized left).2.serverip, (loopHandler_outcome sized' right).2.serverip, serverip]

/-! ## Concrete runs -/

theorem rejected_ignored_oneAddress :
    ∃ cs g', Run (loopHandler 2 oneAddress) (State.boot oneAddress 0x0101a8c0) cs g' ∧ (∃ c ∈ cs, Rejected c.input c.before) ∧
      ∀ c ∈ cs, Rejected c.input c.before → Ignored c.before c.after c.output := by
  have computed : execTest (loopHandler 2 oneAddress)
      [recvFails 0, receives 1 firstMac discoverOptions, receives 2 firstMac informOptions, receivesBytes 3 (unmarked firstMac)]
      (State.boot oneAddress 0x0101a8c0) (fun cs => cs.any (fun c => decide (Rejected c.input c.before)) &&
        cs.all fun c => decide (Rejected c.input c.before → ¬ Handled (parsed c.input c.before).2.opt.msgtype)) = true := by
    decide +kernel
  obtain ⟨cs, g', run, -, both⟩ := execTest_run computed
  rw [Bool.and_eq_true, List.any_eq_true, List.all_eq_true] at both
  obtain ⟨⟨c, member, rejected⟩, unhandled⟩ := both
  exact ⟨cs, g', run, ⟨c, member, of_decide_eq_true rejected⟩,
    rejected_ignored run fun c member => of_decide_eq_true (unhandled c member)⟩

/-- After a DISCOVER a failing `recv` is answered with the OFFER once more. -/
theorem rejected_not_ignored :
    ∃ cs g', Run (loopHandler 2 oneAddress) (State.boot oneAddress 0x0101a8c0) cs g' ∧
      ∃ c ∈ cs, Rejected c.input c.before ∧ ¬ Ignored c.before c.after c.output := by
  have computed : execTest (loopHandler 2 oneAddress) [receives 0 firstMac discoverOptions, recvFails 1]
      (State.boot oneAddress 0x0101a8c0) (fun cs => cs.any fun c => c.input.recv.isNone && !c.output.isEmpty) = true := by
    decide +kernel
  obtain ⟨cs, g', run, -, answered⟩ := execTest_run computed
  obtain ⟨c, member, both⟩ := List.any_eq_true.1 answered
  rw [Bool.and_eq_true] at both
  obtain ⟨failed, sent⟩ := both
  refine ⟨cs, g', run, c, member, Or.inl (Option.isNone_iff_eq_none.1 failed), ?_⟩
  rintro ⟨-, silent⟩
  rw [silent] at sent
  cases sent

/-- Two runs from one state are answered, and what they end in passes the test. -/
def endsTest {ε E S O : Type} (step : E → S → Except ε (S × O)) (es fs : List E) (s : S) (q : S → S → Bool) : Bool :=
  match exec step es s, exec step fs s with
  | .ok (_, t), .ok (_, u) => q t u
  | _, _ => false

theorem endsTest_runs {ε E S O : Type} {step : E → S → Except ε (S × O)} {es fs : List E} {s : S} {q : S → S → Bool}
    (passed : endsTest step es fs s q = true) : ∃ cs ds t u, Run step s cs t ∧ Run step s ds u ∧ q t u = true := by
  unfold endsTest at passed
  split at passed
  · rename_i cs t ds u left right
    exact ⟨cs, ds, t, u, (exec_run left).1, (exec_run right).1, passed⟩
  · cases passed

/-- A state whose last datagram was an INFORM of the client that holds the address, and
one whose last datagram was a RELEASE of another client. -/
theorem two_histories :
    ∃ cs cs' g g', Run (loopHandler 2 oneAddress) (State.boot oneAddress 0x0101a8c0) cs g ∧
      Run (loopHandler 2 oneAddress) (State.boot oneAddress 0x0101a8c0) cs' g' ∧ g.leases = g'.leases ∧ g.opt ≠ g'.opt ∧
      (outcome (loopHandler 2 oneAddress (receivesBytes 3 (unmarked firstMac)) g)).toOption.map Prod.fst ≠
        (outcome (loopHandler 2 oneAddress (receivesBytes 3 (unmarked firstMac)) g')).toOption.map Prod.fst := by
  have computed : endsTest (loopHandler 2 oneAddress) [receives 0 firstMac discoverOptions, receives 1 firstMac informOptions]
      [receives 0 firstMac discoverOptions, receives 1 secondMac releaseOptions] (State.boot oneAddress 0x0101a8c0)
      (fun g g' => decide (g.leases = g'.leases ∧ g.opt ≠ g'.opt ∧
        (outcome (loopHandler 2 oneAddress (receivesBytes 3 (unmarked firstMac)) g)).toOption.map Prod.fst ≠
          (outcome (loopHandler 2 oneAddress (receivesBytes 3 (unmarked firstMac)) g')).toOption.map Prod.fst)) = true := by
    decide +kernel
  obtain ⟨cs, cs', g, g', left, right, differ⟩ := endsTest_runs computed
  exact ⟨cs, cs', g, g', left, right, of_decide_eq_true differ⟩

theorem isolated_oneAddress :
    ∃ g g', g.opt ≠ g'.opt ∧
      seen change (exec (loopHandler 2 oneAddress) [receives 3 firstMac requestOptions, receives 4 secondMac discoverOptions] g) =
        seen change (exec (loopHandler 2 oneAddress) [receives 3 firstMac requestOptions, receives 4 secondMac discoverOptions] g') := by
  obtain ⟨cs, cs', g, g', run, run', leases, differ, -⟩ := two_histories
  refine ⟨g, g', differ, isolated run run' leases fun w member => ?_⟩
  simp only [List.mem_cons, List.not_mem_nil, or_false] at member
  rcases member with rfl | rfl
  · exact ⟨_, rfl, by decide +kernel⟩
  · exact ⟨_, rfl, by decide +kernel⟩

/-- Whether a datagram without cookie releases the address depends on the datagram before it. -/
theorem not_isolated :
    ∃ cs cs' g g' bytes, Run (loopHandler 2 oneAddress) (State.boot oneAddress 0x0101a8c0) cs g ∧
      Run (loopHandler 2 oneAddress) (State.boot oneAddress 0x0101a8c0) cs' g' ∧ g.leases = g'.leases ∧
      outcome (loopHandler 2 oneAddress (receivesBytes 3 bytes) g) ≠ outcome (loopHandler 2 oneAddress (receivesBytes 3 bytes) g') := by
  obtain ⟨cs, cs', g, g', run, run', leases, -, differ⟩ := two_histories
  exact ⟨cs, cs', g, g', unmarked firstMac, run, run', leases, fun same => differ (by rw [same])⟩

end ArtikSdk.Dhcp.Server
