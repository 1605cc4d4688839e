import ArtikSdk.Dhcp.Server.Decision

/-!
# DHCP server: where the replies go

`dhcpd_sendpacket` is preceded by the rules for the destination of a reply. It applies
them to the outgoing message, and there the flags are always zero: `dhcpd_initpacket`
copies those of the client under a test of the outgoing `giaddr`, which it has just
zeroed. So a client that asks for a broadcast ACK, and has no address yet, gets one that
is unicast to the address it has not yet configured.
-/

namespace ArtikSdk.Dhcp.Server
open Lib Checked

/-- `BOOTP_BROADCAST` is set in the flags of a message. -/
def AsksBroadcast (inpacket : Mem) : Prop := inpacket.half Msg.flags &&& Mem.swapHalf 0x8000 ≠ 0

instance (inpacket : Mem) : Decidable (AsksBroadcast inpacket) := by
  unfold AsksBroadcast
  infer_instance

/-- The destination of a reply by the rules: `inpacket` is the message of the client, and
only an ACK is not broadcast from the start. -/
def ruled (inpacket : Mem) (bytes : List Byte) : Addr :=
  if typeOf bytes ≠ MsgType.ack then 0xffffffff
  else if inpacket.word Msg.ciaddr ≠ 0 then inpacket.word Msg.ciaddr
  else if AsksBroadcast inpacket then 0xffffffff
  else yiaddrOf bytes

/-- The destination the code comes to: the flags of the client play no part. -/
def chosen (inpacket : Mem) (bytes : List Byte) : Addr :=
  if typeOf bytes ≠ MsgType.ack then 0xffffffff
  else if inpacket.word Msg.ciaddr ≠ 0 then inpacket.word Msg.ciaddr
  else yiaddrOf bytes

/-- Whatever the call sends goes where the rules say. -/
def FollowsRules (fuel : Nat) (srv : Handle) (w : World) (g : State) : Prop :=
  ∀ g' ps, loopHandler fuel srv w g = .ok (g', ps) → ∀ p ∈ ps, p.dest = ruled (receive w g).inpacket p.bytes

/-- A REQUEST that is granted, from a client that has no address yet and asks for a
broadcast; the address of the slot is not the broadcast address itself. -/
structure Unheard (srv : Handle) (w : World) (g : State) : Prop where
  type : (parsed w g).2.opt.msgtype = MsgType.request
  can : w.sendto = true
  noAddress : (receive w g).inpacket.word Msg.ciaddr = 0
  broadcast : AsksBroadcast (receive w g).inpacket
  slot : ∃ i < 2 ^ 31, HoldsSlot (parsed w g).2 i ∧ leaseResponse (parsed w g).2 (dhcpLeaseipaddr i srv.startip) = MsgType.ack ∧
    dhcpLeaseipaddr i srv.startip ≠ BitVec.allOnes 32

variable {fuel : Nat} {srv : Handle} {w : World} {g g' : State} {ci yi : Addr}

/-! ## The fields that decide -/

/-- The fields of an outgoing message that `dhcpd_sendpacket` reads, in front of an END. -/
structure Aimed (g' : State) (ci yi : Addr) : Prop where
  optend : ∃ e, g'.optend = some e ∧ Msg.options ≤ e
  flags : Mem.Holds g'.outpacket Msg.flags [0, 0]
  ciaddr : Mem.Holds g'.outpacket Msg.ciaddr (Mem.wordBytes ci)
  yiaddr : Mem.Holds g'.outpacket Msg.yiaddr (Mem.wordBytes yi)

theorem Aimed.setCiaddr (h : Aimed g' ci yi) (a : Addr) :
    Aimed { g' with outpacket := g'.outpacket.store Msg.ciaddr (Mem.wordBytes a) } a yi :=
  ⟨h.optend, h.flags.store (by simp), Mem.holds_store _ _ _, h.yiaddr.store (by simp)⟩

theorem Aimed.setYiaddr (h : Aimed g' ci yi) (a : Addr) :
    Aimed { g' with outpacket := g'.outpacket.store Msg.yiaddr (Mem.wordBytes a) } ci a :=
  ⟨h.optend, h.flags.store (by simp), h.ciaddr.store (by simp), Mem.holds_store _ _ _⟩

/-- An option is written behind them. -/
theorem Aimed.addoption (h : Aimed g' ci yi) (option : List Byte) : Aimed (dhcpdAddoption option g').2 ci yi := by
  obtain ⟨⟨e, here, behind⟩, flags, ciaddr, yiaddr⟩ := h
  rw [Msg.options] at behind
  unfold dhcpdAddoption
  rw [here]
  dsimp only
  split
  · refine ⟨⟨_, rfl, by rw [Msg.options]; omega⟩, (flags.store ?_).store ?_, (ciaddr.store ?_).store ?_, (yiaddr.store ?_).store ?_⟩
    all_goals
      left
      simp
      omega
  · exact ⟨⟨e, here, behind⟩, flags, ciaddr, yiaddr⟩

theorem Aimed.addDnsOptions (h : Aimed g' ci yi) (dnsaddr : List Addr) : Aimed (addDnsOptions dnsaddr g') ci yi := by
  induction dnsaddr generalizing g' with
  | nil => exact h
  | cons d ds ih =>
    rw [Server.addDnsOptions, List.foldl_cons]
    split
    · exact ih (h.addoption _)
    · exact ih h

/-- The outgoing `giaddr` is zero when it is tested, and the flags of an empty reply with it. -/
theorem initMessage_aimed (g : State) :
    Aimed { g with outpacket := initMessage g.inpacket, optend := some (Msg.options + 4) } 0 0 := by
  have zeros (a n : Nat) : Mem.Holds (fun _ => 0) a (List.replicate n 0) := by
    intro k b found
    exact (List.eq_of_mem_replicate (List.mem_of_getElem? found)).symm
  have clear : Mem.Holds (((((Mem.store (fun _ => 0) Msg.op [dhcpReply]).store Msg.htype [g.inpacket Msg.htype]).store Msg.hlen
      [g.inpacket Msg.hlen]).store Msg.xid (g.inpacket.load Msg.xid 4)).store Msg.chaddr (g.inpacket.load Msg.chaddr 16))
      Msg.giaddr [0, 0, 0, 0] := by
    refine (((((zeros Msg.giaddr 4).store ?_).store ?_).store ?_).store ?_).store ?_
    all_goals simp
  have built : initMessage g.inpacket =
      ((((((((Mem.store (fun _ => 0) Msg.op [dhcpReply]).store Msg.htype [g.inpacket Msg.htype]).store Msg.hlen
        [g.inpacket Msg.hlen]).store Msg.xid (g.inpacket.load Msg.xid 4)).store Msg.chaddr (g.inpacket.load Msg.chaddr 16)).store
        Msg.flags [0, 0]).store Msg.giaddr [0, 0, 0, 0]).store Msg.options magicCookie).store (Msg.options + 4) [Code.fin] := by
    simp only [initMessage]
    rw [show Mem.load _ Msg.giaddr 4 = [0, 0, 0, 0] from clear.load_eq, if_neg (not_not.2 rfl)]
  refine ⟨⟨_, rfl, by simp⟩, ?_, ?_, ?_⟩
  all_goals simp only [built]
  · refine (((Mem.holds_store _ _ _).store ?_).store ?_).store ?_
    all_goals simp
  · refine (((((((((zeros Msg.ciaddr 4).store ?_).store ?_).store ?_).store ?_).store ?_).store ?_).store ?_).store ?_).store ?_
    all_goals simp
  · refine (((((((((zeros Msg.yiaddr 4).store ?_).store ?_).store ?_).store ?_).store ?_).store ?_).store ?_).store ?_).store ?_
    all_goals simp

theorem initpacket_aimed (mtype : Byte) (g : State) : Aimed (dhcpdInitpacket mtype g) 0 0 :=
  ((initMessage_aimed g).addoption _).addoption _

/-- The ACK is aimed at the client's own address, and else at the one it grants. -/
theorem ackPacket_aimed (srv : Handle) (ipaddr : Addr) (leasetime : BitVec 32) (g : State) :
    Aimed (ackPacket srv ipaddr leasetime g) (g.inpacket.word Msg.ciaddr) (htonl ipaddr) := by
  have own : (dhcpdInitpacket MsgType.ack g).inpacket.load Msg.ciaddr 4 = Mem.wordBytes (g.inpacket.word Msg.ciaddr) := by
    rw [(initpacket_reply MsgType.ack g).rest]
    exact (Mem.holds_word g.inpacket Msg.ciaddr).load_eq
  have addressed := ((initpacket_aimed MsgType.ack g).setCiaddr (g.inpacket.word Msg.ciaddr)).setYiaddr (htonl ipaddr)
  rw [← own] at addressed
  exact (((addressed.addoption _).addoption _).addoption _).addDnsOptions _

theorem Aimed.destination (h : Aimed g' ci yi) : destination false g'.outpacket = if ci ≠ 0 then ci else yi := by
  have zero : Mem.wordBytes 0 = [0, 0, 0, 0] := by decide
  have own : g'.outpacket.load Msg.ciaddr 4 = Mem.wordBytes ci := h.ciaddr.load_eq
  have flags : g'.outpacket.half Msg.flags = 0 := by
    have bytes := h.flags
    rw [Mem.holds_cons, Mem.holds_cons] at bytes
    rw [Mem.half, bytes.1, bytes.2.1]
    rfl
  rw [Server.destination, if_neg Bool.false_ne_true, own, flags, Mem.word_of_holds h.ciaddr, Mem.word_of_holds h.yiaddr]
  by_cases none' : ci = 0
  · rw [none', if_neg (not_not.2 zero), if_neg (by decide), if_neg (not_not.2 rfl)]
  · rw [if_pos fun same => none' (Mem.wordBytes_injective (same.trans zero.symm)), if_pos none']

/-! ## What a call sends -/

/-- Everything sent so far has gone where the code sends it for the message being handled. -/
structure Directed (inpacket : Mem) (s : Ctx) : Prop where
  incoming : s.g.inpacket = inpacket
  sent : ∀ p ∈ s.sent, p.dest = chosen inpacket p.bytes

variable {inpacket : Mem}

/-- Nothing is sent, and the message is still the same. -/
theorem Directed.quiet {s s' : Ctx} (h : Directed inpacket s) (incoming : s'.g.inpacket = s.g.inpacket) (sent : s'.sent = s.sent) :
    Directed inpacket s' :=
  ⟨incoming.trans h.incoming, sent ▸ h.sent⟩

theorem keeps_send {build : State → State} {bbroadcast : Bool}
    (built : ∀ g, g.inpacket = inpacket → (build g).inpacket = inpacket ∧
      destination bbroadcast (build g).outpacket = chosen inpacket (build g).datagram) :
    Keeps (Directed inpacket) (do modifyState build; dhcpdSendpacket bbroadcast : M Int) := by
  intro s r directed sent
  obtain ⟨incoming, dest⟩ := built s.g directed.incoming
  rw [bind_apply_of_ok (modifyState_apply _ _), dhcpdSendpacket] at sent
  split at sent
  · cases sent
    refine ⟨incoming, fun p member => ?_⟩
    rcases List.mem_append.1 member with before | last
    · exact directed.sent p before
    · rw [List.mem_singleton.1 last]
      exact dest
  · cases sent
    exact ⟨incoming, directed.sent⟩

/-- A reply of another type than ACK is broadcast from the start. -/
theorem Reply.broadcast {yi : List Byte} {os : List Tlv.Opt} {mtype : Byte} (h : Reply g g' yi os)
    (plain : ∀ o ∈ os, Tlv.Plain Code.pad Code.fin o) (only : Tlv.values Code.msgType os = [[mtype]]) (other : mtype ≠ MsgType.ack) :
    g'.inpacket = g.inpacket ∧ destination true g'.outpacket = chosen inpacket g'.datagram := by
  have type : typeOf g'.datagram = mtype :=
    Carried.typeOf (p := ⟨g'.datagram, 0, 0⟩) ⟨g, g', rfl, h, rfl⟩ plain only
  refine ⟨by rw [h.rest], ?_⟩
  rw [destination, if_pos rfl, chosen, if_pos (type ▸ other)]

theorem keeps_sendoffer (srv : Handle) (ipaddr : Addr) (leasetime : BitVec 32) :
    Keeps (Directed inpacket) (dhcpdSendoffer srv ipaddr leasetime) := by
  refine keeps_send fun g incoming => ?_
  have reply := offerPacket_reply srv ipaddr leasetime g
  rw [← incoming]
  exact reply.broadcast leaseOptions_plain (leaseOptions_carries _ _ _ _ _).msgType (by decide)

theorem keeps_sendnak : Keeps (Directed inpacket) dhcpdSendnak := by
  refine keeps_send fun g incoming => ?_
  rw [← incoming]
  exact (nakPacket_reply g).broadcast initOptions_plain rfl (by decide)

theorem keeps_ack (srv : Handle) (ipaddr : Addr) (leasetime : BitVec 32) :
    Keeps (Directed inpacket) (do modifyState (ackPacket srv ipaddr leasetime); dhcpdSendpacket false : M Int) := by
  refine keeps_send fun g incoming => ?_
  have reply := ackPacket_reply srv ipaddr leasetime g
  have type : typeOf (ackPacket srv ipaddr leasetime g).datagram = MsgType.ack :=
    Carried.typeOf (p := ⟨_, 0, 0⟩) ⟨g, _, rfl, reply, rfl⟩ leaseOptions_plain (leaseOptions_carries _ _ _ _ _).msgType
  rw [(ackPacket_aimed srv ipaddr leasetime g).destination, chosen, if_neg (not_not.2 type), reply.yiaddrOf, incoming]
  exact ⟨by rw [reply.rest, incoming], rfl⟩

/-! The rest of the code sends nothing. -/

theorem keeps_slot (i : Nat) : Keeps (Directed inpacket) (slot i) := by
  intro s r directed read
  rw [(slot_ok read).2]
  exact directed

theorem keeps_setSlot (i : Nat) (l : Lease) : Keeps (Directed inpacket) (setSlot i l) := by
  intro s r directed wrote
  rw [(setSlot_ok wrote).2]
  exact directed.quiet rfl rfl

theorem keeps_time : Keeps (Directed inpacket) dhcpdTime := by
  intro s r directed ticked
  cases ticked
  exact directed.quiet rfl rfl

theorem keeps_inUsed (addr : Addr) : Keeps (Directed inpacket) (verifyIpv4addrInUsed addr) := by
  intro s r directed asked
  cases asked
  exact directed.quiet rfl rfl

theorem keeps_leaseexpired (i : Nat) : Keeps (Directed inpacket) (dhcpdLeaseexpired i) := by
  refine (keeps_slot i).bind fun l => keeps_time.bind fun now => ?_
  exact (keeps_pure _).ite ((keeps_setSlot i _).bind fun _ => keeps_pure _)

theorem keeps_setlease (mac : Mac) (ipaddr : Addr) (expiry : Int) (numLeases : BitVec 32) (startip : Addr) :
    Keeps (Directed inpacket) (dhcpdSetlease mac ipaddr expiry numLeases startip) :=
  (keeps_time.bind fun _ => (keeps_setSlot _ _).bind fun _ => keeps_pure _).ite (keeps_pure _)

theorem keeps_findbymac (mac : Mac) (numLeases : BitVec 32) : Keeps (Directed inpacket) (dhcpdFindbymac mac numLeases) :=
  keeps_get fun _ => keeps_lift _

theorem keeps_findbyipaddr (ipaddr startip endip : Addr) : Keeps (Directed inpacket) (dhcpdFindbyipaddr ipaddr startip endip) :=
  ((keeps_slot _).bind fun _ => (keeps_pure _).ite (keeps_pure _)).ite (keeps_pure _)

theorem keeps_freeOrExpired (o : Option Nat) : Keeps (Directed inpacket) (freeOrExpired o) := by
  cases o with
  | none => exact keeps_pure _
  | some i => exact keeps_leaseexpired i

theorem keeps_allocipaddrFrom (startip endip : Addr) (fuel : Nat) (ipaddr : Addr) :
    Keeps (Directed inpacket) (allocipaddrFrom startip endip fuel ipaddr) := by
  induction fuel generalizing ipaddr with
  | zero => exact keeps_fault _
  | succ fuel ih =>
    have tried : Keeps (Directed inpacket) (reserveSlot (ipaddr - startip).toNat >>= fun _ => pure ipaddr : M Addr) :=
      (keeps_time.bind fun _ => keeps_setSlot _ _).bind fun _ => keeps_pure _
    have looked : Keeps (Directed inpacket) (do
        let lease ← dhcpdFindbyipaddr ipaddr startip endip
        if ← freeOrExpired lease then
          reserveSlot (ipaddr - startip).toNat
          return ipaddr
        else
          allocipaddrFrom startip endip fuel (ipaddr + 1)) :=
      (keeps_findbyipaddr _ _ _).bind fun lease => (keeps_freeOrExpired lease).bind fun _ => tried.ite (ih _)
    exact ((keeps_inUsed _).bind fun _ => (ih _).ite ((ih _).ite looked)).ite (keeps_pure _)

theorem keeps_verifyreqip (srv : Handle) : Keeps (Directed inpacket) (dhcpdVerifyreqip srv) :=
  keeps_get fun _ => ((keeps_findbyipaddr _ _ _).bind fun o => keeps_freeOrExpired o).ite (keeps_pure _)

theorem keeps_discoverAddress (srv : Handle) : Keeps (Directed inpacket) (discoverAddress fuel srv) := by
  refine keeps_get fun s => (keeps_findbymac _ _).bind fun o => ?_
  cases o with
  | some i =>
    refine (keeps_leaseexpired i).bind fun _ => (keeps_pure _).ite ?_
    exact (keeps_slot i).bind fun _ => keeps_time.bind fun _ => keeps_pure _
  | none =>
    refine (keeps_verifyreqip srv).bind fun _ => (keeps_pure _).ite ?_
    exact (keeps_allocipaddrFrom _ _ _ _).bind fun _ => keeps_pure _

theorem keeps_discover (srv : Handle) : Keeps (Directed inpacket) (dhcpdDiscover fuel srv) := by
  refine (keeps_discoverAddress srv).bind fun found => (keeps_pure _).ite (keeps_get fun s => ?_)
  exact (keeps_setlease _ _ _ _ _).bind fun _ => (keeps_sendoffer _ _ _).ite (keeps_pure _)

theorem keeps_sendack (srv : Handle) (ipaddr : Addr) : Keeps (Directed inpacket) (dhcpdSendack srv ipaddr) := by
  refine keeps_get fun s => ?_
  dsimp only
  rw [← bind_assoc]
  refine (keeps_ack srv ipaddr _).bind fun n => (keeps_pure _).ite ?_
  exact (keeps_setlease _ _ _ _ _).bind fun _ => keeps_pure _

theorem keeps_requestResponse (srv : Handle) : Keeps (Directed inpacket) (requestResponse srv) := by
  refine keeps_get fun s => (keeps_findbymac _ _).bind fun o => ?_
  cases o with
  | some i => exact keeps_pure _
  | none =>
    refine ((keeps_findbyipaddr _ _ _).bind fun o => ?_).ite (keeps_pure _)
    cases o with
    | some i => exact (keeps_leaseexpired i).bind fun _ => (keeps_pure _).ite (keeps_pure _)
    | none => exact (keeps_pure _).ite (keeps_pure _)

theorem keeps_request (srv : Handle) : Keeps (Directed inpacket) (dhcpdRequest srv) := by
  refine (keeps_requestResponse srv).bind fun answer => ?_
  refine ((keeps_sendack _ _).bind fun _ => keeps_pure _).ite ?_
  exact (keeps_sendnak.bind fun _ => keeps_pure _).ite (keeps_pure _)

/-- The shape of `dhcpd_decline` and `dhcpd_release`. -/
theorem keeps_own (srv : Handle) {act : Nat → M Int} (quiet : ∀ i, Keeps (Directed inpacket) (act i)) :
    Keeps (Directed inpacket) (do
      let s ← get
      match ← dhcpdFindbymac s.g.client srv.numLeases with
      | some i => act i
      | none => return 0) := by
  refine keeps_get fun s => (keeps_findbymac _ _).bind fun o => ?_
  cases o with
  | some i => exact quiet i
  | none => exact keeps_pure _

theorem keeps_dispatch (srv : Handle) : Keeps (Directed inpacket) (dispatch fuel srv) := by
  have decline : Keeps (Directed inpacket) (dhcpdDecline srv) :=
    keeps_own srv fun i => (keeps_slot i).bind fun _ => keeps_time.bind fun _ => (keeps_setSlot i _).bind fun _ => keeps_pure _
  have release : Keeps (Directed inpacket) (dhcpdRelease srv) :=
    keeps_own srv fun i => (keeps_setSlot i _).bind fun _ => keeps_pure _
  exact keeps_get fun s => (keeps_discover srv).ite ((keeps_request srv).ite (decline.ite (release.ite (keeps_pure _))))

/-- Every datagram of a call goes where the code sends it for the message received. -/
theorem loopHandler_directed {ps : List Sent} (answered : loopHandler fuel srv w g = .ok (g', ps)) :
    ∀ p ∈ ps, p.dest = chosen (receive w g).inpacket p.bytes := by
  rw [loopHandler_eq] at answered
  split at answered
  · rename_i n s result
    cases answered
    have start : Directed (receive w g).inpacket (Ctx.start (parsed w g).2 w) :=
      ⟨parsed_inpacket w g, fun p member => absurd member List.not_mem_nil⟩
    exact (keeps_dispatch srv _ _ start result).sent
  · cases answered

/-! ## The rules -/

/-- Only a REQUEST is answered with an ACK. -/
theorem Outcome.ack_request {s : Ctx} {T : List Lease} {ps : List Sent} {p : Sent} (h : Outcome srv s T ps) (member : p ∈ ps)
    (isAck : typeOf p.bytes = MsgType.ack) : s.g.opt.msgtype = MsgType.request ∧ s.sendto = true := by
  cases h with
  | idle quiet =>
    rcases quiet with none' | ⟨q, carried, one⟩
    · rw [none'] at member
      cases member
    · rw [one, List.mem_singleton] at member
      have isNak : typeOf p.bytes = MsgType.nak := member ▸ carried.typeOf initOptions_plain rfl
      rw [isNak] at isAck
      cases isAck
  | lapse => cases member
  | offer _ _ _ _ sends =>
    rcases sends with ⟨-, q, ⟨-, leasetime, granted⟩, one⟩ | ⟨-, none'⟩
    · rw [one, List.mem_singleton] at member
      have isOffer : typeOf p.bytes = MsgType.offer :=
        member ▸ Carried.typeOf granted leaseOptions_plain (leaseOptions_carries _ _ _ _ _).msgType
      rw [isOffer] at isAck
      cases isAck
    · rw [none'] at member
      cases member
  | ack type _ _ _ can => exact ⟨type, can⟩
  | decline => cases member
  | release => cases member

/-- An ACK answers a client whose slot is within reach. -/
theorem ack_answers {ps : List Sent} {p : Sent} (sized : Sized srv g) (answered : loopHandler fuel srv w g = .ok (g', ps))
    (member : p ∈ ps) (isAck : typeOf p.bytes = MsgType.ack) :
    (parsed w g).2.opt.msgtype = MsgType.request ∧ w.sendto = true ∧ ∃ i < 2 ^ 31, HoldsSlot (parsed w g).2 i := by
  have outcome := (loopHandler_outcome sized answered).1
  obtain ⟨type, can⟩ := outcome.ack_request member isAck
  refine ⟨type, can, ?_⟩
  rcases holdsSlot_or_unknown (parsed w g).2 with ⟨i, slot⟩ | unknown
  · refine ⟨i, ?_, slot⟩
    by_contra large
    rw [loopHandler_beyond fuel sized type slot (by omega)] at answered
    cases answered
  · exact absurd isAck (outcome.no_ack type unknown p member)

/-- The ACK to such a client is not broadcast. -/
theorem Unheard.breaks (fuel : Nat) (sized : Sized srv g) (h : Unheard srv w g) : ¬ FollowsRules fuel srv w g := by
  intro follows
  obtain ⟨i, small, slot, response, notLast⟩ := h.slot
  obtain ⟨g', p, answered, type, address⟩ := loopHandler_answered fuel sized h.type h.can slot small
  have isAck := type.trans response
  have there := loopHandler_directed answered p (List.mem_singleton.2 rfl)
  rw [follows g' [p] answered p (List.mem_singleton.2 rfl), ruled, chosen, if_neg (not_not.2 isAck), if_neg (not_not.2 isAck),
    if_neg (not_not.2 h.noAddress), if_neg (not_not.2 h.noAddress), if_pos h.broadcast, address isAck] at there
  exact notLast (Mem.swap_injective (there.symm.trans (by decide)))

/-- A reply is aimed by the rules, unless it answers such a client. -/
theorem follows_of_not_unheard (sized : Sized srv g) (heard : ¬ Unheard srv w g) : FollowsRules fuel srv w g := by
  intro g' ps answered p member
  rw [loopHandler_directed answered p member, chosen, ruled]
  by_cases isAck : typeOf p.bytes = MsgType.ack
  · rw [if_neg (not_not.2 isAck), if_neg (not_not.2 isAck)]
    by_cases noAddress : (receive w g).inpacket.word Msg.ciaddr = 0
    · rw [if_neg (not_not.2 noAddress), if_neg (not_not.2 noAddress)]
      by_cases broadcast : AsksBroadcast (receive w g).inpacket
      · rw [if_pos broadcast]
        obtain ⟨type, can, i, small, slot⟩ := ack_answers sized answered member isAck
        obtain ⟨g'', q, same, response, address⟩ := loopHandler_answered fuel sized type can slot small
        rw [answered] at same
        cases same
        obtain rfl := List.mem_singleton.1 member
        rw [address isAck]
        by_contra other
        refine heard ⟨type, can, noAddress, broadcast, i, small, slot, response.symm.trans isAck, fun last => other ?_⟩
        rw [last]
        decide
      · rw [if_neg broadcast]
    · rw [if_pos noAddress, if_pos noAddress]
  · rw [if_pos isAck, if_pos isAck]

theorem Reached.sized {serverip : Addr} (reached : Reached fuel srv serverip g) : Sized srv g := by
  obtain ⟨cs, run⟩ := reached
  exact run.invariant (boot_sized srv serverip) fun _ _ _ _ sized answered => loopHandler_sized sized answered

/-- **The destination of the replies.** A call follows the rules exactly where it does not
grant a client without address the broadcast ACK it asks for. -/
theorem destination_iff {serverip : Addr} (reached : Reached fuel srv serverip g) :
    FollowsRules fuel srv w g ↔ ¬ Unheard srv w g :=
  ⟨fun follows unheard => unheard.breaks fuel reached.sized follows, follows_of_not_unheard reached.sized⟩

/-! ## A client that asks for a broadcast -/

/-- `oneAddress`, started at 192.168.1.1. -/
def started : State := State.boot oneAddress 0x0101a8c0

/-- `started`, after a DISCOVER of the first client. -/
def offered : State := ((loopHandler 2 oneAddress (receives 0 firstMac discoverOptions) started).toOption.map Prod.fst).getD started

theorem offered_reached : Reached 2 oneAddress 0x0101a8c0 offered := by
  have boot : Reached 2 oneAddress 0x0101a8c0 started := Reachable.refl _ _
  unfold offered
  cases answered : loopHandler 2 oneAddress (receives 0 firstMac discoverOptions) started with
  | error e => exact boot
  | ok r => exact boot.snoc answered

/-- The REQUEST that follows the OFFER, with the flags given. -/
def requests (flags : Byte) : World :=
  receivesBytes 0 ((message dhcpRequest [0xad, 0xde, 0x12, 0x23] 0 0 firstMac requestOptions).set Msg.flags flags)

theorem destination_oneAddress : FollowsRules 2 oneAddress (requests 0) offered := by
  refine (destination_iff offered_reached).2 fun unheard => unheard.broadcast ?_
  decide +kernel

/-- With the BROADCAST flag the ACK goes to 192.168.1.100, not to 255.255.255.255. -/
theorem destination_broadcast : ∃ g w, Reached 2 oneAddress 0x0101a8c0 g ∧ ¬ FollowsRules 2 oneAddress w g := by
  refine ⟨offered, requests 0x80, offered_reached, Unheard.breaks 2 offered_reached.sized ⟨?_, rfl, ?_, ?_, 0, by decide, ?_, ?_, ?_⟩⟩
  · decide +kernel
  · decide +kernel
  · decide +kernel
  · have held : ((parsed (requests 0x80) offered).2.leases[0]?.map Lease.mac) = some (parsed (requests 0x80) offered).2.client := by
      decide +kernel
    obtain ⟨l, found, mac⟩ := Option.map_eq_some_iff.1 held
    exact ⟨⟨l, found, mac⟩, fun j less => absurd less (Nat.not_lt_zero j)⟩
  · decide +kernel
  · decide +kernel

end ArtikSdk.Dhcp.Server
