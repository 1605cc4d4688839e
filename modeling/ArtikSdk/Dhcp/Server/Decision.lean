import ArtikSdk.Dhcp.Server.Agreement

/-!
# DHCP server: what a REQUEST is answered with

The comments of `dhcpd_request` say when a client that holds a slot gets an ACK. With a
server identifier the code asks for `ds_optreqip != 0 || ds_optreqip == ipaddr`, which
any requested address passes; the search for the slot, in turn, ends at `INT_MAX`.
`decision_iff` says that nothing else separates the code from the comments.
-/

namespace ArtikSdk.Dhcp.Server
open Lib Checked

/-- Slot `i` is the client's: the first with its MAC address. -/
structure HoldsSlot (g : State) (i : Nat) : Prop where
  found : ∃ l, g.leases[i]? = some l ∧ l.mac = g.client
  first : ∀ j < i, ∀ l, g.leases[j]? = some l → l.mac ≠ g.client

/-- What a REQUEST has to say to be granted `ipaddr`: an option that is absent reads 0. -/
def Entitled (g : State) (ipaddr : Addr) : Prop :=
  if g.opt.serverip ≠ 0 then g.opt.serverip = htonl g.serverip ∧ g.opt.reqip = ipaddr
  else if g.opt.reqip ≠ 0 then g.opt.reqip = ipaddr
  else g.inpacket.load Msg.ciaddr 4 = Mem.wordBytes (htonl ipaddr)

/-- The REQUEST names this server, and asks it for another address than `ipaddr`. -/
def AsksOther (g : State) (ipaddr : Addr) : Prop :=
  g.opt.serverip ≠ 0 ∧ g.opt.serverip = htonl g.serverip ∧ g.opt.reqip ≠ 0 ∧ g.opt.reqip ≠ ipaddr

/-- The call returns, and has sent an ACK. -/
def SendsAck (fuel : Nat) (srv : Handle) (w : World) (g : State) : Prop :=
  ∃ g' ps, loopHandler fuel srv w g = .ok (g', ps) ∧ ∃ p ∈ ps, typeOf p.bytes = MsgType.ack

/-- An ACK is sent exactly to the clients that hold a slot and are entitled to it, and
carries the address of that slot. -/
structure Decides (fuel : Nat) (srv : Handle) (w : World) (g : State) : Prop where
  granted : SendsAck fuel srv w g ↔ ∃ i, HoldsSlot (parsed w g).2 i ∧ Entitled (parsed w g).2 (dhcpLeaseipaddr i srv.startip)
  address : ∀ g' ps, loopHandler fuel srv w g = .ok (g', ps) → ∀ p ∈ ps, typeOf p.bytes = MsgType.ack →
    ∃ i, HoldsSlot (parsed w g).2 i ∧ yiaddrOf p.bytes = htonl (dhcpLeaseipaddr i srv.startip)

/-- The requests that are decided wrongly: one for another address than that of the slot,
and one whose slot the `int` index of the search does not reach. -/
def Misjudged (srv : Handle) (g : State) : Prop :=
  ∃ i, HoldsSlot g i ∧
    (i < 2 ^ 31 ∧ AsksOther g (dhcpLeaseipaddr i srv.startip) ∨ 2 ^ 31 ≤ i ∧ Entitled g (dhcpLeaseipaddr i srv.startip))

variable {fuel : Nat} {srv : Handle} {w : World} {g : State} {s : Ctx} {i j : Nat} {ipaddr : Addr}

/-! ## The slot of the client -/

theorem HoldsSlot.unique (h : HoldsSlot g i) (h' : HoldsSlot g j) : i = j := by
  obtain ⟨l, found, mac⟩ := h.found
  obtain ⟨l', found', mac'⟩ := h'.found
  by_contra other
  rcases Nat.lt_or_gt_of_ne other with less | less
  · exact h'.first i less l found mac
  · exact h.first j less l' found' mac'

/-- A client holds a slot, or is unknown. -/
theorem holdsSlot_or_unknown (g : State) : (∃ i, HoldsSlot g i) ∨ Unknown g := by
  classical
  by_cases known : ∃ (i : Nat) (l : Lease), g.leases[i]? = some l ∧ l.mac = g.client
  · refine Or.inl ⟨Nat.find known, Nat.find_spec known, ?_⟩
    intro j less l found mac
    exact Nat.find_min known less ⟨l, found, mac⟩
  · refine Or.inr fun j l found mac => ?_
    exact known ⟨j, l, found, mac⟩

theorem Unknown.not_holdsSlot (unknown : Unknown g) (i : Nat) : ¬ HoldsSlot g i := by
  intro slot
  obtain ⟨l, found, mac⟩ := slot.found
  exact unknown i l found mac

/-- In a valid table the slot of a client is the only one with its MAC address. -/
theorem Valid.holdsSlot_iff (valid : Valid g.leases) (named : g.client ≠ Mac.zero) :
    HoldsSlot g i ↔ ∃ l, g.leases[i]? = some l ∧ l.mac = g.client := by
  refine ⟨HoldsSlot.found, fun ⟨l, found, mac⟩ => ⟨⟨l, found, mac⟩, ?_⟩⟩
  intro j less l' found' mac'
  have same := valid.unique found' found (mac'.trans mac.symm) (by rw [mac']; exact named)
  omega

/-- The search stops at the first slot with the MAC address. -/
theorem findbymacFrom_first (slot : HoldsSlot g i) (small : i < 2 ^ 31) :
    ∀ {left k : Nat}, k ≤ i → i < k + left → findbymacFrom g.client g.leases left k = .ok (some i) := by
  obtain ⟨⟨l, found, mac⟩, first⟩ := slot
  have bound := (List.getElem?_eq_some_iff.1 found).1
  intro left
  induction left with
  | zero =>
    intro k _ _
    omega
  | succ left ih =>
    intro k le inside
    have here := List.getElem?_eq_getElem (show k < g.leases.length by omega)
    rw [findbymacFrom, here]
    dsimp only
    by_cases last : k = i
    · subst last
      rw [here] at found
      rw [if_pos (by rw [Option.some.inj found, mac])]
    · rw [if_neg (first k (by omega) _ here), if_neg (by omega)]
      exact ih (by omega) (by omega)

theorem findbymac_first (sized : Sized srv s.g) (slot : HoldsSlot s.g i) (small : i < 2 ^ 31) :
    dhcpdFindbymac s.g.client srv.numLeases s = .ok (some i, s) := by
  obtain ⟨l, found, -⟩ := slot.found
  have bound := index_lt sized found
  rw [dhcpdFindbymac, get_bind_apply, findbymacFrom_first slot small (Nat.zero_le i) (by omega)]
  rfl

/-- A search that would have to go on past `INT_MAX` overflows. -/
theorem findbymac_beyond (sized : Sized srv s.g) (slot : HoldsSlot s.g i) (large : 2 ^ 31 ≤ i) :
    dhcpdFindbymac s.g.client srv.numLeases s = .error .overflow := by
  obtain ⟨l, found, -⟩ := slot.found
  have bound := index_lt sized found
  have others : ∀ k < 2 ^ 31, ∃ l, s.g.leases[k]? = some l ∧ l.mac ≠ s.g.client := by
    intro k small
    have here := List.getElem?_eq_getElem (show k < s.g.leases.length by rw [sized]; omega)
    exact ⟨_, here, slot.first k (by omega) _ here⟩
  rw [dhcpdFindbymac, get_bind_apply, findbymacFrom_overflow others (by decide) (by omega)]
  rfl

/-! ## The response -/

theorem leaseResponse_cases (g : State) (ipaddr : Addr) : leaseResponse g ipaddr = MsgType.ack ∨ leaseResponse g ipaddr = MsgType.nak := by
  unfold leaseResponse
  split
  · exact ite_eq_or_eq _ _ _
  split
  · exact ite_eq_or_eq _ _ _
  · exact ite_eq_or_eq _ _ _

/-- The code grants what it should, and every other address asked of this server. -/
theorem leaseResponse_ack_iff : leaseResponse g ipaddr = MsgType.ack ↔ Entitled g ipaddr ∨ AsksOther g ipaddr := by
  have apart : MsgType.nak ≠ MsgType.ack := by decide
  have answer (P : Prop) [Decidable P] : (if P then MsgType.ack else MsgType.nak) = MsgType.ack ↔ P := by
    split <;> simp_all
  unfold leaseResponse Entitled
  by_cases named : g.opt.serverip ≠ 0
  · rw [if_pos named, if_pos named, answer]
    constructor
    · rintro ⟨ours, asked⟩
      by_cases same : g.opt.reqip = ipaddr
      · exact Or.inl ⟨ours, same⟩
      · exact Or.inr ⟨named, ours, asked.resolve_right same, same⟩
    · rintro (⟨ours, same⟩ | ⟨-, ours, asked, -⟩)
      · exact ⟨ours, Or.inr same⟩
      · exact ⟨ours, Or.inl asked⟩
  · have mute : ¬ AsksOther g ipaddr := fun other => named other.1
    rw [if_neg named, if_neg named, or_iff_left mute]
    split
    · rw [answer]
      exact eq_comm
    · rw [answer]
      exact eq_comm

/-! ## The answer -/

theorem dispatch_request (type : s.g.opt.msgtype = MsgType.request) : dispatch fuel srv s = dhcpdRequest srv s := by
  have other : MsgType.request ≠ MsgType.discover := by decide
  rw [dispatch, get_bind_apply]
  simp only [type, if_neg other, if_true]

/-- A client that holds a slot gets one datagram: the response. -/
theorem request_answered (sized : Sized srv s.g) (can : s.sendto = true) (slot : HoldsSlot s.g i) (small : i < 2 ^ 31) :
    ∃ r p, dhcpdRequest srv s = .ok r ∧ r.2.sent = s.sent ++ [p] ∧
      typeOf p.bytes = leaseResponse s.g (dhcpLeaseipaddr i srv.startip) ∧
      (typeOf p.bytes = MsgType.ack → yiaddrOf p.bytes = htonl (dhcpLeaseipaddr i srv.startip)) := by
  obtain ⟨l, found, -⟩ := slot.found
  have response : requestResponse srv s =
      .ok ((dhcpLeaseipaddr i srv.startip, leaseResponse s.g (dhcpLeaseipaddr i srv.startip)), s) := by
    rw [requestResponse, get_bind_apply, bind_apply_of_ok (findbymac_first sized slot small)]
    rfl
  rw [dhcpdRequest, bind_apply_of_ok response]
  dsimp only
  rcases leaseResponse_cases s.g (dhcpLeaseipaddr i srv.startip) with isAck | isNak
  · obtain ⟨r, acked, -⟩ := sendack_sends sized (dhcpLeaseipaddr i srv.startip) can
    rcases sendack_ok small (index_lt sized found) acked with ⟨-, p, -, granted, ends⟩ | ⟨cannot, -⟩
    · obtain ⟨type, yiaddr, -⟩ := granted.facts
      refine ⟨(0, r.2), p, ?_, ends.sent, type.trans isAck.symm, fun _ => yiaddr⟩
      rw [if_pos isAck, bind_apply_of_ok acked]
      rfl
    · rw [can] at cannot
      cases cannot
  · have apart : MsgType.nak ≠ MsgType.ack := by decide
    have naked : dhcpdSendnak s = _ := send_of_can can nakPacket true
    rcases send_ok (nakPacket_reply s.g) naked with ⟨-, -, p, carried, -, ends, -⟩ | ⟨cannot, -⟩
    · have type : typeOf p.bytes = MsgType.nak := carried.typeOf initOptions_plain rfl
      refine ⟨(0, _), p, ?_, ends.sent, type.trans isNak.symm, fun isAck => absurd (type.symm.trans isAck) apart⟩
      rw [if_neg (isNak ▸ apart), if_pos isNak, bind_apply_of_ok naked]
      rfl
    · rw [can] at cannot
      cases cannot

/-- A client without a slot gets no ACK. -/
theorem Outcome.no_ack {T : List Lease} {ps : List Sent} (h : Outcome srv s T ps) (type : s.g.opt.msgtype = MsgType.request)
    (unknown : Unknown s.g) : ∀ p ∈ ps, typeOf p.bytes ≠ MsgType.ack := by
  intro p member isAck
  cases h with
  | idle quiet =>
    rcases quiet with none' | ⟨q, carried, one⟩
    · rw [none'] at member
      cases member
    · obtain rfl : p = q := by simpa [one] using member
      have isNak : typeOf p.bytes = MsgType.nak := carried.typeOf initOptions_plain rfl
      rw [isNak] at isAck
      cases isAck
  | lapse => cases member
  | offer discover =>
    rw [type] at discover
    cases discover
  | ack _ found mac => exact unknown _ _ found mac
  | decline => cases member
  | release => cases member

/-- The call on a REQUEST of a client that holds a slot within reach. -/
theorem loopHandler_answered (fuel : Nat) (sized : Sized srv g) (type : (parsed w g).2.opt.msgtype = MsgType.request)
    (can : w.sendto = true) (slot : HoldsSlot (parsed w g).2 i) (small : i < 2 ^ 31) :
    ∃ g' p, loopHandler fuel srv w g = .ok (g', [p]) ∧
      typeOf p.bytes = leaseResponse (parsed w g).2 (dhcpLeaseipaddr i srv.startip) ∧
      (typeOf p.bytes = MsgType.ack → yiaddrOf p.bytes = htonl (dhcpLeaseipaddr i srv.startip)) := by
  have sized' : Sized srv (Ctx.start (parsed w g).2 w).g := by rw [Sized, Ctx.start, parsed_leases, sized]
  obtain ⟨r, p, request, sent, response, address⟩ := request_answered (s := Ctx.start (parsed w g).2 w) sized' can slot small
  refine ⟨r.2.g, p, ?_, response, address⟩
  rw [loopHandler_eq, dispatch_request (s := Ctx.start (parsed w g).2 w) type, request]
  dsimp only
  rw [sent]
  rfl

/-- The call on a REQUEST of a client whose slot is out of reach. -/
theorem loopHandler_beyond (fuel : Nat) (sized : Sized srv g) (type : (parsed w g).2.opt.msgtype = MsgType.request)
    (slot : HoldsSlot (parsed w g).2 i) (large : 2 ^ 31 ≤ i) : loopHandler fuel srv w g = .error .overflow := by
  have sized' : Sized srv (Ctx.start (parsed w g).2 w).g := by rw [Sized, Ctx.start, parsed_leases, sized]
  have search := findbymac_beyond (s := Ctx.start (parsed w g).2 w) sized' slot large
  have response : requestResponse srv (Ctx.start (parsed w g).2 w) = .error .overflow := by
    rw [requestResponse, get_bind_apply, bind_apply_of_error search]
  rw [loopHandler_eq, dispatch_request (s := Ctx.start (parsed w g).2 w) type, dhcpdRequest, bind_apply_of_error response]

/-! ## The decision -/

theorem HoldsSlot.due_iff (slot : HoldsSlot g i) :
    (∃ j, HoldsSlot g j ∧ Entitled g (dhcpLeaseipaddr j srv.startip)) ↔ Entitled g (dhcpLeaseipaddr i srv.startip) :=
  ⟨fun ⟨_, slot', due⟩ => slot'.unique slot ▸ due, fun due => ⟨i, slot, due⟩⟩

theorem HoldsSlot.misjudged_iff (slot : HoldsSlot g i) :
    Misjudged srv g ↔
      i < 2 ^ 31 ∧ AsksOther g (dhcpLeaseipaddr i srv.startip) ∨ 2 ^ 31 ≤ i ∧ Entitled g (dhcpLeaseipaddr i srv.startip) :=
  ⟨fun ⟨_, slot', wrong⟩ => slot'.unique slot ▸ wrong, fun wrong => ⟨i, slot, wrong⟩⟩

theorem Entitled.not_asksOther (due : Entitled g ipaddr) : ¬ AsksOther g ipaddr := by
  rintro ⟨named, -, -, other⟩
  rw [Entitled, if_pos named] at due
  exact other due.2

/-- A slot within reach: the one datagram is the response. -/
theorem decides_reached_iff (sized : Sized srv g) (type : (parsed w g).2.opt.msgtype = MsgType.request) (can : w.sendto = true)
    (slot : HoldsSlot (parsed w g).2 i) (small : i < 2 ^ 31) :
    Decides fuel srv w g ↔ ¬ AsksOther (parsed w g).2 (dhcpLeaseipaddr i srv.startip) := by
  obtain ⟨g', p, answered, response, address⟩ := loopHandler_answered fuel sized type can slot small
  have sends : SendsAck fuel srv w g ↔
      Entitled (parsed w g).2 (dhcpLeaseipaddr i srv.startip) ∨ AsksOther (parsed w g).2 (dhcpLeaseipaddr i srv.startip) := by
    rw [← leaseResponse_ack_iff, ← response, SendsAck, answered]
    constructor
    · rintro ⟨g'', ps, same, q, member, isAck⟩
      cases same
      rwa [← List.mem_singleton.1 member]
    · intro isAck
      exact ⟨g', [p], rfl, p, List.mem_singleton.2 rfl, isAck⟩
  constructor
  · rintro ⟨granted, -⟩ other
    rw [sends, slot.due_iff] at granted
    exact (granted.1 (Or.inr other)).not_asksOther other
  · intro sound
    refine ⟨?_, ?_⟩
    · rw [sends, slot.due_iff]
      exact or_iff_left sound
    · intro g'' ps same q member isAck
      rw [answered] at same
      cases same
      rw [List.mem_singleton.1 member] at isAck ⊢
      exact ⟨i, slot, address isAck⟩

/-- A slot out of reach: nothing is sent. -/
theorem decides_beyond_iff (sized : Sized srv g) (type : (parsed w g).2.opt.msgtype = MsgType.request)
    (slot : HoldsSlot (parsed w g).2 i) (large : 2 ^ 31 ≤ i) :
    Decides fuel srv w g ↔ ¬ Entitled (parsed w g).2 (dhcpLeaseipaddr i srv.startip) := by
  have stopped := loopHandler_beyond fuel sized type slot large
  have silent : ¬ SendsAck fuel srv w g := by
    rintro ⟨g', ps, answered, -⟩
    rw [stopped] at answered
    cases answered
  constructor
  · rintro ⟨granted, -⟩ due
    exact silent (granted.2 ⟨i, slot, due⟩)
  · intro undue
    refine ⟨iff_of_false silent (by rwa [slot.due_iff]), ?_⟩
    intro g' ps answered
    rw [stopped] at answered
    cases answered

/-- Without a slot there is nothing to decide. -/
theorem decides_of_unknown (sized : Sized srv g) (type : (parsed w g).2.opt.msgtype = MsgType.request)
    (unknown : Unknown (parsed w g).2) : Decides fuel srv w g := by
  have silent : ∀ g' ps, loopHandler fuel srv w g = .ok (g', ps) → ∀ p ∈ ps, typeOf p.bytes ≠ MsgType.ack :=
    fun _ _ answered => (loopHandler_outcome sized answered).1.no_ack type unknown
  refine ⟨iff_of_false ?_ ?_, ?_⟩
  · rintro ⟨g', ps, answered, p, member, isAck⟩
    exact silent g' ps answered p member isAck
  · rintro ⟨i, slot, -⟩
    exact unknown.not_holdsSlot i slot
  · intro g' ps answered p member isAck
    exact absurd isAck (silent g' ps answered p member)

/-- `oneAddress` with its slot held by the first client. -/
def leased : State := { State.boot oneAddress 0x0101a8c0 with leases := [⟨firstMac, true, 3600⟩] }

/-- A REQUEST to 192.168.1.1 for an address of the byte given. -/
def asks (last : Byte) : World :=
  receives 0 firstMac [(Code.msgType, [MsgType.request]), (Code.serverId, [192, 168, 1, 1]), (Code.reqIpaddr, [192, 168, 1, last])]

theorem leased_holdsSlot (last : Byte) (client : (parsed (asks last) leased).2.client = firstMac) :
    HoldsSlot (parsed (asks last) leased).2 0 := by
  refine ⟨⟨⟨firstMac, true, 3600⟩, ?_, client.symm⟩, fun j less => absurd less (Nat.not_lt_zero j)⟩
  rw [parsed_leases]
  rfl

end ArtikSdk.Dhcp.Server
