import ArtikSdk.Dhcp.Server.Safety

/-!
# DHCP server: the OFFER and the ACK for one address

Both builders write the same options from the same configuration. They differ in the DNS
addresses only: `dhcpd_sendoffer` converts them once more to network order, so the two
lists agree exactly where every address reads the same in both orders.
-/

namespace ArtikSdk.Dhcp.Server
open Lib Checked

/-- The options of a datagram with one code, in order. -/
def valuesOf (code : Byte) (bytes : List Byte) : Option (List (List Byte)) := (optionsOf bytes).map (Tlv.values code)

/-- Two datagrams carry the same address, server, netmask, router and DNS servers. -/
structure Agree (p q : List Byte) : Prop where
  yiaddr : yiaddrOf p = yiaddrOf q
  serverId : valuesOf Code.serverId p = valuesOf Code.serverId q
  subnetMask : valuesOf Code.subnetMask p = valuesOf Code.subnetMask q
  router : valuesOf Code.router p = valuesOf Code.router q
  dnsServer : valuesOf Code.dnsServer p = valuesOf Code.dnsServer q

instance (p q : List Byte) : Decidable (Agree p q) :=
  decidable_of_iff (yiaddrOf p = yiaddrOf q ∧ valuesOf Code.serverId p = valuesOf Code.serverId q ∧
      valuesOf Code.subnetMask p = valuesOf Code.subnetMask q ∧ valuesOf Code.router p = valuesOf Code.router q ∧
      valuesOf Code.dnsServer p = valuesOf Code.dnsServer q)
    ⟨fun ⟨a, b, c, d, e⟩ => ⟨a, b, c, d, e⟩, fun ⟨a, b, c, d, e⟩ => ⟨a, b, c, d, e⟩⟩

theorem Carried.valuesOf {g : State} {yi : List Byte} {os : List Tlv.Opt} {p : Sent} (h : Carried g yi os p)
    (plain : ∀ o ∈ os, Tlv.Plain Code.pad Code.fin o) (code : Byte) : valuesOf code p.bytes = some (Tlv.values code os) := by
  obtain ⟨g₀, g', -, reply, bytes⟩ := h
  rw [bytes, Server.valuesOf, reply.optionsOf plain, Option.map_some]

/-- The DNS options of the OFFER are those of the ACK exactly where no address changes. -/
theorem dns_agree_iff (dns : List Addr) :
    ((dns.map htonl).filter (· ≠ 0)).map Mem.wordBytes = (dns.filter (· ≠ 0)).map Mem.wordBytes ↔ ∀ d ∈ dns, htonl d = d := by
  have commutes : (dns.map htonl).filter (· ≠ 0) = (dns.filter (· ≠ 0)).map htonl := by
    rw [List.filter_map]
    congr 1
    apply List.filter_congr
    intro d _
    simp [Mem.swap_eq_zero_iff]
  rw [commutes, List.map_map]
  constructor
  · intro same d member
    by_cases zero : d = 0
    · rw [zero]
      exact Mem.swap_zero
    · have there : d ∈ dns.filter (· ≠ 0) := List.mem_filter.2 ⟨member, by simpa using zero⟩
      exact Mem.wordBytes_injective (List.map_inj_left.1 same d there)
  · intro fixed
    apply List.map_congr_left
    intro d member
    rw [Function.comp_apply, fixed d (List.mem_of_mem_filter member)]

/-- `dhcpd_sendoffer` sends the OFFER. -/
theorem sendoffer_carried {srv : Handle} {ipaddr : Addr} {leasetime : BitVec 32} {s : Ctx} {r : Int × Ctx} {p : Sent}
    (h : dhcpdSendoffer srv ipaddr leasetime s = .ok r) (sent : r.2.sent = s.sent ++ [p]) :
    Carried s.g (Mem.wordBytes (htonl ipaddr))
      (leaseOptions MsgType.offer s.g.serverip srv leasetime (srv.dnsAddr.map htonl)) p := by
  rcases send_ok (offerPacket_reply srv ipaddr leasetime s.g) h with ⟨-, -, q, carried, -, ends, -⟩ | ⟨-, -, ends⟩
  · have same := List.append_cancel_left (sent.symm.trans ends.sent)
    rwa [(List.cons.inj same).1]
  · have := List.append_cancel_left (sent.symm.trans ends.sent)
    cases this

/-- `dhcpd_sendack` sends the ACK. -/
theorem sendack_carried {srv : Handle} {ipaddr : Addr} {s : Ctx} {r : Int × Ctx} {p : Sent}
    (h : dhcpdSendack srv ipaddr s = .ok r) (sent : r.2.sent = s.sent ++ [p]) :
    Carried s.g (Mem.wordBytes (htonl ipaddr)) (leaseOptions MsgType.ack s.g.serverip srv (grantedTime s.g.opt) srv.dnsAddr) p := by
  rcases sendack_cases h with ⟨-, q, s₁, b, -, carried, ends, -, lease⟩ | ⟨-, ends⟩
  · have quiet : r.2.sent = s₁.sent := by
      rcases setlease_ok lease with ⟨-, -, -, after⟩ | ⟨-, same, -⟩
      · exact after.sent
      · exact congrArg Ctx.sent same
    have same := List.append_cancel_left (sent.symm.trans (quiet.trans ends.sent))
    rwa [(List.cons.inj same).1]
  · have := List.append_cancel_left (sent.symm.trans ends.sent)
    cases this

/-- **Agreement.** The OFFER and the ACK that one server sends for one address agree
exactly where every configured DNS address is the same in both byte orders. -/
theorem offer_ack_agree_iff {srv : Handle} {ipaddr : Addr} {leasetime : BitVec 32} {s s' : Ctx} {r r' : Int × Ctx} {p q : Sent}
    (server : s'.g.serverip = s.g.serverip) (offered : dhcpdSendoffer srv ipaddr leasetime s = .ok r)
    (offer : r.2.sent = s.sent ++ [p]) (acked : dhcpdSendack srv ipaddr s' = .ok r') (ack : r'.2.sent = s'.sent ++ [q]) :
    Agree p.bytes q.bytes ↔ ∀ d ∈ srv.dnsAddr, htonl d = d := by
  have left := sendoffer_carried offered offer
  have right := sendack_carried acked ack
  have leftCarries := leaseOptions_carries MsgType.offer s.g.serverip srv leasetime (srv.dnsAddr.map htonl)
  have rightCarries := leaseOptions_carries MsgType.ack s'.g.serverip srv (grantedTime s'.g.opt) srv.dnsAddr
  have values code := And.intro (left.valuesOf leaseOptions_plain code) (right.valuesOf leaseOptions_plain code)
  rw [← dns_agree_iff, ← leftCarries.dnsServer, ← rightCarries.dnsServer]
  constructor
  · intro agree
    have same := agree.dnsServer
    rw [(values _).1, (values _).2] at same
    exact Option.some.inj same
  · intro same
    refine ⟨left.yiaddrOf.trans right.yiaddrOf.symm, ?_, ?_, ?_, ?_⟩
    · rw [(values _).1, (values _).2, leftCarries.serverId, rightCarries.serverId, server]
    · rw [(values _).1, (values _).2, leftCarries.subnetMask, rightCarries.subnetMask]
    · rw [(values _).1, (values _).2, leftCarries.router, rightCarries.router]
    · rw [(values _).1, (values _).2, same]

/-! ## A server at 192.168.1.1 -/

/-- The datagram that is sent from `g`. -/
def State.sent (g : State) (bbroadcast : Bool) (time : Int) : Sent := ⟨g.datagram, destination bbroadcast g.outpacket, time⟩

theorem send_of_can {s : Ctx} (can : s.sendto = true) (build : State → State) (bbroadcast : Bool) :
    (do modifyState build; dhcpdSendpacket bbroadcast : M Int) s =
      .ok ((build s.g).datagram.length,
        { s with g := build s.g, sent := s.sent ++ [(build s.g).sent bbroadcast (s.clock 0)] }) := by
  rw [bind_apply_of_ok (modifyState_apply _ _), dhcpdSendpacket, if_pos can]
  rfl

theorem sendoffer_sends (srv : Handle) (ipaddr : Addr) (leasetime : BitVec 32) {s : Ctx} (can : s.sendto = true) :
    ∃ r, dhcpdSendoffer srv ipaddr leasetime s = .ok r ∧
      r.2.sent = s.sent ++ [(offerPacket srv ipaddr leasetime s.g).sent true (s.clock 0)] :=
  ⟨_, send_of_can can _ _, rfl⟩

theorem sendack_sends {srv : Handle} {s : Ctx} (sized : Sized srv s.g) (ipaddr : Addr) (can : s.sendto = true) :
    ∃ r, dhcpdSendack srv ipaddr s = .ok r ∧
      r.2.sent = s.sent ++ [(ackPacket srv ipaddr (grantedTime s.g.opt) s.g).sent false (s.clock 0)] := by
  have send := send_of_can can (ackPacket srv ipaddr (grantedTime s.g.opt)) false
  have kept := (ackPacket_reply srv ipaddr (grantedTime s.g.opt) s.g).rest
  have sized₁ : Sized srv (ackPacket srv ipaddr (grantedTime s.g.opt) s.g) := by
    rw [Sized, kept, ← sized]
  have total : Only (fun _ => False) (dhcpdSetlease s.g.client ipaddr (grantedTime s.g.opt).toNat srv.numLeases srv.startip)
      { s with
        g := ackPacket srv ipaddr (grantedTime s.g.opt) s.g
        sent := s.sent ++ [(ackPacket srv ipaddr (grantedTime s.g.opt) s.g).sent false (s.clock 0)] } :=
    only_setlease sized₁ s.g.client ipaddr (grantedTime s.g.opt).toNat
  obtain ⟨r, lease⟩ | ⟨e, no, -⟩ := total.returns
  · have acked : dhcpdSendack srv ipaddr s = .ok (0, r.2) := by
      rw [dhcpdSendack, get_bind_apply, ← bind_assoc, bind_apply_of_ok send, if_neg (by omega), bind_apply_of_ok lease]
      rfl
    refine ⟨_, acked, ?_⟩
    rcases setlease_ok lease with ⟨-, -, -, after⟩ | ⟨-, same, -⟩
    · exact after.sent
    · rw [same]
  · exact no.elim

/-- The state in which such a server answers a message with the options `os`. -/
def answering (srv : Handle) (os : List Tlv.Opt) : Ctx :=
  Ctx.start (parsed (receives 0 firstMac os) (State.boot srv 0x0101a8c0)).2 (receives 0 firstMac os)

theorem answering_sized (srv : Handle) (os : List Tlv.Opt) : Sized srv (answering srv os).g := by
  rw [Sized, answering, Ctx.start, parsed_leases, boot_sized]

theorem answering_serverip (srv : Handle) (os : List Tlv.Opt) : (answering srv os).g.serverip = 0x0101a8c0 := by
  rw [answering, Ctx.start, parsed_serverip, State.boot]

theorem offer_ack_agree_oneAddress : ∃ p q : Sent, Agree p.bytes q.bytes ↔ ∀ d ∈ oneAddress.dnsAddr, htonl d = d := by
  obtain ⟨r, offered, offer⟩ := sendoffer_sends oneAddress 0xc0a80164 leasetimeDefault (s := answering oneAddress discoverOptions) rfl
  obtain ⟨r', acked, ack⟩ := sendack_sends (answering_sized oneAddress requestOptions) 0xc0a80164 rfl
  have server : (answering oneAddress requestOptions).g.serverip = (answering oneAddress discoverOptions).g.serverip := by
    rw [answering_serverip, answering_serverip]
  exact ⟨_, _, offer_ack_agree_iff server offered offer acked ack⟩

/-- The pool of one address with the DNS server 8.8.4.4. -/
def unevenDns : Handle := { oneAddress with dnsAddr := [0x04040808, 0], dns_length := rfl }

/-- The OFFER names 4.4.8.8, the ACK 8.8.4.4. -/
theorem offer_ack_disagree :
    ∃ (s s' : Ctx) (r r' : Int × Ctx) (p q : Sent), s'.g.serverip = s.g.serverip ∧
      dhcpdSendoffer unevenDns 0xc0a80164 leasetimeDefault s = .ok r ∧ r.2.sent = s.sent ++ [p] ∧
      dhcpdSendack unevenDns 0xc0a80164 s' = .ok r' ∧ r'.2.sent = s'.sent ++ [q] ∧ ¬ Agree p.bytes q.bytes := by
  obtain ⟨r, offered, offer⟩ := sendoffer_sends unevenDns 0xc0a80164 leasetimeDefault (s := answering unevenDns discoverOptions) rfl
  obtain ⟨r', acked, ack⟩ := sendack_sends (answering_sized unevenDns requestOptions) 0xc0a80164 rfl
  refine ⟨_, _, r, r', _, _, ?_, offered, offer, acked, ack, ?_⟩
  · rw [answering_serverip, answering_serverip]
  · decide +kernel

end ArtikSdk.Dhcp.Server
