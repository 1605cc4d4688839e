import ArtikSdk.Dhcp.Server.Packet

/-!
# DHCP server: what the replies carry

`Reply g g' yi os`: from `g`, the packet builders have made in `g'` an outgoing message
with the address `yi` in `yiaddr`, the identity of the client in `xid` and `chaddr`, and
the options `os` behind the magic cookie. Every option writer appends its option; the
datagram that is sent then reads back as the same address, client and options.
-/

namespace ArtikSdk.Dhcp.Server
open Lib

/-- The outgoing message of `g'` answers the incoming message of `g`. -/
structure Reply (g g' : State) (yi : List Byte) (os : List Tlv.Opt) : Prop where
  rest : g' = { g with outpacket := g'.outpacket, optend := g'.optend }
  optend : g'.optend = some (Msg.options + 4 + (Tlv.encode os).length)
  op : g'.outpacket Msg.op = dhcpReply
  xid : Mem.Holds g'.outpacket Msg.xid (g.inpacket.load Msg.xid 4)
  yiaddr : Mem.Holds g'.outpacket Msg.yiaddr yi
  chaddr : Mem.Holds g'.outpacket Msg.chaddr (g.inpacket.load Msg.chaddr 16)
  area : Mem.Holds g'.outpacket Msg.options (magicCookie ++ (Tlv.encode os ++ [Code.fin]))

/-- The options `dhcpd_initpacket` writes. -/
def initOptions (mtype : Byte) (serverip : Addr) : List Tlv.Opt :=
  [(Code.msgType, [mtype]), (Code.serverId, Mem.wordBytes serverip)]

/-- The options of an OFFER or ACK. -/
def leaseOptions (mtype : Byte) (serverip : Addr) (srv : Handle) (leasetime : BitVec 32) (dnsaddr : List Addr) : List Tlv.Opt :=
  initOptions mtype serverip ++
    [(Code.leaseTime, Mem.wordBytes (htonl leasetime)), (Code.subnetMask, Mem.wordBytes srv.netmask),
      (Code.router, Mem.wordBytes srv.gwAddr)] ++
    (dnsaddr.filter (· ≠ 0)).map fun d => (Code.dnsServer, Mem.wordBytes d)

/-! ## Stores into the outgoing message -/

theorem holds_byte {m : Mem} {a : Nat} {b : Byte} : Mem.Holds m a [b] ↔ m a = b := by
  simp [Mem.holds_cons]

/-- An address field is written; it lies in front of the options. -/
theorem Reply.setCiaddr {g g' : State} {yi : List Byte} {os : List Tlv.Opt} (h : Reply g g' yi os)
    (bs : List Byte) (len : bs.length = 4) : Reply g { g' with outpacket := g'.outpacket.store Msg.ciaddr bs } yi os := by
  obtain ⟨rest, optend, op, xid, yiaddr, chaddr, area⟩ := h
  refine ⟨by rw [rest], optend, ?_, xid.store ?_, yiaddr.store ?_, chaddr.store ?_, area.store ?_⟩
  · simp only
    rw [Mem.store_outside _ (Or.inl (by simp)), op]
  · left; simp
  · right; simp [len]
  · right; simp [len]
  · right; simp [len]

theorem Reply.setYiaddr {g g' : State} {yi : List Byte} {os : List Tlv.Opt} (h : Reply g g' yi os)
    (bs : List Byte) (len : bs.length = 4) : Reply g { g' with outpacket := g'.outpacket.store Msg.yiaddr bs } bs os := by
  obtain ⟨rest, optend, op, xid, yiaddr, chaddr, area⟩ := h
  refine ⟨by rw [rest], optend, ?_, xid.store ?_, Mem.holds_store _ _ _, chaddr.store ?_, area.store ?_⟩
  · simp only
    rw [Mem.store_outside _ (Or.inl (by simp)), op]
  · left; simp
  · right; simp [len]
  · right; simp [len]

/-- The check of `dhcpd_addoption` never fails: `offset` is negative. -/
theorem addoption_writes {g : State} {optend : Nat} {o : Tlv.Opt} (here : g.optend = some optend) (behind : Msg.options + 4 ≤ optend)
    (short : o.2.length < 256) :
    (dhcpdAddoption (Tlv.encodeOne o) g).2 =
      { g with
        outpacket := (g.outpacket.store optend (Tlv.encodeOne o)).store (optend + (Tlv.encodeOne o).length) [Code.fin]
        optend := some (optend + (Tlv.encodeOne o).length) } := by
  have size : ((Tlv.encodeOne o).getD 1 0).toNat + 2 = (Tlv.encodeOne o).length := by
    simp only [Tlv.encodeOne, List.getD_cons_succ, List.getD_cons_zero, BitVec.toNat_ofNat, List.length_cons]
    omega
  have fits : ((Msg.options : Nat) : Int) - optend + ((Tlv.encodeOne o).length : Nat) + 1 < ((optionsSize : Nat) : Int) := by
    simp only [Tlv.encodeOne_length, Msg.options, optionsSize] at *
    omega
  simp only [dhcpdAddoption, here, size]
  rw [if_pos fits, List.take_length]

/-- `dhcpd_addoption` appends its option. -/
theorem Reply.addoption {g g' : State} {yi : List Byte} {os : List Tlv.Opt} (h : Reply g g' yi os) (four : yi.length = 4)
    {o : Tlv.Opt} (short : o.2.length < 256) : Reply g (dhcpdAddoption (Tlv.encodeOne o) g').2 yi (os ++ [o]) := by
  obtain ⟨rest, optend, op, xid, yiaddr, chaddr, area⟩ := h
  have encoded : Tlv.encode (os ++ [o]) = Tlv.encode os ++ Tlv.encodeOne o := by
    simp [Tlv.encode_append]
  rw [addoption_writes optend (Nat.le_add_right _ _) short]
  refine ⟨by rw [rest], ?_, ?_, (xid.store ?_).store ?_, (yiaddr.store ?_).store ?_, (chaddr.store ?_).store ?_, ?_⟩
  · simp only [encoded, List.length_append, Nat.add_assoc]
  · simp only
    rw [Mem.store_outside _ (Or.inl (by simp)), Mem.store_outside _ (Or.inl (by simp)), op]
  · left; simp; omega
  · left; simp; omega
  · left; simp [four]; omega
  · left; simp [four]; omega
  · left; simp; omega
  · left; simp; omega
  · -- the new option lies behind the old ones, and the END behind the new option
    rw [← List.append_assoc, Mem.holds_append, Mem.holds_append] at area
    rw [encoded, ← List.append_assoc, ← List.append_assoc, Mem.holds_append, Mem.holds_append, Mem.holds_append]
    obtain ⟨⟨cookie, options⟩, -⟩ := area
    have next : Msg.options + (magicCookie ++ Tlv.encode os).length = Msg.options + 4 + (Tlv.encode os).length := by
      rw [List.length_append, magicCookie_length, Nat.add_assoc]
    have last : Msg.options + (magicCookie ++ Tlv.encode os ++ Tlv.encodeOne o).length =
        Msg.options + 4 + (Tlv.encode os).length + (Tlv.encodeOne o).length := by
      rw [List.length_append, ← Nat.add_assoc, next]
    refine ⟨⟨⟨(cookie.store ?_).store ?_, (options.store ?_).store ?_⟩, ?_⟩, ?_⟩
    · left; simp
    · left; simp; omega
    · left; simp
    · left; simp
    · rw [next]
      exact (Mem.holds_store _ _ _).store (Or.inl le_rfl)
    · rw [last]
      exact Mem.holds_store _ _ _

theorem Reply.addoption8 {g g' : State} {yi : List Byte} {os : List Tlv.Opt} (h : Reply g g' yi os) (four : yi.length = 4)
    (code value : Byte) : Reply g (dhcpdAddoption8 code value g').2 yi (os ++ [(code, [value])]) :=
  h.addoption four (o := (code, [value])) (by simp)

theorem Reply.addoption32 {g g' : State} {yi : List Byte} {os : List Tlv.Opt} (h : Reply g g' yi os) (four : yi.length = 4)
    (code : Byte) (value : BitVec 32) : Reply g (dhcpdAddoption32 code value g').2 yi (os ++ [(code, Mem.wordBytes value)]) :=
  h.addoption four (o := (code, Mem.wordBytes value)) (by simp)

theorem Reply.addoption32p {g g' : State} {yi : List Byte} {os : List Tlv.Opt} (h : Reply g g' yi os) (four : yi.length = 4)
    (code : Byte) (value : BitVec 32) :
    Reply g (dhcpAddoption32p code (Mem.wordBytes value) g').2 yi (os ++ [(code, Mem.wordBytes value)]) :=
  h.addoption32 four code value

/-! ## The builders -/

/-- The fields of an empty reply. The outgoing `giaddr` has just been zeroed, so the
flags of the incoming message are never copied. -/
theorem initMessage_fields (inpacket : Mem) :
    initMessage inpacket Msg.op = dhcpReply ∧ Mem.Holds (initMessage inpacket) Msg.xid (inpacket.load Msg.xid 4) ∧
      Mem.Holds (initMessage inpacket) Msg.yiaddr [0, 0, 0, 0] ∧
      Mem.Holds (initMessage inpacket) Msg.chaddr (inpacket.load Msg.chaddr 16) ∧
      Mem.Holds (initMessage inpacket) Msg.options (magicCookie ++ [Code.fin]) := by
  obtain ⟨flags, two, built⟩ : ∃ flags : List Byte, flags.length = 2 ∧ initMessage inpacket =
      ((((((((Mem.store (fun _ => 0) Msg.op [dhcpReply]).store Msg.htype [inpacket Msg.htype]).store Msg.hlen
        [inpacket Msg.hlen]).store Msg.xid (inpacket.load Msg.xid 4)).store Msg.chaddr (inpacket.load Msg.chaddr 16)).store
        Msg.flags flags).store Msg.giaddr [0, 0, 0, 0]).store Msg.options magicCookie).store (Msg.options + 4) [Code.fin] := by
    refine ⟨_, ?_, rfl⟩
    split <;> simp
  rw [built, ← holds_byte, Mem.holds_append]
  have zeros : Mem.Holds (fun _ => 0) Msg.yiaddr [0, 0, 0, 0] := by
    simp [Mem.holds_cons]
  refine ⟨?_, ?_, ?_, ?_, ?_, ?_⟩
  · refine ((((((((Mem.holds_store _ _ _).store ?_).store ?_).store ?_).store ?_).store ?_).store ?_).store ?_).store ?_
    all_goals simp
  · refine (((((Mem.holds_store _ _ _).store ?_).store ?_).store ?_).store ?_).store ?_
    all_goals simp [two]
  · refine ((((((((zeros.store ?_).store ?_).store ?_).store ?_).store ?_).store ?_).store ?_).store ?_).store ?_
    all_goals simp [two]
  · refine ((((Mem.holds_store _ _ _).store ?_).store ?_).store ?_).store ?_
    all_goals simp [two]
  · refine (Mem.holds_store _ _ _).store ?_
    simp
  · exact Mem.holds_store _ _ _

theorem initpacket_reply (mtype : Byte) (g : State) :
    Reply g (dhcpdInitpacket mtype g) [0, 0, 0, 0] (initOptions mtype g.serverip) := by
  have four : [0, 0, 0, (0 : Byte)].length = 4 := rfl
  obtain ⟨op, xid, yiaddr, chaddr, area⟩ := initMessage_fields g.inpacket
  have empty : Reply g { g with outpacket := initMessage g.inpacket, optend := some (Msg.options + 4) } [0, 0, 0, 0] [] :=
    ⟨rfl, rfl, op, xid, yiaddr, chaddr, area⟩
  have typed := empty.addoption8 four Code.msgType mtype
  exact typed.addoption32 four Code.serverId g.serverip

theorem addLeaseOptions_reply {g g' : State} {yi : List Byte} {os : List Tlv.Opt} (h : Reply g g' yi os) (four : yi.length = 4)
    (srv : Handle) (leasetime : BitVec 32) :
    Reply g (addLeaseOptions srv leasetime g') yi
      (os ++ [(Code.leaseTime, Mem.wordBytes (htonl leasetime)), (Code.subnetMask, Mem.wordBytes srv.netmask),
        (Code.router, Mem.wordBytes srv.gwAddr)]) := by
  have lease := h.addoption32 four Code.leaseTime (htonl leasetime)
  have mask := lease.addoption32 four Code.subnetMask srv.netmask
  have router := mask.addoption32 four Code.router srv.gwAddr
  rw [List.append_assoc, List.append_assoc] at router
  exact router

theorem addDnsOptions_reply {g g' : State} {yi : List Byte} {os : List Tlv.Opt} (h : Reply g g' yi os) (four : yi.length = 4)
    (dnsaddr : List Addr) :
    Reply g (addDnsOptions dnsaddr g') yi
      (os ++ (dnsaddr.filter (· ≠ 0)).map fun d => (Code.dnsServer, Mem.wordBytes d)) := by
  induction dnsaddr generalizing g' os with
  | nil => simpa [addDnsOptions] using h
  | cons d ds ih =>
    by_cases set : d ≠ 0
    · have rest := ih (h.addoption32p four Code.dnsServer d)
      rw [List.append_assoc] at rest
      rw [addDnsOptions, List.foldl_cons, if_pos set, List.filter_cons_of_pos (by simpa using set), List.map_cons]
      exact rest
    · rw [addDnsOptions, List.foldl_cons, if_neg set, List.filter_cons_of_neg (by simpa using set)]
      exact ih h

/-- **The OFFER.** -/
theorem offerPacket_reply (srv : Handle) (ipaddr : Addr) (leasetime : BitVec 32) (g : State) :
    Reply g (offerPacket srv ipaddr leasetime g) (Mem.wordBytes (htonl ipaddr))
      (leaseOptions MsgType.offer g.serverip srv leasetime (srv.dnsAddr.map htonl)) := by
  have start := (initpacket_reply MsgType.offer g).setYiaddr (Mem.wordBytes (htonl ipaddr)) rfl
  exact addDnsOptions_reply (addLeaseOptions_reply start rfl srv leasetime) rfl _

/-- **The ACK.** -/
theorem ackPacket_reply (srv : Handle) (ipaddr : Addr) (leasetime : BitVec 32) (g : State) :
    Reply g (ackPacket srv ipaddr leasetime g) (Mem.wordBytes (htonl ipaddr))
      (leaseOptions MsgType.ack g.serverip srv leasetime srv.dnsAddr) := by
  have start := (initpacket_reply MsgType.ack g).setCiaddr
    ((dhcpdInitpacket MsgType.ack g).inpacket.load Msg.ciaddr 4) (by simp)
  have address := start.setYiaddr (Mem.wordBytes (htonl ipaddr)) rfl
  exact addDnsOptions_reply (addLeaseOptions_reply address rfl srv leasetime) rfl _

/-- **The NAK.** -/
theorem nakPacket_reply (g : State) : Reply g (nakPacket g) [0, 0, 0, 0] (initOptions MsgType.nak g.serverip) :=
  (initpacket_reply MsgType.nak g).setCiaddr _ (by simp)

/-! ## Reading the datagram -/

theorem Reply.length {g g' : State} {yi : List Byte} {os : List Tlv.Opt} (h : Reply g g' yi os) :
    g'.datagram.length = Msg.options + 5 + (Tlv.encode os).length := by
  rw [State.datagram, Mem.load_length, h.optend, Option.getD_some]
  omega

/-- A field in front of the options is read from the datagram as it was written. -/
theorem Reply.holds {g g' : State} {yi : List Byte} {os : List Tlv.Opt} (h : Reply g g' yi os) {a : Nat} {bs : List Byte}
    (held : Mem.Holds g'.outpacket a bs) (inside : a + bs.length ≤ Msg.options) : Mem.Holds (Mem.ofList g'.datagram) a bs := by
  apply held.congr
  intro k lo hi
  rw [State.datagram, Mem.ofList_load]
  rw [h.optend, Option.getD_some]
  omega

theorem Reply.yiaddrOf {g g' : State} {ipaddr : Addr} {os : List Tlv.Opt} (h : Reply g g' (Mem.wordBytes (htonl ipaddr)) os) :
    yiaddrOf g'.datagram = htonl ipaddr :=
  Mem.word_of_holds (h.holds h.yiaddr (by simp))

theorem Reply.chaddrOf {g g' : State} {yi : List Byte} {os : List Tlv.Opt} (h : Reply g g' yi os) :
    chaddrOf g'.datagram = g.client := by
  apply macAt_of_holds
  exact (h.holds h.chaddr (by simp)).load_le (by decide)

theorem Reply.optionsOf {g g' : State} {yi : List Byte} {os : List Tlv.Opt} (h : Reply g g' yi os)
    (plain : ∀ o ∈ os, Tlv.Plain Code.pad Code.fin o) : optionsOf g'.datagram = some os := by
  have area := h.area
  rw [Mem.holds_append] at area
  have read := area.2.load_eq
  have bytes : g'.datagram.drop (Msg.options + 4) = Tlv.encode os ++ [Code.fin] := by
    rw [State.datagram, Mem.load_drop, h.optend, Option.getD_some, ← read, List.length_append, List.length_singleton,
      magicCookie_length, Nat.zero_add, Nat.add_assoc _ (Tlv.encode os).length 1,
      Nat.add_sub_cancel_left]
  rw [Dhcp.optionsOf, bytes]
  exact Tlv.decode_encode plain []

theorem initOptions_plain {mtype : Byte} {serverip : Addr} :
    ∀ o ∈ initOptions mtype serverip, Tlv.Plain Code.pad Code.fin o := by
  intro o ho
  simp only [initOptions, List.mem_cons, List.not_mem_nil, or_false] at ho
  rcases ho with rfl | rfl
  · exact ⟨by simp, by simp, by simp⟩
  · exact ⟨by simp, by simp, by simp⟩

theorem leaseOptions_plain {mtype : Byte} {serverip : Addr} {srv : Handle} {leasetime : BitVec 32} {dns : List Addr} :
    ∀ o ∈ leaseOptions mtype serverip srv leasetime dns, Tlv.Plain Code.pad Code.fin o := by
  intro o ho
  simp only [leaseOptions, List.mem_append, List.mem_cons, List.not_mem_nil, or_false, List.mem_map] at ho
  rcases ho with (generic | rfl | rfl | rfl) | ⟨d, -, rfl⟩
  · exact initOptions_plain o generic
  · exact ⟨by simp, by simp, by simp⟩
  · exact ⟨by simp, by simp, by simp⟩
  · exact ⟨by simp, by simp, by simp⟩
  · exact ⟨by simp, by simp, by simp⟩

/-- The options of an OFFER or ACK, one code at a time. -/
structure Carries (os : List Tlv.Opt) (mtype : Byte) (serverip : Addr) (srv : Handle) (leasetime : BitVec 32)
    (dns : List Addr) : Prop where
  msgType : Tlv.values Code.msgType os = [[mtype]]
  serverId : Tlv.values Code.serverId os = [Mem.wordBytes serverip]
  leaseTime : Tlv.values Code.leaseTime os = [Mem.wordBytes (htonl leasetime)]
  subnetMask : Tlv.values Code.subnetMask os = [Mem.wordBytes srv.netmask]
  router : Tlv.values Code.router os = [Mem.wordBytes srv.gwAddr]
  dnsServer : Tlv.values Code.dnsServer os = (dns.filter (· ≠ 0)).map Mem.wordBytes

theorem leaseOptions_carries (mtype : Byte) (serverip : Addr) (srv : Handle) (leasetime : BitVec 32) (dns : List Addr) :
    Carries (leaseOptions mtype serverip srv leasetime dns) mtype serverip srv leasetime dns := by
  have others : ∀ code, code ≠ Code.dnsServer →
      Tlv.values code ((dns.filter (· ≠ 0)).map fun d => (Code.dnsServer, Mem.wordBytes d)) = [] := by
    intro code other
    simp only [Tlv.values, List.map_eq_nil_iff, List.filter_eq_nil_iff, List.mem_map]
    rintro o ⟨d, -, rfl⟩
    rw [decide_eq_true_eq]
    exact other.symm
  have own : Tlv.values Code.dnsServer ((dns.filter (· ≠ 0)).map fun d => (Code.dnsServer, Mem.wordBytes d)) =
      (dns.filter (· ≠ 0)).map Mem.wordBytes := by
    simp [Tlv.values, List.filter_map, Function.comp_def]
  constructor <;> rw [leaseOptions, Tlv.values_append]
  · rw [others _ (by decide)]
    rfl
  · rw [others _ (by decide)]
    rfl
  · rw [others _ (by decide)]
    rfl
  · rw [others _ (by decide)]
    rfl
  · rw [others _ (by decide)]
    rfl
  · rw [own]
    rfl

end ArtikSdk.Dhcp.Server
