import ArtikSdk.Dhcp.Client.Source
import ArtikSdk.Dhcp.Server.Decision
import ArtikSdk.Dhcp.Server.Offers

/-!
# DHCP: what one party makes of the other's messages

The messages of the client are well-formed for the server, which finds the MAC address and
the options in them that the client has written. The replies of the server are lists of
options for the client, which finds in them what the server has assigned.
-/

namespace ArtikSdk.Dhcp.Handshake
open Lib

/-! ## The messages of the client -/

/-- A datagram of the client `mac` with the options `os`. -/
structure Asking (mac : Mac) (os : List Tlv.Opt) (bytes : List Byte) : Prop where
  wellformed : Server.Wellformed bytes os
  chaddr : chaddrOf bytes = mac
  xid : Mem.Holds (Mem.ofList bytes) Msg.xid Client.xid

/-- A message of the client `mac` under construction: the options area so far is `bs`. -/
structure Composed (mac : Mac) (bs : List Byte) (b : Client.Buffer) : Prop where
  built : Client.Built Msg.options bs b
  behind : Msg.options ≤ b.2
  xid : Mem.Holds b.1 Msg.xid Client.xid
  chaddr : Mem.Holds b.1 Msg.chaddr mac.bytes

theorem commonHeader_composed (mac : Mac) (packet : Mem) :
    Composed mac magicCookie (Client.commonHeader mac packet, Msg.options + 4) := by
  have six := mac.length_eq
  refine ⟨⟨Mem.holds_store _ _ _, rfl⟩, Nat.le_add_right _ _, ?_, ?_⟩
  · refine (((Mem.holds_store _ _ _).store (Or.inl ?_)).store (Or.inl ?_)).store (Or.inl ?_)
    all_goals simp
  · refine ((Mem.holds_store _ _ _).store (Or.inl ?_)).store (Or.inl ?_)
    · rw [six]
    · rw [six]
      simp

theorem Composed.put {mac : Mac} {bs : List Byte} {b : Client.Buffer} (composed : Composed mac bs b) (more : List Byte) :
    Composed mac (bs ++ more) (Client.put more b) := by
  obtain ⟨built, behind, xid, chaddr⟩ := composed
  have six := mac.length_eq
  simp only [Msg.options] at behind
  refine ⟨built.put more, ?_, xid.store (Or.inl ?_), chaddr.store (Or.inl ?_)⟩
  · simp only [Client.put, Msg.options]
    omega
  · simp only [Msg.xid, Client.xid_length]
    omega
  · simp only [Msg.chaddr, six]
    omega

/-- `flags` and `ciaddr` lie between `xid` and `chaddr`. -/
theorem Composed.field {mac : Mac} {bs : List Byte} {b : Client.Buffer} (composed : Composed mac bs b) {a : Nat} (value : List Byte)
    (low : Msg.flags ≤ a) (high : a + value.length ≤ Msg.yiaddr) : Composed mac bs (b.1.store a value, b.2) := by
  obtain ⟨built, behind, xid, chaddr⟩ := composed
  simp only [Msg.flags, Msg.yiaddr] at low high
  refine ⟨built.field value ?_, behind, xid.store (Or.inl ?_), chaddr.store (Or.inr ?_)⟩
  · simp only [Msg.options]
    omega
  · simp only [Msg.xid, Client.xid_length]
    omega
  · simp only [Msg.chaddr]
    omega

/-- A message with its END is read as it was composed. -/
theorem Composed.asking {mac : Mac} {os : List Tlv.Opt} {b : Client.Buffer}
    (composed : Composed mac (magicCookie ++ (Tlv.encode os ++ [Code.fin])) b) (simple : ∀ o ∈ os, Server.Simple o)
    (short : (Tlv.encode os).length ≤ 307) : Asking mac os (b.1.load 0 b.2) := by
  obtain ⟨⟨area, len⟩, behind, xid, chaddr⟩ := composed
  have size : b.2 = Msg.options + 5 + (Tlv.encode os).length := by
    rw [len, List.length_append, List.length_append, magicCookie_length, List.length_singleton]
    omega
  have held {a : Nat} {bs : List Byte} (holds : Mem.Holds b.1 a bs) (inside : a + bs.length ≤ b.2) :
      Mem.Holds (Mem.ofList (b.1.load 0 b.2)) a bs := by
    apply holds.congr
    intro k lo hi
    rw [Mem.ofList_load _ (by omega)]
  simp only [Msg.options] at behind
  refine ⟨⟨?_, ?_, held area (le_of_eq len.symm), simple⟩, ?_, held xid ?_⟩
  · rw [Mem.load_length, size, Msg.options, Msg.size]
    omega
  · rw [Mem.load_length, size]
  · apply macAt_of_holds
    refine held chaddr ?_
    rw [mac.length_eq, Msg.chaddr]
    omega
  · rw [Client.xid_length, Msg.xid]
    omega

/-- The options of a DISCOVER. -/
def discovered : List Tlv.Opt := [(Code.msgType, [MsgType.discover]), (Code.reqList, [Code.subnetMask, Code.router, Code.dnsServer])]

theorem discovered_simple : ∀ o ∈ discovered, Server.Simple o := by
  intro o member
  simp only [discovered, List.mem_cons, List.not_mem_nil, or_false] at member
  rcases member with rfl | rfl
  all_goals exact ⟨⟨by simp, by simp, by simp⟩, by simp, by simp, by simp⟩

theorem requested_simple (c : Client.State) : ∀ o ∈ Client.requested c, Server.Simple o := by
  intro o member
  have plain := Client.requested_plain c o member
  simp only [Client.requested, List.mem_cons, List.not_mem_nil, or_false] at member
  rcases member with rfl | rfl | rfl
  all_goals exact ⟨plain, by simp, by simp, by simp⟩

theorem discover_asking {e : Client.Sending} {mac : Mac} (known : e.getmacaddr = some mac) (sendto : e.sendto = true) (c : Client.State) :
    ∃ p, (Client.sentState MsgType.discover e c).sent = c.sent ++ [p] ∧ Asking mac discovered p.bytes := by
  rw [Client.sentState_works known sendto (Client.settings_discover c _)]
  have typed := (commonHeader_composed mac c.packet).put [Code.msgType, 1, MsgType.discover]
  have flags := typed.field (a := Msg.flags) [0x80, 0] (by simp) (by simp)
  have listed := flags.put [Code.reqList, 3, Code.subnetMask, Code.router, Code.dnsServer]
  have whole : Composed mac (magicCookie ++ (Tlv.encode discovered ++ [Code.fin])) _ := listed.put [Code.fin]
  exact ⟨_, rfl, whole.asking discovered_simple (by decide)⟩

theorem request_asking {e : Client.Sending} {mac : Mac} (known : e.getmacaddr = some mac) (sendto : e.sendto = true) {c : Client.State}
    (fresh : c.renew = false) :
    ∃ p, (Client.sentState MsgType.request e c).sent = c.sent ++ [p] ∧ Asking mac (Client.requested c) p.bytes := by
  rw [Client.sentState_works known sendto (Client.settings_request fresh _)]
  have typed := (commonHeader_composed mac c.packet).put [Code.msgType, 1, MsgType.request]
  have flags := typed.field (a := Msg.flags) [0x80, 0] (by simp) (by simp)
  have address := flags.field (a := Msg.ciaddr) (Mem.wordBytes c.ipaddr) (by simp) (by simp)
  have server := address.put (Code.serverId :: 4 :: Mem.wordBytes c.serverid)
  have reqip := server.put (Code.reqIpaddr :: 4 :: Mem.wordBytes c.ipaddr)
  have whole : Composed mac (magicCookie ++ (Tlv.encode (Client.requested c) ++ [Code.fin])) _ := reqip.put [Code.fin]
  refine ⟨_, rfl, whole.asking (requested_simple c) ?_⟩
  rw [show (Tlv.encode (Client.requested c)).length = 15 from rfl]
  decide

/-! ## The replies of the server -/

/-- A reply with the address `yi` and the options `os` behind its type. -/
structure Replying (yi : Addr) (type : Byte) (os : List Tlv.Opt) (bytes : List Byte) : Prop where
  lists : Client.Lists bytes ((Code.msgType, [type]) :: os)
  untyped : ∀ o ∈ os, o.1 ≠ Code.msgType
  op : Mem.ofList bytes Msg.op = dhcpReply
  xid : Mem.Holds (Mem.ofList bytes) Msg.xid Client.xid
  yiaddr : yiaddrOf bytes = yi

/-- The options of an OFFER or ACK behind the type. -/
def terms (serverip : Addr) (srv : Server.Handle) (leasetime : BitVec 32) (dns : List Addr) : List Tlv.Opt :=
  (Server.leaseOptions 0 serverip srv leasetime dns).tail

theorem leaseOptions_eq (type : Byte) (serverip : Addr) (srv : Server.Handle) (leasetime : BitVec 32) (dns : List Addr) :
    Server.leaseOptions type serverip srv leasetime dns = (Code.msgType, [type]) :: terms serverip srv leasetime dns := rfl

theorem terms_words {serverip : Addr} {srv : Server.Handle} {leasetime : BitVec 32} {dns : List Addr} :
    ∀ o ∈ terms serverip srv leasetime dns, o.1 ≠ Code.msgType ∧ o.2.length = 4 := by
  intro o member
  simp only [terms, Server.leaseOptions, Server.initOptions, List.cons_append, List.nil_append, List.tail_cons, List.mem_cons,
    List.mem_map] at member
  rcases member with rfl | rfl | rfl | rfl | ⟨d, -, rfl⟩
  all_goals exact ⟨by simp, rfl⟩

/-- Options of one word each. -/
theorem encode_words_length {os : List Tlv.Opt} (words : ∀ o ∈ os, o.2.length = 4) : (Tlv.encode os).length = 6 * os.length := by
  induction os with
  | nil => rfl
  | cons o os ih =>
    rw [Tlv.encode_cons, List.length_append, Tlv.encodeOne_length, words o (List.mem_cons_self ..),
      ih fun p member => words p (List.mem_cons_of_mem _ member), List.length_cons]
    omega

theorem terms_length (serverip : Addr) (srv : Server.Handle) (leasetime : BitVec 32) (dns : List Addr) :
    (terms serverip srv leasetime dns).length ≤ 4 + dns.length := by
  simp only [terms, Server.leaseOptions, Server.initOptions, List.cons_append, List.nil_append, List.tail_cons, List.length_cons,
    List.length_map]
  have := List.length_filter_le (fun d => decide (d ≠ 0)) dns
  omega

/-- What the server sends in answer to a message of the client is a reply to the client. -/
theorem replying_of_assigns {srv : Server.Handle} {g : Server.State} {type : Byte} {i : Nat} {leasetime : BitVec 32} {dns : List Addr}
    {p : Server.Sent} (assigns : Server.Assigns srv g type i leasetime dns p) (few : dns.length = Server.maxDnsAddresses)
    (xid : Mem.Holds g.inpacket Msg.xid Client.xid) :
    Replying (htonl (Server.dhcpLeaseipaddr i srv.startip)) type (terms g.serverip srv leasetime dns) p.bytes := by
  have plain : ∀ o ∈ Server.leaseOptions type g.serverip srv leasetime dns, Tlv.Plain Code.pad Code.fin o := Server.leaseOptions_plain
  obtain ⟨g₀, g', same, reply, bytes⟩ := assigns
  rw [leaseOptions_eq] at plain reply
  have words : (Tlv.encode (terms g.serverip srv leasetime dns)).length = 6 * (terms g.serverip srv leasetime dns).length :=
    encode_words_length fun o member => (terms_words o member).2
  have room := terms_length g.serverip srv leasetime dns
  have size : (Tlv.encode ((Code.msgType, [type]) :: terms g.serverip srv leasetime dns)).length =
      3 + 6 * (terms g.serverip srv leasetime dns).length := by
    rw [Tlv.encode_cons, List.length_append, Tlv.encodeOne_length, words]
    rfl
  have len := reply.length
  have held {a : Nat} {bs : List Byte} (holds : Mem.Holds g'.outpacket a bs) (inside : a + bs.length ≤ g'.datagram.length) :
      Mem.Holds (Mem.ofList g'.datagram) a bs := by
    apply holds.congr
    intro k lo hi
    rw [Server.State.datagram, Mem.load_length] at inside
    rw [Server.State.datagram, Mem.ofList_load _ (by omega)]
  have area := reply.area
  rw [Mem.holds_append] at area
  rw [bytes]
  simp only [Server.maxDnsAddresses] at few
  refine ⟨⟨?_, le_of_eq len.symm, held area.2 ?_, plain, ?_⟩, fun o member => (terms_words o member).1, ?_, ?_, reply.yiaddrOf⟩
  · rw [len, size, Msg.options, Msg.size]
    omega
  · rw [len, List.length_append, List.length_singleton]
    omega
  · intro o member valued
    obtain rfl | member := List.mem_cons.1 member
    · obtain server | ⟨f, code⟩ := valued
      · cases server
      · cases f <;> cases code
    · exact le_of_eq (terms_words o member).2.symm
  · have first := held (Server.holds_byte.2 reply.op) (by rw [len, Msg.options, Msg.op, List.length_singleton]; omega)
    exact Server.holds_byte.1 first
  · have kept := reply.xid
    rw [same, show g.inpacket.load Msg.xid 4 = Client.xid from xid.load_eq] at kept
    exact held kept (by rw [len, Msg.options, Msg.xid, Client.xid_length]; omega)

/-- The client reads a reply: its type, and what the options say over what was there before. -/
theorem Replying.receive {yi : Addr} {type : Byte} {os : List Tlv.Opt} {bytes : List Byte} (replying : Replying yi type os bytes)
    (beyond : Mem) (c : Client.State) :
    (Client.receive bytes beyond c).1 = type ∧
      (Client.receive bytes beyond c).2.presult = os.foldl Client.DhcpcState.apply { c.presult with ipaddr := yi } := by
  obtain ⟨lists, untyped, op, xid, yiaddr⟩ := replying
  obtain ⟨holds, address⟩ := lists.received beyond c.packet
  obtain ⟨fits, inside, -, plain, valued⟩ := lists
  have few := Tlv.length_le_encode os
  have size : (Tlv.encode ((Code.msgType, [type]) :: os)).length = 3 + (Tlv.encode os).length := by
    rw [Tlv.encode_cons, List.length_append, Tlv.encodeOne_length]
    rfl
  rw [size] at inside
  have accepted : Client.received bytes beyond c.packet Msg.op = dhcpReply ∧
      (Client.received bytes beyond c.packet).load Msg.xid 4 = Client.xid := by
    refine ⟨(Client.received_byte fits beyond c.packet ?_).trans op, ?_⟩
    · simp only [Msg.options, Msg.op] at *
      omega
    · refine Mem.Holds.load_eq (Client.received_holds fits beyond c.packet xid ?_)
      simp only [Msg.options, Msg.xid, Client.xid_length] at *
      omega
  have parsed : Client.dhcpcParsemsg (bytes.take Msg.size).length (Client.received bytes beyond c.packet) c.presult =
      Client.parseLoop (Client.received bytes beyond c.packet) (Msg.options + 4 + bytes.length) bytes.length (Msg.options + 4)
        { c.presult with ipaddr := yi } 0 := by
    rw [List.take_of_length_le fits, Client.dhcpcParsemsg, if_pos accepted, Client.dhcpcParseoptions, address, yiaddr]
  obtain ⟨fuel, enough⟩ : ∃ fuel, bytes.length = fuel + 1 := ⟨bytes.length - 1, by omega⟩
  rw [Tlv.encode_cons, List.append_assoc, Mem.holds_append] at holds
  obtain ⟨goes, -⟩ := Client.parseLoop_option holds.1 (plain _ (List.mem_cons_self ..)) (valued _ (List.mem_cons_self ..))
    (show Msg.options + 4 < Msg.options + 4 + bytes.length by omega) fuel { c.presult with ipaddr := yi } 0
  have plain' := fun o member => plain o (List.mem_cons_of_mem _ member)
  have valued' := fun o member => valued o (List.mem_cons_of_mem _ member)
  have behind : Msg.options + 4 + (Tlv.encodeOne (Code.msgType, [type])).length + (Tlv.encode os).length <
      Msg.options + 4 + bytes.length := by
    rw [Tlv.encodeOne_length, List.length_singleton]
    omega
  have found : Client.received bytes beyond c.packet (Msg.options + 4 + 2) = type := by
    have first := holds.1
    rw [Tlv.encodeOne, Mem.holds_cons, Mem.holds_cons] at first
    exact Server.holds_byte.1 first.2.2
  have untouched : ({ c.presult with ipaddr := yi } : Client.DhcpcState).apply (Code.msgType, [type]) = { c.presult with ipaddr := yi } := rfl
  rw [if_pos rfl, found, untouched, enough] at goes
  rw [enough] at behind parsed
  simp only [Client.receive]
  rw [parsed, goes]
  exact ⟨Client.parseLoop_untyped plain' valued' untyped fuel _ _ type (by omega) holds.2 behind,
    (Client.parseLoop_encode plain' valued' fuel _ _ type (by omega) holds.2 behind).1⟩

/-- The client has read what the server has assigned. -/
structure Reads (srv : Server.Handle) (serverip : Addr) (i : Nat) (leasetime : BitVec 32) (r : Client.DhcpcState) : Prop where
  ipaddr : r.ipaddr = htonl (Server.dhcpLeaseipaddr i srv.startip)
  serverid : r.serverid = serverip
  netmask : r.netmask = srv.netmask
  defaultRouter : r.defaultRouter = srv.gwAddr
  leaseTime : r.leaseTime = leasetime

theorem terms_read (serverip : Addr) (srv : Server.Handle) (leasetime : BitVec 32) (dns : List Addr) (i : Nat) {r : Client.DhcpcState}
    (address : r.ipaddr = htonl (Server.dhcpLeaseipaddr i srv.startip)) :
    Reads srv serverip i leasetime ((terms serverip srv leasetime dns).foldl Client.DhcpcState.apply r) := by
  have carries := Server.leaseOptions_carries 0 serverip srv leasetime dns
  have whole : (terms serverip srv leasetime dns).foldl Client.DhcpcState.apply r =
      (Server.leaseOptions 0 serverip srv leasetime dns).foldl Client.DhcpcState.apply r := rfl
  rw [whole]
  have field (f : Client.Field) {data : List Byte} (value : Tlv.values f.code (Server.leaseOptions 0 serverip srv leasetime dns) = [data]) :
      f.get ((Server.leaseOptions 0 serverip srv leasetime dns).foldl Client.DhcpcState.apply r) = f.read data := by
    rw [Client.applied_get, Tlv.last, value]
    rfl
  refine ⟨?_, ?_, ?_, ?_, ?_⟩
  · rw [Client.applied_ipaddr, address]
  · rw [Client.applied_serverid, Tlv.last, carries.serverId]
    exact wordOf_wordBytes _
  · exact (field .netmask carries.subnetMask).trans (wordOf_wordBytes _)
  · exact (field .defaultRouter carries.router).trans (wordOf_wordBytes _)
  · refine (field .leaseTime carries.leaseTime).trans ?_
    rw [Client.Field.read, wordOf_wordBytes]
    exact Mem.swap_swap _

/-- A reply that assigns a slot is read as it was meant. -/
theorem assigns_read {srv : Server.Handle} {g : Server.State} {type : Byte} {i : Nat} {leasetime : BitVec 32} {dns : List Addr}
    {p : Server.Sent} (assigns : Server.Assigns srv g type i leasetime dns p) (few : dns.length = Server.maxDnsAddresses)
    (xid : Mem.Holds g.inpacket Msg.xid Client.xid) (beyond : Mem) (c : Client.State) :
    (Client.receive p.bytes beyond c).1 = type ∧ Reads srv g.serverip i leasetime (Client.receive p.bytes beyond c).2.presult := by
  obtain ⟨type, presult⟩ := (replying_of_assigns assigns few xid).receive beyond c
  refine ⟨type, ?_⟩
  rw [presult]
  exact terms_read _ _ _ _ _ rfl

/-! ## The calls of the server -/

variable {fuel : Nat} {srv : Server.Handle} {w : Server.World} {g : Server.State} {mac : Mac} {os : List Tlv.Opt} {bytes : List Byte}

/-- What the server has in hand once it has parsed a message of the client. -/
theorem Asking.parsed (asking : Asking mac os bytes) (received : w.recv = some bytes) (g : Server.State) :
    (Server.parsed w g).2.opt = Server.optionsIn os ∧ (Server.parsed w g).2.client = mac ∧
      Mem.Holds (Server.parsed w g).2.inpacket Msg.xid Client.xid := by
  obtain ⟨wellformed, chaddr, xid⟩ := asking
  rw [wellformed.parsed received]
  refine ⟨rfl, (wellformed.client received g).trans chaddr, Server.receive_holds received wellformed.fits g xid ?_⟩
  have inside := wellformed.inside
  simp only [Msg.options, Msg.xid, Client.xid_length] at *
  omega

/-- `dhcpd_discover` finds an address for the message. -/
def Finds (fuel : Nat) (srv : Server.Handle) (w : Server.World) (g : Server.State) : Prop :=
  ∃ ipaddr leasetime s, Server.discoverAddress fuel srv (Server.Ctx.start (Server.parsed w g).2 w) = .ok ((ipaddr, leasetime), s) ∧ ipaddr ≠ 0

/-- Slot `i` is the client's. -/
def Holder (mac : Mac) (i : Nat) (g : Server.State) : Prop := ∃ l, g.leases[i]? = some l ∧ l.mac = mac

theorem holder_set {g : Server.State} {T : List Server.Lease} {i : Nat} {l l' : Server.Lease} (found : T[i]? = some l)
    (table : g.leases = T.set i l') : g.leases[i]? = some l' := by
  rw [table, List.getElem?_set_self (List.getElem?_eq_some_iff.1 found).1]

/-- A DISCOVER that is answered with an address has been answered with a slot. -/
theorem outcome_offered {s : Server.Ctx} {T : List Server.Lease} {p : Server.Sent} {ipaddr : Addr} (outcome : Server.Outcome srv s T [p])
    (type : s.g.opt.msgtype = MsgType.discover) (address : yiaddrOf p.bytes = htonl ipaddr) (nonzero : ipaddr ≠ 0) :
    ∃ i l t leasetime, s.g.leases[i]? = some l ∧ i < 2 ^ 31 ∧ ipaddr = Server.dhcpLeaseipaddr i srv.startip ∧
      T = s.g.leases.set i ⟨s.g.client, true, t⟩ ∧ Server.Assigns srv s.g MsgType.offer i leasetime (srv.dnsAddr.map htonl) p := by
  cases outcome with
  | idle quiet =>
    obtain none' | ⟨q, carried, one⟩ := quiet
    · cases none'
    · obtain rfl : p = q := (List.cons.inj one).1
      have zero : htonl ipaddr = htonl 0 := address.symm.trans (Server.Carried.yiaddrOf carried)
      exact absurd (Mem.swap_injective zero) nonzero
  | @offer i k l _ _ found small _ sends =>
    obtain ⟨-, q, ⟨-, leasetime, offered⟩, one⟩ | ⟨-, none'⟩ := sends
    · obtain rfl : p = q := (List.cons.inj one).1
      have same : htonl ipaddr = htonl (Server.dhcpLeaseipaddr i srv.startip) := address.symm.trans offered.yiaddrOf
      exact ⟨i, l, _, leasetime, found, small, Mem.swap_injective same, rfl, offered⟩
    · cases none'
  | ack request =>
    rw [type] at request
    cases request

/-- A REQUEST that is answered with an ACK has been granted the slot of the client. -/
theorem outcome_acked {s : Server.Ctx} {T : List Server.Lease} {p : Server.Sent} (outcome : Server.Outcome srv s T [p])
    (type : s.g.opt.msgtype = MsgType.request) (isAck : typeOf p.bytes = MsgType.ack) :
    ∃ i l, s.g.leases[i]? = some l ∧ l.mac = s.g.client ∧ T = s.g.leases.set i ⟨s.g.client, true, s.clock 0 + (Server.grantedTime s.g.opt).toNat⟩ ∧
      p.time = s.clock 0 ∧ Server.Assigns srv s.g MsgType.ack i (Server.grantedTime s.g.opt) srv.dnsAddr p := by
  cases outcome with
  | idle quiet =>
    obtain none' | ⟨q, carried, one⟩ := quiet
    · cases none'
    · obtain rfl : p = q := (List.cons.inj one).1
      have isNak : typeOf p.bytes = MsgType.nak := carried.typeOf Server.initOptions_plain rfl
      rw [isNak] at isAck
      cases isAck
  | offer discover =>
    rw [type] at discover
    cases discover
  | @ack i l _ _ found mac _ _ time granted => exact ⟨i, l, found, mac, rfl, time, granted⟩

/-- The DISCOVER of the client is answered with an OFFER of a slot, which is the client's from then on. -/
theorem discover_offered (inv : Server.Inv srv g) (asking : Asking mac discovered bytes) (received : w.recv = some bytes)
    (can : w.sendto = true) (finds : Finds fuel srv w g) :
    ∃ g' p i leasetime, Server.loopHandler fuel srv w g = .ok (g', [p]) ∧ g'.serverip = g.serverip ∧ Holder mac i g' ∧ i < 2 ^ 31 ∧
      Server.dhcpLeaseipaddr i srv.startip ≠ 0 ∧
      Server.Assigns srv (Server.parsed w g).2 MsgType.offer i leasetime (srv.dnsAddr.map htonl) p := by
  obtain ⟨ipaddr, leasetime, s₁, choose, nonzero⟩ := finds
  obtain ⟨opt, client, -⟩ := asking.parsed received g
  have sized : Server.Sized srv (Server.Ctx.start (Server.parsed w g).2 w).g := by
    rw [Server.Sized, Server.Ctx.start, Server.parsed_leases, inv.sized]
  have type : (Server.Ctx.start (Server.parsed w g).2 w).g.opt.msgtype = MsgType.discover := by
    rw [Server.Ctx.start, opt]
    rfl
  have total : Checked.Only (fun _ => False) (Server.dhcpdDiscover fuel srv) (Server.Ctx.start (Server.parsed w g).2 w) :=
    Server.only_discover_chosen sized choose
  obtain ⟨r, discover⟩ | ⟨e, no, -⟩ := total.returns
  · have answered : Server.loopHandler fuel srv w g = .ok (r.2.g, r.2.sent) := by
      rw [Server.loopHandler_eq, Server.dispatch, Checked.get_bind_apply, if_pos type, discover]
    obtain ⟨zero, -⟩ | ⟨-, ⟨-, p, sent, address⟩ | ⟨cannot, -⟩⟩ := Server.discover_sent sized choose discover
    · exact absurd zero nonzero
    · rw [show r.2.sent = [p] from sent] at answered
      obtain ⟨outcome, handles⟩ := Server.loopHandler_outcome inv.sized answered
      obtain ⟨i, l, t, leasetime, found, small, rfl, table, assigns⟩ := outcome_offered outcome type address nonzero
      exact ⟨r.2.g, p, i, leasetime, answered, handles.serverip, ⟨_, holder_set found table, client⟩, small, nonzero, assigns⟩
    · exact absurd (can.symm.trans cannot) (by decide)
  · exact no.elim

/-- The REQUEST of the client for its slot is granted. -/
theorem request_entitled {c : Client.State} {ipaddr : Addr} (asking : Asking mac (Client.requested c) bytes) (received : w.recv = some bytes)
    (wanted : c.ipaddr = htonl ipaddr) (serverid : c.serverid = g.serverip) (nonzero : ipaddr ≠ 0) :
    Server.leaseResponse (Server.parsed w g).2 ipaddr = MsgType.ack := by
  obtain ⟨opt, -, -⟩ := asking.parsed received g
  have reqip : (Server.parsed w g).2.opt.reqip = ipaddr := by
    rw [opt]
    change htonl (wordOf (Mem.wordBytes c.ipaddr)) = ipaddr
    rw [wordOf_wordBytes, wanted]
    exact Mem.swap_swap ipaddr
  have server : (Server.parsed w g).2.opt.serverip = htonl (Server.parsed w g).2.serverip := by
    rw [opt, Server.parsed_serverip]
    change htonl (wordOf (Mem.wordBytes c.serverid)) = htonl g.serverip
    rw [wordOf_wordBytes, serverid]
  refine Server.leaseResponse_ack_iff.2 (Or.inl ?_)
  unfold Server.Entitled
  split
  · exact ⟨server, reqip⟩
  split
  · exact reqip
  · rename_i none'
    exact absurd (reqip.symm.trans (not_not.1 none')) nonzero

/-- The REQUEST of the client for its slot is answered with an ACK; the slot expires when the client's lease does. -/
theorem request_acked (fuel : Nat) (named : mac ≠ Mac.zero) (inv : Server.Inv srv g) {c : Client.State} {i : Nat}
    (asking : Asking mac (Client.requested c) bytes) (received : w.recv = some bytes) (can : w.sendto = true)
    (holder : Holder mac i g) (small : i < 2 ^ 31) (nonzero : Server.dhcpLeaseipaddr i srv.startip ≠ 0)
    (ipaddr : c.ipaddr = htonl (Server.dhcpLeaseipaddr i srv.startip)) (serverid : c.serverid = g.serverip) :
    ∃ g' p l leasetime, Server.loopHandler fuel srv w g = .ok (g', [p]) ∧ g'.serverip = g.serverip ∧
      g'.leases[i]? = some l ∧ l.mac = mac ∧ l.expiry = p.time + (leasetime : BitVec 32).toNat ∧
      Server.Assigns srv (Server.parsed w g).2 MsgType.ack i leasetime srv.dnsAddr p := by
  obtain ⟨opt, client, -⟩ := asking.parsed received g
  have type : (Server.parsed w g).2.opt.msgtype = MsgType.request := by
    rw [opt]
    rfl
  have own (k : Nat) : Server.HoldsSlot (Server.parsed w g).2 k ↔ ∃ l, (Server.parsed w g).2.leases[k]? = some l ∧ l.mac = (Server.parsed w g).2.client :=
    Server.Valid.holdsSlot_iff (by rw [Server.parsed_leases]; exact inv.valid) (by rw [client]; exact named)
  have slot : Server.HoldsSlot (Server.parsed w g).2 i := by
    rw [own, Server.parsed_leases, client]
    exact holder
  have granted := request_entitled asking received ipaddr serverid nonzero
  obtain ⟨g', p, answered, response, address⟩ := Server.loopHandler_answered fuel inv.sized type can slot small
  have isAck := response.trans granted
  obtain ⟨outcome, handles⟩ := Server.loopHandler_outcome inv.sized answered
  obtain ⟨k, l, found, mine, table, time, assigns⟩ := outcome_acked outcome type isAck
  obtain rfl := ((own k).2 ⟨l, found, mine⟩).unique slot
  refine ⟨g', p, _, _, answered, handles.serverip, holder_set found table, client, ?_, assigns⟩
  rw [time]

end ArtikSdk.Dhcp.Handshake
