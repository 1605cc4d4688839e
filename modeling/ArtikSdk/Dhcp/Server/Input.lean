import ArtikSdk.Dhcp.Server.Handler

/-!
# DHCP server: what a call receives

`parsed` is `g_state` after `recv` and the parse, from which the call dispatches.
`Wellformed` describes a datagram that carries a list of options; of such a datagram the
call sees the options and the client, whatever was received before.
-/

namespace ArtikSdk.Dhcp.Server
open Lib Scan

/-- The result of `dhcpd_parseoptions` in a call, and `g_state` after it. -/
def parsed (w : World) (g : State) : Bool × State :=
  (dhcpdParseoptions (receive w g) (receive w g).view).getD (false, g)

theorem parseoptions_eq (w : World) (g : State) : dhcpdParseoptions (receive w g) (receive w g).view = some (parsed w g) := by
  obtain ⟨r, result⟩ := parseoptions_total (total_view (receive w g)) (receive w g)
  rw [parsed, result, Option.getD_some]

/-- The parser writes the options and `ds_optend`, and after a wrong cookie nothing. -/
theorem parseoptions_keeps {g : State} {v : View} {r : Bool × State} (h : dhcpdParseoptions g v = some r) :
    r.2 = { g with opt := r.2.opt, optend := r.2.optend } := by
  obtain ⟨cookie, -, rest⟩ := Scan.bind_some.1 h
  split at rest
  · obtain ⟨p, -, done⟩ := Scan.bind_some.1 rest
    cases done
    rfl
  · cases rest
    rfl

theorem parsed_keeps (w : World) (g : State) :
    (parsed w g).2 = { receive w g with opt := (parsed w g).2.opt, optend := (parsed w g).2.optend } :=
  parseoptions_keeps (parseoptions_eq w g)

theorem receive_leases (w : World) (g : State) : (receive w g).leases = g.leases := by
  unfold receive
  split <;> rfl

theorem receive_serverip (w : World) (g : State) : (receive w g).serverip = g.serverip := by
  unfold receive
  split <;> rfl

@[simp] theorem parsed_leases (w : World) (g : State) : (parsed w g).2.leases = g.leases := by
  rw [parsed_keeps, receive_leases]

@[simp] theorem parsed_serverip (w : World) (g : State) : (parsed w g).2.serverip = g.serverip := by
  rw [parsed_keeps, receive_serverip]

@[simp] theorem parsed_inpacket (w : World) (g : State) : (parsed w g).2.inpacket = (receive w g).inpacket := by
  rw [parsed_keeps]

/-! ## Well-formed datagrams -/

/-- The datagram carries the options `os`, and fits into `ds_inpacket`. -/
structure Wellformed (bytes : List Byte) (os : List Tlv.Opt) : Prop where
  fits : bytes.length ≤ Msg.size
  inside : Msg.options + 5 + (Tlv.encode os).length ≤ bytes.length
  area : Mem.Holds (Mem.ofList bytes) Msg.options (magicCookie ++ (Tlv.encode os ++ [Code.fin]))
  simple : ∀ o ∈ os, Simple o

/-- The bytes of a datagram are those of `ds_inpacket`. -/
theorem receive_byte {w : World} {bytes : List Byte} (received : w.recv = some bytes) (fits : bytes.length ≤ Msg.size) (g : State)
    {k : Nat} (h : k < bytes.length) : (receive w g).inpacket k = Mem.ofList bytes k := by
  simp only [receive, received, List.take_of_length_le fits, Mem.ofList_getElem h]
  rw [Mem.store_inside _ (Nat.zero_le k) (by omega)]
  rfl

theorem receive_holds {w : World} {bytes : List Byte} (received : w.recv = some bytes) (fits : bytes.length ≤ Msg.size) (g : State)
    {a : Nat} {bs : List Byte} (held : Mem.Holds (Mem.ofList bytes) a bs) (inside : a + bs.length ≤ bytes.length) :
    Mem.Holds (receive w g).inpacket a bs := by
  apply held.congr
  intro k lo hi
  exact receive_byte received fits g (by omega)

theorem view_reads {g : State} {a : Nat} {bs : List Byte} (held : Mem.Holds g.inpacket a bs) (inside : a + bs.length ≤ Msg.size) :
    View.Reads g.view a bs := by
  intro k b hb
  have bound := (List.getElem?_eq_some_iff.1 hb).1
  rw [State.view, if_pos (by omega), held k b hb]

theorem receive_client {w : World} {bytes : List Byte} (received : w.recv = some bytes) (fits : bytes.length ≤ Msg.size)
    (long : Msg.chaddr + 6 ≤ bytes.length) (g : State) : (receive w g).client = chaddrOf bytes := by
  apply macAt_of_holds
  exact receive_holds received fits g (Mem.holds_load _ _ _) (by rw [(chaddrOf bytes).length_eq]; exact long)

/-- A well-formed datagram is accepted with its options. -/
theorem Wellformed.parsed {w : World} {bytes : List Byte} {os : List Tlv.Opt} (h : Wellformed bytes os)
    (received : w.recv = some bytes) (g : State) :
    parsed w g = (true, { receive w g with opt := optionsIn os, optend := none }) := by
  obtain ⟨fits, inside, area, simple⟩ := h
  have length : (magicCookie ++ (Tlv.encode os ++ [Code.fin])).length = 5 + (Tlv.encode os).length := by
    simp only [List.length_append, magicCookie_length, List.length_singleton]
    omega
  have held := receive_holds received fits g area (by rw [length]; omega)
  have reads := view_reads held (by rw [length]; omega)
  have result := parseoptions_encode simple reads (by simp only [Msg.size, Msg.options] at *; omega) (receive w g)
  exact Option.some.inj ((parseoptions_eq w g).symm.trans result)

theorem Wellformed.client {w : World} {bytes : List Byte} {os : List Tlv.Opt} (h : Wellformed bytes os)
    (received : w.recv = some bytes) (g : State) : (receive w g).client = chaddrOf bytes := by
  apply receive_client received h.fits
  have := h.inside
  simp only [Msg.options, Msg.chaddr] at *
  omega

/-- `message` writes well-formed datagrams. -/
theorem message_wellformed {op : Byte} {xid : List Byte} (four : xid.length = 4) (ciaddr yiaddr : Addr) (mac : Mac)
    {os : List Tlv.Opt} (simple : ∀ o ∈ os, Simple o) (room : (Tlv.encode os).length < 308) :
    Wellformed (message op xid ciaddr yiaddr mac os) os := by
  have length : (message op xid ciaddr yiaddr mac os).length = Msg.options + 5 + (Tlv.encode os).length :=
    message_length four ciaddr yiaddr mac os
  refine ⟨?_, le_of_eq length.symm, message_area four ciaddr yiaddr mac os, simple⟩
  rw [length, Msg.options, Msg.size]
  omega

/-! ## Concrete runs -/

/-- A pool of one address, 192.168.1.100. -/
def oneAddress : Handle := ⟨1, 0xc0a80164, 0xc0a80164, 0x00ffffff, 0x0101a8c0, [0x08080808, 0], by decide, rfl⟩

def firstMac : Mac := ⟨[2, 0, 0, 0, 0, 1], exampleMac_length⟩
def secondMac : Mac := ⟨[2, 0, 0, 0, 0, 2], rfl⟩

/-- A call that receives a message with the options `os` at time `t`. -/
def receives (t : Int) (mac : Mac) (os : List Tlv.Opt) : World :=
  ⟨some (message dhcpRequest [0xad, 0xde, 0x12, 0x23] 0 0 mac os), fun _ => t, fun _ _ => false, true⟩

def discoverOptions : List Tlv.Opt := [(Code.msgType, [MsgType.discover])]
def requestOptions : List Tlv.Opt :=
  [(Code.msgType, [MsgType.request]), (Code.serverId, [192, 168, 1, 1]), (Code.reqIpaddr, [192, 168, 1, 100])]

/-- The call receives exactly these bytes at time `t`. -/
def receivesBytes (t : Int) (bytes : List Byte) : World := ⟨some bytes, fun _ => t, fun _ _ => false, true⟩

/-- A failing `recv`. -/
def recvFails (t : Int) : World := ⟨none, fun _ => t, fun _ _ => false, true⟩

/-- A message of `mac` without the magic cookie. -/
def unmarked (mac : Mac) : List Byte := header dhcpRequest [0xad, 0xde, 0x12, 0x23] 0 0 mac ++ List.replicate 312 0

def informOptions : List Tlv.Opt := [(Code.msgType, [8])]
def releaseOptions : List Tlv.Opt := [(Code.msgType, [MsgType.release])]

theorem discoverOptions_simple : ∀ o ∈ discoverOptions, Simple o := by
  intro o member
  rw [List.mem_singleton.1 member]
  exact ⟨⟨by simp, by simp, by simp⟩, by simp, by simp, by simp⟩

/-- Every server sees such a DISCOVER as it is. -/
theorem parsed_discover (t : Int) (g : State) (w : World) (received : w.recv = (receives t firstMac discoverOptions).recv) :
    (parsed w g).2.opt = ⟨MsgType.discover, 0, 0, 0⟩ ∧ (parsed w g).2.client = firstMac := by
  have wellformed : Wellformed (message dhcpRequest [0xad, 0xde, 0x12, 0x23] 0 0 firstMac discoverOptions) discoverOptions :=
    message_wellformed rfl 0 0 firstMac discoverOptions_simple (by decide)
  rw [wellformed.parsed received]
  refine ⟨rfl, ?_⟩
  have same : (receive w g).client = firstMac := by
    rw [wellformed.client received]
    decide +kernel
  exact same

end ArtikSdk.Dhcp.Server
