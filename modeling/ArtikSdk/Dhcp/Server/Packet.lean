import ArtikSdk.Dhcp.Server.Table

/-!
# DHCP server: building and sending replies

The option writer, `dhcpd_initpacket`, the builders of the three replies and the senders.
-/

namespace ArtikSdk.Dhcp.Server
open Lib Checked

/-- `CONFIG_NETUTILS_DHCPD_LEASETIME`, `..._MINLEASETIME` and `..._MAXLEASETIME` -/
def leasetimeDefault : BitVec 32 := 60 * 60 * 24 * 10
def minleasetime : BitVec 32 := 60 * 60 * 24 * 1
def maxleasetime : BitVec 32 := 60 * 60 * 24 * 30

/-- `dhcpd_addoption`: the option's length, and `g_state` with the option written where
the check lets it. -/
def dhcpdAddoption (option : List Byte) (g : State) : Nat × State :=
  match g.optend with
  | none => (4, g)
  | some optend =>
    let offset : Int := (Msg.options : Int) - optend
    let len := (option.getD 1 0).toNat + 2
    if offset + len + 1 < optionsSize then
      (len, { g with
        outpacket := (g.outpacket.store optend (option.take len)).store (optend + len) [Code.fin]
        optend := some (optend + len) })
    else
      (len, g)

/-- `dhcpd_addoption8` -/
def dhcpdAddoption8 (code value : Byte) (g : State) : Nat × State :=
  dhcpdAddoption [code, 1, value] g

/-- `dhcpd_addoption32`; `value` is copied as it lies in memory. -/
def dhcpdAddoption32 (code : Byte) (value : BitVec 32) (g : State) : Nat × State :=
  dhcpdAddoption (code :: 4 :: Mem.wordBytes value) g

/-- `dhcp_addoption32p` -/
def dhcpAddoption32p (code : Byte) (value : List Byte) (g : State) : Nat × State :=
  dhcpdAddoption (code :: 4 :: value.take 4) g

/-- The message of `dhcpd_initpacket`, with an empty list of options. -/
def initMessage (inpacket : Mem) : Mem :=
  let out : Mem := fun _ => 0
  let out := out.store Msg.op [dhcpReply]
  let out := out.store Msg.htype [inpacket Msg.htype]
  let out := out.store Msg.hlen [inpacket Msg.hlen]
  let out := out.store Msg.xid (inpacket.load Msg.xid 4)
  let out := out.store Msg.chaddr (inpacket.load Msg.chaddr 16)
  let out := out.store Msg.flags (if out.load Msg.giaddr 4 ≠ [0, 0, 0, 0] then inpacket.load Msg.flags 2 else [0, 0])
  let out := out.store Msg.giaddr [0, 0, 0, 0]
  let out := out.store Msg.options magicCookie
  out.store (Msg.options + 4) [Code.fin]

/-- `dhcpd_initpacket` -/
def dhcpdInitpacket (mtype : Byte) (g : State) : State :=
  let g := { g with outpacket := initMessage g.inpacket, optend := some (Msg.options + 4) }
  let g := (dhcpdAddoption8 Code.msgType mtype g).2
  (dhcpdAddoption32 Code.serverId g.serverip g).2

/-- Where `dhcpd_sendpacket` sends to, by the rules written above it. -/
def destination (bbroadcast : Bool) (out : Mem) : Addr :=
  if bbroadcast then 0xffffffff
  else if out.load Msg.ciaddr 4 ≠ [0, 0, 0, 0] then out.word Msg.ciaddr
  else if out.half Msg.flags &&& Mem.swapHalf 0x8000 ≠ 0 then 0xffffffff
  else out.word Msg.yiaddr

/-- The bytes handed to `sendto`: the smallest message that includes the END. -/
def State.datagram (g : State) : List Byte := g.outpacket.load 0 (g.optend.getD 0 + 1)

/-- `dhcpd_sendpacket`: the result is negative where the packet cannot be sent. -/
def dhcpdSendpacket (bbroadcast : Bool) : M Int := fun s =>
  if s.sendto then
    .ok ((s.g.datagram.length : Int),
      { s with sent := s.sent ++ [⟨s.g.datagram, destination bbroadcast s.g.outpacket, s.clock 0⟩] })
  else
    .ok (-1, s)

/-- The last options of an OFFER or ACK: one for each DNS address that is set. -/
def addDnsOptions (dnsaddr : List Addr) (g : State) : State :=
  dnsaddr.foldl (fun g d => if d ≠ 0 then (dhcpAddoption32p Code.dnsServer (Mem.wordBytes d) g).2 else g) g

/-- The lease time, netmask and router of an OFFER or ACK. -/
def addLeaseOptions (srv : Handle) (leasetime : BitVec 32) (g : State) : State :=
  let g := (dhcpdAddoption32 Code.leaseTime (htonl leasetime) g).2
  let g := (dhcpdAddoption32 Code.subnetMask srv.netmask g).2
  (dhcpdAddoption32 Code.router srv.gwAddr g).2

/-- The OFFER that `dhcpd_sendoffer` builds: every DNS address goes through `htonl`. -/
def offerPacket (srv : Handle) (ipaddr : Addr) (leasetime : BitVec 32) (g : State) : State :=
  let dnsaddr := srv.dnsAddr.map htonl
  let g := dhcpdInitpacket MsgType.offer g
  let g := { g with outpacket := g.outpacket.store Msg.yiaddr (Mem.wordBytes (htonl ipaddr)) }
  let g := addLeaseOptions srv leasetime g
  addDnsOptions dnsaddr g

/-- `dhcpd_sendoffer` -/
def dhcpdSendoffer (srv : Handle) (ipaddr : Addr) (leasetime : BitVec 32) : M Int := do
  modifyState (offerPacket srv ipaddr leasetime)
  dhcpdSendpacket true

/-- The NAK that `dhcpd_sendnak` builds. -/
def nakPacket (g : State) : State :=
  let g := dhcpdInitpacket MsgType.nak g
  { g with outpacket := g.outpacket.store Msg.ciaddr (g.inpacket.load Msg.ciaddr 4) }

/-- `dhcpd_sendnak` -/
def dhcpdSendnak : M Int := do
  modifyState nakPacket
  dhcpdSendpacket true

/-- `dhcpd_verifyreqleasetime`: the flag, and `*leasetime` afterwards. -/
def dhcpdVerifyreqleasetime (opt : Options) (leasetime : BitVec 32) : Bool × BitVec 32 :=
  let tmp := BitVec.ofInt 32 opt.leasetime
  if tmp ≠ 0 then
    (true, if tmp > maxleasetime then maxleasetime else if tmp < minleasetime then minleasetime else tmp)
  else
    (false, leasetime)

/-- The ACK that `dhcpd_sendack` builds: the DNS addresses are copied as they are. -/
def ackPacket (srv : Handle) (ipaddr : Addr) (leasetime : BitVec 32) (g : State) : State :=
  let dnsaddr := srv.dnsAddr
  let g := dhcpdInitpacket MsgType.ack g
  let g := { g with outpacket := g.outpacket.store Msg.ciaddr (g.inpacket.load Msg.ciaddr 4) }
  let g := { g with outpacket := g.outpacket.store Msg.yiaddr (Mem.wordBytes (htonl ipaddr)) }
  let g := addLeaseOptions srv leasetime g
  addDnsOptions dnsaddr g

/-- The lease time `dhcpd_sendack` grants. -/
def grantedTime (opt : Options) : BitVec 32 := (dhcpdVerifyreqleasetime opt leasetimeDefault).2

/-- `dhcpd_sendack`: the lease is set only once the ACK has been sent. -/
def dhcpdSendack (srv : Handle) (ipaddr : Addr) : M Int := do
  let s ← get
  let leasetime := grantedTime s.g.opt
  modifyState (ackPacket srv ipaddr leasetime)
  if (← dhcpdSendpacket false) < 0 then
    return -1
  else
    let _ ← dhcpdSetlease s.g.client ipaddr leasetime.toNat srv.numLeases srv.startip
    return 0

end ArtikSdk.Dhcp.Server
