import ArtikSdk.Dhcp.Server.Packet
import ArtikSdk.Dhcp.Server.Parser
import ArtikSdk.Lib.Run

/-!
# DHCP server: the message handlers

`dhcpd_discover`, `dhcpd_request`, `dhcpd_decline`, `dhcpd_release`, `loop_handler` and
`dhcpd_run`. A server is the service `loopHandler fuel srv`: one call per datagram.
-/

namespace ArtikSdk.Dhcp.Server
open Lib Checked

/-- `dhcpd_verifyreqip` -/
def dhcpdVerifyreqip (srv : Handle) : M Bool := do
  let s ← get
  let reqip := s.g.opt.reqip
  if srv.startip ≤ reqip ∧ reqip ≤ srv.endip then
    freeOrExpired (← dhcpdFindbyipaddr reqip srv.startip srv.endip)
  else
    return false

/-- The first half of `dhcpd_discover`: the address to offer (0 if there is none) and
the lease time to offer it for. -/
def discoverAddress (fuel : Nat) (srv : Handle) : M (Addr × BitVec 32) := do
  let s ← get
  match ← dhcpdFindbymac s.g.client srv.numLeases with
  | some i =>
    if ← dhcpdLeaseexpired i then
      return (dhcpLeaseipaddr i srv.startip, leasetimeDefault)
    else
      let lease ← slot i
      let now ← dhcpdTime
      let leasetime := BitVec.ofInt 32 (lease.expiry - now)
      return (dhcpLeaseipaddr i srv.startip, if leasetime < minleasetime then minleasetime else leasetime)
  | none =>
    if ← dhcpdVerifyreqip srv then
      return (s.g.opt.reqip, leasetimeDefault)
    else
      let ipaddr ← dhcpdAllocipaddr fuel srv.startip srv.endip
      return (ipaddr, leasetimeDefault)

/-- `dhcpd_discover` -/
def dhcpdDiscover (fuel : Nat) (srv : Handle) : M Int := do
  let (ipaddr, leasetime) ← discoverAddress fuel srv
  if ipaddr = 0 then
    return -1
  else
    let s ← get
    if ← dhcpdSetlease s.g.client ipaddr offertime srv.numLeases srv.startip then
      dhcpdSendoffer srv ipaddr (dhcpdVerifyreqleasetime s.g.opt leasetime).2
    else
      return -1

/-- The answer of `dhcpd_request` to a client that holds the slot of `ipaddr`. -/
def leaseResponse (g : State) (ipaddr : Addr) : Byte :=
  if g.opt.serverip ≠ 0 then
    if g.opt.serverip = htonl g.serverip ∧ (g.opt.reqip ≠ 0 ∨ g.opt.reqip = ipaddr) then MsgType.ack else MsgType.nak
  else if g.opt.reqip ≠ 0 then
    if ipaddr = g.opt.reqip then MsgType.ack else MsgType.nak
  else
    if Mem.wordBytes (htonl ipaddr) = g.inpacket.load Msg.ciaddr 4 then MsgType.ack else MsgType.nak

/-- The first half of `dhcpd_request`: the address and the response (0: none). -/
def requestResponse (srv : Handle) : M (Addr × Byte) := do
  let s ← get
  match ← dhcpdFindbymac s.g.client srv.numLeases with
  | some i => return (dhcpLeaseipaddr i srv.startip, leaseResponse s.g (dhcpLeaseipaddr i srv.startip))
  | none =>
    let reqip := s.g.opt.reqip
    if reqip ≠ 0 ∧ s.g.opt.serverip = 0 then
      match ← dhcpdFindbyipaddr reqip srv.startip srv.endip with
      | some i => if ← dhcpdLeaseexpired i then return (0, 0) else return (0, MsgType.nak)
      | none => if reqip < srv.startip ∨ reqip > srv.endip then return (0, MsgType.nak) else return (0, 0)
    else
      return (0, 0)

/-- `dhcpd_request` -/
def dhcpdRequest (srv : Handle) : M Int := do
  let (ipaddr, response) ← requestResponse srv
  if response = MsgType.ack then
    let _ ← dhcpdSendack srv ipaddr
    return 0
  else if response = MsgType.nak then
    let _ ← dhcpdSendnak
    return 0
  else
    return 0

/-- `dhcpd_decline` -/
def dhcpdDecline (srv : Handle) : M Int := do
  let s ← get
  match ← dhcpdFindbymac s.g.client srv.numLeases with
  | some i =>
    let lease ← slot i
    let now ← dhcpdTime
    setSlot i { lease with mac := Mac.zero, expiry := now + declinetime }
    return 0
  | none => return 0

/-- `dhcpd_release` -/
def dhcpdRelease (srv : Handle) : M Int := do
  let s ← get
  match ← dhcpdFindbymac s.g.client srv.numLeases with
  | some i =>
    setSlot i Lease.zero
    return 0
  | none => return 0

/-- The `switch` of `loop_handler`. -/
def dispatch (fuel : Nat) (srv : Handle) : M Int := do
  let s ← get
  let msgtype := s.g.opt.msgtype
  if msgtype = MsgType.discover then dhcpdDiscover fuel srv
  else if msgtype = MsgType.request then dhcpdRequest srv
  else if msgtype = MsgType.decline then dhcpdDecline srv
  else if msgtype = MsgType.release then dhcpdRelease srv
  else return 0

/-- `recv` into `ds_inpacket`: a datagram overwrites as many bytes as it has. -/
def receive (w : World) (g : State) : State :=
  match w.recv with
  | some bytes => { g with inpacket := g.inpacket.store 0 (bytes.take Msg.size) }
  | none => g

/-- `loop_handler`: neither a failing `recv` nor a failing parse keeps it from
dispatching. `fuel` bounds the scan of `dhcpd_allocipaddr`. -/
def loopHandler (fuel : Nat) (srv : Handle) (w : World) (g : State) : Except Fault (State × List Sent) :=
  match dhcpdParseoptions (receive w g) (receive w g).view with
  | none => .error .outOfBounds
  | some (_, g) =>
    match dispatch fuel srv ⟨g, w.clock, w.inUsed, w.sendto, []⟩ with
    | .ok (_, s) => .ok (s.g, s.sent)
    | .error e => .error e

/-- `artik_network_interface_t`: the device is `wlan0` or `eth0`. -/
inductive Interface where
  | wifi
  | ethernet
deriving DecidableEq

/-- `artik_network_dhcp_server_config`; addresses are strings. -/
structure ServerConfig where
  interface : Interface
  ipAddr : List Char
  netmask : List Char
  gwAddr : List Char
  dnsAddr : List (List Char)
  startAddr : List Char
  numLeases : BitVec 32
  dns_length : dnsAddr.length = maxDnsAddresses

/-- The configuration that `dhcpd_run` passes to the watch. -/
def ServerConfig.handle (inetAddr : List Char → Addr) (config : ServerConfig) : Handle where
  numLeases := config.numLeases
  startip := htonl (inetAddr config.startAddr)
  endip := htonl (inetAddr config.startAddr) + config.numLeases - 1
  netmask := inetAddr config.netmask
  gwAddr := inetAddr config.gwAddr
  dnsAddr := config.dnsAddr.map fun a => if a = [] then 0 else inetAddr a
  endip_eq := rfl
  dns_length := by rw [List.length_map, config.dns_length]

/-- `g_state` as `dhcpd_run` leaves it: zeroed, with a zeroed table of `num_leases`
slots and the address of the interface. -/
def State.boot (srv : Handle) (serverip : Addr) : State where
  serverip := serverip
  inpacket := fun _ => 0
  outpacket := fun _ => 0
  opt := Options.default
  optend := none
  leases := List.replicate srv.numLeases.toNat Lease.zero

/-- `dhcpd_run`, on an interface with address `serverip`. -/
def dhcpdRun (inetAddr : List Char → Addr) (config : ServerConfig) (serverip : Addr) : Handle × State :=
  (config.handle inetAddr, State.boot (config.handle inetAddr) serverip)

/-- A state of the server, some datagrams after `dhcpd_run`. -/
def Reached (fuel : Nat) (srv : Handle) (serverip : Addr) (g : State) : Prop :=
  Reachable (loopHandler fuel srv) (State.boot srv serverip) g

end ArtikSdk.Dhcp.Server
