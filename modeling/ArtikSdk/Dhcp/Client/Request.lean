import ArtikSdk.Dhcp.Client.State
import ArtikSdk.Lib.Run

/-!
# DHCP client: `dhcpc_request`

The message builder, the parser and the two nested loops. `round` is one turn of them;
`dhcpc_request` is the procedure that repeats it until it returns.
-/

namespace ArtikSdk.Dhcp.Client
open Lib

/-! ## Sending -/

/-- A message under construction: the packet, and where `optptr` points. -/
abbrev Buffer := Mem × Nat

/-- The bytes `bs` are written at `optptr`, which moves behind them. -/
def put (bs : List Byte) (b : Buffer) : Buffer := (b.1.store b.2 bs, b.2 + bs.length)

/-- `dhcpc_addmsgtype` -/
def dhcpcAddmsgtype (type : Byte) : Buffer → Buffer := put [Code.msgType, 1, type]

/-- `dhcpc_addserverid` -/
def dhcpcAddserverid (serverid : Addr) : Buffer → Buffer := put (Code.serverId :: 4 :: Mem.wordBytes serverid)

/-- `dhcpc_addreqipaddr` -/
def dhcpcAddreqipaddr (ipaddr : Addr) : Buffer → Buffer := put (Code.reqIpaddr :: 4 :: Mem.wordBytes ipaddr)

/-- `dhcpc_addreqoptions` -/
def dhcpcAddreqoptions : Buffer → Buffer := put [Code.reqList, 3, Code.subnetMask, Code.router, Code.dnsServer]

/-- `dhcpc_addend` -/
def dhcpcAddend : Buffer → Buffer := put [Code.fin]

/-- The fields every message has; `ds_maclen` is 6. -/
def commonHeader (mac : Mac) (packet : Mem) : Mem :=
  let p : Mem := fun k => if k < Msg.size then 0 else packet k
  let p := p.store Msg.op [dhcpRequest]
  let p := p.store Msg.htype [htypeEthernet]
  let p := p.store Msg.hlen [6]
  let p := p.store Msg.xid xid
  let p := p.store Msg.chaddr mac.bytes
  let p := p.store (Msg.chaddr + 6) (List.replicate 10 0)
  p.store Msg.options magicCookie

/-- `htons(BOOTP_BROADCAST)` is written to `flags`. -/
def setBroadcast (b : Buffer) : Buffer := (b.1.store Msg.flags [0x80, 0], b.2)

/-- An address is written to `ciaddr`. -/
def setCiaddr (addr : Addr) (b : Buffer) : Buffer := (b.1.store Msg.ciaddr (Mem.wordBytes addr), b.2)

/-- The message up to the specific settings. -/
def commonMessage (msgtype : Byte) (mac : Mac) (packet : Mem) : Buffer :=
  dhcpcAddmsgtype msgtype (commonHeader mac packet, Msg.options + 4)

/-- The settings of `dhcpc_sendmsg` for a message type, and the destination. -/
def specificSettings (msgtype : Byte) (c : State) (b : Buffer) : Option (Buffer × Addr) :=
  if msgtype = MsgType.discover then
    some (dhcpcAddreqoptions (setBroadcast b), 0xffffffff)
  else if msgtype = MsgType.request then
    let b := setCiaddr c.ipaddr (setBroadcast b)
    some (if c.renew = false then dhcpcAddreqipaddr c.ipaddr (dhcpcAddserverid c.serverid b) else b, 0xffffffff)
  else if msgtype = MsgType.decline then
    some (dhcpcAddserverid c.presult.serverid (setCiaddr c.presult.ipaddr b), c.presult.serverid)
  else if msgtype = MsgType.release then
    some (dhcpcAddreqipaddr c.ipaddr (dhcpcAddserverid c.serverid (setCiaddr c.ipaddr b)), 0xffffffff)
  else
    none

/-- `dhcpc_sendmsg`, with the answers of `getmacaddr` and `sendto`; whether its result is
not negative. -/
def dhcpcSendmsg (msgtype : Byte) (getmacaddr : Option Mac) (sendto : Bool) (c : State) : Bool × State :=
  match getmacaddr with
  | none => (false, c)
  | some mac =>
    let b := commonMessage msgtype mac c.packet
    match specificSettings msgtype c b with
    | none => (false, { c with packet := b.1 })
    | some (b, dest) =>
      let (packet, len) := dhcpcAddend b
      if sendto then (true, { c with packet := packet, sent := c.sent ++ [⟨packet.load 0 len, dest⟩] })
      else (false, { c with packet := packet })

/-! ## Receiving -/

/-- The `switch` of `dhcpc_parseoptions` on the option at `optptr`, but for the message
type and the END. The data is read as if it had its usual length. -/
def parseOption (m : Mem) (optptr : Nat) (r : DhcpcState) : DhcpcState :=
  let code := m optptr
  if code = Code.subnetMask then { r with netmask := m.word (optptr + 2) }
  else if code = Code.router then { r with defaultRouter := m.word (optptr + 2) }
  else if code = Code.dnsServer then { r with dnsaddr := m.word (optptr + 2) }
  else if code = Code.serverId then { r with serverid := m.word (optptr + 2) }
  else if code = Code.leaseTime then
    { r with
      leaseTime := (Mem.swapHalf (m.half (optptr + 2))).setWidth 32 <<< 16 |||
        (Mem.swapHalf (m.half (optptr + 4))).setWidth 32 }
  else r

/-- The loop of `dhcpc_parseoptions`; every option takes two bytes at least, so that
`len` rounds reach `fin`. -/
def parseLoop (m : Mem) (fin : Nat) : Nat → Nat → DhcpcState → Byte → Byte × DhcpcState
  | 0, _, r, type => (type, r)
  | fuel + 1, optptr, r, type =>
    if optptr < fin then
      if m optptr = Code.fin then (type, r)
      else
        parseLoop m fin fuel (optptr + ((m (optptr + 1)).toNat + 2)) (parseOption m optptr r)
          (if m optptr = Code.msgType then m (optptr + 2) else type)
    else (type, r)

/-- `dhcpc_parseoptions` -/
def dhcpcParseoptions (m : Mem) (optptr len : Nat) (r : DhcpcState) : Byte × DhcpcState :=
  parseLoop m (optptr + len) len optptr r 0

/-- `dhcpc_parsemsg`; the options start behind the cookie, so `buflen` reaches behind the
datagram. -/
def dhcpcParsemsg (buflen : Nat) (m : Mem) (r : DhcpcState) : Byte × DhcpcState :=
  if m Msg.op = dhcpReply ∧ m.load Msg.xid 4 = xid then
    dhcpcParseoptions m (Msg.options + 4) buflen { r with ipaddr := m.word Msg.yiaddr }
  else (0, r)

/-- `packet` after `recv`. -/
def received (bytes : List Byte) (beyond packet : Mem) : Mem := fun k =>
  if k < Msg.size then packet.store 0 (bytes.take Msg.size) k else beyond k

/-- `recv` and `dhcpc_parsemsg` of a datagram: the message type, and the state. -/
def receive (bytes : List Byte) (beyond : Mem) (c : State) : Byte × State :=
  let packet := received bytes beyond c.packet
  let (msgtype, presult) := dhcpcParsemsg (bytes.take Msg.size).length packet c.presult
  (msgtype, { c with packet := packet, presult := presult })

/-! ## The loops -/

/-- The outer loop up to the DISCOVER loop: without `renew` the interface loses its
address. With `renew` the DISCOVER loop is left at once. -/
def enterLoops (e : Sending) (c : State) : State ⊕ (Status × State) :=
  if c.renew then .inl { c with loop := .request, retries := 0 }
  else if e.setAny = false then .inr (.error, c)
  else
    let c := c.setIpv4addr e.setAny 0
    if c.oldaddr ≠ 0 ∧ e.setDefaultroute = false then .inr (.error, c)
    else .inl { c with loop := .discover }

/-- The DISCOVER loop up to its `recv`. -/
def sendDiscover (e : Sending) (c : State) : State ⊕ (Status × State) :=
  let (sent, c) := dhcpcSendmsg MsgType.discover e.getmacaddr e.sendto c
  if sent = false then .inr (.error, c)
  else if 0 < c.count then .inl { c with count := c.count - 1 }
  else .inr (.error, c.setIpv4addr e.restore c.oldaddr)

/-- The REQUEST loop up to its `recv`. -/
def sendRequest (addr : Addr) (e : Sending) (c : State) : State ⊕ (Status × State) :=
  let c := if c.renew then { c with ipaddr := addr } else c
  let (sent, c) := dhcpcSendmsg MsgType.request e.getmacaddr e.sendto c
  if sent = false then .inr (.error, c) else .inl { c with retries := c.retries + 1 }

/-- A turn up to its `recv`. -/
def sendPhase (addr : Addr) (e : Sending) (c : State) : State ⊕ (Status × State) :=
  match c.loop with
  | .outer =>
    match enterLoops e c with
    | .inl c => if c.loop = .request then sendRequest addr e c else sendDiscover e c
    | .inr r => .inr r
  | .discover => sendDiscover e c
  | .request => sendRequest addr e c

/-- The DISCOVER loop from its `recv` on. -/
def recvOffer (e : Receiving) (c : State) : State ⊕ (Status × State) :=
  match e.recv with
  | .datagram bytes =>
    let (msgtype, c) := receive bytes e.beyond c
    if msgtype = MsgType.offer then
      let c := { c with ipaddr := c.presult.ipaddr, serverid := c.presult.serverid }
      let c := c.setIpv4addr e.setOffered c.presult.ipaddr
      .inl { c with loop := .request, retries := 0 }
    else .inl c
  | .timeout => .inl c
  | .error => .inr (.error, c)

/-- The end of the REQUEST loop's body. -/
def nextRequest (c : State) : State :=
  let c := if c.retries = 3 then { c with renew := false } else c
  if c.retries < 3 then { c with loop := .request } else { c with loop := .outer }

/-- The REQUEST loop from its `recv` on. A NAK leaves it before `renew` is looked at. -/
def recvAck (e : Receiving) (c : State) : State ⊕ (Status × State) :=
  match e.recv with
  | .datagram bytes =>
    let (msgtype, c) := receive bytes e.beyond c
    if msgtype = MsgType.ack then .inr (.ok, c)
    else if msgtype = MsgType.nak then .inl { c with loop := .outer }
    else if msgtype = MsgType.offer then .inl (nextRequest (dhcpcSendmsg MsgType.decline e.getmacaddr e.sendto c).2)
    else .inl (nextRequest c)
  | .timeout => .inl (nextRequest c)
  | .error => .inr (.error, c.setIpv4addr e.restore c.oldaddr)

/-- A turn from its `recv` on. -/
def recvPhase (e : Receiving) (c : State) : State ⊕ (Status × State) :=
  if c.loop = .request then recvAck e c else recvOffer e c

/-- One turn. -/
def round (addr : Addr) (e : Turn) (c : State) : State ⊕ (Status × State) :=
  match sendPhase addr e.sending c with
  | .inl c => recvPhase e.receiving c
  | .inr r => .inr r

/-- `dhcpc_request` returns; `addr` is the address to renew. -/
def DhcpcRequest (addr : Addr) (env : Nat → Turn) (c : State) (status : Status) (c' : State) : Prop :=
  Returns (round addr) env c (status, c')

end ArtikSdk.Dhcp.Client
