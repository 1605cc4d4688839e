import ArtikSdk.Dhcp.Message

/-!
# DHCP client: state

`struct dhcpc_state`, the variables of one `dhcpc_request`, and what the world answers to
its calls. A *turn* is one message sent and the answer awaited, with everything
`dhcpc_request` does on the way there; the stream of turns is the world.
-/

namespace ArtikSdk.Dhcp.Client
open Lib

/-- `struct dhcpc_state`, in network order but for the lease time. -/
structure DhcpcState where
  serverid : Addr
  ipaddr : Addr
  netmask : Addr
  dnsaddr : Addr
  defaultRouter : Addr
  leaseTime : BitVec 32
deriving DecidableEq

/-- Everything absent. -/
def DhcpcState.zero : DhcpcState := ⟨0, 0, 0, 0, 0, 0⟩

/-- `xid` of the client. -/
def xid : List Byte := [0xad, 0xde, 0x12, 0x23]

@[simp] theorem xid_length : xid.length = 4 := rfl

/-- A datagram handed to `sendto`, and its destination. -/
structure Sent where
  bytes : List Byte
  dest : Addr
deriving DecidableEq

/-- The loop of `dhcpc_request` whose send comes next: at the head of the outer loop, in
the DISCOVER loop (`STATE_INITIAL`), in the REQUEST loop (`STATE_HAVE_OFFER`). -/
inductive Loop where
  | outer
  | discover
  | request
deriving DecidableEq

/-- The variables of `dhcpc_request` and the state it works on: the address of the
interface, `*presult`, the fields of `*pdhcpc`, and what has been sent. -/
structure State where
  ifaddr : Addr
  oldaddr : Addr
  presult : DhcpcState
  ipaddr : Addr
  serverid : Addr
  packet : Mem
  loop : Loop
  count : Nat
  retries : Nat
  renew : Bool
  sent : List Sent

/-- What `recv` comes to; a timeout is `EAGAIN`. -/
inductive Recv where
  | datagram (bytes : List Byte)
  | timeout
  | error
deriving DecidableEq

/-- The answers on the way to a send: `setAny` and `restore` are those of `set_ipv4addr` for
`INADDR_ANY` and for `oldaddr`. -/
structure Sending where
  setAny : Bool
  setDefaultroute : Bool
  getmacaddr : Option Mac
  sendto : Bool
  restore : Bool

/-- The answers from a `recv` on. `beyond` is the memory behind `packet`, `setOffered` the
answer of `set_ipv4addr` for an offered address; `getmacaddr` and `sendto` are those of a
DECLINE. -/
structure Receiving where
  recv : Recv
  beyond : Mem
  setOffered : Bool
  getmacaddr : Option Mac
  sendto : Bool
  restore : Bool

structure Turn where
  sending : Sending
  receiving : Receiving

/-- `OK` and `ERROR` -/
inductive Status where
  | ok
  | error
deriving DecidableEq

/-- `set_ipv4addr`, with its answer. -/
def State.setIpv4addr (answer : Bool) (addr : Addr) (c : State) : State := if answer then { c with ifaddr := addr } else c

/-- `dhcpc_request` up to its loops, on an interface with address `ifaddr`: where
`get_ipv4addr` fails, `oldaddr` stays 0. -/
def State.enter (ifaddr : Addr) (getIpv4addr : Bool) (presult : DhcpcState) (ipaddr serverid : Addr) (packet : Mem) (renew : Bool) :
    State where
  ifaddr := ifaddr
  oldaddr := if getIpv4addr then ifaddr else 0
  presult := presult
  ipaddr := ipaddr
  serverid := serverid
  packet := packet
  loop := .outer
  count := 5
  retries := 0
  renew := renew
  sent := []

end ArtikSdk.Dhcp.Client
