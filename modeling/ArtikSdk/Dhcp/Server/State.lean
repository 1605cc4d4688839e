import ArtikSdk.Dhcp.Message
import ArtikSdk.Lib.Checked

/-!
# DHCP server: state

The lease table, `struct dhcpd_state_s`, the configuration a watch passes to
`loop_handler`, and what the world outside answers during one call of it. A table index
outside the allocated table, a signed overflow and a scan that does not end are
faults.
-/

namespace ArtikSdk.Dhcp.Server
open Lib

/-- `struct lease_s`; `time_t` is an unbounded integer. -/
structure Lease where
  mac : Mac
  allocated : Bool
  expiry : Int
deriving DecidableEq

/-- `memset(lease, 0, sizeof(struct lease_s))` -/
def Lease.zero : Lease := ⟨Mac.zero, false, 0⟩

/-- `MAX_DNS_ADDRESSES` -/
abbrev maxDnsAddresses : Nat := 2

/-- `dhcp_server_handle`: `startip` and `endip` in host order, the others in network
order. `dhcpd_run` computes `endip` from the other two. -/
structure Handle where
  numLeases : BitVec 32
  startip : Addr
  endip : Addr
  netmask : Addr
  gwAddr : Addr
  dnsAddr : List Addr
  endip_eq : endip = startip + numLeases - 1
  dns_length : dnsAddr.length = maxDnsAddresses

/-- The options `dhcpd_parseoptions` finds in a message (addresses in host order). -/
structure Options where
  msgtype : Byte
  reqip : Addr
  serverip : Addr
  leasetime : Int
deriving DecidableEq

/-- All options at their default value. -/
def Options.default : Options := ⟨0, 0, 0, 0⟩

/-- `struct dhcpd_state_s`; `optend` is an offset into `outpacket`. -/
structure State where
  serverip : Addr
  inpacket : Mem
  outpacket : Mem
  opt : Options
  optend : Option Nat
  leases : List Lease

/-- The MAC address of the client whose message is being handled. -/
def State.client (g : State) : Mac := macAt g.inpacket Msg.chaddr

/-- What stops the code from having a meaning. -/
inductive Fault where
  | outOfBounds
  | overflow
  | outOfFuel
deriving DecidableEq

/-- The answers of the world during one call of `loop_handler`: the datagram (`none`
where `recv` fails), the successive readings of the clock, the successive answers of
`verify_ipv4addr_in_used`, and whether a reply can be sent. -/
structure World where
  recv : Option (List Byte)
  clock : Nat → Int
  inUsed : Nat → Addr → Bool
  sendto : Bool

/-- A datagram handed to `sendto`, its destination, and the clock at that moment. -/
structure Sent where
  bytes : List Byte
  dest : Addr
  time : Int
deriving DecidableEq

/-- The state inside a call: `g_state`, the answers still to come, the datagrams sent. -/
structure Ctx where
  g : State
  clock : Nat → Int
  inUsed : Nat → Addr → Bool
  sendto : Bool
  sent : List Sent

/-- Server code. -/
abbrev M := Checked Fault Ctx

/-- The clock has been read once more. -/
def Ctx.tick (s : Ctx) : Ctx := { s with clock := fun k => s.clock (k + 1) }

/-- Slot `i` of the table holds `l`. -/
def Ctx.setSlot (s : Ctx) (i : Nat) (l : Lease) : Ctx := { s with g := { s.g with leases := s.g.leases.set i l } }

/-- `dhcpd_time`: the next reading (a failing clock reads 0). -/
def dhcpdTime : M Int := fun s => .ok (s.clock 0, s.tick)

/-- `verify_ipv4addr_in_used(&addr) == OK` -/
def verifyIpv4addrInUsed (addr : Addr) : M Bool := fun s =>
  .ok (s.inUsed 0 addr, { s with inUsed := fun k => s.inUsed (k + 1) })

/-- `g_state.ds_leases[i]` -/
def slot (i : Nat) : M Lease := fun s =>
  match s.g.leases[i]? with
  | some l => .ok (l, s)
  | none => .error .outOfBounds

/-- `g_state.ds_leases[i] = l` -/
def setSlot (i : Nat) (l : Lease) : M Unit := fun s =>
  if i < s.g.leases.length then .ok ((), s.setSlot i l) else .error .outOfBounds

/-- Computation on `g_state` that touches nothing else. -/
def modifyState (f : State → State) : M Unit := fun s => .ok ((), { s with g := f s.g })

@[simp] theorem dhcpdTime_apply (s : Ctx) : dhcpdTime s = .ok (s.clock 0, s.tick) := rfl

@[simp] theorem modifyState_apply (f : State → State) (s : Ctx) : modifyState f s = .ok ((), { s with g := f s.g }) := rfl

@[simp] theorem tick_g (s : Ctx) : s.tick.g = s.g := rfl
@[simp] theorem tick_sent (s : Ctx) : s.tick.sent = s.sent := rfl
@[simp] theorem tick_clock (s : Ctx) (k : Nat) : s.tick.clock k = s.clock (k + 1) := rfl
@[simp] theorem tick_sendto (s : Ctx) : s.tick.sendto = s.sendto := rfl
@[simp] theorem tick_inUsed (s : Ctx) : s.tick.inUsed = s.inUsed := rfl
@[simp] theorem setSlot_leases (s : Ctx) (i : Nat) (l : Lease) : (s.setSlot i l).g.leases = s.g.leases.set i l := rfl
@[simp] theorem setSlot_clock (s : Ctx) (i : Nat) (l : Lease) : (s.setSlot i l).clock = s.clock := rfl
@[simp] theorem setSlot_sent (s : Ctx) (i : Nat) (l : Lease) : (s.setSlot i l).sent = s.sent := rfl
@[simp] theorem setSlot_sendto (s : Ctx) (i : Nat) (l : Lease) : (s.setSlot i l).sendto = s.sendto := rfl
@[simp] theorem setSlot_inUsed (s : Ctx) (i : Nat) (l : Lease) : (s.setSlot i l).inUsed = s.inUsed := rfl

theorem slot_of_some {s : Ctx} {i : Nat} {l : Lease} (h : s.g.leases[i]? = some l) : slot i s = .ok (l, s) := by
  simp only [slot, h]

theorem slot_ok {s : Ctx} {i : Nat} {r : Lease × Ctx} (h : slot i s = .ok r) :
    s.g.leases[i]? = some r.1 ∧ r.2 = s := by
  unfold slot at h
  split at h
  · rename_i found
    cases h
    exact ⟨found, rfl⟩
  · cases h

theorem setSlot_of_lt {s : Ctx} {i : Nat} (l : Lease) (h : i < s.g.leases.length) :
    setSlot i l s = .ok ((), s.setSlot i l) := by
  simp only [setSlot, h, if_true]

theorem setSlot_ok {s : Ctx} {i : Nat} {l : Lease} {r : Unit × Ctx} (h : setSlot i l s = .ok r) :
    i < s.g.leases.length ∧ r.2 = s.setSlot i l := by
  unfold setSlot at h
  split at h
  · rename_i bound
    cases h
    exact ⟨bound, rfl⟩
  · cases h

end ArtikSdk.Dhcp.Server
