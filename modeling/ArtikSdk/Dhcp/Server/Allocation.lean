import ArtikSdk.Dhcp.Server.Instances
import ArtikSdk.Dhcp.Server.Safety

/-!
# DHCP server: the search for a free address ends

`check_dhcp_server_config` looks at the addresses of a configuration one by one and never at
`num_leases`, so every start address comes with every number of leases. Where the sum of the
two wraps around, the pool is empty and the search of `dhcpd_allocipaddr` ends at once, but for
one case: a last address of 255.255.255.255 is never exceeded.
-/

namespace ArtikSdk.Dhcp.Server
open Lib Checked

/-- On every table of `num_leases` slots and with all answers of `verify_ipv4addr_in_used`, the
search ends, and it touches no slot outside the table. -/
structure Allocates (srv : Handle) : Prop where
  ends : ∀ s, Sized srv s.g → ∃ fuel r, dhcpdAllocipaddr fuel srv.startip srv.endip s = .ok r
  inside : ∀ fuel s, Sized srv s.g → ∀ e, dhcpdAllocipaddr fuel srv.startip srv.endip s = .error e → e = .outOfFuel

/-- A configuration that `check_dhcp_server_config` accepts makes a pool that can be searched. -/
def Searchable (regexec : List Char → Bool) (inetAddr : List Char → Addr) (config : ServerConfig) : Prop :=
  checkDhcpServerConfig regexec config = true → Allocates (config.handle inetAddr)

variable {regexec : List Char → Bool} {inetAddr : List Char → Addr} {config : ServerConfig} {fuel : Nat} {srv : Handle} {s : Ctx}

/-- A pool that starts in front of its end has not wrapped around. -/
theorem noWrap_of_le (le : srv.startip ≤ srv.endip) (notLast : srv.endip ≠ BitVec.allOnes 32) : NoWrap srv := by
  have ends := congrArg BitVec.toNat srv.endip_eq
  have start := srv.startip.isLt
  have num := srv.numLeases.isLt
  have one : (1 : Addr).toNat = 1 := rfl
  have below : srv.endip.toNat ≠ 2 ^ 32 - 1 := fun last => notLast (BitVec.eq_of_toNat_eq (by rw [last, BitVec.toNat_allOnes]))
  rw [BitVec.le_def] at le
  rw [BitVec.toNat_sub, BitVec.toNat_add, one] at ends
  rw [NoWrap]
  omega

/-- Where the end lies in front of the start, no address is looked at. -/
theorem alloc_empty (empty : ¬ srv.startip ≤ srv.endip) : dhcpdAllocipaddr (fuel + 1) srv.startip srv.endip s = .ok (0, s) := by
  rw [dhcpdAllocipaddr, allocipaddrFrom, if_neg empty]
  rfl

/-- Where every address answers, the search goes on past 255.255.255.255 for ever. -/
theorem alloc_endless {startip : Addr} (used : ∀ k a, s.inUsed k a = true) (fuel : Nat) (ipaddr : Addr) :
    allocipaddrFrom startip (BitVec.allOnes 32) fuel ipaddr s = .error .outOfFuel := by
  rw [← Nat.zero_add fuel, alloc_skip fun k _ a => used k a]
  rfl

theorem Allocates.of_notLast (notLast : srv.endip ≠ BitVec.allOnes 32) : Allocates srv := by
  by_cases le : srv.startip ≤ srv.endip
  · have noWrap := noWrap_of_le le notLast
    have only {fuel : Nat} {s : Ctx} (sized : Sized srv s.g) : Only (Short fuel srv) (dhcpdAllocipaddr fuel srv.startip srv.endip) s :=
      only_allocipaddr noWrap notLast sized
    refine ⟨fun s sized => ?_, fun fuel s sized e stopped => (only sized e stopped).1⟩
    refine ⟨srv.numLeases.toNat + 1, ?_⟩
    obtain found | ⟨e, ⟨-, short⟩, -⟩ := (only sized).returns
    · exact found
    · omega
  · refine ⟨fun s _ => ⟨1, _, alloc_empty le⟩, fun fuel s _ e stopped => ?_⟩
    cases fuel with
    | zero =>
      cases stopped
      rfl
    | succ fuel =>
      rw [alloc_empty le] at stopped
      cases stopped

theorem Allocates.notLast (allocates : Allocates srv) : srv.endip ≠ BitVec.allOnes 32 := by
  intro last
  obtain ⟨fuel, r, found⟩ := allocates.ends ⟨State.boot srv 0, fun _ => 0, fun _ _ => true, true, []⟩ (boot_sized srv 0)
  rw [dhcpdAllocipaddr, last, alloc_endless fun _ _ => rfl] at found
  cases found

/-- The end of a pool is the last address of all where start and number of leases sum to zero. -/
theorem endip_last_iff : srv.endip = BitVec.allOnes 32 ↔ srv.startip + srv.numLeases = 0 := by
  have all : BitVec.allOnes 32 = 0 - 1 := by decide
  rw [srv.endip_eq, all]
  constructor
  · intro same
    have back := congrArg (· + 1) same
    simpa only [BitVec.sub_add_cancel] using back
  · intro zero
    rw [zero]

/-- **The search ends** for exactly the accepted configurations whose start address and number of
leases do not sum to 2^32 (or 0). -/
theorem searchable_iff : Searchable regexec inetAddr config ↔
    (checkDhcpServerConfig regexec config = true → htonl (inetAddr config.startAddr) + config.numLeases ≠ 0) := by
  refine forall_congr' fun _ => ⟨fun allocates zero => ?_, fun nonzero => ?_⟩
  · exact allocates.notLast (endip_last_iff.2 zero)
  · exact .of_notLast fun last => nonzero (endip_last_iff.1 last)

/-- The pool of 255.255.255.250 and the five addresses behind it. -/
def lastConfig : ServerConfig := { wifiConfig with startAddr := "255.255.255.250".toList, numLeases := 6 }

theorem lastConfig_not_searchable : ¬ Searchable isQuad quadAddr lastConfig := by
  intro searchable
  have accepted : checkDhcpServerConfig isQuad lastConfig = true := by decide +kernel
  exact (searchable accepted).notLast (by decide +kernel)

end ArtikSdk.Dhcp.Server
