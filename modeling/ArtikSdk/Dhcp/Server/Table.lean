import ArtikSdk.Dhcp.Server.State

/-!
# DHCP server: the lease table

The functions that read and write the lease table, and what each does to it. `After s
k T s'` is their common frame: `k` clock readings later the table is `T` and nothing
else of `g_state` has changed.
-/

namespace ArtikSdk.Dhcp.Server
open Lib Checked

/-- `CONFIG_NETUTILS_DHCPD_OFFERTIME` -/
def offertime : Int := 60 * 60

/-- `CONFIG_NETUTILS_DHCPD_DECLINETIME` -/
def declinetime : Int := 60 * 60

/-- `dhcpd_leaseexpired` on slot `i`: an expired slot is erased. -/
def dhcpdLeaseexpired (i : Nat) : M Bool := do
  let lease ← slot i
  let now ← dhcpdTime
  if lease.expiry > now then
    return false
  else
    setSlot i Lease.zero
    return true

/-- `dhcpd_setlease`; `false` where the source returns `NULL`. The index is a signed
`int`, compared as unsigned once it is known not to be negative. -/
def dhcpdSetlease (mac : Mac) (ipaddr : Addr) (expiry : Int) (numLeases : BitVec 32) (startip : Addr) : M Bool := do
  let ndx : Int := (ipaddr - startip).toInt
  if ndx ≥ 0 ∧ ndx.toNat < numLeases.toNat then
    let now ← dhcpdTime
    setSlot ndx.toNat ⟨mac, true, now + expiry⟩
    return true
  else
    return false

/-- `dhcp_leaseipaddr`: the address of slot `i`, in host order. -/
def dhcpLeaseipaddr (i : Nat) (startip : Addr) : Addr := BitVec.ofNat 32 i + startip

/-- The loop of `dhcpd_findbymac` at index `i`, with `left` slots to go. Its counter is
an `int`, so incrementing `INT_MAX` overflows. -/
def findbymacFrom (mac : Mac) (leases : List Lease) : Nat → Nat → Except Fault (Option Nat)
  | 0, _ => .ok none
  | left + 1, i =>
    match leases[i]? with
    | none => .error .outOfBounds
    | some lease =>
      if lease.mac = mac then .ok (some i)
      else if i + 1 = 2 ^ 31 then .error .overflow
      else findbymacFrom mac leases left (i + 1)

/-- `dhcpd_findbymac`: the first slot with this MAC address. -/
def dhcpdFindbymac (mac : Mac) (numLeases : BitVec 32) : M (Option Nat) := do
  let s ← get
  lift (findbymacFrom mac s.g.leases numLeases.toNat 0)

/-- `dhcpd_findbyipaddr`: the slot of an address of the pool, if it is allocated. -/
def dhcpdFindbyipaddr (ipaddr startip endip : Addr) : M (Option Nat) := do
  if startip ≤ ipaddr ∧ ipaddr ≤ endip then
    let lease ← slot (ipaddr - startip).toNat
    if lease.allocated then
      return some (ipaddr - startip).toNat
    else
      return none
  else
    return none

/-- `!lease || dhcpd_leaseexpired(lease)` -/
def freeOrExpired : Option Nat → M Bool
  | none => return true
  | some i => dhcpdLeaseexpired i

/-- The slot of an address about to be offered: allocated, to nobody yet. -/
def reserveSlot (i : Nat) : M Unit := do
  let now ← dhcpdTime
  setSlot i ⟨Mac.zero, true, now + offertime⟩

/-- The loop of `dhcpd_allocipaddr` at `ipaddr`, for at most `fuel` rounds. -/
def allocipaddrFrom (startip endip : Addr) : Nat → Addr → M Addr
  | 0, _ => fault .outOfFuel
  | fuel + 1, ipaddr => do
    if ipaddr ≤ endip then
      if ← verifyIpv4addrInUsed (htonl ipaddr) then
        allocipaddrFrom startip endip fuel (ipaddr + 1)
      else if ipaddr &&& 0xff = 0 ∨ ipaddr &&& 0xff = 0xff then
        allocipaddrFrom startip endip fuel (ipaddr + 1)
      else
        let lease ← dhcpdFindbyipaddr ipaddr startip endip
        if ← freeOrExpired lease then
          reserveSlot (ipaddr - startip).toNat
          return ipaddr
        else
          allocipaddrFrom startip endip fuel (ipaddr + 1)
    else
      return 0

/-- `dhcpd_allocipaddr`: 0 where no address is available. -/
def dhcpdAllocipaddr (fuel : Nat) (startip endip : Addr) : M Addr :=
  allocipaddrFrom startip endip fuel startip

/-! ## The frame -/

/-- `k` clock readings later, with table `T`, and otherwise unchanged. -/
structure After (s : Ctx) (k : Nat) (T : List Lease) (s' : Ctx) : Prop where
  g : s'.g = { s.g with leases := T }
  clock : ∀ j, s'.clock j = s.clock (k + j)
  sent : s'.sent = s.sent
  sendto : s'.sendto = s.sendto

theorem After.refl (s : Ctx) : After s 0 s.g.leases s :=
  ⟨rfl, fun j => by rw [Nat.zero_add], rfl, rfl⟩

theorem After.leases {s s' : Ctx} {k : Nat} {T : List Lease} (h : After s k T s') : s'.g.leases = T := by rw [h.g]

theorem After.trans {s s' s'' : Ctx} {k k' : Nat} {T T' : List Lease} (h : After s k T s') (h' : After s' k' T' s'') :
    After s (k + k') T' s'' :=
  ⟨by rw [h'.g, h.g], fun j => by rw [h'.clock, h.clock, Nat.add_assoc], h'.sent.trans h.sent, h'.sendto.trans h.sendto⟩

theorem After.tick (s : Ctx) : After s 1 s.g.leases s.tick :=
  ⟨rfl, fun j => by rw [tick_clock, Nat.add_comm], rfl, rfl⟩

theorem After.setSlot {s s' : Ctx} {k : Nat} {T : List Lease} (h : After s k T s') (i : Nat) (l : Lease) :
    After s k (T.set i l) (s'.setSlot i l) :=
  ⟨by simp only [Ctx.setSlot, h.g], h.clock, h.sent, h.sendto⟩

/-! ## What each function does -/

theorem leaseexpired_ok {i : Nat} {s : Ctx} {r : Bool × Ctx} (h : dhcpdLeaseexpired i s = .ok r) :
    ∃ l, s.g.leases[i]? = some l ∧
      (r.1 = false ∧ s.clock 0 < l.expiry ∧ After s 1 s.g.leases r.2 ∨
        r.1 = true ∧ l.expiry ≤ s.clock 0 ∧ After s 1 (s.g.leases.set i Lease.zero) r.2) := by
  obtain ⟨l, s₁, read, rest⟩ := bind_ok.1 h
  obtain ⟨found, same⟩ := slot_ok read
  simp only at found same
  subst same
  refine ⟨l, found, ?_⟩
  rw [bind_apply_of_ok (dhcpdTime_apply _)] at rest
  split at rest
  · rename_i running
    cases rest
    exact Or.inl ⟨rfl, running, After.tick _⟩
  · rename_i passed
    obtain ⟨_, s₂, wrote, done⟩ := bind_ok.1 rest
    obtain ⟨-, same⟩ := setSlot_ok wrote
    simp only at same
    subst same
    cases done
    exact Or.inr ⟨rfl, by omega, (After.tick _).setSlot _ _⟩

theorem setlease_ok {mac : Mac} {ipaddr startip : Addr} {expiry : Int} {numLeases : BitVec 32} {s : Ctx} {r : Bool × Ctx}
    (h : dhcpdSetlease mac ipaddr expiry numLeases startip s = .ok r) :
    (r.1 = true ∧ (ipaddr - startip).toNat < 2 ^ 31 ∧ (ipaddr - startip).toNat < s.g.leases.length ∧
      After s 1 (s.g.leases.set (ipaddr - startip).toNat ⟨mac, true, s.clock 0 + expiry⟩) r.2) ∨
    (r.1 = false ∧ r.2 = s ∧ ((ipaddr - startip).toNat < 2 ^ 31 → numLeases.toNat ≤ (ipaddr - startip).toNat)) := by
  have signed := BitVec.toInt_eq_toNat_cond (ipaddr - startip)
  have bound := (ipaddr - startip).isLt
  unfold dhcpdSetlease at h
  split at h
  · rename_i inside
    rw [bind_apply_of_ok (dhcpdTime_apply _)] at h
    obtain ⟨_, s₂, wrote, done⟩ := bind_ok.1 h
    obtain ⟨room, same⟩ := setSlot_ok wrote
    simp only at same
    subst same
    cases done
    have index : (ipaddr - startip).toInt.toNat = (ipaddr - startip).toNat := by
      split at signed <;> omega
    have small : (ipaddr - startip).toNat < 2 ^ 31 := by
      split at signed <;> omega
    rw [index] at room ⊢
    exact Or.inl ⟨rfl, small, room, (After.tick _).setSlot _ _⟩
  · rename_i outside
    cases h
    refine Or.inr ⟨rfl, rfl, fun small => ?_⟩
    split at signed <;> omega

theorem findbymacFrom_some {mac : Mac} {leases : List Lease} :
    ∀ {left i j : Nat}, findbymacFrom mac leases left i = .ok (some j) → i < 2 ^ 31 →
      i ≤ j ∧ j < i + left ∧ j < 2 ^ 31 ∧ (∃ l, leases[j]? = some l ∧ l.mac = mac) ∧
        ∀ k l, i ≤ k → k < j → leases[k]? = some l → l.mac ≠ mac := by
  intro left
  induction left with
  | zero =>
    intro i j h
    cases h
  | succ left ih =>
    intro i j h small
    simp only [findbymacFrom] at h
    split at h
    · cases h
    · rename_i lease found
      split at h
      · rename_i same
        cases h
        exact ⟨le_rfl, by omega, small, ⟨lease, found, same⟩, fun k l lo hi => by omega⟩
      · rename_i other
        split at h
        · cases h
        · obtain ⟨lo, hi, bound, hit, before⟩ := ih h (by omega)
          refine ⟨by omega, by omega, bound, hit, fun k l klo khi read => ?_⟩
          by_cases first : k = i
          · subst first
            rw [found] at read
            cases read
            exact other
          · exact before k l (by omega) khi read

theorem findbymacFrom_none {mac : Mac} {leases : List Lease} :
    ∀ {left i : Nat}, findbymacFrom mac leases left i = .ok none → i < 2 ^ 31 →
      i + left < 2 ^ 31 ∧ ∀ k, i ≤ k → k < i + left → ∃ l, leases[k]? = some l ∧ l.mac ≠ mac := by
  intro left
  induction left with
  | zero =>
    intro i _ small
    exact ⟨by omega, fun k lo hi => by omega⟩
  | succ left ih =>
    intro i h small
    simp only [findbymacFrom] at h
    split at h
    · cases h
    · rename_i lease found
      split at h
      · cases h
      · rename_i other
        split at h
        · cases h
        · obtain ⟨bound, all⟩ := ih h (by omega)
          refine ⟨by omega, fun k lo hi => ?_⟩
          by_cases first : k = i
          · exact ⟨lease, by rw [first]; exact found, other⟩
          · exact all k (by omega) (by omega)

theorem findbymac_ok {mac : Mac} {numLeases : BitVec 32} {s : Ctx} {r : Option Nat × Ctx}
    (h : dhcpdFindbymac mac numLeases s = .ok r) : r.2 = s ∧ findbymacFrom mac s.g.leases numLeases.toNat 0 = .ok r.1 := by
  rw [dhcpdFindbymac, get_bind_apply] at h
  obtain ⟨o, s'⟩ := r
  obtain ⟨found, same⟩ := lift_ok_inv h
  exact ⟨same, found⟩

theorem findbyipaddr_ok {ipaddr startip endip : Addr} {s : Ctx} {r : Option Nat × Ctx}
    (h : dhcpdFindbyipaddr ipaddr startip endip s = .ok r) :
    r.2 = s ∧
      (startip ≤ ipaddr ∧ ipaddr ≤ endip ∧ (∃ l, s.g.leases[(ipaddr - startip).toNat]? = some l ∧
          (r.1 = some (ipaddr - startip).toNat ∧ l.allocated = true ∨ r.1 = none ∧ l.allocated = false)) ∨
        ¬(startip ≤ ipaddr ∧ ipaddr ≤ endip) ∧ r.1 = none) := by
  unfold dhcpdFindbyipaddr at h
  split at h
  · rename_i inside
    obtain ⟨l, s₁, read, rest⟩ := bind_ok.1 h
    obtain ⟨found, same⟩ := slot_ok read
    simp only at found same
    subst same
    split at rest
    · rename_i taken
      cases rest
      exact ⟨rfl, Or.inl ⟨inside.1, inside.2, l, found, Or.inl ⟨rfl, taken⟩⟩⟩
    · rename_i free
      cases rest
      exact ⟨rfl, Or.inl ⟨inside.1, inside.2, l, found, Or.inr ⟨rfl, by simpa using free⟩⟩⟩
  · rename_i outside
    cases h
    exact ⟨rfl, Or.inr ⟨outside, rfl⟩⟩

theorem verifyIpv4addrInUsed_after (addr : Addr) (s : Ctx) :
    ∃ s', verifyIpv4addrInUsed addr s = .ok (s.inUsed 0 addr, s') ∧ After s 0 s.g.leases s' :=
  ⟨_, rfl, rfl, fun j => by rw [Nat.zero_add], rfl, rfl⟩

/-- The test of an address of the pool: its slot is unallocated, or expired and then
erased, or it is running and left alone. -/
theorem free_or_expired {ipaddr startip endip : Addr} {s s₁ : Ctx} {o : Option Nat} {r : Bool × Ctx}
    (look : dhcpdFindbyipaddr ipaddr startip endip s = .ok (o, s₁)) (test : freeOrExpired o s₁ = .ok r)
    (lo : startip ≤ ipaddr) (hi : ipaddr ≤ endip) :
    ∃ l, s.g.leases[(ipaddr - startip).toNat]? = some l ∧
      (r.1 = true ∧ l.allocated = false ∧ After s 0 s.g.leases r.2 ∨
        r.1 = true ∧ l.expiry ≤ s.clock 0 ∧ After s 1 (s.g.leases.set (ipaddr - startip).toNat Lease.zero) r.2 ∨
        r.1 = false ∧ l.allocated = true ∧ s.clock 0 < l.expiry ∧ After s 1 s.g.leases r.2) := by
  obtain ⟨same, inside | ⟨outside, -⟩⟩ := findbyipaddr_ok look
  · obtain ⟨-, -, l, found, ⟨taken, allocated⟩ | ⟨missing, free⟩⟩ := inside
    · obtain rfl : s₁ = s := same
      obtain rfl : o = some (ipaddr - startip).toNat := taken
      obtain ⟨l', found', ⟨no, running, after⟩ | ⟨yes, passed, after⟩⟩ := leaseexpired_ok test
      · rw [found] at found'
        cases found'
        exact ⟨l, found, Or.inr (Or.inr ⟨no, allocated, running, after⟩)⟩
      · rw [found] at found'
        cases found'
        exact ⟨l, found, Or.inr (Or.inl ⟨yes, passed, after⟩)⟩
    · obtain rfl : s₁ = s := same
      obtain rfl : o = none := missing
      cases test
      exact ⟨l, found, Or.inl ⟨rfl, free, After.refl s₁⟩⟩
  · exact absurd ⟨lo, hi⟩ outside

/-- Outside the pool nothing is looked at. -/
theorem free_outside {ipaddr startip endip : Addr} {s s₁ : Ctx} {o : Option Nat} {r : Bool × Ctx}
    (look : dhcpdFindbyipaddr ipaddr startip endip s = .ok (o, s₁)) (test : freeOrExpired o s₁ = .ok r)
    (outside : ¬(startip ≤ ipaddr ∧ ipaddr ≤ endip)) : r = (true, s) := by
  obtain ⟨same, ⟨lo, hi, -⟩ | ⟨-, missing⟩⟩ := findbyipaddr_ok look
  · exact absurd ⟨lo, hi⟩ outside
  · obtain rfl : s₁ = s := same
    obtain rfl : o = none := missing
    cases test
    rfl

theorem le_succ_or_last {a b : Addr} (h : a ≤ b) : a ≤ b + 1 ∨ b = BitVec.allOnes 32 := by
  by_cases last : b.toNat = 2 ^ 32 - 1
  · right
    apply BitVec.eq_of_toNat_eq
    rw [last, BitVec.toNat_allOnes]
  · left
    have := b.isLt
    have one : (1 : Addr).toNat = 1 := rfl
    rw [BitVec.le_def] at h ⊢
    rw [BitVec.toNat_add, one]
    omega

theorem reserveSlot_ok {i : Nat} {s : Ctx} {r : Unit × Ctx} (h : reserveSlot i s = .ok r) :
    i < s.g.leases.length ∧ After s 1 (s.g.leases.set i ⟨Mac.zero, true, s.clock 0 + offertime⟩) r.2 := by
  rw [reserveSlot, bind_apply_of_ok (dhcpdTime_apply _)] at h
  obtain ⟨room, same⟩ := setSlot_ok h
  rw [same]
  exact ⟨room, (After.tick s).setSlot _ _⟩

/-- What a scan from `s` comes to: no address and the table unchanged, or an address
whose slot was unallocated or expired and is now reserved for nobody. -/
inductive Allocated (startip endip : Addr) (s : Ctx) : Addr × Ctx → Prop where
  | none {k : Nat} {s' : Ctx} (after : After s k s.g.leases s') : Allocated startip endip s (0, s')
  | some {ipaddr : Addr} {s' : Ctx} {l : Lease} {k : Nat} (lo : startip ≤ ipaddr) (hi : ipaddr ≤ endip) (nonzero : ipaddr ≠ 0)
      (found : s.g.leases[(ipaddr - startip).toNat]? = some l)
      (free : l.allocated = false ∨ ∃ j ≤ k, l.expiry ≤ s.clock j)
      (after : After s (k + 1) (s.g.leases.set (ipaddr - startip).toNat ⟨Mac.zero, true, s.clock k + offertime⟩) s') :
      Allocated startip endip s (ipaddr, s')

/-- A scan begun later, with the table unchanged. -/
theorem Allocated.later {startip endip : Addr} {s s' : Ctx} {k : Nat} {r : Addr × Ctx} (after : After s k s.g.leases s')
    (h : Allocated startip endip s' r) : Allocated startip endip s r := by
  cases h with
  | none after' =>
    rw [after.leases] at after'
    exact .none (after.trans after')
  | @some ipaddr s'' l k' lo hi nonzero found free after' =>
    rw [after.leases] at found after'
    rw [after.clock] at after'
    refine .some (k := k + k') lo hi nonzero found ?_ (after.trans after')
    rcases free with free | ⟨j, le, passed⟩
    · exact Or.inl free
    · rw [after.clock] at passed
      exact Or.inr ⟨k + j, by omega, passed⟩

/-- The address at which a scan stops. -/
theorem Allocated.here {startip endip ipaddr : Addr} {s s₁ s₂ s' : Ctx} {o : Option Nat}
    (lo : startip ≤ ipaddr) (hi : ipaddr ≤ endip) (nonzero : ipaddr ≠ 0)
    (look : dhcpdFindbyipaddr ipaddr startip endip s = .ok (o, s₁)) (test : freeOrExpired o s₁ = .ok (true, s₂))
    (reserved : reserveSlot (ipaddr - startip).toNat s₂ = .ok ((), s')) : Allocated startip endip s (ipaddr, s') := by
  obtain ⟨-, write⟩ := reserveSlot_ok reserved
  obtain ⟨l, found, ⟨-, free, after⟩ | ⟨-, passed, after⟩ | ⟨no, -⟩⟩ := free_or_expired look test lo hi
  · have whole := after.trans write
    rw [after.leases, after.clock] at whole
    exact .some (k := 0) lo hi nonzero found (Or.inl free) whole
  · have whole := after.trans write
    rw [after.leases, after.clock, List.set_set] at whole
    exact .some (k := 1) lo hi nonzero found (Or.inr ⟨0, Nat.zero_le _, passed⟩) whole
  · cases no

/-- An address that the test finds running is passed over with the table unchanged. -/
theorem running_after {ipaddr startip endip : Addr} {s s₁ s₂ : Ctx} {o : Option Nat}
    (look : dhcpdFindbyipaddr ipaddr startip endip s = .ok (o, s₁)) (test : freeOrExpired o s₁ = .ok (false, s₂)) :
    ∃ k, After s k s.g.leases s₂ := by
  by_cases inside : startip ≤ ipaddr ∧ ipaddr ≤ endip
  · obtain ⟨l, -, ⟨yes, -⟩ | ⟨yes, -⟩ | ⟨-, -, -, after⟩⟩ := free_or_expired look test inside.1 inside.2
    · cases yes
    · cases yes
    · exact ⟨1, after⟩
  · cases free_outside look test inside

/-- **The scan.** `wrapped` says that an index computed below the pool lies outside the
table; it matters only where the pool ends at the last address of all, because only
then the counter wraps around. -/
theorem allocipaddrFrom_ok {startip endip : Addr} :
    ∀ {fuel : Nat} {ipaddr : Addr} {s : Ctx} {r : Addr × Ctx}, allocipaddrFrom startip endip fuel ipaddr s = .ok r →
      (endip = BitVec.allOnes 32 → ∀ a < startip, s.g.leases.length ≤ (a - startip).toNat) →
      (startip ≤ ipaddr ∨ endip = BitVec.allOnes 32) → Allocated startip endip s r := by
  intro fuel
  induction fuel with
  | zero =>
    intro ipaddr s r h
    cases h
  | succ fuel ih =>
    intro ipaddr s r h wrapped above
    have goOn : ∀ {k s'}, After s k s.g.leases s' → ipaddr ≤ endip →
        allocipaddrFrom startip endip fuel (ipaddr + 1) s' = .ok r → Allocated startip endip s r := by
      intro k s' after inside rest
      refine (ih rest (by rw [after.leases]; exact wrapped) ?_).later after
      rcases above with lo | all
      · rcases le_succ_or_last lo with lo' | last
        · exact Or.inl lo'
        · subst last
          exact Or.inr (BitVec.allOnes_le_iff.1 inside)
      · exact Or.inr all
    simp only [allocipaddrFrom] at h
    split at h
    · rename_i inside
      obtain ⟨s₁, asked, quiet⟩ := verifyIpv4addrInUsed_after (htonl ipaddr) s
      rw [bind_apply_of_ok asked] at h
      split at h
      · exact goOn quiet inside h
      · split at h
        · exact goOn quiet inside h
        · rename_i ending
          obtain ⟨o, s₂, look, tested⟩ := bind_ok.1 h
          obtain ⟨b, s₃, test, chosen⟩ := bind_ok.1 tested
          cases b with
          | false =>
            obtain ⟨k, after⟩ := running_after look test
            have whole := quiet.trans after
            rw [quiet.leases] at whole
            exact goOn whole inside (by simpa using chosen)
          | true =>
            simp only [if_true] at chosen
            obtain ⟨_, s₄, reserved, done⟩ := bind_ok.1 chosen
            cases done
            by_cases lo : startip ≤ ipaddr
            · have nonzero : ipaddr ≠ 0 := by
                rintro rfl
                exact ending (Or.inl (by decide))
              exact (Allocated.here lo inside nonzero look test reserved).later quiet
            · -- the counter has wrapped around, and the write is outside the table
              have all := above.resolve_left lo
              cases free_outside look test (fun both => lo both.1)
              have room := (reserveSlot_ok reserved).1
              have long := wrapped all ipaddr (by rwa [BitVec.not_le] at lo)
              rw [quiet.leases] at room
              omega
    · cases h
      exact .none (After.refl s)

end ArtikSdk.Dhcp.Server
