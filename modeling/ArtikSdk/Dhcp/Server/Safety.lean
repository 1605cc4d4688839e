import ArtikSdk.Dhcp.Server.Leases

/-!
# DHCP server: the table is accessed inside its bounds

With a pool that does not wrap around, does not end at the last address of all and has
fewer than 2^31 slots, no call faults, and a scan ends within `num_leases` rounds. Each
of the last two conditions is needed: a pool that ends at 255.255.255.255 makes the scan
wrap around and write below the table, and the `int` index of the search by MAC address
overflows in a larger table.
-/

namespace ArtikSdk.Dhcp.Server
open Lib Checked

/-- `startip + num_leases - 1` does not wrap. -/
def NoWrap (srv : Handle) : Prop := srv.endip.toNat + 1 = srv.startip.toNat + srv.numLeases.toNat

/-- The configurations for which every access is in bounds. -/
structure Fits (srv : Handle) : Prop where
  noWrap : NoWrap srv
  notLast : srv.endip ≠ BitVec.allOnes 32
  few : srv.numLeases.toNat < 2 ^ 31

/-- The one stop that is allowed: the scan has not been given enough fuel. -/
def Short (fuel : Nat) (srv : Handle) (e : Fault) : Prop := e = .outOfFuel ∧ fuel ≤ srv.numLeases.toNat

variable {fuel : Nat} {srv : Handle} {s : Ctx}

/-- The index of an address of the pool is an index of the table. -/
theorem inside_pool (noWrap : NoWrap srv) {ipaddr : Addr} (lo : srv.startip ≤ ipaddr) (hi : ipaddr ≤ srv.endip) :
    (ipaddr - srv.startip).toNat < srv.numLeases.toNat := by
  rw [NoWrap] at noWrap
  rw [BitVec.le_def] at lo hi
  rw [BitVec.toNat_sub_of_le lo]
  omega

theorem only_slot {i : Nat} {allowed : Fault → Prop} (bound : i < s.g.leases.length) : Only allowed (slot i) s :=
  only_of_ok (slot_of_some (List.getElem?_eq_getElem bound))

theorem only_setSlot {i : Nat} {l : Lease} {allowed : Fault → Prop} (bound : i < s.g.leases.length) : Only allowed (setSlot i l) s :=
  only_of_ok (setSlot_of_lt l bound)

theorem only_time {allowed : Fault → Prop} : Only allowed dhcpdTime s := only_of_ok (dhcpdTime_apply s)

theorem only_leaseexpired {i : Nat} {allowed : Fault → Prop} (bound : i < s.g.leases.length) :
    Only allowed (dhcpdLeaseexpired i) s := by
  refine (only_slot bound).bind fun l s₁ read => only_time.bind fun now s₂ ticked => ?_
  obtain ⟨-, same⟩ := slot_ok read
  obtain rfl : s₁ = s := same
  rw [dhcpdTime_apply] at ticked
  cases ticked
  split
  · exact only_pure _ _
  · exact (only_setSlot (s := s₁.tick) bound).bind fun _ _ _ => only_pure _ _

theorem findbymacFrom_total {mac : Mac} {leases : List Lease} :
    ∀ {left i : Nat}, i + left ≤ leases.length → i + left < 2 ^ 31 → ∃ o, findbymacFrom mac leases left i = .ok o := by
  intro left
  induction left with
  | zero =>
    intro i _ _
    exact ⟨none, rfl⟩
  | succ left ih =>
    intro i bound small
    have here : i < leases.length := by omega
    rw [findbymacFrom, List.getElem?_eq_getElem here]
    simp only
    split
    · exact ⟨_, rfl⟩
    · rw [if_neg (by omega)]
      exact ih (by omega) (by omega)

theorem only_findbymac {allowed : Fault → Prop} (few : srv.numLeases.toNat < 2 ^ 31) (sized : Sized srv s.g) (mac : Mac) :
    Only allowed (dhcpdFindbymac mac srv.numLeases) s := by
  obtain ⟨o, found⟩ : ∃ o, findbymacFrom mac s.g.leases srv.numLeases.toNat 0 = .ok o :=
    findbymacFrom_total (by rw [sized, Nat.zero_add]) (by omega)
  apply only_of_ok
  rw [dhcpdFindbymac, get_bind_apply, found]
  rfl

theorem only_findbyipaddr {allowed : Fault → Prop} (noWrap : NoWrap srv) (sized : Sized srv s.g) (ipaddr : Addr) :
    Only allowed (dhcpdFindbyipaddr ipaddr srv.startip srv.endip) s := by
  unfold dhcpdFindbyipaddr
  split
  · rename_i inside
    refine (only_slot (by rw [sized]; exact inside_pool noWrap inside.1 inside.2)).bind fun l s₁ read => ?_
    split
    · exact only_pure _ _
    · exact only_pure _ _
  · exact only_pure _ _

theorem only_freeOrExpired {allowed : Fault → Prop} {ipaddr : Addr} {o : Option Nat} {s₁ : Ctx}
    (look : dhcpdFindbyipaddr ipaddr srv.startip srv.endip s = .ok (o, s₁)) : Only allowed (freeOrExpired o) s₁ := by
  obtain ⟨same, ⟨-, -, l, found, ⟨taken, -⟩ | ⟨free, -⟩⟩ | ⟨-, free⟩⟩ := findbyipaddr_ok look
  · obtain rfl : s₁ = s := same
    obtain rfl : o = some _ := taken
    exact only_leaseexpired (List.getElem?_eq_some_iff.1 found).1
  · obtain rfl : o = none := free
    exact only_pure _ _
  · obtain rfl : o = none := free
    exact only_pure _ _

theorem only_verifyreqip {allowed : Fault → Prop} (noWrap : NoWrap srv) (sized : Sized srv s.g) :
    Only allowed (dhcpdVerifyreqip srv) s := by
  refine only_get ?_
  dsimp only
  split
  · exact (only_findbyipaddr noWrap sized _).bind fun o s₁ look => only_freeOrExpired look
  · exact only_pure _ _

theorem only_reserveSlot {i : Nat} {allowed : Fault → Prop} (bound : i < s.g.leases.length) : Only allowed (reserveSlot i) s := by
  refine only_time.bind fun now s₁ ticked => ?_
  rw [dhcpdTime_apply] at ticked
  cases ticked
  exact only_setSlot bound

/-- **The scan.** It stops in bounds, within as many rounds as there are addresses left. -/
theorem only_allocipaddrFrom (noWrap : NoWrap srv) (notLast : srv.endip ≠ BitVec.allOnes 32) :
    ∀ {fuel : Nat} {ipaddr : Addr} {s : Ctx}, Sized srv s.g → srv.startip ≤ ipaddr → ipaddr.toNat ≤ srv.endip.toNat + 1 →
      Only (fun e => e = .outOfFuel ∧ fuel + ipaddr.toNat ≤ srv.endip.toNat + 1)
        (allocipaddrFrom srv.startip srv.endip fuel ipaddr) s := by
  have below : srv.endip.toNat + 1 < 2 ^ 32 := by
    by_contra last
    apply notLast
    apply BitVec.eq_of_toNat_eq
    have := srv.endip.isLt
    rw [BitVec.toNat_allOnes]
    omega
  intro fuel
  induction fuel with
  | zero =>
    intro ipaddr s _ _ hi e stopped
    cases stopped
    exact ⟨rfl, by omega⟩
  | succ fuel ih =>
    intro ipaddr s sized lo hi
    simp only [allocipaddrFrom]
    split
    · rename_i inside
      have next : (ipaddr + 1).toNat = ipaddr.toNat + 1 := by
        have one : (1 : Addr).toNat = 1 := rfl
        rw [BitVec.le_def] at inside
        rw [BitVec.toNat_add, one, Nat.mod_eq_of_lt (by omega)]
      have goOn : ∀ {s'}, Sized srv s'.g → Only (fun e => e = Fault.outOfFuel ∧ fuel + 1 + ipaddr.toNat ≤ srv.endip.toNat + 1)
          (allocipaddrFrom srv.startip srv.endip fuel (ipaddr + 1)) s' := by
        intro s' sized' e stopped
        obtain ⟨rfl, short⟩ := ih sized' (by rw [BitVec.le_def] at *; omega) (by rw [BitVec.le_def] at inside; omega) e stopped
        exact ⟨rfl, by omega⟩
      obtain ⟨s₁, asked, quiet⟩ := verifyIpv4addrInUsed_after (htonl ipaddr) s
      have sized₁ : Sized srv s₁.g := by rw [Sized, quiet.leases, sized]
      refine (only_of_ok asked).bind fun b s₂ same => ?_
      rw [asked] at same
      cases same
      split
      · exact goOn sized₁
      split
      · exact goOn sized₁
      · refine (only_findbyipaddr noWrap sized₁ _).bind fun o s₂ look => (only_freeOrExpired look).bind fun b s₃ test => ?_
        have size : s₃.g.leases.length = s₁.g.leases.length := by
          obtain ⟨l, -, ⟨-, -, after⟩ | ⟨-, -, after⟩ | ⟨-, -, -, after⟩⟩ := free_or_expired look test lo inside
          · exact congrArg List.length after.leases
          · exact (congrArg List.length after.leases).trans (List.length_set ..)
          · exact congrArg List.length after.leases
        split
        · refine (only_reserveSlot ?_).bind fun _ _ _ => only_pure _ _
          rw [size, sized₁]
          exact inside_pool noWrap lo inside
        · exact goOn (size.trans sized₁)
    · exact only_pure _ _

theorem only_allocipaddr (noWrap : NoWrap srv) (notLast : srv.endip ≠ BitVec.allOnes 32) (sized : Sized srv s.g) :
    Only (Short fuel srv) (dhcpdAllocipaddr fuel srv.startip srv.endip) s := by
  intro e stopped
  rw [NoWrap] at noWrap
  obtain ⟨rfl, short⟩ := only_allocipaddrFrom noWrap notLast sized (BitVec.le_refl _) (by omega) e stopped
  exact ⟨rfl, by omega⟩

theorem only_discoverAddress (fits : Fits srv) (sized : Sized srv s.g) : Only (Short fuel srv) (discoverAddress fuel srv) s := by
  refine only_get ((only_findbymac fits.few sized _).bind fun o s₁ search => ?_)
  obtain ⟨same, ⟨i, l, hit, -, found, -⟩ | ⟨missed, -⟩⟩ := findbymac_cases sized search
  · obtain rfl : s₁ = s := same
    obtain rfl : o = some i := hit
    have bound := (List.getElem?_eq_some_iff.1 found).1
    refine (only_leaseexpired bound).bind fun b s₂ test => ?_
    split
    · exact only_pure _ _
    · have size : s₂.g.leases.length = s₁.g.leases.length := by
        obtain ⟨l, -, ⟨-, -, after⟩ | ⟨-, -, after⟩⟩ := leaseexpired_ok test
        · exact congrArg List.length after.leases
        · exact (congrArg List.length after.leases).trans (List.length_set ..)
      exact (only_slot (by omega)).bind fun _ _ _ => only_time.bind fun _ _ _ => only_pure _ _
  · obtain rfl : s₁ = s := same
    obtain rfl : o = none := missed
    refine (only_verifyreqip fits.noWrap sized).bind fun b s₂ test => ?_
    split
    · exact only_pure _ _
    · rename_i no
      rcases verifyreqip_ok test with ⟨yes, -⟩ | ⟨-, k, after⟩
      · exact absurd yes no
      · refine (only_allocipaddr fits.noWrap fits.notLast ?_).bind fun _ _ _ => only_pure _ _
        rw [Sized, after.leases, sized]

theorem only_setlease {allowed : Fault → Prop} (sized : Sized srv s.g) (mac : Mac) (ipaddr : Addr) (expiry : Int) :
    Only allowed (dhcpdSetlease mac ipaddr expiry srv.numLeases srv.startip) s := by
  unfold dhcpdSetlease
  dsimp only
  split
  · rename_i inside
    refine only_time.bind fun now s₁ ticked => ?_
    rw [dhcpdTime_apply] at ticked
    cases ticked
    exact (only_setSlot (s := s.tick) (by rw [tick_g, sized]; exact inside.2)).bind fun _ _ _ => only_pure _ _
  · exact only_pure _ _

theorem only_send {allowed : Fault → Prop} (build : State → State) (bbroadcast : Bool) :
    Only allowed (do modifyState build; dhcpdSendpacket bbroadcast : M Int) s := by
  intro e stopped
  rw [bind_apply_of_ok (modifyState_apply _ _)] at stopped
  unfold dhcpdSendpacket at stopped
  split at stopped <;> cases stopped

/-- Choosing an address keeps the size of the table. -/
theorem Chosen.sized {ipaddr : Addr} {s' : Ctx} (h : Chosen srv s ipaddr s') (sized : Sized srv s.g) : Sized srv s'.g := by
  cases h with
  | none after => rw [Sized, after.leases, sized]
  | slot found small may after wrote =>
    rw [Sized, after.leases, ← sized]
    rcases wrote with same | ⟨-, same⟩ | ⟨-, l', same⟩ <;> rw [same]
    · exact List.length_set ..
    · exact List.length_set ..

/-- Once an address has been chosen, nothing more can fault. -/
theorem only_discover_chosen {allowed : Fault → Prop} {r : (Addr × BitVec 32) × Ctx} (sized : Sized srv s.g)
    (choose : discoverAddress fuel srv s = .ok r) : Only allowed (dhcpdDiscover fuel srv) s := by
  obtain ⟨⟨ipaddr, leasetime⟩, s₁⟩ := r
  have sized₁ : Sized srv s₁.g := (discoverAddress_ok sized choose).sized sized
  intro e stopped
  rw [dhcpdDiscover, bind_apply_of_ok choose] at stopped
  revert e
  dsimp only
  split
  · exact only_pure _ _
  · refine only_get ((only_setlease sized₁ _ _ _).bind fun b s₂ entered => ?_)
    split
    · exact only_send _ _
    · exact only_pure _ _

theorem only_discover (fits : Fits srv) (sized : Sized srv s.g) : Only (Short fuel srv) (dhcpdDiscover fuel srv) s := by
  intro e stopped
  rcases (only_discoverAddress fits sized).returns with ⟨r, choose⟩ | ⟨e', short, failed⟩
  · exact only_discover_chosen sized choose e stopped
  · rw [dhcpdDiscover, bind_apply_of_error failed] at stopped
    cases stopped
    exact short

theorem only_sendack {allowed : Fault → Prop} (sized : Sized srv s.g) (i : Nat) :
    Only allowed (dhcpdSendack srv (dhcpLeaseipaddr i srv.startip)) s := by
  refine only_get ?_
  have reply := ackPacket_reply srv (dhcpLeaseipaddr i srv.startip) (grantedTime s.g.opt) s.g
  dsimp only
  rw [← bind_assoc]
  refine (only_send _ _).bind fun n s₁ sent => ?_
  have sized₁ : Sized srv s₁.g := by
    rcases send_ok reply sent with ⟨-, -, p, -, -, ends, -⟩ | ⟨-, -, ends⟩
    · exact (congrArg List.length ends.leases).trans sized
    · exact (congrArg List.length ends.leases).trans sized
  split
  · exact only_pure _ _
  · exact (only_setlease sized₁ _ _ _).bind fun _ _ _ => only_pure _ _

theorem only_requestResponse {allowed : Fault → Prop} (fits : Fits srv) (sized : Sized srv s.g) :
    Only allowed (requestResponse srv) s := by
  refine only_get ((only_findbymac fits.few sized _).bind fun o s₁ search => ?_)
  obtain ⟨same, -⟩ := findbymac_cases sized search
  obtain rfl : s₁ = s := same
  split
  · exact only_pure _ _
  · dsimp only
    split
    · refine (only_findbyipaddr fits.noWrap sized _).bind fun o s₂ look => ?_
      split
      · rename_i i
        refine (only_freeOrExpired look).bind fun b s₃ test => ?_
        split
        · exact only_pure _ _
        · exact only_pure _ _
      · split
        · exact only_pure _ _
        · exact only_pure _ _
    · exact only_pure _ _

theorem only_request {allowed : Fault → Prop} (fits : Fits srv) (sized : Sized srv s.g) : Only allowed (dhcpdRequest srv) s := by
  refine (only_requestResponse fits sized).bind fun answer s₁ respond => ?_
  have responded := requestResponse_ok sized respond
  obtain ⟨ipaddr, response⟩ := answer
  dsimp only at responded ⊢
  split
  · rename_i isAck
    rcases responded with ⟨i, l, -, -, -, same⟩ | ⟨-, ⟨notAck, -⟩ | ⟨silent, -⟩⟩
    · cases same
      exact (only_sendack sized i).bind fun _ _ _ => only_pure _ _
    · exact absurd isAck notAck
    · rw [silent] at isAck
      cases isAck
  split
  · exact (only_send _ _).bind fun _ _ _ => only_pure _ _
  · exact only_pure _ _

/-- The shape of `dhcpd_decline` and `dhcpd_release`: what is done with the slot of the client. -/
theorem only_own {allowed : Fault → Prop} (fits : Fits srv) (sized : Sized srv s.g) {act : Nat → M Int}
    (fine : ∀ i, i < s.g.leases.length → Only allowed (act i) s) :
    Only allowed (do
      let s ← get
      match ← dhcpdFindbymac s.g.client srv.numLeases with
      | some i => act i
      | none => return 0) s := by
  refine only_get ((only_findbymac fits.few sized _).bind fun o s₁ search => ?_)
  obtain ⟨same, ⟨i, l, hit, -, found, -⟩ | ⟨missed, -⟩⟩ := findbymac_cases sized search
  · obtain rfl : s₁ = s := same
    obtain rfl : o = some i := hit
    exact fine i (List.getElem?_eq_some_iff.1 found).1
  · obtain rfl : o = none := missed
    exact only_pure _ _

theorem only_decline {allowed : Fault → Prop} (fits : Fits srv) (sized : Sized srv s.g) : Only allowed (dhcpdDecline srv) s := by
  refine only_own fits sized fun i bound => (only_slot bound).bind fun l s₁ read => only_time.bind fun now s₂ ticked => ?_
  obtain ⟨-, same⟩ := slot_ok read
  obtain rfl : s₁ = s := same
  rw [dhcpdTime_apply] at ticked
  cases ticked
  exact (only_setSlot (s := s₁.tick) bound).bind fun _ _ _ => only_pure _ _

theorem only_release {allowed : Fault → Prop} (fits : Fits srv) (sized : Sized srv s.g) : Only allowed (dhcpdRelease srv) s :=
  only_own fits sized fun _ bound => (only_setSlot bound).bind fun _ _ _ => only_pure _ _

theorem only_dispatch (fits : Fits srv) (sized : Sized srv s.g) : Only (Short fuel srv) (dispatch fuel srv) s := by
  refine only_get ?_
  dsimp only
  split
  · exact only_discover fits sized
  split
  · exact only_request fits sized
  split
  · exact only_decline fits sized
  split
  · exact only_release fits sized
  · exact only_pure _ _

/-- **A call never leaves the table.** -/
theorem loopHandler_only {w : World} {g : State} {e : Fault} (fits : Fits srv) (sized : Sized srv g)
    (stopped : loopHandler fuel srv w g = .error e) : Short fuel srv e := by
  rw [loopHandler_eq] at stopped
  split at stopped
  · cases stopped
  · rename_i e' result
    cases stopped
    exact only_dispatch fits (by rw [Sized, Ctx.start, parsed_leases, sized]) e result

/-- With enough fuel every call answers. -/
theorem loopHandler_total {w : World} {g : State} (fits : Fits srv) (sized : Sized srv g) (enough : srv.numLeases.toNat < fuel) :
    ∃ r, loopHandler fuel srv w g = .ok r := by
  cases result : loopHandler fuel srv w g with
  | ok r => exact ⟨r, rfl⟩
  | error e =>
    have := (loopHandler_only fits sized result).2
    omega

/-! ## The configurations that do not fit -/

/-- A search that meets only other clients overflows its index. -/
theorem findbymacFrom_overflow {mac : Mac} {leases : List Lease}
    (others : ∀ k < 2 ^ 31, ∃ l, leases[k]? = some l ∧ l.mac ≠ mac) :
    ∀ {left i : Nat}, i < 2 ^ 31 → 2 ^ 31 ≤ i + left → findbymacFrom mac leases left i = .error .overflow := by
  intro left
  induction left with
  | zero =>
    intro i small large
    omega
  | succ left ih =>
    intro i small large
    obtain ⟨l, found, other⟩ := others i small
    rw [findbymacFrom, found]
    simp only
    rw [if_neg other]
    split
    · rfl
    · exact ih (by omega) (by omega)

theorem boot_zero {serverip : Addr} {i : Nat} {l : Lease} (found : (State.boot srv serverip).leases[i]? = some l) : l = Lease.zero :=
  List.eq_of_mem_replicate (List.mem_of_getElem? found)

theorem dispatch_stopped {e : Fault} (type : s.g.opt.msgtype = MsgType.discover)
    (stopped : discoverAddress fuel srv s = .error e) : dispatch fuel srv s = .error e := by
  rw [dispatch, get_bind_apply]
  simp only [type, if_true]
  exact bind_apply_of_error stopped

/-- A DISCOVER to a server whose table is too large for an `int` index. -/
theorem overflow_of_large (large : 2 ^ 31 ≤ srv.numLeases.toNat) (serverip : Addr) :
    loopHandler fuel srv (receives 0 firstMac discoverOptions) (State.boot srv serverip) = .error .overflow := by
  obtain ⟨opt, client⟩ := parsed_discover 0 (State.boot srv serverip) (receives 0 firstMac discoverOptions) rfl
  have overflow : findbymacFrom firstMac (State.boot srv serverip).leases srv.numLeases.toNat 0 = .error .overflow := by
    refine findbymacFrom_overflow (fun k small => ⟨Lease.zero, ?_, by decide⟩) (by decide) (by omega)
    rw [State.boot, List.getElem?_replicate, if_pos (by omega)]
  rw [loopHandler_eq, dispatch_stopped (e := .overflow)]
  · rw [Ctx.start, opt]
  · rw [discoverAddress, get_bind_apply]
    apply bind_apply_of_error
    rw [dhcpdFindbymac, get_bind_apply, Ctx.start, client, parsed_leases, overflow]
    rfl

theorem le_last (a : Addr) : a ≤ BitVec.allOnes 32 := by
  have := a.isLt
  rw [BitVec.le_def, BitVec.toNat_allOnes]
  omega

/-- As long as every address answers the ping, the scan moves on, past the last address
of all. -/
theorem alloc_skip {startip : Addr} {n : Nat} :
    ∀ {ipaddr : Addr} {s : Ctx}, (∀ k < n, ∀ a, s.inUsed k a = true) →
      allocipaddrFrom startip (BitVec.allOnes 32) (fuel + n) ipaddr s =
        allocipaddrFrom startip (BitVec.allOnes 32) fuel (ipaddr + BitVec.ofNat 32 n) { s with inUsed := fun k => s.inUsed (k + n) } := by
  induction n with
  | zero =>
    intro ipaddr s _
    simp
  | succ n ih =>
    intro ipaddr s used
    have step : allocipaddrFrom startip (BitVec.allOnes 32) (fuel + (n + 1)) ipaddr s =
        allocipaddrFrom startip (BitVec.allOnes 32) (fuel + n) (ipaddr + 1) { s with inUsed := fun k => s.inUsed (k + 1) } := by
      have pinged : verifyIpv4addrInUsed (htonl ipaddr) s = .ok (true, { s with inUsed := fun k => s.inUsed (k + 1) }) := by
        rw [verifyIpv4addrInUsed, used 0 (Nat.succ_pos n)]
      rw [← Nat.add_assoc, allocipaddrFrom, if_pos (le_last ipaddr), bind_apply_of_ok pinged, if_pos rfl]
    have next : ipaddr + 1 + BitVec.ofNat 32 n = ipaddr + BitVec.ofNat 32 (n + 1) := by
      rw [Nat.add_comm n 1, BitVec.ofNat_add, BitVec.add_assoc]
      rfl
    rw [step, ih fun k small a => used (k + 1) (by omega) a, next]
    rfl

/-- Past the last address the scan goes on below the pool: it skips 0.0.0.0, finds no slot
for 0.0.0.1, and reserves the slot at that distance from the first one. -/
theorem alloc_wrapped (fuel : Nat) {startip : Addr} (high : 1 < startip) (free : ∀ k a, s.inUsed k a = false)
    (outside : s.g.leases.length ≤ (1 - startip).toNat) :
    allocipaddrFrom startip (BitVec.allOnes 32) (fuel + 2) 0 s = .error .outOfBounds := by
  have ping (a : Addr) (t : Ctx) (free : ∀ k a, t.inUsed k a = false) :
      verifyIpv4addrInUsed a t = .ok (false, { t with inUsed := fun k => t.inUsed (k + 1) }) := by
    rw [verifyIpv4addrInUsed, free]
  have below : ¬(startip ≤ 1 ∧ 1 ≤ BitVec.allOnes 32) := by
    rintro ⟨le, -⟩
    exact absurd high (BitVec.not_lt.2 le)
  rw [allocipaddrFrom, if_pos (le_last 0), bind_apply_of_ok (ping _ _ free)]
  simp only [Bool.false_eq_true, if_false]
  have one : (0 : Addr) + 1 = 1 := by decide
  have pingNext := ping (htonl 1) { s with inUsed := fun k => s.inUsed (k + 1) } fun k a => free (k + 1) a
  rw [if_pos (Or.inl (by decide)), one, allocipaddrFrom, if_pos (le_last 1), bind_apply_of_ok pingNext]
  simp only [Bool.false_eq_true, if_false]
  rw [if_neg (by decide), dhcpdFindbyipaddr, if_neg below, pure_bind_apply, freeOrExpired, pure_bind_apply, if_pos rfl]
  apply bind_apply_of_error
  rw [reserveSlot, bind_apply_of_ok (dhcpdTime_apply _), setSlot, if_neg]
  rw [tick_g]
  exact not_lt.2 outside

/-- In a fresh table no client is found. -/
theorem search_missed {serverip : Addr} (few : srv.numLeases.toNat < 2 ^ 31) (stranger : s.g.client ≠ Mac.zero)
    (table : s.g.leases = (State.boot srv serverip).leases) : dhcpdFindbymac s.g.client srv.numLeases s = .ok (none, s) := by
  have sized : Sized srv s.g := by rw [Sized, table, boot_sized]
  have total : Only (fun _ => False) (dhcpdFindbymac s.g.client srv.numLeases) s := only_findbymac few sized s.g.client
  obtain ⟨r, result⟩ | ⟨e, no, -⟩ := total.returns
  · obtain ⟨same, ⟨i, l, -, -, found, mac⟩ | ⟨missed, -⟩⟩ := findbymac_cases sized result
    · rw [table] at found
      rw [boot_zero found] at mac
      exact absurd mac.symm stranger
    · rw [result, ← missed, ← same]
  · exact no.elim

/-- A DISCOVER to a server whose pool ends at the last address of all, while every address
of the pool is in use. -/
theorem outOfBounds_of_last (noWrap : NoWrap srv) (last : srv.endip = BitVec.allOnes 32) (few : srv.numLeases.toNat < 2 ^ 31)
    (serverip : Addr) :
    loopHandler (2 + srv.numLeases.toNat) srv
      { receives 0 firstMac discoverOptions with inUsed := fun k _ => decide (k < srv.numLeases.toNat) }
      (State.boot srv serverip) = .error .outOfBounds := by
  generalize world : { receives 0 firstMac discoverOptions with inUsed := fun k _ => decide (k < srv.numLeases.toNat) } = w
  obtain ⟨opt, client⟩ := parsed_discover 0 (State.boot srv serverip) w (by rw [← world])
  rw [NoWrap, last, BitVec.toNat_allOnes] at noWrap
  have one : (1 : Addr).toNat = 1 := rfl
  have high : (1 : Addr) < srv.startip := by
    rw [BitVec.lt_def, one]
    omega
  have missed : dhcpdFindbymac (Ctx.start (parsed w (State.boot srv serverip)).2 w).g.client srv.numLeases _ = .ok (none, _) :=
    search_missed few (by rw [Ctx.start, client]; decide) (parsed_leases w (State.boot srv serverip))
  have unasked : dhcpdVerifyreqip srv (Ctx.start (parsed w (State.boot srv serverip)).2 w) =
      .ok (false, Ctx.start (parsed w (State.boot srv serverip)).2 w) := by
    rw [dhcpdVerifyreqip, get_bind_apply]
    simp only [Ctx.start, opt]
    rw [if_neg]
    · rfl
    · rintro ⟨le, -⟩
      have zero : (0 : Addr).toNat = 0 := rfl
      rw [BitVec.le_def, zero] at le
      rw [BitVec.lt_def, one] at high
      omega
  rw [loopHandler_eq, dispatch_stopped (e := .outOfBounds)]
  · rw [Ctx.start, opt]
  · rw [discoverAddress, get_bind_apply, bind_apply_of_ok missed]
    simp only
    rw [bind_apply_of_ok unasked, if_neg Bool.false_ne_true]
    apply bind_apply_of_error
    rw [dhcpdAllocipaddr, last, alloc_skip]
    · have wrap : srv.startip + BitVec.ofNat 32 srv.numLeases.toNat = 0 := by
        apply BitVec.eq_of_toNat_eq
        rw [BitVec.toNat_add, BitVec.toNat_ofNat, Nat.mod_eq_of_lt srv.numLeases.isLt]
        have : srv.startip.toNat + srv.numLeases.toNat = 2 ^ 32 := by omega
        rw [this]
        rfl
      rw [wrap]
      apply alloc_wrapped 0 high
      · intro k a
        simp [Ctx.start, ← world]
      · simp only [Ctx.start, parsed_leases, State.boot, List.length_replicate]
        rw [BitVec.toNat_sub, one]
        omega
    · intro k small a
      simpa [Ctx.start, ← world] using small

/-! ## The invariant of the table -/

/-- In every run the table stays valid, and no call accesses it outside its bounds. -/
def TableSafe (srv : Handle) : Prop :=
  ∀ fuel serverip cs g, Run (loopHandler fuel srv) (State.boot srv serverip) cs g →
    Valid g.leases ∧ ∀ w e, loopHandler fuel srv w g = .error e → e = .outOfFuel

theorem Fits.tableSafe (fits : Fits srv) : TableSafe srv := by
  intro fuel serverip cs g run
  have inv : Inv srv g := run.invariant (boot_inv srv serverip) fun e t t' o inv answered => loopHandler_inv inv answered
  exact ⟨inv.valid, fun w e stopped => (loopHandler_only fits inv.sized stopped).1⟩

/-- **The table invariant** holds for exactly the configurations whose pool does not end
at 255.255.255.255 and whose table an `int` can index. -/
theorem tableSafe_iff (noWrap : NoWrap srv) : TableSafe srv ↔ srv.endip ≠ BitVec.allOnes 32 ∧ srv.numLeases.toNat < 2 ^ 31 := by
  constructor
  · intro safe
    have few : srv.numLeases.toNat < 2 ^ 31 := by
      by_contra large
      have := (safe 0 0 [] _ (.nil _)).2 _ _ (overflow_of_large (by omega) 0)
      cases this
    refine ⟨fun last => ?_, few⟩
    have := (safe _ 0 [] _ (.nil _)).2 _ _ (outOfBounds_of_last noWrap last few 0)
    cases this
  · rintro ⟨notLast, few⟩
    exact Fits.tableSafe ⟨noWrap, notLast, few⟩

/-- A pool of six addresses from 255.255.255.250 on. -/
def lastAddresses : Handle :=
  ⟨6, 0xfffffffa, 0xffffffff, 0x00ffffff, 0x0101a8c0, [0, 0], by decide, rfl⟩

theorem tableSafe_iff_oneAddress :
    TableSafe oneAddress ↔ oneAddress.endip ≠ BitVec.allOnes 32 ∧ oneAddress.numLeases.toNat < 2 ^ 31 :=
  tableSafe_iff (by unfold NoWrap; decide)

/-- With every address of such a pool in use, a DISCOVER is answered outside the table. -/
theorem lastAddresses_not_safe : ¬ TableSafe lastAddresses := by
  intro safe
  have noWrap : NoWrap lastAddresses := by
    unfold NoWrap
    decide
  have stopped := outOfBounds_of_last noWrap (by decide) (by decide) 0
  have := (safe _ 0 [] _ (.nil _)).2 _ _ stopped
  cases this

end ArtikSdk.Dhcp.Server
