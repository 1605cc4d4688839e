import ArtikSdk.Dhcp.Server.Safety

/-!
# DHCP server: the addresses it offers

A client that is not in the table gets the address it asks for, or one found by the scan.
The scan passes over addresses that end in .0 or .255 and those that answer a ping; the
test of a requested address looks at its slot only. `new_offers_iff` says for which
DISCOVERs the rules of the pool are kept nevertheless.
-/

namespace ArtikSdk.Dhcp.Server
open Lib Checked

/-- The address ends in .0 or .255. -/
def Edge (a : Addr) : Prop := a &&& 0xff = 0 ∨ a &&& 0xff = 0xff

/-- `verify_ipv4addr_in_used` reports the address, when its turn in the scan comes. -/
def Reported (srv : Handle) (s : Ctx) (a : Addr) : Prop := s.inUsed (a - srv.startip).toNat (htonl a) = true

/-- The slot of the address is unallocated, or its lease has expired at some reading. -/
def Free (srv : Handle) (s : Ctx) (a : Addr) : Prop :=
  ∃ l, s.g.leases[(a - srv.startip).toNat]? = some l ∧ (l.allocated = false ∨ ∃ j, l.expiry ≤ s.clock j)

/-- The slot of the address is allocated, to another MAC address, and at some reading its
lease has not expired. -/
def Held (srv : Handle) (s : Ctx) (a : Addr) : Prop :=
  ∃ l, s.g.leases[(a - srv.startip).toNat]? = some l ∧ l.allocated = true ∧ l.mac ≠ s.g.client ∧ ∃ j, s.clock j < l.expiry

/-- The address may be offered to a client that has none. -/
structure Eligible (srv : Handle) (s : Ctx) (a : Addr) : Prop where
  low : srv.startip ≤ a
  high : a ≤ srv.endip
  notEdge : ¬ Edge a
  quiet : ¬ Reported srv s a
  free : Free srv s a

/-- No address of the pool may be offered. -/
def Exhausted (srv : Handle) (s : Ctx) : Prop :=
  ∀ a, srv.startip ≤ a → a ≤ srv.endip → Edge a ∨ Reported srv s a ∨ Held srv s a

/-- What is offered may be offered; and where nothing is, although it could be sent, the
pool is exhausted. -/
def KeepsRules (srv : Handle) (s : Ctx) (ps : List Sent) : Prop :=
  (∀ p ∈ ps, ∀ a, yiaddrOf p.bytes = htonl a → Eligible srv s a) ∧ (s.sendto = true → ps = [] → Exhausted srv s)

/-- The test of the requested address lets it through. -/
def Admitted (srv : Handle) (s : Ctx) : Prop :=
  srv.startip ≤ s.g.opt.reqip ∧ s.g.opt.reqip ≤ srv.endip ∧
    ∃ l, s.g.leases[(s.g.opt.reqip - srv.startip).toNat]? = some l ∧ (l.allocated = false ∨ l.expiry ≤ s.clock 0)

/-- The requested address, where it is let through, keeps the rules. In a pool that starts
at 0.0.0.0 a client that requests nothing requests its first address, which is never
offered. -/
def SoundRequest (srv : Handle) (s : Ctx) : Prop :=
  s.sendto = true → Admitted srv s →
    s.g.opt.reqip ≠ 0 ∧ ¬ Edge s.g.opt.reqip ∧ ¬ Reported srv s s.g.opt.reqip ∨ s.g.opt.reqip = 0 ∧ Exhausted srv s

/-! ## The scan -/

theorem leaseexpired_inUsed {i : Nat} {s : Ctx} {r : Bool × Ctx} (h : dhcpdLeaseexpired i s = .ok r) : r.2.inUsed = s.inUsed := by
  obtain ⟨l, s₁, read, rest⟩ := bind_ok.1 h
  obtain ⟨-, same⟩ := slot_ok read
  obtain rfl : s₁ = s := same
  rw [bind_apply_of_ok (dhcpdTime_apply _)] at rest
  split at rest
  · cases rest
    rfl
  · obtain ⟨_, s₂, wrote, done⟩ := bind_ok.1 rest
    obtain ⟨-, same⟩ := setSlot_ok wrote
    cases done
    rw [show s₂ = _ from same]
    rfl

theorem freeOrExpired_inUsed {ipaddr startip endip : Addr} {s s₁ : Ctx} {o : Option Nat} {r : Bool × Ctx}
    (look : dhcpdFindbyipaddr ipaddr startip endip s = .ok (o, s₁)) (test : freeOrExpired o s₁ = .ok r) :
    r.2.inUsed = s.inUsed := by
  obtain ⟨same, -⟩ := findbyipaddr_ok look
  obtain rfl : s₁ = s := same
  cases o with
  | none =>
    cases test
    rfl
  | some i => exact leaseexpired_inUsed test

/-- What a scan from `ipaddr` on finds; an address is asked about when its turn comes. -/
structure Scanned (startip endip ipaddr : Addr) (s : Ctx) (a : Addr) : Prop where
  hit : a ≠ 0 → ipaddr ≤ a ∧ ¬ Edge a ∧ s.inUsed (a - ipaddr).toNat (htonl a) = false
  miss : a = 0 → ∀ b, ipaddr ≤ b → b ≤ endip →
    Edge b ∨ s.inUsed (b - ipaddr).toNat (htonl b) = true ∨
      ∃ l, s.g.leases[(b - startip).toNat]? = some l ∧ l.allocated = true ∧ ∃ j, s.clock j < l.expiry

/-- The turn of a later address. -/
theorem turn_succ {ipaddr a : Addr} (notLast : ipaddr ≠ BitVec.allOnes 32) (later : ipaddr + 1 ≤ a) :
    (a - ipaddr).toNat = (a - (ipaddr + 1)).toNat + 1 ∧ ipaddr ≤ a := by
  have one : (1 : Addr).toNat = 1 := rfl
  have notAll : ipaddr.toNat ≠ 2 ^ 32 - 1 := by
    intro all
    exact notLast (BitVec.eq_of_toNat_eq (by rw [all, BitVec.toNat_allOnes]))
  have := ipaddr.isLt
  have := a.isLt
  rw [BitVec.le_def, BitVec.toNat_add, one] at later
  rw [BitVec.le_def, BitVec.toNat_sub, BitVec.toNat_sub, BitVec.toNat_add, one]
  omega

theorem le_cases {ipaddr b : Addr} (le : ipaddr ≤ b) : b = ipaddr ∨ ipaddr ≠ BitVec.allOnes 32 ∧ ipaddr + 1 ≤ b := by
  have one : (1 : Addr).toNat = 1 := rfl
  by_cases same : b = ipaddr
  · exact Or.inl same
  · have differ : b.toNat ≠ ipaddr.toNat := fun eq => same (BitVec.eq_of_toNat_eq eq)
    have := b.isLt
    rw [BitVec.le_def] at le
    refine Or.inr ⟨?_, ?_⟩
    · rintro rfl
      rw [BitVec.toNat_allOnes] at le differ
      omega
    · rw [BitVec.le_def, BitVec.toNat_add, one]
      omega

/-- An address that is passed over, and the rest of the scan. -/
theorem Scanned.next {startip endip ipaddr a : Addr} {s s' : Ctx} {k : Nat} (notLast : endip ≠ BitVec.allOnes 32) (inside : ipaddr ≤ endip)
    (after : After s k s.g.leases s') (asked : ∀ j, s'.inUsed j = s.inUsed (j + 1))
    (here : Edge ipaddr ∨ s.inUsed 0 (htonl ipaddr) = true ∨
      ∃ l, s.g.leases[(ipaddr - startip).toNat]? = some l ∧ l.allocated = true ∧ ∃ j, s.clock j < l.expiry)
    (rest : Scanned startip endip (ipaddr + 1) s' a) : Scanned startip endip ipaddr s a := by
  have notAll : ipaddr ≠ BitVec.allOnes 32 := by
    rintro rfl
    exact notLast (BitVec.allOnes_le_iff.1 inside)
  constructor
  · intro nonzero
    obtain ⟨later, notEdge, quiet⟩ := rest.hit nonzero
    obtain ⟨turn, le⟩ := turn_succ notAll later
    rw [asked, ← turn] at quiet
    exact ⟨le, notEdge, quiet⟩
  · intro zero b le high
    obtain rfl | ⟨-, later⟩ := le_cases le
    · rw [BitVec.sub_self]
      exact here
    · obtain ⟨turn, -⟩ := turn_succ notAll later
      have passed := rest.miss zero b later high
      rw [asked, ← turn, after.leases] at passed
      obtain edge | used | ⟨l, found, allocated, j, running⟩ := passed
      · exact Or.inl edge
      · exact Or.inr (Or.inl used)
      · rw [after.clock] at running
        exact Or.inr (Or.inr ⟨l, found, allocated, k + j, running⟩)

theorem allocipaddrFrom_scanned {startip endip : Addr} (notLast : endip ≠ BitVec.allOnes 32) :
    ∀ {fuel : Nat} {ipaddr : Addr} {s : Ctx} {r : Addr × Ctx}, allocipaddrFrom startip endip fuel ipaddr s = .ok r →
      startip ≤ ipaddr → Scanned startip endip ipaddr s r.1 := by
  intro fuel
  induction fuel with
  | zero =>
    intro ipaddr s r h
    cases h
  | succ fuel ih =>
    intro ipaddr s r h above
    rw [allocipaddrFrom] at h
    by_cases inside : ipaddr ≤ endip
    · rw [if_pos inside] at h
      have above' : startip ≤ ipaddr + 1 := by
        obtain up | last := le_succ_or_last above
        · exact up
        · subst last
          exact absurd (BitVec.allOnes_le_iff.1 inside) notLast
      obtain ⟨b, s₁, ask, rest⟩ := bind_ok.1 h
      cases ask
      have quiet : After s 0 s.g.leases { s with inUsed := fun k => s.inUsed (k + 1) } :=
        ⟨rfl, fun j => by rw [Nat.zero_add], rfl, rfl⟩
      by_cases used : s.inUsed 0 (htonl ipaddr) = true
      · rw [if_pos used] at rest
        exact (ih rest above').next notLast inside quiet (fun _ => rfl) (Or.inr (Or.inl used))
      rw [if_neg used] at rest
      by_cases edge : ipaddr &&& 0xff = 0 ∨ ipaddr &&& 0xff = 0xff
      · rw [if_pos edge] at rest
        exact (ih rest above').next notLast inside quiet (fun _ => rfl) (Or.inl edge)
      rw [if_neg edge] at rest
      obtain ⟨o, s₂, look, tested⟩ := bind_ok.1 rest
      obtain ⟨free, s₃, test, chosen⟩ := bind_ok.1 tested
      obtain ⟨l, found, ways⟩ := free_or_expired look test above inside
      have asked := freeOrExpired_inUsed look test
      cases free with
      | true =>
        simp only [if_true] at chosen
        obtain ⟨_, s₄, -, done⟩ := bind_ok.1 chosen
        cases done
        refine ⟨fun _ => ⟨BitVec.le_refl _, edge, ?_⟩, fun zero => ?_⟩
        · rw [BitVec.sub_self]
          simpa using used
        · rw [show ipaddr = 0 from zero] at edge
          exact absurd (Or.inl (by decide)) edge
      | false =>
        rw [if_neg (by decide)] at chosen
        obtain ⟨yes, -⟩ | ⟨yes, -⟩ | ⟨-, allocated, running, after⟩ := ways
        · cases yes
        · cases yes
        · have whole := quiet.trans after
          exact (ih chosen above').next notLast inside whole (fun j => congrFun asked j)
            (Or.inr (Or.inr ⟨l, found, allocated, 0, running⟩))
    · rw [if_neg inside] at h
      cases h
      refine ⟨fun nonzero => absurd rfl nonzero, fun _ b le high => ?_⟩
      exact absurd (BitVec.le_trans le high) inside

/-! ## One DISCOVER -/

variable {fuel : Nat} {srv : Handle} {s s₁ : Ctx} {ipaddr : Addr} {leasetime : BitVec 32}

/-- The test of the requested address. -/
theorem verifyreqip_admitted {r : Bool × Ctx} (h : dhcpdVerifyreqip srv s = .ok r) :
    (r.1 = true ↔ Admitted srv s) ∧ r.2.inUsed = s.inUsed := by
  rw [dhcpdVerifyreqip, get_bind_apply] at h
  by_cases inside : srv.startip ≤ s.g.opt.reqip ∧ s.g.opt.reqip ≤ srv.endip
  · rw [if_pos inside] at h
    obtain ⟨o, s₁, look, test⟩ := bind_ok.1 h
    obtain ⟨l, found, ways⟩ := free_or_expired look test inside.1 inside.2
    refine ⟨?_, freeOrExpired_inUsed look test⟩
    obtain ⟨yes, free, -⟩ | ⟨yes, passed, -⟩ | ⟨no, allocated, running, -⟩ := ways
    · exact iff_of_true yes ⟨inside.1, inside.2, l, found, Or.inl free⟩
    · exact iff_of_true yes ⟨inside.1, inside.2, l, found, Or.inr passed⟩
    · refine iff_of_false (by rw [no]; decide) ?_
      rintro ⟨-, -, l', found', free | passed⟩
      · rw [found] at found'
        cases found'
        rw [allocated] at free
        cases free
      · rw [found] at found'
        cases found'
        omega
  · rw [if_neg inside] at h
    cases h
    refine ⟨iff_of_false Bool.false_ne_true ?_, rfl⟩
    rintro ⟨low, high, -⟩
    exact inside ⟨low, high⟩

/-- The address a client outside the table gets: the one it asks for, or one that the
scan finds. -/
theorem discoverAddress_new (notLast : srv.endip ≠ BitVec.allOnes 32) (sized : Sized srv s.g) (unknown : Unknown s.g)
    (h : discoverAddress fuel srv s = .ok ((ipaddr, leasetime), s₁)) :
    Admitted srv s ∧ ipaddr = s.g.opt.reqip ∨
      ¬ Admitted srv s ∧ Scanned srv.startip srv.endip srv.startip s ipaddr ∧ (ipaddr ≠ 0 → ipaddr ≤ srv.endip ∧ Free srv s ipaddr) := by
  rw [discoverAddress, get_bind_apply] at h
  obtain ⟨o, s₂, search, branch⟩ := bind_ok.1 h
  obtain ⟨same, ⟨i, l, -, -, found, mac⟩ | ⟨missed, -⟩⟩ := findbymac_cases sized search
  · exact absurd mac (unknown i l found)
  obtain rfl : s₂ = s := same
  obtain rfl : o = none := missed
  obtain ⟨b, s₃, test, fresh⟩ := bind_ok.1 branch
  obtain ⟨admitted, asked⟩ := verifyreqip_admitted test
  cases b with
  | true =>
    simp only [if_true] at fresh
    cases fresh
    exact Or.inl ⟨admitted.1 rfl, rfl⟩
  | false =>
    simp only [Bool.false_eq_true, if_false] at fresh
    obtain ⟨a, s₄, alloc, done⟩ := bind_ok.1 fresh
    cases done
    obtain ⟨yes, -⟩ | ⟨-, k, after⟩ := verifyreqip_ok test
    · cases yes
    have scanned := allocipaddrFrom_scanned notLast alloc (BitVec.le_refl _)
    have allocated := (allocipaddrFrom_ok alloc (fun all => absurd all notLast) (Or.inl (BitVec.le_refl _))).later after
    refine Or.inr ⟨fun yes => absurd (admitted.2 yes) Bool.false_ne_true, ⟨fun nonzero => ?_, fun zero b low high => ?_⟩, fun nonzero => ?_⟩
    · obtain ⟨low, notEdge, quiet⟩ := scanned.hit nonzero
      rw [asked] at quiet
      exact ⟨low, notEdge, quiet⟩
    · have passed := scanned.miss zero b low high
      rw [asked, after.leases] at passed
      obtain edge | used | ⟨l, found, taken, j, running⟩ := passed
      · exact Or.inl edge
      · exact Or.inr (Or.inl used)
      · rw [after.clock] at running
        exact Or.inr (Or.inr ⟨l, found, taken, k + j, running⟩)
    · cases allocated with
      | none => exact absurd rfl nonzero
      | some low high nonzero found free after =>
        refine ⟨high, _, found, ?_⟩
        obtain free | ⟨j, -, passed⟩ := free
        · exact Or.inl free
        · exact Or.inr ⟨j, passed⟩

/-- The address that is found is offered, where `sendto` works. -/
theorem discover_sent {r : Int × Ctx} (sized : Sized srv s.g) (choose : discoverAddress fuel srv s = .ok ((ipaddr, leasetime), s₁))
    (h : dhcpdDiscover fuel srv s = .ok r) :
    ipaddr = 0 ∧ r.2.sent = s.sent ∨
      ipaddr ≠ 0 ∧ (s.sendto = true ∧ (∃ p, r.2.sent = s.sent ++ [p] ∧ yiaddrOf p.bytes = htonl ipaddr) ∨
        s.sendto = false ∧ r.2.sent = s.sent) := by
  have chosen := discoverAddress_ok sized choose
  rw [dhcpdDiscover, bind_apply_of_ok choose] at h
  dsimp only at h chosen
  generalize address : ipaddr = addr at chosen
  cases chosen with
  | none after =>
    rw [if_pos address] at h
    cases h
    exact Or.inl ⟨rfl, after.sent⟩
  | @slot i k l T _ found small may after wrote =>
    by_cases zero : ipaddr = 0
    · rw [if_pos zero] at h
      cases h
      exact Or.inl ⟨address ▸ zero, after.sent⟩
    rw [if_neg zero, get_bind_apply] at h
    obtain ⟨b, s₂, entered, offered⟩ := bind_ok.1 h
    subst address
    obtain ⟨yes, lease⟩ := setlease_slot small (index_lt sized found) entered
    obtain rfl : b = true := yes
    simp only [if_true] at offered
    have reply := offerPacket_reply srv (dhcpLeaseipaddr i srv.startip) (dhcpdVerifyreqleasetime s₁.g.opt leasetime).2 s₂.g
    have sendto : s₂.sendto = s.sendto := lease.sendto.trans after.sendto
    have sent : s₂.sent = s.sent := lease.sent.trans after.sent
    refine Or.inr ⟨zero, ?_⟩
    obtain ⟨can, -, p, carried, -, ends, -⟩ | ⟨cannot, -, ends⟩ := send_ok reply offered
    · exact Or.inl ⟨sendto ▸ can, p, by rw [ends.sent, sent], carried.yiaddrOf⟩
    · exact Or.inr ⟨sendto ▸ cannot, by rw [ends.sent, sent, List.append_nil]⟩

theorem discover_rules {r : Int × Ctx} (notLast : srv.endip ≠ BitVec.allOnes 32) (sized : Sized srv s.g) (unknown : Unknown s.g)
    (fresh : s.sent = []) (h : dhcpdDiscover fuel srv s = .ok r) : KeepsRules srv s r.2.sent ↔ SoundRequest srv s := by
  obtain ⟨⟨ipaddr, leasetime⟩, s₁, choose, -⟩ := bind_ok.1 h
  have sent := discover_sent sized choose h
  simp only [fresh, List.nil_append] at sent
  have held : ∀ a, (∃ l, s.g.leases[(a - srv.startip).toNat]? = some l ∧ l.allocated = true ∧ ∃ j, s.clock j < l.expiry) →
      Held srv s a := by
    rintro a ⟨l, found, taken, running⟩
    exact ⟨l, found, taken, unknown _ l found, running⟩
  -- what the two parts of the rules say about the packets sent
  have silent : r.2.sent = [] → (KeepsRules srv s r.2.sent ↔ (s.sendto = true → Exhausted srv s)) := by
    intro none
    rw [KeepsRules, none]
    exact ⟨fun rules can => rules.2 can rfl, fun all => ⟨fun _ member => absurd member List.not_mem_nil, fun can _ => all can⟩⟩
  have one : ∀ p, r.2.sent = [p] → yiaddrOf p.bytes = htonl ipaddr → (KeepsRules srv s r.2.sent ↔ Eligible srv s ipaddr) := by
    intro p only address
    rw [KeepsRules, only]
    refine ⟨fun rules => rules.1 p (List.mem_singleton.2 rfl) ipaddr address, fun eligible => ⟨fun q member a same => ?_, fun _ no => ?_⟩⟩
    · rw [List.mem_singleton.1 member, address] at same
      rw [← Mem.swap_injective same]
      exact eligible
    · cases no
  obtain ⟨admitted, requested⟩ | ⟨notAdmitted, scanned, inside⟩ := discoverAddress_new notLast sized unknown choose
  · -- the requested address is offered as it is
    have free : Free srv s s.g.opt.reqip := by
      obtain ⟨-, -, l, found, free | passed⟩ := admitted
      · exact ⟨l, found, Or.inl free⟩
      · exact ⟨l, found, Or.inr ⟨0, passed⟩⟩
    obtain ⟨zero, none⟩ | ⟨nonzero, ⟨can, p, only, address⟩ | ⟨cannot, none⟩⟩ := sent
    · rw [silent none, SoundRequest]
      rw [requested] at zero
      constructor
      · intro all can _
        exact Or.inr ⟨zero, all can⟩
      · intro sound can
        obtain ⟨nonzero, -⟩ | ⟨-, all⟩ := sound can admitted
        · exact absurd zero nonzero
        · exact all
    · rw [one p only address, SoundRequest]
      rw [requested] at nonzero ⊢
      constructor
      · intro eligible _ _
        exact Or.inl ⟨nonzero, eligible.notEdge, eligible.quiet⟩
      · intro sound
        obtain ⟨-, notEdge, quiet⟩ | ⟨zero, -⟩ := sound can admitted
        · exact ⟨admitted.1, admitted.2.1, notEdge, quiet, free⟩
        · exact absurd zero nonzero
    · rw [silent none, SoundRequest, cannot]
      simp
  · -- the scan keeps the rules
    refine iff_of_true ?_ (fun _ admitted => absurd admitted notAdmitted)
    obtain ⟨zero, none⟩ | ⟨nonzero, ⟨-, p, only, address⟩ | ⟨cannot, none⟩⟩ := sent
    · rw [silent none]
      intro _ a low high
      obtain edge | used | running := scanned.miss zero a low high
      · exact Or.inl edge
      · exact Or.inr (Or.inl used)
      · exact Or.inr (Or.inr (held a running))
    · rw [one p only address]
      obtain ⟨low, notEdge, quiet⟩ := scanned.hit nonzero
      obtain ⟨high, free⟩ := inside nonzero
      exact ⟨low, high, notEdge, by rw [Reported, quiet]; decide, free⟩
    · rw [silent none, cannot]
      simp

theorem oneAddress_fits : Fits oneAddress :=
  ⟨by unfold NoWrap; decide, by decide, by decide⟩

/-- A fresh table knows no client. -/
theorem unknown_boot {serverip : Addr} {w : World} (client : (parsed w (State.boot srv serverip)).2.client ≠ Mac.zero) :
    Unknown (parsed w (State.boot srv serverip)).2 := by
  intro j l found
  rw [parsed_leases] at found
  rw [boot_zero found]
  exact client.symm

/-- A DISCOVER that asks for the address of the pool. -/
def asksAddress (inUsed : Bool) : World :=
  { receives 0 firstMac (discoverOptions ++ [(Code.reqIpaddr, [192, 168, 1, 100])]) with inUsed := fun _ _ => inUsed }

end ArtikSdk.Dhcp.Server
