import ArtikSdk.Dhcp.Server.Input
import ArtikSdk.Dhcp.Server.Reply

/-!
# DHCP server: what one call does

The complete list of what `loop_handler` can do to the lease table and send: nothing
but a NAK, free an expired slot, offer a slot, acknowledge a slot, decline or release
one. `Outcome` says for each when it happens and with which clock readings;
`loopHandler_outcome` is the inversion of the handler that every invariant uses.
-/

namespace ArtikSdk.Dhcp.Server
open Lib Checked

/-! ## The senders -/

/-- `k` clock readings later, with table `T`, a message built and `ps` sent. -/
structure Ends (s : Ctx) (T : List Lease) (ps : List Sent) (s' : Ctx) : Prop where
  g : s'.g = { s.g with leases := T, outpacket := s'.g.outpacket, optend := s'.g.optend }
  sent : s'.sent = s.sent ++ ps

/-- `p` is the datagram of a reply, built from the incoming message of `g`. -/
def Carried (g : State) (yi : List Byte) (os : List Tlv.Opt) (p : Sent) : Prop :=
  ∃ g₀ g', g₀.inpacket = g.inpacket ∧ Reply g₀ g' yi os ∧ p.bytes = g'.datagram

theorem After.ends {s s' : Ctx} {k : Nat} {T : List Lease} (h : After s k T s') : Ends s T [] s' :=
  ⟨by rw [h.g], by rw [h.sent, List.append_nil]⟩

theorem Ends.refl (s : Ctx) : Ends s s.g.leases [] s := (After.refl s).ends

theorem Ends.leases {s s' : Ctx} {T : List Lease} {ps : List Sent} (h : Ends s T ps s') : s'.g.leases = T := by rw [h.g]

theorem Ends.serverip {s s' : Ctx} {T : List Lease} {ps : List Sent} (h : Ends s T ps s') : s'.g.serverip = s.g.serverip := by
  rw [h.g]

theorem Ends.inpacket {s s' : Ctx} {T : List Lease} {ps : List Sent} (h : Ends s T ps s') : s'.g.inpacket = s.g.inpacket := by
  rw [h.g]

theorem Ends.opt {s s' : Ctx} {T : List Lease} {ps : List Sent} (h : Ends s T ps s') : s'.g.opt = s.g.opt := by rw [h.g]

theorem After.then {s s' s'' : Ctx} {k : Nat} {T T' : List Lease} {ps : List Sent} (h : After s k T s') (h' : Ends s' T' ps s'') :
    Ends s T' ps s'' :=
  ⟨by rw [h'.g, h.g], by rw [h'.sent, h.sent]⟩

theorem Ends.next {s s' s'' : Ctx} {k : Nat} {T T' : List Lease} {ps : List Sent} (h : Ends s T ps s') (h' : After s' k T' s'') :
    Ends s T' ps s'' := by
  refine ⟨?_, by rw [h'.sent, h.sent]⟩
  rw [h'.g]
  simp only [h.serverip, h.inpacket, h.opt]

theorem Carried.typeOf {g : State} {yi : List Byte} {os : List Tlv.Opt} {p : Sent} (h : Carried g yi os p)
    (plain : ∀ o ∈ os, Tlv.Plain Code.pad Code.fin o) {mtype : Byte} (only : Tlv.values Code.msgType os = [[mtype]]) :
    typeOf p.bytes = mtype := by
  obtain ⟨g₀, g', -, reply, bytes⟩ := h
  rw [bytes, Dhcp.typeOf, optionOf, reply.optionsOf plain]
  rw [Option.bind_some, Tlv.last, only]
  rfl

theorem Carried.yiaddrOf {g : State} {ipaddr : Addr} {os : List Tlv.Opt} {p : Sent}
    (h : Carried g (Mem.wordBytes (htonl ipaddr)) os p) : yiaddrOf p.bytes = htonl ipaddr := by
  obtain ⟨g₀, g', -, reply, bytes⟩ := h
  rw [bytes, reply.yiaddrOf]

theorem Carried.chaddrOf {g : State} {yi : List Byte} {os : List Tlv.Opt} {p : Sent} (h : Carried g yi os p) :
    chaddrOf p.bytes = g.client := by
  obtain ⟨g₀, g', same, reply, bytes⟩ := h
  rw [bytes, reply.chaddrOf, State.client, same, State.client]

theorem sendpacket_ok {bbroadcast : Bool} {s : Ctx} {r : Int × Ctx} (h : dhcpdSendpacket bbroadcast s = .ok r) :
    (s.sendto = true ∧ 0 ≤ r.1 ∧ ∃ dest, r.2 = { s with sent := s.sent ++ [⟨s.g.datagram, dest, s.clock 0⟩] }) ∨
      (s.sendto = false ∧ r = (-1, s)) := by
  unfold dhcpdSendpacket at h
  split at h
  · rename_i can
    cases h
    exact Or.inl ⟨can, Int.natCast_nonneg _, _, rfl⟩
  · rename_i cannot
    cases h
    exact Or.inr ⟨by simpa using cannot, rfl⟩

/-- A reply is built and handed to `sendto`. -/
theorem send_ok {build : State → State} {bbroadcast : Bool} {yi : List Byte} {os : List Tlv.Opt} {s : Ctx} {r : Int × Ctx}
    (reply : Reply s.g (build s.g) yi os)
    (h : (do modifyState build; dhcpdSendpacket bbroadcast : M Int) s = .ok r) :
    (s.sendto = true ∧ 0 ≤ r.1 ∧ ∃ p, Carried s.g yi os p ∧ p.time = s.clock 0 ∧ Ends s s.g.leases [p] r.2 ∧
        r.2.clock = s.clock ∧ r.2.sendto = s.sendto) ∨
      (s.sendto = false ∧ r.1 = -1 ∧ Ends s s.g.leases [] r.2) := by
  rw [bind_apply_of_ok (modifyState_apply _ _)] at h
  have built := reply.rest
  rcases sendpacket_ok h with ⟨can, positive, dest, same⟩ | ⟨cannot, same⟩
  · refine Or.inl ⟨can, positive, ⟨(build s.g).datagram, dest, s.clock 0⟩, ⟨s.g, _, rfl, reply, rfl⟩, rfl, ?_, ?_, ?_⟩
    · rw [same]
      exact ⟨built, rfl⟩
    · rw [same]
    · rw [same]
  · rw [same]
    exact Or.inr ⟨cannot, rfl, built, by simp⟩

/-! ## The outcomes -/

/-- The table has `num_leases` slots. -/
def Sized (srv : Handle) (g : State) : Prop := g.leases.length = srv.numLeases.toNat

/-- No slot of the table carries the client's MAC address. -/
def Unknown (g : State) : Prop := ∀ (j : Nat) (l : Lease), g.leases[j]? = some l → l.mac ≠ g.client

/-- The slot `l` may be offered to the client after `k` readings: it is the client's own,
or the client has none and this one is free. -/
def MayOffer (s : Ctx) (l : Lease) (k : Nat) : Prop :=
  l.mac = s.g.client ∧ (s.clock 0 < l.expiry ∧ k = 2 ∨ l.expiry ≤ s.clock 0) ∨
    Unknown s.g ∧ (l.allocated = false ∨ ∃ j ≤ k, l.expiry ≤ s.clock j)

/-- What is sent where `sendto` works: one datagram, as described. -/
def Sends (s : Ctx) (described : Sent → Prop) (ps : List Sent) : Prop :=
  s.sendto = true ∧ (∃ p, described p ∧ ps = [p]) ∨ s.sendto = false ∧ ps = []

/-- The datagram offers or grants slot `i`. -/
def Assigns (srv : Handle) (g : State) (mtype : Byte) (i : Nat) (leasetime : BitVec 32) (dns : List Addr) (p : Sent) : Prop :=
  Carried g (Mem.wordBytes (htonl (dhcpLeaseipaddr i srv.startip))) (leaseOptions mtype g.serverip srv leasetime dns) p

/-- What a call does to the table, and what it sends. -/
inductive Outcome (srv : Handle) (s : Ctx) : List Lease → List Sent → Prop where
  | idle {ps : List Sent}
      (quiet : ps = [] ∨ ∃ p, Carried s.g [0, 0, 0, 0] (initOptions MsgType.nak s.g.serverip) p ∧ ps = [p]) :
      Outcome srv s s.g.leases ps
  | lapse {i k : Nat} {l : Lease} (found : s.g.leases[i]? = some l) (passed : l.expiry ≤ s.clock k) :
      Outcome srv s (s.g.leases.set i Lease.zero) []
  | offer {i k : Nat} {l : Lease} {ps : List Sent} (type : s.g.opt.msgtype = MsgType.discover)
      (found : s.g.leases[i]? = some l) (small : i < 2 ^ 31)
      (may : MayOffer s l k)
      (sends : Sends s (fun p => p.time = s.clock (k + 1) ∧
        ∃ leasetime, Assigns srv s.g MsgType.offer i leasetime (srv.dnsAddr.map htonl) p) ps) :
      Outcome srv s (s.g.leases.set i ⟨s.g.client, true, s.clock k + offertime⟩) ps
  | ack {i : Nat} {l : Lease} {p : Sent} (type : s.g.opt.msgtype = MsgType.request)
      (found : s.g.leases[i]? = some l) (mac : l.mac = s.g.client)
      (response : leaseResponse s.g (dhcpLeaseipaddr i srv.startip) = MsgType.ack) (can : s.sendto = true)
      (time : p.time = s.clock 0) (granted : Assigns srv s.g MsgType.ack i (grantedTime s.g.opt) srv.dnsAddr p) :
      Outcome srv s (s.g.leases.set i ⟨s.g.client, true, s.clock 0 + (grantedTime s.g.opt).toNat⟩) [p]
  | decline {i : Nat} {l : Lease} (type : s.g.opt.msgtype = MsgType.decline)
      (found : s.g.leases[i]? = some l) (mac : l.mac = s.g.client) :
      Outcome srv s (s.g.leases.set i { l with mac := Mac.zero, expiry := s.clock 0 + declinetime }) []
  | release {i : Nat} {l : Lease} (type : s.g.opt.msgtype = MsgType.release)
      (found : s.g.leases[i]? = some l) (mac : l.mac = s.g.client) :
      Outcome srv s (s.g.leases.set i Lease.zero) []

theorem Outcome.silent {srv : Handle} (s : Ctx) : Outcome srv s s.g.leases [] := .idle (Or.inl rfl)

/-! ## The searches -/

/-- The search by MAC address finds a slot of the client, or there is none. -/
theorem findbymac_cases {srv : Handle} {s : Ctx} {r : Option Nat × Ctx} (sized : Sized srv s.g)
    (h : dhcpdFindbymac s.g.client srv.numLeases s = .ok r) :
    r.2 = s ∧
      ((∃ i l, r.1 = some i ∧ i < 2 ^ 31 ∧ s.g.leases[i]? = some l ∧ l.mac = s.g.client) ∨
        r.1 = none ∧ srv.numLeases.toNat < 2 ^ 31 ∧ Unknown s.g) := by
  obtain ⟨same, search⟩ := findbymac_ok h
  refine ⟨same, ?_⟩
  cases result : r.1 with
  | some i =>
    rw [result] at search
    obtain ⟨-, -, small, ⟨l, found, mac⟩, -⟩ := findbymacFrom_some search (by decide)
    exact Or.inl ⟨i, l, rfl, small, found, mac⟩
  | none =>
    rw [result] at search
    obtain ⟨small, all⟩ := findbymacFrom_none search (by decide)
    refine Or.inr ⟨rfl, by omega, fun j l found => ?_⟩
    have bound := (List.getElem?_eq_some_iff.1 found).1
    obtain ⟨l', found', other⟩ := all j (Nat.zero_le _) (by rw [Sized] at sized; omega)
    rw [found] at found'
    cases found'
    exact other

theorem leaseipaddr_sub {i : Nat} (h : i < 2 ^ 32) (startip : Addr) : (dhcpLeaseipaddr i startip - startip).toNat = i := by
  rw [dhcpLeaseipaddr, BitVec.add_sub_cancel, BitVec.toNat_ofNat, Nat.mod_eq_of_lt h]

theorem leaseipaddr_of_sub (ipaddr startip : Addr) : dhcpLeaseipaddr (ipaddr - startip).toNat startip = ipaddr := by
  rw [dhcpLeaseipaddr, BitVec.ofNat_toNat, BitVec.setWidth_eq, BitVec.sub_add_cancel]

/-- The address a client asks for is free: its slot is unallocated or has expired. -/
theorem verifyreqip_ok {srv : Handle} {s : Ctx} {r : Bool × Ctx} (h : dhcpdVerifyreqip srv s = .ok r) :
    (r.1 = true ∧ ∃ k l, s.g.leases[(s.g.opt.reqip - srv.startip).toNat]? = some l ∧
        (l.allocated = false ∧ After s k s.g.leases r.2 ∨
          l.expiry ≤ s.clock 0 ∧ After s k (s.g.leases.set (s.g.opt.reqip - srv.startip).toNat Lease.zero) r.2)) ∨
      (r.1 = false ∧ ∃ k, After s k s.g.leases r.2) := by
  rw [dhcpdVerifyreqip, get_bind_apply] at h
  split at h
  · rename_i inside
    obtain ⟨o, s₁, look, test⟩ := bind_ok.1 h
    obtain ⟨l, found, ⟨yes, free, after⟩ | ⟨yes, passed, after⟩ | ⟨no, -, -, after⟩⟩ :=
      free_or_expired look test inside.1 inside.2
    · exact Or.inl ⟨yes, 0, l, found, Or.inl ⟨free, after⟩⟩
    · exact Or.inl ⟨yes, 1, l, found, Or.inr ⟨passed, after⟩⟩
    · exact Or.inr ⟨no, 1, after⟩
  · cases h
    exact Or.inr ⟨rfl, 0, After.refl s⟩

/-- What the first half of `dhcpd_discover` comes to: no address, or that of slot `i`
with `k` readings taken and the table unchanged but for that slot. -/
inductive Chosen (srv : Handle) (s : Ctx) : Addr → Ctx → Prop where
  | none {k : Nat} {s' : Ctx} (after : After s k s.g.leases s') : Chosen srv s 0 s'
  | slot {i k : Nat} {l : Lease} {T : List Lease} {s' : Ctx} (found : s.g.leases[i]? = some l) (small : i < 2 ^ 31)
      (may : MayOffer s l k) (after : After s k T s')
      (wrote : T = s.g.leases ∨ (∃ j, l.expiry ≤ s.clock j) ∧ T = s.g.leases.set i Lease.zero ∨
        dhcpLeaseipaddr i srv.startip ≠ 0 ∧ ∃ l', T = s.g.leases.set i l') :
      Chosen srv s (dhcpLeaseipaddr i srv.startip) s'

theorem index_lt {srv : Handle} {g : State} (sized : Sized srv g) {i : Nat} {l : Lease} (found : g.leases[i]? = some l) :
    i < srv.numLeases.toNat := by
  rw [← sized]
  exact (List.getElem?_eq_some_iff.1 found).1

/-- Where the pool ends at the last address of all, an index computed below the pool
lies outside the table. -/
theorem below_pool {srv : Handle} {a : Addr} (all : srv.endip = BitVec.allOnes 32) (low : a < srv.startip) :
    srv.numLeases.toNat ≤ (a - srv.startip).toNat := by
  have ends := congrArg BitVec.toNat (all.symm.trans srv.endip_eq)
  have start := srv.startip.isLt
  have num := srv.numLeases.isLt
  have one : (1 : Addr).toNat = 1 := rfl
  simp only [BitVec.toNat_sub, BitVec.toNat_add, BitVec.toNat_allOnes, BitVec.lt_def, Nat.reducePow, Nat.reduceSub, one] at *
  omega

theorem discoverAddress_ok {fuel : Nat} {srv : Handle} {s : Ctx} {r : (Addr × BitVec 32) × Ctx} (sized : Sized srv s.g)
    (h : discoverAddress fuel srv s = .ok r) : Chosen srv s r.1.1 r.2 := by
  rw [discoverAddress, get_bind_apply] at h
  obtain ⟨o, s₁, search, branch⟩ := bind_ok.1 h
  obtain ⟨same, ⟨i, l, hit, small, found, mac⟩ | ⟨missed, few, unknown⟩⟩ := findbymac_cases sized search
  · obtain rfl : s₁ = s := same
    obtain rfl : o = some i := hit
    obtain ⟨b, s₂, test, own⟩ := bind_ok.1 branch
    obtain ⟨l', found', expired⟩ := leaseexpired_ok test
    rw [found] at found'
    cases found'
    rcases expired with ⟨no, running, after⟩ | ⟨yes, passed, after⟩
    · obtain rfl : b = false := no
      simp only [Bool.false_eq_true, if_false] at own
      obtain ⟨l₂, s₃, read, timed⟩ := bind_ok.1 own
      obtain ⟨-, same⟩ := slot_ok read
      obtain rfl : s₃ = s₂ := same
      rw [bind_apply_of_ok (dhcpdTime_apply _)] at timed
      cases timed
      have whole := after.trans (After.tick s₃)
      rw [after.leases] at whole
      exact .slot found small (Or.inl ⟨mac, Or.inl ⟨running, rfl⟩⟩) whole (Or.inl rfl)
    · obtain rfl : b = true := yes
      simp only [if_true] at own
      cases own
      exact .slot (k := 1) found small (Or.inl ⟨mac, Or.inr passed⟩) after (Or.inr (Or.inl ⟨⟨0, passed⟩, rfl⟩))
  · obtain rfl : s₁ = s := same
    obtain rfl : o = none := missed
    obtain ⟨b, s₂, test, fresh⟩ := bind_ok.1 branch
    rcases verifyreqip_ok test with ⟨yes, k, l, found, outcome⟩ | ⟨no, k, after⟩
    · obtain rfl : b = true := yes
      simp only [if_true] at fresh
      cases fresh
      have bound := index_lt sized found
      have address := leaseipaddr_of_sub s₁.g.opt.reqip srv.startip
      have slot (T : List Lease) (may : MayOffer s₁ l k) (after : After s₁ k T s₂)
          (wrote : T = s₁.g.leases ∨ (∃ j, l.expiry ≤ s₁.clock j) ∧ T = s₁.g.leases.set _ Lease.zero ∨
            dhcpLeaseipaddr (s₁.g.opt.reqip - srv.startip).toNat srv.startip ≠ 0 ∧ ∃ l', T = s₁.g.leases.set _ l') :
          Chosen srv s₁ (dhcpLeaseipaddr (s₁.g.opt.reqip - srv.startip).toNat srv.startip) s₂ :=
        .slot found (by omega) may after wrote
      simp only [address] at slot
      rcases outcome with ⟨free, after⟩ | ⟨passed, after⟩
      · exact slot _ (Or.inr ⟨unknown, Or.inl free⟩) after (Or.inl rfl)
      · exact slot _ (Or.inr ⟨unknown, Or.inr ⟨0, Nat.zero_le _, passed⟩⟩) after (Or.inr (Or.inl ⟨⟨0, passed⟩, rfl⟩))
    · obtain rfl : b = false := no
      simp only [Bool.false_eq_true, if_false] at fresh
      obtain ⟨ipaddr, s₃, alloc, done⟩ := bind_ok.1 fresh
      cases done
      have wrapped : srv.endip = BitVec.allOnes 32 → ∀ a < srv.startip, s₂.g.leases.length ≤ (a - srv.startip).toNat := by
        intro all a low
        rw [after.leases, sized]
        exact below_pool all low
      cases (allocipaddrFrom_ok alloc wrapped (Or.inl (BitVec.le_refl _))).later after with
      | none after => exact .none after
      | some lo hi nonzero found free after =>
        have bound := index_lt sized found
        have address := leaseipaddr_of_sub ipaddr srv.startip
        rw [← address] at nonzero
        have slot : Chosen srv s₁ (dhcpLeaseipaddr (ipaddr - srv.startip).toNat srv.startip) s₃ := by
          refine .slot found (by omega) (Or.inr ⟨unknown, ?_⟩) after (Or.inr (Or.inr ⟨nonzero, _, rfl⟩))
          rcases free with free | ⟨j, le, passed⟩
          · exact Or.inl free
          · exact Or.inr ⟨j, by omega, passed⟩
        rwa [address] at slot

/-- The lease of a slot of the table is always entered. -/
theorem setlease_slot {srv : Handle} {i : Nat} {mac : Mac} {expiry : Int} {s : Ctx} {r : Bool × Ctx} (small : i < 2 ^ 31)
    (bound : i < srv.numLeases.toNat)
    (h : dhcpdSetlease mac (dhcpLeaseipaddr i srv.startip) expiry srv.numLeases srv.startip s = .ok r) :
    r.1 = true ∧ After s 1 (s.g.leases.set i ⟨mac, true, s.clock 0 + expiry⟩) r.2 := by
  have index := leaseipaddr_sub (i := i) (by omega) srv.startip
  rcases setlease_ok h with ⟨yes, -, -, after⟩ | ⟨-, -, beyond⟩
  · rw [index] at after
    exact ⟨yes, after⟩
  · rw [index] at beyond
    have := beyond small
    omega

/-- `dhcpd_discover` -/
theorem discover_ok {fuel : Nat} {srv : Handle} {s : Ctx} {r : Int × Ctx} (sized : Sized srv s.g)
    (type : s.g.opt.msgtype = MsgType.discover) (h : dhcpdDiscover fuel srv s = .ok r) :
    ∃ T ps, Outcome srv s T ps ∧ Ends s T ps r.2 := by
  obtain ⟨⟨ipaddr, leasetime⟩, s₁, choose, given⟩ := bind_ok.1 h
  have chosen := discoverAddress_ok sized choose
  simp only at given chosen
  split at given
  · -- there is no address, but a slot may have been found expired
    rename_i zero
    cases given
    generalize address : ipaddr = addr at chosen
    cases chosen with
    | none after => exact ⟨_, _, .silent s, after.ends⟩
    | slot found small may after wrote =>
      rcases wrote with same | ⟨⟨j, passed⟩, erased⟩ | ⟨nonzero, -⟩
      · rw [same] at after
        exact ⟨_, _, .silent s, after.ends⟩
      · rw [erased] at after
        exact ⟨_, _, .lapse found passed, after.ends⟩
      · exact absurd (address.symm.trans zero) nonzero
  · rename_i nonzero
    rw [get_bind_apply] at given
    obtain ⟨b, s₂, entered, offered⟩ := bind_ok.1 given
    generalize address : ipaddr = addr at chosen
    cases chosen with
    | none after => exact absurd address nonzero
    | @slot i k l T _ found small may after wrote =>
      subst address
      obtain ⟨yes, lease⟩ := setlease_slot small (index_lt sized found) entered
      obtain rfl : b = true := yes
      simp only [if_true] at offered
      have written : T.set i ⟨s₁.g.client, true, s₁.clock 0 + offertime⟩ =
          s.g.leases.set i ⟨s.g.client, true, s.clock k + offertime⟩ := by
        have client : s₁.g.client = s.g.client := by rw [after.g]; rfl
        rw [client, after.clock, Nat.add_zero]
        rcases wrote with same | ⟨-, erased⟩ | ⟨-, l', reserved⟩
        · rw [same]
        · rw [erased, List.set_set]
        · rw [reserved, List.set_set]
      have whole := after.trans lease
      rw [after.leases, written] at whole
      have incoming : s₂.g.inpacket = s.g.inpacket := by rw [whole.g]
      have server : s₂.g.serverip = s.g.serverip := by rw [whole.g]
      have reply := offerPacket_reply srv (dhcpLeaseipaddr i srv.startip) (dhcpdVerifyreqleasetime s₁.g.opt leasetime).2 s₂.g
      rw [server] at reply
      rcases send_ok reply offered with ⟨can, -, p, ⟨g₀, g', same, carried, bytes⟩, time, ends, -⟩ | ⟨cannot, -, ends⟩
      · refine ⟨_, [p], .offer type found small may (Or.inl ⟨whole.sendto ▸ can, p,
          ⟨?_, (dhcpdVerifyreqleasetime s₁.g.opt leasetime).2, ?_⟩, rfl⟩), ?_⟩
        · rw [time, whole.clock, Nat.add_zero]
        · exact ⟨g₀, g', same.trans incoming, carried, bytes⟩
        · have := whole.then ends
          rwa [whole.leases] at this
      · refine ⟨_, [], .offer type found small may (Or.inr ⟨whole.sendto ▸ cannot, rfl⟩), ?_⟩
        have := whole.then ends
        rwa [whole.leases] at this

/-- The first half of `dhcpd_request`: the client's own slot decides, or no ACK is sent
and at most an expired slot is erased. -/
theorem requestResponse_ok {srv : Handle} {s : Ctx} {r : (Addr × Byte) × Ctx} (sized : Sized srv s.g)
    (h : requestResponse srv s = .ok r) :
    (∃ i l, i < 2 ^ 31 ∧ s.g.leases[i]? = some l ∧ l.mac = s.g.client ∧
        r = ((dhcpLeaseipaddr i srv.startip, leaseResponse s.g (dhcpLeaseipaddr i srv.startip)), s)) ∨
      (Unknown s.g ∧ ((r.1.2 ≠ MsgType.ack ∧ ∃ k, After s k s.g.leases r.2) ∨
        (r.1.2 = 0 ∧ ∃ i l, s.g.leases[i]? = some l ∧ l.expiry ≤ s.clock 0 ∧ After s 1 (s.g.leases.set i Lease.zero) r.2))) := by
  rw [requestResponse, get_bind_apply] at h
  obtain ⟨o, s₁, search, branch⟩ := bind_ok.1 h
  obtain ⟨same, ⟨i, l, hit, small, found, mac⟩ | ⟨missed, -, unknown⟩⟩ := findbymac_cases sized search
  · obtain rfl : s₁ = s := same
    obtain rfl : o = some i := hit
    cases branch
    exact Or.inl ⟨i, l, small, found, mac, rfl⟩
  · obtain rfl : s₁ = s := same
    obtain rfl : o = none := missed
    refine Or.inr ⟨unknown, ?_⟩
    simp only at branch
    split at branch
    · obtain ⟨o', s₂, look, decide'⟩ := bind_ok.1 branch
      obtain ⟨same, -⟩ := findbyipaddr_ok look
      obtain rfl : s₂ = s₁ := same
      cases o' with
      | some i =>
        obtain ⟨b, s₃, test, answer⟩ := bind_ok.1 decide'
        obtain ⟨l, found, ⟨no, -, after⟩ | ⟨yes, passed, after⟩⟩ := leaseexpired_ok test
        · obtain rfl : b = false := no
          simp only [Bool.false_eq_true, if_false] at answer
          cases answer
          exact Or.inl ⟨by simp, 1, after⟩
        · obtain rfl : b = true := yes
          simp only [if_true] at answer
          cases answer
          exact Or.inr ⟨rfl, i, l, found, passed, after⟩
      | none =>
        simp only at decide'
        split at decide' <;> cases decide'
        · exact Or.inl ⟨by simp, 0, After.refl _⟩
        · exact Or.inl ⟨by simp, 0, After.refl _⟩
    · cases branch
      exact Or.inl ⟨by simp, 0, After.refl _⟩

/-- `dhcpd_sendack`: the ACK is sent and the lease entered, or neither happens. -/
theorem sendack_cases {srv : Handle} {ipaddr : Addr} {s : Ctx} {r : Int × Ctx} (h : dhcpdSendack srv ipaddr s = .ok r) :
    (s.sendto = true ∧ ∃ p s₁ b, p.time = s.clock 0 ∧
        Carried s.g (Mem.wordBytes (htonl ipaddr)) (leaseOptions MsgType.ack s.g.serverip srv (grantedTime s.g.opt) srv.dnsAddr) p ∧
        Ends s s.g.leases [p] s₁ ∧ s₁.clock = s.clock ∧
        dhcpdSetlease s.g.client ipaddr (grantedTime s.g.opt).toNat srv.numLeases srv.startip s₁ = .ok (b, r.2)) ∨
      (s.sendto = false ∧ Ends s s.g.leases [] r.2) := by
  rw [dhcpdSendack, get_bind_apply] at h
  have reply := ackPacket_reply srv ipaddr (grantedTime s.g.opt) s.g
  rw [← bind_assoc] at h
  obtain ⟨n, s₁, sent, entered⟩ := bind_ok.1 h
  rcases send_ok reply sent with ⟨can, positive, p, carried, time, ends, clock, -⟩ | ⟨cannot, negative, ends⟩
  · rw [if_neg (by simp only at positive; omega)] at entered
    obtain ⟨b, s₂, lease, done⟩ := bind_ok.1 entered
    cases done
    exact Or.inl ⟨can, p, s₁, b, time, carried, ends, clock, lease⟩
  · rw [if_pos (by simp only at negative; omega)] at entered
    cases entered
    exact Or.inr ⟨cannot, ends⟩

theorem sendack_ok {srv : Handle} {i : Nat} {s : Ctx} {r : Int × Ctx} (small : i < 2 ^ 31) (bound : i < srv.numLeases.toNat)
    (h : dhcpdSendack srv (dhcpLeaseipaddr i srv.startip) s = .ok r) :
    (s.sendto = true ∧ ∃ p, p.time = s.clock 0 ∧ Assigns srv s.g MsgType.ack i (grantedTime s.g.opt) srv.dnsAddr p ∧
        Ends s (s.g.leases.set i ⟨s.g.client, true, s.clock 0 + (grantedTime s.g.opt).toNat⟩) [p] r.2) ∨
      (s.sendto = false ∧ Ends s s.g.leases [] r.2) := by
  rcases sendack_cases h with ⟨can, p, s₁, b, time, carried, ends, clock, lease⟩ | failed
  · obtain ⟨-, after⟩ := setlease_slot small bound lease
    rw [ends.leases, congrFun clock 0] at after
    exact Or.inl ⟨can, p, time, carried, ends.next after⟩
  · exact Or.inr failed

/-- `dhcpd_request` -/
theorem request_ok {srv : Handle} {s : Ctx} {r : Int × Ctx} (sized : Sized srv s.g)
    (type : s.g.opt.msgtype = MsgType.request) (h : dhcpdRequest srv s = .ok r) :
    ∃ T ps, Outcome srv s T ps ∧ Ends s T ps r.2 := by
  obtain ⟨⟨ipaddr, response⟩, s₁, respond, act⟩ := bind_ok.1 h
  have responded := requestResponse_ok sized respond
  simp only at act responded
  split at act
  · rename_i isAck
    obtain ⟨n, s₂, acked, done⟩ := bind_ok.1 act
    cases done
    rcases responded with ⟨i, l, small, found, mac, same⟩ | ⟨-, ⟨notAck, -⟩ | ⟨silent, -⟩⟩
    · cases same
      rcases sendack_ok small (index_lt sized found) acked with ⟨can, p, time, granted, ends⟩ | ⟨-, ends⟩
      · exact ⟨_, _, .ack type found mac isAck can time granted, ends⟩
      · exact ⟨_, _, .silent s, ends⟩
    · exact absurd isAck notAck
    · rw [silent] at isAck
      cases isAck
  split at act
  · rename_i isNak
    obtain ⟨n, s₂, naked, done⟩ := bind_ok.1 act
    cases done
    obtain ⟨k, after⟩ : ∃ k, After s k s.g.leases s₁ := by
      rcases responded with ⟨i, l, -, -, -, same⟩ | ⟨-, ⟨-, after⟩ | ⟨silent, -⟩⟩
      · cases same
        exact ⟨0, After.refl s⟩
      · exact after
      · rw [silent] at isNak
        cases isNak
    have incoming : s₁.g.inpacket = s.g.inpacket := by rw [after.g]
    have server : s₁.g.serverip = s.g.serverip := by rw [after.g]
    have reply := nakPacket_reply s₁.g
    rw [server] at reply
    rcases send_ok reply naked with ⟨-, -, p, ⟨g₀, g', same, carried, bytes⟩, -, ends, -⟩ | ⟨-, -, ends⟩
    · rw [after.leases] at ends
      exact ⟨_, [p], .idle (Or.inr ⟨p, ⟨g₀, g', same.trans incoming, carried, bytes⟩, rfl⟩), after.then ends⟩
    · rw [after.leases] at ends
      exact ⟨_, _, .silent s, after.then ends⟩
  · cases act
    rcases responded with ⟨i, l, -, -, -, same⟩ | ⟨-, ⟨-, k, after⟩ | ⟨-, i, l, found, passed, after⟩⟩
    · cases same
      exact ⟨_, _, .silent s, Ends.refl s⟩
    · exact ⟨_, _, .silent s, after.ends⟩
    · exact ⟨_, _, .lapse found passed, after.ends⟩

/-- `dhcpd_decline` -/
theorem decline_ok {srv : Handle} {s : Ctx} {r : Int × Ctx} (sized : Sized srv s.g)
    (type : s.g.opt.msgtype = MsgType.decline) (h : dhcpdDecline srv s = .ok r) :
    ∃ T ps, Outcome srv s T ps ∧ Ends s T ps r.2 := by
  rw [dhcpdDecline, get_bind_apply] at h
  obtain ⟨o, s₁, search, branch⟩ := bind_ok.1 h
  obtain ⟨same, ⟨i, l, hit, small, found, mac⟩ | ⟨missed, -⟩⟩ := findbymac_cases sized search
  · obtain rfl : s₁ = s := same
    obtain rfl : o = some i := hit
    simp only at branch
    rw [bind_apply_of_ok (slot_of_some found), bind_apply_of_ok (dhcpdTime_apply _)] at branch
    obtain ⟨_, s₂, wrote, done⟩ := bind_ok.1 branch
    obtain ⟨-, same⟩ := setSlot_ok wrote
    cases done
    obtain rfl : s₂ = _ := same
    exact ⟨_, _, .decline type found mac, ((After.tick s₁).setSlot _ _).ends⟩
  · obtain rfl : s₁ = s := same
    obtain rfl : o = none := missed
    cases branch
    exact ⟨_, _, .silent s₁, Ends.refl s₁⟩

/-- `dhcpd_release` -/
theorem release_ok {srv : Handle} {s : Ctx} {r : Int × Ctx} (sized : Sized srv s.g)
    (type : s.g.opt.msgtype = MsgType.release) (h : dhcpdRelease srv s = .ok r) :
    ∃ T ps, Outcome srv s T ps ∧ Ends s T ps r.2 := by
  rw [dhcpdRelease, get_bind_apply] at h
  obtain ⟨o, s₁, search, branch⟩ := bind_ok.1 h
  obtain ⟨same, ⟨i, l, hit, small, found, mac⟩ | ⟨missed, -⟩⟩ := findbymac_cases sized search
  · obtain rfl : s₁ = s := same
    obtain rfl : o = some i := hit
    obtain ⟨_, s₂, wrote, done⟩ := bind_ok.1 branch
    obtain ⟨-, same⟩ := setSlot_ok wrote
    cases done
    obtain rfl : s₂ = _ := same
    exact ⟨_, _, .release type found mac, ((After.refl s₁).setSlot _ _).ends⟩
  · obtain rfl : s₁ = s := same
    obtain rfl : o = none := missed
    cases branch
    exact ⟨_, _, .silent s₁, Ends.refl s₁⟩

/-- The types that `loop_handler` handles. -/
def Handled (mtype : Byte) : Prop :=
  mtype = MsgType.discover ∨ mtype = MsgType.request ∨ mtype = MsgType.decline ∨ mtype = MsgType.release

instance (mtype : Byte) : Decidable (Handled mtype) := by
  unfold Handled
  infer_instance

/-- A message of another type is not acted on. -/
theorem dispatch_unhandled {fuel : Nat} {srv : Handle} {s : Ctx} (other : ¬ Handled s.g.opt.msgtype) :
    dispatch fuel srv s = .ok (0, s) := by
  simp only [Handled, not_or] at other
  obtain ⟨notDiscover, notRequest, notDecline, notRelease⟩ := other
  rw [dispatch, get_bind_apply]
  simp only [if_neg notDiscover, if_neg notRequest, if_neg notDecline, if_neg notRelease, pure_apply]

theorem dispatch_ok {fuel : Nat} {srv : Handle} {s : Ctx} {r : Int × Ctx} (sized : Sized srv s.g)
    (h : dispatch fuel srv s = .ok r) : ∃ T ps, Outcome srv s T ps ∧ Ends s T ps r.2 := by
  rw [dispatch, get_bind_apply] at h
  split at h
  · exact discover_ok sized ‹_› h
  split at h
  · exact request_ok sized ‹_› h
  split at h
  · exact decline_ok sized ‹_› h
  split at h
  · exact release_ok sized ‹_› h
  · cases h
    exact ⟨_, _, .silent s, Ends.refl s⟩

/-! ## The handler -/

/-- The context in which a call dispatches: `g` is `g_state` after the parse. -/
def Ctx.start (g : State) (w : World) : Ctx := ⟨g, w.clock, w.inUsed, w.sendto, []⟩

/-- A call is a parse and a dispatch; the parse always returns. -/
theorem loopHandler_eq (fuel : Nat) (srv : Handle) (w : World) (g : State) :
    loopHandler fuel srv w g =
      match dispatch fuel srv (Ctx.start (parsed w g).2 w) with
      | .ok (_, s) => .ok (s.g, s.sent)
      | .error e => .error e := by
  rw [loopHandler, parseoptions_eq]
  rfl

/-- The message of a call, as `g_state` holds it afterwards. -/
structure Handles (w : World) (g g' : State) : Prop where
  serverip : g'.serverip = g.serverip
  inpacket : g'.inpacket = (receive w g).inpacket
  opt : g'.opt = (parsed w g).2.opt

/-- **Inversion of `loop_handler`.** -/
theorem loopHandler_outcome {fuel : Nat} {srv : Handle} {w : World} {g g' : State} {ps : List Sent} (sized : Sized srv g)
    (h : loopHandler fuel srv w g = .ok (g', ps)) :
    Outcome srv (Ctx.start (parsed w g).2 w) g'.leases ps ∧ Handles w g g' := by
  rw [loopHandler_eq] at h
  split at h
  · rename_i n s result
    cases h
    obtain ⟨T, ps, outcome, ends⟩ := dispatch_ok (by rw [Sized, Ctx.start, parsed_leases, sized]) result
    have sent : s.sent = ps := by
      rw [ends.sent]
      rfl
    rw [ends.leases, sent]
    refine ⟨outcome, ?_, ?_, ends.opt⟩
    · rw [ends.serverip, Ctx.start, parsed_serverip]
    · rw [ends.inpacket, Ctx.start, parsed_inpacket]
  · cases h

/-- A message of another type, parsed or not, is not acted on. -/
theorem loopHandler_unhandled {fuel : Nat} {srv : Handle} {w : World} {g : State} (other : ¬ Handled (parsed w g).2.opt.msgtype) :
    loopHandler fuel srv w g = .ok ((parsed w g).2, []) := by
  rw [loopHandler_eq, dispatch_unhandled (s := Ctx.start (parsed w g).2 w) other]
  rfl

theorem Outcome.sized {srv : Handle} {s : Ctx} {T : List Lease} {ps : List Sent} (h : Outcome srv s T ps) :
    T.length = s.g.leases.length := by
  cases h <;> simp

/-- Every call keeps the size of the table. -/
theorem loopHandler_sized {fuel : Nat} {srv : Handle} {w : World} {g g' : State} {ps : List Sent} (sized : Sized srv g)
    (h : loopHandler fuel srv w g = .ok (g', ps)) : Sized srv g' := by
  have size := (loopHandler_outcome sized h).1.sized
  rw [Sized, size, Ctx.start, parsed_leases, sized]

theorem boot_sized (srv : Handle) (serverip : Addr) : Sized srv (State.boot srv serverip) := by
  simp [Sized, State.boot]

end ArtikSdk.Dhcp.Server
