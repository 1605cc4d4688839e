import ArtikSdk.Dhcp.Server.Leases

/-!
# DHCP server: leases are exclusive

Once an ACK has granted an address, no OFFER or ACK gives it to another client before the
lease ends, provided no call brings the deadline of a running lease forward. The guard of
the pool carries the argument through a run; a repeated DISCOVER from the holder, which
enters the short deadline of an offer, is the call that breaks it.
-/

namespace ArtikSdk.Dhcp.Server
open Lib

/-- An answered call, and the calls of a run. -/
abbrev Answered := Call World State (List Sent)
abbrev Calls := List Answered

/-- The clock does not go backwards, within a call and from a call to a later one. -/
structure Ordered (cs : Calls) : Prop where
  within : ∀ c ∈ cs, ∀ j k, j ≤ k → c.input.clock j ≤ c.input.clock k
  across : cs.Pairwise fun c d => ∀ j k, c.input.clock j ≤ d.input.clock k

theorem ordered_of_inputs {cs : Calls} {ws : List World} (inputs : cs.map Call.input = ws)
    (within : ∀ w ∈ ws, ∀ j k, j ≤ k → w.clock j ≤ w.clock k) (across : ws.Pairwise fun v w => ∀ j k, v.clock j ≤ w.clock k) :
    Ordered cs := by
  subst inputs
  exact ⟨fun c member => within _ (List.mem_map_of_mem member), List.pairwise_map.1 across⟩

/-- A DECLINE or RELEASE from `m` has been processed. -/
def Drops (c : Answered) (m : Mac) : Prop :=
  (c.after.opt.msgtype = MsgType.decline ∨ c.after.opt.msgtype = MsgType.release) ∧ c.after.client = m

instance (c : Answered) (m : Mac) : Decidable (Drops c m) := by
  unfold Drops
  infer_instance

/-- An address granted by an ACK goes to no other client before the lease has ended. -/
def Exclusive (cs : Calls) : Prop :=
  ∀ (xs : Calls) (r : Answered) (ys : Calls) (q : Answered) (zs : Calls), cs = xs ++ r :: (ys ++ q :: zs) →
    ∀ p ∈ r.output, typeOf p.bytes = MsgType.ack → chaddrOf p.bytes ≠ Mac.zero →
      ∀ leasetime : BitVec 32, optionOf Code.leaseTime p.bytes = some (Mem.wordBytes (htonl leasetime)) →
        (∀ c ∈ ys, ¬ Drops c (chaddrOf p.bytes)) →
          ∀ p' ∈ q.output, typeOf p'.bytes = MsgType.offer ∨ typeOf p'.bytes = MsgType.ack →
            yiaddrOf p'.bytes = yiaddrOf p.bytes → p'.time < p.time + leasetime.toNat → chaddrOf p'.bytes = chaddrOf p.bytes

/-- The call leaves every running lease at least its deadline: a DISCOVER from its holder
comes in its last hour, and a REQUEST from its holder that is acknowledged asks for at
least the remaining time. -/
def Keeping (srv : Handle) (w : World) (g : State) : Prop :=
  let g := (parsed w g).2
  g.client ≠ Mac.zero → ∀ (i : Nat) (l : Lease), g.leases[i]? = some l → l.mac = g.client → w.clock 0 < l.expiry →
    (g.opt.msgtype = MsgType.discover → l.expiry ≤ w.clock 2 + offertime) ∧
    (g.opt.msgtype = MsgType.request → leaseResponse g (dhcpLeaseipaddr i srv.startip) = MsgType.ack → w.sendto = true →
      l.expiry ≤ w.clock 0 + (grantedTime g.opt).toNat)

instance (srv : Handle) (w : World) (g : State) : Decidable (Keeping srv w g) :=
  decidable_of_iff
    ((parsed w g).2.client ≠ Mac.zero → ∀ i : Fin (parsed w g).2.leases.length,
      (parsed w g).2.leases[i].mac = (parsed w g).2.client → w.clock 0 < (parsed w g).2.leases[i].expiry →
        ((parsed w g).2.opt.msgtype = MsgType.discover → (parsed w g).2.leases[i].expiry ≤ w.clock 2 + offertime) ∧
        ((parsed w g).2.opt.msgtype = MsgType.request →
          leaseResponse (parsed w g).2 (dhcpLeaseipaddr i srv.startip) = MsgType.ack → w.sendto = true →
            (parsed w g).2.leases[i].expiry ≤ w.clock 0 + (grantedTime (parsed w g).2.opt).toNat)) <| by
    constructor
    · intro h nonzero i l found
      obtain ⟨bound, rfl⟩ := List.getElem?_eq_some_iff.1 found
      exact h nonzero ⟨i, bound⟩
    · intro h nonzero i
      exact h nonzero i _ (List.getElem?_eq_getElem i.isLt)

theorem hold_of_pool {T : List Lease} {i : Nat} {m : Mac} {d : Int} (h : pool T i = some ⟨some m, d⟩) :
    ∃ l, T[i]? = some l ∧ l.mac = m ∧ m ≠ Mac.zero ∧ l.expiry = d := by
  obtain ⟨l, found, held⟩ := Option.bind_eq_some_iff.1 h
  unfold Lease.hold at held
  split at held
  · simp only [Option.some.injEq, Hold.mk.injEq] at held
    obtain ⟨named, deadline⟩ := held
    obtain ⟨mac, nonzero⟩ := ownerOf_eq_some.1 named
    exact ⟨l, found, mac, nonzero, deadline⟩
  · cases held

/-- A keeping call keeps deadlines, as an act of the pool. -/
theorem Keeping.keeps {srv : Handle} {w : World} {g : State} {T : List Lease} {ps : List Sent} {a : Pool.Act Nat Mac Int}
    (keeping : Keeping srv w g) (ordered : ∀ j k, j ≤ k → w.clock j ≤ w.clock k)
    (reflects : Reflects srv (Ctx.start (parsed w g).2 w) T ps a) : Pool.Keeps (pool (parsed w g).2.leases) a := by
  intro i c t d e acts held
  obtain ⟨l, found, mac, nonzero, rfl⟩ := hold_of_pool held
  obtain ⟨who, how⟩ := reflects.takes acts
  obtain ⟨client, -⟩ := ownerOf_eq_some.1 who.symm
  have client : (parsed w g).2.client = c := client
  have keep := keeping (client ▸ nonzero) i l found (mac.trans client.symm)
  by_cases running : w.clock 0 < l.expiry
  · obtain ⟨onDiscover, onRequest⟩ := keep running
    rcases how with ⟨type, k, rfl, two⟩ | ⟨type, response, can, rfl, rfl⟩
    · obtain rfl := two l found (mac.trans client.symm) running
      exact onDiscover type
    · exact onRequest type response can
  · rcases how with ⟨-, k, rfl, -⟩ | ⟨-, -, -, rfl, rfl⟩
    · have := ordered 0 k (Nat.zero_le k)
      simp only [Ctx.start, offertime]
      omega
    · simp only [Ctx.start]
      omega

/-- **One call.** A guarded address stays guarded, or the guard's deadline has passed. -/
theorem guarded_call {fuel : Nat} {srv : Handle} {c : Answered} {m : Mac} {i : Nat} {D : Int}
    (inv : Inv srv c.before) (answered : loopHandler fuel srv c.input c.before = .ok (c.after, c.output))
    (keeping : Keeping srv c.input c.before) (ordered : ∀ j k, j ≤ k → c.input.clock j ≤ c.input.clock k)
    (guarded : (pool c.before.leases).Guarded m i D) (kept : ¬ Drops c m) :
    (pool c.after.leases).Guarded m i D ∨ ∃ k, D ≤ c.input.clock k := by
  obtain ⟨a, reflects⟩ := loopHandler_reflects inv answered
  obtain ⟨-, handles⟩ := loopHandler_outcome inv.sized answered
  have keeps := keeping.keeps ordered reflects
  have step := reflects.step
  simp only [Ctx.start] at step
  rw [parsed_leases] at step keeps
  have undropped : ∀ h, a ≠ .drop (some m) i h := by
    intro h dropped
    obtain ⟨type, who⟩ := reflects.drops dropped
    apply kept
    refine ⟨by rw [handles.opt]; exact type, ?_⟩
    rw [State.client, handles.inpacket, ← parsed_inpacket]
    exact (ownerOf_eq_some.1 who.symm).1
  rcases step.guarded guarded keeps undropped with still | ⟨t, acts, passed⟩
  · exact Or.inl still
  · obtain ⟨k, rfl⟩ := reflects.reads acts
    exact Or.inr ⟨k, passed⟩

/-- **A run.** -/
theorem guarded_run {fuel : Nat} {srv : Handle} {g g' : State} {cs : Calls} {m : Mac} {i : Nat} {D : Int}
    (run : Run (loopHandler fuel srv) g cs g') (inv : Inv srv g) (keeping : ∀ c ∈ cs, Keeping srv c.input c.before)
    (ordered : ∀ c ∈ cs, ∀ j k, j ≤ k → c.input.clock j ≤ c.input.clock k) (guarded : (pool g.leases).Guarded m i D)
    (kept : ∀ c ∈ cs, ¬ Drops c m) : (pool g'.leases).Guarded m i D ∨ ∃ c ∈ cs, ∃ k, D ≤ c.input.clock k := by
  induction run with
  | nil => exact Or.inl guarded
  | @cons s s' s'' e o cs answered rest ih =>
    have first := guarded_call (c := ⟨s, e, s', o⟩) inv answered (keeping _ (List.mem_cons_self ..))
      (ordered _ (List.mem_cons_self ..)) guarded (kept _ (List.mem_cons_self ..))
    rcases first with still | ⟨k, passed⟩
    · rcases ih (loopHandler_inv inv answered) (fun c hc => keeping c (List.mem_cons_of_mem _ hc))
        (fun c hc => ordered c (List.mem_cons_of_mem _ hc)) still (fun c hc => kept c (List.mem_cons_of_mem _ hc)) with
        still | ⟨c, member, passed⟩
      · exact Or.inl still
      · exact Or.inr ⟨c, List.mem_cons_of_mem _ member, passed⟩
    · exact Or.inr ⟨_, List.mem_cons_self .., k, passed⟩

/-- An ACK guards the address it grants. -/
theorem guarded_ack {fuel : Nat} {srv : Handle} {w : World} {g g' : State} {ps : List Sent} {p : Sent} {leasetime : BitVec 32}
    (inv : Inv srv g) (answered : loopHandler fuel srv w g = .ok (g', ps)) (sent : p ∈ ps) (isAck : typeOf p.bytes = MsgType.ack)
    (nonzero : chaddrOf p.bytes ≠ Mac.zero)
    (lease : optionOf Code.leaseTime p.bytes = some (Mem.wordBytes (htonl leasetime))) :
    ∃ i, i < g.leases.length ∧ yiaddrOf p.bytes = htonl (dhcpLeaseipaddr i srv.startip) ∧
      (pool g'.leases).Guarded (chaddrOf p.bytes) i (p.time + leasetime.toNat) := by
  obtain ⟨a, reflects⟩ := loopHandler_reflects inv answered
  obtain ⟨client, i, k, k', d, acts, -, -, bound, yiaddr, deadline⟩ := reflects.assigns p sent (Or.inr isAck)
  obtain ⟨grants, rfl⟩ := deadline isAck
  rw [Grants, lease] at grants
  have same : leasetime = grantedTime (Ctx.start (parsed w g).2 w).g.opt :=
    Mem.swap_injective (Mem.wordBytes_injective (Option.some.inj grants))
  refine ⟨i, ?_, yiaddr, ?_⟩
  · rwa [Ctx.start, parsed_leases] at bound
  · have step := reflects.step
    rw [acts] at step
    generalize taken : pool g'.leases = q at step
    cases step with
    | take =>
      refine ⟨_, ?_, le_of_eq (by rw [same])⟩
      rw [Function.update_self, ← client, ownerOf, if_neg nonzero]

/-- An address under guard is given to another client only after the deadline. -/
theorem guarded_assign {fuel : Nat} {srv : Handle} {w : World} {g g' : State} {ps : List Sent} {p : Sent} {m : Mac} {i : Nat} {D : Int}
    (inv : Inv srv g) (answered : loopHandler fuel srv w g = .ok (g', ps)) (ordered : ∀ j k, j ≤ k → w.clock j ≤ w.clock k)
    (guarded : (pool g.leases).Guarded m i D) (bound : i < g.leases.length) (sent : p ∈ ps)
    (assigns : typeOf p.bytes = MsgType.offer ∨ typeOf p.bytes = MsgType.ack)
    (same : yiaddrOf p.bytes = htonl (dhcpLeaseipaddr i srv.startip)) (early : p.time < D) : chaddrOf p.bytes = m := by
  obtain ⟨a, reflects⟩ := loopHandler_reflects inv answered
  obtain ⟨client, j, k, k', d, acts, le, time, bound', yiaddr, -⟩ := reflects.assigns p sent assigns
  have step := reflects.step
  simp only [Ctx.start] at step time bound'
  rw [parsed_leases] at step bound'
  have few : g.leases.length < 2 ^ 32 := by
    rw [inv.sized]
    exact srv.numLeases.isLt
  have slot : j = i := by
    have addresses := Mem.swap_injective (yiaddr.symm.trans same)
    have left := leaseipaddr_sub (i := j) (by omega) srv.startip
    rw [addresses, leaseipaddr_sub (by omega)] at left
    exact left.symm
  subst slot
  by_contra other
  have passed := step.guard guarded (t := w.clock k) (Or.inl ⟨_, d, ?_, acts⟩)
  · have := ordered k k' le
    omega
  · intro mine
    exact other (client.trans (ownerOf_eq_some.1 mine).1)

/-- **Exclusivity.** In every run whose calls all leave running leases their deadlines,
an address granted by an ACK goes to no other client before the lease has ended. -/
theorem lease_exclusive {fuel : Nat} {srv : Handle} {serverip : Addr} {cs : Calls} {g' : State}
    (run : Run (loopHandler fuel srv) (State.boot srv serverip) cs g') (ordered : Ordered cs)
    (keeping : ∀ c ∈ cs, Keeping srv c.input c.before) : Exclusive cs := by
  rintro xs r ys q zs rfl p sent isAck nonzero leasetime lease kept p' sent' assigns same early
  obtain ⟨g₁, before, later⟩ := run.split
  have inv₁ : Inv srv g₁ := before.invariant (boot_inv srv serverip) fun e t t' o inv answered => loopHandler_inv inv answered
  obtain ⟨rfl, granted, rest⟩ := later.head
  obtain ⟨i, bound, yiaddr, guarded⟩ := guarded_ack inv₁ granted sent isAck nonzero lease
  have inv₂ := loopHandler_inv inv₁ granted
  obtain ⟨g₂, between, last⟩ := rest.split
  have inv₃ : Inv srv g₂ := between.invariant inv₂ fun e t t' o inv answered => loopHandler_inv inv answered
  obtain ⟨rfl, answered, -⟩ := last.head
  have inRun : ∀ c ∈ ys, c ∈ xs ++ r :: (ys ++ q :: zs) := by
    intro c member
    simp [member]
  have qInRun : q ∈ xs ++ r :: (ys ++ q :: zs) := by simp
  have size : r.before.leases.length = q.before.leases.length := inv₁.sized.trans inv₃.sized.symm
  rcases guarded_run between inv₂ (fun c member => keeping c (inRun c member)) (fun c member => ordered.within c (inRun c member))
    guarded kept with still | ⟨c, member, k, passed⟩
  · exact guarded_assign inv₃ answered (ordered.within q qInRun) still (size ▸ bound) sent' assigns (same.trans yiaddr) early
  · -- the deadline passed before the last call
    exfalso
    obtain ⟨a, reflects⟩ := loopHandler_reflects inv₃ answered
    obtain ⟨-, -, -, k', -, -, -, time, -⟩ := reflects.assigns p' sent' assigns
    have order := ordered.across
    rw [List.pairwise_append, List.pairwise_cons, List.pairwise_append] at order
    have := order.2.1.2.2.2 c member q (List.mem_cons_self ..) k k'
    simp only [Ctx.start] at time
    omega

/-! ## Two runs of a server with one address -/

theorem lease_exclusive_oneAddress :
    ∃ cs g', Run (loopHandler 2 oneAddress) (State.boot oneAddress 0x0101a8c0) cs g' ∧ cs.length = 3 ∧ Exclusive cs := by
  have computed : execTest (loopHandler 2 oneAddress)
      [receives 0 firstMac discoverOptions, receives 1 firstMac requestOptions, receives 2592000 secondMac discoverOptions]
      (State.boot oneAddress 0x0101a8c0) (fun cs => cs.all fun c => decide (Keeping oneAddress c.input c.before)) = true := by
    decide +kernel
  obtain ⟨cs, g', run, inputs, keeping⟩ := execTest_run computed
  refine ⟨cs, g', run, by simpa using congrArg List.length inputs, lease_exclusive run (ordered_of_inputs inputs ?_ ?_) ?_⟩
  · intro w member j k _
    simp only [List.mem_cons, List.not_mem_nil, or_false] at member
    rcases member with rfl | rfl | rfl <;> exact le_rfl
  · simp [receives]
  · intro c member
    exact of_decide_eq_true (List.all_eq_true.1 keeping c member)

/-- The second call grants the address to one client for ten days and the last call,
an hour later, offers it to another, with no DECLINE or RELEASE between. -/
def Reoffered (cs : Calls) : Bool :=
  match cs with
  | [_, r, c, q] =>
    match r.output, q.output with
    | [p], [p'] => decide <|
      typeOf p.bytes = MsgType.ack ∧ chaddrOf p.bytes ≠ Mac.zero ∧
        optionOf Code.leaseTime p.bytes = some (Mem.wordBytes (htonl leasetimeDefault)) ∧ ¬ Drops c (chaddrOf p.bytes) ∧
          typeOf p'.bytes = MsgType.offer ∧ yiaddrOf p'.bytes = yiaddrOf p.bytes ∧
            p'.time < p.time + leasetimeDefault.toNat ∧ chaddrOf p'.bytes ≠ chaddrOf p.bytes
    | _, _ => false
  | _ => false

/-- A DISCOVER from the holder shortens its lease to an hour. -/
theorem lease_not_exclusive :
    ∃ cs g', Run (loopHandler 2 oneAddress) (State.boot oneAddress 0x0101a8c0) cs g' ∧ Ordered cs ∧ ¬ Exclusive cs := by
  have computed : execTest (loopHandler 2 oneAddress)
      [receives 0 firstMac discoverOptions, receives 1 firstMac requestOptions, receives 2 firstMac discoverOptions,
        receives 3602 secondMac discoverOptions]
      (State.boot oneAddress 0x0101a8c0) Reoffered = true := by
    decide +kernel
  obtain ⟨cs, g', run, inputs, reoffered⟩ := execTest_run computed
  refine ⟨cs, g', run, ordered_of_inputs inputs ?_ ?_, fun exclusive => ?_⟩
  · intro w member j k _
    simp only [List.mem_cons, List.not_mem_nil, or_false] at member
    rcases member with rfl | rfl | rfl | rfl <;> exact le_rfl
  · simp [receives]
  · unfold Reoffered at reoffered
    split at reoffered
    · rename_i first r c q
      split at reoffered
      · rename_i p p' out out'
        obtain ⟨isAck, nonzero, lease, kept, isOffer, same, early, other⟩ := of_decide_eq_true reoffered
        refine other (exclusive [first] r [c] q [] rfl p (by simp [out]) isAck nonzero _ lease ?_ p' (by simp [out'])
          (Or.inl isOffer) same early)
        intro d member
        rw [List.mem_singleton.1 member]
        exact kept
      · cases reoffered
    · cases reoffered

end ArtikSdk.Dhcp.Server
