import ArtikSdk.Dhcp.Server.Outcome
import ArtikSdk.Lib.Pool

/-!
# DHCP server: the lease table is an address pool

`pool` reads a lease table as a pool: an allocated slot is held, by its MAC address or,
where that is zero, by nobody. Every outcome of a call is one act of the pool, so the
facts of the pool hold of every run of the server; `Valid` is the invariant of the table
that the reading needs.
-/

namespace ArtikSdk.Dhcp.Server
open Lib

/-- The client a MAC address stands for; the zero address marks a slot without client. -/
def ownerOf (mac : Mac) : Option Mac := if mac = Mac.zero then none else some mac

/-- What a slot holds. -/
def Lease.hold (l : Lease) : Option (Hold Mac Int) := if l.allocated then some ⟨ownerOf l.mac, l.expiry⟩ else none

/-- The pool of a lease table. -/
def pool (T : List Lease) : Pool Nat Mac Int := fun i => (T[i]?).bind Lease.hold

/-- The table invariant: no client has two slots, and its slot is allocated. -/
structure Valid (T : List Lease) : Prop where
  unique : ∀ {i j : Nat} {l l' : Lease}, T[i]? = some l → T[j]? = some l' → l.mac = l'.mac → l.mac ≠ Mac.zero → i = j
  allocated : ∀ {i : Nat} {l : Lease}, T[i]? = some l → l.mac ≠ Mac.zero → l.allocated = true

@[simp] theorem ownerOf_zero : ownerOf Mac.zero = none := rfl

theorem ownerOf_eq_some {mac m : Mac} : ownerOf mac = some m ↔ mac = m ∧ m ≠ Mac.zero := by
  unfold ownerOf
  split
  · rename_i zero
    subst zero
    simp [eq_comm]
  · rename_i nonzero
    simp only [Option.some.injEq]
    exact ⟨fun same => ⟨same, same ▸ nonzero⟩, And.left⟩

theorem hold_owner (l : Lease) : l.hold.bind Hold.owner = if l.allocated then ownerOf l.mac else none := by
  unfold Lease.hold
  split <;> rfl

theorem owner_pool {T : List Lease} {i : Nat} {l : Lease} (found : T[i]? = some l) :
    (pool T).owner i = if l.allocated then ownerOf l.mac else none := by
  rw [Pool.owner, pool, found, Option.bind_some, hold_owner]

theorem owner_pool_some {T : List Lease} {i : Nat} {m : Mac} :
    (pool T).owner i = some m ↔ ∃ l, T[i]? = some l ∧ l.allocated = true ∧ l.mac = m ∧ m ≠ Mac.zero := by
  cases found : T[i]? with
  | none => simp [Pool.owner, pool, found]
  | some l =>
    rw [owner_pool found]
    simp only [Option.some.injEq, exists_eq_left']
    split
    · rename_i held
      rw [ownerOf_eq_some]
      simp [held]
    · rename_i free
      simp [free]

/-- In a valid table the holder of a slot is the client of its MAC address. -/
theorem Valid.owner {T : List Lease} (valid : Valid T) {i : Nat} {l : Lease} (found : T[i]? = some l) :
    (pool T).owner i = ownerOf l.mac := by
  rw [owner_pool found]
  split
  · rfl
  · rename_i free
    by_cases zero : l.mac = Mac.zero
    · rw [zero, ownerOf_zero]
    · exact absurd (valid.allocated found zero) free

theorem pool_set {T : List Lease} {i : Nat} {l₀ : Lease} (found : T[i]? = some l₀) (l : Lease) :
    pool (T.set i l) = Function.update (pool T) i l.hold := by
  have bound := (List.getElem?_eq_some_iff.1 found).1
  funext j
  by_cases same : j = i
  · subst same
    rw [Function.update_self, pool, List.getElem?_set_self bound, Option.bind_some]
  · rw [Function.update_of_ne same, pool, List.getElem?_set_ne (Ne.symm same), pool]

theorem open_pool {T : List Lease} {i : Nat} {l : Lease} {t : Int} (found : T[i]? = some l)
    (passed : l.allocated = false ∨ l.expiry ≤ t) : (pool T).Open i t := by
  intro h held
  rw [pool, found, Option.bind_some, Lease.hold] at held
  split at held
  · rename_i taken
    cases held
    exact passed.resolve_left (by simp [taken])
  · cases held

/-- A table is valid where its pool has unique holders and its clients' slots are
allocated. -/
theorem valid_of_unique {T : List Lease} (unique : (pool T).Unique)
    (allocated : ∀ {i : Nat} {l : Lease}, T[i]? = some l → l.mac ≠ Mac.zero → l.allocated = true) : Valid T where
  unique := by
    intro i j l l' found found' same nonzero
    have here := owner_pool_some.2 ⟨l, found, allocated found nonzero, rfl, nonzero⟩
    have there := owner_pool_some.2 ⟨l', found', allocated found' (same ▸ nonzero), same.symm, nonzero⟩
    exact unique _ _ _ here there
  allocated := allocated

theorem Valid.poolUnique {T : List Lease} (valid : Valid T) : (pool T).Unique := by
  intro c i j here there
  obtain ⟨l, found, -, mac, nonzero⟩ := owner_pool_some.1 here
  obtain ⟨l', found', -, mac', -⟩ := owner_pool_some.1 there
  exact valid.unique found found' (mac.trans mac'.symm) (mac ▸ nonzero)

/-! ## Every call is an act of the pool -/

/-- The lease time an ACK carries. -/
def Grants (g : State) (p : Sent) : Prop :=
  optionOf Code.leaseTime p.bytes = some (Mem.wordBytes (htonl (grantedTime g.opt)))

/-- The call whose dispatch starts in `s` makes the table `T` and sends `ps`: what that
is as an act of the pool. -/
structure Reflects (srv : Handle) (s : Ctx) (T : List Lease) (ps : List Sent) (a : Pool.Act Nat Mac Int) : Prop where
  step : Pool.Step a (pool s.g.leases) (pool T)
  reads : ∀ {i t}, a.At i t → ∃ k, t = s.clock k
  takes : ∀ {i c t d}, a = .take i c t d →
    c = ownerOf s.g.client ∧
      ((s.g.opt.msgtype = MsgType.discover ∧ ∃ k, d = s.clock k + offertime ∧
          ∀ l, s.g.leases[i]? = some l → l.mac = s.g.client → s.clock 0 < l.expiry → k = 2) ∨
        s.g.opt.msgtype = MsgType.request ∧ leaseResponse s.g (dhcpLeaseipaddr i srv.startip) = MsgType.ack ∧
          s.sendto = true ∧ t = s.clock 0 ∧ d = t + (grantedTime s.g.opt).toNat)
  drops : ∀ {c i h}, a = .drop c i h →
    (s.g.opt.msgtype = MsgType.decline ∨ s.g.opt.msgtype = MsgType.release) ∧ c = ownerOf s.g.client
  assigns : ∀ p ∈ ps, typeOf p.bytes = MsgType.offer ∨ typeOf p.bytes = MsgType.ack →
    chaddrOf p.bytes = s.g.client ∧ ∃ i k k' d, a = .take i (ownerOf s.g.client) (s.clock k) d ∧ k ≤ k' ∧ p.time = s.clock k' ∧
      i < s.g.leases.length ∧ yiaddrOf p.bytes = htonl (dhcpLeaseipaddr i srv.startip) ∧
      (typeOf p.bytes = MsgType.ack → Grants s.g p ∧ d = p.time + (grantedTime s.g.opt).toNat)

theorem Assigns.facts {srv : Handle} {g : State} {mtype : Byte} {i : Nat} {leasetime : BitVec 32} {dns : List Addr} {p : Sent}
    (h : Assigns srv g mtype i leasetime dns p) :
    typeOf p.bytes = mtype ∧ yiaddrOf p.bytes = htonl (dhcpLeaseipaddr i srv.startip) ∧ chaddrOf p.bytes = g.client ∧
      optionOf Code.leaseTime p.bytes = some (Mem.wordBytes (htonl leasetime)) := by
  have carries := leaseOptions_carries mtype g.serverip srv leasetime dns
  refine ⟨Carried.typeOf h leaseOptions_plain carries.msgType, Carried.yiaddrOf h, Carried.chaddrOf h, ?_⟩
  obtain ⟨g₀, g', -, reply, bytes⟩ := h
  rw [bytes, optionOf, reply.optionsOf leaseOptions_plain, Option.bind_some, Tlv.last, carries.leaseTime]
  rfl

/-- The client of a message may take the slot it is offered. -/
theorem MayOffer.may {s : Ctx} (valid : Valid s.g.leases) {i k : Nat} {l : Lease} (found : s.g.leases[i]? = some l)
    (may : MayOffer s l k) :
    ∃ j ≤ k, (pool s.g.leases).owner i = ownerOf s.g.client ∨
      (∀ m, ownerOf s.g.client = some m → ∀ j, (pool s.g.leases).owner j ≠ some m) ∧ (pool s.g.leases).Open i (s.clock j) := by
  rcases may with ⟨mac, -⟩ | ⟨unknown, free⟩
  · exact ⟨k, le_rfl, Or.inl (by rw [valid.owner found, mac])⟩
  · have nothing : ∀ m, ownerOf s.g.client = some m → ∀ j, (pool s.g.leases).owner j ≠ some m := by
      intro m named j held
      obtain ⟨l', found', -, mac', -⟩ := owner_pool_some.1 held
      exact unknown j l' found' (mac'.trans (ownerOf_eq_some.1 named).1.symm)
    rcases free with free | ⟨j, le, passed⟩
    · exact ⟨k, le_rfl, Or.inr ⟨nothing, open_pool found (Or.inl free)⟩⟩
    · exact ⟨j, le, Or.inr ⟨nothing, open_pool found (Or.inr passed)⟩⟩

/-- A slot that is offered is taken, with the deadline of the offer. -/
theorem offer_reflects {srv : Handle} {s : Ctx} {i k : Nat} {l : Lease} {ps : List Sent} (valid : Valid s.g.leases)
    (type : s.g.opt.msgtype = MsgType.discover) (found : s.g.leases[i]? = some l) (may : MayOffer s l k)
    (sends : Sends s (fun p => p.time = s.clock (k + 1) ∧
      ∃ leasetime, Assigns srv s.g MsgType.offer i leasetime (srv.dnsAddr.map htonl) p) ps) :
    ∃ a, Reflects srv s (s.g.leases.set i ⟨s.g.client, true, s.clock k + offertime⟩) ps a := by
  obtain ⟨j, early, free⟩ := may.may valid found
  refine ⟨.take i (ownerOf s.g.client) (s.clock j) (s.clock k + offertime), ?_, ?_, ?_, ?_, ?_⟩
  · rw [pool_set found]
    exact .take free
  · rintro i' t (⟨c, d, same⟩ | no)
    · cases same
      exact ⟨j, rfl⟩
    · cases no
  · rintro i' c t d same
    cases same
    refine ⟨rfl, Or.inl ⟨type, k, rfl, fun l' found' mac running => ?_⟩⟩
    rw [found] at found'
    cases found'
    rcases may with ⟨-, ⟨-, two⟩ | passed⟩ | ⟨unknown, -⟩
    · exact two
    · omega
    · exact absurd mac (unknown i l found)
  · rintro c i h no
    cases no
  · intro p member assigned
    rcases sends with ⟨-, q, ⟨time, leasetime, offered⟩, one⟩ | ⟨-, none'⟩
    · obtain rfl : p = q := by simpa [one] using member
      obtain ⟨isOffer, yiaddr, chaddr, -⟩ := offered.facts
      refine ⟨chaddr, i, j, k + 1, _, rfl, by omega, time, (List.getElem?_eq_some_iff.1 found).1, yiaddr, fun isAck => ?_⟩
      rw [isOffer] at isAck
      cases isAck
    · rw [none'] at member
      cases member

/-- A slot that is acknowledged is taken, with the deadline that the client is told. -/
theorem ack_reflects {srv : Handle} {s : Ctx} {i : Nat} {l : Lease} {p : Sent} (valid : Valid s.g.leases)
    (type : s.g.opt.msgtype = MsgType.request) (found : s.g.leases[i]? = some l) (mac : l.mac = s.g.client)
    (response : leaseResponse s.g (dhcpLeaseipaddr i srv.startip) = MsgType.ack) (can : s.sendto = true)
    (time : p.time = s.clock 0) (granted : Assigns srv s.g MsgType.ack i (grantedTime s.g.opt) srv.dnsAddr p) :
    ∃ a, Reflects srv s (s.g.leases.set i ⟨s.g.client, true, s.clock 0 + (grantedTime s.g.opt).toNat⟩) [p] a := by
  refine ⟨.take i (ownerOf s.g.client) (s.clock 0) (s.clock 0 + (grantedTime s.g.opt).toNat), ?_, ?_, ?_, ?_, ?_⟩
  · rw [pool_set found]
    exact .take (Or.inl (by rw [valid.owner found, mac]))
  · rintro i' t (⟨c, d, same⟩ | no)
    · cases same
      exact ⟨0, rfl⟩
    · cases no
  · rintro i' c t d same
    cases same
    exact ⟨rfl, Or.inr ⟨type, response, can, rfl, rfl⟩⟩
  · rintro c i h no
    cases no
  · intro q member assigned
    obtain rfl : q = p := by simpa using member
    obtain ⟨-, yiaddr, chaddr, lease⟩ := granted.facts
    exact ⟨chaddr, i, 0, 0, _, rfl, le_rfl, time, (List.getElem?_eq_some_iff.1 found).1, yiaddr,
      fun _ => ⟨lease, by rw [time]⟩⟩

/-- A slot that is declined or released is dropped. -/
theorem drop_reflects {srv : Handle} {s : Ctx} {i : Nat} {h : Option (Hold Mac Int)} {T : List Lease}
    (type : s.g.opt.msgtype = MsgType.decline ∨ s.g.opt.msgtype = MsgType.release)
    (step : Pool.Step (.drop (ownerOf s.g.client) i h) (pool s.g.leases) (pool T)) :
    Reflects srv s T [] (.drop (ownerOf s.g.client) i h) := by
  refine ⟨step, ?_, ?_, ?_, ?_⟩
  · rintro i' t (⟨c, d, no⟩ | no) <;> cases no
  · rintro i c t d no
    cases no
  · rintro c i h same
    cases same
    exact ⟨type, rfl⟩
  · intro p member
    cases member

/-- **Refinement**: on a valid table every outcome is an act of the pool. -/
theorem Outcome.reflects {srv : Handle} {s : Ctx} {T : List Lease} {ps : List Sent} (valid : Valid s.g.leases)
    (h : Outcome srv s T ps) : ∃ a, Reflects srv s T ps a := by
  cases h with
  | idle quiet =>
    refine ⟨.idle, .idle, ?_, ?_, ?_, ?_⟩
    · rintro i t (⟨c, d, no⟩ | no) <;> cases no
    · rintro i c t d no
      cases no
    · rintro c i h no
      cases no
    · intro p member assigned
      rcases quiet with none' | ⟨q, carried, one⟩
      · rw [none'] at member
        cases member
      · obtain rfl : p = q := by simpa [one] using member
        have isNak : typeOf p.bytes = MsgType.nak := carried.typeOf initOptions_plain rfl
        rw [isNak] at assigned
        rcases assigned with no | no <;> cases no
  | @lapse i k l found passed =>
    refine ⟨.lapse i (s.clock k), ?_, ?_, ?_, ?_, ?_⟩
    · rw [pool_set found]
      exact .lapse (open_pool found (Or.inr passed))
    · rintro i' t (⟨c, d, no⟩ | same)
      · cases no
      · cases same
        exact ⟨k, rfl⟩
    · rintro i c t d no
      cases no
    · rintro c i h no
      cases no
    · intro p member
      cases member
  | offer type found _ may sends => exact offer_reflects valid type found may sends
  | ack type found mac response can time granted => exact ack_reflects valid type found mac response can time granted
  | @decline i l type found mac =>
    refine ⟨_, drop_reflects (i := i) (h := Lease.hold { l with mac := Mac.zero, expiry := s.clock 0 + declinetime }) (Or.inl type) ?_⟩
    rw [pool_set found]
    refine .drop (by rw [valid.owner found, mac]) ?_
    rw [hold_owner]
    split <;> rfl
  | @release i l type found mac =>
    refine ⟨_, drop_reflects (i := i) (h := none) (Or.inr type) ?_⟩
    rw [pool_set found]
    exact .drop (by rw [valid.owner found, mac]) rfl

/-! ## The invariant -/

/-- Slots with a client are allocated: it is enough to look at the slot that is written. -/
theorem allocated_set {T : List Lease} (all : ∀ {i : Nat} {l : Lease}, T[i]? = some l → l.mac ≠ Mac.zero → l.allocated = true)
    {i : Nat} {l : Lease} (own : l.mac ≠ Mac.zero → l.allocated = true) {j : Nat} {l' : Lease}
    (found : (T.set i l)[j]? = some l') (nonzero : l'.mac ≠ Mac.zero) : l'.allocated = true := by
  rw [List.getElem?_set] at found
  split at found
  · split at found
    · cases found
      exact own nonzero
    · cases found
  · exact all found nonzero

theorem Outcome.allocated {srv : Handle} {s : Ctx} {T : List Lease} {ps : List Sent} (valid : Valid s.g.leases)
    (h : Outcome srv s T ps) {i : Nat} {l : Lease} (found : T[i]? = some l) (nonzero : l.mac ≠ Mac.zero) : l.allocated = true := by
  cases h with
  | idle => exact valid.allocated found nonzero
  | lapse => exact allocated_set valid.allocated (fun no => absurd rfl no) found nonzero
  | offer => exact allocated_set valid.allocated (fun _ => rfl) found nonzero
  | ack => exact allocated_set valid.allocated (fun _ => rfl) found nonzero
  | decline => exact allocated_set valid.allocated (fun no => absurd rfl no) found nonzero
  | release => exact allocated_set valid.allocated (fun no => absurd rfl no) found nonzero

/-- Every outcome keeps the table valid. -/
theorem Outcome.valid {srv : Handle} {s : Ctx} {T : List Lease} {ps : List Sent} (valid : Valid s.g.leases)
    (h : Outcome srv s T ps) : Valid T := by
  obtain ⟨a, reflects⟩ := h.reflects valid
  exact valid_of_unique (reflects.step.unique valid.poolUnique) (h.allocated valid)

/-- What every state of a running server satisfies. -/
structure Inv (srv : Handle) (g : State) : Prop where
  sized : Sized srv g
  valid : Valid g.leases

theorem boot_inv (srv : Handle) (serverip : Addr) : Inv srv (State.boot srv serverip) := by
  have zero : ∀ {i : Nat} {l : Lease}, (State.boot srv serverip).leases[i]? = some l → l = Lease.zero := by
    intro i l found
    exact List.eq_of_mem_replicate (List.mem_of_getElem? found)
  refine ⟨boot_sized srv serverip, ?_, ?_⟩
  · intro i j l l' found _ _ nonzero
    rw [zero found] at nonzero
    exact absurd rfl nonzero
  · intro i l found nonzero
    rw [zero found] at nonzero
    exact absurd rfl nonzero

theorem loopHandler_inv {fuel : Nat} {srv : Handle} {w : World} {g g' : State} {ps : List Sent} (inv : Inv srv g)
    (h : loopHandler fuel srv w g = .ok (g', ps)) : Inv srv g' := by
  refine ⟨loopHandler_sized inv.sized h, ?_⟩
  apply (loopHandler_outcome inv.sized h).1.valid
  rw [Ctx.start, parsed_leases]
  exact inv.valid

/-- What a call does, as an act of the pool. -/
theorem loopHandler_reflects {fuel : Nat} {srv : Handle} {w : World} {g g' : State} {ps : List Sent} (inv : Inv srv g)
    (h : loopHandler fuel srv w g = .ok (g', ps)) :
    ∃ a, Reflects srv (Ctx.start (parsed w g).2 w) g'.leases ps a := by
  apply (loopHandler_outcome inv.sized h).1.reflects
  rw [Ctx.start, parsed_leases]
  exact inv.valid

end ArtikSdk.Dhcp.Server
