import ArtikSdk.Network.Handles

/-!
# The delay of a renewal

A lease is to be renewed 30 seconds before it ends. Both places that arm the timer compute
`(ds.lease_time-(30))*1000` on 32 bits: the difference is below zero for a lease of less than 30
seconds, and the product does not fit for one of more than 4294997.
-/

namespace ArtikSdk.Network.Dhcp
open Lib ArtikSdk.Dhcp
open ArtikSdk.Dhcp.Client (DhcpcState)

/-- The lease that the server gives at a step. -/
def Input.lease : Input → Option (BitVec 32)
  | .clientStart _ answers => answers.request.map DhcpcState.leaseTime
  | .fire _ answers => answers.request.map DhcpcState.leaseTime
  | _ => none

/-- The loop is given this delay: there is a renewal that was not there. -/
def Arms (c : Call Input State Output) (msec : BitVec 32) : Prop :=
  ∃ x ∈ c.after.sources, x ∉ c.before.sources ∧ ∃ place, x.callback = .renew msec place

/-- A delay that ends within the lease, computed without a wrap. -/
structure Timely (lease msec : BitVec 32) : Prop where
  positive : 0 < msec.toNat
  early : msec.toNat < 1000 * lease.toNat
  exact : (msec.toNat : Int) = ((lease.toNat : Int) - 30) * 1000

def Input.isClientStart : Input → Prop
  | .clientStart _ _ => True
  | _ => False

def Input.isFire : Input → Prop
  | .fire _ _ => True
  | _ => False

/-- In every run, the steps of this kind that are given the lease arm their timer in time. -/
def TimelyAt (kind : Input → Prop) (lease : BitVec 32) : Prop :=
  ∀ regexec inetAddr calls s, Run (step regexec inetAddr) .init calls s → ∀ c ∈ calls, kind c.input → c.input.lease = some lease →
    ∀ msec, Arms c msec → Timely lease msec

theorem renewalTime_toNat (ds : DhcpcState) :
    (renewalTime ds).toNat = (2 ^ 32 - 30 + ds.leaseTime.toNat) % 2 ^ 32 * 1000 % 2 ^ 32 := by
  have thirty : (30 : BitVec 32).toNat = 30 := by decide
  have thousand : (1000 : BitVec 32).toNat = 1000 := by decide
  rw [renewalTime, BitVec.toNat_mul, BitVec.toNat_sub, thirty, thousand]

theorem renewalTime_inside {ds : DhcpcState} (least : 30 < ds.leaseTime.toNat) (most : ds.leaseTime.toNat ≤ 4294997) :
    (renewalTime ds).toNat = (ds.leaseTime.toNat - 30) * 1000 := by
  rw [renewalTime_toNat]
  omega

theorem timely_renewalTime_iff (ds : DhcpcState) :
    Timely ds.leaseTime (renewalTime ds) ↔ 30 < ds.leaseTime.toNat ∧ ds.leaseTime.toNat ≤ 4294997 := by
  constructor
  · rintro ⟨positive, early, exact⟩
    have bound := ds.leaseTime.isLt
    rw [renewalTime_toNat] at positive early exact
    omega
  · rintro ⟨least, most⟩
    have inside := renewalTime_inside least most
    refine ⟨?_, ?_, ?_⟩
    · omega
    · omega
    · omega

/-! ## What a step arms -/

section Steps

variable {s s' : State} {x : Source}

/-- `x` is a renewal for the lease that a step was given. -/
def OnLease (request : Option DhcpcState) (x : Source) : Prop :=
  ∃ ds place, request = some ds ∧ x.callback = .renew (renewalTime ds) place

theorem mem_removeSource {id : Nat} {t : State} (removed : s.removeSource id = some t) (member : x ∈ t.sources) : x ∈ s.sources := by
  unfold State.removeSource at removed
  split at removed
  · cases removed
    exact List.mem_of_mem_filter member
  · cases removed

theorem clientStart_arms {handle : Option Nat} {answers : ClientAnswers} {e : ArtikError}
    (answered : osDhcpClientStart handle answers s = .ok (s', e)) (member : x ∈ s'.sources) :
    x ∈ s.sources ∨ OnLease answers.request x := by
  unfold osDhcpClientStart at answered
  split at answered
  · cases answered
    exact .inl member
  · split at answered
    · cases answered
    · cases answered
      exact .inl member
    · rename_i place h t opened
      obtain ⟨fd, -, rfl⟩ := dhcpcOpen_some opened
      dsimp only at answered
      split at answered
      · cases answered
        exact .inl member
      · rename_i ds request
        split at answered
        · cases answered
          exact .inl member
        · rename_i a _
          unfold clientConfigure at answered
          split at answered
          · cases answered
            exact .inl member
          · split at answered
            · cases answered
            · split at answered
              · cases answered
                exact .inl member
              · rename_i id u armed
                cases answered
                obtain ⟨_, -, same⟩ := Option.map_eq_some_iff.1 armed
                cases same
                obtain old | new := List.mem_append.1 member
                · exact .inl old
                · rw [List.mem_singleton.1 new]
                  exact .inr ⟨ds, place, request, rfl⟩

theorem dhcpClientRenew_arms {place : Nat} {answers : RenewAnswers} {renewed : Bool}
    (answered : dhcpClientRenew place answers s = .ok (s', renewed)) (member : x ∈ s'.sources) :
    x ∈ s.sources ∨ OnLease answers.request x := by
  unfold dhcpClientRenew at answered
  split at answered
  · cases answered
    exact .inl member
  · split at answered
    · cases answered
    · cases answered
    · split at answered
      · cases answered
        exact .inl member
      · rename_i ds request
        split at answered
        · cases answered
          exact .inl member
        · split at answered
          · cases answered
          · split at answered
            · cases answered
              exact .inl member
            · rename_i u removed
              split at answered
              · cases answered
                exact .inl (mem_removeSource removed member)
              · cases answered
                obtain old | new := List.mem_append.1 member
                · exact .inl (mem_removeSource removed old)
                · rw [List.mem_singleton.1 new]
                  exact .inr ⟨ds, place, request, rfl⟩

theorem fire_arms {id : Nat} {answers : RenewAnswers} {o : Output} (answered : fire id answers s = .ok (s', o))
    (member : x ∈ s'.sources) : x ∈ s.sources ∨ OnLease answers.request x := by
  unfold fire at answered
  split at answered
  · split at answered
    · cases answered
    · rename_i u shown call
      cases answered
      replace member := List.mem_of_mem_filter member
      unfold onDhcpClientRenewCallback at call
      split at call
      · cases call
        exact .inl member
      · split at call
        · cases call
        · rename_i renewal
          split at call
          · cases call
            exact dhcpClientRenew_arms renewal member
          · split at call
            · cases call
            · cases call
              exact dhcpClientRenew_arms renewal member
  · cases answered
    exact .inl member

/-- A start or a renewal that is given a lease arms its timer with `renewalTime`. -/
theorem step_arms {regexec : List Char → Bool} {inetAddr : List Char → Addr} {input : Input} {o : Output} {lease msec : BitVec 32}
    (answered : step regexec inetAddr input s = .ok (s', o)) (given : input.lease = some lease)
    (arms : Arms ⟨s, input, s', o⟩ msec) : ∃ ds, ds.leaseTime = lease ∧ msec = renewalTime ds := by
  obtain ⟨x, member, new, place, callback⟩ := arms
  have onLease : ∀ {request}, x ∈ s.sources ∨ OnLease request x → request.map DhcpcState.leaseTime = some lease →
      ∃ ds, ds.leaseTime = lease ∧ msec = renewalTime ds := by
    rintro request (old | ⟨ds, place', is, armed⟩) lease'
    · exact absurd old new
    · rw [is] at lease'
      cases callback.symm.trans armed
      exact ⟨ds, Option.some.inj lease', rfl⟩
  cases input with
  | clientStart handle answers =>
    obtain ⟨e, call, -⟩ := coded_ok answered
    exact onLease (clientStart_arms call member) given
  | fire id answers => exact onLease (fire_arms answered member) given
  | clientStop => cases given
  | serverStart => cases given
  | serverStop => cases given
  | recvFails => cases given
  | assign => cases given

end Steps

/-! ## Runs that arm a timer on a given lease -/

/-- What a server gives that leaves everything but the lease open. -/
def leasing (lease : BitVec 32) : DhcpcState := { DhcpcState.zero with leaseTime := lease }

def starting (lease : BitVec 32) : Input := .clientStart (some 1) { ClientAnswers.working 8 3 16 1 with request := some (leasing lease) }

def renewing (lease : BitVec 32) : Input := .fire 1 ⟨some (leasing lease), .working, .set, .only 2, true, true⟩

section Given

variable (regexec : List Char → Bool) (inetAddr : List Char → Addr) (lease : BitVec 32)

theorem starting_arms : ∃ s o, step regexec inetAddr (starting lease) .init = .ok (s, o) ∧
    Arms ⟨.init, starting lease, s, o⟩ (renewalTime (leasing lease)) :=
  ⟨_, _, rfl, _, List.mem_singleton_self _, List.not_mem_nil, 1, rfl⟩

/-- The timer of a start fires, and the renewal is given the lease. -/
theorem renewing_arms : ∃ s s' o o', step regexec inetAddr (starting 60) .init = .ok (s, o) ∧
    step regexec inetAddr (renewing lease) s = .ok (s', o') ∧ Arms ⟨s, renewing lease, s', o'⟩ (renewalTime (leasing lease)) := by
  refine ⟨_, _, _, _, rfl, rfl, ⟨2, .renew (renewalTime (leasing lease)) 1⟩, List.mem_singleton_self _, fun old => ?_, 1, rfl⟩
  have ids : (2 : Nat) = 1 := congrArg Source.id (List.mem_singleton.1 old)
  exact absurd ids (by decide)

end Given

/-- **Renewals.** A lease is renewed in time, at its start and at each renewal, exactly when it is of more than
30 and at most 4294997 seconds. -/
theorem timelyAt_iff (lease : BitVec 32) :
    (TimelyAt Input.isClientStart lease ↔ 30 < lease.toNat ∧ lease.toNat ≤ 4294997) ∧
      (TimelyAt Input.isFire lease ↔ 30 < lease.toNat ∧ lease.toNat ≤ 4294997) := by
  have timely : ∀ {kind}, 30 < lease.toNat ∧ lease.toNat ≤ 4294997 → TimelyAt kind lease := by
    intro kind inside regexec inetAddr calls s run c member _ given msec arms
    obtain ⟨-, answered⟩ := run.invariant_before (I := fun _ => True) trivial (fun _ _ _ _ _ _ => trivial) member
    obtain ⟨ds, rfl, rfl⟩ := step_arms answered given arms
    exact (timely_renewalTime_iff ds).2 inside
  refine ⟨⟨fun all => ?_, timely⟩, ⟨fun all => ?_, timely⟩⟩
  · obtain ⟨s, o, answered, arms⟩ := starting_arms (fun _ => true) (fun _ => 0) lease
    exact (timely_renewalTime_iff (leasing lease)).1
      (all _ _ _ _ (.cons answered (.nil s)) _ (List.mem_singleton_self _) trivial rfl _ arms)
  · obtain ⟨s, s', o, o', first, second, arms⟩ := renewing_arms (fun _ => true) (fun _ => 0) lease
    exact (timely_renewalTime_iff (leasing lease)).1
      (all _ _ _ _ (.cons first (.cons second (.nil s'))) _ (List.mem_cons_of_mem _ (List.mem_singleton_self _)) trivial rfl _ arms)

/-- A lease of 20 seconds is to be renewed after 49 days. -/
theorem shortLease_late : ¬ ∀ lease, 1 ≤ lease.toNat → TimelyAt Input.isClientStart lease ∧ TimelyAt Input.isFire lease := by
  intro all
  obtain ⟨s, o, answered, arms⟩ := starting_arms (fun _ => true) (fun _ => 0) 20
  have timely := (all 20 (by decide)).1 _ _ _ _ (.cons answered (.nil s)) _ (List.mem_singleton_self _) trivial rfl _ arms
  exact absurd timely.early (by decide)

end ArtikSdk.Network.Dhcp
