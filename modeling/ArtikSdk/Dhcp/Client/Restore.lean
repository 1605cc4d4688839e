import ArtikSdk.Dhcp.Client.Loops

/-!
# DHCP client: the address after an error

`dhcpc_request` has seven ways to return `ERROR`, and two of them restore the address. The
others leave the address as it is at that moment: without one, or with the one offered.
-/

namespace ArtikSdk.Dhcp.Client
open Lib

/-- The call that fails in the last turn, or the limit of broadcasts. -/
inductive Failure where
  | clearAddress
  | defaultRoute
  | sendDiscover
  | limit
  | recvOffer
  | sendRequest
  | recvAck
deriving DecidableEq

/-- The turn sends a REQUEST. -/
def Asks (c : State) : Prop := c.loop = .request ∨ c.loop = .outer ∧ c.renew = true

instance (c : State) : Decidable (Asks c) := by unfold Asks; infer_instance

/-- What fails in a turn, from the answers of the world and the state before. -/
def failure (e : Turn) (c : State) : Option Failure :=
  if c.loop = .outer ∧ c.renew = false ∧ e.sending.setAny = false then some .clearAddress
  else if c.loop = .outer ∧ c.renew = false ∧ c.oldaddr ≠ 0 ∧ e.sending.setDefaultroute = false then some .defaultRoute
  else if Asks c then
    if e.sending.works = false then some .sendRequest
    else if e.receiving.recv = .error then some .recvAck
    else none
  else if e.sending.works = false then some .sendDiscover
  else if c.count = 0 then some .limit
  else if e.receiving.recv = .error then some .recvOffer
  else none

/-- The address that the failing turn leaves. -/
def Failure.address (c : State) : Failure → Addr
  | .clearAddress | .sendRequest => c.ifaddr
  | .defaultRoute | .sendDiscover | .recvOffer => 0
  | .limit | .recvAck => c.oldaddr

/-- The address of the interface during the loops. -/
structure Addressed (ifaddr oldaddr : Addr) (c : State) : Prop where
  oldaddr : c.oldaddr = oldaddr
  cleared : c.loop = .discover → c.ifaddr = 0
  fresh : c.loop = .discover → c.renew = false
  untouched : c.renew = true → c.ifaddr = ifaddr

variable {addr ifaddr oldaddr : Addr} {c c' : State}

theorem Discovering.facts {e : Sending} (h : Discovering e c c') (addressed : Addressed ifaddr oldaddr c) :
    c'.ifaddr = 0 ∧ c'.oldaddr = c.oldaddr ∧ c'.renew = false ∧ c'.loop = .discover ∧ c'.count = c.count ∧ ¬ Asks c ∧
      ∀ recv : Receiving, failure ⟨e, recv⟩ c =
        if e.works = false then some .sendDiscover
        else if c.count = 0 then some .limit
        else if recv.recv = .error then some .recvOffer
        else none := by
  obtain ⟨here, rfl⟩ | ⟨outer, fresh, any, route, rfl⟩ := h
  · have silent : ¬ Asks c' := by simp [Asks, here]
    refine ⟨addressed.cleared here, rfl, addressed.fresh here, here, rfl, silent, fun recv => ?_⟩
    rw [failure, if_neg (by simp [here]), if_neg (by simp [here]), if_neg silent]
  · have silent : ¬ Asks c := by simp [Asks, outer, fresh]
    refine ⟨rfl, rfl, fresh, rfl, rfl, silent, fun recv => ?_⟩
    have routed : ¬ (c.oldaddr ≠ 0 ∧ e.setDefaultroute = false) := by
      rintro ⟨nonzero, unrouted⟩
      obtain zero | routed := route
      · exact nonzero zero
      · rw [unrouted] at routed
        cases routed
    rw [failure, if_neg (by simp [any]), if_neg (fun all => routed all.2.2), if_neg silent]

theorem Requesting.facts (h : Requesting c c') :
    c'.ifaddr = c.ifaddr ∧ c'.oldaddr = c.oldaddr ∧ c'.renew = c.renew ∧ c'.loop = .request ∧
      ∀ e : Turn, failure e c =
        if e.sending.works = false then some .sendRequest
        else if e.receiving.recv = .error then some .recvAck
        else none := by
  obtain ⟨here, rfl⟩ | ⟨outer, renew, rfl⟩ := h
  · refine ⟨rfl, rfl, rfl, here, fun e => ?_⟩
    rw [failure, if_neg (by simp [here]), if_neg (by simp [here]), if_pos (show Asks c' from Or.inl here)]
  · refine ⟨rfl, rfl, rfl, rfl, fun e => ?_⟩
    rw [failure, if_neg (by simp [renew]), if_neg (by simp [renew]), if_pos (show Asks c from Or.inr ⟨outer, renew⟩)]

/-- **A failing turn.** -/
theorem round_failed {e : Turn} (addressed : Addressed ifaddr oldaddr c) (restoreS : e.sending.restore = true)
    (restoreR : e.receiving.restore = true) (failed : round addr e c = .inr (.error, c')) :
    ∃ f, failure e c = some f ∧ c'.ifaddr = f.address c := by
  have ways := round_turned addr e c
  generalize outcome : round addr e c = r at ways
  rw [failed] at outcome
  cases ways with
  | clearFails outer fresh unset =>
    cases outcome
    exact ⟨.clearAddress, if_pos ⟨outer, fresh, unset⟩, rfl⟩
  | routeFails outer fresh any nonzero unrouted =>
    cases outcome
    refine ⟨.defaultRoute, ?_, rfl⟩
    rw [failure, if_neg (by simp [any]), if_pos ⟨outer, fresh, nonzero, unrouted⟩]
  | @discoverFails c₀ entered broken =>
    obtain ⟨ifaddr₀, -, -, -, -, -, which⟩ := entered.facts addressed
    obtain ⟨ifaddr₁, -⟩ := sentState_address MsgType.discover e.sending c₀
    cases outcome
    rw [which e.receiving]
    exact ⟨.sendDiscover, if_pos broken, ifaddr₁.trans ifaddr₀⟩
  | @limit c₀ entered works none =>
    -- the last broadcast was one too many
    obtain ⟨-, oldaddr₀, -, -, count₀, -, which⟩ := entered.facts addressed
    cases outcome
    rw [which e.receiving, if_neg (by rw [works]; decide), if_pos (count₀.symm.trans none)]
    refine ⟨.limit, rfl, ?_⟩
    rw [State.setIpv4addr, if_pos restoreS]
    exact oldaddr₀
  | @discover c₀ _ entered works left offered =>
    -- the DISCOVER is out, and `recv` fails
    obtain ⟨ifaddr₀, -, -, -, count₀, -, which⟩ := entered.facts addressed
    obtain ⟨ifaddr₁, -⟩ := sentState_address MsgType.discover e.sending c₀
    rw [which e.receiving, if_neg (by rw [works]; decide), if_neg (by omega)]
    cases offered with
    | fails error =>
      cases outcome
      exact ⟨.recvOffer, if_pos error, ifaddr₁.trans ifaddr₀⟩
    | again => cases outcome
    | taken => cases outcome
  | @requestFails c₀ entered broken =>
    obtain ⟨ifaddr₀, -, -, -, which⟩ := entered.facts
    obtain ⟨ifaddr₁, -⟩ := asking_address addr c₀
    obtain ⟨ifaddr₂, -⟩ := sentState_address MsgType.request e.sending (asking addr c₀)
    cases outcome
    rw [which e]
    exact ⟨.sendRequest, if_pos broken, (ifaddr₂.trans ifaddr₁).trans ifaddr₀⟩
  | @request c₀ _ entered works acknowledged =>
    obtain ⟨-, oldaddr₀, -, -, which⟩ := entered.facts
    obtain ⟨-, oldaddr₁, -⟩ := asking_address addr c₀
    obtain ⟨-, oldaddr₂, -⟩ := sentState_address MsgType.request e.sending (asking addr c₀)
    rw [which e, if_neg (by rw [works]; decide)]
    cases acknowledged with
    | fails error =>
      cases outcome
      refine ⟨.recvAck, if_pos error, ?_⟩
      rw [State.setIpv4addr, if_pos restoreR]
      exact (oldaddr₂.trans oldaddr₁).trans oldaddr₀
    | accepted => cases outcome
    | refused => cases outcome
    | ignored => cases outcome

theorem nextRequest_address (c : State) :
    (nextRequest c).ifaddr = c.ifaddr ∧ (nextRequest c).oldaddr = c.oldaddr ∧ (nextRequest c).loop ≠ .discover ∧
      ((nextRequest c).renew = true → c.renew = true) := by
  unfold nextRequest
  dsimp only
  by_cases third : c.retries = 3
  · rw [if_pos third]
    split <;> simp
  · rw [if_neg third]
    split <;> simp

/-- An OFFER taken or not, the address is still the known one. -/
theorem Offered.addressed {e : Receiving} {c₁ : State} (offered : Offered e c₁ (.inl c')) (keepOld : c₁.oldaddr = oldaddr)
    (unset : c₁.ifaddr = 0) (fresh : c₁.renew = false) : Addressed ifaddr oldaddr c' := by
  cases offered with
  | again _ heard =>
    rw [heard]
    refine ⟨keepOld, fun _ => unset, fun _ => fresh, fun renew => ?_⟩
    cases fresh.symm.trans renew
  | taken bytes arrived type heard same =>
    have control : c'.oldaddr = c₁.oldaddr ∧ c'.renew = c₁.renew ∧ c'.loop = .request := by
      rw [HeardFrom] at heard
      simp only [State.mk.injEq] at heard
      tauto
    obtain ⟨sameOld, sameRenew, request⟩ := control
    refine ⟨sameOld.trans keepOld, fun discover => ?_, fun discover => ?_, fun renew => ?_⟩
    · rw [request] at discover
      cases discover
    · rw [request] at discover
      cases discover
    · rw [sameRenew, fresh] at renew
      cases renew

theorem Acknowledged.addressed {e : Receiving} {c₁ : State} (acknowledged : Acknowledged e c₁ (.inl c')) (keepOld : c₁.oldaddr = oldaddr)
    (untouched : c₁.renew = true → c₁.ifaddr = ifaddr) : Addressed ifaddr oldaddr c' := by
  generalize outcome : (Sum.inl c' : State ⊕ (Status × State)) = r at acknowledged
  cases acknowledged with
  | fails => cases outcome
  | accepted => cases outcome
  | refused bytes arrived type heard =>
    cases outcome
    rw [heard]
    exact ⟨keepOld, nofun, nofun, untouched⟩
  | @ignored c₂ _ _ heard =>
    cases outcome
    obtain ⟨ifaddr₃, oldaddr₃, inLoop, renew₃⟩ := nextRequest_address c₂
    have same : c₂.ifaddr = c₁.ifaddr ∧ c₂.oldaddr = c₁.oldaddr ∧ c₂.renew = c₁.renew := by
      rw [heard]
      exact ⟨rfl, rfl, rfl⟩
    obtain ⟨sameAddress, sameOld, sameRenew⟩ := same
    refine ⟨oldaddr₃.trans (sameOld.trans keepOld), fun discover => absurd discover inLoop, fun discover => absurd discover inLoop,
      fun renew => ?_⟩
    exact (ifaddr₃.trans sameAddress).trans (untouched (sameRenew.symm.trans (renew₃ renew)))

/-- A turn that goes on keeps what is known about the address. -/
theorem round_addressed {e : Turn} (addressed : Addressed ifaddr oldaddr c) (next : round addr e c = .inl c') :
    Addressed ifaddr oldaddr c' := by
  have ways := round_turned addr e c
  generalize outcome : round addr e c = r at ways
  rw [next] at outcome
  cases ways with
  | clearFails => cases outcome
  | routeFails => cases outcome
  | discoverFails => cases outcome
  | limit => cases outcome
  | @discover c₀ _ entered works left offered =>
    obtain ⟨ifaddr₀, oldaddr₀, renew₀, -⟩ := entered.facts addressed
    obtain ⟨ifaddr₁, oldaddr₁, renew₁, -⟩ := sentState_address MsgType.discover e.sending c₀
    subst outcome
    exact offered.addressed ((oldaddr₁.trans oldaddr₀).trans addressed.oldaddr) (ifaddr₁.trans ifaddr₀) (renew₁.trans renew₀)
  | requestFails => cases outcome
  | @request c₀ _ entered works acknowledged =>
    obtain ⟨ifaddr₀, oldaddr₀, renew₀, -⟩ := entered.facts
    obtain ⟨ifaddr₁, oldaddr₁, renew₁, -⟩ := asking_address addr c₀
    obtain ⟨ifaddr₂, oldaddr₂, renew₂, -⟩ := sentState_address MsgType.request e.sending (asking addr c₀)
    subst outcome
    refine acknowledged.addressed (((oldaddr₂.trans oldaddr₁).trans oldaddr₀).trans addressed.oldaddr) fun renew => ?_
    exact ((ifaddr₂.trans ifaddr₁).trans ifaddr₀).trans
      (addressed.untouched (((renew₂.trans renew₁).trans renew₀).symm.trans renew))

/-- When the address is the one on entry although `dhcpc_request` fails: where it is
restored, if it was known; where the interface has none, if it had none; and where it is
left alone, if it is that address. A default route that cannot be set is never such a case. -/
def Unharmed (ifaddr : Addr) (e : Turn) (c : State) : Prop :=
  match failure e c with
  | some .limit | some .recvAck => c.oldaddr = ifaddr
  | some .sendDiscover | some .recvOffer => ifaddr = 0
  | some .clearAddress | some .sendRequest => c.ifaddr = ifaddr
  | some .defaultRoute | none => False

/-- A turn with the answers `getmacaddr` and `recv`, in which everything else succeeds. -/
def answers (getmacaddr : Option Mac) (recv : Recv) : Turn :=
  ⟨⟨true, true, getmacaddr, true, true⟩, ⟨recv, fun _ => 0, true, getmacaddr, true, true⟩⟩

end ArtikSdk.Dhcp.Client
