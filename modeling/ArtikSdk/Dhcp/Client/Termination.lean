import ArtikSdk.Dhcp.Client.Loops

/-!
# DHCP client: does `dhcpc_request` return?

Without `renew` it does: every turn of the DISCOVER loop takes one of the five broadcasts,
and a REQUEST loop has three turns. A renewal clears `renew` only at the end of a third
REQUEST in a row, and a NAK leaves the loop before that; it returns exactly if some
REQUEST ends it or three in a row are not refused.
-/

namespace ArtikSdk.Dhcp.Client
open Lib

/-! ## Without `renew` -/

/-- `dhcpc_request` has given up renewing, and the REQUEST loop goes on. -/
structure Fresh (c : State) : Prop where
  renew : c.renew = false
  request : c.loop = .request → c.retries < 3

/-- What is left: broadcasts, and REQUESTs of the loop. -/
def rank (c : State) : Nat := 5 * c.count + if c.loop = .request then 4 - c.retries else 0

theorem nextRequest_retries {c : State} (h : c.retries ≤ 3) :
    nextRequest c = if c.retries = 3 then { c with renew := false, loop := .outer } else { c with loop := .request } := by
  unfold nextRequest
  dsimp only
  by_cases third : c.retries = 3
  · rw [if_pos third, if_pos third]
    dsimp only
    rw [if_neg (by omega)]
  · rw [if_neg third, if_neg third, if_pos (by omega)]

/-- Before `recv`, with the budget `k` of the whole turn. -/
inductive Waiting (k : Nat) (c : State) : Prop where
  | offer : c.renew = false → c.loop = .discover → 5 * c.count + 5 ≤ k → Waiting k c
  | ack : c.renew = false → c.loop = .request → c.retries ≤ 3 → 5 * c.count + (5 - c.retries) ≤ k → Waiting k c

theorem sendPhase_waiting {addr : Addr} {e : Sending} {c c' : State} (fresh : Fresh c) (sent : sendPhase addr e c = .inl c') :
    Waiting (rank c) c' := by
  have ways := sendPhase_entered addr e c
  generalize result : sendPhase addr e c = r at ways
  rw [sent] at result
  cases ways with
  | clearFails => cases result
  | routeFails => cases result
  | @discover c₀ entered =>
    have same : c₀.renew = false ∧ c₀.loop = .discover ∧ c₀.count = c.count ∧ 5 * c.count ≤ rank c := by
      have least : 5 * c.count ≤ rank c := Nat.le_add_right _ _
      obtain ⟨here, rfl⟩ | ⟨-, renew, -, -, rfl⟩ := entered
      · exact ⟨fresh.renew, here, rfl, least⟩
      · exact ⟨renew, rfl, rfl, least⟩
    obtain ⟨renew, loop, count, least⟩ := same
    rw [sendDiscover_eq] at result
    split at result
    · cases result
    split at result
    · cases result
      have from₀ := sentState_from MsgType.discover e c₀
      refine .offer ?_ ?_ ?_
      · dsimp only
        rw [from₀, renew]
      · dsimp only
        rw [from₀, loop]
      · dsimp only
        omega
    · cases result
  | @request c₀ entered =>
    have same : c₀ = c ∧ c.loop = .request := by
      obtain ⟨here, rfl⟩ | ⟨-, renew, -⟩ := entered
      · exact ⟨rfl, here⟩
      · rw [fresh.renew] at renew
        cases renew
    obtain ⟨rfl, loop⟩ := same
    have few := fresh.request loop
    have total : rank c₀ = 5 * c₀.count + (4 - c₀.retries) := by rw [rank, if_pos loop]
    rw [sendRequest_eq, asking_fresh fresh.renew] at result
    split at result
    · cases result
    · cases result
      have from₀ := sentState_from MsgType.request e c₀
      refine .ack ?_ ?_ ?_ ?_
      · dsimp only
        rw [from₀, fresh.renew]
      · dsimp only
        rw [from₀, loop]
      · exact few
      · have count : (sentState MsgType.request e c₀).count = c₀.count := by rw [from₀]
        dsimp only
        omega

theorem recvPhase_falls {e : Receiving} {c c' : State} {k : Nat} (waiting : Waiting k c) (next : recvPhase e c = .inl c') :
    Fresh c' ∧ rank c' < k := by
  cases waiting with
  | offer renew loop budget =>
    have ways := recvOffer_offered e c
    rw [recvPhase, if_neg (by rw [loop]; decide)] at next
    rw [next] at ways
    cases ways with
    | again _ heard =>
      rw [heard]
      refine ⟨⟨renew, fun request => ?_⟩, ?_⟩
      · simp [loop] at request
      · rw [rank]
        dsimp only
        rw [if_neg (by rw [loop]; decide)]
        omega
    | taken bytes arrived type heard same =>
      have control : c'.renew = c.renew ∧ c'.retries = 0 ∧ c'.count = c.count ∧ c'.loop = .request := by
        rw [HeardFrom] at heard
        simp only [State.mk.injEq] at heard
        tauto
      obtain ⟨keepRenew, zero, count, request⟩ := control
      refine ⟨⟨keepRenew.trans renew, fun _ => by omega⟩, ?_⟩
      rw [rank, if_pos request]
      omega
  | ack renew loop few budget =>
    have ways := recvAck_acknowledged e c
    rw [recvPhase, if_pos loop] at next
    rw [next] at ways
    generalize outcome : (Sum.inl c' : State ⊕ (Status × State)) = r at ways
    cases ways with
    | fails => cases outcome
    | accepted => cases outcome
    | refused bytes arrived type heard =>
      cases outcome
      rw [heard]
      refine ⟨⟨renew, fun request => by cases request⟩, ?_⟩
      rw [rank]
      dsimp only
      rw [if_neg (by decide)]
      omega
    | @ignored c₁ _ _ heard =>
      cases outcome
      have control : c₁.renew = false ∧ c₁.retries = c.retries ∧ c₁.count = c.count := by
        rw [heard]
        exact ⟨renew, rfl, rfl⟩
      obtain ⟨keepRenew, keepRetries, keepCount⟩ := control
      rw [nextRequest_retries (by omega)]
      split
      · refine ⟨⟨rfl, fun request => by cases request⟩, ?_⟩
        rw [rank]
        dsimp only
        rw [if_neg (by decide)]
        omega
      · refine ⟨⟨keepRenew, fun _ => ?_⟩, ?_⟩
        · dsimp only
          omega
        · rw [rank]
          dsimp only
          rw [if_pos rfl]
          omega

/-- A turn without `renew` takes something of what is left. -/
theorem round_falls {addr : Addr} {e : Turn} {c c' : State} (fresh : Fresh c) (next : round addr e c = .inl c') :
    Fresh c' ∧ rank c' < rank c := by
  unfold round at next
  split at next
  · rename_i c₁ sent
    exact recvPhase_falls (sendPhase_waiting fresh sent) next
  · cases next

theorem fresh_returns {addr : Addr} {env : Nat → Turn} {c c' : State} {n : Nat} (here : after (round addr) env c n = .inl c')
    (fresh : Fresh c') : ∃ r, Returns (round addr) env c r :=
  returns_of_rank rank (fun _ _ _ inv next => round_falls inv next) n c' here fresh

/-! ## Renewals -/

/-- The REQUEST of a renewal, as it lies in `packet`. -/
def renewalPacket (addr : Addr) (mac : Mac) : Mem :=
  (dhcpcAddend (setCiaddr addr (setBroadcast (commonMessage MsgType.request mac fun _ => 0)))).1

/-- The type of the message that answers the REQUEST of a renewal. -/
def renewalAnswer (addr : Addr) (e : Turn) : Option Byte :=
  match e.sending.getmacaddr, e.receiving.recv with
  | some mac, .datagram bytes => some (typeOver bytes e.receiving.beyond (renewalPacket addr mac))
  | _, _ => none

/-- The REQUEST cannot be sent, `recv` fails, or an ACK arrives. -/
def Stops (addr : Addr) (e : Turn) : Prop :=
  e.sending.works = false ∨ e.receiving.recv = .error ∨ renewalAnswer addr e = some MsgType.ack

/-- A NAK arrives. -/
def Refused (addr : Addr) (e : Turn) : Prop := renewalAnswer addr e = some MsgType.nak

theorem not_stops {addr : Addr} {e : Turn} (works : e.sending.works = true) (noError : e.receiving.recv ≠ .error)
    (noAck : renewalAnswer addr e ≠ some MsgType.ack) : ¬ Stops addr e := by
  rintro (broken | error | ack)
  · rw [works] at broken
    cases broken
  · exact noError error
  · exact noAck ack

/-- Two packets with the same bytes. -/
def Agree (m m' : Mem) : Prop := ∀ k, k < Msg.size → m k = m' k

theorem Agree.store {m m' : Mem} (h : Agree m m') (a : Nat) (bs : List Byte) : Agree (m.store a bs) (m'.store a bs) := by
  intro k small
  unfold Mem.store
  split
  · exact h k small
  · rw [h k small]

theorem Agree.put {m m' : Mem} (h : Agree m m') (bs : List Byte) (optptr : Nat) :
    Agree (put bs (m, optptr)).1 (put bs (m', optptr)).1 := h.store _ _

/-- What was in the packet before is zeroed. -/
theorem commonMessage_agree (msgtype : Byte) (mac : Mac) (m m' : Mem) :
    Agree (commonMessage msgtype mac m).1 (commonMessage msgtype mac m').1 := by
  unfold commonMessage dhcpcAddmsgtype commonHeader
  refine Agree.put ?_ _ _
  refine ((((((Agree.store ?_ _ _).store _ _).store _ _).store _ _).store _ _).store _ _).store _ _
  intro k small
  dsimp only
  rw [if_pos small, if_pos small]

theorem renewalPacket_agree (addr : Addr) (mac : Mac) (m : Mem) :
    Agree (dhcpcAddend (setCiaddr addr (setBroadcast (commonMessage MsgType.request mac m)))).1 (renewalPacket addr mac) := by
  have ends : ∀ m, (commonMessage MsgType.request mac m).2 = Msg.options + 7 := fun _ => rfl
  unfold renewalPacket dhcpcAddend setCiaddr setBroadcast
  dsimp only
  rw [ends, ends]
  exact Agree.put (((commonMessage_agree _ mac _ _).store _ _).store _ _) _ _

theorem Agree.received {m m' : Mem} (h : Agree m m') (bytes : List Byte) (beyond : Mem) :
    received bytes beyond m = received bytes beyond m' := by
  funext k
  unfold Client.received
  split
  · rename_i small
    exact h.store _ _ k small
  · rfl

/-- A renewal is under way. -/
structure Renewing (c : State) : Prop where
  renew : c.renew = true
  loop : c.loop = .outer ∨ c.loop = .request ∧ c.retries < 3

/-- The REQUESTs sent in a row. -/
def tries (c : State) : Nat := if c.loop = .outer then 0 else c.retries

theorem Renewing.tries_lt {c : State} (h : Renewing c) : tries c < 3 := by
  unfold tries
  obtain outer | ⟨request, few⟩ := h.loop
  · rw [if_pos outer]
    omega
  · rw [if_neg (by rw [request]; decide)]
    exact few

theorem sendPhase_renewing (addr : Addr) {e : Sending} {c : State} (renewing : Renewing c) (works : e.works = true) :
    ∃ c' mac, sendPhase addr e c = .inl c' ∧ e.getmacaddr = some mac ∧ c'.loop = .request ∧ c'.renew = true ∧
      c'.retries = tries c + 1 ∧ Agree c'.packet (renewalPacket addr mac) := by
  obtain ⟨mac, known, sendto⟩ := works_mac works
  have ways := sendPhase_entered addr e c
  generalize result : sendPhase addr e c = r at ways
  cases ways with
  | clearFails _ fresh =>
    rw [renewing.renew] at fresh
    cases fresh
  | routeFails _ fresh =>
    rw [renewing.renew] at fresh
    cases fresh
  | discover entered =>
    obtain ⟨here, -⟩ | ⟨-, fresh, -⟩ := entered
    · obtain outer | ⟨request, -⟩ := renewing.loop
      · rw [here] at outer
        cases outer
      · rw [here] at request
        cases request
    · rw [renewing.renew] at fresh
      cases fresh
  | @request c₀ entered =>
    have same : c₀.renew = true ∧ c₀.loop = .request ∧ c₀.retries = tries c := by
      obtain ⟨here, rfl⟩ | ⟨outer, renew, rfl⟩ := entered
      · exact ⟨renewing.renew, here, by rw [tries, if_neg (by rw [here]; decide)]⟩
      · exact ⟨renew, rfl, by rw [tries, if_pos outer]⟩
    obtain ⟨renew, loop, retries⟩ := same
    rw [sendRequest_eq, works, if_neg (by decide)]
    have from₀ := sentState_from MsgType.request e (asking addr c₀)
    have asked : asking addr c₀ = { c₀ with ipaddr := addr } := if_pos renew
    refine ⟨_, mac, rfl, known, ?_, ?_, by rw [retries], ?_⟩
    · dsimp only
      rw [from₀, asked]
      exact loop
    · dsimp only
      rw [from₀, asked]
      exact renew
    · dsimp only
      rw [sentState_works known sendto (settings_renewal (by rw [asked]; exact renew) _), asked]
      exact renewalPacket_agree addr mac _

/-- A turn whose message cannot be sent is the last. -/
theorem round_broken (addr : Addr) (e : Turn) (c : State) (broken : e.sending.works = false) : ∃ r, round addr e c = .inr r := by
  have ways := sendPhase_entered addr e.sending c
  unfold round
  generalize sendPhase addr e.sending c = r at ways
  cases ways with
  | clearFails => exact ⟨_, rfl⟩
  | routeFails => exact ⟨_, rfl⟩
  | discover entered =>
    rw [sendDiscover_eq, broken, if_pos rfl]
    exact ⟨_, rfl⟩
  | request entered =>
    rw [sendRequest_eq, broken, if_pos rfl]
    exact ⟨_, rfl⟩

/-- One turn of a renewal. -/
theorem round_renewing (addr : Addr) (e : Turn) {c : State} (renewing : Renewing c) :
    (Stops addr e → ∃ r, round addr e c = .inr r) ∧
      (¬ Stops addr e → ∃ c', round addr e c = .inl c' ∧
        (Refused addr e → Renewing c' ∧ tries c' = 0) ∧
        (¬ Refused addr e →
          if tries c + 1 = 3 then Fresh c' else Renewing c' ∧ tries c' = tries c + 1)) := by
  cases works : e.sending.works with
  | false =>
    exact ⟨fun _ => round_broken addr e c works, fun goes => absurd (Or.inl works) goes⟩
  | true =>
    obtain ⟨c₁, mac, sent, known, loop, renew, retries, packet⟩ := sendPhase_renewing addr renewing works
    have few := renewing.tries_lt
    have type : ∀ bytes, e.receiving.recv = .datagram bytes →
        renewalAnswer addr e = some (typeOver bytes e.receiving.beyond c₁.packet) := by
      intro bytes arrived
      simp only [renewalAnswer, known, arrived, typeOver, packet.received]
    have ways := recvAck_acknowledged e.receiving c₁
    rw [round, sent]
    dsimp only
    rw [recvPhase, if_pos loop]
    generalize recvAck e.receiving c₁ = r at ways
    cases ways with
    | fails error => exact ⟨fun _ => ⟨_, rfl⟩, fun goes => absurd (Or.inr (Or.inl error)) goes⟩
    | accepted bytes arrived ack =>
      refine ⟨fun _ => ⟨_, rfl⟩, fun goes => absurd (Or.inr (Or.inr ?_)) goes⟩
      rw [type bytes arrived, ack]
    | refused bytes arrived nak heard =>
      have answer := (type bytes arrived).trans (congrArg some nak)
      have goes : ¬ Stops addr e := not_stops works (by rw [arrived]; intro error; cases error) (by rw [answer]; intro ack; cases ack)
      refine ⟨fun stops => absurd stops goes, fun _ => ⟨_, rfl, fun _ => ?_, fun other => absurd answer other⟩⟩
      rw [heard]
      exact ⟨⟨renew, Or.inl rfl⟩, if_pos rfl⟩
    | @ignored c₂ noError other heard =>
      have notAnswered : ∀ b, renewalAnswer addr e = some b → b ≠ MsgType.ack ∧ b ≠ MsgType.nak := by
        intro b answer
        cases arrived : e.receiving.recv with
        | datagram bytes =>
          rw [type bytes arrived] at answer
          cases answer
          exact other bytes arrived
        | timeout => simp [renewalAnswer, arrived] at answer
        | error => simp [renewalAnswer, arrived] at answer
      have control : c₂.renew = true ∧ c₂.retries = tries c + 1 := by
        rw [heard]
        exact ⟨renew, retries⟩
      obtain ⟨keepRenew, keepRetries⟩ := control
      have goes : ¬ Stops addr e := not_stops works noError fun ack => (notAnswered _ ack).1 rfl
      refine ⟨fun stops => absurd stops goes, fun _ => ⟨_, rfl, fun nak => ?_, fun _ => ?_⟩⟩
      · exact absurd rfl (notAnswered _ nak).2
      · rw [nextRequest_retries (by omega), keepRetries]
        split
        · exact ⟨rfl, fun request => by cases request⟩
        · refine ⟨⟨keepRenew, Or.inr ⟨rfl, ?_⟩⟩, ?_⟩
          · dsimp only
            omega
          · rw [tries, if_neg (by simp)]

variable {addr : Addr} {env : Nat → Turn} {c : State}

/-- Where no REQUEST ends the renewal and of any three in a row one is refused, it goes on. -/
theorem renewal_endless (start : Renewing c) (zero : tries c = 0) (goes : ∀ k, ¬ Stops addr (env k))
    (refused : ∀ k, Refused addr (env k) ∨ Refused addr (env (k + 1)) ∨ Refused addr (env (k + 2))) :
    ¬ ∃ r, Returns (round addr) env c r := by
  have base : Renewing c ∧ tries c ≤ 0 ∧ ∀ j, j < tries c → ¬ Refused addr (env (0 - 1 - j)) :=
    ⟨start, le_of_eq zero, fun j less => by omega⟩
  refine not_returns_of_forever
    (I := fun n t => Renewing t ∧ tries t ≤ n ∧ ∀ j, j < tries t → ¬ Refused addr (env (n - 1 - j))) base ?_
  rintro n t ⟨renewing, early, row⟩
  obtain ⟨t', next, nak, other⟩ := (round_renewing addr (env n) renewing).2 (goes n)
  refine ⟨t', next, ?_⟩
  by_cases this : Refused addr (env n)
  · obtain ⟨renewing', zero'⟩ := nak this
    exact ⟨renewing', by omega, fun j less => by omega⟩
  have further := other this
  split at further
  · -- three REQUESTs in a row: some one of them was refused
    rename_i third
    have one := row 0 (by omega)
    have two := row 1 (by omega)
    obtain ⟨k, rfl⟩ : ∃ k, n = k + 2 := ⟨n - 2, by omega⟩
    obtain first | second | last := refused k
    · exact absurd first two
    · exact absurd second one
    · exact absurd last this
  · obtain ⟨renewing', more⟩ := further
    refine ⟨renewing', by omega, fun j less => ?_⟩
    cases j with
    | zero => exact this
    | succ i =>
      have earlier := row i (by omega)
      rw [show n + 1 - 1 - (i + 1) = n - 1 - i by omega]
      exact earlier

/-- As long as the renewal goes on it is a renewal, no REQUEST ends it, and a REQUEST
that is not refused adds to the row. -/
theorem renewal_goes (start : Renewing c) (never : ¬ ∃ r, Returns (round addr) env c r) (n : Nat) :
    ∃ t, after (round addr) env c n = .inl t ∧ Renewing t ∧ ¬ Stops addr (env n) ∧
      ∃ t', after (round addr) env c (n + 1) = .inl t' ∧ Renewing t' ∧ (¬ Refused addr (env n) → tries t' = tries t + 1) := by
  have one : ∀ n t, after (round addr) env c n = .inl t → Renewing t → ¬ Stops addr (env n) ∧
      ∃ t', after (round addr) env c (n + 1) = .inl t' ∧ Renewing t' ∧ (¬ Refused addr (env n) → tries t' = tries t + 1) := by
    intro n t here renewing
    obtain ⟨ends, goes⟩ := round_renewing addr (env n) renewing
    have running : ¬ Stops addr (env n) := by
      intro stops
      obtain ⟨r, last⟩ := ends stops
      exact never ⟨r, n + 1, by rw [after_succ here, last]⟩
    obtain ⟨t', next, nak, other⟩ := goes running
    have there : after (round addr) env c (n + 1) = .inl t' := by rw [after_succ here, next]
    refine ⟨running, t', there, ?_⟩
    by_cases this : Refused addr (env n)
    · exact ⟨(nak this).1, fun notThis => absurd this notThis⟩
    have further := other this
    split at further
    · exact absurd (fresh_returns there further) never
    · exact ⟨further.1, fun _ => further.2⟩
  have always : ∃ t, after (round addr) env c n = .inl t ∧ Renewing t := by
    induction n with
    | zero => exact ⟨c, rfl, start⟩
    | succ n ih =>
      obtain ⟨t, here, renewing⟩ := ih
      obtain ⟨-, t', there, renewing', -⟩ := one n t here renewing
      exact ⟨t', there, renewing'⟩
  obtain ⟨t, here, renewing⟩ := always
  exact ⟨t, here, renewing, one n t here renewing⟩

theorem renewal_stops (start : Renewing c) {k : Nat} (stops : Stops addr (env k)) : ∃ r, Returns (round addr) env c r := by
  by_contra never
  obtain ⟨-, -, -, running, -⟩ := renewal_goes start never k
  exact running stops

theorem renewal_gives_up (start : Renewing c) {k : Nat} (one : ¬ Refused addr (env k)) (two : ¬ Refused addr (env (k + 1)))
    (three : ¬ Refused addr (env (k + 2))) : ∃ r, Returns (round addr) env c r := by
  by_contra never
  obtain ⟨t₀, -, -, -, t₁, at₁, -, more₁⟩ := renewal_goes start never k
  obtain ⟨s₁, here₁, -, -, t₂, at₂, -, more₂⟩ := renewal_goes start never (k + 1)
  obtain ⟨s₂, here₂, -, -, t₃, -, renewing₃, more₃⟩ := renewal_goes start never (k + 2)
  obtain rfl : t₁ = s₁ := Sum.inl.inj (at₁.symm.trans here₁)
  obtain rfl : t₂ = s₂ := Sum.inl.inj (at₂.symm.trans here₂)
  have few := renewing₃.tries_lt
  have first := more₁ one
  have second := more₂ two
  have third := more₃ three
  omega

/-- **Bounded attempts.** `dhcpc_request` returns exactly if it does not renew, or some
REQUEST of the renewal ends it, or three of them in a row are not refused. -/
theorem request_returns_iff (addr : Addr) (env : Nat → Turn) (ifaddr : Addr) (getIpv4addr : Bool) (presult : DhcpcState)
    (ipaddr serverid : Addr) (packet : Mem) (renew : Bool) :
    (∃ status c, DhcpcRequest addr env (State.enter ifaddr getIpv4addr presult ipaddr serverid packet renew) status c) ↔
      renew = false ∨ ∃ k, Stops addr (env k) ∨
        ¬ Refused addr (env k) ∧ ¬ Refused addr (env (k + 1)) ∧ ¬ Refused addr (env (k + 2)) := by
  unfold DhcpcRequest
  rw [← Prod.exists' (p := fun status c => Returns (round addr) env _ (status, c))]
  cases renew with
  | false =>
    refine ⟨fun _ => Or.inl rfl, fun _ => ?_⟩
    exact fresh_returns (n := 0) rfl ⟨rfl, fun request => by cases request⟩
  | true =>
    have start : Renewing (State.enter ifaddr getIpv4addr presult ipaddr serverid packet true) := ⟨rfl, Or.inl rfl⟩
    constructor
    · intro returns
      refine Or.inr ?_
      by_contra none
      simp only [not_exists, not_or, not_and_or, not_not] at none
      exact renewal_endless start rfl (fun k => (none k).1) (fun k => (none k).2) returns
    · rintro (fresh | ⟨k, stops | ⟨one, two, three⟩⟩)
      · cases fresh
      · exact renewal_stops start stops
      · exact renewal_gives_up start one two three

/-! ## A renewal that is always refused -/

/-- The server answers every REQUEST with a NAK. -/
def refusing : Turn where
  sending := ⟨true, true, some ⟨[2, 0, 0, 0, 0, 1], exampleMac_length⟩, true, true⟩
  receiving :=
    ⟨.datagram (message dhcpReply xid 0 0 ⟨[2, 0, 0, 0, 0, 1], exampleMac_length⟩ [(Code.msgType, [MsgType.nak])]), fun _ => 0, true,
      none, true, true⟩

theorem renewal_never_returns :
    ∃ env presult packet,
      ¬ ∃ status c, DhcpcRequest 0x6401a8c0 env (State.enter 0x6401a8c0 true presult 0x6401a8c0 0x0101a8c0 packet true) status c := by
  refine ⟨fun _ => refusing, DhcpcState.zero, fun _ => 0, ?_⟩
  have answer : renewalAnswer 0x6401a8c0 refusing = some MsgType.nak := by decide +kernel
  have goes : ¬ Stops 0x6401a8c0 refusing := by
    rintro (broken | error | ack)
    · cases broken
    · cases error
    · rw [answer] at ack
      cases ack
  rintro ⟨status, c, returns⟩
  exact renewal_endless ⟨rfl, Or.inl rfl⟩ rfl (fun _ => goes) (fun _ => Or.inl answer) ⟨_, returns⟩

end ArtikSdk.Dhcp.Client
