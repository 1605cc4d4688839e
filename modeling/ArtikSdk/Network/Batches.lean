import ArtikSdk.Lib.Run
import ArtikSdk.Network.Status

/-!
# Netlink messages in batches

`network_connection` looks at the status once a batch, and the last message of the batch decides
whether it does. Messages that arrive one by one are looked at one by one: a batch is as good as its
messages exactly if its last one would have the status checked, or none would.
-/

namespace ArtikSdk.Network
open Lib

/-- Neither `NLMSG_DONE` nor `NLMSG_ERROR`, behind which nothing is read. -/
def Message.Plain (m : Message) : Prop := m.type ≠ .done ∧ m.type ≠ .error

/-- A link, address or route message. -/
def Message.relevant (m : Message) : Bool := m.type ∉ [.done, .error, .other]

/-- The status is checked behind the batch. -/
def checks (batch : List Message) (watch : Option Watch) : Bool := watch.any fun w => scan w.currentOnlineStatus false batch

/-- Each message in a batch of its own. -/
def singles (batches : List (List Message)) : List (List Message) := batches.flatten.map fun m => [m]

/-- What is left when all batches are read: the watches, with their status, and the callbacks in order. -/
def outcome (r : Except Fault (List (Call (List Message) (Option Watch) Output) × Option Watch)) :
    Except Fault (Option Watch × List (Node × Bool)) :=
  r.map fun p => (p.2, p.1.flatMap fun c => c.output.calls)

/-- The status is checked behind a batch exactly when one of its messages alone would have it checked. -/
def ChecksAlike (batch : List Message) (watch : Option Watch) : Prop :=
  checks batch watch = true ↔ ∃ m ∈ batch, checks [m] watch = true

/-- None of the messages would have the status checked, or the last link, address or route message would. -/
def Decided (batch : List Message) (watch : Option Watch) : Prop :=
  (∀ m ∈ batch, checks [m] watch = false) ∨ ∃ m, (batch.filter Message.relevant).getLast? = some m ∧ checks [m] watch = true

/-! ## One batch -/

/-- The last relevant message decides. -/
theorem scan_last {old check : Bool} {batch : List Message} (plain : ∀ m ∈ batch, m.Plain) :
    scan old check batch = ((batch.filter Message.relevant).getLast?.map fun m => scan old false [m]).getD check := by
  induction batch generalizing check with
  | nil => rfl
  | cons m batch ih =>
    rw [List.forall_mem_cons] at plain
    have rest (check : Bool) : scan old check batch = ((batch.filter Message.relevant).getLast?.map fun m => scan old false [m]).getD check :=
      ih plain.2
    obtain ⟨type, up⟩ := m
    cases type with
    | done => exact absurd rfl plain.1.1
    | error => exact absurd rfl plain.1.2
    | other => exact rest check
    | _ =>
      rw [List.filter_cons_of_pos (by rfl), List.getLast?_cons]
      refine (rest _).trans ?_
      cases (batch.filter Message.relevant).getLast? <;> rfl

theorem checks_last {batch : List Message} (plain : ∀ m ∈ batch, m.Plain) (watch : Option Watch) :
    checks batch watch = true ↔ ∃ m, (batch.filter Message.relevant).getLast? = some m ∧ checks [m] watch = true := by
  cases watch with
  | none => exact ⟨fun h => (by cases h), fun ⟨m, _, h⟩ => by cases h⟩
  | some w =>
    unfold checks
    rw [Option.any_some, scan_last plain]
    cases last : (batch.filter Message.relevant).getLast? with
    | none => exact ⟨fun h => (by cases h), fun ⟨m, h, _⟩ => by cases h⟩
    | some m =>
      constructor
      · exact fun h => ⟨m, rfl, h⟩
      · rintro ⟨m', same, h⟩
        cases same
        exact h

theorem checksAlike_iff {batch : List Message} (plain : ∀ m ∈ batch, m.Plain) (watch : Option Watch) :
    ChecksAlike batch watch ↔ Decided batch watch := by
  unfold ChecksAlike Decided
  rw [checks_last plain]
  constructor
  · intro same
    by_cases some : ∃ m ∈ batch, checks [m] watch = true
    · exact .inr (same.2 some)
    · refine .inl fun m member => ?_
      rw [← Bool.not_eq_true]
      exact fun h => some ⟨m, member, h⟩
  · rintro (idle | ⟨m, last, h⟩)
    · constructor
      · rintro ⟨m, last, h⟩
        have member := (List.mem_filter.1 (List.mem_of_getLast? last)).1
        rw [idle m member] at h
        cases h
      · rintro ⟨m, member, h⟩
        rw [idle m member] at h
        cases h
    · refine iff_of_true ⟨m, last, h⟩ ⟨m, (List.mem_filter.1 (List.mem_of_getLast? last)).1, h⟩

variable {notify : Notify} {status : Option Bool} {watch watch' : Option Watch}

/-- A batch that is not checked changes nothing. -/
theorem idle_of_unchecked {batch : List Message} (unchecked : checks batch watch = false) :
    networkConnection notify status batch watch = .ok (watch, ⟨false, []⟩) := by
  cases watch with
  | none => rfl
  | some w =>
    unfold checks at unchecked
    rw [Option.any_some] at unchecked
    unfold networkConnection
    dsimp only
    rw [unchecked, if_neg Bool.false_ne_true]

/-- What a check leads to. -/
def checked (notify : Notify) (status : Option Bool) (w : Watch) : Except Fault (Option Watch × Output) :=
  match status with
  | none => .ok (some w, ⟨true, []⟩)
  | some online =>
    if online ≠ w.currentOnlineStatus then
      (notify online w.root).map fun r => (r.1.map fun root => ⟨root, online⟩, ⟨true, r.2⟩)
    else .ok (some w, ⟨true, []⟩)

theorem networkConnection_checked {batch : List Message} {w : Watch} (h : checks batch (some w) = true) :
    networkConnection notify status batch (some w) = checked notify status w := by
  unfold checks at h
  rw [Option.any_some] at h
  unfold networkConnection
  dsimp only
  rw [h, if_pos rfl]
  rfl

/-- The status is the one that every check finds, or there is nothing to check. -/
def Settled (status : Option Bool) (watch : Option Watch) : Prop :=
  ∀ w ∈ watch, ∀ online ∈ status, online = w.currentOnlineStatus

theorem settled_idle (settled : Settled status watch) (batch : List Message) :
    ∃ o : Output, networkConnection notify status batch watch = .ok (watch, o) ∧ o.calls = [] := by
  cases h : checks batch watch with
  | false => exact ⟨_, idle_of_unchecked h, rfl⟩
  | true =>
    cases watch with
    | none => cases h
    | some w =>
      rw [networkConnection_checked h]
      unfold checked
      split
      · exact ⟨_, rfl, rfl⟩
      · rename_i online
        rw [if_neg (not_not_intro (settled w rfl online rfl))]
        exact ⟨_, rfl, rfl⟩

theorem checked_settled {w : Watch} {o : Output} (h : checked notify status w = .ok (watch', o)) : Settled status watch' := by
  unfold checked at h
  split at h
  · exact fun _ _ online absent => by cases absent
  · rename_i online
    split at h
    · obtain ⟨r, -, same⟩ := map_ok_iff.1 h
      cases same
      intro w' there online' present
      cases present
      obtain ⟨root, -, rfl⟩ := Option.map_eq_some_iff.1 there
      rfl
    · rename_i same
      cases h
      intro w' there online' present
      cases there
      cases present
      exact not_not.1 same

/-! ## The messages of a batch, one by one -/

/-- Messages that change nothing. -/
theorem exec_idle {ms : List Message} (idle : ∀ m ∈ ms, ∃ o : Output, networkConnection notify status [m] watch = .ok (watch, o) ∧ o.calls = []) :
    outcome (exec (networkConnection notify status) (ms.map fun m => [m]) watch) = .ok (watch, []) := by
  induction ms with
  | nil => rfl
  | cons m ms ih =>
    rw [List.forall_mem_cons] at idle
    obtain ⟨o, answered, silent⟩ := idle.1
    have rest := ih idle.2
    rw [List.map_cons, exec, answered]
    dsimp only
    cases ran : exec (networkConnection notify status) (ms.map fun m => [m]) watch with
    | error f =>
      rw [ran] at rest
      cases rest
    | ok p =>
      rw [ran] at rest
      obtain ⟨left, calls⟩ := Prod.mk.inj (Except.ok.inj rest)
      unfold outcome
      dsimp only [Except.map]
      rw [List.flatMap_cons, silent, left, calls]
      rfl

/-- The first message that has the status checked does what the batch does. -/
theorem exec_first {ms : List Message} {w : Watch} (some_checks : ∃ m ∈ ms, checks [m] (some w) = true) :
    outcome (exec (networkConnection notify status) (ms.map fun m => [m]) (some w)) =
      (checked notify status w).map fun r => (r.1, r.2.calls) := by
  induction ms with
  | nil =>
    obtain ⟨m, member, -⟩ := some_checks
    cases member
  | cons m ms ih =>
    rw [List.map_cons, exec]
    cases h : checks [m] (some w) with
    | true =>
      rw [networkConnection_checked h]
      cases found : checked notify status w with
      | error f => rfl
      | ok r =>
        have idle : ∀ m ∈ ms, ∃ o : Output, networkConnection notify status [m] r.1 = .ok (r.1, o) ∧ o.calls = [] :=
          fun m _ => settled_idle (checked_settled found) [m]
        have rest := exec_idle idle
        dsimp only
        cases ran : exec (networkConnection notify status) (ms.map fun m => [m]) r.1 with
        | error f =>
          rw [ran] at rest
          cases rest
        | ok p =>
          rw [ran] at rest
          obtain ⟨left, calls⟩ := Prod.mk.inj (Except.ok.inj rest)
          unfold outcome
          dsimp only [Except.map]
          rw [List.flatMap_cons, left, calls, List.append_nil]
    | false =>
      obtain ⟨m', member, checks'⟩ := some_checks
      have later : m' ∈ ms := by
        cases member with
        | head =>
          rw [h] at checks'
          cases checks'
        | tail _ later => exact later
      have rest := ih ⟨m', later, checks'⟩
      rw [idle_of_unchecked h]
      dsimp only
      rw [← rest]
      cases exec (networkConnection notify status) (ms.map fun m => [m]) (some w) <;> rfl

/-- A batch that is checked as its messages would be does what they do. -/
theorem batch_alike {batch : List Message} (alike : ChecksAlike batch watch) :
    outcome (exec (networkConnection notify status) (batch.map fun m => [m]) watch) =
      (networkConnection notify status batch watch).map fun r => (r.1, r.2.calls) := by
  cases h : checks batch watch with
  | false =>
    rw [idle_of_unchecked h]
    refine exec_idle fun m member => ⟨_, idle_of_unchecked ?_, rfl⟩
    rw [← Bool.not_eq_true] at h ⊢
    exact fun one => h (alike.2 ⟨m, member, one⟩)
  | true =>
    cases watch with
    | none => cases h
    | some w =>
      rw [networkConnection_checked h]
      exact exec_first (alike.1 h)

theorem outcome_cons {batch : List Message} {batches : List (List Message)} :
    outcome (exec (networkConnection notify status) (batch :: batches) watch) =
      match networkConnection notify status batch watch with
      | .error f => .error f
      | .ok (watch', o) =>
        (outcome (exec (networkConnection notify status) batches watch')).map fun r => (r.1, o.calls ++ r.2) := by
  rw [exec]
  cases networkConnection notify status batch watch with
  | error f => rfl
  | ok r =>
    dsimp only
    cases exec (networkConnection notify status) batches r.1 <;> rfl

theorem outcome_append {ms ns : List (List Message)} :
    outcome (exec (networkConnection notify status) (ms ++ ns) watch) =
      match outcome (exec (networkConnection notify status) ms watch) with
      | .error f => .error f
      | .ok (watch', calls) =>
        (outcome (exec (networkConnection notify status) ns watch')).map fun r => (r.1, calls ++ r.2) := by
  rw [exec_append]
  cases exec (networkConnection notify status) ms watch with
  | error f => rfl
  | ok p =>
    dsimp only [outcome, Except.map]
    cases exec (networkConnection notify status) ns p.2 with
    | error f => rfl
    | ok q =>
      dsimp only
      rw [List.flatMap_append]

/-- Where every batch is checked as its messages would be, the batches do what their messages do. -/
theorem batches_alike {batches : List (List Message)} (alike : Along ChecksAlike (networkConnection notify status) batches watch) :
    outcome (exec (networkConnection notify status) batches watch) =
      outcome (exec (networkConnection notify status) (singles batches) watch) := by
  induction batches generalizing watch with
  | nil => rfl
  | cons batch batches ih =>
    have split : singles (batch :: batches) = (batch.map fun m => [m]) ++ singles batches := by
      unfold singles
      rw [List.flatten_cons, List.map_append]
    rw [split, outcome_append, batch_alike alike.1, outcome_cons]
    cases answered : networkConnection notify status batch watch with
    | error f => rfl
    | ok r =>
      dsimp only [Except.map]
      rw [ih (alike.2 _ _ answered)]

/-- **Batches.** For every sequence of batches of messages that are not `NLMSG_DONE` or `NLMSG_ERROR`, whatever
the callbacks do and with one status for all checks: the batches leave the status, the watches and the
callbacks that their messages leave one by one, and the status is checked behind each batch exactly
when one of its messages alone would have it checked, if and only if in each batch none of the
messages would, or the last link, address or route message would. -/
theorem batches_iff (notify : Notify) (status : Option Bool) {batches : List (List Message)}
    (plain : ∀ batch ∈ batches, ∀ m ∈ batch, m.Plain) (watch : Option Watch) :
    (outcome (exec (networkConnection notify status) batches watch) =
        outcome (exec (networkConnection notify status) (singles batches) watch) ∧
      Along ChecksAlike (networkConnection notify status) batches watch) ↔
      Along Decided (networkConnection notify status) batches watch := by
  constructor
  · rintro ⟨-, alike⟩
    exact alike.mono fun batch member w => (checksAlike_iff (plain batch member) w).1
  · intro decided
    have alike := decided.mono fun batch member w => (checksAlike_iff (plain batch member) w).2
    exact ⟨batches_alike alike, alike⟩

/-- A watch that is online, with one callback. -/
def onlineWatch : Watch := ⟨[⟨0, 1, 7⟩], true⟩

theorem batches_down :
    (outcome (exec (networkConnection passive (some false)) [[⟨.newAddr, false⟩, ⟨.delAddr, false⟩]] (some onlineWatch)) =
        outcome (exec (networkConnection passive (some false)) (singles [[⟨.newAddr, false⟩, ⟨.delAddr, false⟩]]) (some onlineWatch)) ∧
      Along ChecksAlike (networkConnection passive (some false)) [[⟨.newAddr, false⟩, ⟨.delAddr, false⟩]] (some onlineWatch)) ↔
      Along Decided (networkConnection passive (some false)) [[⟨.newAddr, false⟩, ⟨.delAddr, false⟩]] (some onlineWatch) :=
  batches_iff passive (some false) (by unfold Message.Plain; decide) (some onlineWatch)

/-- An address goes and another one comes: in one batch, nobody hears that the device is offline. -/
theorem batches_not : ¬ ∀ notify status batches, (∀ batch ∈ batches, ∀ m ∈ batch, m.Plain) → ∀ watch,
    outcome (exec (networkConnection notify status) batches watch) =
      outcome (exec (networkConnection notify status) (singles batches) watch) := by
  intro same
  have apart := same passive (some false) [[⟨.delAddr, false⟩, ⟨.newAddr, false⟩]] (by unfold Message.Plain; decide) (some onlineWatch)
  have together : outcome (exec (networkConnection passive (some false)) [[⟨.delAddr, false⟩, ⟨.newAddr, false⟩]] (some onlineWatch)) =
      .ok (some onlineWatch, []) := rfl
  have alone : outcome (exec (networkConnection passive (some false)) (singles [[⟨.delAddr, false⟩, ⟨.newAddr, false⟩]]) (some onlineWatch)) =
      .ok (some { onlineWatch with currentOnlineStatus := false }, [(⟨0, 1, 7⟩, false)]) := rfl
  rw [together, alone] at apart
  cases apart

end ArtikSdk.Network
