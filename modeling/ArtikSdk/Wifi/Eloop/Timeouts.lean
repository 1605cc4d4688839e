import ArtikSdk.Lib.Agenda
import ArtikSdk.Lib.Run
import Mathlib.Data.Prod.Lex

/-!
# The timeouts of the event loop

Built without `CONFIG_ELOOP_GMAINLOOP`, `eloop.c` keeps the timeouts in a list in the order of their times.
A turn of `eloop_run` waits for the first one, fires it when its time has come, and goes on; the handler may
register and cancel others, which are calls of their own here. The list stands for a set: the timeouts that
have been registered and have neither fired nor been cancelled.
-/

namespace ArtikSdk.Wifi.Eloop
open Lib

/-- `struct os_reltime` -/
structure Reltime where
  sec : Int
  usec : Int
deriving DecidableEq

/-- `os_reltime_before` -/
def Reltime.before (a b : Reltime) : Bool := a.sec < b.sec || (a.sec = b.sec && a.usec < b.usec)

/-- `os_reltime_sub` -/
def Reltime.sub (a b : Reltime) : Reltime :=
  if a.usec - b.usec < 0 then ⟨a.sec - b.sec - 1, a.usec - b.usec + 1000000⟩ else ⟨a.sec - b.sec, a.usec - b.usec⟩

/-- `os_time_t` is a `long`. -/
def osTime (n : Int) : Int := n.bmod (2 ^ 64)

/-- `struct eloop_timeout`. `number` is not in the source: which registration it is. -/
structure Timeout where
  time : Reltime
  eloopData : Nat
  userData : Nat
  handler : Nat
  number : Nat
deriving DecidableEq

/-- `eloop.timeout`, and what is not in the source: the timeouts registered so far, those that have fired and
those that have been cancelled. -/
structure State where
  timeouts : List Timeout
  registered : List Timeout
  fired : List Timeout
  cancelled : List Timeout

/-- `eloop_init` -/
def State.init : State := ⟨[], [], [], []⟩

/-- `ELOOP_ALL_CTX` -/
def allCtx : Nat := 2 ^ 64 - 1

/-! ## The functions of `eloop.c` -/

/-- The microseconds are carried into the seconds; every round takes a million of them. -/
def carry : Nat → Reltime → Reltime
  | 0, t => t
  | n + 1, t => if t.usec ≥ 1000000 then carry n ⟨osTime (t.sec + 1), t.usec - 1000000⟩ else t

/-- The time of a timeout that is registered at `now`; none if the seconds overflow. -/
def dueTime (now : Reltime) (secs usecs : BitVec 32) : Option Reltime :=
  let sec := osTime (now.sec + secs.toNat)
  let usec := now.usec + usecs.toNat
  if sec < now.sec then none else some (carry (usec.toNat / 1000000) ⟨sec, usec⟩)

/-- A timeout goes in front of the first one with a later time. -/
def State.enter (t : Timeout) (s : State) : State :=
  { s with
    timeouts := Agenda.insertBefore (fun tmp => t.time.before tmp.time) t s.timeouts
    registered := s.registered ++ [t] }

/-- `eloop_register_timeout`, with the answers of `os_zalloc` and `os_get_reltime`. -/
def eloopRegisterTimeout (secs usecs : BitVec 32) (handler eloopData userData : Nat) (memory : Bool) (now : Option Reltime) (s : State) :
    State × Int :=
  if memory = false then (s, -1)
  else
    match now with
    | none => (s, -1)
    | some now =>
      match dueTime now secs usecs with
      | none => (s, 0)
      | some time => (s.enter ⟨time, eloopData, userData, handler, s.registered.length⟩, 0)

/-- The timeouts that `eloop_cancel_timeout` looks for. -/
def Timeout.matches (t : Timeout) (handler eloopData userData : Nat) : Bool :=
  t.handler = handler && (t.eloopData = eloopData || eloopData = allCtx) && (t.userData = userData || userData = allCtx)

/-- The timeouts that the other functions look for. -/
def Timeout.is (t : Timeout) (handler eloopData userData : Nat) : Bool :=
  t.handler = handler && t.eloopData = eloopData && t.userData = userData

/-- `eloop_cancel_timeout` -/
def eloopCancelTimeout (handler eloopData userData : Nat) (s : State) : State × Int :=
  let removed := s.timeouts.filter fun t => t.matches handler eloopData userData
  ({ s with
      timeouts := s.timeouts.filter fun t => ! t.matches handler eloopData userData
      cancelled := s.cancelled ++ removed }, removed.length)

/-- `eloop_cancel_timeout_one`, with `*remaining`. -/
def eloopCancelTimeoutOne (handler eloopData userData : Nat) (now : Reltime) (s : State) : State × Int × Reltime :=
  match s.timeouts.find? fun t => t.is handler eloopData userData with
  | none => (s, 0, ⟨0, 0⟩)
  | some t =>
    ({ s with
        timeouts := s.timeouts.eraseP fun t => t.is handler eloopData userData
        cancelled := s.cancelled ++ [t] }, 1, if now.before t.time then t.time.sub now else ⟨0, 0⟩)

/-- `eloop_is_timeout_registered` -/
def eloopIsTimeoutRegistered (handler eloopData userData : Nat) (s : State) : Int :=
  if s.timeouts.any fun t => t.is handler eloopData userData then 1 else 0

/-- `eloop_deplete_timeout` and `eloop_replenish_timeout`: the timeout is registered anew where `late` holds of the
time asked for and the time that remains. -/
def adjustTimeout (late : Reltime → Reltime → Bool) (reqSecs reqUsecs : BitVec 32) (handler eloopData userData : Nat) (now : Reltime)
    (memory : Bool) (now' : Option Reltime) (s : State) : State × Int :=
  match s.timeouts.find? fun t => t.is handler eloopData userData with
  | none => (s, -1)
  | some tmp =>
    if late ⟨reqSecs.toNat, reqUsecs.toNat⟩ (tmp.time.sub now) then
      let s := (eloopCancelTimeout handler eloopData userData s).1
      ((eloopRegisterTimeout reqSecs reqUsecs handler eloopData userData memory now' s).1, 1)
    else (s, 0)

def eloopDepleteTimeout := adjustTimeout fun requested remaining => requested.before remaining
def eloopReplenishTimeout := adjustTimeout fun requested remaining => remaining.before requested

/-- How long `eloop_run` lets `select` wait; for ever if there is no timeout. -/
def eloopWait (now : Reltime) (s : State) : Option Reltime :=
  s.timeouts.head?.map fun t => if now.before t.time then t.time.sub now else ⟨0, 0⟩

/-- The timeouts in a turn of `eloop_run`, from `select` on: the one whose handler is called. -/
def eloopTurn (now : Reltime) (s : State) : State × Option Timeout :=
  match s.timeouts with
  | [] => (s, none)
  | t :: ts => if now.before t.time then (s, none) else ({ s with timeouts := ts, fired := s.fired ++ [t] }, some t)

/-- `eloop_destroy` -/
def eloopDestroy (s : State) : State := { s with timeouts := [], cancelled := s.cancelled ++ s.timeouts }

/-! ## Runs -/

/-- A call with the answers that it gets, or a turn of `eloop_run`. -/
inductive Event where
  | register (secs usecs : BitVec 32) (handler eloopData userData : Nat) (memory : Bool) (now : Option Reltime)
  | cancel (handler eloopData userData : Nat)
  | cancelOne (handler eloopData userData : Nat) (now : Reltime)
  | isRegistered (handler eloopData userData : Nat)
  | deplete (reqSecs reqUsecs : BitVec 32) (handler eloopData userData : Nat) (now : Reltime) (memory : Bool) (now' : Option Reltime)
  | replenish (reqSecs reqUsecs : BitVec 32) (handler eloopData userData : Nat) (now : Reltime) (memory : Bool) (now' : Option Reltime)
  | turn (now : Reltime)
  | destroy

/-- What a call returns, with `*remaining` where there is one, or the timeout that has fired. -/
inductive Seen where
  | returned (ret : Int)
  | remaining (ret : Int) (r : Reltime)
  | fired (timeout : Option Timeout)

def step : Event → State → Except Empty (State × Seen)
  | .register secs usecs handler eloopData userData memory now, s =>
    let r := eloopRegisterTimeout secs usecs handler eloopData userData memory now s
    .ok (r.1, .returned r.2)
  | .cancel handler eloopData userData, s =>
    let r := eloopCancelTimeout handler eloopData userData s
    .ok (r.1, .returned r.2)
  | .cancelOne handler eloopData userData now, s =>
    let r := eloopCancelTimeoutOne handler eloopData userData now s
    .ok (r.1, .remaining r.2.1 r.2.2)
  | .isRegistered handler eloopData userData, s => .ok (s, .returned (eloopIsTimeoutRegistered handler eloopData userData s))
  | .deplete reqSecs reqUsecs handler eloopData userData now memory now', s =>
    let r := eloopDepleteTimeout reqSecs reqUsecs handler eloopData userData now memory now' s
    .ok (r.1, .returned r.2)
  | .replenish reqSecs reqUsecs handler eloopData userData now memory now', s =>
    let r := eloopReplenishTimeout reqSecs reqUsecs handler eloopData userData now memory now' s
    .ok (r.1, .returned r.2)
  | .turn now, s => .ok ((eloopTurn now s).1, .fired (eloopTurn now s).2)
  | .destroy, s => .ok (eloopDestroy s, .returned 0)

/-! ## The agenda -/

/-- The timeouts that are still to fire. -/
def State.pending (s : State) : Set Timeout := {t | t ∈ s.registered ∧ t ∉ s.fired ∧ t ∉ s.cancelled}

/-- A time, in the order of times. -/
def Reltime.order (t : Reltime) : Int ×ₗ Int := toLex (t.sec, t.usec)

/-- Timeouts come in the order of their times, and those of one time in the order of their registrations. -/
def Timeout.key (t : Timeout) : (Int ×ₗ Int) ×ₗ Nat := toLex (t.time.order, t.number)

theorem before_iff {a b : Reltime} : a.before b = true ↔ a.order < b.order := by
  rw [Reltime.order, Reltime.order, Prod.Lex.toLex_lt_toLex, Reltime.before]
  simp

theorem not_before_iff {a b : Reltime} : a.before b = false ↔ b.order ≤ a.order := by
  rw [← not_lt, ← before_iff, Bool.not_eq_true]

theorem key_lt_iff {s t : Timeout} : s.key < t.key ↔ s.time.order < t.time.order ∨ s.time.order = t.time.order ∧ s.number < t.number :=
  Prod.Lex.toLex_lt_toLex

/-- What every event keeps: the list is in order, the registrations are numbered, and each of them is in one place. -/
structure State.Kept (s : State) : Prop where
  sorted : s.timeouts.Pairwise fun t u => t.key < u.key
  numbered : s.registered.map Timeout.number = List.range s.registered.length
  balance : s.registered.Perm (s.fired ++ (s.cancelled ++ s.timeouts))

theorem init_kept : State.init.Kept := ⟨.nil, rfl, .refl _⟩

namespace State

variable {s : State} {t : Timeout} {now : Reltime}

theorem Kept.nodup (kept : s.Kept) : (s.fired ++ (s.cancelled ++ s.timeouts)).Nodup := by
  rw [← kept.balance.nodup_iff]
  exact List.Nodup.of_map Timeout.number (kept.numbered ▸ List.nodup_range)

/-- **The list stands for the agenda.** -/
theorem Kept.lists (kept : s.Kept) : Agenda.Lists Timeout.key s.timeouts s.pending := by
  refine ⟨kept.sorted, fun t => ?_⟩
  have nodup := kept.nodup
  rw [List.nodup_append, List.nodup_append] at nodup
  obtain ⟨-, ⟨-, -, later⟩, apart⟩ := nodup
  constructor
  · intro member
    refine ⟨kept.balance.mem_iff.2 (by simp [member]), fun fired => ?_, fun gone => ?_⟩
    · exact apart t fired t (List.mem_append_right _ member) rfl
    · exact later t gone t member rfl
  · rintro ⟨registered, unfired, kept'⟩
    have somewhere := kept.balance.mem_iff.1 registered
    simp only [List.mem_append] at somewhere
    exact (somewhere.resolve_left unfired).resolve_left kept'

theorem Kept.mem_pending (kept : s.Kept) : t ∈ s.timeouts ↔ t ∈ s.pending := kept.lists.mem t

theorem Kept.number_lt (kept : s.Kept) (member : t ∈ s.registered) : t.number < s.registered.length := by
  rw [← List.mem_range, ← kept.numbered]
  exact List.mem_map_of_mem member

/-- A new timeout enters the list where it belongs. -/
theorem Kept.enter (kept : s.Kept) (number : t.number = s.registered.length) : (s.enter t).Kept := by
  have older : ∀ u ∈ s.timeouts, u.number < t.number := by
    intro u member
    rw [number]
    exact kept.number_lt (kept.mem_pending.1 member).1
  refine ⟨?_, ?_, ?_⟩
  · refine (kept.lists.insert (x := t) (fun u member => ?_) fun u member same => ?_).sorted
    · rw [before_iff, key_lt_iff]
      have := older u member
      exact ⟨Or.inl, fun either => either.resolve_right fun tie => by omega⟩
    · have same : u.number = t.number := congrArg (fun k => (ofLex k).2) same
      have := older u member
      omega
  · rw [State.enter]
    simp only
    rw [List.map_append, kept.numbered, List.map_singleton, number, List.length_append, List.length_singleton, List.range_succ]
  · have into := (Agenda.insertBefore_perm (fun tmp => t.time.before tmp.time) t s.timeouts)
    have whole : (s.registered ++ [t]).Perm (s.fired ++ (s.cancelled ++ (t :: s.timeouts))) := by
      refine (kept.balance.append_right [t]).trans ?_
      rw [List.append_assoc, List.append_assoc]
      exact ((List.perm_append_singleton t s.timeouts).append_left s.cancelled).append_left s.fired
    exact whole.trans ((into.symm.append_left s.cancelled).append_left s.fired)

/-- Timeouts leave the list and are cancelled. -/
theorem Kept.leave (kept : s.Kept) {gone rest : List Timeout} (parts : s.timeouts.Perm (gone ++ rest))
    (sorted : rest.Pairwise fun t u => t.key < u.key) :
    State.Kept { s with timeouts := rest, cancelled := s.cancelled ++ gone } := by
  refine ⟨sorted, kept.numbered, kept.balance.trans (List.Perm.append_left _ ?_)⟩
  rw [List.append_assoc]
  exact parts.append_left _

theorem Kept.cancel (kept : s.Kept) (handler eloopData userData : Nat) : (eloopCancelTimeout handler eloopData userData s).1.Kept :=
  kept.leave (List.filter_append_perm _ _).symm (kept.sorted.filter _)

theorem Kept.register (kept : s.Kept) (secs usecs : BitVec 32) (handler eloopData userData : Nat) (memory : Bool) (now : Option Reltime) :
    (eloopRegisterTimeout secs usecs handler eloopData userData memory now s).1.Kept := by
  unfold eloopRegisterTimeout
  split
  · exact kept
  split
  · exact kept
  split
  · exact kept
  · exact kept.enter rfl

theorem Kept.cancelOne (kept : s.Kept) (handler eloopData userData : Nat) (now : Reltime) :
    (eloopCancelTimeoutOne handler eloopData userData now s).1.Kept := by
  unfold eloopCancelTimeoutOne
  split
  · exact kept
  · rename_i t found
    exact kept.leave (Agenda.eraseP_perm found) (kept.sorted.sublist List.eraseP_sublist)

theorem Kept.adjust (kept : s.Kept) (late : Reltime → Reltime → Bool) (reqSecs reqUsecs : BitVec 32) (handler eloopData userData : Nat)
    (now : Reltime) (memory : Bool) (now' : Option Reltime) :
    (adjustTimeout late reqSecs reqUsecs handler eloopData userData now memory now' s).1.Kept := by
  unfold adjustTimeout
  split
  · exact kept
  split
  · exact (kept.cancel handler eloopData userData).register reqSecs reqUsecs handler eloopData userData memory now'
  · exact kept

theorem Kept.turn (kept : s.Kept) (now : Reltime) : (eloopTurn now s).1.Kept := by
  unfold eloopTurn
  split
  · exact kept
  · rename_i t ts first
    split
    · exact kept
    · have sorted := kept.sorted
      have balance := kept.balance
      rw [first] at sorted balance
      refine ⟨(List.pairwise_cons.1 sorted).2, kept.numbered, balance.trans ?_⟩
      rw [List.append_assoc]
      refine List.Perm.append_left _ ?_
      exact List.perm_middle

theorem Kept.destroy (kept : s.Kept) : (eloopDestroy s).Kept :=
  kept.leave (by rw [List.append_nil]) .nil

/-- **One event.** -/
theorem Kept.step (kept : s.Kept) {e : Event} {s' : State} {o : Seen} (answered : step e s = .ok (s', o)) : s'.Kept := by
  cases e with
  | register secs usecs handler eloopData userData memory now =>
    cases answered
    exact kept.register ..
  | cancel handler eloopData userData =>
    cases answered
    exact kept.cancel ..
  | cancelOne handler eloopData userData now =>
    cases answered
    exact kept.cancelOne ..
  | isRegistered handler eloopData userData =>
    cases answered
    exact kept
  | deplete reqSecs reqUsecs handler eloopData userData now memory now' =>
    cases answered
    exact kept.adjust ..
  | replenish reqSecs reqUsecs handler eloopData userData now memory now' =>
    cases answered
    exact kept.adjust ..
  | turn now =>
    cases answered
    exact kept.turn now
  | destroy =>
    cases answered
    exact kept.destroy

end State

/-! ## Times -/

/-- A time in microseconds. -/
def Reltime.micros (t : Reltime) : Int := t.sec * 1000000 + t.usec

/-- A reading of the clock that is years away from the end of `long`. -/
structure Reltime.Sane (t : Reltime) : Prop where
  past : 0 ≤ t.sec
  early : t.sec + 2 ^ 33 < 2 ^ 63
  normal : 0 ≤ t.usec ∧ t.usec < 1000000

theorem osTime_eq {n : Int} (low : 0 ≤ n) (high : n < 2 ^ 63) : osTime n = n := by
  rw [osTime, Int.bmod_def]
  omega

/-- The loop carries all of it, and no more. -/
theorem carry_micros {n : Nat} {t : Reltime} (rounds : t.usec.toNat / 1000000 = n) (positive : 0 ≤ t.usec) (past : 0 ≤ t.sec)
    (early : t.sec + n < 2 ^ 63) : (carry n t).micros = t.micros ∧ 0 ≤ (carry n t).usec ∧ (carry n t).usec < 1000000 := by
  induction n generalizing t with
  | zero =>
    rw [carry]
    exact ⟨rfl, positive, by omega⟩
  | succ n ih =>
    have full : t.usec ≥ 1000000 := by omega
    rw [carry, if_pos full]
    have next := osTime_eq (n := t.sec + 1) (by omega) (by omega)
    obtain ⟨same, normal⟩ := ih (t := ⟨osTime (t.sec + 1), t.usec - 1000000⟩) (by dsimp only; omega) (by dsimp only; omega)
      (by dsimp only; omega) (by dsimp only; omega)
    refine ⟨same.trans ?_, normal⟩
    rw [next, Reltime.micros, Reltime.micros]
    ring

/-- A timeout is due when the time asked for has passed. -/
theorem dueTime_sane {now : Reltime} (sane : now.Sane) (secs usecs : BitVec 32) :
    ∃ time, dueTime now secs usecs = some time ∧ time.micros = now.micros + secs.toNat * 1000000 + usecs.toNat ∧
      0 ≤ time.usec ∧ time.usec < 1000000 := by
  obtain ⟨past, early, normal⟩ := sane
  have secs' := secs.isLt
  have usecs' := usecs.isLt
  have sec := osTime_eq (n := now.sec + secs.toNat) (by omega) (by omega)
  refine ⟨carry ((now.usec + usecs.toNat).toNat / 1000000) ⟨now.sec + secs.toNat, now.usec + usecs.toNat⟩, ?_, ?_⟩
  · rw [dueTime, sec]
    exact if_neg (by omega)
  · obtain ⟨same, carried⟩ := carry_micros (t := ⟨now.sec + secs.toNat, now.usec + usecs.toNat⟩) rfl (by dsimp only; omega)
      (by dsimp only; omega) (by dsimp only; omega)
    refine ⟨same.trans ?_, carried⟩
    rw [Reltime.micros, Reltime.micros]
    ring

/-- The time that remains is the time between. -/
theorem sub_micros (a b : Reltime) : (a.sub b).micros = a.micros - b.micros := by
  unfold Reltime.sub Reltime.micros
  split <;> dsimp only <;> omega

/-! ## The laws of the calls -/

/-- A call that adjusts the next of the timeouts it looks for: where `late` holds of the time asked for and the time
that remains, all that match are cancelled and one is registered that is due after the time asked for. -/
def Adjusted (late : Reltime → Reltime → Bool) (c : Call Event State Seen) (reqSecs reqUsecs : BitVec 32) (handler eloopData userData : Nat)
    (now now' : Reltime) : Prop :=
  (c.output = .returned (-1) ∧ c.after = c.before ∧ ∀ t ∈ c.before.pending, t.is handler eloopData userData = false) ∨
    ∃ t, Agenda.Next Timeout.key {t ∈ c.before.pending | t.is handler eloopData userData = true} t ∧
      ((late ⟨reqSecs.toNat, reqUsecs.toNat⟩ (t.time.sub now) = false ∧ c.output = .returned 0 ∧ c.after = c.before) ∨
        late ⟨reqSecs.toNat, reqUsecs.toNat⟩ (t.time.sub now) = true ∧ c.output = .returned 1 ∧
          (now'.Sane → ∃ u : Timeout,
            c.after.pending = insert u {v ∈ c.before.pending | v.matches handler eloopData userData = false} ∧
              u ∉ c.before.registered ∧ (u.handler = handler ∧ u.eloopData = eloopData ∧ u.userData = userData) ∧
                u.time.micros = now'.micros + reqSecs.toNat * 1000000 + reqUsecs.toNat))

/-- **The law of a call**: a turn fires the next timeout when its time has come, and else none is due. A
registration adds a timeout that is due after the time asked for. A cancellation takes the timeouts that match,
and counts them; the other one takes the first of them, and tells the time that remained. -/
def Scheduled (c : Call Event State Seen) : Prop :=
  match c.input with
  | .register secs usecs handler eloopData userData memory now =>
    ∀ clock : Reltime, memory = true → now = some clock → clock.Sane →
      ∃ t : Timeout, c.output = .returned 0 ∧ c.after.pending = insert t c.before.pending ∧ t ∉ c.before.registered ∧
        (t.handler = handler ∧ t.eloopData = eloopData ∧ t.userData = userData) ∧
          t.time.micros = clock.micros + secs.toNat * 1000000 + usecs.toNat
  | .cancel handler eloopData userData =>
    ∃ gone : List Timeout, c.output = .returned gone.length ∧ gone.Nodup ∧
      (∀ t, t ∈ gone ↔ t ∈ c.before.pending ∧ t.matches handler eloopData userData = true) ∧
        c.after.pending = {t ∈ c.before.pending | t.matches handler eloopData userData = false}
  | .cancelOne handler eloopData userData now =>
    (c.output = .remaining 0 ⟨0, 0⟩ ∧ c.after = c.before ∧ ∀ t ∈ c.before.pending, t.is handler eloopData userData = false) ∨
      ∃ t r, c.output = .remaining 1 r ∧ Agenda.Next Timeout.key {t ∈ c.before.pending | t.is handler eloopData userData = true} t ∧
        c.after.pending = {u ∈ c.before.pending | u ≠ t} ∧
          r.micros = if now.before t.time then t.time.micros - now.micros else 0
  | .isRegistered handler eloopData userData =>
    c.after = c.before ∧
      ∃ ret, c.output = .returned ret ∧ (ret = 1 ↔ ∃ t ∈ c.before.pending, t.is handler eloopData userData = true)
  | .deplete reqSecs reqUsecs handler eloopData userData now memory now' =>
    ∀ clock, memory = true → now' = some clock →
      Adjusted (fun requested remaining => requested.before remaining) c reqSecs reqUsecs handler eloopData userData now clock
  | .replenish reqSecs reqUsecs handler eloopData userData now memory now' =>
    ∀ clock, memory = true → now' = some clock →
      Adjusted (fun requested remaining => remaining.before requested) c reqSecs reqUsecs handler eloopData userData now clock
  | .turn now =>
    (c.output = .fired none ∧ c.after = c.before ∧ ∀ t ∈ c.before.pending, now.before t.time = true) ∨
      ∃ t, c.output = .fired (some t) ∧ Agenda.Next Timeout.key c.before.pending t ∧ now.before t.time = false ∧
        c.after.pending = {u ∈ c.before.pending | u ≠ t}
  | .destroy => c.after.pending = ∅

namespace State

variable {s : State} {t : Timeout}

theorem Kept.pending_eq {s' : State} {S : Set Timeout} (kept : s'.Kept) (lists : Agenda.Lists Timeout.key s'.timeouts S) :
    s'.pending = S :=
  Set.ext fun t => (kept.lists.mem t).symm.trans (lists.mem t)

theorem Kept.pending_enter (kept : s.Kept) (number : t.number = s.registered.length) :
    (s.enter t).pending = insert t s.pending ∧ t ∉ s.registered := by
  have new : t ∉ s.registered := fun member => by
    have := kept.number_lt member
    omega
  refine ⟨Set.ext fun u => ?_, new⟩
  rw [← (kept.enter number).mem_pending, State.enter, (Agenda.insertBefore_perm _ _ _).mem_iff, List.mem_cons, kept.mem_pending]
  rfl

/-- A registration whose answers are sane enters its timeout. -/
theorem Kept.registers (kept : s.Kept) (secs usecs : BitVec 32) (handler eloopData userData : Nat) {now : Reltime} (sane : now.Sane) :
    ∃ u : Timeout, (eloopRegisterTimeout secs usecs handler eloopData userData true (some now) s).2 = 0 ∧
      (eloopRegisterTimeout secs usecs handler eloopData userData true (some now) s).1.pending = insert u s.pending ∧ u ∉ s.registered ∧
        (u.handler = handler ∧ u.eloopData = eloopData ∧ u.userData = userData) ∧
          u.time.micros = now.micros + secs.toNat * 1000000 + usecs.toNat := by
  obtain ⟨time, due, micros, -⟩ := dueTime_sane sane secs usecs
  have entered : eloopRegisterTimeout secs usecs handler eloopData userData true (some now) s =
      (s.enter ⟨time, eloopData, userData, handler, s.registered.length⟩, 0) := by
    rw [eloopRegisterTimeout, if_neg (by decide)]
    simp only [due]
  rw [entered]
  obtain ⟨pending, new⟩ := kept.pending_enter (t := ⟨time, eloopData, userData, handler, s.registered.length⟩) rfl
  exact ⟨_, rfl, pending, new, ⟨rfl, rfl, rfl⟩, micros⟩

theorem Kept.pending_cancel (kept : s.Kept) (handler eloopData userData : Nat) :
    (eloopCancelTimeout handler eloopData userData s).1.pending = {t ∈ s.pending | t.matches handler eloopData userData = false} := by
  refine (kept.cancel handler eloopData userData).pending_eq ?_
  have rest := kept.lists.filter fun t => ! t.matches handler eloopData userData
  simp only [Bool.not_eq_true'] at rest
  exact rest

theorem Kept.adjusted (kept : s.Kept) (late : Reltime → Reltime → Bool) (reqSecs reqUsecs : BitVec 32) (handler eloopData userData : Nat)
    (now now' : Reltime) {e : Event} {s' : State} {o : Seen}
    (result : (s', o) = ((adjustTimeout late reqSecs reqUsecs handler eloopData userData now true (some now') s).1,
      .returned (adjustTimeout late reqSecs reqUsecs handler eloopData userData now true (some now') s).2)) :
    Adjusted late ⟨s, e, s', o⟩ reqSecs reqUsecs handler eloopData userData now now' := by
  obtain ⟨rfl, rfl⟩ := Prod.mk.inj result
  cases found : s.timeouts.find? fun t => t.is handler eloopData userData with
  | none =>
    have stays : adjustTimeout late reqSecs reqUsecs handler eloopData userData now true (some now') s = (s, -1) := by
      simp only [adjustTimeout, found]
    refine Or.inl ⟨congrArg (fun r => Seen.returned r.2) stays, congrArg Prod.fst stays, fun t member => ?_⟩
    have none' := List.find?_eq_none.1 found t (kept.mem_pending.2 member)
    simpa using none'
  | some t =>
    refine Or.inr ⟨t, kept.lists.find found, ?_⟩
    cases asked : late ⟨reqSecs.toNat, reqUsecs.toNat⟩ (t.time.sub now) with
    | false =>
      have stays : adjustTimeout late reqSecs reqUsecs handler eloopData userData now true (some now') s = (s, 0) := by
        simp only [adjustTimeout, found, asked, Bool.false_eq_true, if_false]
      exact Or.inl ⟨rfl, congrArg (fun r => Seen.returned r.2) stays, congrArg Prod.fst stays⟩
    | true =>
      have anew : adjustTimeout late reqSecs reqUsecs handler eloopData userData now true (some now') s =
          ((eloopRegisterTimeout reqSecs reqUsecs handler eloopData userData true (some now')
            (eloopCancelTimeout handler eloopData userData s).1).1, 1) := by
        simp only [adjustTimeout, found, asked, if_true]
      refine Or.inr ⟨rfl, congrArg (fun r => Seen.returned r.2) anew, fun sane => ?_⟩
      obtain ⟨u, -, pending, new, names, micros⟩ :=
        (kept.cancel handler eloopData userData).registers reqSecs reqUsecs handler eloopData userData sane
      rw [kept.pending_cancel] at pending
      exact ⟨u, (congrArg (fun r => State.pending r.1) anew).trans pending, new, names, micros⟩

/-- A turn fires the next timeout, or none is due. -/
theorem Kept.turned (kept : s.Kept) (now : Reltime) :
    (eloopTurn now s = (s, none) ∧ ∀ t ∈ s.pending, now.before t.time = true) ∨
      ∃ t, (eloopTurn now s).2 = some t ∧ Agenda.Next Timeout.key s.pending t ∧ now.before t.time = false ∧
        (eloopTurn now s).1.pending = {u ∈ s.pending | u ≠ t} := by
  have after := kept.turn now
  have lists := kept.lists
  unfold eloopTurn at after ⊢
  cases first : s.timeouts with
  | nil =>
    refine Or.inl ⟨rfl, fun t member => ?_⟩
    exact absurd (kept.mem_pending.2 member) (by rw [first]; exact List.not_mem_nil)
  | cons t ts =>
    simp only [first] at after ⊢
    rw [first] at lists
    cases early : now.before t.time with
    | true =>
      refine Or.inl ⟨if_pos rfl, fun u member => ?_⟩
      by_cases same : u = t
      · exact same ▸ early
      · rw [before_iff] at early ⊢
        obtain later | tie := key_lt_iff.1 (lists.head.1.least u member same)
        · exact early.trans later
        · exact tie.1 ▸ early
    | false =>
      rw [early, if_neg Bool.false_ne_true] at after
      rw [if_neg Bool.false_ne_true]
      exact Or.inr ⟨t, rfl, lists.head.1, early, after.pending_eq lists.head.2⟩

/-- `select` waits until the next timeout is due. -/
theorem Kept.wait (kept : s.Kept) (now : Reltime) :
    (eloopWait now s = none ∧ s.pending = ∅) ∨
      ∃ t w, eloopWait now s = some w ∧ Agenda.Next Timeout.key s.pending t ∧
        w.micros = if now.before t.time then t.time.micros - now.micros else 0 := by
  have lists := kept.lists
  unfold eloopWait
  cases first : s.timeouts with
  | nil =>
    refine Or.inl ⟨rfl, Set.ext fun t => ?_⟩
    rw [← lists.mem, first]
    exact iff_of_false List.not_mem_nil (Set.notMem_empty t)
  | cons t ts =>
    rw [first] at lists
    refine Or.inr ⟨t, _, rfl, lists.head.1, ?_⟩
    dsimp only
    split
    · exact sub_micros _ _
    · rfl

/-- The law holds of every call that finds things in order. -/
theorem Kept.scheduled (kept : s.Kept) {e : Event} {s' : State} {o : Seen} (answered : Eloop.step e s = .ok (s', o)) :
    Scheduled ⟨s, e, s', o⟩ := by
  have after := kept.step answered
  cases e with
  | register secs usecs handler eloopData userData memory now =>
    cases answered
    intro clock present read sane
    subst present read
    obtain ⟨u, zero, pending, new, names, micros⟩ := kept.registers secs usecs handler eloopData userData sane
    exact ⟨u, congrArg Seen.returned zero, pending, new, names, micros⟩
  | cancel handler eloopData userData =>
    cases answered
    refine ⟨s.timeouts.filter fun t => t.matches handler eloopData userData, rfl, kept.lists.nodup.filter _, fun t => ?_, ?_⟩
    · rw [List.mem_filter, kept.mem_pending]
    · exact kept.pending_cancel handler eloopData userData
  | cancelOne handler eloopData userData now =>
    cases answered
    unfold Scheduled
    unfold eloopCancelTimeoutOne at after ⊢
    cases found : s.timeouts.find? fun t => t.is handler eloopData userData with
    | none =>
      refine Or.inl ⟨rfl, rfl, fun t member => ?_⟩
      have none' := List.find?_eq_none.1 found t (kept.mem_pending.2 member)
      simpa using none'
    | some t =>
      simp only [found] at after ⊢
      refine Or.inr ⟨t, _, rfl, kept.lists.find found, after.pending_eq (kept.lists.eraseP found), ?_⟩
      split
      · exact sub_micros _ _
      · rfl
  | isRegistered handler eloopData userData =>
    cases answered
    refine ⟨rfl, _, rfl, ?_⟩
    simp only [← kept.mem_pending]
    rw [eloopIsTimeoutRegistered, ← List.any_eq_true]
    split <;> simp_all
  | deplete reqSecs reqUsecs handler eloopData userData now memory now' =>
    cases answered
    intro clock present read
    subst present read
    exact kept.adjusted _ reqSecs reqUsecs handler eloopData userData now clock rfl
  | replenish reqSecs reqUsecs handler eloopData userData now memory now' =>
    cases answered
    intro clock present read
    subst present read
    exact kept.adjusted _ reqSecs reqUsecs handler eloopData userData now clock rfl
  | turn now =>
    cases answered
    obtain ⟨same, none'⟩ | ⟨t, fired, next⟩ := kept.turned now
    · exact Or.inl ⟨congrArg (fun r => Seen.fired r.2) same, congrArg Prod.fst same, none'⟩
    · exact Or.inr ⟨t, congrArg Seen.fired fired, next⟩
  | destroy =>
    cases answered
    exact Set.ext fun t => iff_of_false (fun member => List.not_mem_nil (after.mem_pending.2 member)) (Set.notMem_empty t)

end State

/-! ## Every run -/

/-- The timeout that a call has fired. -/
def Seen.timeout? : Seen → Option Timeout
  | .fired t => t
  | .returned _ => none
  | .remaining .. => none

theorem step_fired {s s' : State} {e : Event} {o : Seen} (answered : step e s = .ok (s', o)) :
    s'.fired = s.fired ++ o.timeout?.toList := by
  have same (h e u : Nat) (s : State) : (eloopCancelTimeout h e u s).1.fired = s.fired := rfl
  have registered (a b : BitVec 32) (h e u : Nat) (m : Bool) (n : Option Reltime) (s : State) :
      (eloopRegisterTimeout a b h e u m n s).1.fired = s.fired := by
    unfold eloopRegisterTimeout
    repeat' split
    all_goals rfl
  have adjusted (late : Reltime → Reltime → Bool) (a b : BitVec 32) (h e u : Nat) (now : Reltime) (m : Bool) (n : Option Reltime) (s : State) :
      (adjustTimeout late a b h e u now m n s).1.fired = s.fired := by
    unfold adjustTimeout
    split
    · rfl
    split
    · exact registered ..
    · rfl
  cases e with
  | register =>
    cases answered
    simp [registered, Seen.timeout?]
  | cancel =>
    cases answered
    simp [same, Seen.timeout?]
  | cancelOne =>
    cases answered
    unfold eloopCancelTimeoutOne
    split <;> simp [Seen.timeout?]
  | isRegistered =>
    cases answered
    simp [Seen.timeout?]
  | deplete =>
    cases answered
    simp [eloopDepleteTimeout, adjusted, Seen.timeout?]
  | replenish =>
    cases answered
    simp [eloopReplenishTimeout, adjusted, Seen.timeout?]
  | turn now =>
    cases answered
    unfold eloopTurn
    split
    · simp [Seen.timeout?]
    · split <;> simp [Seen.timeout?]
  | destroy =>
    cases answered
    simp [eloopDestroy, Seen.timeout?]

theorem run_fired {s s' : State} {cs : List (Call Event State Seen)} (run : Run step s cs s') :
    s'.fired = s.fired ++ cs.filterMap fun c => c.output.timeout? := by
  induction run with
  | nil => simp
  | @cons _ _ _ e o cs answered _ ih =>
    rw [ih, step_fired answered, List.append_assoc, List.filterMap_cons]
    cases o.timeout? <;> rfl

/-- **Every timeout fires in its turn.** In every run each call keeps its law, and the timeouts that have been
registered fire or are cancelled at most once, and not both; the list has those that have done neither, and `select`
waits for the next of them. -/
theorem timeouts_scheduled {cs : List (Call Event State Seen)} {s : State} (run : Run step .init cs s) :
    (∀ c ∈ cs, Scheduled c) ∧ s.fired = (cs.filterMap fun c => c.output.timeout?) ∧
      (s.fired ++ s.cancelled).Nodup ∧ (∀ t ∈ s.fired ++ s.cancelled, t ∈ s.registered) ∧
        (∀ t, t ∈ s.timeouts ↔ t ∈ s.registered ∧ t ∉ s.fired ++ s.cancelled) ∧
          ∀ now, (eloopWait now s = none ∧ s.pending = ∅) ∨
            ∃ t w, eloopWait now s = some w ∧ Agenda.Next Timeout.key s.pending t ∧
              w.micros = if now.before t.time then t.time.micros - now.micros else 0 := by
  have kept : s.Kept := run.invariant (I := State.Kept) init_kept fun e t t' o kept answered => kept.step answered
  refine ⟨fun c member => ?_, ?_, ?_, ?_, fun t => ?_, kept.wait⟩
  · obtain ⟨before, answered⟩ :=
      run.invariant_before (I := State.Kept) init_kept (fun e t t' o kept answered => kept.step answered) member
    exact before.scheduled answered
  · rw [run_fired run]
    rfl
  · have nodup := kept.nodup
    rw [← List.append_assoc] at nodup
    exact (List.nodup_append.1 nodup).1
  · intro t member
    refine kept.balance.mem_iff.2 ?_
    rw [← List.append_assoc]
    exact List.mem_append_left _ member
  · rw [kept.mem_pending, List.mem_append, not_or]
    exact Iff.rfl

/-- A timeout after a microsecond and one after a second. -/
def soon : Timeout := ⟨⟨6, 0⟩, 1, 2, 3, 0⟩
def later : Timeout := ⟨⟨6, 999999⟩, 1, 2, 4, 1⟩

def twoTimeouts : State := ⟨[soon, later], [soon, later], [], []⟩

def registrations : List (Call Event State Seen) :=
  [⟨.init, .register 0 1 3 1 2 true (some ⟨5, 999999⟩), ⟨[soon], [soon], [], []⟩, .returned 0⟩,
    ⟨⟨[soon], [soon], [], []⟩, .register 1 0 4 1 2 true (some ⟨5, 999999⟩), twoTimeouts, .returned 0⟩]

theorem registrations_run : Run step .init registrations twoTimeouts := by
  have due : dueTime ⟨5, 999999⟩ 0 1 = some ⟨6, 0⟩ := by decide
  have due' : dueTime ⟨5, 999999⟩ 1 0 = some ⟨6, 999999⟩ := by decide
  refine .cons ?_ (.cons ?_ (.nil _))
  · simp only [step, eloopRegisterTimeout, due]
    rfl
  · simp only [step, eloopRegisterTimeout, due']
    rfl

theorem timeouts_scheduled_two : registrations.Forall Scheduled ∧ (twoTimeouts.fired ++ twoTimeouts.cancelled).Nodup := by
  obtain ⟨scheduled, -, once, -⟩ := timeouts_scheduled registrations_run
  exact ⟨List.forall_iff_forall_mem.2 scheduled, once⟩

/-! ## No starvation -/

/-- The readings of the clock that a call uses. -/
def Event.readings : Event → List Reltime
  | .register _ _ _ _ _ _ now => now.toList
  | .cancel .. | .isRegistered .. | .destroy => []
  | .cancelOne _ _ _ now => [now]
  | .deplete _ _ _ _ _ now _ now' | .replenish _ _ _ _ _ now _ now' => now :: now'.toList
  | .turn now => [now]

def Event.isTurn : Event → Bool
  | .turn _ => true
  | _ => false

theorem micros_le {a b : Reltime} (normal : 0 ≤ a.usec ∧ a.usec < 1000000) (normal' : 0 ≤ b.usec ∧ b.usec < 1000000)
    (le : a.micros ≤ b.micros) : a.order ≤ b.order := by
  rw [Reltime.order, Reltime.order, Prod.Lex.toLex_le_toLex]
  unfold Reltime.micros at le
  dsimp only
  omega

/-- What an event does to the sets: nothing is forgotten, and what is new is due after a reading of the clock. -/
structure Later (e : Event) (s s' : State) : Prop where
  registered : s.registered ⊆ s'.registered
  fired : s.fired ⊆ s'.fired
  cancelled : s.cancelled ⊆ s'.cancelled
  new : (∀ now ∈ e.readings, now.Sane) → ∀ u ∈ s'.registered, u ∈ s.registered ∨
    s.registered.length ≤ u.number ∧ ∃ now ∈ e.readings, now.order ≤ u.time.order

theorem later_refl (e : Event) (s : State) : Later e s s :=
  ⟨List.Subset.refl _, List.Subset.refl _, List.Subset.refl _, fun _ _ member => Or.inl member⟩

theorem register_later {e : Event} (secs usecs : BitVec 32) (handler eloopData userData : Nat) (memory : Bool) {now : Option Reltime}
    (reads : ∀ clock, now = some clock → clock ∈ e.readings) (s : State) :
    Later e s (eloopRegisterTimeout secs usecs handler eloopData userData memory now s).1 := by
  unfold eloopRegisterTimeout
  split
  · exact later_refl e s
  split
  · exact later_refl e s
  · rename_i clock
    have reads := reads clock rfl
    split
    · exact later_refl e s
    · rename_i time due
      refine ⟨List.subset_append_left _ _, List.Subset.refl _, List.Subset.refl _, fun sane u member => ?_⟩
      refine (List.mem_append.1 member).imp_right fun new => ?_
      obtain rfl := List.mem_singleton.1 new
      refine ⟨le_rfl, clock, reads, ?_⟩
      obtain ⟨time', due', micros, normal⟩ := dueTime_sane (sane clock reads) secs usecs
      obtain rfl := Option.some.inj (due.symm.trans due')
      have le : clock.micros ≤ time.micros := by omega
      exact micros_le (sane clock reads).normal normal le

theorem adjust_later {e : Event} (late : Reltime → Reltime → Bool) (reqSecs reqUsecs : BitVec 32) (handler eloopData userData : Nat)
    (now : Reltime) (memory : Bool) {now' : Option Reltime} (reads : ∀ clock, now' = some clock → clock ∈ e.readings) (s : State) :
    Later e s (adjustTimeout late reqSecs reqUsecs handler eloopData userData now memory now' s).1 := by
  unfold adjustTimeout
  split
  · exact later_refl e s
  split
  · have registers := register_later reqSecs reqUsecs handler eloopData userData memory reads (eloopCancelTimeout handler eloopData userData s).1
    exact ⟨registers.registered, registers.fired, List.Subset.trans (List.subset_append_left _ _) registers.cancelled, registers.new⟩
  · exact later_refl e s

theorem step_later {s s' : State} {e : Event} {o : Seen} (answered : step e s = .ok (s', o)) : Later e s s' := by
  have kept {e : Event} {s s' : State} (registered : s'.registered = s.registered) (fired : s.fired ⊆ s'.fired)
      (cancelled : s.cancelled ⊆ s'.cancelled) : Later e s s' :=
    ⟨registered ▸ List.Subset.refl _, fired, cancelled, fun _ u member => Or.inl (registered ▸ member)⟩
  cases e with
  | register secs usecs handler eloopData userData memory now =>
    cases answered
    exact register_later _ _ _ _ _ _ (fun clock read => by simp [Event.readings, read]) s
  | cancel handler eloopData userData =>
    cases answered
    exact kept rfl (List.Subset.refl _) (List.subset_append_left _ _)
  | cancelOne handler eloopData userData now =>
    cases answered
    unfold eloopCancelTimeoutOne
    split
    · exact later_refl _ s
    · exact kept rfl (List.Subset.refl _) (List.subset_append_left _ _)
  | isRegistered handler eloopData userData =>
    cases answered
    exact later_refl _ s
  | deplete reqSecs reqUsecs handler eloopData userData now memory now' =>
    cases answered
    exact adjust_later _ _ _ _ _ _ _ _ (fun clock read => by simp [Event.readings, read]) s
  | replenish reqSecs reqUsecs handler eloopData userData now memory now' =>
    cases answered
    exact adjust_later _ _ _ _ _ _ _ _ (fun clock read => by simp [Event.readings, read]) s
  | turn now =>
    cases answered
    unfold eloopTurn
    split
    · exact later_refl _ s
    split
    · exact later_refl _ s
    · exact kept rfl (List.subset_append_left _ _) (List.Subset.refl _)
  | destroy =>
    cases answered
    exact kept rfl (List.Subset.refl _) (List.subset_append_left _ _)

namespace State

variable {s s' : State} {t : Timeout} {T : Reltime}

/-- While a timeout that is due does not fire, nothing comes in ahead of it, and every turn takes one away that is. -/
theorem Kept.ahead (kept : s.Kept) {e : Event} {o : Seen} (answered : Eloop.step e s = .ok (s', o)) (member : t ∈ s.pending)
    (due : t.time.order ≤ T.order) (late : ∀ now ∈ e.readings, now.Sane ∧ T.order ≤ now.order) (still : t ∈ s'.pending) :
    Agenda.ahead Timeout.key s'.pending t ⊆ Agenda.ahead Timeout.key s.pending t ∧
      (e.isTurn = true → ∃ u ∈ Agenda.ahead Timeout.key s.pending t, u ∉ Agenda.ahead Timeout.key s'.pending t) := by
  have later := step_later answered
  constructor
  · refine Agenda.ahead_mono fun u entry => ?_
    obtain ⟨registered, unfired, uncancelled⟩ := entry
    refine (later.new (fun now read => (late now read).1) u registered).imp ?_ ?_
    · exact fun old => ⟨old, fun fired => unfired (later.fired fired), fun gone => uncancelled (later.cancelled gone)⟩
    · rintro ⟨number, now, read, after⟩
      have older := kept.number_lt member.1
      have order := (due.trans (late now read).2).trans after
      exact key_lt_iff.2 (order.lt_or_eq.imp_right fun same => ⟨same, by omega⟩)
  · intro turn
    cases e with
    | turn now =>
      cases answered
      obtain ⟨-, early⟩ | ⟨u, -, next, -, pending⟩ := kept.turned now
      · have overdue := due.trans (late now (List.mem_singleton_self now)).2
        exact absurd (before_iff.1 (early t member)) overdue.not_gt
      · rw [pending] at still ⊢
        exact ⟨u, next.ahead member still.2⟩
    | _ => cases turn

theorem Kept.finite (kept : s.Kept) : s.pending.Finite :=
  s.timeouts.finite_toSet.subset fun _ member => kept.mem_pending.2 member

/-- With more turns than there are timeouts ahead, a timeout that is due is fired or cancelled. -/
theorem Kept.due_fires {cs : List (Call Event State Seen)} (run : Run Eloop.step s cs s') (kept : s.Kept) (member : t ∈ s.pending)
    (due : t.time.order ≤ T.order) (late : ∀ c ∈ cs, ∀ now ∈ c.input.readings, now.Sane ∧ T.order ≤ now.order)
    (enough : (Agenda.ahead Timeout.key s.pending t).ncard < cs.countP fun c => c.input.isTurn) : t ∈ s'.fired ∨ t ∈ s'.cancelled := by
  induction run with
  | nil => simp at enough
  | @cons s s₁ s' e o cs answered rest ih =>
    have kept' := kept.step answered
    by_cases still : t ∈ s₁.pending
    · obtain ⟨same, fewer⟩ := kept.ahead answered member due (late _ (List.mem_cons_self ..)) still
      have finite : (Agenda.ahead Timeout.key s.pending t).Finite := kept.finite.subset Agenda.ahead_subset
      refine ih kept' still (fun c member => late c (List.mem_cons_of_mem _ member)) ?_
      rw [List.countP_cons] at enough
      split at enough
      · rename_i turn
        obtain ⟨u, was, gone⟩ := fewer turn
        have less := Set.ncard_lt_ncard ⟨same, fun all => gone (all was)⟩ finite
        omega
      · have no_more := Set.ncard_le_ncard same finite
        omega
    · have later := step_later answered
      have gone : t ∈ s₁.fired ∨ t ∈ s₁.cancelled := by
        by_contra neither
        rw [not_or] at neither
        exact still ⟨later.registered member.1, neither⟩
      clear ih enough still kept' later answered member late kept
      induction rest with
      | nil => exact gone
      | cons answered _ ih => exact ih (gone.imp (fun fired => (step_later answered).fired fired) fun c => (step_later answered).cancelled c)

end State

/-- **No timeout starves.** Once the clock is past a timeout that is pending, it takes one turn for each timeout that
is ahead of it, and one of its own, until it has fired or somebody has cancelled it, whatever else is registered and
cancelled in between. -/
theorem timeouts_prompt {cs ds : List (Call Event State Seen)} {s s' : State} {t : Timeout} {T : Reltime} (run : Run step .init cs s)
    (further : Run step s ds s') (member : t ∈ s.pending) (due : T.before t.time = false)
    (late : ∀ c ∈ ds, ∀ now ∈ c.input.readings, now.Sane ∧ now.before T = false)
    (enough : {u ∈ s.pending | u.key < t.key}.ncard < ds.countP fun c => c.input.isTurn) : t ∈ s'.fired ∨ t ∈ s'.cancelled := by
  have kept : s.Kept := run.invariant (I := State.Kept) init_kept fun e t t' o kept answered => kept.step answered
  refine kept.due_fires further member (not_before_iff.1 due) (fun c member now read => ?_) enough
  exact ⟨(late c member now read).1, not_before_iff.1 (late c member now read).2⟩

def twoTurns : List (Call Event State Seen) :=
  [⟨twoTimeouts, .turn ⟨7, 0⟩, ⟨[later], [soon, later], [soon], []⟩, .fired (some soon)⟩,
    ⟨⟨[later], [soon, later], [soon], []⟩, .turn ⟨7, 0⟩, ⟨[], [soon, later], [soon, later], []⟩, .fired (some later)⟩]

theorem timeouts_prompt_two : later ∈ [soon, later] ∨ later ∈ ([] : List Timeout) := by
  have further : Run step twoTimeouts twoTurns ⟨[], [soon, later], [soon, later], []⟩ := .cons rfl (.cons rfl (.nil _))
  have sane : (⟨7, 0⟩ : Reltime).Sane := ⟨by decide, by decide, by decide⟩
  refine timeouts_prompt (t := later) (T := ⟨7, 0⟩) registrations_run further ?_ (by decide) ?_ ?_
  · exact ⟨by decide, by decide, by decide⟩
  · intro c member now read
    rcases List.mem_cons.1 member with rfl | member
    · rw [List.mem_singleton.1 read]
      exact ⟨sane, by decide⟩
    · rw [List.mem_singleton.1 member] at read
      rw [List.mem_singleton.1 read]
      exact ⟨sane, by decide⟩
  · have one : {u ∈ twoTimeouts.pending | u.key < later.key} ⊆ {soon} := by
      rintro u ⟨⟨member, -⟩, before⟩
      rcases List.mem_cons.1 member with rfl | member
      · rfl
      · exact absurd (List.mem_singleton.1 member ▸ before) (lt_irrefl _)
    have few := Set.ncard_le_ncard one (Set.finite_singleton soon)
    rw [Set.ncard_singleton] at few
    have turns : (twoTurns.countP fun c => c.input.isTurn) = 2 := rfl
    omega

end ArtikSdk.Wifi.Eloop
