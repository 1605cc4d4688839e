import Mathlib.Tactic

/-!
# Timers of a loop

The functions that a loop calls periodically, and its clock. A function has a number, which no
other gets; it is called when it is due, and goes on as long as it returns 1. Time does not pass
a call that is due. `Regular` is what every run keeps, for a timer that fires first after
`first`, then every `every`; `Periodic` is the schedule of a period.
-/

namespace Lib

/-- What a timer did: when it was started, when it fires next, the time and the result of each call. -/
structure Ticker where
  start : Nat
  due : Nat
  calls : List (Nat × Int)

def Ticker.begin (now first : Nat) : Ticker := ⟨now, now + first, []⟩

def Ticker.fire (every now : Nat) (ret : Int) (t : Ticker) : Ticker := ⟨t.start, t.due + every, t.calls ++ [(now, ret)]⟩

/-- The calls return what the function has to return, in its order. -/
def Ticker.Plays (rets : Nat → Int) (t : Ticker) : Prop := ∀ k x, t.calls[k]? = some x → x.2 = rets k

/-- Called every `period`, never after a result that is not 1, and never missed while it goes on. -/
structure Ticker.Periodic (period now : Nat) (live : Prop) (t : Ticker) : Prop where
  onTime : ∀ k x, t.calls[k]? = some x → x.1 = t.start + (k + 1) * period
  last : ∀ k x, t.calls[k]? = some x → x.2 ≠ 1 → k + 1 = t.calls.length
  noneMissed : live → ∀ k, t.start + (k + 1) * period < now → k < t.calls.length

structure Ticker.Regular (first every now : Nat) (live : Prop) (t : Ticker) : Prop where
  due : t.due = t.start + first + every * t.calls.length
  times : ∀ k x, t.calls[k]? = some x → x.1 = t.start + first + every * k
  goes : ∀ k x, t.calls[k]? = some x → k + 1 < t.calls.length → x.2 = 1
  live : live → now ≤ t.due ∧ ∀ x ∈ t.calls, x.2 = 1

namespace Ticker

variable {first every now : Nat} {live live' : Prop} {t : Ticker}

theorem begin_regular : (begin now first).Regular first every now live where
  due := rfl
  times k x called := by cases called
  goes k x called := by cases called
  live _ := ⟨Nat.le_add_right .., fun x member => by cases member⟩

theorem Regular.less (regular : t.Regular first every now live) (less : live' → live) : t.Regular first every now live' where
  due := regular.due
  times := regular.times
  goes := regular.goes
  live goesOn := regular.live (less goesOn)

theorem Regular.pass (regular : t.Regular first every now live) {d : Nat} (inTime : live → now + d ≤ t.due) :
    t.Regular first every (now + d) live where
  due := regular.due
  times := regular.times
  goes := regular.goes
  live goesOn := ⟨inTime goesOn, (regular.live goesOn).2⟩

/-- A timer that is due fires. -/
theorem Regular.fire (regular : t.Regular first every now live) (goesOn : live) (isDue : t.due ≤ now) {ret : Int}
    (less : live' → ret = 1) : (t.fire every now ret).Regular first every now live' := by
  obtain ⟨inTime, ones⟩ := regular.live goesOn
  have due := regular.due
  have entry : ∀ k x, (t.fire every now ret).calls[k]? = some x →
      t.calls[k]? = some x ∨ k = t.calls.length ∧ x = (now, ret) := by
    intro k x called
    change (t.calls ++ [(now, ret)])[k]? = some x at called
    by_cases old : k < t.calls.length
    · rw [List.getElem?_append_left old] at called
      exact .inl called
    · rw [List.getElem?_append_right (by omega), List.getElem?_singleton] at called
      split at called
      · cases called
        exact .inr ⟨by omega, rfl⟩
      · cases called
  refine ⟨?_, fun k x called => ?_, fun k x called early => ?_, fun goesOn' => ⟨?_, fun x member => ?_⟩⟩
  · change t.due + every = t.start + first + every * (t.calls ++ [(now, ret)]).length
    rw [due, List.length_append, List.length_singleton, Nat.mul_succ]
    omega
  · obtain old | ⟨rfl, rfl⟩ := entry k x called
    · exact regular.times k x old
    · change now = t.start + first + every * t.calls.length
      omega
  · obtain old | ⟨rfl, rfl⟩ := entry k x called
    · exact ones x (List.mem_of_getElem? old)
    · change _ < (t.calls ++ [(now, ret)]).length at early
      rw [List.length_append, List.length_singleton] at early
      exact absurd early (Nat.lt_irrefl _)
  · change now ≤ t.due + every
    omega
  · obtain old | new := List.mem_append.1 member
    · exact ones x old
    · rw [List.mem_singleton.1 new]
      exact less goesOn'

/-- The schedule of a period: the timer repeats it, or is not called twice. -/
theorem Regular.periodic {period : Nat} (regular : t.Regular period every now live)
    (repeats : every = period ∨ t.calls.length ≤ 1 ∧ (live → t.calls = [])) : t.Periodic period now live := by
  refine ⟨fun k x called => ?_, fun k x called other => ?_, fun goesOn k passed => ?_⟩
  · have inside := (List.getElem?_eq_some_iff.1 called).1
    rw [regular.times k x called, Nat.add_mul, Nat.one_mul]
    obtain rfl | ⟨once, -⟩ := repeats
    · rw [Nat.mul_comm]
      omega
    · have zero : k = 0 := by omega
      rw [zero]
      omega
  · by_contra early
    have inside := (List.getElem?_eq_some_iff.1 called).1
    exact other (regular.goes k x called (by omega))
  · have inTime := (regular.live goesOn).1
    rw [regular.due] at inTime
    obtain rfl | ⟨-, none'⟩ := repeats
    · have less : (k + 1) * every < (t.calls.length + 1) * every := by
        rw [Nat.add_mul t.calls.length, Nat.mul_comm t.calls.length]
        omega
      have := Nat.lt_of_mul_lt_mul_right less
      omega
    · rw [none' goesOn, List.length_nil, Nat.mul_zero] at inTime
      rw [Nat.add_mul, Nat.one_mul] at passed
      omega

/-- The second call comes a period after the first. -/
theorem Periodic.second {period : Nat} (periodic : t.Periodic period now live) {x y : Nat × Int} (one : t.calls[0]? = some x)
    (two : t.calls[1]? = some y) : y.1 = x.1 + period := by
  rw [periodic.onTime 1 y two, periodic.onTime 0 x one]
  omega

end Ticker

/-! ## Runs -/

/-- A loop without its clock: how many functions were added, which of them are still to be called,
and its events, with the function that is called and what it returns. -/
structure Ticking (S : Type) where
  event : S → Option (Nat × Int) → S → Prop
  added : S → Nat
  live : S → Nat → Prop
  more : ∀ {s called s'}, event s called s' → added s ≤ added s'
  stays : ∀ {s called s' n}, event s called s' → live s' n → n < added s → live s n
  called : ∀ {s n ret s'}, event s (some (n, ret)) s' → n < added s ∧ live s n
  ends : ∀ {s n ret s'}, event s (some (n, ret)) s' → live s' n → ret = 1

namespace Ticking

structure Timed (S : Type) where
  loop : S
  now : Nat
  ticker : Nat → Ticker

/-- The timers behind an event: those that were added are started, and the one that has fired goes on. `arm n` is
when the timer `n` fires first, and how long it takes from then on. -/
def tickers {S : Type} (L : Ticking S) (arm : Nat → Nat × Nat) (t : Timed S) (called : Option (Nat × Int)) (n : Nat) : Ticker :=
  if L.added t.loop ≤ n then Ticker.begin t.now (arm n).1
  else
    match called with
    | some (m, ret) => if n = m then (t.ticker n).fire (arm n).2 t.now ret else t.ticker n
    | none => t.ticker n

variable {S : Type} (L : Ticking S) (arm : Nat → Nat × Nat)

inductive Step : Timed S → Timed S → Prop where
  | pass {t : Timed S} (d : Nat) (inTime : ∀ n, n < L.added t.loop → L.live t.loop n → t.now + d ≤ (t.ticker n).due) :
      Step t { t with now := t.now + d }
  | event {t : Timed S} {called : Option (Nat × Int)} {s' : S} (event : L.event t.loop called s')
      (isDue : ∀ n ret, called = some (n, ret) → (t.ticker n).due ≤ t.now) :
      Step t ⟨s', t.now, L.tickers arm t called⟩

/-- What runs lead to from a loop without functions, at any time. -/
def Reachable (init : S) (t : Timed S) : Prop := ∃ now ticker, Relation.ReflTransGen (L.Step arm) ⟨init, now, ticker⟩ t

variable {L} {arm} {init : S} {t : Timed S}

def Kept (L : Ticking S) (arm : Nat → Nat × Nat) (t : Timed S) : Prop :=
  ∀ n, n < L.added t.loop → (t.ticker n).Regular (arm n).1 (arm n).2 t.now (L.live t.loop n)

theorem step_kept {t' : Timed S} (step : L.Step arm t t') (kept : Kept L arm t) : Kept L arm t' := by
  cases step with
  | pass d inTime => exact fun n old => (kept n old).pass (inTime n old)
  | event event isDue =>
    rename_i called s'
    intro n _
    change (L.tickers arm t called n).Regular (arm n).1 (arm n).2 t.now (L.live s' n)
    unfold tickers
    by_cases new : L.added t.loop ≤ n
    · rw [if_pos new]
      exact Ticker.begin_regular
    · have old : n < L.added t.loop := by omega
      have regular := (kept n old).less fun goesOn => L.stays event goesOn old
      rw [if_neg new]
      cases called with
      | none => exact regular
      | some call =>
        obtain ⟨m, ret⟩ := call
        by_cases same : n = m
        · subst same
          simp only [if_true]
          exact (kept n old).fire (L.called event).2 (isDue n ret rfl) (L.ends event)
        · simp only [if_neg same]
          exact regular

/-- **Runs are regular**, if no function is there at first. -/
theorem Reachable.kept (reached : L.Reachable arm init t) (none' : L.added init = 0) : Kept L arm t := by
  obtain ⟨now, ticker, steps⟩ := reached
  induction steps with
  | refl =>
    intro n old
    change n < L.added init at old
    omega
  | tail _ step kept => exact step_kept step kept

end Ticking

end Lib
