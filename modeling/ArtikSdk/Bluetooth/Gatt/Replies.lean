import ArtikSdk.Bluetooth.Gatt.Answers

/-!
# GATT server: one reply for each invocation

Over any sequence of calls, method calls and answers, every invocation gets one reply when its
request is done.
-/

namespace ArtikSdk.Bluetooth.Gatt
open Lib

variable {s s' : Hci} {l : Ledger} {e : Event} {o : Output}

theorem replies_exact (tied : s.Tied l) (e : Event) :
    (∃ s' o, step e s = .ok (s', o) ∧ Replies ⟨s, e, s', o⟩) ↔ e.Crashless s ∧ e.Fits s := by
  constructor
  · rintro ⟨s', o, answered, replies⟩
    exact ⟨step_crashless tied answered, (step_tied tied answered).replies.1 replies⟩
  · rintro ⟨crashless, fits⟩
    obtain ⟨s', o, answered, does⟩ := step_does tied crashless
    exact ⟨s', o, answered, does.replies.2 fits⟩

theorem replies_along (es : List Event) :
    (∃ cs s, exec step es .init = .ok (cs, s) ∧ ∀ c ∈ cs, Replies c) ↔
      Along (fun e s => e.Crashless s ∧ e.Fits s) step es .init := by
  have start : Hci.init.Tied .init := Tied.init
  refine exec_along_iff (I := fun s => ∃ l, s.Tied l) (P := Replies) ?_ ?_ ⟨_, start⟩
  · rintro e s ⟨l, tied⟩
    exact replies_exact tied e
  · rintro e s s' o ⟨l, tied⟩ - answered
    exact ⟨_, (step_tied tied answered).tied⟩

/-- The replies that were sent to an invocation. -/
def sentTo (k : Nat) (cs : List (Call Event Hci Output)) : Nat := (cs.map fun c => repliesTo k c.output).sum

/-- Over a run in which every event replies as it should. -/
theorem run_sentTo {cs : List (Call Event Hci Output)} (run : Run step s cs s') (replies : ∀ c ∈ cs, Replies c) (k : Nat) :
    s.settled k + sentTo k cs = s'.settled k := by
  induction run with
  | nil => rfl
  | cons answered _ ih =>
    have first := (replies _ (List.mem_cons_self ..)).settled k
    have rest := ih fun c member => replies c (List.mem_cons_of_mem _ member)
    dsimp only at first
    rw [sentTo] at rest
    rw [sentTo, List.map_cons, List.sum_cons]
    dsimp only
    omega

/-- **Replies.** Over a sequence of events every one replies as it should, and at the end every
invocation has got exactly one reply or is still open, exactly when no event crashes, none of
StartNotify, StopNotify and IndicateConfirm comes for a characteristic that is there and no
ReadValue for an attribute that is not, and every answer is one that sends a reply. -/
theorem replies_iff (es : List Event) :
    (∃ cs s, exec step es .init = .ok (cs, s) ∧ (∀ c ∈ cs, Replies c) ∧
        ∀ k < s.invocations, sentTo k cs = if s.request k = none then 1 else 0) ↔
      Along (fun e s => e.Crashless s ∧ e.Fits s) step es .init := by
  rw [← replies_along]
  refine exists_congr fun cs => exists_congr fun s => and_congr_right fun ran => ⟨And.left, fun replies => ⟨replies, fun k begun => ?_⟩⟩
  have total := run_sentTo (exec_run ran).1 replies k
  have fresh : Hci.init.settled k = 0 := if_neg fun bound => absurd bound.1 (Nat.not_lt_zero _)
  rw [fresh, Hci.settled, Nat.zero_add] at total
  rw [total]
  exact if_congr (and_iff_right begun) rfl rfl

/-- StartNotify is not answered. -/
theorem startNotify_not_replied :
    ¬ ∃ cs s, exec step
        [.server (.addService (some "180f") true none), .server (.addCharacteristic 0 ⟨some "2a19", [], 0⟩ none),
          .methodCall (.characteristic 0 0) .startNotify]
        .init = .ok (cs, s) ∧ (∀ c ∈ cs, Replies c) ∧ ∀ k < s.invocations, sentTo k cs = if s.request k = none then 1 else 0 := by
  rintro ⟨cs, s, ran, -, all⟩
  cases ran
  exact absurd (all 0 (by decide)) (by decide)

end ArtikSdk.Bluetooth.Gatt
