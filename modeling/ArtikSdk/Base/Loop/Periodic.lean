import ArtikSdk.Base.Loop.Ids
import ArtikSdk.Base.Loop.Linux

/-!
# The schedule of a periodic

`os_add_periodic_callback` of the Tinyara loop starts its timer with a repeat of 1 millisecond,
whatever the period; the Linux loop gives the period to its source.

What holds of the records in the vectors needs that no id is removed twice (`Registered`); what
the schedule needs are the handles alone, and holds in every run (`Armed`).
-/

namespace ArtikSdk.Loop
open Lib

variable {s s' s₁ : State} {k : Kind} {p h n : Nat} {residue : Residue}

/-- Each handle has its record, with a number of its own. -/
structure Armed (s : State) : Prop where
  held : ∀ h k p, s.handle h = some (k, p) →
    (s.block p).allocated = true ∧ (s.block p).contents.handle = h ∧ (s.block p).contents.number < s.added k
  once : ∀ h h' k p p', s.handle h = some (k, p) → s.handle h' = some (k, p') →
    (s.block p).contents.number = (s.block p').contents.number → h = h'

theorem Armed.init : Armed State.init where
  held h k p armed := by cases armed
  once h h' k p p' armed := by cases armed

/-- The periodic `n` is still to be called. -/
def State.goesOn (s : State) (n : Nat) : Prop := ∃ h p, s.handle h = some (.periodic, p) ∧ (s.block p).contents.number = n

/-! ## What is freed -/

/-- Some handles, and their records, are gone. -/
structure Frees (s s' : State) : Prop where
  added : s'.added = s.added
  handle : ∀ h k p, s'.handle h = some (k, p) → s.handle h = some (k, p) ∧ s'.block p = s.block p

theorem Frees.refl (s : State) : Frees s s := ⟨rfl, fun _ _ _ armed => ⟨armed, rfl⟩⟩

theorem Frees.trans (first : Frees s s₁) (second : Frees s₁ s') : Frees s s' where
  added := second.added.trans first.added
  handle h k p armed := by
    obtain ⟨before, same⟩ := second.handle h k p armed
    obtain ⟨first', same'⟩ := first.handle h k p before
    exact ⟨first', same.trans same'⟩

theorem Frees.armed (frees : Frees s s') (armed : Armed s) : Armed s' where
  held h k p held := by
    obtain ⟨before, same⟩ := frees.handle h k p held
    rw [same, frees.added]
    exact armed.held h k p before
  once h h' k p p' held held' number := by
    obtain ⟨before, same⟩ := frees.handle h k p held
    obtain ⟨before', same'⟩ := frees.handle h' k p' held'
    rw [same, same'] at number
    exact armed.once h h' k p p' before before' number

theorem Frees.goesOn (frees : Frees s s') (goesOn : s'.goesOn n) : s.goesOn n := by
  obtain ⟨h, p, held, number⟩ := goesOn
  obtain ⟨before, same⟩ := frees.handle h .periodic p held
  exact ⟨h, p, before, same ▸ number⟩

/-- What `discard` frees. -/
theorem discard_frees (armed : Armed s) (done : discard p residue s = .ok s') :
    Frees s s' ∧ s'.handle (s.block p).contents.handle = none := by
  rw [discard, closeHandle] at done
  cases held : s.handle (s.block p).contents.handle with
  | none =>
    rw [held] at done
    cases done
  | some _ =>
    rw [held] at done
    change freeRecord p residue _ = _ at done
    unfold freeRecord at done
    split at done
    · cases done
      refine ⟨⟨rfl, fun h k q still => ?_⟩, Function.update_self ..⟩
      change Function.update s.handle _ none h = _ at still
      by_cases closed : h = (s.block p).contents.handle
      · rw [closed, Function.update_self] at still
        cases still
      · rw [Function.update_of_ne closed] at still
        refine ⟨still, Function.update_of_ne ?_ ..⟩
        rintro rfl
        exact closed (armed.held h k q still).2.1.symm
    · cases done

theorem cleanupLoop_frees {id : Int} {i : Nat} (armed : Armed s) (done : cleanupLoop k id residue i s = .ok s') : Frees s s' := by
  induction i generalizing s with
  | zero =>
    cases done
    exact .refl _
  | succ i ih =>
    rw [cleanupLoop] at done
    cases entry : (s.vector k)[i]? with
    | none =>
      rw [entry] at done
      cases done
    | some p =>
      rw [entry] at done
      dsimp only at done
      split at done
      · split at done
        · cases gone : discard p residue s with
          | error f =>
            rw [gone] at done
            cases done
          | ok t =>
            rw [gone] at done
            have first := (discard_frees armed gone).1
            have erased : Frees s { t with vector := Function.update t.vector k ((t.vector k).eraseIdx i) } :=
              first.trans ⟨rfl, fun _ _ _ still => ⟨still, rfl⟩⟩
            exact erased.trans (ih (erased.armed armed) done)
        · have erased : Frees s { s with vector := Function.update s.vector k ((s.vector k).eraseIdx i) } :=
            ⟨rfl, fun _ _ _ still => ⟨still, rfl⟩⟩
          exact erased.trans (ih (erased.armed armed) done)
      · exact ih armed done

theorem cleanup_frees {id : Int} (armed : Armed s) (done : cleanup k id residue s = .ok s') : Frees s s' :=
  cleanupLoop_frees armed done

/-- The handle of a record is closed when the record is completed. -/
theorem complete_frees (armed : Armed s) (done : complete k p residue s = .ok s') :
    Frees s s' ∧ s'.handle (s.block p).contents.handle = none := by
  unfold complete at done
  cases gone : discard p residue s with
  | error f =>
    rw [gone] at done
    cases done
  | ok t =>
    rw [gone] at done
    obtain ⟨first, closed⟩ := discard_frees armed gone
    have second := cleanup_frees (first.armed armed) done
    refine ⟨first.trans second, ?_⟩
    by_contra still
    obtain ⟨⟨k', q⟩, held⟩ := Option.ne_none_iff_exists'.1 still
    rw [(second.handle _ k' q held).1] at closed
    cases closed

/-! ## What the calls on the loop do -/

/-- The numbers of before are those of the same handles. -/
structure Follows (s s' : State) : Prop where
  added : ∀ k, s.added k ≤ s'.added k
  old : ∀ h k p, s'.handle h = some (k, p) → (s'.block p).contents.number < s.added k → s.handle h = some (k, p) ∧ s'.block p = s.block p

theorem Frees.follows (frees : Frees s s') : Follows s s' where
  added k := by rw [frees.added]
  old h k p held _ := frees.handle h k p held

theorem Follows.refl (s : State) : Follows s s := (Frees.refl s).follows

theorem Follows.trans (first : Follows s s₁) (second : Follows s₁ s') : Follows s s' where
  added k := (first.added k).trans (second.added k)
  old h k p held number := by
    obtain ⟨before, same⟩ := second.old h k p held (number.trans_le (first.added k))
    rw [same] at number
    obtain ⟨before', same'⟩ := first.old h k p before number
    exact ⟨before', same.trans same'⟩

theorem Follows.goesOn (follows : Follows s s') (goesOn : s'.goesOn n) (old : n < s.added .periodic) : s.goesOn n := by
  obtain ⟨h, p, held, rfl⟩ := goesOn
  obtain ⟨before, same⟩ := follows.old h .periodic p held old
  exact ⟨h, p, before, by rw [same]⟩

theorem entered_armed {contents : Record} (armed : Armed s) (fresh : Fresh s k p h contents) :
    Armed (entered k p h contents s) ∧ Follows s (entered k p h contents s) := by
  have more : ∀ k', s.added k' ≤ (entered k p h contents s).added k' := by
    intro k'
    change _ ≤ Function.update s.added k (s.added k + 1) k'
    by_cases same : k' = k
    · rw [same, Function.update_self]
      omega
    · rw [Function.update_of_ne same]
  -- A handle is the new one or an old one, whose record is not the one that was not allocated.
  have cases' : ∀ h' k' q, (entered k p h contents s).handle h' = some (k', q) →
      (h' = h ∧ k' = k ∧ q = p ∧ (entered k p h contents s).block q = ⟨true, contents⟩) ∨
      (s.handle h' = some (k', q) ∧ (entered k p h contents s).block q = s.block q) := by
    intro h' k' q held
    change Function.update s.handle h (some (k, p)) h' = _ at held
    by_cases same : h' = h
    · rw [same, Function.update_self] at held
      cases held
      exact .inl ⟨same, rfl, rfl, Function.update_self ..⟩
    · rw [Function.update_of_ne same] at held
      refine .inr ⟨held, Function.update_of_ne ?_ ..⟩
      rintro rfl
      have live := (armed.held h' k' q held).1
      rw [fresh.block] at live
      cases live
  have later : s.added k < (entered k p h contents s).added k := by
    change _ < Function.update s.added k (s.added k + 1) k
    rw [Function.update_self]
    omega
  refine ⟨⟨fun h' k' q held => ?_, fun h' h'' k' q q' held held' number => ?_⟩, more, fun h' k' q held number => ?_⟩
  · obtain ⟨rfl, rfl, rfl, new⟩ | ⟨before, same⟩ := cases' h' k' q held
    · rw [new]
      refine ⟨rfl, fresh.holds, ?_⟩
      rw [fresh.number]
      exact later
    · rw [same]
      obtain ⟨live, mine, past⟩ := armed.held h' k' q before
      exact ⟨live, mine, past.trans_le (more k')⟩
  · obtain ⟨rfl, rfl, rfl, new⟩ | ⟨before, same⟩ := cases' h' k' q held
    · obtain ⟨rfl, -, rfl, -⟩ | ⟨before', same'⟩ := cases' h'' k' q' held'
      · rfl
      · rw [new, same', fresh.number] at number
        exact absurd number (Nat.ne_of_gt (armed.held h'' k' q' before').2.2)
    · obtain ⟨rfl, rfl, rfl, new'⟩ | ⟨before', same'⟩ := cases' h'' k' q' held'
      · rw [same, new', fresh.number] at number
        exact absurd number (Nat.ne_of_lt (armed.held h' k' q before).2.2)
      · rw [same, same'] at number
        exact armed.once h' h'' k' q q' before before' number
  · obtain ⟨rfl, rfl, rfl, new⟩ | old := cases' h' k' q held
    · rw [new, fresh.number] at number
      exact absurd number (Nat.lt_irrefl _)
    · exact old

theorem api_armed {op : Op} {o : Int} (armed : Armed s) (answered : api op s = .ok (s', o)) : Armed s' ∧ Follows s s' := by
  cases op with
  | add k args =>
    obtain ⟨p, h, contents, fresh, rfl, -⟩ := add_cases answered
    exact entered_armed armed fresh
  | remove k id residue =>
    rw [api_remove] at answered
    obtain ⟨t, done, same⟩ := map_ok_iff.1 answered
    cases same
    have frees := cleanup_frees armed done
    exact ⟨frees.armed armed, frees.follows⟩

theorem calls_armed {calls : List (Call Op State Int)} (run : Run api s calls s') (armed : Armed s) : Armed s' ∧ Follows s s' := by
  induction run with
  | nil s => exact ⟨armed, .refl s⟩
  | cons answered _ ih =>
    obtain ⟨armed', first⟩ := api_armed armed answered
    obtain ⟨last, rest⟩ := ih armed'
    exact ⟨last, first.trans rest⟩

/-! ## Events -/

variable {calls : List (Call Op State Int)} {ops : List Op} {ret : Int}

theorem fire_armed (armed : Armed s) (fired : fire k h ops ret residue s = .ok (s', calls)) : Armed s' ∧ Follows s s' := by
  obtain ⟨p, s₁, -, called, ended⟩ := fire_cases fired
  obtain ⟨armed', follows⟩ := calls_armed (userCall_run called) armed
  obtain ⟨-, done⟩ | ⟨-, rfl⟩ := ended
  · have frees := (complete_frees armed' done).1
    exact ⟨frees.armed armed', follows.trans frees.follows⟩
  · exact ⟨armed', follows⟩

theorem step_armed {e : Event} (armed : Armed s) (answered : step e s = .ok (s', calls)) : Armed s' ∧ Follows s s' := by
  cases e with
  | call op =>
    obtain ⟨⟨t, o⟩, call, same⟩ := map_ok_iff.1 answered
    cases same
    exact api_armed armed call
  | fire k h ops ret residue => exact fire_armed armed answered

/-- A periodic whose function has returned something other than 1 is not called again. -/
theorem fire_ends_periodic (armed : Armed s) (held : s.handle h = some (.periodic, p))
    (fired : fire .periodic h ops ret residue s = .ok (s', calls)) (goesOn : s'.goesOn (s.block p).contents.number) : ret = 1 := by
  obtain ⟨p', s₁, held', called, ended⟩ := fire_cases fired
  cases held.symm.trans held'
  obtain ⟨armed', follows⟩ := calls_armed (userCall_run called) armed
  obtain ⟨-, done⟩ | ⟨goes, -⟩ := ended
  · obtain ⟨frees, closed⟩ := complete_frees armed' done
    obtain ⟨h', q, still, number⟩ := goesOn
    obtain ⟨during, same⟩ := frees.handle h' .periodic q still
    rw [same] at number
    obtain ⟨before, same'⟩ := follows.old h' .periodic q during (number ▸ (armed.held h .periodic p held).2.2)
    rw [same'] at number
    obtain rfl := armed.once h' h .periodic q p before held number
    cases before.symm.trans held
    rw [same', (armed.held _ .periodic _ held).2.1, still] at closed
    cases closed
  · have ones : (decide ((s.block p).contents.func = 0) || decide (ret ≠ 1)) = false := goes
    rw [Bool.or_eq_false_iff] at ones
    exact not_not.1 (of_decide_eq_false ones.2)

/-! ## The loop and its timers -/

/-- `uv_timer_start(periodic->handle, _periodic_callback, msec, 1)`: when the timer fires first, and its
repeat. -/
def arm (msec : BitVec 32) : Nat × Nat := (msec.toNat, 1)

/-- An event, and the function of a periodic that is called in it. A periodic without a function calls none. -/
inductive Occurs (s : {s : State // Armed s}) : Option (Nat × Int) → {s : State // Armed s} → Prop where
  | call {op : Op} {s' : {s : State // Armed s}} {calls : List (Call Op State Int)} (answered : step (.call op) s.1 = .ok (s'.1, calls)) :
      Occurs s none s'
  | other {k : Kind} {h : Nat} {ops : List Op} {ret : Int} {residue : Residue} {s' : {s : State // Armed s}}
      {calls : List (Call Op State Int)} (silent : ∀ p, s.1.handle h = some (.periodic, p) → (s.1.block p).contents.func = 0)
      (answered : step (.fire k h ops ret residue) s.1 = .ok (s'.1, calls)) : Occurs s none s'
  | periodic {h p : Nat} {ops : List Op} {ret : Int} {residue : Residue} {s' : {s : State // Armed s}}
      {calls : List (Call Op State Int)} (held : s.1.handle h = some (.periodic, p)) (func : (s.1.block p).contents.func ≠ 0)
      (answered : step (.fire .periodic h ops ret residue) s.1 = .ok (s'.1, calls)) : Occurs s (some ((s.1.block p).contents.number, ret)) s'

theorem Occurs.follows {s s' : {s : State // Armed s}} {called : Option (Nat × Int)} (occurs : Occurs s called s') : Follows s.1 s'.1 := by
  cases occurs with
  | call answered => exact (step_armed s.2 answered).2
  | other _ answered => exact (step_armed s.2 answered).2
  | periodic _ _ answered => exact (step_armed s.2 answered).2

def ticking : Ticking {s : State // Armed s} where
  event := Occurs
  added s := s.1.added .periodic
  live s n := s.1.goesOn n
  more occurs := occurs.follows.added .periodic
  stays occurs goesOn old := occurs.follows.goesOn goesOn old
  called {s _ _ _} occurs := by
    cases occurs with
    | periodic held _ _ => exact ⟨(s.2.held _ .periodic _ held).2.2, _, _, held, rfl⟩
  ends {s _ _ _} occurs goesOn := by
    cases occurs with
    | periodic held _ answered => exact fire_ends_periodic s.2 held answered goesOn

/-! ## The period -/

/-- In every run of a loop, the periodics with this period whose functions return these results keep the period. `arms` is how
the loop starts the timer of a periodic, and `periods` are the periods given, in the order of the adds. -/
def KeepsPeriod {S : Type} (L : Ticking S) (init : S) (arms : BitVec 32 → Nat × Nat) (msec : BitVec 32) (rets : Nat → Int) : Prop :=
  ∀ (periods : Nat → BitVec 32) (t : Ticking.Timed S), L.Reachable (fun n => arms (periods n)) init t →
    ∀ n, n < L.added t.loop → periods n = msec → (t.ticker n).Plays rets → (t.ticker n).Periodic msec.toNat t.now (L.live t.loop n)

/-- A loop that repeats the period keeps it. -/
theorem keepsPeriod_of_regular {S : Type} {L : Ticking S} {init : S} {arms : BitVec 32 → Nat × Nat} {msec : BitVec 32} {rets : Nat → Int}
    (none' : L.added init = 0) (first : (arms msec).1 = msec.toNat) (repeats : (arms msec).2 = msec.toNat ∨ rets 0 ≠ 1) :
    KeepsPeriod L init arms msec rets := by
  intro periods t reached n old period plays
  have regular := reached.kept none' n old
  dsimp only at regular
  rw [period, first] at regular
  apply regular.periodic
  refine repeats.imp_right fun other => ?_
  cases calls : (t.ticker n).calls with
  | nil => exact ⟨Nat.zero_le 1, fun _ => rfl⟩
  | cons x xs =>
    have one : (t.ticker n).calls[0]? = some x := by
      rw [calls]
      rfl
    have result : x.2 ≠ 1 := by
      rw [plays 0 x one]
      exact other
    refine ⟨?_, fun goesOn => ?_⟩
    · by_contra more
      rw [← calls] at more
      exact result (regular.goes 0 x one (by omega))
    · have ones := (regular.live goesOn).2
      rw [calls] at ones
      exact absurd (ones x (List.mem_cons_self ..)) result

/-! ## Two calls on Tinyara -/

/-- A loop with one periodic, whose record is at 101 and whose handle is at 201. -/
def onePeriodic : State := entered .periodic 101 201 ⟨1, 0, 201, 0, 0, 0, 0⟩ .init

theorem onePeriodic_added : step (.call (.add .periodic (place 1 101 201))) .init = .ok (onePeriodic, [⟨.init, .add .periodic (place 1 101 201), onePeriodic, 0⟩]) := rfl

theorem onePeriodic_armed : Armed onePeriodic := (step_armed .init onePeriodic_added).1

theorem onePeriodic_held : onePeriodic.handle 201 = some (.periodic, 101) := rfl

theorem onePeriodic_func : (onePeriodic.block 101).contents.func ≠ 0 := by decide

theorem onePeriodic_goesOn : step (.fire .periodic 201 [] 1 fun _ => cleared) onePeriodic = .ok (onePeriodic, []) := rfl

/-- Whatever its function returns, the periodic can be called. -/
theorem onePeriodic_returns (ret : Int) : ∃ s', Armed s' ∧ step (.fire .periodic 201 [] ret fun _ => cleared) onePeriodic = .ok (s', []) := by
  by_cases one : ret = 1
  · exact ⟨onePeriodic, onePeriodic_armed, one ▸ onePeriodic_goesOn⟩
  · have ended : step (.fire .periodic 201 [] ret fun _ => cleared) onePeriodic =
        (complete .periodic 101 (fun _ => cleared) onePeriodic).map (·, []) :=
      fire_ends (k := .periodic) onePeriodic_held rfl (by simp [ends, periodicEnds, one])
    exact ⟨_, (step_armed onePeriodic_armed ended).1, ended⟩

/-- A loop without registrations, at the time 0. -/
def atZero : Ticking.Timed {s : State // Armed s} := ⟨⟨.init, .init⟩, 0, fun _ => ⟨0, 0, []⟩⟩

/-- The second call of a periodic comes after the repeat of its timer. -/
theorem twoCalls (msec : BitVec 32) (ret : Int) : ∃ t, ticking.Reachable (fun _ => arm msec) ⟨.init, .init⟩ t ∧
    0 < t.loop.1.added .periodic ∧ (t.ticker 0).calls = [(msec.toNat, 1), (msec.toNat + 1, ret)] := by
  obtain ⟨s', armed, returned⟩ := onePeriodic_returns ret
  have add : ticking.event ⟨.init, .init⟩ none ⟨onePeriodic, onePeriodic_armed⟩ := Occurs.call onePeriodic_added
  have first : ticking.event ⟨onePeriodic, onePeriodic_armed⟩ (some ((onePeriodic.block 101).contents.number, 1)) ⟨onePeriodic, onePeriodic_armed⟩ :=
    Occurs.periodic onePeriodic_held onePeriodic_func onePeriodic_goesOn
  have second : ticking.event ⟨onePeriodic, onePeriodic_armed⟩ (some ((onePeriodic.block 101).contents.number, ret)) ⟨s', armed⟩ :=
    Occurs.periodic onePeriodic_held onePeriodic_func returned
  have zero : ∀ {n : Nat}, n < onePeriodic.added .periodic → n = 0 := fun {n} less => Nat.lt_one_iff.1 less
  have begun : ticking.Step (fun _ => arm msec) atZero _ := .event add fun _ _ called => by cases called
  have steps := Relation.ReflTransGen.single begun
  replace steps := steps.tail (.pass msec.toNat fun n less _ => by obtain rfl := zero less; exact le_rfl)
  replace steps := steps.tail (.event first fun n _ called => by cases called; exact le_rfl)
  replace steps := steps.tail (.pass 1 fun n less _ => by obtain rfl := zero less; exact le_rfl)
  replace steps := steps.tail (.event second fun n _ called => by cases called; exact le_rfl)
  refine ⟨_, ⟨_, _, steps⟩, (step_armed onePeriodic_armed returned).2.added .periodic, ?_⟩
  change [(0 + msec.toNat, 1), (0 + msec.toNat + 1, ret)] = _
  rw [Nat.zero_add]

end ArtikSdk.Loop
