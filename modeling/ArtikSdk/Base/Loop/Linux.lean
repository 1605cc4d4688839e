import ArtikSdk.Lib.Alloc
import ArtikSdk.Lib.Run
import ArtikSdk.Lib.Ticking
import ArtikSdk.Base.Error

/-!
# Periodics of the Linux loop

`linux_loop.c` registers a periodic as a timeout source of GLib, which has the period and is
destroyed when its function returns `FALSE`.
-/

namespace ArtikSdk.Loop.Linux
open Lib

/-- A `GSource` with its `struct _periodic`. `number` is not in the source: which add made it. -/
structure Source where
  id : Nat
  func : Nat
  userData : Nat
  number : Nat
deriving DecidableEq

/-- The sources attached, and (not in the source) how many were. -/
structure State where
  sources : List Source
  added : Nat
  numbered : ∀ x ∈ sources, x.number < added

def State.init : State := ⟨[], 0, fun x member => by cases member⟩

/-- GLib ends the program where it has no memory or no id. -/
inductive Fault where
  | aborted
deriving DecidableEq

def State.attached (s : State) (id : Nat) : Bool := s.sources.any fun x => x.id = id

/-- A source is attached. -/
def State.attach (id func userData : Nat) (s : State) : State where
  sources := s.sources ++ [⟨id, func, userData, s.added⟩]
  added := s.added + 1
  numbered x member := by
    obtain old | new := List.mem_append.1 member
    · exact Nat.lt_succ_of_lt (s.numbered x old)
    · rw [List.mem_singleton.1 new]
      exact Nat.lt_succ_self _

/-- Sources are destroyed. -/
def State.keep (p : Source → Bool) (s : State) : State where
  sources := s.sources.filter p
  added := s.added
  numbered x member := s.numbered x (List.mem_of_mem_filter member)

/-- The arguments of an add, whether `g_try_new0` has memory, and the id that `g_source_attach` picks. -/
structure AddArgs where
  periodicId : Bool
  func : Nat
  userData : Nat
  memory : Bool
  source : Malloc

/-- `os_add_periodic_callback`. -/
def osAddPeriodicCallback (args : AddArgs) (s : State) : Except Fault (State × ArtikError) :=
  if args.func = 0 ∨ args.periodicId = false then .ok (s, .badArgs)
  else if args.memory = false then .ok (s, .noMem)
  else
    match args.source.pick s.attached with
    | none => .error .aborted
    | some id => .ok (s.attach id args.func args.userData, .ok)

/-- `os_remove_periodic_callback`. -/
def osRemovePeriodicCallback (periodicId : Int) (s : State) : State × ArtikError :=
  if periodicId ≤ 0 then (s, .badArgs)
  else if s.attached periodicId.toNat then (s.keep fun x => x.id ≠ periodicId.toNat, .ok)
  else (s, .badArgs)

inductive Op where
  | add (args : AddArgs)
  | remove (periodicId : Int)

def api : Op → State → Except Fault (State × ArtikError)
  | .add args, s => osAddPeriodicCallback args s
  | .remove periodicId, s => .ok (osRemovePeriodicCallback periodicId s)

/-- `_periodic_callback`: what GLib is told to do with the source. -/
def periodicCallback (ret : Int) : Bool := ret = 1

/-- A source is dispatched: its function makes calls on the loop and returns, and the source is destroyed or goes
on. -/
def dispatch (x : Source) (ops : List Op) (ret : Int) (s : State) : Except Fault State :=
  match exec api ops s with
  | .error f => .error f
  | .ok (_, s') =>
    if periodicCallback ret then .ok s' else .ok (s'.keep fun y => y.number ≠ x.number)

/-- `g_timeout_source_new(msec)`: the source fires after `msec`, and then every `msec`. -/
def arm (msec : BitVec 32) : Nat × Nat := (msec.toNat, msec.toNat)

/-! ## The sources that go on -/

def State.live (s : State) (n : Nat) : Prop := ∃ x ∈ s.sources, x.number = n

variable {s s' : State} {n : Nat}

theorem api_more {op : Op} {e : ArtikError} (answered : api op s = .ok (s', e)) :
    s.added ≤ s'.added ∧ (s'.live n → n < s.added → s.live n) := by
  cases op with
  | add args =>
    change osAddPeriodicCallback args s = _ at answered
    unfold osAddPeriodicCallback at answered
    split at answered
    · cases answered
      exact ⟨le_rfl, fun live _ => live⟩
    · split at answered
      · cases answered
        exact ⟨le_rfl, fun live _ => live⟩
      · split at answered
        · cases answered
        · cases answered
          refine ⟨Nat.le_succ _, ?_⟩
          rintro ⟨x, member, rfl⟩ old
          obtain before | new := List.mem_append.1 member
          · exact ⟨x, before, rfl⟩
          · rw [List.mem_singleton.1 new] at old
            exact absurd old (Nat.lt_irrefl _)
  | remove periodicId =>
    have removed : osRemovePeriodicCallback periodicId s = (s', e) := Except.ok.inj answered
    unfold osRemovePeriodicCallback at removed
    split at removed
    · cases removed
      exact ⟨le_rfl, fun live _ => live⟩
    · split at removed
      · cases removed
        refine ⟨le_rfl, ?_⟩
        rintro ⟨x, member, rfl⟩ _
        exact ⟨x, List.mem_of_mem_filter member, rfl⟩
      · cases removed
        exact ⟨le_rfl, fun live _ => live⟩

theorem run_more {calls : List (Call Op State ArtikError)} (run : Run api s calls s') :
    s.added ≤ s'.added ∧ (s'.live n → n < s.added → s.live n) := by
  induction run with
  | nil => exact ⟨le_rfl, fun live _ => live⟩
  | cons answered _ ih =>
    obtain ⟨first, stays⟩ := api_more (n := n) answered
    exact ⟨first.trans ih.1, fun live old => stays (ih.2 live (by omega)) old⟩

/-- What a dispatch leaves was there before, and goes on. -/
theorem dispatch_cases {x : Source} {ops : List Op} {ret : Int} (done : dispatch x ops ret s = .ok s') :
    s.added ≤ s'.added ∧ (s'.live n → n < s.added → s.live n) ∧ (s'.live x.number → ret = 1) := by
  unfold dispatch at done
  split at done
  · cases done
  · rename_i calls s₁ ran
    obtain ⟨more, stays⟩ := run_more (n := n) (exec_run ran).1
    split at done
    · rename_i goesOn
      cases done
      exact ⟨more, stays, fun _ => of_decide_eq_true goesOn⟩
    · cases done
      refine ⟨more, ?_, ?_⟩
      · rintro ⟨y, member, rfl⟩ old
        exact stays ⟨y, List.mem_of_mem_filter member, rfl⟩ old
      · rintro ⟨y, member, same⟩
        exact absurd same (of_decide_eq_true (List.mem_filter.1 member).2)

/-- A call on the loop, or the dispatch of a source that is attached. -/
inductive Occurs (s : State) : Option (Nat × Int) → State → Prop where
  | call {op : Op} {s' : State} {e : ArtikError} (answered : api op s = .ok (s', e)) : Occurs s none s'
  | fire {x : Source} {ops : List Op} {ret : Int} {s' : State} (attached : x ∈ s.sources)
      (done : dispatch x ops ret s = .ok s') : Occurs s (some (x.number, ret)) s'

def ticking : Ticking State where
  event := Occurs
  added := State.added
  live := State.live
  more event := by
    cases event with
    | call answered => exact (api_more (n := 0) answered).1
    | fire _ done => exact (dispatch_cases (n := 0) done).1
  stays event := by
    cases event with
    | call answered => exact (api_more answered).2
    | fire _ done => exact (dispatch_cases done).2.1
  called event := by
    cases event with
    | fire attached _ => exact ⟨State.numbered _ _ attached, _, attached, rfl⟩
  ends event := by
    cases event with
    | fire _ done => exact (dispatch_cases (n := 0) done).2.2

end ArtikSdk.Loop.Linux
