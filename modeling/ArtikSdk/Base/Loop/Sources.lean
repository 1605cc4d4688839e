import ArtikSdk.Lib.Alloc
import ArtikSdk.Lib.Cells
import ArtikSdk.Lib.Run
import ArtikSdk.Base.Error

/-!
# The sources of the Linux loop

`linux_loop.c` allocates a record for each callback and hands it to a source of GLib, whose destroy function
frees it. A source is dispatched while it is attached and not running; a callback may make any call on the loop,
and run the loop again. GLib keeps the record of a callback that runs until it has returned.
-/

namespace ArtikSdk.Loop.Sources
open Lib

/-- What a source waits for. -/
inductive Kind where
  | timeout (msec : BitVec 32)
  | periodic (msec : BitVec 32)
  | fd (fd : Int) (cond : BitVec 32)
  | signal (signum : Int)
  | idle
deriving DecidableEq

/-- `struct _timeout`, `_periodic`, `_watch`, `_signal` and `_idle`. -/
structure Record where
  func : Nat
  userData : Nat
  id : BitVec 32
deriving DecidableEq

/-- A `GSource`, with the address of its record. -/
structure Source where
  id : Nat
  kind : Kind
  cell : Nat
deriving DecidableEq

/-- The sources attached, those whose callbacks run, the innermost first, and the records. `lost` is not in the
source: records that no source has. -/
structure State where
  sources : List Source
  running : List Source
  records : Cells Record
  lost : List Nat

def State.init : State := ⟨[], [], .empty, []⟩

/-- A record that was freed is used, GLib ends the program, a function is null, or the place for an id. -/
inductive Fault where
  | freed
  | aborted
  | nullFunction
  | nullId
deriving DecidableEq

/-! ## Conditions -/

/-- `enum watch_io`, and the `GIOCondition` of each. -/
def conditions : List (BitVec 32 × BitVec 32) :=
  [(1 <<< 0, 1), (1 <<< 1, 4), (1 <<< 2, 2), (1 <<< 3, 8), (1 <<< 4, 16), (1 <<< 5, 32)]

/-- The bits of one kind that `flags` has of the other. -/
def translate (pairs : List (BitVec 32 × BitVec 32)) (flags : BitVec 32) : BitVec 32 :=
  pairs.foldl (fun made p => if flags &&& p.1 ≠ 0 then made ||| p.2 else made) 0

/-- The conditions that `os_add_fd_watch` asks for. -/
def toCond (io : BitVec 32) : BitVec 32 := translate conditions io

/-- The conditions that `_gio_callback` tells. -/
def toIo (cond : BitVec 32) : BitVec 32 := translate (conditions.map Prod.swap) cond

/-! ### What a callback is told -/

theorem foldl_bit (pairs : List (BitVec 32 × BitVec 32)) (flags made : BitVec 32) (i : Nat) :
    (pairs.foldl (fun made p => if flags &&& p.1 ≠ 0 then made ||| p.2 else made) made).getLsbD i = true ↔
      made.getLsbD i = true ∨ ∃ p ∈ pairs, flags &&& p.1 ≠ 0 ∧ p.2.getLsbD i = true := by
  induction pairs generalizing made with
  | nil => simp
  | cons p pairs ih =>
    rw [List.foldl_cons, ih, List.exists_mem_cons_iff, ← or_assoc]
    refine or_congr_left ?_
    split
    · rename_i set
      rw [BitVec.getLsbD_or, Bool.or_eq_true]
      exact or_congr_right (and_iff_right set).symm
    · rename_i clear
      exact (or_iff_left fun both => clear both.1).symm

/-- A bit is made of those that are translated to it. -/
theorem translate_bit (pairs : List (BitVec 32 × BitVec 32)) (flags : BitVec 32) (i : Nat) :
    (translate pairs flags).getLsbD i = true ↔ ∃ p ∈ pairs, flags &&& p.1 ≠ 0 ∧ p.2.getLsbD i = true := by
  rw [translate, foldl_bit]
  exact or_iff_right (by simp)

theorem and_twoPow_ne (flags : BitVec 32) {k : Nat} (small : k < 32) : flags &&& BitVec.twoPow 32 k ≠ 0 ↔ flags.getLsbD k = true := by
  rw [BitVec.and_twoPow]
  cases flags.getLsbD k with
  | true =>
    refine iff_of_true (fun zero => ?_) rfl
    have one := congrArg (fun x => x.getLsbD k) zero
    simp [small] at one
  | false => exact iff_of_false (fun other => other rfl) Bool.false_ne_true

/-- The places of the bits. -/
def places : List (Nat × Nat) := [(0, 0), (1, 2), (2, 1), (3, 3), (4, 4), (5, 5)]

theorem conditions_places : conditions = places.map fun p => (BitVec.twoPow 32 p.1, BitVec.twoPow 32 p.2) := by decide

/-- Between bits that are at the places `ps`, the bits are moved. -/
theorem moved_bit {ps : List (Nat × Nat)} (small : ∀ p ∈ ps, p.1 < 32 ∧ p.2 < 32) (flags : BitVec 32) (i : Nat) :
    (translate (ps.map fun p => (BitVec.twoPow 32 p.1, BitVec.twoPow 32 p.2)) flags).getLsbD i = true ↔
      ∃ p ∈ ps, flags.getLsbD p.1 = true ∧ p.2 = i := by
  rw [translate_bit]
  constructor
  · rintro ⟨q, member, set, here⟩
    obtain ⟨p, place, rfl⟩ := List.mem_map.1 member
    rw [and_twoPow_ne flags (small p place).1] at set
    rw [BitVec.getLsbD_twoPow, Bool.and_eq_true, decide_eq_true_iff, decide_eq_true_iff] at here
    exact ⟨p, place, set, here.2⟩
  · rintro ⟨p, member, set, here⟩
    refine ⟨_, List.mem_map_of_mem member, (and_twoPow_ne flags (small p member).1).2 set, ?_⟩
    rw [BitVec.getLsbD_twoPow, Bool.and_eq_true, decide_eq_true_iff, decide_eq_true_iff]
    exact ⟨(small p member).2, here⟩

theorem toCond_bit (io : BitVec 32) (i : Nat) : (toCond io).getLsbD i = true ↔ ∃ p ∈ places, io.getLsbD p.1 = true ∧ p.2 = i := by
  rw [toCond, conditions_places]
  exact moved_bit (by decide) io i

theorem toIo_bit (cond : BitVec 32) (i : Nat) : (toIo cond).getLsbD i = true ↔ ∃ p ∈ places, cond.getLsbD p.2 = true ∧ p.1 = i := by
  have swapped : conditions.map Prod.swap = (places.map Prod.swap).map fun p => (BitVec.twoPow 32 p.1, BitVec.twoPow 32 p.2) := by decide
  rw [toIo, swapped, moved_bit (by decide)]
  constructor
  · rintro ⟨q, member, holds⟩
    obtain ⟨p, place, rfl⟩ := List.mem_map.1 member
    exact ⟨p, place, holds⟩
  · rintro ⟨p, member, holds⟩
    exact ⟨p.swap, List.mem_map_of_mem member, holds⟩

/-- **A callback is told of what it asked for**, and of all of it that has happened. -/
theorem toIo_toCond (io revents : BitVec 32) : toIo (revents &&& toCond io) = io &&& toIo revents := by
  refine BitVec.eq_of_getLsbD_eq fun i _ => Bool.eq_iff_iff.2 ?_
  rw [BitVec.getLsbD_and, Bool.and_eq_true, toIo_bit, toIo_bit]
  constructor
  · rintro ⟨p, member, both, rfl⟩
    rw [BitVec.getLsbD_and, Bool.and_eq_true, toCond_bit] at both
    obtain ⟨happened, q, member', asked, same⟩ := both
    have one : q = p := (by decide : ∀ q ∈ places, ∀ p ∈ places, q.2 = p.2 → q = p) q member' p member same
    exact ⟨one ▸ asked, p, member, happened, rfl⟩
  · rintro ⟨asked, p, member, happened, rfl⟩
    refine ⟨p, member, ?_, rfl⟩
    rw [BitVec.getLsbD_and, Bool.and_eq_true, toCond_bit]
    exact ⟨happened, p, member, asked, rfl⟩
/-! ## Calls -/

/-- What a call returns, and the id that it hands out. `source` is not in the source: the source attached. -/
structure Returned where
  code : Int
  id : Option Int
  source : Option Nat
deriving DecidableEq

def sOk : Int := 0
def badArgs : Int := -1
def noMem : Int := -4
def einval : Int := -22

def refused (code : Int) : Returned := ⟨code, none, none⟩

/-- Whether `g_try_new0` has memory, and the id that `g_source_attach` picks. -/
structure Answers where
  memory : Bool
  ids : Malloc

def State.attached (s : State) (id : Nat) : Bool := s.sources.any fun x => x.id = id

/-- A source with a record of its own is attached; an id is a `guint`. -/
def State.attach (kind : Kind) (func userData : Nat) (ids : Malloc) (s : State) : Except Fault (State × Nat) :=
  match ids.pick s.attached with
  | none => .error .aborted
  | some id =>
    if id < 2 ^ 32 then
      .ok
        ({ s with
            sources := s.sources ++ [⟨id, kind, s.records.next⟩]
            records := s.records.alloc ⟨func, userData, BitVec.ofNat 32 id⟩ }, id)
    else .error .aborted

/-- An id is handed out as an `int`. -/
def handed (id : Nat) : Int := (BitVec.ofNat 32 id).toInt

/-- The part that the five functions have in common; `place` is whether there is a place for the id. -/
def State.add (kind : Kind) (func userData : Nat) (place : Bool) (answers : Answers) (s : State) : Except Fault (State × Returned) :=
  if answers.memory = false then .ok (s, refused noMem)
  else (s.attach kind func userData answers.ids).map fun r => (r.1, ⟨sOk, if place then some (handed r.2) else none, some r.2⟩)

def osAddTimeoutCallback (timeoutId : Bool) (msec : BitVec 32) (func userData : Nat) (answers : Answers) (s : State) :
    Except Fault (State × Returned) :=
  if func = 0 ∨ timeoutId = false then .ok (s, refused badArgs) else s.add (.timeout msec) func userData true answers

def osAddPeriodicCallback (periodicId : Bool) (msec : BitVec 32) (func userData : Nat) (answers : Answers) (s : State) :
    Except Fault (State × Returned) :=
  if func = 0 ∨ periodicId = false then .ok (s, refused badArgs) else s.add (.periodic msec) func userData true answers

def osAddFdWatch (fd : Int) (io : BitVec 32) (func userData : Nat) (watchId : Bool) (answers : Answers) (s : State) :
    Except Fault (State × Returned) :=
  if fd < 0 then .ok (s, refused badArgs)
  else if func = 0 then .ok (s, refused badArgs)
  else if io = 0 then .ok (s, refused badArgs)
  else s.add (.fd fd (toCond io)) func userData watchId answers

/-- A function is not asked for. GLib attaches no source for a signal that it does not support, and the id is 0. -/
def osAddSignalWatch (signum : Int) (supported : Bool) (func userData : Nat) (signalId : Bool) (answers : Answers) (s : State) :
    Except Fault (State × Returned) :=
  if answers.memory = false then .ok (s, refused noMem)
  else if supported then s.add (.signal signum) func userData signalId answers
  else
    .ok
      ({ s with
          records := s.records.alloc ⟨func, userData, 0⟩
          lost := s.records.next :: s.lost }, ⟨sOk, if signalId then some 0 else none, none⟩)

/-- The place for the id is not checked. -/
def osAddIdleCallback (idleId : Bool) (func userData : Nat) (answers : Answers) (s : State) : Except Fault (State × Returned) :=
  if func = 0 then .ok (s, refused badArgs)
  else if answers.memory = false then .ok (s, refused noMem)
  else if idleId = false then .error .nullId
  else s.add .idle func userData true answers

/-- The record of a callback that runs. -/
def State.runs (s : State) (cell : Nat) : Bool := s.running.any fun x => x.cell = cell

/-- The destroy functions of the five kinds. -/
def State.release (cell : Nat) (s : State) : Except Fault State :=
  match s.records.free cell with
  | none => .error .freed
  | some records => .ok { s with records := records }

/-- A source is destroyed, and its record as soon as its callback does not run. -/
def State.destroy (x : Source) (s : State) : Except Fault State :=
  let s := { s with sources := s.sources.filter fun y => y.id ≠ x.id }
  if s.runs x.cell then .ok s else s.release x.cell

/-- The part that the five functions have in common: `g_source_remove` finds sources of any kind. -/
def State.remove (refusal id : Int) (s : State) : Except Fault (State × Returned) :=
  if id ≤ 0 then .ok (s, refused refusal)
  else
    match s.sources.find? fun x => x.id = id.toNat with
    | none => .ok (s, refused refusal)
    | some x => (s.destroy x).map fun s => (s, ⟨sOk, none, none⟩)

def osRemoveTimeoutCallback := State.remove badArgs
def osRemovePeriodicCallback := State.remove badArgs
def osRemoveFdWatch := State.remove einval
def osRemoveSignalWatch := State.remove einval
def osRemoveIdleCallback := State.remove badArgs

inductive Op where
  | addTimeout (timeoutId : Bool) (msec : BitVec 32) (func userData : Nat) (answers : Answers)
  | addPeriodic (periodicId : Bool) (msec : BitVec 32) (func userData : Nat) (answers : Answers)
  | addFdWatch (fd : Int) (io : BitVec 32) (func userData : Nat) (watchId : Bool) (answers : Answers)
  | addSignalWatch (signum : Int) (supported : Bool) (func userData : Nat) (signalId : Bool) (answers : Answers)
  | addIdle (idleId : Bool) (func userData : Nat) (answers : Answers)
  | removeTimeout (id : Int)
  | removePeriodic (id : Int)
  | removeFdWatch (id : Int)
  | removeSignalWatch (id : Int)
  | removeIdle (id : Int)

def api : Op → State → Except Fault (State × Returned)
  | .addTimeout timeoutId msec func userData answers => osAddTimeoutCallback timeoutId msec func userData answers
  | .addPeriodic periodicId msec func userData answers => osAddPeriodicCallback periodicId msec func userData answers
  | .addFdWatch fd io func userData watchId answers => osAddFdWatch fd io func userData watchId answers
  | .addSignalWatch signum supported func userData signalId answers => osAddSignalWatch signum supported func userData signalId answers
  | .addIdle idleId func userData answers => osAddIdleCallback idleId func userData answers
  | .removeTimeout id => osRemoveTimeoutCallback id
  | .removePeriodic id => osRemovePeriodicCallback id
  | .removeFdWatch id => osRemoveFdWatch id
  | .removeSignalWatch id => osRemoveSignalWatch id
  | .removeIdle id => osRemoveIdleCallback id

/-! ## Dispatching -/

/-- Whether GLib calls for what has happened: a channel is polled for the conditions that were asked for. -/
def Kind.ready (revents : BitVec 32) : Kind → Bool
  | .fd _ cond => revents &&& cond ≠ 0
  | _ => true

/-- What a callback is called with besides its user data. -/
def Kind.args (revents : BitVec 32) : Kind → Option (Int × BitVec 32)
  | .fd n cond => some (n, toIo (revents &&& cond))
  | _ => none

/-- `_timeout_callback`, `_periodic_callback`, `_gio_callback`, `_gsignal_callback` and `_idle_callback`: what GLib is told
to do with the source. -/
def Kind.goesOn (ret : Int) : Kind → Bool
  | .timeout _ => false
  | _ => ret = 1

/-- A call from anywhere, a source comes up, or the innermost callback returns. -/
inductive Event where
  | call (op : Op)
  | dispatch (id : Nat) (revents : BitVec 32)
  | back (ret : Int)

/-- What a call returns, or the function that is called. -/
inductive Seen where
  | returned (r : Returned)
  | called (func userData : Nat) (args : Option (Int × BitVec 32))
  | nothing
deriving DecidableEq

/-- The callback reads its record. -/
def State.enter (x : Source) (revents : BitVec 32) (s : State) : Except Fault (State × Seen) :=
  match s.records.cells x.cell with
  | none => .error .freed
  | some r =>
    if r.func = 0 then .error .nullFunction
    else .ok ({ s with running := x :: s.running }, .called r.func r.userData (x.kind.args revents))

/-- The callback has returned. -/
def State.leave (x : Source) (ret : Int) (s : State) : Except Fault State :=
  if x ∈ s.sources then if x.kind.goesOn ret then .ok s else s.destroy x else s.release x.cell

def step : Event → State → Except Fault (State × Seen)
  | .call op, s => (api op s).map fun r => (r.1, .returned r.2)
  | .dispatch id revents, s =>
    match s.sources.find? fun x => x.id = id with
    | none => .ok (s, .nothing)
    | some x => if s.runs x.cell || ! x.kind.ready revents then .ok (s, .nothing) else s.enter x revents
  | .back ret, s =>
    match s.running with
    | [] => .ok (s, .nothing)
    | x :: rest => (State.leave x ret { s with running := rest }).map fun s => (s, .nothing)

/-! ## The records -/

/-- What every event keeps: no two sources have an id or a record in common, and the records are those of the
sources attached, of the callbacks that run, and the lost ones. -/
structure State.Kept (s : State) : Prop where
  ids : (s.sources.map Source.id).Nodup
  cells : (s.sources.map Source.cell).Nodup
  stack : (s.running.map Source.cell).Nodup
  same : ∀ x ∈ s.sources, ∀ y ∈ s.running, x.cell = y.cell → x = y
  apart : ∀ b ∈ s.lost, (∀ x ∈ s.sources, x.cell ≠ b) ∧ ∀ x ∈ s.running, x.cell ≠ b
  live : ∀ b, (s.records.cells b).isSome = true ↔ (∃ x ∈ s.sources, x.cell = b) ∨ (∃ x ∈ s.running, x.cell = b) ∨ b ∈ s.lost

theorem init_kept : State.init.Kept := by
  refine ⟨.nil, .nil, .nil, fun x member => ?_, fun b member => ?_, fun b => ?_⟩
  · cases member
  · cases member
  · simp [State.init, Cells.empty]

namespace State

variable {s s' : State} {x y : Source} {id : Nat}

theorem Kept.next (kept : s.Kept) {b : Nat} (held : (∃ x ∈ s.sources, x.cell = b) ∨ (∃ x ∈ s.running, x.cell = b) ∨ b ∈ s.lost) :
    b < s.records.next := by
  by_contra beyond
  have live := (kept.live b).2 held
  rw [s.records.fresh b (by omega)] at live
  cases live

theorem Kept.source_eq (kept : s.Kept) (member : x ∈ s.sources) (member' : y ∈ s.sources) (same : x.cell = y.cell) : x = y :=
  List.inj_on_of_nodup_map kept.cells member member' same

theorem Kept.id_eq (kept : s.Kept) (member : x ∈ s.sources) (member' : y ∈ s.sources) (same : x.id = y.id) : x = y :=
  List.inj_on_of_nodup_map kept.ids member member' same

theorem runs_iff {cell : Nat} : s.runs cell = true ↔ ∃ y ∈ s.running, y.cell = cell := by
  simp [runs]

/-- The outcome of an attachment. -/
theorem attach_ok {kind : Kind} {func userData : Nat} {ids : Malloc} (done : s.attach kind func userData ids = .ok (s', id)) :
    id ≠ 0 ∧ id < 2 ^ 32 ∧ s.attached id = false ∧
      s' = { s with
        sources := s.sources ++ [⟨id, kind, s.records.next⟩]
        records := s.records.alloc ⟨func, userData, BitVec.ofNat 32 id⟩ } := by
  unfold attach at done
  split at done
  · cases done
  · rename_i i picked
    split at done
    · rename_i small
      cases done
      obtain ⟨positive, free⟩ := ids.fresh _ _ picked
      exact ⟨positive, small, free, rfl⟩
    · cases done

theorem attached_false (free : s.attached id = false) : ∀ x ∈ s.sources, x.id ≠ id := by
  simpa [attached] using free

theorem Kept.attach (kept : s.Kept) (kind : Kind) (func userData : Nat) (free : s.attached id = false) :
    Kept { s with
      sources := s.sources ++ [⟨id, kind, s.records.next⟩]
      records := s.records.alloc ⟨func, userData, BitVec.ofNat 32 id⟩ } := by
  have older : ∀ x ∈ s.sources, x.cell ≠ s.records.next := fun x member =>
    Nat.ne_of_lt (kept.next (Or.inl ⟨x, member, rfl⟩))
  have older' : ∀ x ∈ s.running, x.cell ≠ s.records.next := fun x member =>
    Nat.ne_of_lt (kept.next (Or.inr (Or.inl ⟨x, member, rfl⟩)))
  refine ⟨?_, ?_, kept.stack, ?_, ?_, ?_⟩
  · dsimp only
    rw [List.map_append, List.nodup_append]
    refine ⟨kept.ids, List.nodup_singleton _, ?_⟩
    intro i member j member' same
    obtain ⟨x, old, rfl⟩ := List.mem_map.1 member
    rw [List.mem_singleton.1 member'] at same
    exact attached_false free x old same
  · dsimp only
    rw [List.map_append, List.nodup_append]
    refine ⟨kept.cells, List.nodup_singleton _, ?_⟩
    intro i member j member' same
    obtain ⟨x, old, rfl⟩ := List.mem_map.1 member
    rw [List.mem_singleton.1 member'] at same
    exact older x old same
  · intro x member y runs same
    obtain old | new := List.mem_append.1 member
    · exact kept.same x old y runs same
    · rw [List.mem_singleton.1 new] at same
      exact absurd same.symm (older' y runs)
  · intro b member
    refine ⟨fun x held => ?_, (kept.apart b member).2⟩
    obtain old | new := List.mem_append.1 held
    · exact (kept.apart b member).1 x old
    · rw [List.mem_singleton.1 new]
      exact (Nat.ne_of_lt (kept.next (Or.inr (Or.inr member)))).symm
  · intro b
    dsimp only
    by_cases new : b = s.records.next
    · rw [new, Cells.alloc_self]
      exact iff_of_true rfl (Or.inl ⟨_, List.mem_append_right _ (List.mem_singleton_self _), rfl⟩)
    · rw [Cells.alloc_other _ new, kept.live b]
      refine or_congr ⟨?_, ?_⟩ Iff.rfl
      · rintro ⟨x, member, here⟩
        exact ⟨x, List.mem_append_left _ member, here⟩
      · rintro ⟨x, member, here⟩
        obtain old | added := List.mem_append.1 member
        · exact ⟨x, old, here⟩
        · rw [List.mem_singleton.1 added] at here
          exact absurd here.symm new

/-- A record that nothing has any more is released. -/
theorem Kept.release (cell : Nat) (live : ∀ b, (s.records.cells b).isSome = true ↔
      b = cell ∨ (∃ x ∈ s.sources, x.cell = b) ∨ (∃ x ∈ s.running, x.cell = b) ∨ b ∈ s.lost)
    (outside : (∀ x ∈ s.sources, x.cell ≠ cell) ∧ (∀ x ∈ s.running, x.cell ≠ cell) ∧ cell ∉ s.lost)
    (ids : (s.sources.map Source.id).Nodup) (cells : (s.sources.map Source.cell).Nodup) (stack : (s.running.map Source.cell).Nodup)
    (same : ∀ x ∈ s.sources, ∀ y ∈ s.running, x.cell = y.cell → x = y)
    (apart : ∀ b ∈ s.lost, (∀ x ∈ s.sources, x.cell ≠ b) ∧ ∀ x ∈ s.running, x.cell ≠ b) :
    ∃ records, s.records.free cell = some records ∧ s.release cell = .ok { s with records := records } ∧
      (∀ b, b ≠ cell → records.cells b = s.records.cells b) ∧ Kept { s with records := records } := by
  have one : s.records.Owned [cell] := ⟨List.nodup_singleton _, fun b member => by
    rw [List.mem_singleton.1 member]
    exact (live cell).2 (Or.inl rfl)⟩
  obtain ⟨records, freed, -, others, none'⟩ := one.free
  refine ⟨records, freed, by rw [State.release, freed], others, ids, cells, stack, same, apart, fun b => ?_⟩
  dsimp only
  by_cases here : b = cell
  · subst here
    have gone : records.cells b = none := by
      rw [Cells.free] at freed
      split at freed
      · cases freed
        exact Function.update_self ..
      · cases freed
    rw [gone]
    refine iff_of_false Bool.false_ne_true ?_
    rintro (⟨x, member, held⟩ | ⟨x, member, held⟩ | member)
    · exact outside.1 x member held
    · exact outside.2.1 x member held
    · exact outside.2.2 member
  · rw [others b here, live b]
    exact or_iff_right here

/-- A source is destroyed; its record goes with it, or stays for the callback that runs. -/
theorem Kept.destroy (kept : s.Kept) (member : x ∈ s.sources) :
    ∃ records, s.destroy x = .ok { s with sources := s.sources.filter fun y => y.id ≠ x.id, records := records } ∧
      (∀ b, b ≠ x.cell → records.cells b = s.records.cells b) ∧
        (s.runs x.cell = true → records = s.records) ∧
          Kept { s with sources := s.sources.filter fun y => y.id ≠ x.id, records := records } := by
  have sub : (s.sources.filter fun y => y.id ≠ x.id) ⊆ s.sources := fun y left => (List.mem_filter.1 left).1
  have ids : ((s.sources.filter fun y => y.id ≠ x.id).map Source.id).Nodup := kept.ids.sublist (List.filter_sublist.map _)
  have cells : ((s.sources.filter fun y => y.id ≠ x.id).map Source.cell).Nodup := kept.cells.sublist (List.filter_sublist.map _)
  have gone : ∀ y ∈ s.sources.filter fun y => y.id ≠ x.id, y.cell ≠ x.cell := by
    intro y left same
    have same := kept.source_eq (sub left) member same
    exact of_decide_eq_true (List.mem_filter.1 left).2 (same ▸ rfl)
  have rest : ∀ b, (∃ y ∈ s.sources, y.cell = b) ↔ b = x.cell ∨ ∃ y ∈ s.sources.filter fun y => y.id ≠ x.id, y.cell = b := by
    intro b
    constructor
    · rintro ⟨y, old, rfl⟩
      by_cases same : y.id = x.id
      · exact Or.inl (congrArg Source.cell (kept.id_eq old member same))
      · exact Or.inr ⟨y, List.mem_filter.2 ⟨old, decide_eq_true same⟩, rfl⟩
    · rintro (rfl | ⟨y, left, here⟩)
      · exact ⟨x, member, rfl⟩
      · exact ⟨y, sub left, here⟩
  have apart : ∀ b ∈ s.lost, (∀ y ∈ s.sources.filter fun y => y.id ≠ x.id, y.cell ≠ b) ∧ ∀ y ∈ s.running, y.cell ≠ b :=
    fun b lost => ⟨fun y left => (kept.apart b lost).1 y (sub left), (kept.apart b lost).2⟩
  by_cases runs : s.runs x.cell = true
  · refine ⟨s.records, ?_, fun _ _ => rfl, fun _ => rfl, ids, cells, kept.stack, fun y left => kept.same y (sub left), apart, fun b => ?_⟩
    · rw [State.destroy]
      exact if_pos runs
    · obtain ⟨y, running, here⟩ := runs_iff.1 runs
      dsimp only
      rw [kept.live b, rest b]
      constructor
      · rintro ((rfl | held) | held)
        · exact Or.inr (Or.inl ⟨y, running, here⟩)
        · exact Or.inl held
        · exact Or.inr held
      · exact fun held => held.imp_left Or.inr
  · have quiet : ∀ y ∈ s.running, y.cell ≠ x.cell := fun y running here => runs (runs_iff.2 ⟨y, running, here⟩)
    obtain ⟨records, freed, released, others, after⟩ :=
      Kept.release (s := { s with sources := s.sources.filter fun y => y.id ≠ x.id }) x.cell
        (fun b => by dsimp only; rw [kept.live b, rest b, or_assoc])
        ⟨gone, quiet, fun lost => (kept.apart _ lost).1 x member rfl⟩ ids cells kept.stack
        (fun y left => kept.same y (sub left)) apart
    refine ⟨records, ?_, others, fun running => absurd running runs, after⟩
    rw [State.destroy]
    exact (if_neg runs).trans released

theorem Kept.find (kept : s.Kept) (member : x ∈ s.sources) : (s.sources.find? fun y => y.id = x.id) = some x := by
  cases found : s.sources.find? fun y => y.id = x.id with
  | none =>
    have other := List.find?_eq_none.1 found x member
    exact absurd (decide_eq_true (Eq.refl x.id)) other
  | some y =>
    have same : y.id = x.id := by simpa using List.find?_some found
    rw [kept.id_eq (List.mem_of_find?_eq_some found) member same]

end State

/-! ## The book -/

/-- What was asked for. -/
structure Entry where
  kind : Kind
  func : Nat
  userData : Nat
deriving DecidableEq

/-- What is attached under each id, and of the callbacks that run, the innermost first, the id under which they are
still attached. -/
@[ext] structure Book where
  entries : Nat → Option Entry
  stack : List (Option Nat)

def Book.empty : Book := ⟨fun _ => none, []⟩

def Book.set (id : Nat) (entry : Entry) (b : Book) : Book := { b with entries := Function.update b.entries id (some entry) }

def Book.drop (id : Nat) (b : Book) : Book where
  entries := Function.update b.entries id none
  stack := b.stack.map fun m => if m = some id then none else m

/-- What a call asks for. -/
def Op.entry : Op → Option Entry
  | .addTimeout _ msec func userData _ => some ⟨.timeout msec, func, userData⟩
  | .addPeriodic _ msec func userData _ => some ⟨.periodic msec, func, userData⟩
  | .addFdWatch fd io func userData _ _ => some ⟨.fd fd (toCond io), func, userData⟩
  | .addSignalWatch signum _ func userData _ _ => some ⟨.signal signum, func, userData⟩
  | .addIdle _ func userData _ => some ⟨.idle, func, userData⟩
  | .removeTimeout _ | .removePeriodic _ | .removeFdWatch _ | .removeSignalWatch _ | .removeIdle _ => none

/-- What a call removes. -/
def Op.removes : Op → Option Int
  | .removeTimeout id | .removePeriodic id | .removeFdWatch id | .removeSignalWatch id | .removeIdle id => some id
  | _ => none

/-- **What the loop is for**: an entry is made under an id that is free, and removed whichever function is asked; while
it is there and its callback does not run, the callback is called with what was asked for; a timeout is gone when its
callback has returned, another one unless it returned 1. -/
inductive Book.Next (b : Book) : Event → Seen → Book → Prop where
  | added {op : Op} {entry : Entry} {r : Returned} {id : Nat} (adds : op.entry = some entry) (code : r.code = sOk)
      (source : r.source = some id) (positive : 0 < id) (free : b.entries id = none)
      (told : ∀ i, r.id = some i → i = handed id) : Next b (.call op) (.returned r) (b.set id entry)
  | refused {op : Op} {entry : Entry} {r : Returned} (adds : op.entry = some entry) (code : r.code = badArgs ∨ r.code = noMem)
      (source : r.source = none) : Next b (.call op) (.returned r) b
  | lost {signum : Int} {func userData : Nat} {signalId : Bool} {answers : Answers} {r : Returned} (code : r.code = sOk)
      (source : r.source = none) : Next b (.call (.addSignalWatch signum false func userData signalId answers)) (.returned r) b
  | removed {op : Op} {id : Int} {entry : Entry} (removes : op.removes = some id) (positive : 0 < id)
      (there : b.entries id.toNat = some entry) : Next b (.call op) (.returned ⟨sOk, none, none⟩) (b.drop id.toNat)
  | unknown {op : Op} {id : Int} {r : Returned} (removes : op.removes = some id) (absent : id ≤ 0 ∨ b.entries id.toNat = none)
      (code : r.code = badArgs ∨ r.code = einval) : Next b (.call op) (.returned r) b
  | called {id : Nat} {revents : BitVec 32} {entry : Entry} (there : b.entries id = some entry) (quiet : some id ∉ b.stack)
      (ready : entry.kind.ready revents = true) :
      Next b (.dispatch id revents) (.called entry.func entry.userData (entry.kind.args revents)) { b with stack := some id :: b.stack }
  | waits {id : Nat} {revents : BitVec 32}
      (not : ∀ entry, b.entries id = some entry → some id ∈ b.stack ∨ entry.kind.ready revents = false) :
      Next b (.dispatch id revents) .nothing b
  | goesOn {id : Nat} {rest : List (Option Nat)} {entry : Entry} {ret : Int} (top : b.stack = some id :: rest)
      (there : b.entries id = some entry) (more : entry.kind.goesOn ret = true) :
      Next b (.back ret) .nothing { b with stack := rest }
  | ends {id : Nat} {rest : List (Option Nat)} {entry : Entry} {ret : Int} (top : b.stack = some id :: rest)
      (there : b.entries id = some entry) (last : entry.kind.goesOn ret = false) :
      Next b (.back ret) .nothing (Book.drop id { b with stack := rest })
  | gone {rest : List (Option Nat)} {ret : Int} (top : b.stack = none :: rest) :
      Next b (.back ret) .nothing { b with stack := rest }
  | idle {ret : Int} (top : b.stack = []) : Next b (.back ret) .nothing b

namespace State

variable {s s' : State} {x y : Source} {id : Nat} {wanted : Entry}

def entry (s : State) (id : Nat) : Option Entry :=
  (s.sources.find? fun x => x.id = id).bind fun x => (s.records.cells x.cell).map fun r => ⟨x.kind, r.func, r.userData⟩

/-- The id of a source, if it is attached. -/
def mark (s : State) (x : Source) : Option Nat := if x ∈ s.sources then some x.id else none

/-- The book that a state stands for. -/
def book (s : State) : Book := ⟨s.entry, s.running.map s.mark⟩

theorem Kept.record (kept : s.Kept) (member : x ∈ s.sources) : ∃ r, s.records.cells x.cell = some r :=
  Option.isSome_iff_exists.1 ((kept.live x.cell).2 (Or.inl ⟨x, member, rfl⟩))

theorem Kept.entry_eq (kept : s.Kept) (member : x ∈ s.sources) {r : Record} (record : s.records.cells x.cell = some r) :
    s.entry x.id = some ⟨x.kind, r.func, r.userData⟩ := by
  rw [State.entry, kept.find member, Option.bind_some, record, Option.map_some]

theorem entry_none (absent : ∀ x ∈ s.sources, x.id ≠ id) : s.entry id = none := by
  have none' : (s.sources.find? fun x => x.id = id) = none := List.find?_eq_none.2 fun x member => by simpa using absent x member
  rw [State.entry, none', Option.bind_none]

theorem Kept.entry_some (kept : s.Kept) (there : s.entry id = some wanted) :
    ∃ x ∈ s.sources, x.id = id ∧ ∃ r, s.records.cells x.cell = some r ∧ wanted = ⟨x.kind, r.func, r.userData⟩ := by
  by_cases absent : ∀ x ∈ s.sources, x.id ≠ id
  · rw [entry_none absent] at there
    cases there
  · push Not at absent
    obtain ⟨x, member, rfl⟩ := absent
    obtain ⟨r, record⟩ := kept.record member
    rw [kept.entry_eq member record] at there
    exact ⟨x, member, rfl, r, record, (Option.some.inj there).symm⟩

/-- Where the sources and their records are the same, so are the entries. -/
theorem entry_congr (sources : s'.sources = s.sources) (records : ∀ x ∈ s.sources, s'.records.cells x.cell = s.records.cells x.cell) :
    s'.entry = s.entry := by
  funext id
  rw [State.entry, State.entry, sources]
  cases found : s.sources.find? fun x => x.id = id with
  | none => rfl
  | some x => rw [Option.bind_some, Option.bind_some, records x (List.mem_of_find?_eq_some found)]

theorem mark_some (marked : s.mark x = some id) : x ∈ s.sources ∧ x.id = id := by
  rw [mark] at marked
  split at marked
  · rename_i member
    exact ⟨member, Option.some.inj marked⟩
  · cases marked

theorem mark_mem (member : x ∈ s.sources) : s.mark x = some x.id := if_pos member

theorem mark_not (absent : x ∉ s.sources) : s.mark x = none := if_neg absent

/-- A callback runs where its source is marked. -/
theorem Kept.runs_mark (kept : s.Kept) (member : x ∈ s.sources) : s.runs x.cell = true ↔ some x.id ∈ s.book.stack := by
  rw [runs_iff, book, List.mem_map]
  constructor
  · rintro ⟨y, running, here⟩
    obtain rfl := kept.same x member y running here.symm
    exact ⟨x, running, mark_mem member⟩
  · rintro ⟨y, running, marked⟩
    obtain ⟨there, same⟩ := mark_some marked
    exact ⟨y, running, congrArg Source.cell (kept.id_eq there member same)⟩

theorem Kept.book_attach (kept : s.Kept) {kind : Kind} {func userData : Nat} (free : s.attached id = false) :
    State.book { s with
      sources := s.sources ++ [⟨id, kind, s.records.next⟩]
      records := s.records.alloc ⟨func, userData, BitVec.ofNat 32 id⟩ } = s.book.set id ⟨kind, func, userData⟩ := by
  have after := kept.attach kind func userData free
  refine Book.ext (funext fun i => ?_) (List.map_congr_left fun x running => ?_)
  · rw [Book.set]
    dsimp only [book]
    by_cases here : i = id
    · subst here
      rw [Function.update_self]
      exact after.entry_eq (List.mem_append_right _ (List.mem_singleton_self _)) (Cells.alloc_self _ _)
    · rw [Function.update_of_ne here]
      cases there : s.entry i with
      | none =>
        refine entry_none fun x member => ?_
        obtain old | new := List.mem_append.1 member
        · rintro rfl
          obtain ⟨r, record⟩ := kept.record old
          rw [kept.entry_eq old record] at there
          cases there
        · rw [List.mem_singleton.1 new]
          exact Ne.symm here
      | some e =>
        obtain ⟨x, member, rfl, r, record, rfl⟩ := kept.entry_some there
        have old := kept.next (Or.inl ⟨x, member, rfl⟩)
        exact after.entry_eq (List.mem_append_left _ member) ((Cells.alloc_other _ (Nat.ne_of_lt old)).trans record)
  · have old := kept.next (Or.inr (Or.inl ⟨x, running, rfl⟩))
    unfold mark
    refine if_congr ?_ rfl rfl
    rw [List.mem_append, List.mem_singleton]
    refine or_iff_left ?_
    rintro rfl
    exact Nat.lt_irrefl _ old

theorem Kept.book_destroy (kept : s.Kept) (member : x ∈ s.sources) {records : Cells Record}
    (others : ∀ b, b ≠ x.cell → records.cells b = s.records.cells b)
    (after : Kept { s with sources := s.sources.filter fun y => y.id ≠ x.id, records := records }) :
    State.book { s with sources := s.sources.filter fun y => y.id ≠ x.id, records := records } = s.book.drop x.id := by
  have left : ∀ y, y ∈ (s.sources.filter fun y => y.id ≠ x.id) ↔ y ∈ s.sources ∧ y.id ≠ x.id := by
    intro y
    rw [List.mem_filter, decide_eq_true_iff]
  refine Book.ext (funext fun i => ?_) ?_
  · dsimp only [Book.drop, book]
    by_cases here : i = x.id
    · subst here
      rw [Function.update_self]
      exact entry_none fun y stays => ((left y).1 stays).2
    · rw [Function.update_of_ne here]
      cases there : s.entry i with
      | none =>
        refine entry_none fun y stays => ?_
        rintro rfl
        obtain ⟨r, record⟩ := kept.record ((left y).1 stays).1
        rw [kept.entry_eq ((left y).1 stays).1 record] at there
        cases there
      | some e =>
        obtain ⟨y, old, rfl, r, record, rfl⟩ := kept.entry_some there
        have other : y.cell ≠ x.cell := fun same => here (congrArg Source.id (kept.source_eq old member same))
        exact after.entry_eq ((left y).2 ⟨old, here⟩) ((others _ other).trans record)
  · dsimp only [Book.drop, book]
    rw [List.map_map]
    refine List.map_congr_left fun y _ => ?_
    dsimp only [Function.comp]
    by_cases old : y ∈ s.sources
    · rw [mark_mem old]
      by_cases same : y.id = x.id
      · rw [mark_not fun stays => ((left y).1 stays).2 same, if_pos (congrArg some same)]
      · rw [mark_mem ((left y).2 ⟨old, same⟩), if_neg fun both => same (Option.some.inj both)]
    · rw [mark_not fun stays => old ((left y).1 stays).1, mark_not old]
      rfl

end State

/-! ## One event -/

/-- A signal that GLib does not support is watched. -/
def Event.unsupported : Event → Bool
  | .call (.addSignalWatch _ false _ _ _ _) => true
  | _ => false

def Seen.succeeded : Seen → Bool
  | .returned r => r.code = sOk
  | _ => false

/-- Whether an event loses a record. -/
def loses (e : Event) (o : Seen) : Bool := e.unsupported && o.succeeded

/-- An event that uses no record that was freed, keeps things in order and does what the book says. -/
structure Fine (e : Event) (s : State) (r : Except Fault (State × Seen)) : Prop where
  safe : r ≠ .error .freed
  kept : ∀ s' o, r = .ok (s', o) → s'.Kept
  next : ∀ s' o, r = .ok (s', o) → Book.Next s.book e o s'.book
  lost : ∀ s' o, r = .ok (s', o) → s'.lost.length = s.lost.length + if loses e o then 1 else 0

section

variable {s s' : State} {x : Source} {e : Event} {o : Seen} {op : Op} {func userData : Nat}

/-- An event that is answered. -/
theorem fine_ok (kept : s'.Kept) (next : Book.Next s.book e o s'.book)
    (lost : s'.lost.length = s.lost.length + if loses e o then 1 else 0) : Fine e s (.ok (s', o)) := by
  refine ⟨fun answered => (by cases answered), ?_, ?_, ?_⟩ <;>
    · intro t o answered
      cases answered
      assumption

theorem fine_error {f : Fault} (other : f ≠ .freed) : Fine e s (.error f) := by
  refine ⟨fun answered => other (Except.error.inj answered), ?_, ?_, ?_⟩ <;>
    · intro t o answered
      cases answered

theorem removes_loses {id : Int} (removes : op.removes = some id) (o : Seen) : loses (.call op) o = false := by
  cases op with
  | addTimeout => cases removes
  | addPeriodic => cases removes
  | addFdWatch => cases removes
  | addSignalWatch => cases removes
  | addIdle => cases removes
  | removeTimeout => rfl
  | removePeriodic => rfl
  | removeFdWatch => rfl
  | removeSignalWatch => rfl
  | removeIdle => rfl

theorem fine_refused (kept : s.Kept) {code : Int} {wanted : Entry} (adds : op.entry = some wanted) (refusal : code = badArgs ∨ code = noMem) :
    Fine (.call op) s (.ok (s, .returned (refused code))) := by
  refine fine_ok kept (.refused adds refusal rfl) ?_
  have none' : loses (.call op) (.returned (refused code)) = false := by
    rcases refusal with rfl | rfl <;> exact Bool.and_false _
  rw [none']
  rfl

theorem fine_add (kept : s.Kept) {kind : Kind} {place : Bool} {answers : Answers} (adds : op.entry = some ⟨kind, func, userData⟩)
    (supported : (Event.call op).unsupported = false) :
    Fine (.call op) s ((s.add kind func userData place answers).map fun r => (r.1, .returned r.2)) := by
  unfold State.add
  split
  · exact fine_refused kept adds (Or.inr rfl)
  · cases done : s.attach kind func userData answers.ids with
    | error f =>
      refine fine_error ?_
      rintro rfl
      unfold State.attach at done
      split at done
      · cases done
      · split at done <;> cases done
    | ok r =>
      obtain ⟨s', id⟩ := r
      obtain ⟨positive, -, free, rfl⟩ := State.attach_ok done
      refine fine_ok (kept.attach kind func userData free) ?_ ?_
      · rw [kept.book_attach free]
        refine .added adds rfl rfl (Nat.pos_of_ne_zero positive) (State.entry_none (State.attached_false free)) ?_
        intro i told
        dsimp only at told
        split at told
        · exact (Option.some.inj told).symm
        · cases told
      · rw [loses, supported]
        rfl

theorem fine_remove (kept : s.Kept) {id refusal : Int} (removes : op.removes = some id) (code : refusal = badArgs ∨ refusal = einval) :
    Fine (.call op) s ((s.remove refusal id).map fun r => (r.1, .returned r.2)) := by
  unfold State.remove
  split
  · rename_i low
    exact fine_ok kept (.unknown removes (Or.inl low) code) (by rw [removes_loses removes]; rfl)
  · rename_i positive
    split
    · rename_i none'
      have absent : s.book.entries id.toNat = none :=
        State.entry_none fun x member => by simpa using List.find?_eq_none.1 none' x member
      exact fine_ok kept (.unknown removes (Or.inr absent) code) (by rw [removes_loses removes]; rfl)
    · rename_i x found
      have member := List.mem_of_find?_eq_some found
      have here : x.id = id.toNat := by simpa using List.find?_some found
      obtain ⟨records, destroyed, others, -, after⟩ := kept.destroy member
      obtain ⟨r, record⟩ := kept.record member
      rw [destroyed]
      refine fine_ok after ?_ (by rw [removes_loses removes]; rfl)
      have there : s.book.entries id.toNat = some ⟨x.kind, r.func, r.userData⟩ := here ▸ kept.entry_eq member record
      rw [kept.book_destroy member others after, here]
      exact .removed removes (by omega) there

theorem fine_call (kept : s.Kept) (op : Op) : Fine (.call op) s (step (.call op) s) := by
  cases op with
  | addTimeout timeoutId msec func userData answers =>
    dsimp only [step, api, osAddTimeoutCallback]
    split
    · exact fine_refused kept rfl (Or.inl rfl)
    · exact fine_add kept rfl rfl
  | addPeriodic periodicId msec func userData answers =>
    dsimp only [step, api, osAddPeriodicCallback]
    split
    · exact fine_refused kept rfl (Or.inl rfl)
    · exact fine_add kept rfl rfl
  | addFdWatch fd io func userData watchId answers =>
    dsimp only [step, api, osAddFdWatch]
    split
    · exact fine_refused kept rfl (Or.inl rfl)
    split
    · exact fine_refused kept rfl (Or.inl rfl)
    split
    · exact fine_refused kept rfl (Or.inl rfl)
    · exact fine_add kept rfl rfl
  | addSignalWatch signum supported func userData signalId answers =>
    dsimp only [step, api, osAddSignalWatch]
    split
    · exact fine_refused kept rfl (Or.inr rfl)
    cases supported with
    | true => exact fine_add kept rfl rfl
    | false =>
      -- the record is out of reach
      have new : ∀ b, (∃ x ∈ s.sources, x.cell = b) ∨ (∃ x ∈ s.running, x.cell = b) ∨ b ∈ s.lost → b ≠ s.records.next :=
        fun b held => Nat.ne_of_lt (kept.next held)
      have after : State.Kept { s with records := s.records.alloc ⟨func, userData, 0⟩, lost := s.records.next :: s.lost } := by
        refine ⟨kept.ids, kept.cells, kept.stack, kept.same, fun b member => ?_, fun b => ?_⟩
        · rcases List.mem_cons.1 member with rfl | old
          · exact ⟨fun x there => new _ (Or.inl ⟨x, there, rfl⟩), fun x there => new _ (Or.inr (Or.inl ⟨x, there, rfl⟩))⟩
          · exact kept.apart b old
        · dsimp only
          by_cases here : b = s.records.next
          · rw [here, Cells.alloc_self]
            exact iff_of_true rfl (Or.inr (Or.inr (List.mem_cons_self ..)))
          · rw [Cells.alloc_other _ here, kept.live b, List.mem_cons, or_iff_right here]
      have same : State.book { s with records := s.records.alloc ⟨func, userData, 0⟩, lost := s.records.next :: s.lost } = s.book :=
        Book.ext (State.entry_congr rfl fun x member => Cells.alloc_other _ (new _ (Or.inl ⟨x, member, rfl⟩))) rfl
      refine fine_ok after ?_ rfl
      rw [same]
      exact .lost rfl rfl
  | addIdle idleId func userData answers =>
    dsimp only [step, api, osAddIdleCallback]
    split
    · exact fine_refused kept rfl (Or.inl rfl)
    split
    · exact fine_refused kept rfl (Or.inr rfl)
    split
    · exact fine_error (by decide)
    · exact fine_add kept rfl rfl
  | removeTimeout id => exact fine_remove kept rfl (Or.inl rfl)
  | removePeriodic id => exact fine_remove kept rfl (Or.inl rfl)
  | removeFdWatch id => exact fine_remove kept rfl (Or.inr rfl)
  | removeSignalWatch id => exact fine_remove kept rfl (Or.inr rfl)
  | removeIdle id => exact fine_remove kept rfl (Or.inl rfl)

theorem fine_dispatch (kept : s.Kept) (id : Nat) (revents : BitVec 32) : Fine (.dispatch id revents) s (step (.dispatch id revents) s) := by
  dsimp only [step]
  split
  · rename_i none'
    refine fine_ok kept (.waits fun entry there => ?_) rfl
    have absent : s.book.entries id = none :=
      State.entry_none fun x member => by simpa using List.find?_eq_none.1 none' x member
    rw [absent] at there
    cases there
  · rename_i x found
    have member := List.mem_of_find?_eq_some found
    obtain rfl : x.id = id := by simpa using List.find?_some found
    obtain ⟨r, record⟩ := kept.record member
    have there : s.book.entries x.id = some ⟨x.kind, r.func, r.userData⟩ := kept.entry_eq member record
    split
    · rename_i busy
      refine fine_ok kept (.waits fun entry there' => ?_) rfl
      obtain rfl : _ = entry := Option.some.inj (there.symm.trans there')
      rw [Bool.or_eq_true, Bool.not_eq_true', kept.runs_mark member] at busy
      exact busy
    · rename_i free
      rw [Bool.or_eq_true, Bool.not_eq_true', not_or, Bool.not_eq_false] at free
      obtain ⟨quiet, ready⟩ := free
      unfold State.enter
      rw [record]
      dsimp only
      split
      · exact fine_error (by decide)
      · have fresh : ∀ y ∈ s.running, y.cell ≠ x.cell := fun y running here => quiet (State.runs_iff.2 ⟨y, running, here⟩)
        have after : State.Kept { s with running := x :: s.running } := by
          refine ⟨kept.ids, kept.cells, ?_, fun y there z running same => ?_, fun b lost => ?_, fun b => ?_⟩
          · dsimp only
            rw [List.map_cons, List.nodup_cons, List.mem_map]
            exact ⟨fun ⟨y, running, here⟩ => fresh y running here, kept.stack⟩
          · rcases List.mem_cons.1 running with rfl | old
            · exact kept.source_eq there member same
            · exact kept.same y there z old same
          · refine ⟨(kept.apart b lost).1, fun y running => ?_⟩
            rcases List.mem_cons.1 running with rfl | old
            · exact (kept.apart b lost).1 _ member
            · exact (kept.apart b lost).2 y old
          · dsimp only
            rw [kept.live b]
            constructor
            · rintro (held | ⟨y, running, here⟩ | lost)
              · exact Or.inl held
              · exact Or.inr (Or.inl ⟨y, List.mem_cons_of_mem _ running, here⟩)
              · exact Or.inr (Or.inr lost)
            · rintro (held | ⟨y, running, here⟩ | lost)
              · exact Or.inl held
              · rcases List.mem_cons.1 running with rfl | old
                · exact Or.inl ⟨_, member, here⟩
                · exact Or.inr (Or.inl ⟨y, old, here⟩)
              · exact Or.inr (Or.inr lost)
        refine fine_ok after ?_ rfl
        have stack : State.book { s with running := x :: s.running } = { s.book with stack := some x.id :: s.book.stack } := by
          refine Book.ext rfl ?_
          change s.mark x :: s.running.map s.mark = some x.id :: s.running.map s.mark
          rw [State.mark_mem member]
        rw [stack]
        exact .called there (fun marked => quiet ((kept.runs_mark member).2 marked)) ready

/-- The innermost callback has returned, and its source is as it was. -/
theorem State.Kept.pop (kept : s.Kept) {rest : List Source} (running : s.running = x :: rest) :
    ((s.sources.map Source.id).Nodup ∧ (s.sources.map Source.cell).Nodup ∧ (rest.map Source.cell).Nodup ∧
      (∀ y ∈ s.sources, ∀ z ∈ rest, y.cell = z.cell → y = z) ∧
        ∀ b ∈ s.lost, (∀ y ∈ s.sources, y.cell ≠ b) ∧ ∀ y ∈ rest, y.cell ≠ b) ∧
      ((∀ y ∈ rest, y.cell ≠ x.cell) ∧ x.cell ∉ s.lost) ∧
        ∀ b, (s.records.cells b).isSome = true ↔
          b = x.cell ∨ (∃ y ∈ s.sources, y.cell = b) ∨ (∃ y ∈ rest, y.cell = b) ∨ b ∈ s.lost := by
  have stack := kept.stack
  rw [running, List.map_cons, List.nodup_cons, List.mem_map] at stack
  have inner : ∀ y ∈ rest, y ∈ s.running := fun y member => running ▸ List.mem_cons_of_mem _ member
  have top : x ∈ s.running := running ▸ List.mem_cons_self ..
  refine ⟨⟨kept.ids, kept.cells, stack.2, fun y there z member => kept.same y there z (inner z member),
    fun b lost => ⟨(kept.apart b lost).1, fun y member => (kept.apart b lost).2 y (inner y member)⟩⟩,
    ⟨fun y member here => stack.1 ⟨y, member, here⟩, fun lost => (kept.apart _ lost).2 x top rfl⟩, fun b => ?_⟩
  rw [kept.live b, running]
  constructor
  · rintro (held | ⟨y, member, here⟩ | lost)
    · exact Or.inr (Or.inl held)
    · rcases List.mem_cons.1 member with rfl | old
      · exact Or.inl here.symm
      · exact Or.inr (Or.inr (Or.inl ⟨y, old, here⟩))
    · exact Or.inr (Or.inr (Or.inr lost))
  · rintro (rfl | held | ⟨y, member, here⟩ | lost)
    · exact Or.inr (Or.inl ⟨x, List.mem_cons_self .., rfl⟩)
    · exact Or.inl held
    · exact Or.inr (Or.inl ⟨y, List.mem_cons_of_mem _ member, here⟩)
    · exact Or.inr (Or.inr lost)

theorem fine_back (kept : s.Kept) (ret : Int) : Fine (.back ret) s (step (.back ret) s) := by
  dsimp only [step]
  split
  · rename_i none'
    exact fine_ok kept (.idle (by rw [State.book, none']; rfl)) rfl
  · rename_i x rest running
    obtain ⟨⟨ids, cells, stack, same, apart⟩, ⟨quiet, unlost⟩, live⟩ := kept.pop running
    have marks : s.book.stack = s.mark x :: rest.map s.mark := by rw [State.book, running, List.map_cons]
    unfold State.leave
    dsimp only
    split
    · rename_i member
      obtain ⟨r, record⟩ := kept.record member
      have there : s.book.entries x.id = some ⟨x.kind, r.func, r.userData⟩ := kept.entry_eq member record
      have top : s.book.stack = some x.id :: rest.map s.mark := by rw [marks, State.mark_mem member]
      have popped : State.Kept { s with running := rest } := by
        refine ⟨ids, cells, stack, same, apart, fun b => ?_⟩
        dsimp only
        rw [live b]
        exact ⟨fun either => either.elim (fun here => Or.inl ⟨x, member, here.symm⟩) id, Or.inr⟩
      split
      · rename_i more
        exact fine_ok popped (.goesOn top there more) rfl
      · rename_i last
        obtain ⟨records, destroyed, others, -, after⟩ := popped.destroy member
        rw [destroyed]
        refine fine_ok after ?_ rfl
        rw [popped.book_destroy member others after]
        exact .ends top there (by simpa using last)
    · rename_i absent
      have outside : ∀ y ∈ s.sources, y.cell ≠ x.cell := by
        intro y member here
        obtain rfl := kept.same y member x (running ▸ List.mem_cons_self ..) here
        exact absent member
      obtain ⟨records, -, released, others, after⟩ :=
        State.Kept.release (s := { s with running := rest }) x.cell live ⟨outside, quiet, unlost⟩ ids cells stack same apart
      rw [released]
      refine fine_ok after ?_ rfl
      have popped : State.book { s with running := rest, records := records } = { s.book with stack := rest.map s.mark } :=
        Book.ext (State.entry_congr rfl fun y member => others _ (outside y member)) rfl
      rw [popped]
      exact .gone (by rw [marks, State.mark_not absent])

/-- **One event.** -/
theorem State.Kept.fine (kept : s.Kept) (e : Event) : Fine e s (step e s) := by
  cases e with
  | call op => exact fine_call kept op
  | dispatch id revents => exact fine_dispatch kept id revents
  | back ret => exact fine_back kept ret

end

/-! ## Every run -/

/-- A run of the book. -/
inductive Book.Run : Book → List (Call Event State Seen) → Book → Prop where
  | nil (b : Book) : Run b [] b
  | cons {b b' b'' : Book} {c : Call Event State Seen} {cs : List (Call Event State Seen)} (next : Book.Next b c.input c.output b')
      (rest : Run b' cs b'') : Run b (c :: cs) b''

variable {s s' : State} {cs : List (Call Event State Seen)}

theorem State.Kept.run (kept : s.Kept) (run : Lib.Run step s cs s') :
    s'.Kept ∧ Book.Run s.book cs s'.book ∧ s'.lost.length = s.lost.length + cs.countP fun c => loses c.input c.output := by
  induction run with
  | nil s => exact ⟨kept, .nil _, rfl⟩
  | @cons s s₁ s' e o cs answered _ ih =>
    have fine := kept.fine e
    obtain ⟨after, books, lost⟩ := ih (fine.kept s₁ o answered)
    refine ⟨after, .cons (fine.next s₁ o answered) books, ?_⟩
    rw [lost, fine.lost s₁ o answered, List.countP_cons]
    dsimp only
    omega

/-- **The loop keeps its book.** Every run does what the book says: each callback is called with what was asked for
under its id, for as long as it is attached. -/
theorem loop_books (run : Lib.Run step .init cs s) : Book.Run .empty cs s.book := by
  have books := (init_kept.run run).2.1
  have empty : State.init.book = .empty := rfl
  exact empty ▸ books

/-- **No record is used after it was freed, and none stays behind.** After every run no event uses a record that was
freed, or frees it again; the records are those of the sources attached and of the callbacks that run, and one for
each signal watched that GLib does not support. -/
theorem loop_records (run : Lib.Run step .init cs s) :
    (∀ e, step e s ≠ .error .freed) ∧
      (∀ b, (s.records.cells b).isSome = true ↔ (∃ x ∈ s.sources, x.cell = b) ∨ (∃ x ∈ s.running, x.cell = b) ∨ b ∈ s.lost) ∧
        (∀ b ∈ s.lost, (∀ x ∈ s.sources, x.cell ≠ b) ∧ ∀ x ∈ s.running, x.cell ≠ b) ∧
          (s.sources.map Source.cell).Nodup ∧ s.lost.length = cs.countP fun c => loses c.input c.output := by
  obtain ⟨kept, -, lost⟩ := init_kept.run run
  refine ⟨fun e => (kept.fine e).safe, kept.live, kept.apart, kept.cells, ?_⟩
  rw [lost]
  exact Nat.zero_add _

/-- A periodic callback is called, removes itself, and returns 1. -/
def removedInside : List Event :=
  [.call (.addPeriodic true 1000 5 9 ⟨true, Malloc.only 1⟩), .dispatch 1 0, .call (.removeTimeout 1), .back 1, .dispatch 1 0]

theorem removedInside_seen :
    ∃ cs s, exec step removedInside .init = .ok (cs, s) ∧
      cs.map Call.output = [.returned ⟨0, some 1, some 1⟩, .called 5 9 none, .returned ⟨0, none, none⟩, .nothing, .nothing] :=
  ⟨_, _, rfl, rfl⟩

theorem loop_books_removedInside : ∃ cs b, cs.map Call.input = removedInside ∧ Book.Run .empty cs b := by
  obtain ⟨cs, s, ran, -⟩ := removedInside_seen
  obtain ⟨run, inputs⟩ := exec_run ran
  exact ⟨cs, s.book, inputs, loop_books run⟩

theorem loop_records_removedInside : ∃ cs s, exec step removedInside .init = .ok (cs, s) ∧ ∀ e, step e s ≠ .error .freed := by
  obtain ⟨cs, s, ran, -⟩ := removedInside_seen
  exact ⟨cs, s, ran, (loop_records (exec_run ran).1).1⟩

end ArtikSdk.Loop.Sources
