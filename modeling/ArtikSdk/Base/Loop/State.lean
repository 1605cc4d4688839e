import ArtikSdk.Lib.Alloc
import ArtikSdk.Lib.Run

/-!
# The Tinyara loop

`tinyara_loop.c`: timeouts, periodics, fd watches and idlers. A registration is a record on
the heap, a libuv handle that points to it, and an entry in the vector of its kind. A freed
record can still be read through the vector, and then holds what `free` left in it: a
`Residue` says what that is. libuv calls back through the handles it has; a user callback is
the list of calls that it makes on the loop, and what it returns.
-/

namespace ArtikSdk.Loop
open Lib

inductive Kind where
  | timeout
  | periodic
  | watch
  | idle
deriving DecidableEq

/-- `struct _timeout`, `_periodic`, `_watch` and `_idle`; `fd` is the watch's. `number` and
`issued` are not in the source: which add of its kind made the record, and the id it returned. -/
structure Record where
  func : Nat
  userData : Nat
  handle : Nat
  fd : Int
  id : Int
  number : Nat
  issued : Int
deriving DecidableEq

/-- A block of memory that is or was a record. -/
structure Block where
  allocated : Bool
  contents : Record

/-- What `free` leaves in a block. -/
abbrev Residue := Nat → Record

/-- The records and the handles by address, the vectors, the id counters, and (not in the
source) the number of adds of each kind. -/
structure State where
  block : Nat → Block
  handle : Nat → Option (Kind × Nat)
  vector : Kind → List Nat
  nextId : Kind → Nat
  added : Kind → Nat

/-- `{ NULL, 0, ... }` and zero everywhere. -/
def State.init : State where
  block _ := ⟨false, ⟨0, 0, 0, 0, 0, 0, 0⟩⟩
  handle _ := none
  vector _ := []
  nextId _ := 0
  added _ := 0

inductive Fault where
  | nullPointer
  | notAllocated
  | vectorFull
deriving DecidableEq

/-! ## Memory -/

/-- `uv_*_stop(handle); free(handle);` -/
def closeHandle (h : Nat) (s : State) : Except Fault State :=
  match s.handle h with
  | none => .error .notAllocated
  | some _ => .ok { s with handle := Function.update s.handle h none }

/-- `memset(record, 0, ...); free(record);` -/
def freeRecord (p : Nat) (residue : Residue) (s : State) : Except Fault State :=
  if (s.block p).allocated then .ok { s with block := Function.update s.block p ⟨false, residue p⟩ }
  else .error .notAllocated

/-- The handle is stopped and freed, the record cleared and freed. -/
def discard (p : Nat) (residue : Residue) (s : State) : Except Fault State :=
  (closeHandle (s.block p).contents.handle s).bind (freeRecord p residue)

/-! ## Removing -/

/-- The loop of the cleanup functions, over the first `i` entries from the last one down. -/
def cleanupLoop (k : Kind) (id : Int) (residue : Residue) : Nat → State → Except Fault State
  | 0, s => .ok s
  | i + 1, s =>
    match (s.vector k)[i]? with
    | none => .error .notAllocated
    | some p =>
      if (s.block p).contents.id = id then
        (if (s.block p).contents.handle ≠ 0 then discard p residue s else .ok s).bind fun s =>
          cleanupLoop k id residue i { s with vector := Function.update s.vector k ((s.vector k).eraseIdx i) }
      else cleanupLoop k id residue i s

def cleanup (k : Kind) (id : Int) (residue : Residue) (s : State) : Except Fault State :=
  cleanupLoop k id residue (s.vector k).length s

def timeoutCleanup := cleanup .timeout
def periodicCleanup := cleanup .periodic
def watchCleanup := cleanup .watch
def idleCleanup := cleanup .idle

/-! ## Adding -/

/-- The arguments of an add, the outcomes of its two `malloc`s, and what is in the record's
memory before. -/
structure AddArgs where
  func : Nat
  userData : Nat
  fd : Int
  record : Malloc
  handle : Malloc
  garbage : Record

/-- `if (_id >= 255) _id = 0;` -/
def State.issue (s : State) (k : Kind) : Nat := if s.nextId k ≥ 255 then 0 else s.nextId k

/-- What the add functions share; `store` puts the id (and for a watch the fd) into the record.
The length of a vector is a `uint16_t`. -/
def add (k : Kind) (store : Int → Record → Record) (args : AddArgs) (s : State) : Except Fault (State × Int) :=
  match args.record.pick fun a => (s.block a).allocated with
  | none => .error .nullPointer
  | some p =>
    match args.handle.pick fun a => (s.handle a).isSome with
    | none => .error .nullPointer
    | some h =>
      if (s.vector k).length ≥ 65535 then .error .vectorFull
      else
        let contents := store (s.issue k)
          { args.garbage with func := args.func, userData := args.userData, handle := h, number := s.added k, issued := s.issue k }
        .ok
          ({ block := Function.update s.block p ⟨true, contents⟩
             handle := Function.update s.handle h (some (k, p))
             vector := Function.update s.vector k (s.vector k ++ [p])
             nextId := Function.update s.nextId k (s.issue k + 1)
             added := Function.update s.added k (s.added k + 1) },
            s.issue k)

def osAddTimeoutCallback := add .timeout fun id r => { r with id }
def osAddPeriodicCallback := add .periodic fun id r => { r with id }
def osAddFdWatch (args : AddArgs) := add .watch (fun id r => { r with id, fd := args.fd }) args

/-- The id goes to the caller, and not into the record. -/
def osAddIdleCallback := add .idle fun _ r => r

/-! ## Calls on the loop -/

inductive Op where
  | add (k : Kind) (args : AddArgs)
  | remove (k : Kind) (id : Int) (residue : Residue)

/-- A call, and the id an add returns. -/
def api (op : Op) (s : State) : Except Fault (State × Int) :=
  match op with
  | .add .timeout args => osAddTimeoutCallback args s
  | .add .periodic args => osAddPeriodicCallback args s
  | .add .watch args => osAddFdWatch args s
  | .add .idle args => osAddIdleCallback args s
  | .remove .timeout id residue => (timeoutCleanup id residue s).map (·, 0)
  | .remove .periodic id residue => (periodicCleanup id residue s).map (·, 0)
  | .remove .watch id residue => (watchCleanup id residue s).map (·, 0)
  | .remove .idle id residue => (idleCleanup id residue s).map (·, 0)

/-! ## Callbacks -/

/-- What follows the user callback in the four completion paths: the record's id is read
after the record was freed. -/
def complete (k : Kind) (p : Nat) (residue : Residue) (s : State) : Except Fault State :=
  (discard p residue s).bind fun s => cleanup k (s.block p).contents.id residue s

/-- The user callback: the calls it makes. A null pointer is skipped where the source checks
for it. -/
def userCall (checked : Bool) (p : Nat) (ops : List Op) (s : State) : Except Fault (List (Call Op State Int) × State) :=
  if (s.block p).contents.func ≠ 0 then exec api ops s
  else if checked then .ok ([], s)
  else .error .nullPointer

/-- The four callbacks: `ends` is the test on the function pointer and on what it returned. -/
def callback (k : Kind) (checked : Bool) (ends : Nat → Int → Bool) (h : Nat) (ops : List Op) (ret : Int) (residue : Residue)
    (s : State) : Except Fault (State × List (Call Op State Int)) :=
  match s.handle h with
  | none => .error .notAllocated
  | some (k', p) =>
    if k' ≠ k then .error .notAllocated
    else
      match userCall checked p ops s with
      | .error f => .error f
      | .ok (calls, s₁) =>
        if ends (s.block p).contents.func ret then (complete k p residue s₁).map (·, calls) else .ok (s₁, calls)

def timeoutEnds (_ : Nat) (_ : Int) : Bool := true
def periodicEnds (func : Nat) (ret : Int) : Bool := func = 0 || ret ≠ 1
def watchEnds (_ : Nat) (ret : Int) : Bool := ret = 0
def idleEnds (_ : Nat) (ret : Int) : Bool := ret = 0

def timeoutCallback := callback .timeout true timeoutEnds
def periodicCallback := callback .periodic true periodicEnds
def watchCallback := callback .watch false watchEnds
def idleCallback := callback .idle false idleEnds

/-! ## The loop -/

/-- A call on the loop from outside, or a callback through the handle `h`. -/
inductive Event where
  | call (op : Op)
  | fire (k : Kind) (h : Nat) (ops : List Op) (ret : Int) (residue : Residue)

/-- The callback of each kind. -/
def fire (k : Kind) : Nat → List Op → Int → Residue → State → Except Fault (State × List (Call Op State Int)) :=
  match k with
  | .timeout => timeoutCallback
  | .periodic => periodicCallback
  | .watch => watchCallback
  | .idle => idleCallback

/-- The state after an event, and the calls on the loop that were made. -/
def step (e : Event) (s : State) : Except Fault (State × List (Call Op State Int)) :=
  match e with
  | .call op => (api op s).map fun r => (r.1, [⟨s, op, r.1, r.2⟩])
  | .fire k h ops ret residue => fire k h ops ret residue s

end ArtikSdk.Loop
