import ArtikSdk.Base.Error
import ArtikSdk.Lib.Run

/-!
# Serial ports on Linux

`linux_serial.c` behind `artik_serial.c`, which has one record for each port that is open. The calls on
one port share the record; clearing it forgets the descriptor, and releasing it forgets the loop. What
only the watch of the loop reads (the callback, its data and the set for `select`) is left out.
-/

namespace ArtikSdk.Systemio.Serial
open Lib

/-- A pointer to the loop module: what `malloc` found there, null, or the module. -/
inductive Pointer where
  | indeterminate
  | null
  | module
deriving DecidableEq

/-- `os_serial_data` -/
structure SerialData where
  fd : Int
  watchId : Option Int
  loop : Pointer
deriving DecidableEq

/-- `memset(data, 0, sizeof(*data))` -/
def SerialData.zero : SerialData := ⟨0, some 0, .null⟩

/-- The use of a pointer that was never set. -/
inductive Fault where
  | indeterminate
deriving DecidableEq

/-- What is returned; without memory a request returns `-E_NO_MEM`. -/
inductive Result where
  | code (e : ArtikError)
  | negated (e : ArtikError)
  | tryAgain
deriving DecidableEq

/-- What a call does outside of the module. -/
inductive Event where
  | opened (fd : Int)
  | used (fd : Int)
  | closed (fd : Int)
  | requested
  | released
  | unwatched (id : Option Int)
deriving DecidableEq

structure Output where
  result : Result
  events : List Event
deriving DecidableEq

/-- The outcomes in a request: memory for the node and for the record, what `open` returns, and whether the
attributes are read and set. -/
structure Opening where
  node : Bool
  memory : Bool
  fd : Int
  tcgetattr : Bool
  tcsetattr : Bool
deriving DecidableEq

/-- The outcome of `read` or `write`. -/
inductive Transfer where
  | bytes (n : Nat)
  | again
  | failed
deriving DecidableEq

/-! ## linux_serial.c -/

def osSerialRelease (data : SerialData) : List Event := if data.fd ≥ 0 then [.closed data.fd] else []

/-- The result, what was done, and the record. -/
def osSerialRequest (o : Opening) : Output × Option SerialData :=
  if ¬ o.memory then (⟨.negated .noMem, []⟩, none)
  else
    let data : SerialData := ⟨o.fd, none, .indeterminate⟩
    if o.fd < 0 then (⟨.code .accessDenied, osSerialRelease data⟩, none)
    else if ¬ o.tcgetattr then (⟨.code .accessDenied, .opened o.fd :: osSerialRelease data⟩, none)
    else if ¬ o.tcsetattr then (⟨.code .accessDenied, .opened o.fd :: osSerialRelease data⟩, none)
    else (⟨.code .ok, [.opened o.fd]⟩, some data)

def osSerialRead (t : Transfer) (data : SerialData) : Output :=
  if data.fd < 0 then ⟨.code .accessDenied, []⟩
  else
    match t with
    | .bytes _ => ⟨.code .ok, [.used data.fd]⟩
    | .again => ⟨.tryAgain, [.used data.fd]⟩
    | .failed => ⟨.code .accessDenied, [.used data.fd]⟩

def osSerialWrite (t : Transfer) (data : SerialData) : Output :=
  if data.fd < 0 then ⟨.code .accessDenied, []⟩
  else
    match t with
    | .bytes _ => ⟨.code .ok, [.used data.fd]⟩
    | .again | .failed => ⟨.code .accessDenied, [.used data.fd]⟩

/-- `os_serial_set_received_callback`, with whether there is a loop module, and what `add_fd_watch` answers. -/
def osSerialSetReceivedCallback (module : Bool) (added : ArtikError) (watchId : Int) (data : SerialData) : Output × SerialData :=
  if data.fd = -1 then (⟨.code .busy, []⟩, data)
  else if ¬ module then (⟨.code .busy, []⟩, { data with loop := .null })
  else if added ≠ .ok then (⟨.code added, [.requested, .released]⟩, { data with loop := .null })
  else (⟨.code .ok, [.requested]⟩, { data with loop := .module, watchId := some watchId })

/-- `os_serial_unset_received_callback` requests the loop module on its own, and releases it if the record has one. -/
def osSerialUnsetReceivedCallback (module : Bool) (data : SerialData) : Except Fault (Output × SerialData) :=
  let requested := if module then [Event.requested] else []
  if data.fd = 0 then .ok (⟨.code .ok, requested⟩, data)
  else
    match data.loop with
    | .indeterminate => .error .indeterminate
    | .null => .ok (⟨.code .ok, requested⟩, .zero)
    | .module => .ok (⟨.code .ok, requested ++ .unwatched data.watchId :: if module then [.released] else []⟩, .zero)

/-! ## artik_serial.c -/

/-- The records of the ports that are open. -/
abbrev State := Nat → Option SerialData

inductive Op where
  | request (port : Nat) (o : Opening)
  | release (port : Nat)
  | read (port : Nat) (t : Transfer)
  | write (port : Nat) (t : Transfer)
  | setReceivedCallback (port : Nat) (module : Bool) (added : ArtikError) (watchId : Int)
  | unsetReceivedCallback (port : Nat) (module : Bool)

def Op.port : Op → Nat
  | .request port _ | .release port | .read port _ | .write port _ | .setReceivedCallback port .. | .unsetReceivedCallback port _ => port

/-- A call on the record of its port, and the record that it leaves. -/
def Op.call (op : Op) (data : Option SerialData) : Except Fault (Output × Option SerialData) :=
  match op, data with
  | .request _ _, some data => .ok (⟨.code .busy, []⟩, some data)
  | .request _ o, none => if ¬ o.node then .ok (⟨.code .noMem, []⟩, none) else .ok (osSerialRequest o)
  | _, none => .ok (⟨.code .badArgs, []⟩, none)
  | .release _, some data => .ok (⟨.code .ok, osSerialRelease data⟩, none)
  | .read _ t, some data => .ok (osSerialRead t data, some data)
  | .write _ t, some data => .ok (osSerialWrite t data, some data)
  | .setReceivedCallback _ module added watchId, some data =>
    .ok ((osSerialSetReceivedCallback module added watchId data).1, some (osSerialSetReceivedCallback module added watchId data).2)
  | .unsetReceivedCallback _ module, some data => (osSerialUnsetReceivedCallback module data).map fun r => (r.1, some r.2)

/-! ## The books -/

/-- The module, the descriptor that the request of a port has opened, whether the port has a callback, whether an
unset has cleared its record, and how often the loop module was requested and released for it. -/
structure Registry where
  state : State
  opened : Nat → Option Int
  watching : Nat → Bool
  cleared : Nat → Bool
  requested : Nat → Nat
  released : Nat → Nat

def Registry.init : Registry := ⟨fun _ => none, fun _ => none, fun _ => false, fun _ => false, fun _ => 0, fun _ => 0⟩

def Event.opening : Event → Option Int
  | .opened fd => some fd
  | _ => none

def Event.closing : Event → Option Int
  | .closed fd => some fd
  | _ => none

/-- The descriptor of the port, as far as its user is told. -/
def Op.opens (op : Op) (o : Output) (before : Option Int) : Option Int :=
  match op with
  | .request .. => if o.result = .code .ok then o.events.findSome? Event.opening else before
  | .release _ => if o.result = .code .ok then none else before
  | _ => before

/-- Whether the port has a callback, as far as its user is told. -/
def Op.watches (op : Op) (o : Output) (before : Bool) : Bool :=
  match op with
  | .setReceivedCallback .. => if o.result = .code .ok then true else before
  | .unsetReceivedCallback .. | .release _ => if o.result = .code .ok then false else before
  | _ => before

/-- A new record is not cleared, and `memset` clears one that has a descriptor other than 0. -/
def Op.clears (op : Op) (data : Option SerialData) (before : Bool) : Bool :=
  match op, data with
  | .request .., none => false
  | .unsetReceivedCallback .., some data => before || decide (data.fd ≠ 0)
  | _, _ => before

def Registry.book (op : Op) (o : Output) (data : Option SerialData) (r : Registry) : Registry where
  state := Function.update r.state op.port data
  opened := Function.update r.opened op.port (op.opens o (r.opened op.port))
  watching := Function.update r.watching op.port (op.watches o (r.watching op.port))
  cleared := Function.update r.cleared op.port (op.clears (r.state op.port) (r.cleared op.port))
  requested := Function.update r.requested op.port (r.requested op.port + o.events.count .requested)
  released := Function.update r.released op.port (r.released op.port + o.events.count .released)

def Registry.step (op : Op) (r : Registry) : Except Fault (Registry × Output) :=
  (op.call (r.state op.port)).map fun p => (r.book op p.1 p.2, p.1)

/-- What has to be closed: what a failing request has opened, and what a port that is released has. -/
def Op.due (op : Op) (o : Output) (opened : Option Int) : List Int :=
  match op with
  | .request .. => if o.result = .code .ok then [] else o.events.filterMap Event.opening
  | .release _ => opened.toList
  | _ => []

/-- **The law of a call**: it reads and writes the descriptor of its port only, closes what has to be closed and
nothing else, and behind it the loop module is held once for each port with a callback. -/
structure Keeps (c : Call Op Registry Output) : Prop where
  used : ∀ fd, .used fd ∈ c.output.events → c.before.opened c.input.port = some fd
  closed : c.output.events.filterMap Event.closing = c.input.due c.output (c.before.opened c.input.port)
  loop : ∀ port, c.after.requested port = c.after.released port + (c.after.watching port).toNat

/-- A record that an unset has cleared is not read, written or released; a port has no callback when it is released
or when one is set; and where a callback is unset there is none, and there is no loop module either. -/
def Op.Fits (op : Op) (data : SerialData) (watching cleared : Bool) : Prop :=
  match op with
  | .request .. => True
  | .read .. | .write .. => cleared = false
  | .release _ => cleared = false ∧ watching = false
  | .setReceivedCallback _ module added _ => ¬ (watching = true ∧ module = true ∧ added = .ok)
  | .unsetReceivedCallback _ module => watching = false ∧ module = false ∧ (data.fd = 0 ∨ data.loop ≠ .indeterminate)

/-- A call on a port that is not open always fits. -/
def Fits (op : Op) (r : Registry) : Prop :=
  ∀ data, r.state op.port = some data → op.Fits data (r.watching op.port) (r.cleared op.port)

/-! ## The ports -/

/-- What is known of a port: the record has the descriptor that was opened as long as it is not cleared, and the
loop module only while there is a callback. -/
structure Sound (data : Option SerialData) (opened : Option Int) (watching cleared : Bool) : Prop where
  absent : data = none → opened = none ∧ watching = false
  valid : ∀ d, data = some d → 0 ≤ d.fd
  own : ∀ d, data = some d → (opened = some d.fd ↔ cleared = false)
  wiped : ∀ d, data = some d → cleared = true → d.fd = 0
  loop : ∀ d, data = some d → d.loop = .module → watching = true

structure Registry.Inv (r : Registry) : Prop where
  ports : ∀ port, Sound (r.state port) (r.opened port) (r.watching port) (r.cleared port)
  held : ∀ port, r.requested port = r.released port + (r.watching port).toNat

theorem Registry.Inv.init : Registry.init.Inv where
  ports _ := ⟨fun _ => ⟨rfl, rfl⟩, nofun, nofun, nofun, nofun⟩
  held _ := rfl

variable {op : Op} {r r' : Registry} {o : Output} {data : Option SerialData} {d d' : SerialData}

/-- The loop module is held as it should be where the call has it as often as the callback asks for. -/
theorem held_iff (inv : r.Inv) :
    (∀ port, (r.book op o data).requested port = (r.book op o data).released port + ((r.book op o data).watching port).toNat) ↔
      (r.watching op.port).toNat + o.events.count .requested =
        o.events.count .released + (op.watches o (r.watching op.port)).toNat := by
  have before := inv.held op.port
  constructor
  · intro held
    have here := held op.port
    simp only [Registry.book, Function.update_self] at here
    omega
  · intro here port
    by_cases same : port = op.port
    · subst same
      simp only [Registry.book, Function.update_self]
      omega
    · simp only [Registry.book, Function.update_of_ne same]
      exact inv.held port

/-- A call changes what is known of its own port only. -/
theorem Registry.Inv.book (inv : r.Inv) (keeps : Keeps ⟨r, op, r.book op o data, o⟩)
    (sound : Sound data (op.opens o (r.opened op.port)) (op.watches o (r.watching op.port))
      (op.clears (r.state op.port) (r.cleared op.port))) : (r.book op o data).Inv where
  ports port := by
    by_cases same : port = op.port
    · subst same
      simpa only [Registry.book, Function.update_self] using sound
    · simpa only [Registry.book, Function.update_of_ne same] using inv.ports port
  held := keeps.loop

/-! ## The calls -/

/-- A call on the record of its port: it meets the law just where it fits, and then the port stays as it is known. -/
structure Exact (op : Op) (r : Registry) (o : Output) (data : Option SerialData) : Prop where
  keeps : Keeps ⟨r, op, r.book op o data, o⟩ ↔ Fits op r
  sound : Fits op r →
    Sound data (op.opens o (r.opened op.port)) (op.watches o (r.watching op.port)) (op.clears (r.state op.port) (r.cleared op.port))

theorem keeps_iff (inv : r.Inv) :
    Keeps ⟨r, op, r.book op o data, o⟩ ↔
      (∀ fd, .used fd ∈ o.events → r.opened op.port = some fd) ∧
        o.events.filterMap Event.closing = op.due o (r.opened op.port) ∧
        (r.watching op.port).toNat + o.events.count .requested =
          o.events.count .released + (op.watches o (r.watching op.port)).toNat :=
  ⟨fun keeps => ⟨keeps.used, keeps.closed, (held_iff inv).1 keeps.loop⟩, fun ⟨used, closed, held⟩ => ⟨used, closed, (held_iff inv).2 held⟩⟩

/-- A call that does nothing. -/
theorem idle_exact {result : Result} (inv : r.Inv) (fits : Fits op r) (due : op.due ⟨result, []⟩ (r.opened op.port) = [])
    (opens : op.opens ⟨result, []⟩ (r.opened op.port) = r.opened op.port)
    (watches : op.watches ⟨result, []⟩ (r.watching op.port) = r.watching op.port)
    (clears : r.state op.port = none ∨ op.clears (r.state op.port) (r.cleared op.port) = r.cleared op.port) :
    Exact op r ⟨result, []⟩ (r.state op.port) where
  keeps := by
    rw [keeps_iff inv, due, watches]
    exact iff_of_true ⟨nofun, rfl, Nat.add_comm ..⟩ fits
  sound _ := by
    rw [opens, watches]
    cases clears with
    | inl absent =>
      rw [absent]
      exact ⟨fun _ => (inv.ports op.port).absent absent, nofun, nofun, nofun, nofun⟩
    | inr same =>
      rw [same]
      exact inv.ports op.port

theorem fits_iff (here : r.state op.port = some d) : Fits op r ↔ op.Fits d (r.watching op.port) (r.cleared op.port) := by
  constructor
  · exact fun fits => fits d here
  · intro fits d' here'
    cases here.symm.trans here'
    exact fits

theorem release_exact {port : Nat} (inv : r.Inv) (here : r.state port = some d) :
    Exact (.release port) r ⟨.code .ok, osSerialRelease d⟩ none := by
  have sound := inv.ports port
  have closes : osSerialRelease d = [.closed d.fd] := if_pos (sound.valid d here)
  have own : [d.fd] = (r.opened port).toList ↔ r.cleared port = false := by
    rw [← sound.own d here]
    cases r.opened port with
    | none => exact iff_of_false nofun nofun
    | some fd => simp [eq_comm]
  have held : (r.watching port).toNat + 0 = 0 + 0 ↔ r.watching port = false := by
    cases r.watching port <;> simp
  constructor
  · rw [keeps_iff inv, fits_iff here, closes]
    apply (and_iff_right fun fd used => by cases List.mem_singleton.1 used).trans
    exact and_congr own held
  · exact fun _ => ⟨fun _ => ⟨rfl, rfl⟩, nofun, nofun, nofun, nofun⟩

theorem osSerialRead_eq (t : Transfer) (valid : ¬ d.fd < 0) : ∃ result, osSerialRead t d = ⟨result, [.used d.fd]⟩ := by
  unfold osSerialRead
  rw [if_neg valid]
  cases t with
  | bytes n => exact ⟨_, rfl⟩
  | again => exact ⟨_, rfl⟩
  | failed => exact ⟨_, rfl⟩

theorem osSerialWrite_eq (t : Transfer) (valid : ¬ d.fd < 0) : ∃ result, osSerialWrite t d = ⟨result, [.used d.fd]⟩ := by
  unfold osSerialWrite
  rw [if_neg valid]
  cases t with
  | bytes n => exact ⟨_, rfl⟩
  | again => exact ⟨_, rfl⟩
  | failed => exact ⟨_, rfl⟩

/-- A call that only uses the descriptor of the record. -/
theorem transfer_exact {result : Result} (inv : r.Inv) (here : r.state op.port = some d)
    (transfer : (∃ port t, op = .read port t) ∨ ∃ port t, op = .write port t) : Exact op r ⟨result, [.used d.fd]⟩ (some d) := by
  have sound := inv.ports op.port
  have uses : (∀ fd, .used fd ∈ [Event.used d.fd] → r.opened op.port = some fd) ↔ r.cleared op.port = false := by
    rw [← sound.own d here]
    constructor
    · exact fun used => used d.fd (List.mem_singleton.2 rfl)
    · intro own fd used
      cases List.mem_singleton.1 used
      exact own
  constructor
  · rw [keeps_iff inv, fits_iff here, uses]
    obtain ⟨port, t, rfl⟩ | ⟨port, t, rfl⟩ := transfer
    · exact and_iff_left ⟨rfl, Nat.add_comm ..⟩
    · exact and_iff_left ⟨rfl, Nat.add_comm ..⟩
  · intro
    rw [← here]
    obtain ⟨port, t, rfl⟩ | ⟨port, t, rfl⟩ := transfer
    · exact sound
    · exact sound

/-- A call that leaves the descriptor alone meets the law where it keeps the loop module for the callback. -/
theorem loop_iff (inv : r.Inv) (used : ∀ fd, .used fd ∉ o.events)
    (closed : o.events.filterMap Event.closing = op.due o (r.opened op.port)) :
    Keeps ⟨r, op, r.book op o data, o⟩ ↔
      (r.watching op.port).toNat + o.events.count .requested =
        o.events.count .released + (op.watches o (r.watching op.port)).toNat := by
  rw [keeps_iff inv, and_iff_right fun fd here => absurd here (used fd), and_iff_right closed]

theorem set_exact {port : Nat} {module : Bool} {added : ArtikError} {watchId : Int} (inv : r.Inv) (here : r.state port = some d) :
    Exact (.setReceivedCallback port module added watchId) r (osSerialSetReceivedCallback module added watchId d).1
      (some (osSerialSetReceivedCallback module added watchId d).2) := by
  have sound := inv.ports port
  have valid := sound.valid d here
  have known : d.fd ≠ -1 := by omega
  -- the descriptor of the record stays, and its loop is the module only behind a callback
  have stays {loop : Pointer} {watch : Option Int} {watching : Bool} (only : loop = .module → watching = true) :
      Sound (some ⟨d.fd, watch, loop⟩) (r.opened port) watching (r.cleared port) :=
    ⟨nofun, by rintro _ ⟨⟩; exact valid, by rintro _ ⟨⟩; exact sound.own d here, by rintro _ ⟨⟩; exact sound.wiped d here,
      by rintro _ ⟨⟩; exact only⟩
  rw [osSerialSetReceivedCallback, if_neg known]
  by_cases there : module = true
  · rw [if_neg (not_not.2 there)]
    by_cases failed : added ≠ .ok
    · have watches : (Op.setReceivedCallback port module added watchId).watches ⟨.code added, [.requested, .released]⟩ (r.watching port) =
          r.watching port := if_neg fun same => failed (Result.code.inj same)
      rw [if_pos failed]
      constructor
      · rw [loop_iff inv (by simp) rfl, fits_iff here]
        apply iff_of_true
        · dsimp only [Op.port]
          rw [watches]
          exact Nat.add_comm ..
        · exact fun ⟨_, _, ok⟩ => failed ok
      · intro
        dsimp only [Op.port]
        rw [watches]
        exact stays nofun
    · rw [if_neg failed]
      constructor
      · rw [loop_iff inv (by simp) rfl, fits_iff here]
        show (r.watching port).toNat + 1 = 0 + 1 ↔ ¬ (r.watching port = true ∧ module = true ∧ added = .ok)
        rw [and_iff_left ⟨there, not_not.1 failed⟩]
        cases r.watching port <;> simp
      · exact fun _ => stays fun _ => rfl
  · rw [if_pos there]
    constructor
    · rw [loop_iff inv (by simp) rfl, fits_iff here]
      exact iff_of_true (Nat.add_comm ..) fun ⟨_, module, _⟩ => there module
    · exact fun _ => stays nofun

/-- **Unset** requests the loop module itself and, without one in the record, gives nothing back. -/
theorem unset_keeps_iff {port : Nat} {module : Bool} {events : List Event} (inv : r.Inv) (here : r.state port = some d)
    (reached : d.fd = 0 ∨ d.loop ≠ .indeterminate) (asks : events = if module then [.requested] else []) :
    Keeps ⟨r, .unsetReceivedCallback port module, r.book (.unsetReceivedCallback port module) ⟨.code .ok, events⟩ data,
        ⟨.code .ok, events⟩⟩ ↔
      Fits (.unsetReceivedCallback port module) r := by
  subst asks
  rw [loop_iff inv (by cases module <;> simp) (by cases module <;> rfl), fits_iff here]
  show (r.watching port).toNat + _ = _ + 0 ↔ r.watching port = false ∧ module = false ∧ _
  rw [and_iff_left reached]
  cases r.watching port <;> cases module <;> simp

theorem unset_exact {port : Nat} {module : Bool} (inv : r.Inv) (here : r.state port = some d)
    (called : osSerialUnsetReceivedCallback module d = .ok (o, d')) : Exact (.unsetReceivedCallback port module) r o (some d') := by
  have sound := inv.ports port
  rw [osSerialUnsetReceivedCallback] at called
  split at called
  case isTrue zero =>
    cases called
    refine ⟨unset_keeps_iff inv here (Or.inl zero) rfl, fun fits => ?_⟩
    have quiet : r.watching port = false := ((fits_iff here).1 fits).1
    have same : (Op.unsetReceivedCallback port module).clears (r.state port) (r.cleared port) = r.cleared port := by
      rw [here]
      simp [Op.clears, zero]
    show Sound (some d) (r.opened port) false _
    rw [Op.port, same, ← here, ← quiet]
    exact sound
  case isFalse nonzero =>
    split at called
    case h_1 => cases called
    case h_2 null =>
      cases called
      refine ⟨unset_keeps_iff inv here (Or.inr (by rw [null]; nofun)) rfl, fun _ => ?_⟩
      have clears : (Op.unsetReceivedCallback port module).clears (r.state port) (r.cleared port) = true := by
        rw [here]
        simp [Op.clears, nonzero]
      show Sound (some .zero) (r.opened port) false _
      rw [Op.port, clears]
      refine ⟨nofun, by rintro _ ⟨⟩; exact le_rfl, ?_, by rintro _ ⟨⟩ -; rfl, by rintro _ ⟨⟩ ⟨⟩⟩
      -- the record had a descriptor other than 0, and so was not cleared before
      rintro _ ⟨⟩
      refine iff_of_false (fun own => ?_) nofun
      cases cleared : r.cleared port with
      | true => exact nonzero (sound.wiped d here cleared)
      | false =>
        have kept := (sound.own d here).2 cleared
        exact nonzero (Option.some.inj (kept.symm.trans own))
    case h_3 loop =>
      have watching := sound.loop d here loop
      cases called
      have never : ¬ Fits (.unsetReceivedCallback port module) r := fun fits =>
        Bool.false_ne_true (((fits_iff here).1 fits).1.symm.trans watching)
      refine ⟨iff_of_false (fun keeps => ?_) never, fun fits => absurd fits never⟩
      have held := (held_iff inv).1 keeps.loop
      dsimp only [Op.port, Op.watches] at held
      rw [watching] at held
      cases module <;> simp at held

/-- A request that fails has closed what it has opened. -/
theorem request_failed {port : Nat} {w : Opening} {result : Result} {events : List Event} (inv : r.Inv) (here : r.state port = none)
    (failed : result ≠ .code .ok) (used : ∀ fd, .used fd ∉ events)
    (closes : events.filterMap Event.closing = events.filterMap Event.opening) (asks : events.count .requested = events.count .released) :
    Exact (.request port w) r ⟨result, events⟩ none := by
  have fits : Fits (.request port w) r := fun _ there => by cases here.symm.trans there
  constructor
  · rw [loop_iff inv used (closes.trans (if_neg failed).symm)]
    apply iff_of_true _ fits
    show (r.watching port).toNat + events.count .requested = events.count .released + (r.watching port).toNat
    omega
  · intro
    have opens : (Op.request port w).opens ⟨result, events⟩ (r.opened port) = r.opened port := if_neg failed
    dsimp only [Op.port]
    rw [opens]
    exact ⟨fun _ => (inv.ports port).absent here, nofun, nofun, nofun, nofun⟩

theorem request_exact {port : Nat} {w : Opening} (inv : r.Inv) (here : r.state port = none) :
    Exact (.request port w) r (osSerialRequest w).1 (osSerialRequest w).2 := by
  rw [osSerialRequest]
  by_cases memory : w.memory = true
  · rw [if_neg (not_not.2 memory)]
    dsimp only
    by_cases unopened : w.fd < 0
    · rw [if_pos unopened, osSerialRelease, if_neg (not_le.2 unopened)]
      exact request_failed inv here nofun nofun rfl rfl
    · have closes : osSerialRelease ⟨w.fd, none, .indeterminate⟩ = [.closed w.fd] := if_pos (not_lt.1 unopened)
      have failed : Exact (.request port w) r ⟨.code .accessDenied, [.opened w.fd, .closed w.fd]⟩ none :=
        request_failed inv here nofun (by simp) rfl rfl
      rw [if_neg unopened, closes]
      by_cases read : w.tcgetattr = true
      · by_cases written : w.tcsetattr = true
        · have fits : Fits (.request port w) r := fun _ there => by cases here.symm.trans there
          rw [if_neg (not_not.2 read), if_neg (not_not.2 written)]
          constructor
          · rw [loop_iff inv (by simp) rfl]
            exact iff_of_true (Nat.add_comm ..) fits
          · intro
            have fresh : (Op.request port w).clears (r.state port) (r.cleared port) = false := by
              rw [here]
              rfl
            dsimp only [Op.port]
            rw [fresh]
            refine ⟨nofun, ?_, ?_, nofun, ?_⟩
            · rintro _ ⟨⟩
              exact not_lt.1 unopened
            · rintro _ ⟨⟩
              exact iff_of_true rfl rfl
            · rintro _ ⟨⟩ ⟨⟩
        · rw [if_neg (not_not.2 read), if_pos written]
          exact failed
      · rw [if_pos read]
        exact failed
  · rw [if_pos memory]
    exact request_failed inv here nofun nofun rfl rfl

theorem absent_exact (inv : r.Inv) (here : r.state op.port = none) (called : op.call none = .ok (o, data)) : Exact op r o data := by
  have fits : Fits op r := fun _ there => by cases here.symm.trans there
  have unopened : r.opened op.port = none := ((inv.ports op.port).absent here).1
  cases op with
  | request port w =>
    rw [Op.call] at called
    split at called
    · cases called
      exact request_failed inv here nofun nofun rfl rfl
    · have exact := request_exact (w := w) inv here
      rw [Except.ok.inj called] at exact
      exact exact
  | release port =>
    cases called
    rw [← here]
    refine idle_exact inv fits ?_ rfl rfl (Or.inl here)
    rw [unopened]
    rfl
  | read port t | write port t | setReceivedCallback port module added watchId | unsetReceivedCallback port module =>
    cases called
    rw [← here]
    exact idle_exact inv fits rfl rfl rfl (Or.inl here)

theorem present_exact (inv : r.Inv) (here : r.state op.port = some d) (called : op.call (some d) = .ok (o, data)) : Exact op r o data := by
  have valid : ¬ d.fd < 0 := not_lt.2 ((inv.ports op.port).valid d here)
  cases op with
  | request port w =>
    cases called
    rw [← here]
    refine idle_exact inv (fun _ _ => trivial) rfl rfl rfl (Or.inr ?_)
    rw [here]
    rfl
  | release port =>
    cases called
    exact release_exact inv here
  | read port t =>
    obtain ⟨result, same⟩ := osSerialRead_eq t valid
    rw [Op.call, same] at called
    cases called
    exact transfer_exact inv here (Or.inl ⟨_, _, rfl⟩)
  | write port t =>
    obtain ⟨result, same⟩ := osSerialWrite_eq t valid
    rw [Op.call, same] at called
    cases called
    exact transfer_exact inv here (Or.inr ⟨_, _, rfl⟩)
  | setReceivedCallback port module added watchId =>
    cases called
    exact set_exact inv here
  | unsetReceivedCallback port module =>
    obtain ⟨p, unset, same⟩ := map_ok_iff.1 called
    cases same
    exact unset_exact inv here unset

/-- A call that fits is answered. -/
theorem call_answers (fits : Fits op r) : ∃ p, op.call (r.state op.port) = .ok p := by
  cases here : r.state op.port with
  | none =>
    cases op with
    | request port w =>
      rw [Op.call]
      split
      · exact ⟨_, rfl⟩
      · exact ⟨_, rfl⟩
    | _ => exact ⟨_, rfl⟩
  | some d =>
    cases op with
    | unsetReceivedCallback port module =>
      obtain ⟨-, -, reached⟩ := (fits_iff here).1 fits
      rw [Op.call, osSerialUnsetReceivedCallback]
      by_cases zero : d.fd = 0
      · rw [if_pos zero]
        exact ⟨_, rfl⟩
      · rw [if_neg zero]
        cases loop : d.loop with
        | indeterminate => exact absurd loop (reached.resolve_left zero)
        | null => exact ⟨_, rfl⟩
        | module => exact ⟨_, rfl⟩
    | _ => exact ⟨_, rfl⟩

/-! ## Runs -/

theorem call_exact (inv : r.Inv) (called : op.call (r.state op.port) = .ok (o, data)) : Exact op r o data := by
  cases here : r.state op.port with
  | none => exact absent_exact inv here (here ▸ called)
  | some d => exact present_exact inv here (here ▸ called)

theorem step_iff (op : Op) (inv : r.Inv) : (∃ r' o, r.step op = .ok (r', o) ∧ Keeps ⟨r, op, r', o⟩) ↔ Fits op r := by
  constructor
  · rintro ⟨r', o, answered, keeps⟩
    obtain ⟨⟨o', data⟩, called, same⟩ := map_ok_iff.1 answered
    cases same
    exact (call_exact inv called).keeps.1 keeps
  · intro fits
    obtain ⟨⟨o, data⟩, called⟩ := call_answers fits
    exact ⟨r.book op o data, o, by rw [Registry.step, called]; rfl, (call_exact inv called).keeps.2 fits⟩

theorem step_keep {op : Op} (inv : r.Inv) (fits : Fits op r) (answered : r.step op = .ok (r', o)) : r'.Inv := by
  obtain ⟨t, o', again, keeps⟩ := (step_iff op inv).2 fits
  cases answered.symm.trans again
  obtain ⟨⟨o, data⟩, called, same⟩ := map_ok_iff.1 answered
  cases same
  exact inv.book keeps ((call_exact inv called).sound fits)

/-- **The serial ports**: in a run from the start every read, write and close goes to the descriptor of its port,
which is closed once, and the loop module is given back as often as it was requested, exactly if no record is used
after an unset has cleared it, no port with a callback gets another or is released, and a callback is unset only
where there is none, without a loop module. -/
theorem serial_iff (ops : List Op) :
    (∃ cs r, exec Registry.step ops .init = .ok (cs, r) ∧ ∀ c ∈ cs, Keeps c) ↔ Along Fits Registry.step ops .init :=
  exec_along_iff (fun op _ inv => step_iff op inv) (fun _ _ _ _ inv fits answered => step_keep inv fits answered) Registry.Inv.init

/-- A request, a callback that is set and unset, and a read: it goes to descriptor 0. -/
theorem unset_reads_elsewhere :
    ∃ c r, exec Registry.step [.request 0 ⟨true, true, 5, true, true⟩, .setReceivedCallback 0 true .ok 1, .unsetReceivedCallback 0 true,
        .read 0 (.bytes 1)] .init = .ok (c, r) ∧ ∃ d ∈ c, ¬ Keeps d := by
  refine ⟨_, _, rfl, _, List.mem_of_getLast? rfl, fun keeps => ?_⟩
  exact absurd (keeps.used 0 (List.mem_singleton.2 rfl)) (by decide)

end ArtikSdk.Systemio.Serial
