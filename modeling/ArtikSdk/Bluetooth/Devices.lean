import ArtikSdk.Lib.Run
import ArtikSdk.Base.Error

/-!
# Bluetooth devices: connecting and bonding

`device.c`. One `hci.state` stands for all devices: a call looks at it before it looks at its own
device, and only where it says `BT_DEVICE_STATE_CONNECTED` or `BT_DEVICE_STATE_PAIRED` for another
device is the answer wrong. That an attempt is pending while it says `CONNECTING` or `PAIRING`
always holds.
-/

namespace ArtikSdk.Bluetooth.Devices
open Lib

/-- `bt_device_state` -/
inductive HciState where
  | idle
  | pairing
  | paired
  | connecting
  | connected
deriving DecidableEq

/-- A device of the bus, with the properties that are read. -/
structure Device where
  address : List Char
  connected : Bool
  paired : Bool
deriving DecidableEq

inductive Method where
  | connect
  | connectProfile (uuid : List Char)
  | pair
deriving DecidableEq

/-- What an attempt is for, as a call of it says. -/
inductive Purpose where
  | connection
  | bond
deriving DecidableEq

def Method.purpose : Method → Purpose
  | .connect | .connectProfile _ => .connection
  | .pair => .bond

/-- `hci.state`; the devices of the bus; and the attempts whose callback is still to come, by the
purpose of each and the address that it was made for. -/
structure State where
  hciState : HciState
  devices : List Device
  pending : List (Method × List Char)
deriving DecidableEq

def State.init : State := ⟨.idle, [], []⟩

/-- What `_user_callback` is called with: `BT_EVENT_CONNECT` and `BT_EVENT_BOND`. -/
inductive Report where
  | connect (connected : Bool)
  | bond (bonded : Bool)
deriving DecidableEq

/-- The code of a call, what is reported, and the method that is called on the device. -/
structure Output where
  code : Option ArtikError
  reports : List Report
  issued : Option Method
deriving DecidableEq

/-- Only a code. -/
def Output.returns (e : ArtikError) : Output := ⟨some e, [], none⟩

/-- `_get_object_path`: `strcasecmp` on the addresses. No device is the null path; so is an error of
`GetManagedObjects`. -/
def State.device (objects : Bool) (address : List Char) (s : State) : Option Device :=
  if objects then s.devices.find? fun d => d.address.map Char.toLower = address.map Char.toLower else none

/-- An error of the bus: that the service is not found, or another one. -/
inductive BusError where
  | notFound
  | other
deriving DecidableEq

/-- `bt_check_error`. -/
def btCheckError : Option BusError → ArtikError
  | none => .ok
  | some .notFound => .busy
  | some .other => .btError

/-- The answers of a call: whether `GetManagedObjects` works, and the `Get` of a property. -/
structure Answers where
  objects : Bool
  get : Bool
deriving DecidableEq

/-! ## Calls -/

/-- `bt_connect` and `bt_connect_profile`. -/
def connectBy (method : Method) (address : List Char) (answers : Answers) (s : State) : State × Output :=
  if s.hciState = .connecting then (s, .returns .inProgress)
  else if s.hciState = .connected then (s, ⟨some .ok, [.connect true], none⟩)
  else
    match s.device answers.objects address with
    | none => (s, .returns .btError)
    | some d =>
      if s.hciState = .idle ∧ (answers.get && d.connected) = true then (s, ⟨some .ok, [.connect true], none⟩)
      else ({ s with hciState := .connecting, pending := s.pending ++ [(method, address)] }, ⟨some .ok, [], some method⟩)

def btConnect (address : List Char) := connectBy .connect address
def btConnectProfile (address uuid : List Char) := connectBy (.connectProfile uuid) address

def btStartBond (address : List Char) (answers : Answers) (s : State) : State × Output :=
  if s.hciState = .pairing then (s, .returns .inProgress)
  else if s.hciState = .paired then (s, ⟨some .ok, [.bond true], none⟩)
  else
    match s.device answers.objects address with
    | none => (s, .returns .btError)
    | some d =>
      if (answers.get && d.paired) = true then (s, ⟨some .ok, [.bond true], none⟩)
      else ({ s with hciState := .pairing, pending := s.pending ++ [(.pair, address)] }, ⟨some .ok, [], some .pair⟩)

def btDisconnect (address : List Char) (objects : Bool) (error : Option BusError) (s : State) : State × Output :=
  match s.device objects address with
  | none => (s, .returns .btError)
  | some _ =>
    if btCheckError error ≠ .ok then (s, .returns (btCheckError error))
    else ({ s with hciState := .idle }, .returns .ok)

/-- `bt_stop_bond`: the state is idle also where `CancelPairing` fails. -/
def btStopBond (address : List Char) (objects : Bool) (error : Option BusError) (s : State) : State × Output :=
  match s.device objects address with
  | none => (s, .returns .btError)
  | some _ => ({ s with hciState := .idle }, .returns (btCheckError error))

/-- `bt_connect_callback` and `bt_bond_callback`. -/
def callback (method : Method) (ok : Bool) (s : State) : State × Output :=
  match method.purpose with
  | .connection => ({ s with hciState := if ok then .connected else .idle }, ⟨none, [.connect ok], none⟩)
  | .bond => ({ s with hciState := if ok then .paired else .idle }, ⟨none, [.bond ok], none⟩)

/-- `_device_properties_changed`, where it reads `Connected` or `Paired`. -/
def devicePropertiesChanged (report : Report) (s : State) : Output := ⟨none, if s.hciState = .idle then [report] else [], none⟩

/-! ## Steps -/

/-- A call, the callback of the `i`-th attempt, a signal, or a change of the devices on the bus. -/
inductive Input where
  | connect (address : List Char) (answers : Answers)
  | connectProfile (address uuid : List Char) (answers : Answers)
  | disconnect (address : List Char) (objects : Bool) (error : Option BusError)
  | startBond (address : List Char) (answers : Answers)
  | stopBond (address : List Char) (objects : Bool) (error : Option BusError)
  | completes (i : Nat) (ok : Bool)
  | signal (report : Report)
  | bus (devices : List Device)

inductive Fault where
  | notDispatched
deriving DecidableEq

/-- The callback of the `i`-th attempt, once. -/
def completes (i : Nat) (ok : Bool) (s : State) : Except Fault (State × Output) :=
  match s.pending[i]? with
  | none => .error .notDispatched
  | some attempt => .ok (callback attempt.1 ok { s with pending := s.pending.eraseIdx i })

def step : Input → State → Except Fault (State × Output)
  | .connect address answers, s => .ok (btConnect address answers s)
  | .connectProfile address uuid answers, s => .ok (btConnectProfile address uuid answers s)
  | .disconnect address objects error, s => .ok (btDisconnect address objects error s)
  | .startBond address answers, s => .ok (btStartBond address answers s)
  | .stopBond address objects error, s => .ok (btStopBond address objects error s)
  | .completes i ok, s => completes i ok s
  | .signal report, s => .ok (s, devicePropertiesChanged report s)
  | .bus devices, s => .ok ({ s with devices := devices }, ⟨none, [], none⟩)

/-- What the attempt of a call is for. -/
def Input.purpose : Input → Option Purpose
  | .connect _ _ | .connectProfile _ _ _ => some .connection
  | .startBond _ _ => some .bond
  | _ => none

/-! ## The law -/

/-- The device of an address is there and connected. -/
def State.Connected (address : List Char) (s : State) : Prop := ∃ d, s.device true address = some d ∧ d.connected = true

/-- The device of an address is there and paired. -/
def State.Paired (address : List Char) (s : State) : Prop := ∃ d, s.device true address = some d ∧ d.paired = true

/-- **The law of a call**: `bt_connect` and `bt_start_bond` report what they do not ask for only of a device
of which it is so, and `E_IN_PROGRESS` means that an attempt of the same kind is pending. -/
structure PerDevice (c : Call Input State Output) : Prop where
  connects : ∀ address answers, c.input = .connect address answers → .connect true ∈ c.output.reports →
    c.output.issued = none → c.before.Connected address
  bonds : ∀ address answers, c.input = .startBond address answers → .bond true ∈ c.output.reports →
    c.output.issued = none → c.before.Paired address
  inProgress : c.output.code = some .inProgress → ∃ a ∈ c.before.pending, some a.1.purpose = c.input.purpose

/-- `bt_connect` in the state `CONNECTED` is for a connected device, `bt_start_bond` in the state `PAIRED`
for a paired one. -/
def Input.Fits : Input → State → Prop
  | .connect address _, s => s.hciState = .connected → s.Connected address
  | .startBond address _, s => s.hciState = .paired → s.Paired address
  | _, _ => True

/-- What the state says is pending is. -/
structure State.Kept (s : State) : Prop where
  connecting : s.hciState = .connecting → ∃ a ∈ s.pending, a.1.purpose = .connection
  pairing : s.hciState = .pairing → ∃ a ∈ s.pending, a.1.purpose = .bond

theorem State.Kept.init : State.init.Kept := ⟨nofun, nofun⟩

variable {s s' : State} {o : Output} {address : List Char} {answers : Answers}

/-- Where nothing is said to be pending, the invariant holds. -/
theorem State.Kept.of_neither (connecting : s.hciState ≠ .connecting) (pairing : s.hciState ≠ .pairing) : s.Kept :=
  ⟨fun state => absurd state connecting, fun state => absurd state pairing⟩

theorem device_known {objects : Bool} {d : Device} (found : s.device objects address = some d) : s.device true address = some d := by
  cases objects with
  | true => exact found
  | false => cases found

/-! ## Calls against the law -/

/-- The ways through `bt_connect` and `bt_connect_profile`. -/
inductive Connects (method : Method) (address : List Char) (s : State) : State → Output → Prop where
  | inProgress : s.hciState = .connecting → Connects method address s s (.returns .inProgress)
  | assumed : s.hciState = .connected → Connects method address s s ⟨some .ok, [.connect true], none⟩
  | unknown : s.hciState ≠ .connected → Connects method address s s (.returns .btError)
  | already : s.hciState ≠ .connected → s.Connected address → Connects method address s s ⟨some .ok, [.connect true], none⟩
  | issued : s.hciState ≠ .connected →
      Connects method address s { s with hciState := .connecting, pending := s.pending ++ [(method, address)] } ⟨some .ok, [], some method⟩

theorem connectBy_connects {method : Method} (result : connectBy method address answers s = (s', o)) : Connects method address s s' o := by
  unfold connectBy at result
  split at result
  · rename_i connecting
    cases result
    exact .inProgress connecting
  · split at result
    · rename_i connected
      cases result
      exact .assumed connected
    · rename_i other
      split at result
      · cases result
        exact .unknown other
      · rename_i d found
        split at result
        · rename_i already
          cases result
          exact .already other ⟨d, device_known found, (Bool.and_eq_true_iff.1 already.2).2⟩
        · cases result
          exact .issued other

theorem Connects.kept {method : Method} (way : Connects method address s s' o) (purpose : method.purpose = .connection)
    (kept : s.Kept) : s'.Kept := by
  cases way with
  | issued =>
    refine ⟨fun _ => ⟨(method, address), List.mem_append_right _ (List.mem_singleton_self _), purpose⟩, fun state => ?_⟩
    cases state
  | _ => exact kept

/-- `E_IN_PROGRESS` of a connection is of a connection that is pending. -/
theorem Connects.inProgress_pending {method : Method} (way : Connects method address s s' o) (kept : s.Kept)
    (code : o.code = some .inProgress) : ∃ a ∈ s.pending, a.1.purpose = .connection := by
  cases way with
  | inProgress connecting => exact kept.connecting connecting
  | assumed | unknown | already | issued => cases code

/-- The ways through `bt_start_bond`. -/
inductive Bonds (address : List Char) (s : State) : State → Output → Prop where
  | inProgress : s.hciState = .pairing → Bonds address s s (.returns .inProgress)
  | assumed : s.hciState = .paired → Bonds address s s ⟨some .ok, [.bond true], none⟩
  | unknown : s.hciState ≠ .paired → Bonds address s s (.returns .btError)
  | already : s.hciState ≠ .paired → s.Paired address → Bonds address s s ⟨some .ok, [.bond true], none⟩
  | issued : s.hciState ≠ .paired →
      Bonds address s { s with hciState := .pairing, pending := s.pending ++ [(.pair, address)] } ⟨some .ok, [], some .pair⟩

theorem btStartBond_bonds (result : btStartBond address answers s = (s', o)) : Bonds address s s' o := by
  unfold btStartBond at result
  split at result
  · rename_i pairing
    cases result
    exact .inProgress pairing
  · split at result
    · rename_i paired
      cases result
      exact .assumed paired
    · rename_i other
      split at result
      · cases result
        exact .unknown other
      · rename_i d found
        split at result
        · rename_i already
          cases result
          exact .already other ⟨d, device_known found, (Bool.and_eq_true_iff.1 already).2⟩
        · cases result
          exact .issued other

theorem Bonds.kept (way : Bonds address s s' o) (kept : s.Kept) : s'.Kept := by
  cases way with
  | issued =>
    refine ⟨fun state => ?_, fun _ => ⟨(.pair, address), List.mem_append_right _ (List.mem_singleton_self _), rfl⟩⟩
    cases state
  | _ => exact kept

/-- `E_IN_PROGRESS` of a bond is of a bond that is pending. -/
theorem Bonds.inProgress_pending (way : Bonds address s s' o) (kept : s.Kept) (code : o.code = some .inProgress) :
    ∃ a ∈ s.pending, a.1.purpose = .bond := by
  cases way with
  | inProgress pairing => exact kept.pairing pairing
  | assumed | unknown | already | issued => cases code

/-- A connect reports of its own device unless the state is that of another one. -/
theorem Connects.reports_iff {method : Method} (way : Connects method address s s' o) :
    (.connect true ∈ o.reports → o.issued = none → s.Connected address) ↔ (s.hciState = .connected → s.Connected address) := by
  cases way with
  | inProgress connecting => exact iff_of_true nofun fun connected => by cases connecting.symm.trans connected
  | assumed connected => exact ⟨fun law _ => law (List.mem_singleton_self _) rfl, fun fits _ _ => fits connected⟩
  | unknown other => exact iff_of_true nofun fun connected => absurd connected other
  | already other connected => exact iff_of_true (fun _ _ => connected) fun _ => connected
  | issued other => exact iff_of_true nofun fun connected => absurd connected other

/-- So does a bond. -/
theorem Bonds.reports_iff (way : Bonds address s s' o) :
    (.bond true ∈ o.reports → o.issued = none → s.Paired address) ↔ (s.hciState = .paired → s.Paired address) := by
  cases way with
  | inProgress pairing => exact iff_of_true nofun fun paired => by cases pairing.symm.trans paired
  | assumed paired => exact ⟨fun law _ => law (List.mem_singleton_self _) rfl, fun fits _ _ => fits paired⟩
  | unknown other => exact iff_of_true nofun fun paired => absurd paired other
  | already other paired => exact iff_of_true (fun _ _ => paired) fun _ => paired
  | issued other => exact iff_of_true nofun fun paired => absurd paired other

/-! ## Other calls -/

/-- No error of the bus is `E_IN_PROGRESS`. -/
theorem btCheckError_ne (error : Option BusError) : btCheckError error ≠ .inProgress := by
  rcases error with - | - | - <;> decide

theorem btDisconnect_spec {objects : Bool} {error : Option BusError} (kept : s.Kept)
    (result : btDisconnect address objects error s = (s', o)) : s'.Kept ∧ o.code ≠ some .inProgress := by
  unfold btDisconnect at result
  split at result
  · cases result
    exact ⟨kept, nofun⟩
  · split at result
    · cases result
      exact ⟨kept, fun code => btCheckError_ne error (Option.some.inj code)⟩
    · cases result
      exact ⟨.of_neither nofun nofun, nofun⟩

theorem btStopBond_spec {objects : Bool} {error : Option BusError} (kept : s.Kept)
    (result : btStopBond address objects error s = (s', o)) : s'.Kept ∧ o.code ≠ some .inProgress := by
  unfold btStopBond at result
  split at result
  · cases result
    exact ⟨kept, nofun⟩
  · cases result
    exact ⟨.of_neither nofun nofun, fun code => btCheckError_ne error (Option.some.inj code)⟩

/-- A completion ends what the state says is pending. -/
theorem completes_spec {i : Nat} {ok : Bool} (answered : completes i ok s = .ok (s', o)) : s'.Kept ∧ o.code = none := by
  unfold completes at answered
  split at answered
  · cases answered
  · rename_i attempt _
    have result := Except.ok.inj answered
    unfold callback at result
    split at result
    · cases result
      exact ⟨by cases ok <;> exact .of_neither nofun nofun, rfl⟩
    · cases result
      exact ⟨by cases ok <;> exact .of_neither nofun nofun, rfl⟩

/-! ## Runs -/

theorem step_kept {input : Input} (kept : s.Kept) (answered : step input s = .ok (s', o)) : s'.Kept := by
  cases input with
  | connect address answers => exact (connectBy_connects (Except.ok.inj answered)).kept rfl kept
  | connectProfile address uuid answers => exact (connectBy_connects (Except.ok.inj answered)).kept rfl kept
  | disconnect address objects error => exact (btDisconnect_spec kept (Except.ok.inj answered)).1
  | startBond address answers => exact (btStartBond_bonds (Except.ok.inj answered)).kept kept
  | stopBond address objects error => exact (btStopBond_spec kept (Except.ok.inj answered)).1
  | completes i ok => exact (completes_spec answered).1
  | signal report =>
    cases answered
    exact kept
  | bus devices =>
    cases answered
    exact ⟨kept.connecting, kept.pairing⟩

/-- `E_IN_PROGRESS` always is of an attempt of the same kind that is pending. -/
theorem step_inProgress {input : Input} (kept : s.Kept) (answered : step input s = .ok (s', o)) (code : o.code = some .inProgress) :
    ∃ a ∈ s.pending, some a.1.purpose = input.purpose := by
  have of_purpose {purpose : Purpose} (same : input.purpose = some purpose) (pending : ∃ a ∈ s.pending, a.1.purpose = purpose) :
      ∃ a ∈ s.pending, some a.1.purpose = input.purpose := by
    obtain ⟨a, member, its⟩ := pending
    exact ⟨a, member, by rw [same, its]⟩
  cases input with
  | connect address answers => exact of_purpose rfl ((connectBy_connects (Except.ok.inj answered)).inProgress_pending kept code)
  | connectProfile address uuid answers => exact of_purpose rfl ((connectBy_connects (Except.ok.inj answered)).inProgress_pending kept code)
  | disconnect address objects error => exact absurd code (btDisconnect_spec kept (Except.ok.inj answered)).2
  | startBond address answers => exact of_purpose rfl ((btStartBond_bonds (Except.ok.inj answered)).inProgress_pending kept code)
  | stopBond address objects error => exact absurd code (btStopBond_spec kept (Except.ok.inj answered)).2
  | completes i ok => cases (completes_spec answered).2.symm.trans code
  | signal report =>
    cases answered
    cases code
  | bus devices =>
    cases answered
    cases code

/-- A call has the law exactly when it fits. -/
theorem step_exact {input : Input} (kept : s.Kept) (answered : step input s = .ok (s', o)) :
    PerDevice ⟨s, input, s', o⟩ ↔ input.Fits s := by
  have progress := step_inProgress kept answered
  cases input with
  | connect address answers =>
    refine Iff.trans ⟨fun law => law.connects address answers rfl, fun reports => ⟨?_, nofun, progress⟩⟩
      (connectBy_connects (Except.ok.inj answered)).reports_iff
    rintro _ _ ⟨⟩
    exact reports
  | startBond address answers =>
    refine Iff.trans ⟨fun law => law.bonds address answers rfl, fun reports => ⟨nofun, ?_, progress⟩⟩
      (btStartBond_bonds (Except.ok.inj answered)).reports_iff
    rintro _ _ ⟨⟩
    exact reports
  | _ => exact iff_of_true ⟨nofun, nofun, progress⟩ trivial

/-- **Per device.** In a run of calls on any devices, completions in any order and changes of the bus,
every call has the law exactly when no `bt_connect` finds `CONNECTED` for a device that is not, and no
`bt_start_bond` finds `PAIRED` for a device that is not. -/
theorem perDevice_iff {calls : List (Call Input State Output)} (run : Run step .init calls s) :
    (∀ c ∈ calls, PerDevice c) ↔ ∀ c ∈ calls, c.input.Fits c.before :=
  Run.fits_iff (I := State.Kept) (fun _ _ _ _ kept answered => step_exact kept answered)
    (fun _ _ _ _ kept _ answered => step_kept kept answered) run .init

/-- Two devices, of which the first one is connected or not. -/
def twoDevices (connected : Bool) : Input := .bus [⟨['a'], connected, false⟩, ⟨['b'], false, false⟩]

/-- A device is connected, then another one is paired. -/
theorem perDevice_twoDevices : ∃ calls s, Run step .init calls s ∧ calls.length = 5 ∧
    ((∀ c ∈ calls, PerDevice c) ↔ ∀ c ∈ calls, c.input.Fits c.before) := by
  have computed : execTest step
      [twoDevices false, .connect ['A'] ⟨true, true⟩, .completes 0 true, .startBond ['b'] ⟨true, true⟩, .completes 0 true] .init
      (fun _ => true) = true := by
    decide
  obtain ⟨calls, s, run, inputs, -⟩ := execTest_run computed
  exact ⟨calls, s, run, by simpa using congrArg List.length inputs, perDevice_iff run⟩

/-- While one device is connected, another one is reported connected. -/
theorem otherDevice_reported : ¬ ∀ calls s, Run step .init calls s → ∀ c ∈ calls, PerDevice c := by
  intro all
  have computed : execTest step
      [twoDevices false, .connect ['a'] ⟨true, true⟩, twoDevices true, .completes 0 true, .connect ['b'] ⟨true, true⟩] .init
      (fun calls => calls.any fun c =>
        match c.input with
        | .connect address _ => c.output == ⟨some .ok, [.connect true], none⟩ &&
            !((c.before.device true address).any fun d => d.connected)
        | _ => false) = true := by
    decide
  obtain ⟨calls, s, run, -, wrong⟩ := execTest_run computed
  obtain ⟨c, member, wrong⟩ := List.any_eq_true.1 wrong
  split at wrong
  · rename_i address answers input
    rw [Bool.and_eq_true, beq_iff_eq, Bool.not_eq_true'] at wrong
    have law := (all calls s run c member).connects address answers input
    rw [wrong.1] at law
    obtain ⟨d, found, connected⟩ := law (List.mem_singleton_self _) rfl
    rw [found, Option.any_some] at wrong
    exact absurd (connected.symm.trans wrong.2) (by decide)
  · cases wrong

end ArtikSdk.Bluetooth.Devices
