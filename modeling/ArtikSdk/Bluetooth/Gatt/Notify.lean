import ArtikSdk.Bluetooth.Gatt.Resolve
import ArtikSdk.Bluetooth.HeartRate
import ArtikSdk.Lib.Run

/-!
# GATT client: notifications

`bt_gatt_start_notify` registers a path, `bt_gatt_stop_notify` takes away every registration with
the UUID of its characteristic, and a signal looks for its path. Values of the heart rate
measurement go another way, whether they are registered or not.
-/

namespace ArtikSdk.Bluetooth.Gatt.Notify
open Lib Objects HeartRate

/-- `bt_gatt_client` -/
structure BtGattClient where
  srvUuid : String
  charUuid : String
  path : String
deriving DecidableEq

/-- `UUID_HEART_RATE_MEASUREMENT` -/
def uuidHeartRateMeasurement : String := "00002a37-0000-1000-8000-00805f9b34fb"

/-- `hci.gatt_clients`. What is not in the program are the UUIDs of the service and of the
characteristic with which each path was started, where the last call for it was a start. -/
structure State where
  clients : List BtGattClient
  started : String → Option (String × String)

def State.init : State := ⟨[], fun _ => none⟩

/-- What `_user_callback` is called with: `BT_EVENT_PF_CUSTOM` and `BT_EVENT_PF_HEARTRATE`. -/
inductive Report where
  | custom (srvUuid charUuid : String) (bytes : List Byte)
  | heartRate (data : ArtikBtHrpData)
deriving DecidableEq

inductive Fault where
  | nullPointer
  | noAnswer
  | outside
deriving DecidableEq

/-- The properties of a signal that a value has changed. -/
structure ValueChanged where
  properties : List (String × List Byte)
  value : List Byte
  keys : (properties.map Prod.fst).Nodup
  changed : ("Value", value) ∈ properties

/-- A call, with the objects that BlueZ has then; a signal, with the answer to `Get` of the UUID. -/
inductive Input where
  | startNotify (objects : ManagedObjects) (addr srvUuid charUuid : String)
  | stopNotify (objects : ManagedObjects) (addr srvUuid charUuid : String)
  | signal (path : String) (uuid : Option String) (changed : ValueChanged)

structure Output where
  code : Option ArtikError
  reports : List Report
deriving DecidableEq

section
variable (names : AssignedNumbers)

/-- What `bt_gatt_start_notify` and `bt_gatt_stop_notify` do on the path that they find. -/
def onCharacteristic (objects : ManagedObjects) (addr srvUuid charUuid : String) (s : State) (call : String → State) :
    Except Fault (State × Output) :=
  match Resolve.charPath names addr srvUuid charUuid objects.objects with
  | .error _ => .error .nullPointer
  | .ok none => .ok (s, ⟨some .btError, []⟩)
  | .ok (some path) => .ok (call path, ⟨some .ok, []⟩)

/-- `bt_gatt_start_notify` -/
def btGattStartNotify (objects : ManagedObjects) (addr srvUuid charUuid : String) (s : State) : Except Fault (State × Output) :=
  onCharacteristic names objects addr srvUuid charUuid s fun path =>
    ⟨s.clients ++ [⟨srvUuid, charUuid, path⟩], Function.update s.started path (some (srvUuid, charUuid))⟩

/-- `_remove_notify`, from inside the walk over the list. -/
def removeNotify (charUuid : String) (clients : List BtGattClient) (client : BtGattClient) : List BtGattClient :=
  if client.charUuid ≠ charUuid then clients else clients.erase client

/-- `bt_gatt_stop_notify` -/
def btGattStopNotify (objects : ManagedObjects) (addr srvUuid charUuid : String) (s : State) : Except Fault (State × Output) :=
  onCharacteristic names objects addr srvUuid charUuid s fun path =>
    ⟨s.clients.foldl (removeNotify charUuid) s.clients, Function.update s.started path none⟩

/-- `_on_gatt_data_received` -/
def onGattDataReceived (properties : List (String × List Byte)) (client : BtGattClient) : Except Fault (List Report) :=
  match properties with
  | [] => .error .outside
  | (key, v) :: _ => .ok (if key ≠ "Value" then [] else [.custom client.srvUuid client.charUuid v])

/-- `_gatt_properties_changed`: an error of `Get` is not looked at. -/
def gattPropertiesChanged (path : String) (uuid : Option String) (properties : List (String × List Byte)) (s : State) :
    Except Fault (List Report) :=
  match uuid with
  | none => .error .noAnswer
  | some uuid =>
    if uuid = uuidHeartRateMeasurement then
      match onHrpMeasurementReceived properties with
      | .error _ => .error .outside
      | .ok data => .ok (data.map Report.heartRate).toList
    else
      match s.clients.find? fun client => client.path = path with
      | none => .ok []
      | some client => onGattDataReceived properties client

def step : Input → State → Except Fault (State × Output)
  | .startNotify objects addr srvUuid charUuid, s => btGattStartNotify names objects addr srvUuid charUuid s
  | .stopNotify objects addr srvUuid charUuid, s => btGattStopNotify names objects addr srvUuid charUuid s
  | .signal path uuid changed, s =>
    (gattPropertiesChanged path uuid changed.properties s).map fun reports => (s, ⟨none, reports⟩)

/-- A path has the registration of its start, and none where the last call for it was a stop. -/
def State.Registers (s : State) : Prop :=
  ∀ p, s.clients.find? (fun client => client.path = p) = (s.started p).map fun u => ⟨u.1, u.2, p⟩

/-- The report of a signal, where the last call for its path was a start. -/
def expected (s : State) (path : String) (value : List Byte) : List Report :=
  ((s.started path).map fun u => .custom u.1 u.2 value).toList

/-- **The law**: a signal is reported as expected, and behind every call each path that is started has
its own registration, and no other path has one. -/
def Law (c : Call Input State Output) : Prop :=
  match c.input with
  | .startNotify .. => c.after.Registers
  | .stopNotify .. => c.after.Registers
  | .signal p _ changed => c.output.reports = expected c.before p changed.value

/-- The lookup of the path does not fault, and what it finds fits. -/
def PathFits (objects : ManagedObjects) (addr srvUuid charUuid : String) (fits : String → Prop) : Prop :=
  match Resolve.charPath names addr srvUuid charUuid objects.objects with
  | .error _ => False
  | .ok none => True
  | .ok (some path) => fits path

/-- Where the law holds: a path is not started twice with different UUIDs, nor stopped with another
one, and no other path with the same UUID is started when one is stopped; a signal of a started
path has its value first; and one of a heart rate is not started, and not decoded. -/
def Fits (e : Input) (s : State) : Prop :=
  match e with
  | .startNotify objects addr srvUuid charUuid =>
    PathFits names objects addr srvUuid charUuid fun p => ∀ u ∈ s.started p, u = (srvUuid, charUuid)
  | .stopNotify objects addr srvUuid charUuid =>
    PathFits names objects addr srvUuid charUuid fun p => ∀ q, ∀ u ∈ s.started q, (u.2 = charUuid ↔ q = p)
  | .signal _ none _ => False
  | .signal p (some uuid) changed =>
    if uuid = uuidHeartRateMeasurement then s.started p = none ∧ onHrpMeasurementReceived changed.properties = .ok none
    else s.started p ≠ none → changed.properties.head? = some ("Value", changed.value)

end

/-- The registrations are those of the started paths. -/
structure Registered (s : State) : Prop where
  own : ∀ client ∈ s.clients, s.started client.path = some (client.srvUuid, client.charUuid)
  there : ∀ p, ∀ u ∈ s.started p, ⟨u.1, u.2, p⟩ ∈ s.clients

variable {names : AssignedNumbers} {s s' : State} {o : Output} {p srvUuid charUuid : String}

/-! ## Removing -/

/-- The walk takes away what it finds, although the list changes under it. -/
theorem foldl_removeNotify (charUuid : String) (kept rest : List BtGattClient)
    (others : ∀ client ∈ kept, client.charUuid ≠ charUuid) :
    rest.foldl (removeNotify charUuid) (kept ++ rest) = kept ++ rest.filter fun client => client.charUuid ≠ charUuid := by
  induction rest generalizing kept with
  | nil => rfl
  | cons client rest ih =>
    rw [List.foldl_cons, removeNotify]
    by_cases other : client.charUuid ≠ charUuid
    · have grown := ih (kept ++ [client]) (by
        rw [List.forall_mem_append, List.forall_mem_singleton]
        exact ⟨others, other⟩)
      rw [List.append_assoc, List.append_assoc] at grown
      rw [if_pos other, List.filter_cons, if_pos (decide_eq_true other)]
      exact grown
    · have absent : client ∉ kept := fun member => other (others client member)
      rw [if_neg other, List.filter_cons, if_neg (by simpa using other), List.erase_append_right _ absent, List.erase_cons_head]
      exact ih kept others

theorem removed_eq (charUuid : String) (clients : List BtGattClient) :
    clients.foldl (removeNotify charUuid) clients = clients.filter fun client => client.charUuid ≠ charUuid :=
  foldl_removeNotify charUuid [] clients nofun

/-! ## Registrations -/

theorem Registered.init : Registered State.init :=
  ⟨fun _ member => (by cases member), fun _ _ started => (by cases started)⟩

/-- All registrations of a path are the same. -/
theorem Registered.registers (registered : Registered s) : s.Registers := by
  intro p
  cases found : s.clients.find? fun client => client.path = p with
  | none =>
    rw [List.find?_eq_none] at found
    cases started : s.started p with
    | none => rfl
    | some u => exact absurd (decide_eq_true rfl) (found _ (registered.there p u started))
  | some client =>
    have same : client.path = p := by simpa using List.find?_some found
    have own := registered.own client (List.mem_of_find?_eq_some found)
    rw [same] at own
    rw [own, Option.map_some, ← same]

/-- A path that is not started has no registration. -/
theorem State.Registers.absent (registers : s.Registers) (off : s.started p = none) : ∀ client ∈ s.clients, client.path ≠ p := by
  have here := registers p
  rw [off, Option.map_none, List.find?_eq_none] at here
  exact fun client member same => here client member (decide_eq_true same)

theorem Registered.start (registered : Registered s) (fits : ∀ u ∈ s.started p, u = (srvUuid, charUuid)) :
    Registered ⟨s.clients ++ [⟨srvUuid, charUuid, p⟩], Function.update s.started p (some (srvUuid, charUuid))⟩ := by
  constructor
  · intro client member
    obtain old | new := List.mem_append.1 member
    · have own := registered.own client old
      by_cases same : client.path = p
      · rw [same] at own
        have again := fits _ own
        rw [same, again]
        exact Function.update_self ..
      · exact (Function.update_of_ne same ..).trans own
    · obtain rfl := List.mem_singleton.1 new
      exact Function.update_self ..
  · intro q u started
    dsimp only [Option.mem_def] at started
    by_cases same : q = p
    · subst same
      rw [Function.update_self] at started
      obtain rfl := Option.some.inj started
      exact List.mem_append_right _ (List.mem_singleton_self _)
    · rw [Function.update_of_ne same] at started
      exact List.mem_append_left _ (registered.there q u started)

/-- The first registration of a path counts. -/
theorem start_exact (registered : Registered s) :
    State.Registers ⟨s.clients ++ [⟨srvUuid, charUuid, p⟩], Function.update s.started p (some (srvUuid, charUuid))⟩ ↔
      ∀ u ∈ s.started p, u = (srvUuid, charUuid) := by
  constructor
  · intro registers u started
    have before := registered.registers p
    rw [Option.mem_def.1 started] at before
    have here := registers p
    dsimp only at here
    rw [List.find?_append, before, Function.update_self] at here
    have same : BtGattClient.mk u.1 u.2 p = ⟨srvUuid, charUuid, p⟩ := Option.some.inj here
    exact Prod.ext (congrArg BtGattClient.srvUuid same) (congrArg BtGattClient.charUuid same)
  · exact fun fits => (registered.start fits).registers

theorem Registered.stop (registered : Registered s) (fits : ∀ q, ∀ u ∈ s.started q, (u.2 = charUuid ↔ q = p)) :
    Registered ⟨s.clients.filter fun client => client.charUuid ≠ charUuid, Function.update s.started p none⟩ := by
  constructor
  · intro client member
    rw [List.mem_filter, decide_eq_true_iff] at member
    have own := registered.own client member.1
    have other : client.path ≠ p := fun same => member.2 ((fits _ _ own).2 same)
    exact (Function.update_of_ne other ..).trans own
  · intro q u started
    dsimp only [Option.mem_def] at started
    by_cases same : q = p
    · subst same
      rw [Function.update_self] at started
      cases started
    · rw [Function.update_of_ne same] at started
      have other : u.2 ≠ charUuid := fun shared => same ((fits q u started).1 shared)
      exact List.mem_filter.2 ⟨registered.there q u started, decide_eq_true other⟩

/-- A registration that is taken away is one of the path, and the other way round. -/
theorem stop_exact (registered : Registered s) :
    State.Registers ⟨s.clients.filter fun client => client.charUuid ≠ charUuid, Function.update s.started p none⟩ ↔
      ∀ q, ∀ u ∈ s.started q, (u.2 = charUuid ↔ q = p) := by
  constructor
  · intro registers q u started
    constructor
    · intro shared
      by_contra other
      have here := registers q
      dsimp only at here
      rw [Function.update_of_ne other, Option.mem_def.1 started] at here
      have kept := (List.mem_filter.1 (List.mem_of_find?_eq_some here)).2
      exact of_decide_eq_true kept shared
    · intro same
      subst same
      by_contra other
      have kept : ⟨u.1, u.2, q⟩ ∈ s.clients.filter fun client => client.charUuid ≠ charUuid :=
        List.mem_filter.2 ⟨registered.there q u started, decide_eq_true other⟩
      exact registers.absent (Function.update_self ..) _ kept rfl
  · exact fun fits => (registered.stop fits).registers

/-! ## Signals -/

theorem received_eq (changed : ValueChanged) (client : BtGattClient) :
    onGattDataReceived changed.properties client =
      .ok (if changed.properties.head? = some ("Value", changed.value) then
        [.custom client.srvUuid client.charUuid changed.value]
      else []) := by
  obtain ⟨properties, value, keys, member⟩ := changed
  cases properties with
  | nil => cases member
  | cons property properties =>
    obtain ⟨key, v⟩ := property
    rw [onGattDataReceived]
    by_cases first : key = "Value"
    · subst first
      have same : v = value := by
        obtain here | later := List.mem_cons.1 member
        · exact (congrArg Prod.snd here).symm
        · exact absurd (List.mem_map_of_mem later) (List.nodup_cons.1 keys).1
      subst same
      simp
    · simp [first]

/-- A signal whose value comes first is reported by the registration of its path. -/
theorem signal_eq (registered : Registered s) (path : String) {uuid : String} (changed : ValueChanged)
    (other : uuid ≠ uuidHeartRateMeasurement) :
    gattPropertiesChanged path (some uuid) changed.properties s =
      .ok (if changed.properties.head? = some ("Value", changed.value) then expected s path changed.value else []) := by
  rw [gattPropertiesChanged]
  rw [if_neg other, registered.registers path, expected]
  cases s.started path with
  | none => exact congrArg Except.ok (ite_self _).symm
  | some u => exact received_eq changed _

theorem signal_exact (registered : Registered s) (path : String) {uuid : String} (changed : ValueChanged)
    (other : uuid ≠ uuidHeartRateMeasurement) :
    gattPropertiesChanged path (some uuid) changed.properties s = .ok (expected s path changed.value) ↔
      (s.started path ≠ none → changed.properties.head? = some ("Value", changed.value)) := by
  rw [signal_eq registered path changed other, Except.ok.injEq, ite_eq_left_iff]
  constructor
  · intro later started
    by_contra behind
    have none := later behind
    rw [expected, eq_comm, Option.toList_eq_nil_iff, Option.map_eq_none_iff] at none
    exact started none
  · intro fits behind
    have off := not_imp_not.2 fits behind
    rw [not_not] at off
    rw [expected, off]
    rfl

/-- A signal of a heart rate is reported as one, or not at all. -/
theorem heartRate_exact (path : String) (changed : ValueChanged) :
    gattPropertiesChanged path (some uuidHeartRateMeasurement) changed.properties s = .ok (expected s path changed.value) ↔
      s.started path = none ∧ onHrpMeasurementReceived changed.properties = .ok none := by
  rw [gattPropertiesChanged]
  rw [if_pos rfl, expected]
  cases onHrpMeasurementReceived changed.properties with
  | error _ => exact iff_of_false nofun fun fits => nomatch fits.2
  | ok data =>
    rw [Except.ok.injEq]
    cases data with
    | none => rw [and_iff_left rfl, eq_comm, Option.map_none, Option.toList_none, Option.toList_eq_nil_iff, Option.map_eq_none_iff]
    | some data =>
      refine iff_of_false ?_ fun fits => nomatch fits.2
      cases s.started path with
      | none => nofun
      | some u => exact fun same => nomatch (List.cons.inj same).1

/-! ## Runs -/

theorem call_exact {objects : ManagedObjects} {addr : String} {call : String → State} {fits : String → Prop}
    (registers : s.Registers) (exactly : ∀ path, (call path).Registers ↔ fits path) :
    (∃ s' o, onCharacteristic names objects addr srvUuid charUuid s call = .ok (s', o) ∧ s'.Registers) ↔
      PathFits names objects addr srvUuid charUuid fits := by
  rw [onCharacteristic, PathFits]
  cases Resolve.charPath names addr srvUuid charUuid objects.objects with
  | error f => exact iff_of_false (fun ⟨_, _, answered, _⟩ => nomatch answered) id
  | ok found =>
    cases found with
    | none => exact iff_of_true ⟨s, _, rfl, registers⟩ trivial
    | some path =>
      dsimp only
      rw [← exactly]
      constructor
      · rintro ⟨s', o, answered, law⟩
        cases answered
        exact law
      · exact fun law => ⟨call path, _, rfl, law⟩

theorem call_registered {objects : ManagedObjects} {addr : String} {call : String → State} {fits : String → Prop}
    (registered : Registered s) (keep : ∀ path, fits path → Registered (call path)) (path : PathFits names objects addr srvUuid charUuid fits)
    (answered : onCharacteristic names objects addr srvUuid charUuid s call = .ok (s', o)) : Registered s' := by
  rw [onCharacteristic] at answered
  rw [PathFits] at path
  split at answered
  · cases answered
  · cases answered
    exact registered
  · rename_i found
    rw [found] at path
    cases answered
    exact keep _ path

theorem reports_iff {x : Except Fault (List Report)} {l : List Report} :
    (∃ s' o, x.map (fun reports => (s, Output.mk none reports)) = .ok (s', o) ∧ o.reports = l) ↔ x = .ok l := by
  cases x with
  | error f => exact iff_of_false (fun ⟨_, _, answered, _⟩ => nomatch answered) nofun
  | ok got =>
    rw [Except.ok.injEq]
    constructor
    · rintro ⟨s', o, answered, same⟩
      cases answered
      exact same
    · exact fun same => ⟨s, ⟨none, got⟩, rfl, same⟩

theorem step_exact (e : Input) (s : State) (registered : Registered s) :
    (∃ s' o, step names e s = .ok (s', o) ∧ Law ⟨s, e, s', o⟩) ↔ Fits names e s := by
  cases e with
  | startNotify objects addr srvUuid charUuid => exact call_exact registered.registers fun _ => start_exact registered
  | stopNotify objects addr srvUuid charUuid =>
    dsimp only [step, btGattStopNotify]
    rw [removed_eq]
    exact call_exact registered.registers fun _ => stop_exact registered
  | signal path uuid changed =>
    refine (reports_iff (x := gattPropertiesChanged path uuid changed.properties s) (l := expected s path changed.value)).trans ?_
    cases uuid with
    | none => exact iff_of_false nofun id
    | some uuid =>
      rw [Fits]
      by_cases heartRate : uuid = uuidHeartRateMeasurement
      · subst heartRate
        rw [if_pos rfl]
        exact heartRate_exact path changed
      · rw [if_neg heartRate]
        exact signal_exact registered path changed heartRate

theorem step_registered (e : Input) (s s' : State) (o : Output) (registered : Registered s) (fits : Fits names e s)
    (answered : step names e s = .ok (s', o)) : Registered s' := by
  cases e with
  | startNotify objects addr srvUuid charUuid => exact call_registered registered (fun _ => registered.start) fits answered
  | stopNotify objects addr srvUuid charUuid =>
    rw [step, btGattStopNotify, removed_eq] at answered
    exact call_registered registered (fun _ => registered.stop) fits answered
  | signal path uuid changed =>
    obtain ⟨reports, -, same⟩ := map_ok_iff.1 answered
    cases same
    exact registered

/-- In a run every signal is delivered exactly where the last call for its path was a start, and
every call leaves the registrations of the other paths in place, if and only if all steps fit. -/
theorem notify_iff (names : AssignedNumbers) (inputs : List Input) :
    (∃ cs s, exec (step names) inputs State.init = .ok (cs, s) ∧ ∀ c ∈ cs, Law c) ↔
      Along (Fits names) (step names) inputs State.init :=
  exec_along_iff step_exact step_registered .init

/-- An object with one interface, which has one property. -/
def single (path interface key : String) (value : Variant) : ManagedObject :=
  ⟨path, [(interface, [(key, value)])], List.nodup_singleton _, fun i member => by
    rw [List.mem_singleton.1 member]
    exact List.nodup_singleton _⟩

/-- Two devices with a battery level each. -/
def batteries : ManagedObjects where
  objects :=
    [single "/a" "org.bluez.Device1" "Address" (.string "A"),
      single "/a/s" "org.bluez.GattService1" "UUID" (.string "180f"),
      ⟨"/a/s/c", [("org.bluez.GattCharacteristic1", [("UUID", .string "2a19"), ("Service", .objectPath "/a/s")])], by decide,
        by decide⟩,
      single "/b" "org.bluez.Device1" "Address" (.string "B"),
      single "/b/s" "org.bluez.GattService1" "UUID" (.string "180f"),
      ⟨"/b/s/c", [("org.bluez.GattCharacteristic1", [("UUID", .string "2a19"), ("Service", .objectPath "/b/s")])], by decide,
        by decide⟩]
  paths := by decide

/-- When the notifications of one device are stopped, the other one's signal is not delivered. -/
theorem other_stopped :
    let changed : ValueChanged := ⟨[("Value", [80])], [80], by decide, by decide⟩
    let run := exec (step ⟨fun _ => "", fun _ => none⟩)
      [.startNotify batteries "A" "180f" "2a19", .startNotify batteries "B" "180f" "2a19", .stopNotify batteries "B" "180f" "2a19",
        .signal "/a/s/c" (some "2a19") changed] .init
    run.map (fun r => r.1.map fun c => (c.before.started "/a/s/c", c.output.reports)) =
        .ok [(none, []), (some ("180f", "2a19"), []), (some ("180f", "2a19"), []), (some ("180f", "2a19"), [])] ∧
      ¬∃ cs s, run = .ok (cs, s) ∧ ∀ c ∈ cs, Law c := by
  refine ⟨rfl, ?_⟩
  rintro ⟨cs, s, ran, law⟩
  cases ran
  have reports := law _ (List.mem_cons_of_mem _ (List.mem_cons_of_mem _ (List.mem_cons_of_mem _ List.mem_cons_self)))
  cases reports

end ArtikSdk.Bluetooth.Gatt.Notify
