import ArtikSdk.Lib.Alloc
import ArtikSdk.Lib.Run
import ArtikSdk.Base.Alarm

/-!
# Alarms on the loop

An alarm of `linux_time.c` is a record, and a timeout that the Linux loop was given for it. Alarms are
created and deleted, and timeouts fire, in any order. An id of a timeout is what `g_source_attach` picks.
-/

namespace ArtikSdk.Time
open Lib

/-- `artik_time_alarm_t`. `number` is not in the source: which creation allocated it. -/
structure AlarmData where
  alarm : Alarm
  func : Nat
  loop : Bool
  alarmId : Option Nat
  number : Nat

/-- A `GSource` with its `struct _timeout`. `number` is that of the record whose creation attached it. -/
structure Timeout where
  id : Nat
  msec : UInt32
  func : Nat
  userData : Nat
  number : Nat

/-- The records allocated, the timeouts attached, the requests of the loop module that were not released, and (not in the
source) how many records were ever allocated. -/
structure Alarms where
  record : Nat → Option AlarmData
  timeouts : List Timeout
  requested : Nat
  placed : Nat

def Alarms.init : Alarms := ⟨fun _ => none, [], 0, 0⟩

def Alarms.allocated (s : Alarms) (p : Nat) : Bool := (s.record p).isSome

def Alarms.attached (s : Alarms) (id : Nat) : Bool := s.timeouts.any fun x => x.id = id

/-- The clock, `malloc`, `artik_request_api_module("loop")`, `g_try_new0` and `g_source_attach`. -/
structure Env where
  clock : World
  record : Malloc
  loop : Bool
  timeout : Bool
  source : Malloc

/-- A NULL record is written or a date of the past is converted, GLib ends the program, what is not allocated is freed,
and a timeout cannot fire. -/
inductive Fault where
  | crashed
  | aborted
  | freed
  | idle
deriving DecidableEq

/-- `os_create_alarm_second` and `os_create_alarm_date` have their arguments in common. -/
structure Request where
  gmt : Int
  func : Nat
  userData : Nat
  time : UInt64 ⊕ ArtikTime

def Request.created (r : Request) (w : World) (p : Platform) : Option Created :=
  match r.time with
  | .inl second => osTimeCreateAlarmSecond r.gmt (r.func ≠ 0) second w p
  | .inr date => osTimeCreateAlarmDate r.gmt (r.func ≠ 0) date w p

/-- What `os_add_timeout_callback` returns. -/
def addTimeoutCode (func : Nat) (memory : Bool) : ArtikError :=
  if func = 0 then .badArgs else if memory = false then .noMem else .ok

/-- `os_add_timeout_callback`, with the `alarm_id` of a record as the place for the id. -/
def osAddTimeoutCallback (p : Nat) (r : AlarmData) (msec : UInt32) (userData : Nat) (env : Env) (s : Alarms) : Except Fault Alarms :=
  if addTimeoutCode r.func env.timeout ≠ .ok then .ok s
  else
    match env.source.pick s.attached with
    | none => .error .aborted
    | some id => .ok { s with
        record := Function.update s.record p (some { r with alarmId := some id })
        timeouts := s.timeouts ++ [⟨id, msec, r.func, userData, r.number⟩] }

/-- The record is allocated and the module requested. -/
def Alarms.place (p : Nat) (r : AlarmData) (s : Alarms) : Alarms where
  record := Function.update s.record p (some r)
  timeouts := s.timeouts
  requested := if r.loop then s.requested + 1 else s.requested
  placed := s.placed + 1

def createAlarm (r : Request) (env : Env) (s : Alarms) : Except Fault (Alarms × ArtikError) :=
  let block := env.record.pick s.allocated
  let loop := if env.loop then some fun _ => addTimeoutCode r.func env.timeout else none
  match r.created env.clock ⟨block.isSome, loop⟩ with
  | none => .error .crashed
  | some c =>
    match c.handle, block with
    | some alarm, some p =>
      let data : AlarmData := ⟨alarm, r.func, env.loop, none, s.placed⟩
      match c.armed with
      | none => .ok (s.place p data, c.code)
      | some msec => (osAddTimeoutCallback p data msec r.userData env (s.place p data)).map fun s' => (s', c.code)
    | _, _ => .ok (s, c.code)

def osTimeDeleteAlarm (handle : Option Nat) (s : Alarms) : Except Fault (Alarms × ArtikError) :=
  match handle with
  | none => .ok (s, .ok)
  | some p => if s.allocated p then .ok ({ s with record := Function.update s.record p none }, .ok) else .error .freed

/-- `_timeout_callback`: the function is called, and the source destroyed. -/
def fire (number : Nat) (s : Alarms) : Except Fault (Alarms × Timeout) :=
  match s.timeouts.find? fun x => x.number = number with
  | none => .error .idle
  | some x => .ok ({ s with timeouts := s.timeouts.filter fun x => x.number ≠ number }, x)

inductive Input where
  | create (r : Request) (env : Env)
  | delete (handle : Option Nat)
  | fire (number : Nat)

/-- What a call returns, or the function that is called. -/
inductive Output where
  | returned (code : ArtikError)
  | called (x : Timeout)

def step : Input → Alarms → Except Fault (Alarms × Output)
  | .create r env, s => (createAlarm r env s).map fun p => (p.1, .returned p.2)
  | .delete handle, s => (osTimeDeleteAlarm handle s).map fun p => (p.1, .returned p.2)
  | .fire number, s => (fire number s).map fun p => (p.1, .called p.2)

abbrev Event := Call Input Alarms Output

/-! ## What is expected -/

/-- The alarm `n` is deleted. -/
def Deletes (c : Event) (n : Nat) : Prop :=
  ∃ p r, c.input = .delete (some p) ∧ c.before.record p = some r ∧ r.number = n ∧ c.output = .returned .ok

/-- The function of the alarm `n` is called. -/
def Calls (c : Event) (n : Nat) : Prop := ∃ x, c.output = .called x ∧ x.number = n

/-- Nothing is called for an alarm after it was deleted. -/
def Silent (calls : List Event) : Prop := calls.Pairwise fun c d => ∀ n, Deletes c n → ¬ Calls d n

/-- A creation that fails leaves no record and no module. -/
def Clean (c : Event) : Prop :=
  ∀ r env code, c.input = .create r env → c.output = .returned code → code ≠ .ok →
    c.after.record = c.before.record ∧ c.after.requested = c.before.requested

/-- The arguments with which `os_time_create_alarm_second` comes to its record. -/
structure SecondAccepted (gmt : Int) (func : Bool) (second : UInt64) (w : World) : Prop where
  zone : 0 ≤ gmt ∧ gmt ≤ 12
  second : 0 ≤ int second.toUInt32
  func : func = true
  clock : 0 ≤ currInSec 0x01010101 gmt w

/-- The `date_in_sec` of `os_time_create_alarm_date`. -/
def dateInSec (date : ArtikTime) : Int :=
  let dateUsr := date.toTm
  let dateUsr := if dateUsr.tmYear > epochDef then { dateUsr with tmYear := dateUsr.tmYear - epochDef, tmMon := dateUsr.tmMon - 1 }
    else dateUsr
  mktime { dateUsr with tmYday := 0 }

/-- The arguments with which `os_time_create_alarm_date` comes to the call of `os_time_create_alarm_second`. -/
structure DateAccepted (gmt : Int) (func : Bool) (date : ArtikTime) (w : World) : Prop where
  zone : 0 ≤ gmt ∧ gmt ≤ 12
  set : osTimeStructEmpty date = .ok
  func : func = true
  second : 0 ≤ int date.second ∧ int date.second ≤ 59
  minute : 0 ≤ int date.minute ∧ int date.minute ≤ 59
  hour : 0 ≤ int date.hour ∧ int date.hour ≤ 23
  day : 1 ≤ int date.day ∧ int date.day ≤ 31
  month : 1 ≤ int date.month ∧ int date.month ≤ 12
  year : epochDef ≤ int date.year
  dayOfWeek : 0 ≤ int date.dayOfWeek ∧ int date.dayOfWeek ≤ 6
  msecond : 0 ≤ int date.msecond
  clock : 0 ≤ currInSec 0 gmt w
  inSec : 0 ≤ dateInSec date

/-- The seconds that `os_time_create_alarm_date` passes on. -/
def secondsTo (gmt : Int) (date : ArtikTime) (w : World) : UInt64 := UInt64.ofNat (dateInSec date - currInSec 0 gmt w).toNat

def Request.Accepted (r : Request) (w : World) : Prop :=
  match r.time with
  | .inl second => SecondAccepted r.gmt (r.func ≠ 0) second w
  | .inr date => DateAccepted r.gmt (r.func ≠ 0) date w ∧ SecondAccepted r.gmt (r.func ≠ 0) (secondsTo r.gmt date w) w

/-- The timeout of an alarm is still attached. -/
def Alarms.Pending (s : Alarms) (n : Nat) : Prop := ∃ x ∈ s.timeouts, x.number = n

/-- A creation with good arguments finds the loop module, and memory for a timeout; what is deleted is no longer
pending. -/
def Fits (input : Input) (s : Alarms) : Prop :=
  match input with
  | .create r env => r.Accepted env.clock → env.loop = true ∧ env.timeout = true
  | .delete (some p) => ∀ r, s.record p = some r → ¬ s.Pending r.number
  | _ => True

variable {s s' : Alarms} {w : World} {p : Platform} {gmt : Int} {func : Bool} {second : UInt64} {date : ArtikTime}

/-! ## Creations -/

/-- What comes of a record. -/
inductive Placed (p : Platform) : Created → Prop where
  | busy (alarm : Alarm) (absent : p.loop = none) : Placed p ⟨.busy, some alarm, none⟩
  | armed {add : UInt32 → ArtikError} (alarm : Alarm) (msec : UInt32) (loop : p.loop = some add) :
      Placed p ⟨add msec, some alarm, some msec⟩

theorem createSecond_accepted {c : Created} (accepted : SecondAccepted gmt func second w)
    (created : osTimeCreateAlarmSecond gmt func second w p = some c) : p.memory = true ∧ Placed p c := by
  obtain ⟨zone, low, given, clock⟩ := accepted
  rw [osTimeCreateAlarmSecond, if_neg (by omega), if_neg (by omega), if_neg (by rw [given]; decide)] at created
  dsimp only at created
  rw [if_neg (by omega)] at created
  split at created
  · rename_i memory
    refine ⟨memory, ?_⟩
    cases loop : p.loop with
    | none =>
      rw [loop] at created
      cases created
      exact .busy _ loop
    | some add =>
      rw [loop] at created
      cases created
      exact .armed _ _ loop
  · cases created

theorem createSecond_rejected (rejected : ¬ SecondAccepted gmt func second w) :
    osTimeCreateAlarmSecond gmt func second w p = some (refused .badArgs) := by
  rw [osTimeCreateAlarmSecond]
  by_cases zone : gmt < 0 ∨ gmt > 12
  · rw [if_pos zone]
  by_cases low : int second.toUInt32 < 0
  · rw [if_neg zone, if_pos low]
  cases given : func with
  | false => rw [if_neg zone, if_neg low, if_pos (by decide)]
  | true =>
    rw [if_neg zone, if_neg low, if_neg (by decide)]
    dsimp only
    rw [if_pos]
    by_contra clock
    exact rejected ⟨by omega, by omega, given, by omega⟩

theorem createDate_accepted (accepted : DateAccepted gmt func date w) :
    osTimeCreateAlarmDate gmt func date w p =
      if dateInSec date - currInSec 0 gmt w < 0 then none
      else osTimeCreateAlarmSecond gmt func (secondsTo gmt date w) w p := by
  obtain ⟨zone, set, given, second, minute, hour, day, month, year, dayOfWeek, msecond, clock, inSec⟩ := accepted
  rw [osTimeCreateAlarmDate, if_neg (by omega), if_neg (by rw [set]; decide), if_neg (by rw [given]; decide), if_neg (by omega),
    if_neg (by omega), if_neg (by omega), if_neg (by omega), if_neg (by omega), if_neg (by omega), if_neg (by omega),
    if_neg (by omega)]
  dsimp only
  rw [if_neg (by omega)]
  change (if dateInSec date < 0 then _ else _) = _
  rw [if_neg (by omega)]
  rfl

/-- A check in front of what is refused where it is passed. -/
theorem rejected_by {check : Prop} [Decidable check] {further : Option Created} {code : ArtikError}
    (other : ¬ check → ∃ code, further = some (refused code)) :
    ∃ code', (if check then some (refused code) else further) = some (refused code') := by
  split
  · exact ⟨code, rfl⟩
  · rename_i passed
    exact other passed

theorem createDate_rejected (rejected : ¬ DateAccepted gmt func date w) :
    ∃ code, osTimeCreateAlarmDate gmt func date w p = some (refused code) := by
  rw [osTimeCreateAlarmDate]
  refine rejected_by fun zone => rejected_by fun set => rejected_by fun given => rejected_by fun second => rejected_by fun minute =>
    rejected_by fun hour => rejected_by fun day => rejected_by fun month => rejected_by fun year => rejected_by fun dayOfWeek =>
    rejected_by fun msecond => rejected_by fun clock => ?_
  change ∃ code, (if dateInSec date < 0 then _ else _) = _
  refine rejected_by fun inSec => absurd ?_ rejected
  exact ⟨by omega, not_not.1 set, by simpa using given, by omega, by omega, by omega, by omega, by omega, by omega, by omega,
    by omega, by omega, by omega⟩

variable {r : Request} {env : Env}

/-- A creation is refused with no effect, or comes to its record. -/
theorem created_cases {c : Created} (created : r.created w p = some c) :
    (¬ r.Accepted w ∧ ∃ code, c = refused code) ∨ (r.Accepted w ∧ p.memory = true ∧ Placed p c) := by
  unfold Request.created at created
  unfold Request.Accepted
  cases time : r.time with
  | inl second =>
    rw [time] at created
    dsimp only at created ⊢
    by_cases accepted : SecondAccepted r.gmt (r.func ≠ 0) second w
    · exact .inr ⟨accepted, createSecond_accepted accepted created⟩
    · rw [createSecond_rejected accepted] at created
      cases created
      exact .inl ⟨accepted, _, rfl⟩
  | inr date =>
    rw [time] at created
    dsimp only at created ⊢
    by_cases dated : DateAccepted r.gmt (r.func ≠ 0) date w
    · rw [createDate_accepted dated] at created
      split at created
      · cases created
      · by_cases accepted : SecondAccepted r.gmt (r.func ≠ 0) (secondsTo r.gmt date w) w
        · exact .inr ⟨⟨dated, accepted⟩, createSecond_accepted accepted created⟩
        · rw [createSecond_rejected accepted] at created
          cases created
          exact .inl ⟨fun both => accepted both.2, _, rfl⟩
    · obtain ⟨code, rejected⟩ := createDate_rejected (p := p) dated
      rw [rejected] at created
      cases created
      exact .inl ⟨fun both => dated both.1, _, rfl⟩

/-- The function of an accepted alarm is no null. -/
theorem Request.Accepted.func_ne (accepted : r.Accepted w) : r.func ≠ 0 := by
  unfold Request.Accepted at accepted
  cases time : r.time with
  | inl second =>
    rw [time] at accepted
    exact of_decide_eq_true accepted.func
  | inr date =>
    rw [time] at accepted
    exact of_decide_eq_true accepted.1.func

/-- What a creation does. -/
inductive Creation (r : Request) (env : Env) (s : Alarms) : Alarms → ArtikError → Prop where
  | rejected {code : ArtikError} (rejected : ¬ r.Accepted env.clock) : Creation r env s s code
  | failed {p : Nat} {data : AlarmData} {code : ArtikError} (accepted : r.Accepted env.clock)
      (missing : ¬ (env.loop = true ∧ env.timeout = true)) (fails : code ≠ .ok) (free : s.record p = none)
      (number : data.number = s.placed) : Creation r env s (s.place p data) code
  | armed {p : Nat} {data : AlarmData} {x : Timeout} (found : env.loop = true ∧ env.timeout = true) (free : s.record p = none)
      (number : data.number = s.placed) (same : x.number = s.placed) (func : x.func = r.func) (userData : x.userData = r.userData) :
      Creation r env s { s.place p data with timeouts := s.timeouts ++ [x] } .ok

theorem createAlarm_cases {code : ArtikError} (done : createAlarm r env s = .ok (s', code)) : Creation r env s s' code := by
  rw [createAlarm] at done
  dsimp only at done
  split at done
  · cases done
  · rename_i c created
    obtain ⟨rejected, code', rfl⟩ | ⟨accepted, memory, placed⟩ := created_cases created
    · cases done
      exact .rejected rejected
    · obtain ⟨p, block⟩ := Option.isSome_iff_exists.1 memory
      rw [block] at done
      have free : s.record p = none := Option.isNone_iff_eq_none.1 (by
        have unused := (env.record.fresh _ _ block).2
        rw [Alarms.allocated] at unused
        rw [← Option.not_isSome, unused]
        rfl)
      cases placed with
      | busy alarm absent =>
        cases done
        refine .failed accepted (fun both => ?_) (show ArtikError.busy ≠ .ok by decide) free rfl
        rw [if_pos both.1] at absent
        cases absent
      | @armed add alarm msec loop =>
        have found : env.loop = true := by
          by_contra missing
          rw [if_neg missing] at loop
          cases loop
        rw [if_pos found] at loop
        cases loop
        dsimp only at done
        obtain ⟨s₁, added, same⟩ := map_ok_iff.1 done
        cases same
        rw [osAddTimeoutCallback] at added
        by_cases memory : env.timeout = true
        · have works : addTimeoutCode r.func env.timeout = .ok := by
            rw [addTimeoutCode, if_neg accepted.func_ne, memory]
            rfl
          rw [if_neg (not_not.2 works)] at added
          split at added
          · cases added
          · rename_i id picked
            cases added
            -- the record is written once more, with the id
            have again := @Creation.armed r env s p ⟨alarm, r.func, true, some id, s.placed⟩ ⟨id, msec, r.func, r.userData, s.placed⟩
              ⟨found, memory⟩ free rfl rfl rfl rfl
            simp only [Alarms.place, Function.update_idem, works, found] at again ⊢
            exact again
        · have fails : addTimeoutCode r.func env.timeout ≠ .ok := by
            rw [addTimeoutCode, if_neg accepted.func_ne, if_pos (by simpa using memory)]
            decide
          rw [if_pos fails] at added
          cases added
          exact .failed accepted (fun both => memory both.2) fails free rfl

/-! ## Runs -/

/-- Numbers are given once. -/
structure Numbered (s : Alarms) : Prop where
  record : ∀ p r, s.record p = some r → r.number < s.placed
  timeout : ∀ x ∈ s.timeouts, x.number < s.placed

theorem Numbered.init : Numbered .init where
  record p r same := by cases same
  timeout x member := by cases member

/-- What a step does to the timeout of an alarm that exists. -/
structure Follows (s s' : Alarms) (n : Nat) (o : Output) : Prop where
  placed : s.placed ≤ s'.placed
  later : s'.Pending n → n < s.placed → s.Pending n
  stays : s.Pending n → s'.Pending n ∨ ∃ x, o = .called x ∧ x.number = n
  called : ∀ x, o = .called x → s.Pending x.number

variable {input : Input} {o : Output} {n : Nat} {calls more : List Event}

theorem Follows.same {code : ArtikError} (placed : s.placed ≤ s'.placed) (same : s'.timeouts = s.timeouts) :
    Follows s s' n (.returned code) where
  placed := placed
  later pending _ := by
    rw [Alarms.Pending, same] at pending
    exact pending
  stays pending := .inl (by
    rw [Alarms.Pending, same]
    exact pending)
  called x called := by cases called

theorem Numbered.place {data : AlarmData} (numbered : Numbered s) (number : data.number = s.placed) (p : Nat) :
    Numbered (s.place p data) where
  record q r same := by
    change Function.update s.record p (some data) q = some r at same
    change r.number < s.placed + 1
    by_cases here : q = p
    · rw [here, Function.update_self] at same
      cases same
      omega
    · rw [Function.update_of_ne here] at same
      have := numbered.record q r same
      omega
  timeout x member := Nat.lt_succ_of_lt (numbered.timeout x member)

theorem create_follows {code : ArtikError} (numbered : Numbered s) (done : createAlarm r env s = .ok (s', code)) (n : Nat) :
    Numbered s' ∧ Follows s s' n (.returned code) := by
  cases createAlarm_cases done with
  | rejected _ => exact ⟨numbered, .same le_rfl rfl⟩
  | failed _ _ _ _ number => exact ⟨numbered.place number _, .same (Nat.le_succ _) rfl⟩
  | @armed p _ _ _ _ number same =>
    have placed := numbered.place number p
    refine ⟨⟨placed.record, ?_⟩, ⟨Nat.le_succ _, ?_, ?_, fun x called => by cases called⟩⟩
    · intro y member
      obtain old | new := List.mem_append.1 member
      · exact placed.timeout y old
      · rw [List.mem_singleton.1 new, same]
        exact Nat.lt_succ_self _
    · rintro ⟨y, member, rfl⟩ old
      obtain before | new := List.mem_append.1 member
      · exact ⟨y, before, rfl⟩
      · rw [List.mem_singleton.1 new, same] at old
        exact absurd old (Nat.lt_irrefl _)
    · rintro ⟨y, member, rfl⟩
      exact .inl ⟨y, List.mem_append_left _ member, rfl⟩

theorem delete_follows {code : ArtikError} {handle : Option Nat} (numbered : Numbered s)
    (done : osTimeDeleteAlarm handle s = .ok (s', code)) (n : Nat) : Numbered s' ∧ Follows s s' n (.returned code) := by
  unfold osTimeDeleteAlarm at done
  split at done
  · cases done
    exact ⟨numbered, .same le_rfl rfl⟩
  · rename_i p
    split at done
    · cases done
      refine ⟨⟨fun q r same => ?_, numbered.timeout⟩, .same le_rfl rfl⟩
      change Function.update s.record p none q = some r at same
      by_cases here : q = p
      · rw [here, Function.update_self] at same
        cases same
      · rw [Function.update_of_ne here] at same
        exact numbered.record q r same
    · cases done

/-- The timeout that fires is the only one that goes. -/
theorem fire_follows {number : Nat} {x : Timeout} (numbered : Numbered s) (done : fire number s = .ok (s', x)) (n : Nat) :
    Numbered s' ∧ Follows s s' n (.called x) := by
  unfold fire at done
  split at done
  · cases done
  · rename_i y found
    obtain ⟨rfl, rfl⟩ := Prod.mk.inj (Except.ok.inj done)
    have mine : y.number = number := by simpa using List.find?_some found
    have member := List.mem_of_find?_eq_some found
    refine ⟨⟨numbered.record, fun z kept => numbered.timeout z (List.mem_of_mem_filter kept)⟩, ⟨le_rfl, ?_, ?_, ?_⟩⟩
    · rintro ⟨z, kept, rfl⟩ _
      exact ⟨z, List.mem_of_mem_filter kept, rfl⟩
    · rintro ⟨z, kept, rfl⟩
      by_cases fired : z.number = number
      · exact .inr ⟨_, rfl, mine.trans fired.symm⟩
      · exact .inl ⟨z, List.mem_filter.2 ⟨kept, decide_eq_true fired⟩, rfl⟩
    · intro z called
      cases called
      exact ⟨_, member, rfl⟩

theorem step_follows (numbered : Numbered s) (answered : step input s = .ok (s', o)) (n : Nat) : Numbered s' ∧ Follows s s' n o := by
  cases input with
  | create r env =>
    obtain ⟨⟨t, code⟩, done, same⟩ := map_ok_iff.1 answered
    cases same
    exact create_follows numbered done n
  | delete handle =>
    obtain ⟨⟨t, code⟩, done, same⟩ := map_ok_iff.1 answered
    cases same
    exact delete_follows numbered done n
  | fire number =>
    obtain ⟨⟨t, x⟩, done, same⟩ := map_ok_iff.1 answered
    cases same
    exact fire_follows numbered done n

/-- Only a creation with good arguments that finds something missing leaves its record. -/
theorem step_clean (answered : step input s = .ok (s', o)) :
    Clean ⟨s, input, s', o⟩ ↔
      ∀ r env, input = .create r env → r.Accepted env.clock → env.loop = true ∧ env.timeout = true := by
  constructor
  · rintro clean r env rfl accepted
    obtain ⟨⟨t, code⟩, done, same⟩ := map_ok_iff.1 answered
    cases same
    cases createAlarm_cases done with
    | rejected rejected => exact absurd accepted rejected
    | @failed p data code _ _ fails free =>
      have same := congrFun (clean r env code rfl rfl fails).1 p
      change Function.update s.record p (some data) p = s.record p at same
      rw [Function.update_self, free] at same
      cases same
    | armed found => exact found
  · rintro found r env code rfl returned fails
    obtain ⟨⟨t, code'⟩, done, same⟩ := map_ok_iff.1 answered
    cases same
    cases returned
    cases createAlarm_cases done with
    | rejected _ => exact ⟨rfl, rfl⟩
    | failed accepted missing => exact absurd (found r env rfl accepted) missing
    | armed => exact absurd rfl fails

theorem run_numbered (run : Run step s calls s') (numbered : Numbered s) : Numbered s' :=
  run.invariant numbered fun _ _ _ _ numbered answered => (step_follows numbered answered 0).1

/-- What is not pending is never called. -/
theorem run_gone (run : Run step s calls s') (numbered : Numbered s) (old : n < s.placed) (gone : ¬ s.Pending n) :
    ∀ d ∈ calls, ¬ Calls d n := by
  induction run with
  | nil =>
    intro d member
    cases member
  | cons answered _ ih =>
    obtain ⟨numbered', follows⟩ := step_follows numbered answered n
    have rest := ih numbered' (old.trans_le follows.placed) fun pending => gone (follows.later pending old)
    intro d member
    cases member with
    | head =>
      rintro ⟨x, called, rfl⟩
      exact gone (follows.called x called)
    | tail _ member => exact rest d member

/-- What is pending stays so as far as it is not called. -/
theorem run_kept (run : Run step s calls s') (numbered : Numbered s) (pending : s.Pending n) :
    s'.Pending n ∨ ∃ d ∈ calls, Calls d n := by
  induction run with
  | nil => exact .inl pending
  | cons answered _ ih =>
    obtain ⟨numbered', follows⟩ := step_follows numbered answered n
    obtain still | called := follows.stays pending
    · obtain last | ⟨d, member, calls⟩ := ih numbered' still
      · exact .inl last
      · exact .inr ⟨d, List.mem_cons_of_mem _ member, calls⟩
    · exact .inr ⟨_, List.mem_cons_self .., called⟩

theorem silent_of_fits (run : Run step s calls s') (numbered : Numbered s) (fits : ∀ c ∈ calls, Fits c.input c.before) :
    Silent calls := by
  induction run with
  | nil => exact .nil
  | cons answered rest ih =>
    obtain ⟨first, later⟩ := List.forall_mem_cons.1 fits
    refine .cons (fun d member n deletes => ?_) (ih (step_follows numbered answered 0).1 later)
    obtain ⟨numbered', follows⟩ := step_follows numbered answered n
    obtain ⟨p, r, rfl, held, rfl, -⟩ := deletes
    have old := numbered.record p r held
    exact run_gone rest numbered' (old.trans_le follows.placed) (fun pending => first r held (follows.later pending old)) d member

/-- A timeout that is pending can fire. -/
theorem pending_fires (pending : s.Pending n) : ∃ s' x, step (.fire n) s = .ok (s', .called x) ∧ x.number = n := by
  obtain ⟨y, member, number⟩ := pending
  cases found : s.timeouts.find? fun x => x.number = n with
  | none => exact absurd (decide_eq_true number) (by simpa using List.find?_eq_none.1 found y member)
  | some x => exact ⟨_, x, by rw [step, fire, found]; rfl, by simpa using List.find?_some found⟩

/-- A timeout that is pending fires in the run, or can after it. -/
theorem run_calls (run : Run step s calls s') (numbered : Numbered s) (pending : s.Pending n) :
    ∃ more s'', (∀ c ∈ more, ∃ n, c.input = .fire n) ∧ Run step s' more s'' ∧ ∃ d ∈ calls ++ more, Calls d n := by
  obtain last | ⟨d, member, called⟩ := run_kept run numbered pending
  · obtain ⟨s'', x, fires, number⟩ := pending_fires last
    refine ⟨_, s'', ?_, .cons fires (.nil _), _, List.mem_append_right _ (List.mem_singleton_self _), ⟨x, rfl, number⟩⟩
    intro c only
    rw [List.mem_singleton.1 only]
    exact ⟨_, rfl⟩
  · refine ⟨[], s', ?_, .nil s', d, List.mem_append_left _ member, called⟩
    intro c none
    cases none

theorem delete_returns {handle : Option Nat} (answered : step (.delete handle) s = .ok (s', o)) : o = .returned .ok := by
  obtain ⟨⟨t, code⟩, done, same⟩ := map_ok_iff.1 answered
  cases same
  unfold osTimeDeleteAlarm at done
  split at done
  · cases done
    rfl
  · split at done
    · cases done
      rfl
    · cases done

/-- **Deleted alarms.** However the pending timeouts fire after a run, none is of an alarm that was deleted, and no
failed creation has left anything, exactly when every alarm was deleted after its timeout had fired, and every creation
with good arguments found the loop module and memory. -/
theorem silent_iff (run : Run step .init calls s) :
    ((∀ more s', (∀ c ∈ more, ∃ n, c.input = .fire n) → Run step s more s' → Silent (calls ++ more)) ∧
        ∀ c ∈ calls, Clean c) ↔
      ∀ c ∈ calls, Fits c.input c.before := by
  constructor
  · rintro ⟨silent, clean⟩ c member
    obtain ⟨pre, post, rfl⟩ := List.append_of_mem member
    obtain ⟨s₁, before, rest⟩ := run.split
    obtain ⟨rfl, answered, after⟩ := rest.head
    have numbered := run_numbered before .init
    obtain ⟨s₂, input, s₃, o⟩ := c
    cases input with
    | create r env => exact (step_clean answered).1 (clean _ member) r env rfl
    | fire _ => trivial
    | delete handle =>
      cases handle with
      | none => trivial
      | some p =>
        intro r held pending
        obtain ⟨numbered', follows⟩ := step_follows numbered answered r.number
        obtain rfl := delete_returns answered
        have still := (follows.stays pending).resolve_right fun ⟨x, called, _⟩ => by cases called
        obtain ⟨more, s', fires, further, d, inside, calls⟩ := run_calls after numbered' still
        have pairs := silent more s' fires further
        rw [List.append_assoc, List.cons_append] at pairs
        exact (List.pairwise_cons.1 (List.pairwise_append.1 pairs).2.1).1 d inside _ ⟨p, r, rfl, held, rfl, rfl⟩ calls
  · intro fits
    refine ⟨fun more s' fires further => ?_, fun c member => ?_⟩
    · refine silent_of_fits (run.append further) .init fun c member => ?_
      obtain earlier | later := List.mem_append.1 member
      · exact fits c earlier
      · obtain ⟨n, input⟩ := fires c later
        rw [input]
        trivial
    · have answered := (run.invariant_before (I := fun _ => True) trivial (fun _ _ _ _ _ _ => trivial) member).2
      refine (step_clean answered).2 fun r env input accepted => ?_
      have met := fits c member
      rw [input] at met
      exact met accepted

/-- An alarm in a minute. -/
def minute : Request := ⟨0, 11, 0, .inl 60⟩

def finds : Env := ⟨reads 0, .only 5, true, true, .only 7⟩

/-- An alarm that is deleted after it was called is silent. -/
theorem called_silent : ∃ calls s, Run step .init calls s ∧
    calls.map Call.input = [.create minute finds, .fire 0, .delete (some 5)] ∧
    (∀ more s', (∀ c ∈ more, ∃ n, c.input = .fire n) → Run step s more s' → Silent (calls ++ more)) ∧
    ∀ c ∈ calls, Clean c := by
  obtain ⟨calls, s, done, fits⟩ : ∃ calls s, exec step [.create minute finds, .fire 0, .delete (some 5)] .init = .ok (calls, s) ∧
      ∀ c ∈ calls, Fits c.input c.before := by
    refine ⟨_, _, rfl, ?_⟩
    simp only [List.forall_mem_cons]
    refine ⟨fun _ => ⟨rfl, rfl⟩, trivial, ?_, fun c none => by cases none⟩
    rintro r held ⟨x, member, -⟩
    cases member
  obtain ⟨run, inputs⟩ := exec_run done
  exact ⟨calls, s, run, inputs, (silent_iff run).2 fits⟩

/-- An alarm is called after it was deleted; a creation that finds no loop module leaves its record. -/
theorem deleted_called :
    (∃ calls s, Run step .init calls s ∧ calls.map Call.input = [.create minute finds, .delete (some 5), .fire 0] ∧
      ¬ Silent calls) ∧
    ∃ calls s, Run step .init calls s ∧ calls.map Call.input = [.create minute { finds with loop := false }] ∧
      ¬ ∀ c ∈ calls, Clean c := by
  constructor
  · obtain ⟨calls, s, done, loud⟩ : ∃ calls s, exec step [.create minute finds, .delete (some 5), .fire 0] .init = .ok (calls, s) ∧
        ¬ Silent calls := by
      refine ⟨_, _, rfl, fun silent => ?_⟩
      have afterDelete := (List.pairwise_cons.1 (List.pairwise_cons.1 silent).2).1
      exact afterDelete _ (List.mem_singleton_self _) 0 ⟨5, _, rfl, rfl, rfl, rfl⟩ ⟨_, rfl, rfl⟩
    obtain ⟨run, inputs⟩ := exec_run done
    exact ⟨calls, s, run, inputs, loud⟩
  · obtain ⟨calls, s, done, left⟩ : ∃ calls s, exec step [.create minute { finds with loop := false }] .init = .ok (calls, s) ∧
        ¬ ∀ c ∈ calls, Clean c := by
      refine ⟨_, _, rfl, fun clean => ?_⟩
      have same := congrFun (clean _ (List.mem_singleton_self _) _ _ _ rfl rfl (by decide)).1 5
      cases same
    obtain ⟨run, inputs⟩ := exec_run done
    exact ⟨calls, s, run, inputs, left⟩

end ArtikSdk.Time
