import ArtikSdk.Base.Clock

/-!
# Alarms on Linux

`os_time_create_alarm_second`, `os_time_create_alarm_date` and `os_time_get_delay_alarm` of
`linux_time.c`, with `TZ` set to UTC and an `unsigned long` of 64 bits. A `double` holds the
difference of two dates exactly as far as 2^53 seconds.
-/

namespace ArtikSdk.Time
open Lib.Calendar

/-- `artik_time_alarm_t`, as far as the delay is computed from it. -/
structure Alarm where
  gmt : Int
  dateAlarm : UInt64

/-- Whether `malloc` has memory, and `add_timeout_callback` of the loop module, if there is one. -/
structure Platform where
  memory : Bool
  loop : Option (UInt32 → ArtikError)

/-- The return code, what `*handle` is set to, and the timeout that the loop was given. -/
structure Created where
  code : ArtikError
  handle : Option Alarm
  armed : Option UInt32

def refused (code : ArtikError) : Created := ⟨code, none, none⟩

/-- The clock of the time zone as seconds. `other` is what the bytes of the `struct tm` are set to before. -/
def currInSec (other gmt : Int) (w : World) : Int :=
  let currUsr := (osTimeGetSys gmt w).toOption.getD (Tm.fill other)
  mktime { currUsr with tmYday := 0, tmYear := currUsr.tmYear - epochDef }

/-- There is no result where a NULL handle is written. -/
def osTimeCreateAlarmSecond (gmt : Int) (func : Bool) (second : UInt64) (w : World) (p : Platform) : Option Created :=
  if gmt < 0 ∨ gmt > 12 then some (refused .badArgs)
  else if int second.toUInt32 < 0 then some (refused .badArgs)
  else if !func then some (refused .badArgs)
  else
    let curr := currInSec 0x01010101 gmt w
    if curr < 0 then some (refused .badArgs)
    else if p.memory then
      -- the sum with `(time_t)second` is taken to wrap around
      let alarm : Alarm := ⟨gmt, UInt64.ofNat curr.toNat + second⟩
      match p.loop with
      | none => some ⟨.busy, some alarm, none⟩
      | some addTimeoutCallback =>
        let msec := second.toUInt32 * 1000
        some ⟨addTimeoutCallback msec, some alarm, some msec⟩
    else none

/-- `*handle` is NULL where there is a `handle` that is accepted. -/
def artikTimeCreateAlarmSecond (gmt : Int) (sec : UInt64) (handle : Option (Option Alarm)) (func : Bool) (w : World) (p : Platform) :
    Option Created :=
  match handle with
  | some none => if sec = 0 then some (refused .badArgs) else osTimeCreateAlarmSecond gmt func sec w p
  | _ => some (refused .badArgs)

/-- The `int`s of the date are or-ed. -/
def osTimeStructEmpty (date : ArtikTime) : ArtikError :=
  let checkSet := date.second ||| date.minute ||| date.hour ||| date.day ||| date.month ||| date.year ||| date.dayOfWeek |||
    date.msecond
  if int checkSet > 0 then .ok else .badArgs

/-- `memcpy(&date_usr, &date, sizeof(date))` -/
def ArtikTime.toTm (date : ArtikTime) : Tm where
  tmSec := int date.second
  tmMin := int date.minute
  tmHour := int date.hour
  tmMday := int date.day
  tmMon := int date.month
  tmYear := int date.year
  tmWday := int date.dayOfWeek
  tmYday := int date.msecond

/-- There is no result where a negative `double` is converted to an `unsigned long`. -/
def osTimeCreateAlarmDate (gmt : Int) (func : Bool) (date : ArtikTime) (w : World) (p : Platform) : Option Created :=
  if gmt < 0 ∨ gmt > 12 then some (refused .badArgs)
  else if osTimeStructEmpty date ≠ .ok then some (refused .badArgs)
  else if !func then some (refused .badArgs)
  else if int date.second < 0 ∨ int date.second > 59 then some (refused .badArgs)
  else if int date.minute < 0 ∨ int date.minute > 59 then some (refused .badArgs)
  else if int date.hour < 0 ∨ int date.hour > 23 then some (refused .badArgs)
  else if int date.day < 1 ∨ int date.day > 31 then some (refused .badArgs)
  else if int date.month < 1 ∨ int date.month > 12 then some (refused .badArgs)
  else if int date.year < epochDef then some (refused .badArgs)
  else if int date.dayOfWeek < 0 ∨ int date.dayOfWeek > 6 then some (refused .badArgs)
  else if int date.msecond < 0 then some (refused .badArgs)
  else
    let curr := currInSec 0 gmt w
    if curr < 0 then some (refused .invalidValue)
    else
      let dateUsr := date.toTm
      let dateUsr := if dateUsr.tmYear > epochDef then { dateUsr with tmYear := dateUsr.tmYear - epochDef, tmMon := dateUsr.tmMon - 1 }
        else dateUsr
      let dateInSec := mktime { dateUsr with tmYday := 0 }
      if dateInSec < 0 then some (refused .invalidValue)
      else
        let diff := dateInSec - curr
        if diff < 0 then none else osTimeCreateAlarmSecond gmt func (UInt64.ofNat diff.toNat) w p

/-- The return code and `*msecond`. -/
def osTimeGetDelayAlarm (alarm : Alarm) (w : World) : ArtikError × UInt64 :=
  match osTimeGetSys alarm.gmt w with
  | .error ret => (ret, 0)
  | .ok currUsr =>
    let res := int (unsigned (mktime { currUsr with tmYear := currUsr.tmYear - epochDef, tmYday := 0 }))
    if res < 0 then (.invalidValue, 0)
    else
      let curr := UInt64.ofNat res.toNat
      (.ok, if alarm.dateAlarm ≤ curr then 0 else alarm.dateAlarm - curr)

/-! ## What is expected -/

/-- Everything that is called works. -/
structure Ready (w : World) (p : Platform) : Prop where
  clock : w.gettimeWorks = true
  memory : p.memory = true
  loop : p.loop.isSome = true

/-- The number of seconds is not 0, and no negative `int`. -/
def Accepts (second : UInt64) : Prop := 0 < second.toNat ∧ second.toNat % 2 ^ 32 < 2 ^ 31

/-- A timeout of this many milliseconds is armed. -/
def Arms (created : Option Created) (ms : Int) : Prop := ∃ c timeout, created = some c ∧ c.armed = some timeout ∧ timeout.toNat = ms

/-- The seconds since 1970 at which it is this date in the time zone. -/
def instant (gmt : Int) (date : ArtikTime) : Int := timegm (civil date 0) - 3600 * gmt

/-- The remaining seconds are returned. -/
def Remains (alarm : Alarm) (w : World) (deadline : Int) : Prop :=
  ∃ delay, osTimeGetDelayAlarm alarm w = (.ok, delay) ∧ (delay.toNat : Int) = max 0 (deadline - w.seconds)

/-- Whether the time zone is a day ahead at `t`. -/
def dayAhead (gmt : Int) (t : Nat) : Nat := if 24 ≤ (t : Int) % 86400 / 3600 + gmt then 1 else 0

/-- The clock of the time zone, with the day of UTC. -/
def localTime (gmt : Int) (t : Nat) : Int := t + 3600 * gmt - 86400 * dayAhead gmt t

variable {w w' : World} {p : Platform} {gmt : Int} {second : UInt64} {date : ArtikTime} {alarm : Alarm} {t : Nat}

/-! ## The clock -/

theorem timegm_hour {c : Civil} (inside : c.month < 12) (h : Int) :
    timegm (Civil.carryMonth { c with hour := h }) = timegm c + 3600 * (h - c.hour) := by
  have same : Civil.carryMonth { c with hour := h } = { c with hour := h } := Civil.carryMonth_eq inside
  rw [same, timegm, timegm]
  dsimp only
  ring

theorem dayAhead_le (gmt : Int) (t : Nat) : dayAhead gmt t ≤ 1 := by
  rw [dayAhead]
  split <;> decide

theorem localTime_bounds (supported : 0 ≤ gmt ∧ gmt ≤ 12) (t : Nat) : 0 ≤ localTime gmt t ∧ localTime gmt t ≤ t + 43200 := by
  rw [localTime, dayAhead]
  split <;> omega

/-- The hour is put in place of that of UTC. -/
theorem mktime_sys (supported : 0 ≤ gmt ∧ gmt ≤ 12) (t : Nat) :
    mktime { tmOf t with tmHour := ((gmtime t).hour + gmt).tmod 24, tmYear := (gmtime t).year - epochDef, tmYday := 0 } =
      localTime gmt t := by
  obtain ⟨valid, -, seconds⟩ := timegm_gmtime t
  have year : (((gmtime t).year : Int) - epochDef + epochDef).toNat = (gmtime t).year := by omega
  have month : ((gmtime t).month : Int).toNat = (gmtime t).month := Int.toNat_natCast _
  have hour : ((gmtime t).hour + gmt).tmod 24 = (gmtime t).hour + gmt - 24 * dayAhead gmt t := by
    have ofDay : (gmtime t).hour = (t : Int) % 86400 / 3600 := by simp [gmtime]
    have inDay := valid.hour
    rw [Int.tmod_eq_emod_of_nonneg (by omega), dayAhead, ← ofDay]
    split <;> omega
  have moved := timegm_hour valid.month ((gmtime t).hour + gmt - 24 * dayAhead gmt t)
  rw [seconds] at moved
  rw [mktime]
  simp only [tmOf]
  rw [year, month, hour, moved, localTime]
  ring

theorem currInSec_eq (works : w.gettimeWorks = true) (supported : 0 ≤ gmt ∧ gmt ≤ 12) (other : Int) :
    currInSec other gmt w = localTime gmt w.seconds := by
  rw [currInSec, osTimeGetSys_works works]
  exact mktime_sys supported w.seconds

/-! ## Seconds -/

theorem low_accepted (accepted : Accepts second) : 0 ≤ int second.toUInt32 := by
  have small : second.toUInt32.toNat < 2 ^ 31 := by
    rw [UInt64.toNat_toUInt32]
    exact accepted.2
  rw [int_eq small]
  exact Int.natCast_nonneg _

/-- What an alarm in so many seconds is. -/
theorem createSecond_eq (ready : Ready w p) (supported : 0 ≤ gmt ∧ gmt ≤ 12) (low : 0 ≤ int second.toUInt32) :
    ∃ code, osTimeCreateAlarmSecond gmt true second w p =
      some ⟨code, some ⟨gmt, UInt64.ofNat (localTime gmt w.seconds).toNat + second⟩, some (second.toUInt32 * 1000)⟩ := by
  obtain ⟨addTimeoutCallback, loop⟩ := Option.isSome_iff_exists.1 ready.loop
  have nonneg := (localTime_bounds supported w.seconds).1
  rw [osTimeCreateAlarmSecond, if_neg (by omega), if_neg (by omega), if_neg (by decide)]
  dsimp only
  rw [currInSec_eq ready.clock supported, if_neg (by omega), if_pos ready.memory, loop]
  exact ⟨_, rfl⟩

theorem createSecond_refused (low : int second.toUInt32 < 0) (gmt : Int) (func : Bool) :
    osTimeCreateAlarmSecond gmt func second w p = some (refused .badArgs) := by
  rw [osTimeCreateAlarmSecond, if_pos low]
  split <;> rfl

theorem not_arms_refused (code : ArtikError) (ms : Int) : ¬ Arms (some (refused code)) ms := by
  rintro ⟨c, timeout, created, armed, -⟩
  cases created
  cases armed

theorem timeout_toNat (second : UInt64) : (second.toUInt32 * 1000).toNat = second.toNat * 1000 % 2 ^ 32 := by
  rw [UInt32.toNat_mul, UInt64.toNat_toUInt32, show (1000 : UInt32).toNat = 1000 from rfl, Nat.mod_mul_mod]

/-- The product is the right one as far as 32 bits hold it. -/
theorem timeout_iff (second : UInt64) : (second.toUInt32 * 1000).toNat = second.toNat * 1000 ↔ second.toNat ≤ 4294967 := by
  rw [timeout_toNat]
  omega

theorem create_accepts (ready : Ready w p) (supported : 0 ≤ gmt ∧ gmt ≤ 12) :
    (∃ ms, Arms (artikTimeCreateAlarmSecond gmt second (some none) true w p) ms) ↔ Accepts second := by
  rw [artikTimeCreateAlarmSecond]
  by_cases zero : second = 0
  · rw [if_pos zero, zero]
    exact iff_of_false (fun ⟨ms, arms⟩ => not_arms_refused .badArgs ms arms) (fun accepted => absurd accepted.1 (by decide))
  · rw [if_neg zero]
    have positive : 0 < second.toNat := Nat.pos_of_ne_zero fun none => zero (UInt64.toNat_inj.1 none)
    by_cases low : second.toNat % 2 ^ 32 < 2 ^ 31
    · obtain ⟨code, created⟩ := createSecond_eq ready supported (low_accepted ⟨positive, low⟩)
      rw [created]
      exact iff_of_true ⟨_, _, _, rfl, rfl, rfl⟩ ⟨positive, low⟩
    · have negative : int second.toUInt32 < 0 := int_neg (by rw [UInt64.toNat_toUInt32]; omega)
      rw [createSecond_refused negative]
      exact iff_of_false (fun ⟨ms, arms⟩ => not_arms_refused .badArgs ms arms) (fun accepted => low accepted.2)

theorem create_exact (ready : Ready w p) (supported : 0 ≤ gmt ∧ gmt ≤ 12) (accepted : Accepts second) :
    Arms (artikTimeCreateAlarmSecond gmt second (some none) true w p) (1000 * second.toNat) ↔ second.toNat ≤ 4294967 := by
  obtain ⟨code, created⟩ := createSecond_eq ready supported (low_accepted accepted)
  have nonzero : second ≠ 0 := by
    rintro rfl
    exact absurd accepted.1 (by decide)
  rw [artikTimeCreateAlarmSecond, if_neg nonzero, created, ← timeout_iff]
  constructor
  · rintro ⟨c, timeout, same, armed, exact⟩
    cases same
    cases armed
    omega
  · intro exact
    exact ⟨_, _, rfl, rfl, by rw [exact]; push_cast; ring⟩

/-! ## Dates -/

theorem structEmpty_ok (valid : date.Valid) (small : date.year.toNat < 2 ^ 31) : osTimeStructEmpty date = .ok := by
  obtain ⟨second, minute, hour, dayFrom, dayTo, -, monthTo, -, dayOfWeek, msecond⟩ := valid
  have dayLess : date.day.toNat < 2 ^ 31 := by
    have := (monthDays_bounds date.year.toNat (date.month.toNat - 1)).2
    omega
  have inside : (date.second ||| date.minute ||| date.hour ||| date.day ||| date.month ||| date.year ||| date.dayOfWeek |||
      date.msecond).toNat < 2 ^ 31 := by
    simp only [UInt32.toNat_or]
    repeat' apply Nat.or_lt_two_pow
    all_goals omega
  have least : date.day.toNat ≤ (date.second ||| date.minute ||| date.hour ||| date.day ||| date.month ||| date.year |||
      date.dayOfWeek ||| date.msecond).toNat := by
    simp only [UInt32.toNat_or]
    exact Nat.right_le_or.trans (Nat.left_le_or.trans (Nat.left_le_or.trans (Nat.left_le_or.trans Nat.left_le_or)))
  rw [osTimeStructEmpty, int_eq inside, if_pos (by omega)]

theorem utc_supported : 0 ≤ (0 : Int) ∧ (0 : Int) ≤ 12 := by decide

/-- The seconds of a date in UTC, which 64 bits hold. -/
theorem timegm_bounds (valid : date.Valid) (small : date.year.toNat < 2 ^ 31) :
    0 ≤ timegm (civil date 0) ∧ timegm (civil date 0) < 2 ^ 57 := by
  have civilValid := civil_valid valid utc_supported
  obtain ⟨d, s, -, inside, less, -, -, -, seconds⟩ := timegm_eq civilValid valid.year
  have years := daysOfYears_upper 1970 (date.year.toNat - 1970)
  have day := dayOfYear_lt civilValid.month inside
  have year : yearDays (civil date 0).year ≤ 366 := by
    rw [yearDays]
    split <;> decide
  rw [seconds]
  refine ⟨Int.natCast_nonneg _, ?_⟩
  change daysOfYears 1970 ((civil date 0).year - 1970) ≤ _ at years
  omega

/-- The date that `mktime` is given. -/
theorem mktime_date (valid : date.Valid) (small : date.year.toNat < 2 ^ 31) :
    mktime { date.toTm with tmYear := date.toTm.tmYear - epochDef, tmMon := date.toTm.tmMon - 1, tmYday := 0 } =
      timegm (civil date 0) := by
  have inMonth := (civil_valid valid utc_supported).month
  obtain ⟨second, minute, hour, dayFrom, dayTo, monthFrom, monthTo, year, -, -⟩ := valid
  have dayLess : date.day.toNat < 2 ^ 31 := by
    have := (monthDays_bounds date.year.toNat (date.month.toNat - 1)).2
    omega
  have yearNat : ((date.year.toNat : Int) - epochDef + epochDef).toNat = date.year.toNat := by omega
  have monthNat : ((date.month.toNat : Int) - 1).toNat = date.month.toNat - 1 := by omega
  have same : civil date 0 = ⟨date.year.toNat, date.month.toNat - 1, date.day.toNat, date.hour.toNat, date.minute.toNat,
      date.second.toNat⟩ := by
    rw [civil, if_neg (by omega), Int.sub_zero]
  rw [mktime]
  simp only [ArtikTime.toTm]
  rw [int_eq small, int_eq (x := date.month) (by omega), int_eq dayLess, int_eq (x := date.hour) (by omega),
    int_eq (x := date.minute) (by omega), int_eq (x := date.second) (by omega), yearNat, monthNat, ← same,
    Civil.carryMonth_eq inMonth]

/-- What an alarm at a date is: one in the seconds between, on the clock of the time zone. -/
theorem createDate_eq (ready : Ready w p) (supported : 0 ≤ gmt ∧ gmt ≤ 12) (valid : date.Valid) (small : date.year.toNat < 2 ^ 31) :
    osTimeCreateAlarmDate gmt true date w p =
      if timegm (civil date 0) - localTime gmt w.seconds < 0 then none
      else osTimeCreateAlarmSecond gmt true (UInt64.ofNat (timegm (civil date 0) - localTime gmt w.seconds).toNat) w p := by
  have seconds := (timegm_bounds valid small).1
  have clock := (localTime_bounds supported w.seconds).1
  have given := mktime_date valid small
  have notEmpty := structEmpty_ok valid small
  have year : (date.toTm).tmYear = date.year.toNat := int_eq small
  obtain ⟨second, minute, hour, dayFrom, dayTo, monthFrom, monthTo, from1970, dayOfWeek, msecond⟩ := valid
  have dayLe := (monthDays_bounds date.year.toNat (date.month.toNat - 1)).2
  rw [osTimeCreateAlarmDate, notEmpty, int_eq (x := date.second) (by omega), int_eq (x := date.minute) (by omega),
    int_eq (x := date.hour) (by omega), int_eq (x := date.day) (by omega), int_eq (x := date.month) (by omega), int_eq small,
    int_eq (x := date.dayOfWeek) (by omega), int_eq (x := date.msecond) (by omega),
    if_neg (by omega), if_neg (by decide), if_neg (by decide), if_neg (by omega), if_neg (by omega), if_neg (by omega),
    if_neg (by omega), if_neg (by omega), if_neg (by unfold epochDef; omega), if_neg (by omega), if_neg (by omega)]
  dsimp only
  rw [currInSec_eq ready.clock supported, if_neg (by omega), if_pos (show date.toTm.tmYear > epochDef by unfold epochDef; omega),
    given, if_neg (by omega)]

/-- A check in front of what is refused. -/
theorem check_refused {check : Prop} [Decidable check] {further : Option Created} (other : further = some (refused .badArgs)) :
    (if check then some (refused .badArgs) else further) = some (refused .badArgs) := by
  split
  · rfl
  · exact other

/-- A year that an `int` does not hold is refused. -/
theorem createDate_late (large : 2 ^ 31 ≤ date.year.toNat) (gmt : Int) (func : Bool) :
    osTimeCreateAlarmDate gmt func date w p = some (refused .badArgs) := by
  have negative := int_neg large
  unfold osTimeCreateAlarmDate
  -- eight checks come before that of the year
  iterate 8 apply check_refused
  rw [if_pos (show int date.year < epochDef by unfold epochDef; omega)]

/-- A date in the future of the clock. -/
def Future (gmt : Int) (date : ArtikTime) (w : World) : Prop :=
  1000 * (w.seconds : Int) < 1000 * instant gmt date + date.msecond.toNat

theorem createDate_exact (ready : Ready w p) (supported : 0 ≤ gmt ∧ gmt ≤ 12) (valid : date.Valid) (future : Future gmt date w) :
    Arms (osTimeCreateAlarmDate gmt true date w p) (1000 * instant gmt date + date.msecond.toNat - 1000 * w.seconds) ↔
      date.msecond.toNat = 0 ∧ dayAhead gmt w.seconds = 0 ∧ instant gmt date - w.seconds ≤ 4294967 ∧ date.year.toNat < 2 ^ 31 := by
  by_cases small : date.year.toNat < 2 ^ 31
  · have msecond := valid.msecond
    have least := dayAhead_le gmt w.seconds
    have bounds := timegm_bounds valid small
    rw [createDate_eq ready supported valid small]
    rw [Future, instant] at future
    rw [instant, localTime]
    obtain ⟨n, apart⟩ := Int.eq_ofNat_of_zero_le (show 0 ≤ timegm (civil date 0) -
      (w.seconds + 3600 * gmt - 86400 * dayAhead gmt w.seconds) by omega)
    have held : (UInt64.ofNat n).toNat = n := UInt64.toNat_ofNat_of_lt' (by change n < 2 ^ 64; omega)
    rw [if_neg (by omega), apart, Int.toNat_natCast]
    by_cases low : 0 ≤ int (UInt64.ofNat n).toUInt32
    · obtain ⟨code, created⟩ := createSecond_eq ready supported low
      have timeout := timeout_toNat (UInt64.ofNat n)
      rw [held] at timeout
      rw [created]
      constructor
      · rintro ⟨c, _, same, armed, exact⟩
        cases same
        cases armed
        rw [timeout] at exact
        refine ⟨?_, ?_, ?_, small⟩ <;> omega
      · rintro ⟨whole, today, near, -⟩
        exact ⟨_, _, rfl, rfl, by rw [timeout]; omega⟩
    · rw [createSecond_refused (by omega)]
      refine iff_of_false (not_arms_refused _ _) ?_
      rintro ⟨-, today, near, -⟩
      have inside : (UInt64.ofNat n).toUInt32.toNat < 2 ^ 31 := by
        rw [UInt64.toNat_toUInt32, held]
        omega
      rw [int_eq inside] at low
      exact low (Int.natCast_nonneg _)
  · rw [createDate_late (Nat.not_lt.1 small)]
    exact iff_of_false (not_arms_refused _ _) (fun holds => small holds.2.2.2)

/-! ## The delay -/

/-- An alarm is created with this handle. -/
def Creates (created : Option Created) (alarm : Alarm) : Prop := ∃ c, created = some c ∧ c.handle = some alarm

/-- When the remaining time is right at `t`, for an alarm whose deadline is kept with `ahead` days taken off. The clock
of the time zone is to fit into an `int`, and to be as many days ahead or behind the deadline with them; or the low bits
of it are a number that is not before the alarm. -/
def OnTime (gmt : Int) (ahead : Nat) (deadline : Int) (t : Nat) : Prop :=
  localTime gmt t < 2 ^ 31 ∧ (dayAhead gmt t = ahead ∨ deadline + 86400 * dayAhead gmt t ≤ t) ∨
  2 ^ 32 ≤ localTime gmt t ∧ localTime gmt t % 2 ^ 32 < 2 ^ 31 ∧ deadline + 3600 * gmt - 86400 * ahead ≤ localTime gmt t % 2 ^ 32

theorem unsigned_toNat (x : Int) : (unsigned x).toNat = (x % 2 ^ 32).toNat := by
  rw [unsigned, UInt32.toNat_ofBitVec, BitVec.toNat_ofInt]
  rfl

/-- The clock is cut down to an `int`. -/
theorem delay_eq (works : w.gettimeWorks = true) (supported : 0 ≤ alarm.gmt ∧ alarm.gmt ≤ 12) :
    (localTime alarm.gmt w.seconds % 2 ^ 32 < 2 ^ 31 → ∃ delay, osTimeGetDelayAlarm alarm w = (.ok, delay) ∧
      delay.toNat = alarm.dateAlarm.toNat - (localTime alarm.gmt w.seconds % 2 ^ 32).toNat) ∧
    (2 ^ 31 ≤ localTime alarm.gmt w.seconds % 2 ^ 32 → osTimeGetDelayAlarm alarm w = (.invalidValue, 0)) := by
  have cut := unsigned_toNat (localTime alarm.gmt w.seconds)
  rw [osTimeGetDelayAlarm, osTimeGetSys_works works]
  dsimp only
  rw [mktime_sys supported w.seconds]
  constructor
  · intro small
    have held : (UInt64.ofNat (localTime alarm.gmt w.seconds % 2 ^ 32).toNat).toNat = (localTime alarm.gmt w.seconds % 2 ^ 32).toNat :=
      UInt64.toNat_ofNat_of_lt' (by change _ < 2 ^ 64; omega)
    rw [int_eq (by omega), cut, if_neg (by omega), Int.toNat_natCast]
    refine ⟨_, rfl, ?_⟩
    by_cases reached : alarm.dateAlarm ≤ UInt64.ofNat (localTime alarm.gmt w.seconds % 2 ^ 32).toNat
    · have reached' := UInt64.le_iff_toNat_le.1 reached
      rw [if_pos reached]
      change 0 = _
      omega
    · rw [if_neg reached, UInt64.toNat_sub_of_le _ _ (UInt64.le_of_lt (UInt64.not_le.1 reached)), held]
  · intro large
    rw [if_pos (int_neg (by omega))]

/-- What is returned is the difference from the clock as it was cut. -/
theorem remains_cut (works : w.gettimeWorks = true) (supported : 0 ≤ alarm.gmt ∧ alarm.gmt ≤ 12) (deadline : Int) :
    Remains alarm w deadline ↔ localTime alarm.gmt w.seconds % 2 ^ 32 < 2 ^ 31 ∧
      max 0 ((alarm.dateAlarm.toNat : Int) - localTime alarm.gmt w.seconds % 2 ^ 32) = max 0 (deadline - w.seconds) := by
  obtain ⟨small, large⟩ := delay_eq works supported
  by_cases fits : localTime alarm.gmt w.seconds % 2 ^ 32 < 2 ^ 31
  · obtain ⟨delay, returned, value⟩ := small fits
    have difference : (delay.toNat : Int) = max 0 ((alarm.dateAlarm.toNat : Int) - localTime alarm.gmt w.seconds % 2 ^ 32) := by
      rw [value]
      omega
    rw [Remains, returned, ← difference, and_iff_right fits]
    constructor
    · rintro ⟨delay', same, exact⟩
      cases same
      exact exact
    · exact fun exact => ⟨delay, rfl, exact⟩
  · rw [Remains, large (Int.not_lt.1 fits)]
    exact iff_of_false (fun ⟨_, same, _⟩ => nomatch same) (fun holds => fits holds.1)

/-- Two clocks that are `a` and `b` days ahead leave the same time to a date when they agree, or neither leaves any. -/
theorem days_iff {x a b : Int} (aDays : 0 ≤ a ∧ a ≤ 1) (bDays : 0 ≤ b ∧ b ≤ 1) :
    max 0 (x - 86400 * b) = max 0 (x - 86400 * a) ↔ a = b ∨ x ≤ 0 := by
  obtain rfl | rfl : a = 0 ∨ a = 1 := by omega
  all_goals obtain rfl | rfl : b = 0 ∨ b = 1 := by omega
  all_goals omega

/-- A clock that was cut leaves the same time when it leaves none. -/
theorem wrapped_iff {x c k : Int} (inside : -1 ≤ c ∧ c ≤ 1) (cut : 1 ≤ k) :
    max 0 x = max 0 (x + 86400 * c - 2 ^ 32 * k) ↔ x ≤ 0 := by
  have none : 86400 * c - 2 ^ 32 * k < 0 := by omega
  constructor <;> intro holds <;> omega

theorem remains_iff {deadline : Int} {ahead : Nat} (works : w.gettimeWorks = true) (supported : 0 ≤ alarm.gmt ∧ alarm.gmt ≤ 12)
    (least : ahead ≤ 1) (kept : (alarm.dateAlarm.toNat : Int) = deadline + 3600 * alarm.gmt - 86400 * ahead) :
    Remains alarm w deadline ↔ OnTime alarm.gmt ahead deadline w.seconds := by
  have clock := (localTime_bounds supported w.seconds).1
  have today := dayAhead_le alarm.gmt w.seconds
  have reading : (w.seconds : Int) = localTime alarm.gmt w.seconds - 3600 * alarm.gmt + 86400 * dayAhead alarm.gmt w.seconds := by
    rw [localTime]
    ring
  rw [remains_cut works supported, OnTime, kept]
  by_cases early : localTime alarm.gmt w.seconds < 2 ^ 32
  · -- nothing is cut from the clock
    have whole : localTime alarm.gmt w.seconds % 2 ^ 32 = localTime alarm.gmt w.seconds := Int.emod_eq_of_lt clock early
    have days := days_iff (x := deadline + 3600 * alarm.gmt - localTime alarm.gmt w.seconds)
      (a := dayAhead alarm.gmt w.seconds) (b := ahead) (by omega) (by omega)
    rw [whole, show deadline + 3600 * alarm.gmt - 86400 * ahead - localTime alarm.gmt w.seconds =
      deadline + 3600 * alarm.gmt - localTime alarm.gmt w.seconds - 86400 * ahead by ring,
      show deadline - w.seconds = deadline + 3600 * alarm.gmt - localTime alarm.gmt w.seconds - 86400 * dayAhead alarm.gmt w.seconds
        by omega, days, Nat.cast_inj]
    have reached : (deadline + 86400 * dayAhead alarm.gmt w.seconds ≤ w.seconds) ↔
      deadline + 3600 * alarm.gmt - localTime alarm.gmt w.seconds ≤ 0 := by omega
    rw [reached]
    exact ⟨.inl, fun onTime => onTime.resolve_right fun cut => absurd cut.1 (Int.not_le.2 early)⟩
  · have days := wrapped_iff (x := deadline + 3600 * alarm.gmt - 86400 * ahead - localTime alarm.gmt w.seconds % 2 ^ 32)
      (c := ahead - dayAhead alarm.gmt w.seconds) (k := localTime alarm.gmt w.seconds / 2 ^ 32) (by omega) (by omega)
    have parts := Int.emod_add_mul_ediv (localTime alarm.gmt w.seconds) (2 ^ 32)
    rw [show deadline - w.seconds = deadline + 3600 * alarm.gmt - 86400 * ahead - localTime alarm.gmt w.seconds % 2 ^ 32 +
      86400 * ((ahead : Int) - dayAhead alarm.gmt w.seconds) - 2 ^ 32 * (localTime alarm.gmt w.seconds / 2 ^ 32) by omega, days,
      or_iff_right (fun holds => by omega), and_iff_right (Int.not_lt.1 early), sub_nonpos]

theorem remains_second (ready : Ready w p) (supported : 0 ≤ gmt ∧ gmt ≤ 12)
    (created : Creates (artikTimeCreateAlarmSecond gmt second (some none) true w p) alarm)
    (works : w'.gettimeWorks = true) (later : w.seconds ≤ w'.seconds) (held : w'.seconds < 2 ^ 63) :
    Remains alarm w' (w.seconds + second.toNat) ↔ localTime gmt w.seconds + second.toNat < 2 ^ 64 ∧
      OnTime gmt (dayAhead gmt w.seconds) (w.seconds + second.toNat) w'.seconds := by
  obtain ⟨c, created, handle⟩ := created
  rw [artikTimeCreateAlarmSecond] at created
  by_cases zero : second = 0
  · rw [if_pos zero] at created
    cases created
    cases handle
  rw [if_neg zero] at created
  by_cases low : 0 ≤ int second.toUInt32
  · obtain ⟨code, created'⟩ := createSecond_eq ready supported low
    rw [created] at created'
    cases created'
    cases handle
    have clock := localTime_bounds supported w.seconds
    have least := dayAhead_le gmt w.seconds
    have reading : localTime gmt w.seconds = w.seconds + 3600 * gmt - 86400 * dayAhead gmt w.seconds := rfl
    have sum : (UInt64.ofNat (localTime gmt w.seconds).toNat + second).toNat =
        ((localTime gmt w.seconds).toNat + second.toNat) % 2 ^ 64 := by
      rw [UInt64.toNat_add, UInt64.toNat_ofNat_of_lt' (by change _ < 2 ^ 64; omega)]
    by_cases inside : localTime gmt w.seconds + second.toNat < 2 ^ 64
    · rw [remains_iff works supported least (by dsimp only; rw [sum]; omega)]
      exact (and_iff_right inside).symm
    · rw [remains_cut works supported, sum]
      have last := second.toNat_lt
      have wrapped : ((localTime gmt w.seconds).toNat + second.toNat) % 2 ^ 64 =
          (localTime gmt w.seconds).toNat + second.toNat - 2 ^ 64 := by omega
      have low := Int.emod_nonneg (localTime gmt w'.seconds) (show (2 : Int) ^ 32 ≠ 0 by decide)
      refine iff_of_false (fun holds => ?_) (fun holds => inside holds.1)
      have exact := holds.2
      rw [wrapped] at exact
      omega
  · rw [createSecond_refused (by omega)] at created
    cases created
    cases handle

theorem remains_date (ready : Ready w p) (supported : 0 ≤ gmt ∧ gmt ≤ 12) (valid : date.Valid)
    (created : Creates (osTimeCreateAlarmDate gmt true date w p) alarm) (works : w'.gettimeWorks = true) :
    Remains alarm w' (instant gmt date) ↔ OnTime gmt 0 (instant gmt date) w'.seconds := by
  obtain ⟨c, created, handle⟩ := created
  have small : date.year.toNat < 2 ^ 31 := by
    by_contra large
    rw [createDate_late (Nat.not_lt.1 large)] at created
    cases created
    cases handle
  have bounds := timegm_bounds valid small
  have clock := localTime_bounds supported w.seconds
  rw [createDate_eq ready supported valid small] at created
  have ahead : ¬ timegm (civil date 0) - localTime gmt w.seconds < 0 := by
    intro past
    rw [if_pos past] at created
    cases created
  obtain ⟨n, apart⟩ := Int.eq_ofNat_of_zero_le (Int.not_lt.1 ahead)
  have held : (UInt64.ofNat n).toNat = n := UInt64.toNat_ofNat_of_lt' (by change n < 2 ^ 64; omega)
  rw [if_neg ahead, apart, Int.toNat_natCast] at created
  by_cases low : 0 ≤ int (UInt64.ofNat n).toUInt32
  · obtain ⟨code, created'⟩ := createSecond_eq ready supported low
    rw [created] at created'
    cases created'
    cases handle
    have sum : (UInt64.ofNat (localTime gmt w.seconds).toNat + UInt64.ofNat n).toNat = (localTime gmt w.seconds).toNat + n := by
      rw [UInt64.toNat_add, UInt64.toNat_ofNat_of_lt' (by change _ < 2 ^ 64; omega), held, Nat.mod_eq_of_lt (by omega)]
    refine remains_iff works supported (Nat.zero_le 1) ?_
    rw [sum, instant]
    dsimp only
    omega
  · rw [createSecond_refused (by omega)] at created
    cases created
    cases handle

/-- A platform on which everything works. -/
def works : Platform := ⟨true, some fun _ => .ok⟩

/-- Nine in the morning of the first of February 2018. -/
def nineOClock : ArtikTime := ⟨0, 0, 9, 1, 2, 2018, 4, 0⟩

theorem nineOClock_valid : nineOClock.Valid := by
  constructor <;> decide

theorem works_ready (t : Nat) : Ready (reads t) works := ⟨rfl, rfl, rfl⟩

theorem nineOClock_instant : instant 9 nineOClock = januaryEnds + 1 := by decide

end ArtikSdk.Time
