import ArtikSdk.Lib.Calendar
import ArtikSdk.Base.Error

/-!
# Setting and reading the time

`os_time_set_time` and `os_time_get_time` of `linux_time.c`. `timegm` and `gmtime` are those
of the civil calendar; a `time_t` holds every second of a year that an `int` holds.
-/

namespace ArtikSdk.Time
open Lib Lib.Calendar

/-- `artik_time`. -/
structure ArtikTime where
  second : UInt32
  minute : UInt32
  hour : UInt32
  day : UInt32
  month : UInt32
  year : UInt32
  dayOfWeek : UInt32
  msecond : UInt32
deriving DecidableEq

/-- `(int)x`. -/
def int (x : UInt32) : Int := x.toBitVec.toInt

/-- `(unsigned int)x`. -/
def unsigned (x : Int) : UInt32 := UInt32.ofBitVec (BitVec.ofInt 32 x)

/-- `CLOCK_REALTIME`, and whether `clock_settime` and `gettimeofday` work. -/
structure World where
  seconds : Nat
  microseconds : Nat
  settimeWorks : Bool
  gettimeWorks : Bool

def epochDef : Nat := 1900

def osTimeSetTime (date : ArtikTime) (gmt : Int) (w : World) : ArtikError × World :=
  if gmt < 0 ∨ gmt > 12 then (.badArgs, w)
  else if int date.second < 0 ∨ int date.second > 59 then (.badArgs, w)
  else if int date.minute < 0 ∨ int date.minute > 59 then (.badArgs, w)
  else if int date.hour < 0 ∨ int date.hour > 23 then (.badArgs, w)
  else if int date.day < 1 ∨ int date.day > 31 then (.badArgs, w)
  else if int date.month < 1 ∨ int date.month > 12 then (.badArgs, w)
  else if int date.year < epochDef then (.badArgs, w)
  else if int date.dayOfWeek < 0 ∨ int date.dayOfWeek > 6 then (.badArgs, w)
  else if int date.msecond < 0 then (.badArgs, w)
  else
    let tmYear := int date.year - epochDef
    let tmMon := int date.month - 1
    let tmHour := int date.hour - gmt
    let tmHour := if tmHour < 0 then 23 else tmHour
    let sec := timegm ⟨(tmYear + epochDef).toNat, tmMon.toNat, int date.day, tmHour, int date.minute, int date.second⟩
    if sec < 0 then (.badArgs, w)
    else if w.settimeWorks then (.ok, { w with seconds := sec.toNat, microseconds := 0 })
    else (.badArgs, w)

def osTimeGetTime (gmt : Int) (w : World) : Except ArtikError ArtikTime :=
  if gmt < 0 ∨ gmt > 12 then .error .badArgs
  else if w.gettimeWorks then
    let rtime := gmtime w.seconds
    -- a `struct tm` counts months from 0 and years from `epochDef`
    let tmHour := (rtime.hour + gmt).tmod 24
    let tmMon : Int := rtime.month + 1
    let tmYear : Int := rtime.year - epochDef + epochDef
    .ok ⟨unsigned rtime.second, unsigned rtime.minute, unsigned tmHour, unsigned rtime.day, unsigned tmMon, unsigned tmYear,
      unsigned (weekday w.seconds), unsigned (w.microseconds / 1000)⟩
  else .error .invalidValue

/-! ## The round trip -/

/-- A date and a time of day that there are, from 1970 on. -/
structure ArtikTime.Valid (date : ArtikTime) : Prop where
  second : date.second.toNat < 60
  minute : date.minute.toNat < 60
  hour : date.hour.toNat < 24
  dayFrom : 1 ≤ date.day.toNat
  dayTo : date.day.toNat ≤ monthDays date.year.toNat (date.month.toNat - 1)
  monthFrom : 1 ≤ date.month.toNat
  monthTo : date.month.toNat ≤ 12
  year : 1970 ≤ date.year.toNat
  dayOfWeek : date.dayOfWeek.toNat < 7
  msecond : date.msecond.toNat < 1000

/-- Setting the time and reading it back gives the same date and time of day. -/
def RoundTrip (w : World) (date : ArtikTime) (gmt : Int) : Prop :=
  ∃ w' date', osTimeSetTime date gmt w = (.ok, w') ∧ osTimeGetTime gmt w' = .ok date' ∧
    date'.year = date.year ∧ date'.month = date.month ∧ date'.day = date.day ∧
    date'.hour = date.hour ∧ date'.minute = date.minute ∧ date'.second = date.second

variable {w : World} {date : ArtikTime} {gmt : Int}

theorem int_eq {x : UInt32} (small : x.toNat < 2 ^ 31) : int x = x.toNat :=
  BitVec.toInt_eq_toNat_of_lt (by change 2 * x.toNat < 2 ^ 32; omega)

theorem int_neg {x : UInt32} (large : 2 ^ 31 ≤ x.toNat) : int x < 0 := by
  have bound := x.toNat_lt
  rw [int, BitVec.toInt_eq_toNat_cond, if_neg (by change ¬ 2 * x.toNat < 2 ^ 32; omega)]
  change (x.toNat : Int) - (2 ^ 32 : Nat) < 0
  omega

theorem unsigned_eq {x : UInt32} {n : Int} (same : n = x.toNat) : unsigned n = x := by
  rw [same, unsigned, BitVec.ofInt_natCast]
  exact UInt32.ofNat_toNat

/-- What `os_time_set_time` hands to `timegm`. -/
def civil (date : ArtikTime) (gmt : Int) : Civil where
  year := date.year.toNat
  month := date.month.toNat - 1
  day := date.day.toNat
  hour := if (date.hour.toNat : Int) < gmt then 23 else date.hour.toNat - gmt
  minute := date.minute.toNat
  second := date.second.toNat

theorem civil_valid (valid : date.Valid) (supported : 0 ≤ gmt ∧ gmt ≤ 12) : (civil date gmt).Valid := by
  obtain ⟨second, minute, hour, dayFrom, dayTo, monthFrom, monthTo, -, -, -⟩ := valid
  refine ⟨?_, ?_, ?_, ?_, ?_, ?_⟩
  · show date.month.toNat - 1 < 12
    omega
  · show 1 ≤ (date.day.toNat : Int)
    omega
  · show (date.day.toNat : Int) ≤ monthDays date.year.toNat (date.month.toNat - 1)
    omega
  · show 0 ≤ (if (date.hour.toNat : Int) < gmt then 23 else (date.hour.toNat : Int) - gmt) ∧
      (if (date.hour.toNat : Int) < gmt then 23 else (date.hour.toNat : Int) - gmt) < 24
    split <;> omega
  · show 0 ≤ (date.minute.toNat : Int) ∧ (date.minute.toNat : Int) < 60
    omega
  · show 0 ≤ (date.second.toNat : Int) ∧ (date.second.toNat : Int) < 60
    omega

/-- The clock after a valid date was set. -/
theorem setTime_eq (valid : date.Valid) (supported : 0 ≤ gmt ∧ gmt ≤ 12) (small : date.year.toNat < 2 ^ 31) :
    osTimeSetTime date gmt w =
      if w.settimeWorks then (.ok, { w with seconds := (timegm (civil date gmt)).toNat, microseconds := 0 }) else (.badArgs, w) := by
  have nonneg := (gmtime_timegm (civil_valid valid supported) valid.year).1
  obtain ⟨second, minute, hour, dayFrom, dayTo, monthFrom, monthTo, year, dayOfWeek, msecond⟩ := valid
  have dayLe : monthDays date.year.toNat (date.month.toNat - 1) ≤ 31 := by
    unfold monthDays
    split <;> split <;> decide
  have shifted : (if (date.hour.toNat : Int) - gmt < 0 then 23 else (date.hour.toNat : Int) - gmt) =
      if (date.hour.toNat : Int) < gmt then 23 else (date.hour.toNat : Int) - gmt := by
    by_cases early : (date.hour.toNat : Int) < gmt
    · rw [if_pos early, if_pos (by omega)]
    · rw [if_neg early, if_neg (by omega)]
  have yearNat : ((date.year.toNat : Int) - epochDef + epochDef).toNat = date.year.toNat := by omega
  have monthNat : ((date.month.toNat : Int) - 1).toNat = date.month.toNat - 1 := by omega
  rw [osTimeSetTime, int_eq (x := date.second) (by omega), int_eq (x := date.minute) (by omega), int_eq (x := date.hour) (by omega),
    int_eq (x := date.day) (by omega), int_eq (x := date.month) (by omega), int_eq (x := date.year) small,
    int_eq (x := date.dayOfWeek) (by omega), int_eq (x := date.msecond) (by omega),
    if_neg (by omega), if_neg (by omega), if_neg (by omega), if_neg (by omega), if_neg (by omega), if_neg (by omega),
    if_neg (by unfold epochDef; omega), if_neg (by omega), if_neg (by omega)]
  dsimp only
  rw [shifted, yearNat, monthNat]
  exact if_neg (Int.not_lt.2 nonneg)

/-- A check in front of what is refused. -/
theorem checked_refused {check : Prop} [Decidable check] {further : ArtikError × World} (refused : further.1 = .badArgs) :
    (if check then (.badArgs, w) else further).1 = .badArgs := by
  split
  · rfl
  · exact refused

/-- A year that an `int` does not hold is refused. -/
theorem setTime_late (large : 2 ^ 31 ≤ date.year.toNat) : (osTimeSetTime date gmt w).1 = .badArgs := by
  have negative := int_neg large
  unfold osTimeSetTime
  -- six checks come before that of the year
  iterate 6 apply checked_refused
  rw [if_pos (show int date.year < epochDef by unfold epochDef; omega)]

/-- The time read after a valid date was set. -/
theorem getTime_eq (valid : date.Valid) (supported : 0 ≤ gmt ∧ gmt ≤ 12) (works : w.gettimeWorks = true)
    (set : w.seconds = (timegm (civil date gmt)).toNat) :
    ∃ date', osTimeGetTime gmt w = .ok date' ∧ date'.year = date.year ∧ date'.month = date.month ∧ date'.day = date.day ∧
      date'.minute = date.minute ∧ date'.second = date.second ∧
      date'.hour = if (date.hour.toNat : Int) < gmt then unsigned (gmt - 1) else date.hour := by
  have back := (gmtime_timegm (civil_valid valid supported) valid.year).2
  have hour : ((if (date.hour.toNat : Int) < gmt then 23 else (date.hour.toNat : Int) - gmt) + gmt).tmod 24 =
      if (date.hour.toNat : Int) < gmt then gmt - 1 else date.hour.toNat := by
    have := valid.hour
    rw [Int.tmod_eq_emod_of_nonneg (by split <;> omega)]
    split <;> omega
  rw [osTimeGetTime, if_neg (by omega), if_pos works, set, back]
  refine ⟨_, rfl, unsigned_eq ?_, unsigned_eq ?_, unsigned_eq rfl, unsigned_eq rfl, unsigned_eq rfl, ?_⟩
  · show (date.year.toNat : Int) - epochDef + epochDef = date.year.toNat
    omega
  · show ((date.month.toNat - 1 : Nat) : Int) + 1 = date.month.toNat
    have := valid.monthFrom
    omega
  · show unsigned (((if (date.hour.toNat : Int) < gmt then 23 else (date.hour.toNat : Int) - gmt) + gmt).tmod 24) = _
    rw [hour]
    split
    · rfl
    · exact unsigned_eq rfl

/-- **When the round trip holds**: not before the hour that `gmt` borrows from the day. -/
theorem roundTrip_iff (valid : date.Valid) (supported : 0 ≤ gmt ∧ gmt ≤ 12) :
    RoundTrip w date gmt ↔
      w.settimeWorks = true ∧ w.gettimeWorks = true ∧ date.year.toNat < 2 ^ 31 ∧ gmt ≤ date.hour.toNat + 1 := by
  have hourBack (early : (date.hour.toNat : Int) < gmt) : unsigned (gmt - 1) = date.hour ↔ gmt = date.hour.toNat + 1 := by
    constructor
    · intro same
      have := congrArg UInt32.toNat same
      rw [unsigned, UInt32.toNat_ofBitVec, BitVec.toNat_ofInt] at this
      omega
    · intro same
      exact unsigned_eq (by omega)
  constructor
  · rintro ⟨w', date', set, get, -, -, -, hour, -, -⟩
    have small : date.year.toNat < 2 ^ 31 := by
      by_contra large
      have refused : (osTimeSetTime date gmt w).1 = .badArgs := setTime_late (Nat.not_lt.1 large)
      rw [set] at refused
      cases refused
    rw [setTime_eq valid supported small] at set
    have setWorks : w.settimeWorks = true := by
      by_contra fails
      rw [if_neg fails] at set
      cases set
    rw [if_pos setWorks] at set
    cases set
    have getWorks : w.gettimeWorks = true := by
      by_contra fails
      rw [osTimeGetTime, if_neg (by omega), if_neg fails] at get
      cases get
    obtain ⟨date'', get', -, -, -, -, -, hour'⟩ :=
      getTime_eq (w := { w with seconds := (timegm (civil date gmt)).toNat, microseconds := 0 }) valid supported getWorks rfl
    rw [get] at get'
    cases get'
    refine ⟨setWorks, getWorks, small, ?_⟩
    by_cases early : (date.hour.toNat : Int) < gmt
    · rw [if_pos early, hour] at hour'
      exact Int.le_of_eq ((hourBack early).1 hour'.symm)
    · omega
  · rintro ⟨setWorks, getWorks, small, late⟩
    obtain ⟨date', get, year, month, day, minute, second, hour⟩ :=
      getTime_eq (w := { w with seconds := (timegm (civil date gmt)).toNat, microseconds := 0 }) valid supported getWorks rfl
    refine ⟨_, date', by rw [setTime_eq valid supported small, if_pos setWorks], get, year, month, day, ?_, minute, second⟩
    rw [hour]
    by_cases early : (date.hour.toNat : Int) < gmt
    · rw [if_pos early]
      exact (hourBack early).2 (by omega)
    · rw [if_neg early]

/-- 2016-02-29 05:30:15. -/
def leapDay (hour : UInt32) : ArtikTime := ⟨15, 30, hour, 29, 2, 2016, 1, 0⟩

theorem leapDay_valid : (leapDay 5).Valid ∧ (leapDay 0).Valid := by
  constructor <;> constructor <;> decide

theorem leapDay_roundTrip : RoundTrip ⟨0, 0, true, true⟩ (leapDay 5) 6 :=
  (roundTrip_iff leapDay_valid.1 (by decide)).2 (by decide)

/-- Half past midnight at GMT+9 is read back as half past eight. -/
theorem midnight_not_roundTrip : ¬ RoundTrip ⟨0, 0, true, true⟩ (leapDay 0) 9 := by
  rintro ⟨w', date', set, get, -, -, -, hour, -⟩
  rw [setTime_eq leapDay_valid.2 (by decide) (by decide), if_pos rfl] at set
  cases set
  obtain ⟨read, get', -, -, -, -, -, hour'⟩ :=
    getTime_eq (w := ⟨(timegm (civil (leapDay 0) 9)).toNat, 0, true, true⟩) leapDay_valid.2 (show 0 ≤ 9 ∧ 9 ≤ 12 by decide) rfl rfl
  rw [get] at get'
  cases get'
  rw [hour'] at hour
  exact absurd hour (by decide)

end ArtikSdk.Time
