import ArtikSdk.Base.Time

/-!
# The clock and the tick

`os_time_get_sys` and `os_time_get_tick` of `linux_time.c`, with `TZ` set to UTC. The kernel keeps
`CLOCK_REALTIME` inside 2^63 nanoseconds, where the product with `1000L` does not leave a `long`.
-/

namespace ArtikSdk.Time
open Lib.Calendar

/-- `struct tm`. -/
structure Tm where
  tmSec : Int
  tmMin : Int
  tmHour : Int
  tmMday : Int
  tmMon : Int
  tmYear : Int
  tmWday : Int
  tmYday : Int

/-- `memset(&tm, byte, sizeof(tm))`, with each `int` of the four bytes being `n`. -/
def Tm.fill (n : Int) : Tm := ⟨n, n, n, n, n, n, n, n⟩

/-- `gmtime` -/
def tmOf (t : Nat) : Tm :=
  let c := gmtime t
  { tmSec := c.second
    tmMin := c.minute
    tmHour := c.hour
    tmMday := c.day
    tmMon := c.month
    tmYear := c.year - epochDef
    tmWday := weekday t
    tmYday := daysBeforeMonth c.year c.month + c.day - 1 }

/-- `mktime`, which normalises the fields and takes no notice of `tm_wday` and `tm_yday`. -/
def mktime (tm : Tm) : Int :=
  timegm (Civil.carryMonth ⟨(tm.tmYear + epochDef).toNat, tm.tmMon.toNat, tm.tmMday, tm.tmHour, tm.tmMin, tm.tmSec⟩)

def osTimeGetSys (gmt : Int) (w : World) : Except ArtikError Tm :=
  if w.gettimeWorks then
    let rtime := tmOf w.seconds
    .ok { rtime with tmHour := (rtime.tmHour + gmt).tmod 24, tmYear := rtime.tmYear + epochDef }
  else .error .badArgs

def osTimeGetTick (w : World) : Int :=
  -- the return code of `os_time_get_sys` is not looked at
  let valCurr := (osTimeGetSys 0 w).toOption.getD (Tm.fill 0)
  let msCurrent := valCurr.tmYday
  let valCurr := { valCurr with tmYday := 0, tmYear := valCurr.tmYear - epochDef, tmMon := valCurr.tmMon + 1 }
  let currInSec := mktime valCurr
  if currInSec = -1 then 0 else currInSec * 1000 + msCurrent.tdiv 1000

/-- The days of the month in which the clock reads `t`. -/
def monthLength (t : Nat) : Nat := monthDays (gmtime t).year (gmtime t).month

/-- The tick does not go back, and the ticks are as far apart as the readings. -/
def Steady (w w' : World) : Prop :=
  osTimeGetTick w ≤ osTimeGetTick w' ∧ osTimeGetTick w' - osTimeGetTick w = 1000 * ((w'.seconds : Int) - w.seconds)

variable {w w' : World}

theorem monthDays_bounds (y m : Nat) : 28 ≤ monthDays y m ∧ monthDays y m ≤ 31 := by
  unfold monthDays
  split <;> split <;> decide

theorem osTimeGetSys_works (works : w.gettimeWorks = true) (gmt : Int) :
    osTimeGetSys gmt w = .ok { tmOf w.seconds with
      tmHour := ((gmtime w.seconds).hour + gmt).tmod 24, tmYear := (gmtime w.seconds).year } := by
  rw [osTimeGetSys, if_pos works]
  simp [tmOf]

/-- `tm_yday`, which is below 1000. -/
theorem tmYday_bounds (t : Nat) : 0 ≤ (tmOf t).tmYday ∧ (tmOf t).tmYday < 366 := by
  obtain ⟨valid, -, -⟩ := timegm_gmtime t
  have dayFrom := valid.dayFrom
  have dayTo := valid.dayTo
  have inside : ((gmtime t).day - 1).toNat < monthDays (gmtime t).year (gmtime t).month := by omega
  have day := dayOfYear_lt valid.month inside
  have year : yearDays (gmtime t).year ≤ 366 := by
    rw [yearDays]
    split <;> decide
  show 0 ≤ (daysBeforeMonth (gmtime t).year (gmtime t).month : Int) + (gmtime t).day - 1 ∧
    (daysBeforeMonth (gmtime t).year (gmtime t).month : Int) + (gmtime t).day - 1 < 366
  omega

/-- The tick is that of the same day of the next month, carried over. -/
theorem tick_eq (works : w.gettimeWorks = true) : osTimeGetTick w = 1000 * (w.seconds + 86400 * monthLength w.seconds) := by
  obtain ⟨valid, from1970, seconds⟩ := timegm_gmtime w.seconds
  obtain ⟨ydayFrom, ydayTo⟩ := tmYday_bounds w.seconds
  have ms : (tmOf w.seconds).tmYday.tdiv 1000 = 0 := by
    rw [Int.tdiv_eq_ediv_of_nonneg ydayFrom]
    omega
  have hour : ((gmtime w.seconds).hour + 0).tmod 24 = (gmtime w.seconds).hour := by
    have := valid.hour
    rw [Int.add_zero, Int.tmod_eq_emod_of_nonneg (by omega)]
    omega
  have month : (((gmtime w.seconds).month : Int) + 1).toNat = (gmtime w.seconds).month + 1 := by omega
  have year : (((gmtime w.seconds).year : Int) - epochDef + epochDef).toNat = (gmtime w.seconds).year := by omega
  have shifted := timegm_nextMonth valid.month
  rw [seconds] at shifted
  rw [osTimeGetTick, osTimeGetSys_works works]
  simp only [Except.toOption, Option.getD_some, mktime, tmOf, hour, month, year] at ms ⊢
  rw [shifted, if_neg (by omega), ms, monthLength]
  ring

/-- **The tick is steady** from a month to another one exactly when they have the same number of days. -/
theorem steady_iff (works : w.gettimeWorks = true) (works' : w'.gettimeWorks = true) (later : w.seconds ≤ w'.seconds) :
    Steady w w' ↔ monthLength w.seconds = monthLength w'.seconds := by
  rw [Steady, tick_eq works, tick_eq works']
  constructor
  · rintro ⟨-, apart⟩
    omega
  · intro same
    rw [same]
    constructor <;> omega

/-- The clock at `t`. -/
def reads (t : Nat) : World := ⟨t, 0, true, true⟩

/-- The last second of January 2018. -/
def januaryEnds : Nat := 1517443199

theorem may_steady : Steady (reads 1526000000) (reads 1527000000) :=
  (steady_iff rfl rfl (by decide)).2 (by decide)

/-- One second later the tick is three days back. -/
theorem february_back : ¬ Steady (reads januaryEnds) (reads (januaryEnds + 1)) := by
  rintro ⟨onward, -⟩
  rw [tick_eq rfl, tick_eq rfl, show monthLength (reads januaryEnds).seconds = 31 by decide,
    show monthLength (reads (januaryEnds + 1)).seconds = 28 by decide] at onward
  exact absurd onward (by decide)

end ArtikSdk.Time
