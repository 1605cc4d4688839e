import Mathlib.Tactic

/-!
# The civil calendar

Seconds since 1970-01-01 00:00:00 UTC against year, month, day and time of day. `timegm`
adds up, so that it accepts any day and time of day and carries them over; `gmtime` takes
years, then months, off the number of days. Each undoes the other on the dates there are. A month
behind December is the next year's.
-/

namespace Lib.Calendar

def leap (y : Nat) : Bool := y % 4 = 0 && (y % 100 ≠ 0 || y % 400 = 0)

def yearDays (y : Nat) : Nat := if leap y then 366 else 365

/-- The days of month `m`, counted from `0`. -/
def monthDays (y m : Nat) : Nat :=
  if m = 1 then if leap y then 29 else 28
  else if m = 3 ∨ m = 5 ∨ m = 8 ∨ m = 10 then 30 else 31

/-- The days of the year before month `m`. -/
def daysBeforeMonth (y : Nat) : Nat → Nat
  | 0 => 0
  | m + 1 => daysBeforeMonth y m + monthDays y m

/-- The leap years before year `y`. -/
def leapsBefore (y : Nat) : Int := ((y : Int) - 1) / 4 - ((y : Int) - 1) / 100 + ((y : Int) - 1) / 400

/-- The days from 1970-01-01 to the first day of year `y`. -/
def daysBeforeYear (y : Nat) : Int := 365 * ((y : Int) - 1970) + leapsBefore y - leapsBefore 1970

/-- A date and a time of day: month from `0`, day from `1`, the day of the week from Sunday. -/
structure Civil where
  year : Nat
  month : Nat
  day : Int
  hour : Int
  minute : Int
  second : Int
deriving DecidableEq

/-- A date that there is. -/
structure Civil.Valid (c : Civil) : Prop where
  month : c.month < 12
  dayFrom : 1 ≤ c.day
  dayTo : c.day ≤ monthDays c.year c.month
  hour : 0 ≤ c.hour ∧ c.hour < 24
  minute : 0 ≤ c.minute ∧ c.minute < 60
  second : 0 ≤ c.second ∧ c.second < 60

/-- Seconds since 1970. -/
def timegm (c : Civil) : Int :=
  (((daysBeforeYear c.year + daysBeforeMonth c.year c.month + (c.day - 1)) * 24 + c.hour) * 60 + c.minute) * 60 + c.second

/-- Take whole years off `d` days, from year `y` on. -/
def takeYears : Nat → Nat → Nat → Nat × Nat
  | 0, y, d => (y, d)
  | fuel + 1, y, d => if d < yearDays y then (y, d) else takeYears fuel (y + 1) (d - yearDays y)

/-- Take whole months off `d` days, from month `m` on. -/
def takeMonths (y : Nat) : Nat → Nat → Nat → Nat × Nat
  | 0, m, d => (m, d)
  | fuel + 1, m, d => if d < monthDays y m then (m, d) else takeMonths y fuel (m + 1) (d - monthDays y m)

/-- The date and time `t` seconds after 1970 began. -/
def gmtime (t : Nat) : Civil :=
  let (year, d) := takeYears (t / 86400) 1970 (t / 86400)
  let (month, d) := takeMonths year 12 0 d
  { year, month, day := d + 1, hour := t % 86400 / 3600, minute := t % 3600 / 60, second := t % 60 }

/-- The day of the week of that day. -/
def weekday (t : Nat) : Nat := (t / 86400 + 4) % 7

/-! ## Years and months -/

/-- The days of `n` years from `y` on. -/
def daysOfYears (y : Nat) : Nat → Nat
  | 0 => 0
  | n + 1 => yearDays y + daysOfYears (y + 1) n

theorem daysBeforeYear_succ (y : Nat) : daysBeforeYear (y + 1) = daysBeforeYear y + yearDays y := by
  have leaps : leapsBefore (y + 1) = leapsBefore y + if leap y then 1 else 0 := by
    simp only [leapsBefore, leap, Bool.and_eq_true, Bool.or_eq_true, decide_eq_true_eq]
    push_cast
    split <;> omega
  rw [daysBeforeYear, daysBeforeYear, leaps, yearDays]
  push_cast
  split <;> ring

theorem daysBeforeYear_add (y n : Nat) : daysBeforeYear (y + n) = daysBeforeYear y + daysOfYears y n := by
  induction n generalizing y with
  | zero => simp [daysOfYears]
  | succ n ih =>
    rw [show y + (n + 1) = y + 1 + n by omega, ih, daysBeforeYear_succ, daysOfYears]
    push_cast
    ring

theorem daysOfYears_le (y n : Nat) : n ≤ daysOfYears y n := by
  induction n generalizing y with
  | zero => exact Nat.le_refl _
  | succ n ih =>
    have days : 1 ≤ yearDays y := by
      rw [yearDays]
      split <;> decide
    have := ih (y + 1)
    rw [daysOfYears]
    omega

theorem daysOfYears_upper (y n : Nat) : daysOfYears y n ≤ 366 * n := by
  induction n generalizing y with
  | zero => exact Nat.le_refl _
  | succ n ih =>
    have days : yearDays y ≤ 366 := by
      rw [yearDays]
      split <;> decide
    have := ih (y + 1)
    rw [daysOfYears]
    omega

theorem takeYears_eq {y n d fuel : Nat} (inside : d < yearDays (y + n)) (enough : n ≤ fuel) :
    takeYears fuel y (daysOfYears y n + d) = (y + n, d) := by
  induction n generalizing y fuel with
  | zero =>
    cases fuel with
    | zero => simp [takeYears, daysOfYears]
    | succ fuel => simp [takeYears, daysOfYears, show d < yearDays y from inside]
  | succ n ih =>
    cases fuel with
    | zero => cases enough
    | succ fuel =>
      have next : takeYears fuel (y + 1) (daysOfYears (y + 1) n + d) = (y + 1 + n, d) :=
        ih (by rw [show y + 1 + n = y + (n + 1) by omega]; exact inside) (Nat.le_of_succ_le_succ enough)
      rw [takeYears, daysOfYears, if_neg (by omega), show yearDays y + daysOfYears (y + 1) n + d - yearDays y =
        daysOfYears (y + 1) n + d by omega, next, show y + 1 + n = y + (n + 1) by omega]

theorem daysBeforeMonth_mono (y : Nat) : Monotone (daysBeforeMonth y) :=
  monotone_nat_of_le_succ fun _ => Nat.le_add_right _ _

theorem takeMonths_eq {y m n d fuel : Nat} (inside : d < monthDays y (m + n)) (enough : n < fuel) :
    takeMonths y fuel m (daysBeforeMonth y (m + n) - daysBeforeMonth y m + d) = (m + n, d) := by
  induction n generalizing m fuel with
  | zero =>
    cases fuel with
    | zero => cases enough
    | succ fuel => simp [takeMonths, show d < monthDays y m from inside]
  | succ n ih =>
    have later := daysBeforeMonth_mono y (Nat.le_add_right (m + 1) n)
    have first : daysBeforeMonth y (m + 1) = daysBeforeMonth y m + monthDays y m := rfl
    have reorder : m + 1 + n = m + (n + 1) := by omega
    cases fuel with
    | zero => cases enough
    | succ fuel =>
      have next := ih (m := m + 1) (by rw [reorder]; exact inside) (Nat.lt_of_succ_lt_succ enough)
      rw [reorder] at later next
      rw [takeMonths, if_neg (by omega), show daysBeforeMonth y (m + (n + 1)) - daysBeforeMonth y m + d - monthDays y m =
        daysBeforeMonth y (m + (n + 1)) - daysBeforeMonth y (m + 1) + d by omega, next]

theorem daysBeforeMonth_year (y : Nat) : daysBeforeMonth y 12 = yearDays y := by
  simp only [daysBeforeMonth, monthDays, yearDays]
  cases leap y <;> decide

/-- A day of a month is a day of the year. -/
theorem dayOfYear_lt {y m d : Nat} (month : m < 12) (inside : d < monthDays y m) : daysBeforeMonth y m + d < yearDays y := by
  have whole := daysBeforeMonth_mono y (show m + 1 ≤ 12 from month)
  rw [daysBeforeMonth_year, daysBeforeMonth] at whole
  omega

/-! ## The round trip -/

/-- The number of the day of a date from 1970 on, and the second of the day. -/
theorem timegm_eq {c : Civil} (valid : c.Valid) (from1970 : 1970 ≤ c.year) :
    ∃ d s : Nat, c.day = d + 1 ∧ d < monthDays c.year c.month ∧ s < 86400 ∧
      c.hour = s / 3600 ∧ c.minute = s % 3600 / 60 ∧ c.second = s % 60 ∧
      timegm c = ((daysOfYears 1970 (c.year - 1970) + (daysBeforeMonth c.year c.month + d)) * 86400 + s : Nat) := by
  obtain ⟨-, dayFrom, dayTo, hour, minute, second⟩ := valid
  obtain ⟨d, day⟩ := Int.eq_ofNat_of_zero_le (show 0 ≤ c.day - 1 by omega)
  obtain ⟨h, hourNat⟩ := Int.eq_ofNat_of_zero_le hour.1
  obtain ⟨mi, minuteNat⟩ := Int.eq_ofNat_of_zero_le minute.1
  obtain ⟨se, secondNat⟩ := Int.eq_ofNat_of_zero_le second.1
  have years : daysBeforeYear c.year = daysOfYears 1970 (c.year - 1970) := by
    have := daysBeforeYear_add 1970 (c.year - 1970)
    rw [show 1970 + (c.year - 1970) = c.year by omega, show daysBeforeYear 1970 = 0 by decide, Int.zero_add] at this
    exact this
  refine ⟨d, h * 3600 + mi * 60 + se, by omega, by omega, by omega, by omega, by omega, by omega, ?_⟩
  rw [timegm, years, day, hourNat, minuteNat, secondNat]
  push_cast
  ring

/-- **`gmtime` undoes `timegm`** from 1970 on. -/
theorem gmtime_timegm {c : Civil} (valid : c.Valid) (from1970 : 1970 ≤ c.year) :
    0 ≤ timegm c ∧ gmtime (timegm c).toNat = c := by
  obtain ⟨d, s, day, inside, less, hour, minute, second, seconds⟩ := timegm_eq valid from1970
  have year : 1970 + (c.year - 1970) = c.year := by omega
  rw [seconds]
  refine ⟨Int.natCast_nonneg _, ?_⟩
  rw [Int.toNat_natCast]
  have days : ((daysOfYears 1970 (c.year - 1970) + (daysBeforeMonth c.year c.month + d)) * 86400 + s) / 86400 =
      daysOfYears 1970 (c.year - 1970) + (daysBeforeMonth c.year c.month + d) := by omega
  have months : takeMonths c.year 12 0 (daysBeforeMonth c.year (0 + c.month) - daysBeforeMonth c.year 0 + d) = (0 + c.month, d) :=
    takeMonths_eq (by rw [Nat.zero_add]; exact inside) valid.month
  rw [Nat.zero_add, show daysBeforeMonth c.year 0 = 0 from rfl, Nat.sub_zero] at months
  have enough := daysOfYears_le 1970 (c.year - 1970)
  have years : takeYears (daysOfYears 1970 (c.year - 1970) + (daysBeforeMonth c.year c.month + d)) 1970
      (daysOfYears 1970 (c.year - 1970) + (daysBeforeMonth c.year c.month + d)) =
      (1970 + (c.year - 1970), daysBeforeMonth c.year c.month + d) :=
    takeYears_eq (by rw [year]; exact dayOfYear_lt valid.month inside) (by omega)
  rw [year] at years
  obtain ⟨y, m, day', hour', minute', second'⟩ := c
  simp only at *
  rw [gmtime, days, years]
  dsimp only
  rw [months]
  simp only [Civil.mk.injEq, true_and]
  omega

/-! ## From the seconds -/

/-- Whole years are taken off until what is left is inside a year. -/
theorem takeYears_spec {y d fuel : Nat} (enough : d ≤ fuel) :
    ∃ n r, takeYears fuel y d = (y + n, r) ∧ daysOfYears y n + r = d ∧ r < yearDays (y + n) := by
  have positive (y : Nat) : 0 < yearDays y := by
    rw [yearDays]
    split <;> decide
  induction fuel generalizing y d with
  | zero =>
    obtain rfl : d = 0 := Nat.le_zero.1 enough
    exact ⟨0, 0, rfl, rfl, positive y⟩
  | succ fuel ih =>
    rw [takeYears]
    by_cases inside : d < yearDays y
    · rw [if_pos inside]
      exact ⟨0, d, rfl, Nat.zero_add d, inside⟩
    · rw [if_neg inside]
      have less := positive y
      obtain ⟨n, r, taken, sum, rest⟩ := ih (y := y + 1) (d := d - yearDays y) (by omega)
      have reorder : y + 1 + n = y + (n + 1) := by omega
      rw [reorder] at taken rest
      refine ⟨n + 1, r, taken, ?_, rest⟩
      rw [daysOfYears]
      omega

/-- Whole months are taken off until what is left is inside a month. -/
theorem takeMonths_spec {y m d fuel : Nat} (inside : daysBeforeMonth y m + d < daysBeforeMonth y (m + fuel)) :
    ∃ n r, takeMonths y fuel m d = (n, r) ∧ n < m + fuel ∧ daysBeforeMonth y n + r = daysBeforeMonth y m + d ∧ r < monthDays y n := by
  induction fuel generalizing m d with
  | zero =>
    rw [Nat.add_zero] at inside
    omega
  | succ fuel ih =>
    rw [takeMonths]
    by_cases first : d < monthDays y m
    · rw [if_pos first]
      exact ⟨m, d, rfl, by omega, rfl, first⟩
    · rw [if_neg first]
      have next : daysBeforeMonth y (m + 1) = daysBeforeMonth y m + monthDays y m := rfl
      have reorder : m + 1 + fuel = m + (fuel + 1) := by omega
      obtain ⟨n, r, taken, less, sum, rest⟩ := ih (m := m + 1) (d := d - monthDays y m) (by rw [reorder, next]; omega)
      exact ⟨n, r, taken, by omega, by omega, rest⟩

/-- **`timegm` undoes `gmtime`**, which gives dates that there are. -/
theorem timegm_gmtime (t : Nat) : (gmtime t).Valid ∧ 1970 ≤ (gmtime t).year ∧ timegm (gmtime t) = t := by
  obtain ⟨n, d, years, daySum, inYear⟩ := takeYears_spec (y := 1970) (Nat.le_refl (t / 86400))
  have whole : daysBeforeMonth (1970 + n) 0 + d < daysBeforeMonth (1970 + n) (0 + 12) := by
    rw [Nat.zero_add, daysBeforeMonth_year, daysBeforeMonth]
    omega
  obtain ⟨m, r, months, less, monthSum, inMonth⟩ := takeMonths_spec whole
  have before : daysBeforeYear (1970 + n) = daysOfYears 1970 n := by
    rw [daysBeforeYear_add, show daysBeforeYear 1970 = 0 by decide, Int.zero_add]
  rw [daysBeforeMonth, Nat.zero_add] at monthSum
  rw [gmtime, years]
  dsimp only
  rw [months]
  refine ⟨⟨by simpa using less, by simp, ?_, ?_, ?_, ?_⟩, Nat.le_add_right _ _, ?_⟩
  · show (r : Int) + 1 ≤ monthDays (1970 + n) m
    omega
  · show 0 ≤ (t : Int) % 86400 / 3600 ∧ (t : Int) % 86400 / 3600 < 24
    omega
  · show 0 ≤ (t : Int) % 3600 / 60 ∧ (t : Int) % 3600 / 60 < 60
    omega
  · show 0 ≤ (t : Int) % 60 ∧ (t : Int) % 60 < 60
    omega
  · rw [timegm]
    dsimp only
    rw [before]
    omega

/-- A month behind December, carried over to the year. -/
def Civil.carryMonth (c : Civil) : Civil := { c with year := c.year + c.month / 12, month := c.month % 12 }

theorem Civil.carryMonth_eq {c : Civil} (inside : c.month < 12) : c.carryMonth = c := by
  obtain ⟨y, m, d, h, mi, s⟩ := c
  simp only [carryMonth] at *
  rw [Nat.div_eq_of_lt inside, Nat.mod_eq_of_lt inside, Nat.add_zero]

/-- One month on is later by the days of the month. -/
theorem timegm_nextMonth {c : Civil} (inside : c.month < 12) :
    timegm { c with month := c.month + 1 }.carryMonth = timegm c + 86400 * monthDays c.year c.month := by
  rw [timegm, timegm, Civil.carryMonth]
  dsimp only
  by_cases december : c.month = 11
  · have year := daysBeforeMonth_year c.year
    rw [december, Nat.div_self (by decide), Nat.mod_self, daysBeforeYear_succ, ← year]
    simp only [daysBeforeMonth]
    push_cast
    ring
  · rw [Nat.div_eq_of_lt (by omega), Nat.mod_eq_of_lt (by omega), Nat.add_zero, daysBeforeMonth]
    push_cast
    ring

end Lib.Calendar
