import Mathlib.Data.List.TakeWhile
import ArtikSdk.Base.Dates

/-!
# The signing time on Linux

`convert_asn1_time` of `linux_security.c`. OpenSSL puts a NUL behind the bytes of an ASN.1 string,
so that the length of the text is found and no read is behind it; what is behind a NUL inside the
string is not looked at.
-/

namespace ArtikSdk.Security.Linux
open Lib.Calendar
open ArtikSdk.Time (ArtikTime)

/-- `ASN1_TYPE`, with the bytes of its string. -/
structure Asn1Type where
  type : Int
  data : List UInt8

/-- `V_ASN1_UTCTIME` -/
def vAsn1Utctime : Int := 23

/-- `strlen` -/
def text (data : List UInt8) : List UInt8 := data.takeWhile (· ≠ 0)

def isDigit (b : UInt8) : Bool := 0x30 ≤ b && b ≤ 0x39

/-- `asn1_parse_int` with `n` digits left: the number, and where the pointer is then. -/
def asn1ParseInt : Nat → List UInt8 → UInt32 → Option (UInt32 × List UInt8)
  | 0, p, res => some (res, p)
  | _ + 1, [], _ => none
  | n + 1, b :: p, res => if isDigit b then asn1ParseInt n p (res * 10 + (b.toUInt32 - 0x30)) else none

def convertAsn1Time (input : Asn1Type) : Option ArtikTime := do
  if input.type ≠ vAsn1Utctime then none
  else
    let p := text input.data
    let len := p.length
    let (year, p) ← asn1ParseInt 2 p 0
    let (month, p) ← asn1ParseInt 2 p 0
    let (day, p) ← asn1ParseInt 2 p 0
    let (hour, p) ← asn1ParseInt 2 p 0
    let (minute, p) ← asn1ParseInt 2 p 0
    let (second, p) ← if len > 10 then asn1ParseInt 2 p 0 else some (0, p)
    if len > 12 ∧ p.head? ≠ some 0x5a then none
    else
      let year := year + 100 * (if year < 50 then 1 else 0)
      let year := year + 1900
      some { second, minute, hour, day, month, year, dayOfWeek := 0, msecond := 0 }

/-! ## UTCTime -/

/-- What a UTCTime can denote. -/
structure UtcTime where
  year : Nat
  month : Nat
  day : Nat
  hour : Nat
  minute : Nat
  second : Nat
  window : 1950 ≤ year ∧ year ≤ 2049
  monthRange : 1 ≤ month ∧ month ≤ 12
  dayRange : 1 ≤ day ∧ day ≤ monthDays year (month - 1)
  hourRange : hour < 24
  minuteRange : minute < 60
  secondRange : second < 60

def UtcTime.toArtikTime (t : UtcTime) : ArtikTime where
  second := UInt32.ofNat t.second
  minute := UInt32.ofNat t.minute
  hour := UInt32.ofNat t.hour
  day := UInt32.ofNat t.day
  month := UInt32.ofNat t.month
  year := UInt32.ofNat t.year
  dayOfWeek := 0
  msecond := 0

/-- The two digits of a number. -/
def two (n : Nat) : List UInt8 := [UInt8.ofNat (0x30 + n / 10), UInt8.ofNat (0x30 + n % 10)]

/-- `YYMMDDhhmm` -/
def UtcTime.minutes (t : UtcTime) : List UInt8 := two (t.year % 100) ++ two t.month ++ two t.day ++ two t.hour ++ two t.minute

/-- `YYMMDDhhmmZ` -/
def UtcTime.short (t : UtcTime) : List UInt8 := t.minutes ++ [0x5a]

/-- `YYMMDDhhmmssZ` -/
def UtcTime.long (t : UtcTime) : List UInt8 := t.minutes ++ two t.second ++ [0x5a]

def Denotes (data : List UInt8) (t : UtcTime) : Prop := data = t.long ∨ data = t.short ∧ t.second = 0

/-- Of this string, exactly what it denotes is returned, and nothing where it denotes nothing. -/
def ConvertsAt (data : List UInt8) : Prop :=
  ∀ time, convertAsn1Time ⟨vAsn1Utctime, data⟩ = some time ↔ ∃ t, Denotes data t ∧ time = t.toArtikTime

/-- The text begins with `n` digits. -/
def Digits (p : List UInt8) (n : Nat) : Prop := ∀ k < n, ∃ b, p[k]? = some b ∧ isDigit b = true

/-- Ten digits alone, twelve digits alone, or twelve digits, `Z` and anything, as far as the first NUL. -/
def Lax (data : List UInt8) : Prop :=
  Digits (text data) 10 ∧ ((text data).length = 10 ∨ Digits (text data) 12 ∧ ∀ b ∈ (text data)[12]?, b = 0x5a)

variable {data p : List UInt8} {n m : Nat} {res : UInt32} {t : UtcTime}

/-! ## Numbers -/

theorem Digits.length (digits : Digits p n) : n ≤ p.length := by
  cases n with
  | zero => exact Nat.zero_le _
  | succ n =>
    obtain ⟨b, found, -⟩ := digits n (Nat.lt_succ_self n)
    exact (List.getElem?_eq_some_iff.1 found).1

theorem Digits.split (digits : Digits p (n + m)) : Digits p n ∧ Digits (p.drop n) m := by
  refine ⟨fun k less => digits k (by omega), fun k less => ?_⟩
  rw [List.getElem?_drop]
  exact digits (n + k) (by omega)

theorem Digits.join (first : Digits p n) (second : Digits (p.drop n) m) : Digits p (n + m) := by
  intro k less
  by_cases early : k < n
  · exact first k early
  · have found := second (k - n) (by omega)
    rwa [List.getElem?_drop, show n + (k - n) = k by omega] at found

theorem digits_cons {b : UInt8} : Digits (b :: p) (n + 1) ↔ isDigit b = true ∧ Digits p n := by
  constructor
  · intro digits
    obtain ⟨c, first, digit⟩ := digits 0 (Nat.succ_pos n)
    cases first
    exact ⟨digit, fun k less => digits (k + 1) (by omega)⟩
  · rintro ⟨digit, digits⟩ k less
    cases k with
    | zero => exact ⟨b, rfl, digit⟩
    | succ k => exact digits k (by omega)

/-- A number is read where there are its digits. -/
theorem asn1ParseInt_some {r : UInt32 × List UInt8} (parsed : asn1ParseInt n p res = some r) : Digits p n ∧ r.2 = p.drop n := by
  induction n generalizing p res with
  | zero =>
    cases parsed
    exact ⟨nofun, rfl⟩
  | succ n ih =>
    cases p with
    | nil => cases parsed
    | cons b p =>
      rw [asn1ParseInt] at parsed
      split at parsed
      · rename_i digit
        obtain ⟨digits, rest⟩ := ih parsed
        exact ⟨digits_cons.2 ⟨digit, digits⟩, rest⟩
      · cases parsed

theorem asn1ParseInt_digits (digits : Digits p n) (res : UInt32) : ∃ v, asn1ParseInt n p res = some (v, p.drop n) := by
  induction n generalizing p res with
  | zero => exact ⟨res, rfl⟩
  | succ n ih =>
    cases p with
    | nil => exact absurd digits.length (by simp)
    | cons b p =>
      obtain ⟨digit, digits⟩ := digits_cons.1 digits
      rw [asn1ParseInt, if_pos digit]
      exact ih digits _

theorem asn1ParseInt_two {n : Nat} (small : n < 100) (p : List UInt8) :
    asn1ParseInt 2 (two n ++ p) 0 = some (UInt32.ofNat n, p) := by
  have all : ∀ n < 100, isDigit (UInt8.ofNat (0x30 + n / 10)) = true ∧ isDigit (UInt8.ofNat (0x30 + n % 10)) = true ∧
      (0 * 10 + ((UInt8.ofNat (0x30 + n / 10)).toUInt32 - 0x30)) * 10 + ((UInt8.ofNat (0x30 + n % 10)).toUInt32 - 0x30) =
        UInt32.ofNat n := by decide
  obtain ⟨tens, units, value⟩ := all n small
  rw [two, List.cons_append, List.cons_append, List.nil_append, asn1ParseInt, if_pos tens, asn1ParseInt, if_pos units, asn1ParseInt,
    value]

/-! ## What is accepted -/

theorem lax_of_converts {time : ArtikTime} (converted : convertAsn1Time ⟨vAsn1Utctime, data⟩ = some time) : Lax data := by
  rw [convertAsn1Time, if_neg (by simp)] at converted
  dsimp only at converted
  obtain ⟨⟨year, p₁⟩, parsed, converted⟩ := Option.bind_eq_some_iff.1 converted
  obtain ⟨digits₁, rfl⟩ := asn1ParseInt_some parsed
  obtain ⟨⟨month, p₂⟩, parsed, converted⟩ := Option.bind_eq_some_iff.1 converted
  obtain ⟨digits₂, rfl⟩ := asn1ParseInt_some parsed
  obtain ⟨⟨day, p₃⟩, parsed, converted⟩ := Option.bind_eq_some_iff.1 converted
  obtain ⟨digits₃, rfl⟩ := asn1ParseInt_some parsed
  obtain ⟨⟨hour, p₄⟩, parsed, converted⟩ := Option.bind_eq_some_iff.1 converted
  obtain ⟨digits₄, rfl⟩ := asn1ParseInt_some parsed
  obtain ⟨⟨minute, p₅⟩, parsed, converted⟩ := Option.bind_eq_some_iff.1 converted
  obtain ⟨digits₅, rfl⟩ := asn1ParseInt_some parsed
  simp only [List.drop_drop, Nat.reduceAdd] at digits₂ digits₃ digits₄ digits₅ converted
  have minutes : Digits (text data) 10 := (((digits₁.join digits₂).join digits₃).join digits₄).join digits₅
  refine ⟨minutes, ?_⟩
  by_cases more : (text data).length > 10
  · rw [if_pos more] at converted
    obtain ⟨⟨second, p₆⟩, parsed, converted⟩ := Option.bind_eq_some_iff.1 converted
    obtain ⟨digits₆, rfl⟩ := asn1ParseInt_some parsed
    dsimp only at converted
    refine .inr ⟨minutes.join digits₆, fun b found => ?_⟩
    by_contra other
    have long : (text data).length > 12 := (List.getElem?_eq_some_iff.1 found).1
    rw [List.drop_drop, List.head?_drop, if_pos ⟨long, by rw [found]; simpa using other⟩] at converted
    cases converted
  · have least := minutes.length
    exact .inl (by omega)

theorem converts_of_lax (lax : Lax data) : ∃ time, convertAsn1Time ⟨vAsn1Utctime, data⟩ = some time := by
  obtain ⟨minutes, ends⟩ := lax
  have digits (k : Nat) (inside : k + 2 ≤ 10) : Digits ((text data).drop k) 2 :=
    (Digits.split (n := k) fun j less => minutes j (by omega)).2
  obtain ⟨year, parsed₁⟩ := asn1ParseInt_digits (digits 0 (by decide)) 0
  obtain ⟨month, parsed₂⟩ := asn1ParseInt_digits (digits 2 (by decide)) 0
  obtain ⟨day, parsed₃⟩ := asn1ParseInt_digits (digits 4 (by decide)) 0
  obtain ⟨hour, parsed₄⟩ := asn1ParseInt_digits (digits 6 (by decide)) 0
  obtain ⟨minute, parsed₅⟩ := asn1ParseInt_digits (digits 8 (by decide)) 0
  rw [List.drop_zero] at parsed₁
  rw [List.drop_drop] at parsed₂ parsed₃ parsed₄ parsed₅
  obtain ten | ⟨seconds, zulu⟩ := ends
  · simp [convertAsn1Time, parsed₁, parsed₂, parsed₃, parsed₄, parsed₅, ten]
  · obtain ⟨second, parsed₆⟩ := asn1ParseInt_digits (Digits.split (n := 10) (m := 2) seconds).2 0
    rw [List.drop_drop] at parsed₆
    have length := seconds.length
    have more : (text data).length > 10 := by omega
    have right : ¬ ((text data).length > 12 ∧ (List.drop 12 (text data)).head? ≠ some 0x5a) := by
      rintro ⟨long, other⟩
      rw [List.head?_drop, List.getElem?_eq_getElem long, zulu _ (List.getElem?_eq_getElem long)] at other
      exact other rfl
    simp only [convertAsn1Time, ne_eq, not_true_eq_false, if_false, parsed₁, parsed₂, parsed₃, parsed₄, parsed₅, parsed₆, if_pos more,
      Option.bind_eq_bind, Option.bind_some]
    rw [if_neg right]
    exact ⟨_, rfl⟩

/-! ## What is returned -/

theorem two_nonzero {n : Nat} (small : n < 100) {b : UInt8} (member : b ∈ two n) : b ≠ 0 := by
  have all : ∀ n < 100, ∀ b ∈ two n, b ≠ 0 := by decide +kernel
  exact all n small b member

theorem text_whole (nonzero : ∀ b ∈ data, b ≠ 0) : text data = data :=
  List.takeWhile_eq_self_iff.2 fun b member => decide_eq_true (nonzero b member)

section Utc

variable (t : UtcTime)

theorem UtcTime.monthSmall : t.month < 100 := by
  have range := t.monthRange
  omega

theorem UtcTime.daySmall : t.day < 100 := by
  have range := t.dayRange
  have days : monthDays t.year (t.month - 1) ≤ 31 := by
    unfold monthDays
    split
    · split <;> decide
    · split <;> decide
  omega

theorem UtcTime.minutes_nonzero {b : UInt8} (member : b ∈ t.minutes) : b ≠ 0 := by
  simp only [UtcTime.minutes, List.mem_append] at member
  have hour := t.hourRange
  have minute := t.minuteRange
  obtain (((year | month) | day) | hour') | minute' := member
  · exact two_nonzero (by omega) year
  · exact two_nonzero t.monthSmall month
  · exact two_nonzero t.daySmall day
  · exact two_nonzero (by omega) hour'
  · exact two_nonzero (by omega) minute'

theorem UtcTime.text_short : text t.short = t.short := by
  refine text_whole fun b member => ?_
  obtain minutes | zulu := List.mem_append.1 member
  · exact t.minutes_nonzero minutes
  · rw [List.mem_singleton.1 zulu]
    decide

theorem UtcTime.text_long : text t.long = t.long := by
  refine text_whole fun b member => ?_
  have second := t.secondRange
  obtain digits | zulu := List.mem_append.1 member
  · obtain minutes | seconds := List.mem_append.1 digits
    · exact t.minutes_nonzero minutes
    · exact two_nonzero (by omega) seconds
  · rw [List.mem_singleton.1 zulu]
    decide

/-- The window: 50 and later are of the last century. -/
theorem windowed {year : Nat} (window : 1950 ≤ year ∧ year ≤ 2049) :
    UInt32.ofNat (year % 100) + 100 * (if UInt32.ofNat (year % 100) < 50 then 1 else 0) + 1900 = UInt32.ofNat year := by
  have all : ∀ k < 100, UInt32.ofNat ((1950 + k) % 100) + 100 * (if UInt32.ofNat ((1950 + k) % 100) < 50 then 1 else 0) + 1900 =
      UInt32.ofNat (1950 + k) := by decide
  obtain ⟨k, rfl⟩ := Nat.exists_eq_add_of_le window.1
  exact all k (by omega)

theorem convert_long : convertAsn1Time ⟨vAsn1Utctime, t.long⟩ = some t.toArtikTime := by
  have hour := t.hourRange
  have minute := t.minuteRange
  have second := t.secondRange
  have length : t.long.length = 13 := rfl
  have year := windowed t.window
  simp only [convertAsn1Time, ne_eq, not_true_eq_false, if_false, t.text_long, length]
  simp only [UtcTime.long, UtcTime.minutes, List.append_assoc]
  rw [asn1ParseInt_two (by omega)]
  simp only [Option.bind_eq_bind, Option.bind_some]
  rw [asn1ParseInt_two t.monthSmall]
  simp only [Option.bind_some]
  rw [asn1ParseInt_two t.daySmall]
  simp only [Option.bind_some]
  rw [asn1ParseInt_two (by omega)]
  simp only [Option.bind_some]
  rw [asn1ParseInt_two (by omega)]
  simp only [Option.bind_some]
  rw [if_pos (by decide), asn1ParseInt_two (by omega)]
  simp only [Option.bind_some]
  rw [if_neg (by simp), year]
  rfl

theorem convert_short : convertAsn1Time ⟨vAsn1Utctime, t.short⟩ = none := by
  cases converted : convertAsn1Time ⟨vAsn1Utctime, t.short⟩ with
  | none => rfl
  | some time =>
    have length : (text t.short).length = 11 := congrArg List.length t.text_short
    obtain ⟨-, ten | ⟨seconds, -⟩⟩ := lax_of_converts converted
    · omega
    · have twelve := seconds.length
      omega

end Utc

/-- **A string is converted to what it denotes** exactly when it is not one without seconds, and denotes a time with
seconds where it is in the form that is accepted. -/
theorem convertsAt_iff (data : List UInt8) :
    ConvertsAt data ↔ (¬ ∃ t : UtcTime, t.second = 0 ∧ data = t.short) ∧ (Lax data → ∃ t : UtcTime, data = t.long) := by
  constructor
  · intro converts
    have noShort : ¬ ∃ t : UtcTime, t.second = 0 ∧ data = t.short := by
      rintro ⟨t, whole, rfl⟩
      have converted := (converts t.toArtikTime).2 ⟨t, .inr ⟨rfl, whole⟩, rfl⟩
      rw [convert_short] at converted
      cases converted
    refine ⟨noShort, fun lax => ?_⟩
    obtain ⟨time, converted⟩ := converts_of_lax lax
    obtain ⟨t, long | ⟨short, whole⟩, -⟩ := (converts time).1 converted
    · exact ⟨t, long⟩
    · exact absurd ⟨t, whole, short⟩ noShort
  · rintro ⟨noShort, strict⟩ time
    constructor
    · intro converted
      obtain ⟨t, rfl⟩ := strict (lax_of_converts converted)
      rw [convert_long] at converted
      exact ⟨t, .inl rfl, (Option.some.inj converted).symm⟩
    · rintro ⟨t, rfl | ⟨rfl, whole⟩, rfl⟩
      · exact convert_long t
      · exact absurd ⟨t, whole, rfl⟩ noShort

/-- Noon on New Year's day of 2018. -/
def newYear : UtcTime where
  year := 2018
  month := 1
  day := 1
  hour := 12
  minute := 0
  second := 0
  window := by decide
  monthRange := by decide
  dayRange := by decide
  hourRange := by decide
  minuteRange := by decide
  secondRange := by decide

/-- `1801011200Z` is refused. -/
theorem newYear_refused : ¬ ConvertsAt newYear.short := by
  intro converts
  have converted := (converts newYear.toArtikTime).2 ⟨newYear, .inr ⟨rfl, rfl⟩, rfl⟩
  rw [convert_short] at converted
  cases converted

end ArtikSdk.Security.Linux
