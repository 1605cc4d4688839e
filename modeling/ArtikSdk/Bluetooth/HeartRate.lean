import ArtikSdk.Lib.Bytes

/-!
# Heart rate measurements

`_on_hrp_measurement_received` looks at the first four bytes of a value, whatever its flags say
about the layout, and computes the rate in a byte.
-/

namespace ArtikSdk.Bluetooth.HeartRate
open Lib

inductive Fault where
  | outside
deriving DecidableEq

/-- `artik_bt_hrp_data`, with the array of intervals as a list. -/
structure ArtikBtHrpData where
  bpm : BitVec 16
  energy : BitVec 16
  contact : Bool
  interval : List (BitVec 16)
deriving DecidableEq

/-- `g_variant_get_child_value` of an array, and the child as a byte. -/
def child (val : List Byte) (i : Nat) : Except Fault Byte :=
  match val[i]? with
  | none => .error .outside
  | some b => .ok b

/-- `_on_hrp_measurement_received`: what `BT_EVENT_PF_HEARTRATE` is reported with. Only of a
property `Value` is it used that it is an array of bytes. -/
def onHrpMeasurementReceived (properties : List (String × List Byte)) : Except Fault (Option ArtikBtHrpData) :=
  match properties with
  | [] => .error .outside
  | (key, val) :: _ =>
    if key ≠ "Value" then .ok none
    else if val.length < 3 then .ok none
    else do
      let flags ← child val 0
      let hr ← child val 1
      let ee ← child val 2
      let eeVal ← child val 3
      let format := flags &&& 0x01
      let scStatus := (flags >>> 1) &&& 0x03
      let eeStatus := flags &&& 0x08
      -- the sum is an `int`, and `hr` a byte
      let hr := if format ≠ 0x00 then (hr.setWidth 32 ||| (ee.setWidth 32 <<< 8)).setWidth 8 else hr
      let energy : BitVec 16 := if eeStatus ≠ 0 then eeVal.setWidth 16 else 0
      return some ⟨hr.setWidth 16, energy, scStatus = 3, []⟩

/-! ## Measurements -/

/-- A measurement and its flags byte: bit 0 is the format of the rate, bits 1 and 2 the contact,
bit 3 says that energy is there, and bit 4 that intervals are. -/
structure Measurement where
  flags : Byte
  rate : BitVec 16
  energy : Option (BitVec 16)
  rrIntervals : List (BitVec 16)
  rate_fits : flags &&& 0x01 = 0 → rate < 256
  energy_flag : energy.isSome = decide (flags &&& 0x08 ≠ 0)
  intervals_flag : rrIntervals ≠ [] → flags &&& 0x10 ≠ 0

/-- The low and the high byte. -/
def low (v : BitVec 16) : Byte := v.setWidth 8
def high (v : BitVec 16) : Byte := (v >>> 8).setWidth 8

def word (v : BitVec 16) : List Byte := [low v, high v]

/-- The value of the characteristic. -/
def Measurement.encode (m : Measurement) : List Byte :=
  m.flags :: ((if m.flags &&& 0x01 = 0 then [low m.rate] else word m.rate) ++
    ((m.energy.map word).getD [] ++ m.rrIntervals.flatMap word))

/-- Contact is supported and detected. -/
def Measurement.contact (m : Measurement) : Bool := (m.flags >>> 1) &&& 0x03 = 3

/-- The decoder reports the rate, the contact and the energy, 0 where there is none. -/
def Decoded (m : Measurement) : Prop :=
  ∃ data, onHrpMeasurementReceived [("Value", m.encode)] = .ok (some data) ∧
    data.bpm = m.rate ∧ data.contact = m.contact ∧ data.energy = m.energy.getD 0

/-- It reads only inside the array. -/
def ReadsInside (val : List Byte) : Prop := ∃ data, onHrpMeasurementReceived [("Value", val)] = .ok data

variable {m : Measurement} {flags : Byte}

/-! ## The decoder -/

theorem received_short {val : List Byte} (short : val.length < 3) : onHrpMeasurementReceived [("Value", val)] = .ok none := by
  simp only [onHrpMeasurementReceived, ne_eq, not_true, if_false, if_pos short]

theorem received_outside (flags hr ee : Byte) : onHrpMeasurementReceived [("Value", [flags, hr, ee])] = .error .outside := rfl

theorem sum_low (hr ee : Byte) : (hr.setWidth 32 ||| (ee.setWidth 32 <<< 8)).setWidth 8 = hr := by
  refine BitVec.eq_of_getLsbD_eq fun i inside => ?_
  simp [inside]

/-- The rate is the second byte in either format. -/
theorem received_eq (flags hr ee eeVal : Byte) (rest : List Byte) :
    onHrpMeasurementReceived [("Value", flags :: hr :: ee :: eeVal :: rest)] =
      .ok (some ⟨hr.setWidth 16, if flags &&& 0x08 ≠ 0 then eeVal.setWidth 16 else 0, (flags >>> 1) &&& 0x03 = 3, []⟩) := by
  have long : ¬(flags :: hr :: ee :: eeVal :: rest).length < 3 := by
    simp only [List.length_cons]
    omega
  simp only [onHrpMeasurementReceived, ne_eq, not_true, if_false, if_neg long, sum_low, ite_self]
  rfl

theorem readsInside_iff (val : List Byte) : ReadsInside val ↔ val.length ≠ 3 := by
  match val with
  | [] | [_] | [_, _] => exact iff_of_true ⟨_, received_short (by simp)⟩ (by simp)
  | [flags, hr, ee] =>
    refine iff_of_false ?_ (by simp)
    rintro ⟨data, read⟩
    rw [received_outside] at read
    cases read
  | flags :: hr :: ee :: eeVal :: rest =>
    refine iff_of_true ⟨_, received_eq flags hr ee eeVal rest⟩ ?_
    simp only [List.length_cons]
    omega

/-! ## What is decoded -/

theorem low_eq (v : BitVec 16) : (low v).setWidth 16 = v ↔ v < 256 := by
  have bound := v.isLt
  have limit : (256 : BitVec 16).toNat = 256 := rfl
  rw [low, ← BitVec.toNat_inj, BitVec.lt_def, BitVec.toNat_setWidth, BitVec.toNat_setWidth, limit]
  omega

theorem high_eq (v : BitVec 16) : (high v).setWidth 16 = v ↔ v < 1 := by
  have bound := v.isLt
  have limit : (1 : BitVec 16).toNat = 1 := rfl
  rw [high, ← BitVec.toNat_inj, BitVec.lt_def, BitVec.toNat_setWidth, BitVec.toNat_setWidth, BitVec.toNat_ushiftRight,
    Nat.shiftRight_eq_div_pow, limit, Nat.mod_eq_of_lt (by omega), Nat.mod_eq_of_lt (by omega)]
  omega

/-- A value with four bytes: its second byte is the rate, and its fourth the energy. -/
theorem decoded_layout {hr ee eeVal : Byte} {rest : List Byte} (layout : m.encode = m.flags :: hr :: ee :: eeVal :: rest) :
    Decoded m ↔ hr.setWidth 16 = m.rate ∧ ∀ e ∈ m.energy, eeVal.setWidth 16 = e := by
  rw [Decoded, layout, received_eq]
  have flag := m.energy_flag
  constructor
  · rintro ⟨data, read, rate, -, energy⟩
    cases read
    refine ⟨rate, fun e given => ?_⟩
    rw [given, Option.isSome_some, eq_comm, decide_eq_true_iff] at flag
    rw [if_pos flag, given, Option.getD_some] at energy
    exact energy
  · rintro ⟨rate, energy⟩
    refine ⟨_, rfl, rate, rfl, ?_⟩
    cases given : m.energy with
    | none =>
      rw [given, Option.isSome_none, eq_comm, decide_eq_false_iff_not] at flag
      rw [if_neg flag, Option.getD_none]
    | some e =>
      rw [given, Option.isSome_some, eq_comm, decide_eq_true_iff] at flag
      rw [if_pos flag, Option.getD_some, energy e given]

/-- A value without energy and intervals is too short. -/
theorem not_decoded (energy : m.energy = none) (intervals : m.rrIntervals = []) : ¬Decoded m := by
  rintro ⟨data, read, -⟩
  rw [Measurement.encode, energy, intervals] at read
  by_cases format : m.flags &&& 0x01 = 0
  · rw [if_pos format, received_short (by simp)] at read
    cases read
  · rw [if_neg format] at read
    cases (received_outside m.flags (low m.rate) (high m.rate)).symm.trans read

/-- The bytes behind a rate of one byte. -/
theorem decoded_narrow (format : m.flags &&& 0x01 = 0) (long : m.energy ≠ none ∨ m.rrIntervals ≠ []) :
    Decoded m ↔ ∀ e ∈ m.energy, e < 1 := by
  have rate : (low m.rate).setWidth 16 = m.rate := (low_eq m.rate).2 (m.rate_fits format)
  cases given : m.energy with
  | some e =>
    have layout : m.encode = m.flags :: low m.rate :: low e :: high e :: m.rrIntervals.flatMap word := by
      rw [Measurement.encode, if_pos format, given]
      rfl
    rw [decoded_layout layout, given, and_iff_right rate]
    exact forall₂_congr fun e' same => by
      cases same
      exact high_eq e
  | none =>
    cases intervals : m.rrIntervals with
    | nil => exact absurd long (by simp [given, intervals])
    | cons r rest =>
      have layout : m.encode = m.flags :: low m.rate :: low r :: high r :: rest.flatMap word := by
        rw [Measurement.encode, if_pos format, given, intervals]
        rfl
      rw [decoded_layout layout, given, and_iff_right rate]
      simp

/-- The bytes behind a rate of two bytes. -/
theorem decoded_wide (format : m.flags &&& 0x01 ≠ 0) (long : m.energy ≠ none ∨ m.rrIntervals ≠ []) :
    Decoded m ↔ m.rate < 256 ∧ ∀ e ∈ m.energy, e < 256 := by
  cases given : m.energy with
  | some e =>
    have layout : m.encode = m.flags :: low m.rate :: high m.rate :: low e :: high e :: m.rrIntervals.flatMap word := by
      rw [Measurement.encode, if_neg format, given]
      rfl
    rw [decoded_layout layout, given, low_eq]
    exact and_congr_right fun _ => forall₂_congr fun e' same => by
      cases same
      exact low_eq e
  | none =>
    cases intervals : m.rrIntervals with
    | nil => exact absurd long (by simp [given, intervals])
    | cons r rest =>
      have layout : m.encode = m.flags :: low m.rate :: high m.rate :: low r :: high r :: rest.flatMap word := by
        rw [Measurement.encode, if_neg format, given, intervals]
        rfl
      rw [decoded_layout layout, given, low_eq]
      simp

/-- A measurement is decoded where something stands behind its rate, the rate fits in a byte, and
the energy in the one that is read; and only of three bytes is a fourth read. -/
theorem hrp_iff (m : Measurement) (val : List Byte) :
    (Decoded m ↔
      (m.energy ≠ none ∨ m.rrIntervals ≠ []) ∧ m.rate < 256 ∧
        ∀ e ∈ m.energy, e < if m.flags &&& 0x01 = 0 then 1 else 256) ∧
      (ReadsInside val ↔ val.length ≠ 3) := by
  refine ⟨?_, readsInside_iff val⟩
  by_cases long : m.energy ≠ none ∨ m.rrIntervals ≠ []
  · rw [and_iff_right long]
    by_cases format : m.flags &&& 0x01 = 0
    · rw [decoded_narrow format long, if_pos format, and_iff_right (m.rate_fits format)]
    · rw [decoded_wide format long, if_neg format]
  · refine iff_of_false ?_ fun holds => long holds.1
    rw [not_or, not_not, not_not] at long
    exact not_decoded long.1 long.2

/-- 300 beats a minute in 16 bits with one interval: 44 is reported. Without the interval a byte
behind the array is read. -/
theorem rate_cut :
    (∃ m : Measurement, m.rate = 300 ∧ m.energy = none ∧ ¬Decoded m) ∧ ¬ReadsInside [0x01, 0x2c, 0x01] := by
  refine ⟨⟨⟨0x11, 300, none, [500], by decide, by decide, by decide⟩, rfl, rfl, ?_⟩, ?_⟩
  · rintro ⟨data, read, rate, -⟩
    cases read
    exact absurd rate (by decide)
  · rintro ⟨data, read⟩
    cases read

end ArtikSdk.Bluetooth.HeartRate
