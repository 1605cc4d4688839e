import ArtikSdk.Wifi.Linux
import ArtikSdk.Wifi.Scan

/-!
# The encryption of a network

`os_wifi_get_scan_result` of `linux_wifi.c` reports each network in one word. It translates the member
`encrypt` of the entry, which has the cipher, as if it were `auth`, which has what the network advertises.
-/

namespace ArtikSdk.Wifi.Scan
open Lib

def wifiEncryptionOpen : BitVec 32 := 0

def wifiEncryptionWep : BitVec 32 := 1 <<< 0

def wifiEncryptionWpa : BitVec 32 := 1 <<< 1

def maxApBssidLen : Nat := 18

/-- `artik_wifi_ap` -/
structure Ap where
  name : List Char
  bssid : List Char
  frequency : BitVec 32
  signalLevel : Int
  encryptionFlags : BitVec 32
deriving DecidableEq

/-- The `switch` of `os_wifi_get_scan_result`. -/
def encryptionFlags : SecurityMode → BitVec 32
  | .authOpen => wifiEncryptionOpen
  | .authWpaPsk => wifiEncryptionWpa
  | .authWpaEap => wifiEncryptionWpa
  | .authWpa2Psk => wifiEncryptionWpa2
  | .authWpa2Eap => wifiEncryptionWpa2
  | .encryptWep => wifiEncryptionWep
  | .encryptCcmp => wifiEncryptionWpa2
  | .encryptTkip => wifiEncryptionWpa
  | _ => 0

def apOf (bss : Bss) : Ap where
  name := bss.ssid.take (maxApNameLen - 1)
  bssid := ([':'].intercalate (bss.bssid.map fun b => Nat.toDigits 16 b.toNat)).take (maxApBssidLen - 1)
  frequency := BitVec.ofInt 32 bss.freq
  signalLevel := bss.rssi
  encryptionFlags := encryptionFlags bss.encrypt

/-- `os_wifi_get_scan_result`, what it returns and what it makes `*aps`; `result` is whether there is memory
for it. -/
def osWifiGetScanResult (aps numAps ctrlConn : Bool) (reply : Option (List Char)) (m : Mallocs) (result : Bool) (mode : Mode) :
    Except Fault (ArtikError × Option (List Ap)) :=
  if mode ≠ .station then .ok (.notInitialized, none)
  else if ¬ aps ∨ ¬ numAps then .ok (.badArgs, none)
  else
    (wifiGetScanResult false ctrlConn reply m).map fun scan =>
      match scan with
      | .success bssCount bssList =>
        if bssCount = 0 then (.wifiError, none)
        else if ¬ result then (.noMem, none)
        else (.ok, some (bssList.map apOf))
      | _ => (.wifiError, none)

/-! ## Capabilities -/

/-- A capability, which is shown in brackets. -/
structure Token where
  text : List Char
  clean : '[' ∉ text ∧ ']' ∉ text

def column (ts : List Token) : List Char := ts.flatMap fun t => '[' :: (t.text ++ [']'])

/-- A capability begins with what is advertised: `[WPA2-PSK-CCMP]`, `[WEP]`. -/
def Token.standard (t : Token) : List Char := t.text.takeWhile (· ≠ '-')

def Advertises (standard : List Char) (ts : List Token) : Prop := ∃ t ∈ ts, t.standard = standard

instance (standard : List Char) (ts : List Token) : Decidable (Advertises standard ts) := inferInstanceAs (Decidable (∃ t ∈ ts, _))

/-- The best that a network advertises. -/
def advertised (ts : List Token) : BitVec 32 :=
  if Advertises "WPA2".toList ts then wifiEncryptionWpa2
  else if Advertises "WPA".toList ts then wifiEncryptionWpa
  else if Advertises "WEP".toList ts then wifiEncryptionWep
  else wifiEncryptionOpen

/-- A name that occurs in a capability. -/
def Mentions (name : List Char) (ts : List Token) : Prop := ∃ t ∈ ts, name <:+: t.text

instance (name : List Char) (ts : List Token) : Decidable (Mentions name ts) := inferInstanceAs (Decidable (∃ t ∈ ts, _))

/-- The ciphers are those that go with what is advertised. -/
def Matched (ts : List Token) : Prop :=
  (Mentions "CCMP".toList ts ↔ Advertises "WPA2".toList ts) ∧
    (¬ Advertises "WPA2".toList ts → (Mentions "TKIP".toList ts ↔ Advertises "WPA".toList ts) ∧
      (¬ Advertises "WPA".toList ts → (Mentions "WEP".toList ts ↔ Advertises "WEP".toList ts)))

instance (ts : List Token) : Decidable (Matched ts) := inferInstanceAs (Decidable (_ ∧ _))

variable {ts : List Token} {name : List Char}

/-- A name without brackets is in the column just where it is in a capability. -/
theorem names_column_iff (nonempty : name ≠ []) (opening : '[' ∉ name) (closing : ']' ∉ name) :
    names (column ts) name = true ↔ Mentions name ts := by
  rw [names, strstr_isSome_iff]
  induction ts with
  | nil => exact iff_of_false (fun there => nonempty (List.infix_nil.1 there)) fun ⟨t, member, _⟩ => absurd member List.not_mem_nil
  | cons t ts ih =>
    have shown : column (t :: ts) = [] ++ '[' :: (t.text ++ ']' :: column ts) := by simp [column]
    rw [shown, infix_mark_iff opening, infix_mark_iff closing, ih, Mentions, Mentions]
    simp only [List.infix_nil, nonempty, false_or, List.mem_cons, exists_eq_or_imp]

/-- The word that is reported. -/
theorem encryptionFlags_encryptOf (s : List Char) :
    encryptionFlags (encryptOf s) =
      if names s "CCMP".toList then wifiEncryptionWpa2
      else if names s "TKIP".toList then wifiEncryptionWpa
      else if names s "WEP".toList then wifiEncryptionWep
      else wifiEncryptionOpen := by
  rw [encryptOf]
  split_ifs <;> rfl

/-- A value that only the first branch has. -/
theorem ite_eq_ite_iff {α : Type} {p q : Prop} [Decidable p] [Decidable q] {a x y : α} (left : x ≠ a) (right : y ≠ a) :
    (if p then a else x) = (if q then a else y) ↔ (p ↔ q) ∧ (¬ q → x = y) := by
  by_cases first : p <;> by_cases second : q
  · simp [first, second]
  · simp [first, second, right.symm]
  · simp [first, second, left]
  · simp [first, second]

/-- The word is the best that is advertised just where the ciphers go with it. -/
theorem encryptionFlags_iff (ts : List Token) : encryptionFlags (encryptOf (column ts)) = advertised ts ↔ Matched ts := by
  have tests : ∀ name : String, name.toList ≠ [] → '[' ∉ name.toList → ']' ∉ name.toList →
      (names (column ts) name.toList = true ↔ Mentions name.toList ts) := fun name => names_column_iff
  rw [encryptionFlags_encryptOf, advertised, ite_eq_ite_iff, ite_eq_ite_iff, ite_eq_ite_iff, tests "CCMP" (by decide) (by decide) (by decide),
    tests "TKIP" (by decide) (by decide) (by decide), tests "WEP" (by decide) (by decide) (by decide), Matched]
  · simp only [implies_true, and_true]
  all_goals
    first
      | decide
      | (split_ifs <;> decide)

/-- What is returned are the entries of the first rows. -/
theorem osWifiGetScanResult_rows {r : Reply} {m : Mallocs} {result : Bool} {aps : List Ap}
    (answered : osWifiGetScanResult true true true (some r.text) m result .station = .ok (.ok, some aps)) :
    ∃ k, aps = (r.rows.take k).map fun row => apOf row.bss := by
  rw [osWifiGetScanResult, if_neg (not_not.2 rfl), if_neg (by decide)] at answered
  obtain ⟨scan, scanned, same⟩ := map_ok_iff.1 answered
  cases scan with
  | success n bss =>
    dsimp only at same
    obtain ⟨-, -, -, rfl⟩ := scanResult_success scanned
    split at same
    · cases same
    · split at same
      · cases same
      · cases same
        exact ⟨n.toNat, List.map_map ..⟩
  | error | noControlHandle | wpaCmdReqFail | noAvailableNetworkList => cases same

/-- **The encryption that is reported** of a network is the best that it advertises just where the ciphers in its flags
go with what it advertises. -/
theorem encryption_iff {r : Reply} {m : Mallocs} {result : Bool} {aps : List Ap} {i : Nat} {ap : Ap} {row : Row} {ts : List Token}
    (answered : osWifiGetScanResult true true true (some r.text) m result .station = .ok (.ok, some aps)) (reported : aps[i]? = some ap)
    (there : r.rows[i]? = some row) (flags : row.flags = column ts) : ap.encryptionFlags = advertised ts ↔ Matched ts := by
  obtain ⟨k, rfl⟩ := osWifiGetScanResult_rows answered
  rw [List.getElem?_map, Option.map_eq_some_iff] at reported
  obtain ⟨row', first, rfl⟩ := reported
  have same : row' = row := by
    rw [List.getElem?_take] at first
    split at first
    · exact Option.some.inj (first.symm.trans there)
    · cases first
  change encryptionFlags (encryptOf row'.flags) = advertised ts ↔ _
  rw [same, flags, encryptionFlags_iff]

/-! ## Two networks -/

/-- A network that is alone. -/
theorem osWifiGetScanResult_alone (row : Row) (room : (listed [row]).text.length < bufLen) :
    osWifiGetScanResult true true true (some (listed [row]).text) ⟨true, true, fun _ => true⟩ true .station =
      .ok (.ok, some [apOf row.bss]) := by
  have scanned := scanResult_rows (r := listed [row]) (m := ⟨true, true, fun _ => true⟩) (List.cons_ne_nil _ _) room
    ⟨rfl, fun _ => rfl, fun _ _ => rfl⟩
  rw [osWifiGetScanResult, if_neg (not_not.2 rfl), if_neg (by decide), scanned]
  rfl

/-- A network with one capability. -/
def home (t : Token) (clean : ∀ c ∈ t.text, c ≠ '\t' ∧ c ≠ '\n' ∧ c ≠ '\x00') : Row :=
  sample (column [t]) "home".toList
    (fun c member => by
      obtain rfl | inside | rfl : c = '[' ∨ c ∈ t.text ∨ c = ']' := by simpa [column] using member
      · decide
      · exact clean c inside
      · decide)
    (by simp) (by decide)

theorem home_room {t : Token} {clean} {k : Nat} (length : t.text.length = k) (short : k < 100) :
    (listed [home t clean]).text.length < bufLen := by
  have flags : (column [t]).length = t.text.length + 2 := by simp [column]
  have name : "home".toList.length = 4 := rfl
  rw [listed_length, List.map_singleton, List.sum_singleton, home, sample_length, flags, length, name, bufLen]
  omega

def wpa2Ccmp : Token := ⟨"WPA2-PSK-CCMP".toList, by decide⟩

theorem wpa2Ccmp_clean : ∀ c ∈ "WPA2-PSK-CCMP".toList, c ≠ '\t' ∧ c ≠ '\n' ∧ c ≠ '\x00' := by simp

theorem encryption_iff_wpa2 : (apOf (home wpa2Ccmp wpa2Ccmp_clean).bss).encryptionFlags = advertised [wpa2Ccmp] := by
  have length : wpa2Ccmp.text.length = 13 := rfl
  have answered := osWifiGetScanResult_alone (home wpa2Ccmp wpa2Ccmp_clean) (home_room length (by decide))
  exact (encryption_iff (i := 0) answered rfl rfl rfl).2 (by decide)

/-- The older standard with the newer cipher. -/
def wpaCcmp : Token := ⟨"WPA-PSK-CCMP".toList, by decide⟩

theorem wpaCcmp_clean : ∀ c ∈ "WPA-PSK-CCMP".toList, c ≠ '\t' ∧ c ≠ '\n' ∧ c ≠ '\x00' := by simp

theorem wpaCcmp_reported : ¬ ∀ (r : Reply) (m : Mallocs) (result : Bool) (aps : List Ap) (i : Nat) (ap : Ap) (row : Row) (ts : List Token),
    osWifiGetScanResult true true true (some r.text) m result .station = .ok (.ok, some aps) → aps[i]? = some ap → r.rows[i]? = some row →
      row.flags = column ts → ap.encryptionFlags = advertised ts := by
  intro all
  have length : wpaCcmp.text.length = 12 := rfl
  have answered := osWifiGetScanResult_alone (home wpaCcmp wpaCcmp_clean) (home_room length (by decide))
  have reported := all _ _ _ _ 0 _ _ [wpaCcmp] answered rfl rfl rfl
  exact absurd ((encryptionFlags_iff [wpaCcmp]).1 reported) (by decide)

end ArtikSdk.Wifi.Scan
