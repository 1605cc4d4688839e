import ArtikSdk.Lib.Printf
import ArtikSdk.Wifi.Linux

/-!
# WiFi access points

`os_wifi_start_ap` on Linux and on Tinyara. On Linux it configures hostapd, one request for each
value; on Tinyara it hands a record to `WiFiStart`. Both check the flags in the same way, but on
Tinyara the passphrase goes into the record under a condition that the check has just refused.
-/

namespace ArtikSdk.Wifi.AccessPoint
open Lib

/-- What an access point asks of those who join. -/
inductive Security where
  | openNetwork
  | wpa2 (passphrase : List Char)
deriving DecidableEq

/-- The access point is one of WPA2, with the passphrase, exactly where the flags request that, and
open only where they request nothing. -/
structure Secures (encryptionFlags : BitVec 32) (password : Option (List Char)) (security : Security) : Prop where
  wpa2 : (∃ passphrase, password = some passphrase ∧ security = .wpa2 passphrase) ↔ encryptionFlags &&& wifiEncryptionWpa2 ≠ 0
  unsecured : security = .openNetwork → encryptionFlags = 0

/-! ## Linux -/

namespace Linux

/-- The configuration of hostapd. -/
abbrev Values := List Char → Option (List Char)

/-- hostapd: its configuration, and the one that it runs with. -/
structure Hostapd where
  values : Values
  running : Option Values

/-- A request to hostapd: `DISABLE`, `ENABLE`, or `SET` with a name and a value. -/
def Hostapd.request (h : Hostapd) (cmd : List Char) : Hostapd :=
  if cmd = "DISABLE".toList then { h with running := none }
  else if cmd = "ENABLE".toList then { h with running := h.running.or (some h.values) }
  else if "SET ".toList.isPrefixOf cmd then
    let line := cmd.drop 4
    { h with values := Function.update h.values (line.takeWhile (· ≠ ' ')) (some (line.dropWhile (· ≠ ' ')).tail) }
  else h

/-- The security of a configuration. -/
def Values.security (values : Values) : Option Security :=
  if values "wpa".toList = some "0".toList then some .openNetwork
  else if values "wpa".toList = some "2".toList ∧ values "wpa_key_mgmt".toList = some "WPA-PSK".toList then
    (values "wpa_passphrase".toList).map .wpa2
  else none

/-- `cmd` -/
theorem buffer_positive : 0 < 128 := by decide

def buffer : Printf.Buffer := ⟨128, buffer_positive⟩

def setSsid (ssid : List Char) : List Char := Printf.snprintf buffer "SET ssid %s".toList [.s ssid]

def setChannel (channel : BitVec 32) : List Char := Printf.snprintf buffer "SET channel %d".toList [.d channel.toInt]

def setWpaPassphrase (password : List Char) : List Char := Printf.snprintf buffer "SET wpa_passphrase %s".toList [.s password]

/-- The requests for the security. -/
def securing (password : List Char) (encryptionFlags : BitVec 32) : List (List Char) :=
  if encryptionFlags = 0 then ["SET wpa 0".toList]
  else if encryptionFlags &&& wifiEncryptionWpa2 ≠ 0 then
    ["SET wpa 2".toList, "SET wpa_key_mgmt WPA-PSK".toList, "SET wpa_pairwise TKIP".toList, "SET rsn_pairwise CCMP".toList,
      setWpaPassphrase password]
  else []

/-- What `os_wifi_start_ap` requests once it has a connection. -/
def requests (ssid password : List Char) (channel encryptionFlags : BitVec 32) : List (List Char) :=
  ["DISABLE".toList, setSsid ssid, setChannel channel] ++ securing password encryptionFlags ++ ["ENABLE".toList]

/-- `os_wifi_start_ap`: what it returns, and what it makes of hostapd. -/
def startAp (ssid password : Option (List Char)) (channel encryptionFlags : BitVec 32) (hostapd : Option Hostapd) (s : State) :
    ArtikError × Option Hostapd :=
  let result := osWifiStartAp ssid password channel encryptionFlags hostapd.isSome s
  (result,
    if result = .ok then hostapd.map ((requests (ssid.getD []) (password.getD []) channel encryptionFlags).foldl Hostapd.request)
    else hostapd)

end Linux

/-! ## Tinyara -/

namespace Tinyara

/-- `secmode` of `slsi_security_config_t`, as far as it is set. -/
inductive SecMode where
  | wpa2Ccmp

/-- `slsi_security_config_t` -/
structure SlsiSecurityConfig where
  secmode : SecMode
  passphrase : List Char

/-- `slsi_ap_config_t`; `ssid` has `ssid_len` characters. -/
structure SlsiApConfig where
  beaconPeriod : Nat
  dtim : Nat
  phyMode : Nat
  channel : BitVec 32
  ssid : List Char
  security : Option SlsiSecurityConfig

/-- A null pointer means an open network. -/
def SlsiApConfig.secures (config : SlsiApConfig) : Security :=
  match config.security with
  | none => .openNetwork
  | some sec => .wpa2 sec.passphrase

/-- The results of `WiFiStart`. -/
inductive SlsiStatus where
  | success
  | alreadyStarted
  | failed
deriving DecidableEq

/-- The member `security` of the configuration; `stack` is what its passphrase held before. -/
def security (password : List Char) (encryptionFlags : BitVec 32) (stack : List Char) : Option SlsiSecurityConfig :=
  if encryptionFlags ≠ 0 ∧ encryptionFlags &&& wifiEncryptionWpa2 = 0 then
    some ⟨.wpa2Ccmp, password ++ stack.drop password.length⟩
  else none

/-- `os_wifi_start_ap`: what it returns, and what it hands to `WiFiStart`. `slsiSsidLen` is the
`SLSI_SSID_LEN` of the driver. -/
def osWifiStartAp (slsiSsidLen : Nat) (ssid password : Option (List Char)) (channel encryptionFlags : BitVec 32) (stack : List Char)
    (wiFiStart : SlsiApConfig → SlsiStatus) (gMode : Mode) : ArtikError × Option SlsiApConfig :=
  if gMode ≠ .ap then (.notInitialized, none)
  else if channel.toNat > 14 ∨ channel.toNat < 1 ∨ ssid = none ∨ (ssid.getD []).length > slsiSsidLen then (.badArgs, none)
  else if encryptionFlags ≠ 0 ∧ encryptionFlags &&& wifiEncryptionWpa2 = 0 then (.notSupported, none)
  else if encryptionFlags &&& wifiEncryptionWpa2 ≠ 0 ∧
      (password = none ∨ (password.getD []).length < minApWpa2passLen ∨ (password.getD []).length > maxApWpa2passLen) then (.badArgs, none)
  else
    let config : SlsiApConfig := ⟨100, 2, 1, channel, ssid.getD [], security (password.getD []) encryptionFlags stack⟩
    (if wiFiStart config ≠ .success ∧ wiFiStart config ≠ .alreadyStarted then .wifiError else .ok, some config)

end Tinyara

/-! ## The ports -/

variable {ssid password : Option (List Char)} {channel encryptionFlags : BitVec 32} {s : State}

namespace Linux

variable {h h' : Hostapd} {key value name passphrase : List Char}

/-- A `SET` line. -/
def line (key value : List Char) : List Char := "SET ".toList ++ (key ++ ' ' :: value)

theorem request_line (one : ∀ c ∈ key, c ≠ ' ') :
    h.request (line key value) = { h with values := Function.update h.values key (some value) } := by
  have word : ∀ c ∈ key, decide (c ≠ ' ') = true := fun c member => decide_eq_true (one c member)
  have prefixed : "SET ".toList.isPrefixOf (line key value) = true := by
    rw [List.isPrefixOf_iff_prefix]
    exact List.prefix_append _ _
  have rest : (line key value).drop 4 = key ++ ' ' :: value := rfl
  rw [Hostapd.request, if_neg (by intro same; cases same), if_neg (by intro same; cases same), if_pos prefixed, rest]
  dsimp only
  rw [List.takeWhile_append_of_pos word, List.dropWhile_append_of_pos word, List.takeWhile_cons_of_neg (by decide),
    List.dropWhile_cons_of_neg (by decide), List.append_nil, List.tail_cons]

/-- What fits the buffer is not cut. -/
theorem snprintf_fits {format : List Char} {args : List Printf.Arg} (fits : (Printf.sprintf format args).length < 128) :
    Printf.snprintf buffer format args = Printf.sprintf format args := (Printf.snprintf_eq_iff buffer format args).2 fits

theorem setSsid_eq (short : name.length ≤ maxApNameLen) : setSsid name = line "ssid".toList name := by
  have text : Printf.sprintf "SET ssid %s".toList [.s name] = line "ssid".toList (name ++ []) := rfl
  rw [List.append_nil] at text
  rw [setSsid, snprintf_fits, text]
  rw [text, line, List.length_append, List.length_append, List.length_cons]
  exact Nat.lt_of_le_of_lt (Nat.add_le_add_left (Nat.add_le_add_left (Nat.succ_le_succ short) _) _) (by decide)

theorem setWpaPassphrase_eq (short : passphrase.length ≤ maxApWpa2passLen) :
    setWpaPassphrase passphrase = line "wpa_passphrase".toList passphrase := by
  have text : Printf.sprintf "SET wpa_passphrase %s".toList [.s passphrase] = line "wpa_passphrase".toList (passphrase ++ []) := rfl
  rw [List.append_nil] at text
  rw [setWpaPassphrase, snprintf_fits, text]
  rw [text, line, List.length_append, List.length_append, List.length_cons]
  exact Nat.lt_of_le_of_lt (Nat.add_le_add_left (Nat.add_le_add_left (Nat.succ_le_succ short) _) _) (by decide)

/-- Whatever the number of the channel, it is set. -/
theorem setChannel_eq (channel : BitVec 32) : ∃ number, setChannel channel = line "channel".toList number := by
  have text : Printf.sprintf "SET channel %d".toList [.d channel.toInt] = line "channel".toList ((toString channel.toInt).toList ++ []) := rfl
  exact ⟨((toString channel.toInt).toList ++ []).take 115, by rw [setChannel, Printf.snprintf, text]; rfl⟩

/-- A configuration that is told the values of `lines`. -/
def Values.tell : List (List Char × List Char) → Values → Values
  | [], values => values
  | (key, value) :: lines, values => Values.tell lines (Function.update values key (some value))

theorem request_lines (lines : List (List Char × List Char)) (words : ∀ key ∈ lines.map Prod.fst, ∀ c ∈ key, c ≠ ' ') (h : Hostapd) :
    (lines.map fun l => line l.1 l.2).foldl Hostapd.request h = { h with values := Values.tell lines h.values } := by
  induction lines generalizing h with
  | nil => rfl
  | cons l lines ih =>
    obtain ⟨word, words⟩ := List.forall_mem_cons.1 words
    rw [List.map_cons, List.foldl_cons, request_line word, ih words]
    rfl

/-- hostapd is stopped, told the name, the channel and what `lines` say, and started. -/
theorem requests_run (passphrase : List Char) (channel encryptionFlags : BitVec 32) (lines : List (List Char × List Char)) (short : name.length ≤ maxApNameLen)
    (words : ∀ key ∈ lines.map Prod.fst, ∀ c ∈ key, c ≠ ' ') (secured : securing passphrase encryptionFlags = lines.map fun l => line l.1 l.2)
    (h : Hostapd) :
    ∃ number, ((requests name passphrase channel encryptionFlags).foldl Hostapd.request h).running =
      some (Values.tell (("ssid".toList, name) :: ("channel".toList, number) :: lines) h.values) := by
  obtain ⟨number, set⟩ := setChannel_eq channel
  refine ⟨number, ?_⟩
  have stopped : h.request "DISABLE".toList = { h with running := none } := if_pos rfl
  have first : ∀ c ∈ "ssid".toList, c ≠ ' ' := by simp
  have second : ∀ c ∈ "channel".toList, c ≠ ' ' := by simp
  have told := request_lines (("ssid".toList, name) :: ("channel".toList, number) :: lines)
    (List.forall_mem_cons.2 ⟨first, List.forall_mem_cons.2 ⟨second, words⟩⟩) { h with running := none }
  rw [List.map_cons, List.map_cons, ← setSsid_eq short, ← set, ← secured] at told
  rw [requests, List.cons_append, List.cons_append, List.foldl_cons, List.foldl_append, stopped]
  refine (congrArg (fun h => (Hostapd.request h "ENABLE".toList).running) told).trans ?_
  rfl

theorem open_run (short : name.length ≤ maxApNameLen) (h : Hostapd) :
    ((requests name passphrase channel 0).foldl Hostapd.request h).running.bind Values.security = some .openNetwork := by
  have word : ∀ c ∈ "wpa".toList, c ≠ ' ' := by simp
  obtain ⟨number, runs⟩ := requests_run passphrase channel 0 [("wpa".toList, "0".toList)] short (List.forall_mem_singleton.2 word) rfl h
  rw [runs]
  rfl

theorem wpa2_run (short : name.length ≤ maxApNameLen) (fits : passphrase.length ≤ maxApWpa2passLen)
    (wanted : encryptionFlags &&& wifiEncryptionWpa2 ≠ 0) (h : Hostapd) :
    ((requests name passphrase channel encryptionFlags).foldl Hostapd.request h).running.bind Values.security = some (.wpa2 passphrase) := by
  have some : encryptionFlags ≠ 0 := by
    rintro rfl
    exact wanted (by decide)
  have words : ∀ key ∈ ["wpa".toList, "wpa_key_mgmt".toList, "wpa_pairwise".toList, "rsn_pairwise".toList, "wpa_passphrase".toList],
      ∀ c ∈ key, c ≠ ' ' := by simp
  obtain ⟨number, runs⟩ := requests_run passphrase channel encryptionFlags [("wpa".toList, "2".toList), ("wpa_key_mgmt".toList, "WPA-PSK".toList),
      ("wpa_pairwise".toList, "TKIP".toList), ("rsn_pairwise".toList, "CCMP".toList), ("wpa_passphrase".toList, passphrase)] short words
    (by
      rw [securing, if_neg some, if_pos wanted, setWpaPassphrase_eq fits]
      rfl) h
  rw [runs]
  rfl

end Linux

/-- What both ports have checked of the flags and the passphrase. -/
def Checked (encryptionFlags : BitVec 32) (password : Option (List Char)) : Prop :=
  encryptionFlags = 0 ∨ encryptionFlags &&& wifiEncryptionWpa2 ≠ 0 ∧ ∃ passphrase, password = some passphrase ∧
    passphrase.length ≤ maxApWpa2passLen

theorem checked_of_accepted (flags : ¬ (encryptionFlags ≠ 0 ∧ encryptionFlags &&& wifiEncryptionWpa2 = 0))
    (passphrase : ¬ (encryptionFlags &&& wifiEncryptionWpa2 ≠ 0 ∧
      (password = none ∨ (password.getD []).length < minApWpa2passLen ∨ (password.getD []).length > maxApWpa2passLen))) :
    Checked encryptionFlags password := by
  by_cases none : encryptionFlags = 0
  · exact Or.inl none
  · have wanted : encryptionFlags &&& wifiEncryptionWpa2 ≠ 0 := fun zero => flags ⟨none, zero⟩
    have right := not_or.1 fun wrong => passphrase ⟨wanted, wrong⟩
    obtain ⟨p, rfl⟩ := Option.ne_none_iff_exists'.1 right.1
    exact Or.inr ⟨wanted, p, rfl, Nat.le_of_not_lt (not_or.1 right.2).2⟩

theorem secures_open (flags : encryptionFlags = 0) : Secures encryptionFlags password .openNetwork := by
  refine ⟨iff_of_false ?_ ?_, fun _ => flags⟩
  · rintro ⟨p, -, ⟨⟩⟩
  · rw [flags]
    decide

theorem secures_wpa2 {passphrase : List Char} (wanted : encryptionFlags &&& wifiEncryptionWpa2 ≠ 0) :
    Secures encryptionFlags (some passphrase) (.wpa2 passphrase) := ⟨iff_of_true ⟨passphrase, rfl, rfl⟩ wanted, nofun⟩

/-- **On Linux** an access point that is accepted is secured as the flags request. -/
theorem Linux.startAp_secures (accepted : osWifiStartAp ssid password channel encryptionFlags true s = .ok) (h : Hostapd) :
    ∃ h' security, startAp ssid password channel encryptionFlags (some h) s = (.ok, some h') ∧
      h'.running.bind Values.security = some security ∧ Secures encryptionFlags password security := by
  have started : startAp ssid password channel encryptionFlags (some h) s =
      (.ok, some ((requests (ssid.getD []) (password.getD []) channel encryptionFlags).foldl Hostapd.request h)) := by
    rw [startAp]
    simp only [Option.isSome_some, accepted, if_true, Option.map_some]
  rw [osWifiStartAp] at accepted
  split at accepted
  · cases accepted
  split at accepted
  · cases accepted
  rename_i name
  split at accepted
  · cases accepted
  rename_i flags
  split at accepted
  · cases accepted
  rename_i passphrase
  have short : (ssid.getD []).length ≤ maxApNameLen := by
    simp only [not_or, not_lt] at name
    exact name.2.1
  obtain rfl | ⟨wanted, p, rfl, fits⟩ := checked_of_accepted flags passphrase
  · exact ⟨_, _, started, open_run short h, secures_open rfl⟩
  · exact ⟨_, _, started, wpa2_run short fits wanted h, secures_wpa2 wanted⟩

/-- **On Tinyara** it is always open. -/
theorem Tinyara.osWifiStartAp_open {slsiSsidLen : Nat} {stack : List Char} {wiFiStart : SlsiApConfig → SlsiStatus} {gMode : Mode}
    {result : ArtikError} {config : SlsiApConfig}
    (started : osWifiStartAp slsiSsidLen ssid password channel encryptionFlags stack wiFiStart gMode = (result, some config)) :
    config.secures = .openNetwork ∧ Checked encryptionFlags password := by
  rw [osWifiStartAp] at started
  split at started
  · cases started
  split at started
  · cases started
  split at started
  · cases started
  rename_i flags
  split at started
  · cases started
  rename_i passphrase
  obtain rfl := Option.some.inj (congrArg Prod.snd started)
  refine ⟨?_, checked_of_accepted flags passphrase⟩
  rw [SlsiApConfig.secures, security, if_neg flags]

end ArtikSdk.Wifi.AccessPoint
