import ArtikSdk.Lib.Run
import ArtikSdk.Lib.Search
import ArtikSdk.Lib.Tokens
import ArtikSdk.Lib.Traced
import ArtikSdk.Wifi.Numbers

/-!
# WiFi scan results

`wifi_get_scan_result` of `wifi.c` to the letter. The reply to `SCAN_RESULTS` is received into a buffer
of zeros. Its newlines are counted from the second cell on to the one behind the reply, and as many rows
are read off it as were counted. A pointer is the list of the cells from it to the end of the buffer.
-/

namespace ArtikSdk.Wifi.Scan
open Lib
open Websocket (atoi strtok)

/-- A read or a write outside of a buffer or an entry, one through a null pointer, or a value that C does not define. -/
inductive Fault where
  | outside
  | null
  | undefined
deriving DecidableEq

/-- `enum wifi_security_mode`; `unset` is its zero. -/
inductive SecurityMode where
  | unset
  | authOpen
  | authWpaPsk
  | authWpaEap
  | authWpa2Psk
  | authWpa2Eap
  | encryptNone
  | encryptWep
  | encryptTkip
  | encryptCcmp
  | wpsOn
deriving DecidableEq

/-- `wifi_scan_bss`, of which the SSID is the string that it holds. -/
structure Bss where
  bssid : List Byte
  ssid : List Char
  freq : Int
  rssi : Int
  auth : SecurityMode
  encrypt : SecurityMode
  wps : SecurityMode
deriving DecidableEq

/-- What `malloc` has for the result, for its list, and for the flags of each row. -/
structure Mallocs where
  bssinfo : Bool
  bssList : Bool
  strflag : Nat → Bool

/-! ## The flags -/

def names (strflag : List Char) (token : List Char) : Bool := (strstr token strflag).isSome

def authOf (strflag : List Char) : SecurityMode :=
  if names strflag "WPA2".toList then
    if names strflag "PSK".toList then .authWpa2Psk
    else if names strflag "EAP".toList then .authWpa2Eap
    else .unset
  else if names strflag "WPA".toList then
    if names strflag "PSK".toList then .authWpaPsk
    else if names strflag "EAP".toList then .authWpaEap
    else .unset
  else .authOpen

def encryptOf (strflag : List Char) : SecurityMode :=
  if names strflag "CCMP".toList then .encryptCcmp
  else if names strflag "TKIP".toList then .encryptTkip
  else if names strflag "WEP".toList then .encryptWep
  else .unset

def wpsOf (strflag : List Char) : SecurityMode := if names strflag "WPS".toList then .wpsOn else .unset

/-! ## The cells -/

/-- The string at a pointer. -/
def text (pos : List Char) : List Char := pos.takeWhile (· ≠ '\x00')

/-- `while (*pos != '\t') pos++; pos++;`, which does not mind the end of the string. -/
def skipTab (pos : List Char) : Except Fault (List Char) :=
  match pos.dropWhile (· ≠ '\t') with
  | [] => .error .outside
  | _ :: pos => .ok pos

/-- `os_strstr(pos, "\n")`: the line up to there, and what is behind it. -/
def strstrEol (pos : List Char) : Except Fault (Option (List Char × List Char)) :=
  match strstr ['\n'] (text pos) with
  | some (line, _) => .ok (some (line, pos.drop (line.length + 1)))
  | none => if '\x00' ∈ pos then .ok none else .error .outside

def number (pos : List Char) : Except Fault Int := (atoi pos).mapError fun _ => .undefined

/-- `_atomac`; `strtol(NULL, NULL, 16)` reads through a null pointer. -/
def atomac (strMac : Option (List Char)) : Except Fault (List Byte) :=
  match strMac with
  | none => .error .null
  | some strMac =>
    if (tokens ':' strMac).length < 6 then .error .null
    else .ok (((tokens ':' strMac).take 6).map fun token => BitVec.ofInt 8 (strtol16 token))

/-- Where `strtok(pos, "\t")` writes a null. -/
def tokenEnd (pos : List Char) : Nat :=
  (pos.takeWhile (· = '\t')).length + ((pos.dropWhile (· = '\t')).takeWhile (· ≠ '\t')).length

/-- `_wifi_set_security_mode`: `os_strlcpy` copies the whole column, and then reads on to the next null. -/
def setSecurityMode (malloc : Bool) (chflag : List Char) : Except Fault (SecurityMode × SecurityMode × SecurityMode) :=
  if '\t' ∉ chflag then .error .outside
  else if ¬ malloc then .error .null
  else if '\x00' ∉ chflag then .error .outside
  else
    let strflag := text (chflag.takeWhile (· ≠ '\t'))
    .ok (authOf strflag, encryptOf strflag, wpsOf strflag)

/-! ## The rows -/

/-- `ssid[SSID_LENGTH]` is followed by two bytes of padding in front of `freq`. -/
def ssidRoom : Nat := 34

/-- The entry of the row at a pointer, and the pointer to the next row. -/
def scanRow (malloc : Bool) (pos : List Char) : Except Fault (Bss × List Char) := do
  let bssid ← atomac (strtok (text pos) '\t')
  let pos := (pos.set (tokenEnd (text pos)) '\x00').drop 18
  let freq ← number pos
  let pos ← skipTab pos
  let rssi ← number pos
  let pos ← skipTab pos
  let (auth, encrypt, wps) ← setSecurityMode malloc pos
  let pos ← skipTab pos
  match ← strstrEol pos with
  | none => .error .undefined
  | some (ssid, pos) =>
    if ssid.length < ssidRoom then .ok (⟨bssid, ssid, freq, rssi, auth, encrypt, wps⟩, pos) else .error .outside

/-- The loop over the rows from `i` on. -/
def scanRows (strflag : Nat → Bool) : Nat → Nat → List Char → Except Fault (List Bss)
  | 0, _, _ => .ok []
  | k + 1, i, pos => do
    let (bss, pos) ← scanRow (strflag i) pos
    (scanRows strflag k (i + 1) pos).map (bss :: ·)

def countEols (bsslist : List Char) : Nat → Nat → Int → Except Fault Int
  | 0, _, bssCount => .ok bssCount
  | k + 1, idx, bssCount =>
    -- `idx++` comes before the cell is read
    match bsslist[idx + 1]? with
    | none => .error .outside
    | some c => countEols bsslist k (idx + 1) (if c = '\n' then bssCount + 1 else bssCount)

def wifiGetBssCount (bsslist : List Char) (len : Nat) : Except Fault Int := (countEols bsslist len 0 0).map (· - 1)

/-! ## The call -/

inductive ScanResult where
  | success (bssCount : Int) (bssList : List Bss)
  | error
  | noControlHandle
  | wpaCmdReqFail
  | noAvailableNetworkList
deriving DecidableEq

/-- `char buf[8192]` -/
def bufLen : Nat := 8192

/-- `buf`, in which a reply was received. -/
def received (reply : List Char) : List Char := reply ++ List.replicate (bufLen - reply.length) '\x00'

/-- What `wifi_get_scan_result` makes of the reply in `buf`. -/
def parseReply (reply : List Char) (m : Mallocs) : Except Fault ScanResult :=
  if ¬ m.bssinfo then .error .null
  else do
    let bssCount ← wifiGetBssCount (received reply) reply.length
    match ← strstrEol (received reply) with
    | none => .ok .noAvailableNetworkList
    | some (_, pos) =>
      -- as a size a negative count is more than there is memory
      if bssCount < 0 ∨ 0 < bssCount ∧ ¬ m.bssList then .error .null
      else (scanRows m.strflag bssCount.toNat 0 pos).map fun bss => .success bssCount bss

/-- `wifi_get_scan_result`: whether `*bssinfo` is set, whether there is a connection, and the reply of
the supplicant, of which `recv` keeps what the buffer has room for. -/
def wifiGetScanResult (bssinfo ctrlConn : Bool) (reply : Option (List Char)) (m : Mallocs) : Except Fault ScanResult :=
  if bssinfo then .ok .error
  else if ¬ ctrlConn then .ok .noControlHandle
  else
    match reply with
    | none => .ok .wpaCmdReqFail
    | some reply => parseReply (reply.take bufLen) m

/-! ## The replies -/

/-- A row of the reply to `SCAN_RESULTS`. -/
structure Row where
  bssid : List Byte
  freq : Int
  rssi : Int
  flags : List Char
  ssid : List Char
  six : bssid.length = 6
  freqInt : -2 ^ 31 ≤ freq ∧ freq < 2 ^ 31
  rssiInt : -2 ^ 31 ≤ rssi ∧ rssi < 2 ^ 31
  flagsClean : ∀ c ∈ flags, c ≠ '\t' ∧ c ≠ '\n' ∧ c ≠ '\x00'
  ssidClean : ∀ c ∈ ssid, c ≠ '\n' ∧ c ≠ '\x00'
  ssidShort : ssid.length ≤ 32

def Row.mac (row : Row) : List Char := [':'].intercalate (row.bssid.map hexByte)

def Row.text (row : Row) : List Char :=
  row.mac ++ '\t' :: ((Printf.Arg.d row.freq).text ++ '\t' :: ((Printf.Arg.d row.rssi).text ++ '\t' :: (row.flags ++ '\t' :: (row.ssid ++ ['\n']))))

/-- The entry of a row. -/
def Row.bss (row : Row) : Bss := ⟨row.bssid, row.ssid, row.freq, row.rssi, authOf row.flags, encryptOf row.flags, wpsOf row.flags⟩

/-- A header line, and rows. -/
structure Reply where
  header : List Char
  rows : List Row
  headerClean : ∀ c ∈ header, c ≠ '\n' ∧ c ≠ '\x00'

def Reply.text (r : Reply) : List Char := r.header ++ '\n' :: r.rows.flatMap Row.text

/-- There is memory for everything. -/
def Mallocs.Suffice (m : Mallocs) (rows : Nat) : Prop := m.bssinfo ∧ (0 < rows → m.bssList) ∧ ∀ i < rows, m.strflag i

/-! ## Reading a row -/

variable {row : Row} {rows : List Row} {s t header : List Char} {c : Char} {i : Int} {malloc : Bool}

theorem skipTab_append (clean : ∀ c ∈ s, c ≠ '\t') : skipTab (s ++ '\t' :: t) = .ok t := by
  have passed : ∀ c ∈ s, decide (c ≠ '\t') = true := fun c member => decide_eq_true (clean c member)
  rw [skipTab, List.dropWhile_append_of_pos passed, List.dropWhile_cons_of_neg (by decide)]

/-- A string goes on behind what is no null. -/
theorem text_append (clean : ∀ c ∈ s, c ≠ '\x00') : text (s ++ t) = s ++ text t :=
  List.takeWhile_append_of_pos fun c member => decide_eq_true (clean c member)

theorem strstrEol_append (clean : ∀ c ∈ s, c ≠ '\n' ∧ c ≠ '\x00') : strstrEol (s ++ '\n' :: t) = .ok (some (s, t)) := by
  have line : '\n' ∉ s := fun member => (clean _ member).1 rfl
  have whole : text (s ++ '\n' :: t) = s ++ '\n' :: text t := by
    rw [text_append fun c member => (clean c member).2]
    rfl
  rw [strstrEol, whole, strstr_mark line]
  dsimp only
  rw [List.drop_append, List.drop_eq_nil_of_le (Nat.le_succ _), List.nil_append, Nat.add_sub_cancel_left, List.drop_one, List.tail_cons]

theorem printed_mem (member : c ∈ (Printf.Arg.d i).text) : Websocket.isDigit c = true ∨ c = '-' := by
  cases i with
  | ofNat n =>
    have printed : (Printf.Arg.d (Int.ofNat n)).text = digits n := printed_digits n
    rw [printed] at member
    exact Or.inl (isDigit_of_mem_digits member)
  | negSucc n =>
    rw [printed_negative] at member
    obtain rfl | digit := List.mem_cons.1 member
    · exact Or.inr rfl
    · exact Or.inl (isDigit_of_mem_digits digit)

theorem printed_clean : ∀ c ∈ (Printf.Arg.d i).text, c ≠ '\t' ∧ c ≠ '\n' ∧ c ≠ '\x00' := by
  intro c member
  obtain digit | rfl := printed_mem member
  · refine ⟨?_, ?_, ?_⟩
    all_goals
      rintro rfl
      exact absurd digit (by decide)
  · decide

theorem number_append (small : -2 ^ 31 ≤ i ∧ i < 2 ^ 31) : number ((Printf.Arg.d i).text ++ '\t' :: t) = .ok i := by
  have stops : ∀ c ∈ ('\t' :: t).head?, Websocket.isDigit c = false := by
    rintro c ⟨⟩
    rfl
  rw [number, atoi_printed_append small stops]
  rfl

/-- The flags are classified, if there is memory for them. -/
theorem setSecurityMode_append (clean : ∀ c ∈ s, c ≠ '\t' ∧ c ≠ '\n' ∧ c ≠ '\x00') (null : '\x00' ∈ t) :
    setSecurityMode malloc (s ++ '\t' :: t) = if malloc then .ok (authOf s, encryptOf s, wpsOf s) else .error .null := by
  have tab : '\t' ∈ s ++ '\t' :: t := by simp
  have null' : '\x00' ∈ s ++ '\t' :: t := by simp [null]
  have column : (s ++ '\t' :: t).takeWhile (· ≠ '\t') = s := by
    rw [List.takeWhile_append_of_pos fun c member => decide_eq_true (clean c member).1, List.takeWhile_cons_of_neg (by decide), List.append_nil]
  have whole : text s = s := List.takeWhile_eq_self_iff.2 fun c member => decide_eq_true (clean c member).2.2
  cases malloc with
  | false => exact (if_neg (not_not.2 tab)).trans (if_pos (by decide))
  | true =>
    rw [setSecurityMode, if_neg (not_not.2 tab), if_neg (by decide), if_neg (not_not.2 null'), column, whole]
    rfl

/-! ## The address -/

theorem mac_mem {bssid : List Byte} (member : c ∈ [':'].intercalate (bssid.map hexByte)) : c = ':' ∨ isHexDigit c = true := by
  induction bssid with
  | nil => cases member
  | cons b bssid ih =>
    rw [List.map_cons] at member
    by_cases last : bssid.map hexByte = []
    · rw [last, List.intercalate_singleton] at member
      exact Or.inr (isHexDigit_of_mem_hexByte member)
    · rw [List.intercalate_cons_of_ne_nil last, List.mem_append, List.mem_append, List.mem_singleton] at member
      obtain (digit | colon) | later := member
      · exact Or.inr (isHexDigit_of_mem_hexByte digit)
      · exact Or.inl colon
      · exact ih later

theorem Row.mac_clean (row : Row) : ∀ c ∈ row.mac, c ≠ '\t' ∧ c ≠ '\n' ∧ c ≠ '\x00' := by
  intro c member
  obtain rfl | digit := mac_mem member
  · decide
  · refine ⟨?_, ?_, ?_⟩
    all_goals
      rintro rfl
      exact absurd digit (by decide)

theorem mac_length {bssid : List Byte} (six : bssid.length = 6) : ([':'].intercalate (bssid.map hexByte)).length = 17 := by
  match bssid, six with
  | [_, _, _, _, _, _], _ => rfl

theorem atomac_mac (row : Row) : atomac (some row.mac) = .ok row.bssid := by
  have cut : tokens ':' row.mac = row.bssid.map hexByte := by
    refine tokens_intercalate fun g member => ?_
    obtain ⟨b, -, rfl⟩ := List.mem_map.1 member
    exact ⟨List.cons_ne_nil _ _, not_mem_hexByte (by decide)⟩
  have six : (row.bssid.map hexByte).length = 6 := (List.length_map ..).trans row.six
  have read : ∀ b, BitVec.ofInt 8 (strtol16 (hexByte b)) = b := fun b => by
    rw [strtol16_hexByte, BitVec.ofInt_natCast, BitVec.ofNat_toNat, BitVec.setWidth_eq]
  rw [atomac, cut, if_neg (by omega), List.take_of_length_le (Nat.le_of_eq six), List.map_map]
  exact congrArg Except.ok (List.map_id'' read _)

theorem Row.mac_ne_nil (row : Row) : row.mac ≠ [] := fun none => by
  have long := mac_length row.six
  rw [Row.mac] at none
  rw [none] at long
  cases long

/-- The first token is the address, behind which a null is written. -/
theorem strtok_mac (row : Row) : strtok (text (row.mac ++ '\t' :: t)) '\t' = some row.mac ∧ tokenEnd (text (row.mac ++ '\t' :: t)) = 17 := by
  have whole : text (row.mac ++ '\t' :: t) = row.mac ++ '\t' :: text t := by
    rw [text_append fun c member => (row.mac_clean c member).2.2]
    rfl
  obtain ⟨c, mac, same⟩ := List.exists_cons_of_ne_nil row.mac_ne_nil
  have other : c ≠ '\t' := (row.mac_clean c (same ▸ List.mem_cons_self ..)).1
  constructor
  · have front : (row.mac ++ '\t' :: text t).dropWhile (· == '\t') = row.mac ++ '\t' :: text t := by
      rw [same, List.cons_append, List.dropWhile_cons_of_neg (by simpa using other)]
    have token : (row.mac ++ '\t' :: text t).takeWhile (· != '\t') = row.mac := by
      rw [List.takeWhile_append_of_pos fun c member => bne_iff_ne.2 (row.mac_clean c member).1, List.takeWhile_cons_of_neg (by decide),
        List.append_nil]
    rw [whole, strtok, front]
    rw [same] at token ⊢
    exact congrArg some token
  · have front : (row.mac ++ '\t' :: text t).dropWhile (· = '\t') = row.mac ++ '\t' :: text t ∧
        (row.mac ++ '\t' :: text t).takeWhile (· = '\t') = [] := by
      rw [same, List.cons_append, List.dropWhile_cons_of_neg (by simpa using other), List.takeWhile_cons_of_neg (by simpa using other)]
      exact ⟨rfl, rfl⟩
    rw [whole, tokenEnd, front.1, front.2, List.takeWhile_append_of_pos fun c member => decide_eq_true (row.mac_clean c member).1,
      List.takeWhile_cons_of_neg (by decide), List.append_nil]
    exact (Nat.zero_add _).trans (mac_length row.six)

/-! ## The rows -/

/-- **A row is read off** if there is memory for its flags. -/
theorem scanRow_row (row : Row) (null : '\x00' ∈ t) : scanRow malloc (row.text ++ t) = if malloc then .ok (row.bss, t) else .error .null := by
  have layout : row.text ++ t = row.mac ++ '\t' :: ((Printf.Arg.d row.freq).text ++ '\t' :: ((Printf.Arg.d row.rssi).text ++ '\t' ::
      (row.flags ++ '\t' :: (row.ssid ++ '\n' :: t)))) := by simp [Row.text]
  have behind : ∀ rest, (row.mac ++ '\t' :: rest).drop 18 = rest := fun rest => by
    have long : row.mac.length = 17 := mac_length row.six
    rw [List.drop_append, List.drop_eq_nil_of_le (by omega), long]
    rfl
  have null' : '\x00' ∈ row.ssid ++ '\n' :: t := by simp [null]
  obtain ⟨token, here⟩ := strtok_mac (t := (Printf.Arg.d row.freq).text ++ '\t' :: ((Printf.Arg.d row.rssi).text ++ '\t' ::
      (row.flags ++ '\t' :: (row.ssid ++ '\n' :: t)))) row
  rw [layout, scanRow, token, here, List.drop_set_of_lt (by decide), behind, atomac_mac]
  simp only [ok_bind, number_append row.freqInt, number_append row.rssiInt, skipTab_append fun c member => (printed_clean c member).1,
    setSecurityMode_append row.flagsClean null', skipTab_append fun c member => (row.flagsClean c member).1]
  cases malloc with
  | false => rfl
  | true =>
    rw [if_pos rfl, ok_bind]
    dsimp only
    rw [strstrEol_append row.ssidClean, ok_bind]
    exact if_pos (Nat.lt_of_le_of_lt row.ssidShort (by decide))

/-- **All rows are read off** if there is memory for the flags of each. -/
theorem scanRows_rows (rows : List Row) (strflag : Nat → Bool) (first : Nat) (bss : List Bss) (null : '\x00' ∈ t) :
    scanRows strflag rows.length first (rows.flatMap Row.text ++ t) = .ok bss ↔
      (∀ k < rows.length, strflag (first + k)) ∧ bss = rows.map Row.bss := by
  induction rows generalizing first bss with
  | nil => exact ⟨fun read => ⟨nofun, (Except.ok.inj read).symm⟩, fun right => congrArg Except.ok right.2.symm⟩
  | cons row rows ih =>
    have null' : '\x00' ∈ rows.flatMap Row.text ++ t := List.mem_append_right _ null
    have later : (∀ k < rows.length, strflag (first + 1 + k)) ↔ ∀ k < rows.length, strflag (first + (k + 1)) := by
      simp only [Nat.add_assoc, Nat.add_comm 1]
    rw [List.length_cons, Nat.forall_lt_succ_left, Nat.add_zero, ← later, List.flatMap_cons, List.append_assoc, scanRows,
      scanRow_row row null']
    cases strflag first with
    | false => exact iff_of_false nofun fun right => absurd right.1.1 (by decide)
    | true =>
      rw [if_pos rfl, ok_bind, map_ok_iff]
      constructor
      · rintro ⟨bss, read, rfl⟩
        obtain ⟨memory, rfl⟩ := (ih _ _).1 read
        exact ⟨⟨rfl, memory⟩, rfl⟩
      · rintro ⟨⟨-, memory⟩, rfl⟩
        exact ⟨_, (ih _ _).2 ⟨memory, rfl⟩, rfl⟩

/-! ## Counting the rows -/

variable {cells : List Char} {k idx : Nat} {count : Int}

theorem countEols_inside (inside : idx + k < cells.length) :
    countEols cells k idx count = .ok (count + ((cells.drop (idx + 1)).take k).count '\n') := by
  induction k generalizing idx count with
  | zero => rw [List.take_zero, List.count_nil, Int.natCast_zero, Int.add_zero, countEols]
  | succ k ih =>
    have here : idx + 1 < cells.length := by omega
    rw [countEols, List.getElem?_eq_getElem here, List.drop_eq_getElem_cons here, List.take_succ_cons, List.count_cons]
    dsimp only
    rw [ih (by omega)]
    congr 1
    by_cases eol : cells[idx + 1] = '\n'
    · simp [eol]
      omega
    · simp [eol]

/-- The cell behind the last one is read. -/
theorem countEols_outside (outside : cells.length = idx + k) (some : 0 < k) : countEols cells k idx count = .error .outside := by
  induction k generalizing idx count with
  | zero => exact absurd some (Nat.lt_irrefl 0)
  | succ k ih =>
    rw [countEols]
    cases k with
    | zero => rw [List.getElem?_eq_none (by omega)]
    | succ k =>
      rw [List.getElem?_eq_getElem (by omega)]
      exact ih (by omega) (Nat.succ_pos k)

theorem count_row (row : Row) : row.text.count '\n' = 1 := by
  have flags : '\n' ∉ row.flags := fun member => (row.flagsClean _ member).2.1 rfl
  have ssid : '\n' ∉ row.ssid := fun member => (row.ssidClean _ member).1 rfl
  have mac : '\n' ∉ row.mac := fun member => (row.mac_clean _ member).2.1 rfl
  have printed : ∀ i, '\n' ∉ (Printf.Arg.d i).text := fun i member => (printed_clean _ member).2.1 rfl
  simp [Row.text, List.count_eq_zero_of_not_mem, flags, ssid, mac, printed]

theorem count_rows : (rows.flatMap Row.text).count '\n' = rows.length := by
  induction rows with
  | nil => rfl
  | cons row rows ih => rw [List.flatMap_cons, List.count_append, count_row, ih, List.length_cons, Nat.add_comm]

/-! ## Whole replies -/

variable {r : Reply} {m : Mallocs} {n : Int} {bss : List Bss}

theorem received_length (fits : s.length ≤ bufLen) : (received s).length = bufLen := by
  rw [received, List.length_append, List.length_replicate]
  omega

/-- All newlines but one at the very beginning are counted, if there is a cell behind the reply. -/
theorem wifiGetBssCount_received (room : (c :: s).length < bufLen) :
    wifiGetBssCount (received (c :: s)) (c :: s).length = .ok ((s.count '\n' : Int) - 1) := by
  have zeros : List.replicate (bufLen - (c :: s).length) '\x00' = '\x00' :: List.replicate (bufLen - (c :: s).length - 1) '\x00' := by
    rw [← List.replicate_succ]
    congr 1
    omega
  have read : ((received (c :: s)).drop 1).take (c :: s).length = s ++ ['\x00'] := by
    rw [received, zeros, List.cons_append, List.drop_one, List.tail_cons, List.length_cons, List.append_cons,
      List.take_append_of_le_length (by simp), List.take_of_length_le (by simp)]
  have inside : 0 + (c :: s).length < (received (c :: s)).length := by
    rw [received_length room.le]
    omega
  rw [wifiGetBssCount, countEols_inside inside, Nat.zero_add, read, List.count_append]
  change Except.ok _ = _
  congr 2
  simp

/-- A reply that fills the buffer is read past its end. -/
theorem wifiGetBssCount_full (full : s.length = bufLen) : wifiGetBssCount (received s) s.length = .error .outside := by
  rw [wifiGetBssCount, countEols_outside]
  · rfl
  · rw [received_length full.le, full, Nat.zero_add]
  · rw [full]
    decide

/-- The number of rows that is counted. -/
def Reply.counted (r : Reply) : Int := if r.header = [] then r.rows.length - 1 else r.rows.length

theorem bssCount_counted (room : r.text.length < bufLen) : wifiGetBssCount (received r.text) r.text.length = .ok r.counted := by
  have clean : '\n' ∉ r.header := fun member => (r.headerClean _ member).1 rfl
  cases header : r.header with
  | nil =>
    have begins : r.text = '\n' :: r.rows.flatMap Row.text := by rw [Reply.text, header, List.nil_append]
    rw [begins] at room ⊢
    rw [wifiGetBssCount_received room, count_rows, Reply.counted, if_pos header]
  | cons c h =>
    have begins : r.text = c :: (h ++ '\n' :: r.rows.flatMap Row.text) := by rw [Reply.text, header, List.cons_append]
    have eols : (h ++ '\n' :: r.rows.flatMap Row.text).count '\n' = r.rows.length + 1 := by
      rw [header, List.mem_cons, not_or] at clean
      rw [List.count_append, List.count_eq_zero_of_not_mem clean.2, List.count_cons_self, count_rows, Nat.zero_add]
    rw [begins] at room ⊢
    rw [wifiGetBssCount_received room, eols, Reply.counted, header, if_neg (List.cons_ne_nil _ _)]
    congr 1
    omega

/-- What is made of a reply that leaves a cell of the buffer. -/
theorem parseReply_counted (room : r.text.length < bufLen) (memory : m.bssinfo = true) :
    parseReply r.text m =
      if r.counted < 0 ∨ 0 < r.counted ∧ ¬ m.bssList then .error .null
      else (scanRows m.strflag r.counted.toNat 0 (r.rows.flatMap Row.text ++ List.replicate (bufLen - r.text.length) '\x00')).map
        fun bss => .success r.counted bss := by
  have lines : received r.text = r.header ++ '\n' :: (r.rows.flatMap Row.text ++ List.replicate (bufLen - r.text.length) '\x00') := by
    rw [received, Reply.text, List.append_assoc, List.cons_append]
  have first := strstrEol_append (t := r.rows.flatMap Row.text ++ List.replicate (bufLen - r.text.length) '\x00') r.headerClean
  rw [parseReply, if_neg (not_not.2 memory), bssCount_counted room, lines, first]
  rfl

theorem counted_le (r : Reply) : r.counted.toNat ≤ r.rows.length := by
  rw [Reply.counted]
  split <;> omega

/-- As many entries as are counted are those of the first rows. -/
theorem scanRows_counted (strflag : Nat → Bool) (room : r.text.length < bufLen) :
    scanRows strflag r.counted.toNat 0 (r.rows.flatMap Row.text ++ List.replicate (bufLen - r.text.length) '\x00') = .ok bss ↔
      (∀ k < r.counted.toNat, strflag k) ∧ bss = (r.rows.take r.counted.toNat).map Row.bss := by
  have null : '\x00' ∈ (r.rows.drop r.counted.toNat).flatMap Row.text ++ List.replicate (bufLen - r.text.length) '\x00' :=
    List.mem_append_right _ (List.mem_replicate.2 ⟨by omega, rfl⟩)
  have split : r.rows.flatMap Row.text = (r.rows.take r.counted.toNat).flatMap Row.text ++ (r.rows.drop r.counted.toNat).flatMap Row.text := by
    rw [← List.flatMap_append, List.take_append_drop]
  have read := scanRows_rows (r.rows.take r.counted.toNat) strflag 0 bss null
  simpa only [List.length_take_of_le (counted_le r), Nat.zero_add, split, List.append_assoc] using read

/-- What a call that succeeds returns. -/
theorem scanResult_success (answered : wifiGetScanResult false true (some r.text) m = .ok (.success n bss)) :
    r.text.length < bufLen ∧ n = r.counted ∧ m.Suffice n.toNat ∧ bss = (r.rows.take n.toNat).map Row.bss := by
  rw [wifiGetScanResult, if_neg (by decide), if_neg (by decide)] at answered
  cases memory : m.bssinfo with
  | false =>
    rw [parseReply, if_pos (by rw [memory]; decide)] at answered
    cases answered
  | true =>
    by_cases room : r.text.length < bufLen
    · rw [List.take_of_length_le room.le, parseReply_counted room memory] at answered
      split at answered
      · cases answered
      · rename_i granted
        obtain ⟨bss', read, same⟩ := map_ok_iff.1 answered
        cases same
        obtain ⟨flags, rfl⟩ := (scanRows_counted _ room).1 read
        exact ⟨room, rfl, ⟨memory, fun some => not_not.1 fun none => granted (Or.inr ⟨by omega, none⟩), flags⟩, rfl⟩
    · have full : (r.text.take bufLen).length = bufLen := List.length_take_of_le (Nat.le_of_not_lt room)
      rw [parseReply, if_neg (not_not.2 memory), wifiGetBssCount_full full] at answered
      cases answered

/-- A call that returns all rows. -/
theorem scanResult_rows (header : r.header ≠ []) (room : r.text.length < bufLen) (memory : m.Suffice r.rows.length) :
    wifiGetScanResult false true (some r.text) m = .ok (.success r.rows.length (r.rows.map Row.bss)) := by
  have counted : r.counted = r.rows.length := if_neg header
  have granted : ¬ (r.counted < 0 ∨ 0 < r.counted ∧ ¬ m.bssList) := by
    rw [counted]
    rintro (negative | ⟨some, none⟩)
    · omega
    · exact none (memory.2.1 (Int.natCast_pos.1 some))
  have read := (scanRows_counted m.strflag room).2 ⟨by rw [counted, Int.toNat_natCast]; exact memory.2.2, rfl⟩
  rw [wifiGetScanResult, if_neg (by decide), if_neg (by decide), List.take_of_length_le room.le, parseReply_counted room memory.1,
    if_neg granted, read, counted, Int.toNat_natCast, List.take_length]
  rfl

/-- **The entries of a reply are those of its rows** just where it has a header, leaves a cell of the buffer, and
there is memory. -/
theorem scanResult_iff (r : Reply) (m : Mallocs) :
    wifiGetScanResult false true (some r.text) m = .ok (.success r.rows.length (r.rows.map Row.bss)) ↔
      r.header ≠ [] ∧ r.text.length < bufLen ∧ m.Suffice r.rows.length := by
  constructor
  · intro answered
    obtain ⟨room, counted, memory, -⟩ := scanResult_success answered
    refine ⟨fun none => ?_, room, memory⟩
    rw [Reply.counted, if_pos none] at counted
    omega
  · rintro ⟨header, room, memory⟩
    exact scanResult_rows header room memory

/-! ## A reply that fills the buffer -/

/-- A row of 29 characters, its flags and its SSID. -/
def sample (flags ssid : List Char) (flagsClean : ∀ c ∈ flags, c ≠ '\t' ∧ c ≠ '\n' ∧ c ≠ '\x00') (ssidClean : ∀ c ∈ ssid, c ≠ '\n' ∧ c ≠ '\x00')
    (ssidShort : ssid.length ≤ 32) : Row where
  bssid := List.replicate 6 0
  freq := 2437
  rssi := -45
  flags := flags
  ssid := ssid
  six := rfl
  freqInt := by decide
  rssiInt := by decide
  flagsClean := flagsClean
  ssidClean := ssidClean
  ssidShort := ssidShort

def named (k : Nat) (short : k ≤ 32) : Row :=
  sample "[ESS]".toList (List.replicate k 'a') (by simp) (fun c member => by
    rw [List.eq_of_mem_replicate member]
    decide) (by rwa [List.length_replicate])

def listed (rows : List Row) : Reply where
  header := "bssid / frequency / signal level / flags / ssid".toList
  rows := rows
  headerClean := by simp

theorem sample_length {flags ssid : List Char} {flagsClean ssidClean ssidShort} :
    (sample flags ssid flagsClean ssidClean ssidShort).text.length = 29 + flags.length + ssid.length := by
  have mac : (sample flags ssid flagsClean ssidClean ssidShort).mac.length = 17 := mac_length rfl
  have freq : (Printf.Arg.d 2437).text.length = 4 := by rfl
  have rssi : (Printf.Arg.d (-45)).text.length = 3 := by rfl
  simp only [Row.text, List.length_append, List.length_cons, List.length_nil, mac]
  change 17 + ((Printf.Arg.d 2437).text.length + ((Printf.Arg.d (-45)).text.length + (flags.length + (ssid.length + (0 + 1) + 1) + 1) + 1) + 1) = _
  omega

theorem named_length (k : Nat) (short : k ≤ 32) : (named k short).text.length = 34 + k := by
  rw [named, sample_length, List.length_replicate]
  rfl

theorem listed_length (rows : List Row) : (listed rows).text.length = 48 + (rows.map fun row => row.text.length).sum := by
  have header : (listed rows).header.length = 47 := rfl
  rw [Reply.text, List.length_append, List.length_cons, header, List.length_flatMap]
  change 47 + ((rows.map fun row => row.text.length).sum + 1) = _
  omega

/-- 147 rows of 55 characters and one of 59. -/
def crowd : List Row := List.replicate 147 (named 21 (by decide)) ++ [named 25 (by decide)]

theorem crowd_length : (listed crowd).text.length = bufLen := by
  rw [listed_length, crowd, List.map_append, List.map_replicate, List.map_singleton, named_length, named_length, List.sum_append,
    List.sum_replicate, List.sum_singleton, smul_eq_mul, bufLen]

theorem crowd_outside : ¬ ∀ (r : Reply) (m : Mallocs), r.text.length ≤ bufLen → r.header ≠ [] → m.Suffice r.rows.length →
    wifiGetScanResult false true (some r.text) m = .ok (.success r.rows.length (r.rows.map Row.bss)) := by
  intro all
  have answered := all (listed crowd) ⟨true, true, fun _ => true⟩ crowd_length.le (by decide) ⟨rfl, fun _ => rfl, fun _ _ => rfl⟩
  rw [wifiGetScanResult, if_neg (by decide), if_neg (by decide), List.take_of_length_le crowd_length.le, parseReply, if_neg (by decide),
    wifiGetBssCount_full crowd_length] at answered
  cases answered

end ArtikSdk.Wifi.Scan
