import ArtikSdk.Lib.Search
import ArtikSdk.Wifi.Linux
import ArtikSdk.Wifi.Numbers

/-!
# WiFi networks

`wifi_connect` of `wifi.c` to the letter: the SSID is looked for in the reply to `LIST_NETWORKS` as a
piece of text, anywhere; the number of the network is what begins the line of the first hit, copied to
five characters; and the commands are composed in a buffer of a hundred.
-/

namespace ArtikSdk.Wifi.Networks
open Lib
open Websocket (atoi)

/-- A read or a write outside of a buffer, or a number that is not an `int`. -/
inductive Fault where
  | outside
  | undefined
deriving DecidableEq

/-! ## The search -/

/-- What is done with the first hit: back to the end of the line before, and on to the tab. -/
def scanNetid (before pos : List Char) : Except Fault Int :=
  match lineStart '\n' before.reverse pos with
  | none => .error .outside
  | some (_, pos) =>
    if '\t' ∉ pos then .error .outside
    else
      -- `strnid` has five characters, of which the last has to be null
      let strnid := (pos.takeWhile (· ≠ '\t')).tail
      if strnid.length < 5 then (atoi strnid).mapError fun _ => .undefined else .error .outside

/-- The number of the network with the SSID, where it is found in `buf`. -/
def findNetid (ssid buf : List Char) : Except Fault (Option Int) :=
  match strstr ssid buf with
  | none => .ok none
  | some (before, pos) => (scanNetid before pos).map some

/-! ## The commands -/

/-- A command with its arguments. -/
inductive Message where
  | listNetworks
  | addNetwork
  | setNetworkSsid (netid : Int) (ssid : List Char)
  | setNetworkPsk (netid : Int) (psk : List Char)
  | setNetworkKeyMgmt (netid : Int)
  | selectNetwork (netid : Int)
  | saveConfig
deriving DecidableEq

def Message.command : Message → Command
  | .listNetworks => .listNetworks
  | .addNetwork => .addNetwork
  | .setNetworkSsid _ _ => .setNetworkSsid
  | .setNetworkPsk _ _ => .setNetworkPsk
  | .setNetworkKeyMgmt _ => .setNetworkKeyMgmt
  | .selectNetwork _ => .selectNetwork
  | .saveConfig => .saveConfig

def Message.text : Message → List Char
  | .listNetworks => "LIST_NETWORKS".toList
  | .addNetwork => "ADD_NETWORK".toList
  | .setNetworkSsid netid ssid => Printf.sprintf "SET_NETWORK %d ssid \"%s\"".toList [.d netid, .s ssid]
  | .setNetworkPsk netid psk => Printf.sprintf "SET_NETWORK %d psk \"%s\"".toList [.d netid, .s psk]
  | .setNetworkKeyMgmt netid => Printf.sprintf "SET_NETWORK %d key_mgmt %s".toList [.d netid, .s "NONE".toList]
  | .selectNetwork netid => Printf.sprintf "SELECT_NETWORK %d".toList [.d netid]
  | .saveConfig => "SAVE_CONFIG".toList

/-- `cmd` has room for a hundred characters, the null included. -/
def Message.Fits (m : Message) : Prop := m.text.length < 100

instance (m : Message) : Decidable m.Fits := inferInstanceAs (Decidable (_ < _))

/-- What a reply to a command means that has to be obeyed. -/
def verdict (reply : Option (List Char)) : WifiResult :=
  match reply with
  | none => .wpaCmdReqFail
  | some buf => if "OK".toList.isPrefixOf buf then .success else .error

/-- The commands are composed and sent as long as they are obeyed: the result, and what was sent. -/
def sendAll (replies : Command → Option (List Char)) : List Message → Except Fault (WifiResult × List Message)
  | [] => .ok (.success, [])
  | m :: ms =>
    if ¬ m.Fits then .error .outside
    else if verdict (replies m.command) ≠ .success then .ok (verdict (replies m.command), [m])
    else (sendAll replies ms).map fun r => (r.1, m :: r.2)

/-- What is sent once the number of the network is known. -/
def configuring (netid : Int) (ssid : List Char) (psk : Option (List Char)) (saveProfile : Bool) : List Message :=
  [.setNetworkSsid netid ssid,
    if (psk.getD []).length ≠ 0 then .setNetworkPsk netid (psk.getD []) else .setNetworkKeyMgmt netid, .selectNetwork netid] ++
    if saveProfile then [.saveConfig] else []

/-- An SSID and a passphrase that are not refused. -/
def Valid (ssid : List Char) (psk : Option (List Char)) : Prop :=
  ssid ≠ [] ∧ ' ' ∉ ssid ∧ ∀ p ∈ psk, 8 ≤ p.length ∧ ' ' ∉ p

instance (ssid : List Char) (psk : Option (List Char)) : Decidable (Valid ssid psk) := inferInstanceAs (Decidable (_ ∧ _))

/-- `wifi_connect`: what it returns, and the commands that it sends. -/
def wifiConnect (ssid : List Char) (psk : Option (List Char)) (saveProfile : Bool) (replies : Command → Option (List Char)) :
    Except Fault (WifiResult × List Message) :=
  if ssid = [] ∨ ' ' ∈ ssid then .ok (.connectInvalidSsid, [])
  else if psk.any fun psk => psk.length < 8 || ' ' ∈ psk then .ok (.connectInvalidPsk, [])
  else
    match replies .listNetworks with
    | none => .ok (.wpaCmdReqFail, [.listNetworks])
    | some buf => do
      match ← findNetid ssid buf with
      | some netid =>
        let (result, sent) ← sendAll replies (configuring netid ssid psk saveProfile)
        .ok (result, .listNetworks :: sent)
      | none =>
        match replies .addNetwork with
        | none => .ok (.wpaCmdReqFail, [.listNetworks, .addNetwork])
        | some buf =>
          let netid ← (atoi buf).mapError fun _ => .undefined
          let (result, sent) ← sendAll replies (configuring netid ssid psk saveProfile)
          .ok (result, .listNetworks :: .addNetwork :: sent)

/-! ## The replies -/

/-- A text without the marks of a table. -/
def Clean (s : List Char) : Prop := '\t' ∉ s ∧ '\n' ∉ s

/-- A row of the reply to `LIST_NETWORKS`. -/
structure Row where
  id : Nat
  ssid : List Char
  bssid : List Char
  flags : List Char
  ssidClean : Clean ssid
  bssidClean : Clean bssid
  flagsClean : Clean flags

/-- What comes behind the tab that ends the number. -/
def Row.columns (row : Row) : List Char := row.ssid ++ '\t' :: (row.bssid ++ '\t' :: row.flags)

def Row.line (row : Row) : List Char := digits row.id ++ '\t' :: row.columns

def header : List Char := "network id / ssid / bssid / flags".toList

/-- A reply to `LIST_NETWORKS`: no two networks have a number, and the buffer has room for it. -/
structure Listing where
  rows : List Row
  distinct : (rows.map Row.id).Nodup
  short : (header ++ rows.flatMap fun row => '\n' :: row.line).length + 1 < 4096

/-- The lines end at the marks that begin the next, or the last one. -/
def Listing.text (list : Listing) : List Char := header ++ ((list.rows.flatMap fun row => '\n' :: row.line) ++ ['\n'])

/-- An answer to `ADD_NETWORK`: none, `FAIL`, or the number of the new network. -/
inductive Added where
  | failed
  | refused
  | network (id : Fin (2 ^ 31))

def Added.reply : Added → Option (List Char)
  | .failed => none
  | .refused => some "FAIL\n".toList
  | .network id => some (digits id ++ ['\n'])

/-- The answers of the supplicant; `others` to what has to be obeyed. -/
def answers (list : Listing) (added : Added) (others : Command → Option (List Char)) : Command → Option (List Char)
  | .listNetworks => some list.text
  | .addNetwork => added.reply
  | c => others c

/-! ## What is asked for -/

/-- A network is configured: the commands for it are sent one by one, from the first one on. -/
def Configures (netid : Nat) (ssid : List Char) (psk : Option (List Char)) (saveProfile : Bool) (sent : List Message) : Prop :=
  sent ≠ [] ∧ sent <+: configuring netid ssid psk saveProfile

/-- The network that has the SSID is configured anew, or where there is none a new one; where that is
not given, none is. -/
def Chosen (list : Listing) (added : Added) (ssid : List Char) (psk : Option (List Char)) (saveProfile : Bool) (sent : List Message) : Prop :=
  (∃ row ∈ list.rows, row.ssid = ssid ∧ ∃ rest, sent = .listNetworks :: rest ∧ Configures row.id ssid psk saveProfile rest) ∨
  (∀ row ∈ list.rows, row.ssid ≠ ssid) ∧
    match added with
    | .network id => ∃ rest, sent = .listNetworks :: .addNetwork :: rest ∧ Configures id ssid psk saveProfile rest
    | _ => sent = [.listNetworks, .addNetwork]

/-- The right network is chosen, and every command fits its buffer. -/
def Selects (list : Listing) (added : Added) (others : Command → Option (List Char)) (ssid : List Char) (psk : Option (List Char))
    (saveProfile : Bool) : Prop :=
  ∃ result sent, wifiConnect ssid psk saveProfile (answers list added others) = .ok (result, sent) ∧
    if Valid ssid psk then Chosen list added ssid psk saveProfile sent else sent = []

/-- The row, with the mark before it, that a position behind the header lies in. -/
def rowAt : Nat → List Row → Option Row
  | _, [] => none
  | n, row :: rows => if n ≤ row.line.length then some row else rowAt (n - (row.line.length + 1)) rows

/-- The row in which the SSID occurs first, wherever in the row. -/
def Listing.hit (list : Listing) (ssid : List Char) : Option Row :=
  (strstr ssid list.text).bind fun p => if p.1.length < header.length then none else rowAt (p.1.length - header.length) list.rows

/-- The network that is found: the SSID occurs first in its own row, whose number has at most four digits;
or it does not occur and a network is given. -/
def Finds (list : Listing) (added : Added) (ssid : List Char) (netid : Nat) : Prop :=
  (∃ row, list.hit ssid = some row ∧ row.ssid = ssid ∧ (digits row.id).length ≤ 4 ∧ netid = row.id) ∨
  ¬ ssid <:+: list.text ∧ ∃ id, added = .network id ∧ netid = id

/-- The commands have room: that for the SSID, and that for the passphrase unless the first is not obeyed. -/
def Room (others : Command → Option (List Char)) (ssid : List Char) (psk : Option (List Char)) (netid : Nat) : Prop :=
  (digits netid).length + ssid.length < 80 ∧
    (verdict (others .setNetworkSsid) = .success → ∀ p ∈ psk, (digits netid).length + p.length < 81)

/-- A network is found, and its commands have room; or there is nothing to compose. -/
def Fits (list : Listing) (added : Added) (others : Command → Option (List Char)) (ssid : List Char) (psk : Option (List Char)) : Prop :=
  (¬ ssid <:+: list.text ∧ added = .failed) ∨ ∃ netid, Finds list added ssid netid ∧ Room others ssid psk netid

/-! ## Composing -/

variable {netid : Nat} {ssid psk' : List Char} {psk : Option (List Char)} {saveProfile : Bool} {replies others : Command → Option (List Char)}
  {ms sent : List Message} {result : WifiResult} {list : Listing} {added : Added} {row : Row} {rows : List Row}
  {before pos behind : List Char}

theorem setNetworkSsid_fits : (Message.setNetworkSsid netid ssid).Fits ↔ (digits netid).length + ssid.length < 80 := by
  have text : (Message.setNetworkSsid netid ssid).text = "SET_NETWORK ".toList ++ ((Printf.Arg.d netid).text ++
      (" ssid \"".toList ++ (ssid ++ ['"']))) := rfl
  rw [Message.Fits, text, printed_digits]
  simp only [List.length_append]
  have first : "SET_NETWORK ".toList.length = 12 := rfl
  have second : " ssid \"".toList.length = 7 := rfl
  have last : ['"'].length = 1 := rfl
  omega

theorem setNetworkPsk_fits : (Message.setNetworkPsk netid psk').Fits ↔ (digits netid).length + psk'.length < 81 := by
  have text : (Message.setNetworkPsk netid psk').text = "SET_NETWORK ".toList ++ ((Printf.Arg.d netid).text ++
      (" psk \"".toList ++ (psk' ++ ['"']))) := rfl
  rw [Message.Fits, text, printed_digits]
  simp only [List.length_append]
  have first : "SET_NETWORK ".toList.length = 12 := rfl
  have second : " psk \"".toList.length = 6 := rfl
  have last : ['"'].length = 1 := rfl
  omega

theorem setNetworkKeyMgmt_fits (short : (digits netid).length ≤ 10) : (Message.setNetworkKeyMgmt netid).Fits := by
  have text : (Message.setNetworkKeyMgmt netid).text = "SET_NETWORK ".toList ++ ((Printf.Arg.d netid).text ++ " key_mgmt NONE".toList) := rfl
  rw [Message.Fits, text, printed_digits]
  simp only [List.length_append]
  have first : "SET_NETWORK ".toList.length = 12 := rfl
  have second : " key_mgmt NONE".toList.length = 14 := rfl
  omega

theorem selectNetwork_fits (short : (digits netid).length ≤ 10) : (Message.selectNetwork netid).Fits := by
  have text : (Message.selectNetwork netid).text = "SELECT_NETWORK ".toList ++ ((Printf.Arg.d netid).text ++ []) := rfl
  rw [Message.Fits, text, printed_digits]
  simp only [List.length_append]
  have first : "SELECT_NETWORK ".toList.length = 15 := rfl
  have last : ([] : List Char).length = 0 := rfl
  omega

/-- What is sent is a beginning of what there is to send. -/
theorem sendAll_begins (answered : sendAll replies ms = .ok (result, sent)) : sent <+: ms ∧ (ms ≠ [] → sent ≠ []) := by
  induction ms generalizing sent with
  | nil =>
    cases answered
    exact ⟨List.prefix_refl _, fun some => some⟩
  | cons m ms ih =>
    rw [sendAll] at answered
    split at answered
    · cases answered
    · split at answered
      · cases answered
        exact ⟨⟨ms, rfl⟩, fun _ => List.cons_ne_nil _ _⟩
      · obtain ⟨r, rest, same⟩ := map_ok_iff.1 answered
        cases same
        exact ⟨List.cons_prefix_cons.2 ⟨rfl, (ih rest).1⟩, fun _ => List.cons_ne_nil _ _⟩

/-- The first command fits, and where it is obeyed the others do. -/
theorem sendAll_ok_iff (m : Message) (ms : List Message) : (∃ r, sendAll replies (m :: ms) = .ok r) ↔
    m.Fits ∧ (verdict (replies m.command) = .success → ∃ r, sendAll replies ms = .ok r) := by
  rw [sendAll]
  by_cases fits : m.Fits
  · rw [if_neg (not_not.2 fits), and_iff_right fits]
    split
    · rename_i refused
      exact iff_of_true ⟨_, rfl⟩ fun obeyed => absurd obeyed refused
    · rename_i obeyed
      rw [imp_iff_right (not_not.1 obeyed)]
      constructor
      · rintro ⟨r, answered⟩
        obtain ⟨r', rest, -⟩ := map_ok_iff.1 answered
        exact ⟨r', rest⟩
      · rintro ⟨r, rest⟩
        exact ⟨_, map_ok_iff.2 ⟨r, rest, rfl⟩⟩
  · rw [if_pos fits]
    exact iff_of_false nofun fun right => fits right.1

/-- The commands for a network are composed just where there is room. -/
theorem configuring_ok_iff (saveProfile : Bool) (short : (digits netid).length ≤ 10) (valid : Valid ssid psk) :
    (∃ r, sendAll replies (configuring netid ssid psk saveProfile) = .ok r) ↔ Room replies ssid psk netid := by
  have saved : ∃ r, sendAll replies (if saveProfile then [.saveConfig] else []) = .ok r := by
    split
    · exact (sendAll_ok_iff _ _).2 ⟨by decide, fun _ => ⟨_, rfl⟩⟩
    · exact ⟨_, rfl⟩
  have selected : ∃ r, sendAll replies (.selectNetwork netid :: if saveProfile then [.saveConfig] else []) = .ok r :=
    (sendAll_ok_iff _ _).2 ⟨selectNetwork_fits short, fun _ => saved⟩
  rw [configuring, List.cons_append, List.cons_append, List.cons_append, List.nil_append, sendAll_ok_iff, setNetworkSsid_fits, sendAll_ok_iff, Room]
  refine and_congr_right fun _ => imp_congr_right fun _ => ?_
  rw [and_iff_left fun _ => selected]
  cases psk with
  | none => exact iff_of_true (setNetworkKeyMgmt_fits short) nofun
  | some p =>
    have long := (valid.2.2 p rfl).1
    have some : ((some p).getD []).length ≠ 0 := by
      rw [Option.getD_some]
      omega
    rw [if_pos some, Option.getD_some, setNetworkPsk_fits]
    exact ⟨fun fits q same => Option.some.inj same ▸ fits, fun all => all p rfl⟩

/-! ## Finding -/

theorem digits_short {id : Fin (2 ^ 31)} : (digits id).length ≤ 10 :=
  (Nat.length_toDigits_le_iff (by decide) (by decide)).2 (by omega)

theorem small_of_digits (short : (digits netid).length ≤ 4) : netid < 10000 :=
  (Nat.length_toDigits_le_iff (by decide) (by decide)).1 short

theorem line_clean (row : Row) : '\n' ∉ row.line := by
  rw [Row.line, Row.columns]
  simp only [List.mem_append, List.mem_cons, not_or]
  exact ⟨not_mem_digits (by decide), by decide, row.ssidClean.2, by decide, row.bssidClean.2, by decide, row.flagsClean.2⟩

theorem header_clean : '\n' ∉ header := by decide

/-- A pointer into the lines: it is in a row, behind the mark in front of it. -/
theorem rowAt_some {tail : List Char} (inside : rowAt behind.length rows = some row)
    (whole : (rows.flatMap fun row => '\n' :: row.line) ++ tail = behind ++ pos) :
    ∃ front inner after, behind = front ++ inner ∧ inner ++ pos = '\n' :: (row.line ++ after) ∧
      inner.length ≤ row.line.length ∧ row ∈ rows := by
  induction rows generalizing behind with
  | nil => cases inside
  | cons first rows ih =>
    rw [rowAt] at inside
    rw [List.flatMap_cons, List.append_assoc] at whole
    split at inside
    · rename_i short
      obtain rfl := Option.some.inj inside
      refine ⟨[], behind, (rows.flatMap fun row => '\n' :: row.line) ++ tail, rfl, ?_, short, List.mem_cons_self ..⟩
      rw [← whole]
      rfl
    · rename_i long
      obtain ⟨behind, rfl, rest⟩ := cut_le (by rw [List.length_cons]; omega) whole
      rw [List.length_append, List.length_cons, Nat.add_sub_cancel_left] at inside
      obtain ⟨front, inner, after, rfl, at_row, short, member⟩ := ih inside rest
      exact ⟨_, inner, after, (List.append_assoc ..).symm, at_row, short, List.mem_cons_of_mem _ member⟩

/-- Behind all rows there is nothing left of them. -/
theorem rowAt_none (outside : rowAt behind.length rows = none) : (rows.flatMap fun row => '\n' :: row.line).length ≤ behind.length := by
  suffices ∀ n, rowAt n rows = none → (rows.flatMap fun row => '\n' :: row.line).length ≤ n from this _ outside
  clear outside
  induction rows with
  | nil => exact fun n _ => Nat.zero_le n
  | cons first rows ih =>
    intro n outside
    rw [rowAt] at outside
    split at outside
    · cases outside
    · have rest := ih _ outside
      rw [List.flatMap_cons, List.length_append, List.length_cons]
      omega

/-- **In a row** the number is that of the row, if it has room. -/
theorem scanNetid_row {front inner after : List Char} (split : before = front ++ inner) (at_row : inner ++ pos = '\n' :: (row.line ++ after))
    (short : inner.length ≤ row.line.length) :
    scanNetid before pos = if (digits row.id).length < 5 then .ok (row.id : Int) else .error .outside := by
  have start : ∃ reversed, lineStart '\n' before.reverse pos = some (reversed, '\n' :: (row.line ++ after)) := by
    cases inner with
    | nil =>
      obtain rfl : pos = '\n' :: (row.line ++ after) := at_row
      exact ⟨_, lineStart_here⟩
    | cons c inner =>
      obtain ⟨rfl, same⟩ := List.cons.inj at_row
      obtain ⟨rest, line, rfl⟩ := cut_le (Nat.le_of_succ_le short) same
      have more : rest ≠ [] := by
        rintro rfl
        rw [List.append_nil] at line
        rw [line] at short
        exact absurd short (Nat.not_succ_le_self _)
      have clean := line_clean row
      rw [line, List.mem_append, not_or] at clean
      have inside : (rest ++ after).head? ≠ some '\n' := by
        obtain ⟨d, rest, rfl⟩ := List.exists_cons_of_ne_nil more
        exact fun here => clean.2 (Option.some.inj here ▸ List.mem_cons_self ..)
      have reversed : before.reverse = inner.reverse ++ '\n' :: front.reverse := by rw [split]; simp
      refine ⟨front.reverse, ?_⟩
      rw [reversed, lineStart_inside (by simpa using clean.1) inside, List.reverse_reverse, line, List.append_assoc]
  obtain ⟨reversed, start⟩ := start
  have numbered : ∀ c ∈ '\n' :: digits row.id, decide (c ≠ '\t') = true := by
    intro c member
    refine decide_eq_true fun tab => ?_
    rw [tab, List.mem_cons] at member
    exact member.elim (by decide) (not_mem_digits (by decide))
  have line : '\n' :: (row.line ++ after) = ('\n' :: digits row.id) ++ '\t' :: (row.columns ++ after) := by simp [Row.line]
  have tab : '\t' ∈ '\n' :: (row.line ++ after) := by rw [line]; simp
  rw [scanNetid, start]
  dsimp only
  rw [if_neg (not_not.2 tab), line, List.takeWhile_append_of_pos numbered, List.takeWhile_cons_of_neg (by simp), List.append_nil, List.tail_cons]
  split
  · rename_i room
    have small := small_of_digits (Nat.le_of_lt_succ room)
    have number : atoi (digits row.id ++ []) = .ok (row.id : Int) := atoi_digits_append (by omega) nofun
    rw [List.append_nil] at number
    rw [number]
    rfl
  · rfl

/-- **Where the SSID is found**: in a row, or the search for its line leaves the buffer. -/
theorem findNetid_some (nonempty : ssid ≠ []) (found : ssid <:+: list.text) :
    findNetid ssid list.text =
      match list.hit ssid with
      | some row => if (digits row.id).length < 5 then .ok (some (row.id : Int)) else .error .outside
      | none => .error .outside := by
  obtain ⟨⟨before, pos⟩, cut⟩ := Option.ne_none_iff_exists'.1 fun none => strstr_none_iff.1 none found
  obtain ⟨whole, begins⟩ := strstr_some cut
  have more : pos ≠ [] := fun empty => nonempty (List.prefix_nil.1 (empty ▸ begins))
  rw [findNetid, Listing.hit, cut]
  dsimp only [Option.bind_some]
  by_cases early : before.length < header.length
  · rw [if_pos early]
    obtain ⟨between, line, rfl⟩ := cut_le (Nat.le_of_lt early) whole.symm
    have inside : between ≠ [] := by
      rintro rfl
      rw [line, List.append_nil] at early
      exact Nat.lt_irrefl _ early
    have clean := header_clean
    rw [line, List.mem_append, not_or] at clean
    have stop : (between ++ ((list.rows.flatMap fun row => '\n' :: row.line) ++ ['\n'])).head? ≠ some '\n' := by
      obtain ⟨d, between, rfl⟩ := List.exists_cons_of_ne_nil inside
      exact fun here => clean.2 (Option.some.inj here ▸ List.mem_cons_self ..)
    rw [scanNetid, lineStart_front (by simpa using clean.1) stop]
    rfl
  · rw [if_neg early]
    obtain ⟨behind, rfl, lines⟩ := cut_le (Nat.le_of_not_lt early) whole
    rw [List.length_append, Nat.add_sub_cancel_left]
    cases at_row : rowAt behind.length list.rows with
    | some row =>
      obtain ⟨front, inner, after, rfl, split, short, -⟩ := rowAt_some at_row lines
      have whole : header ++ (front ++ inner) = header ++ front ++ inner := (List.append_assoc ..).symm
      rw [scanNetid_row whole split short]
      dsimp only
      split <;> rfl
    | none =>
      obtain ⟨rest, rfl, last⟩ := cut_le (rowAt_none at_row) lines
      obtain rfl : rest = [] := by
        cases rest with
        | nil => rfl
        | cons c rest => exact absurd (List.append_eq_nil_iff.1 (List.tail_eq_of_cons_eq last).symm).2 more
      obtain rfl : ['\n'] = pos := last
      rw [scanNetid, lineStart_here]
      rfl

theorem findNetid_none (absent : ¬ ssid <:+: list.text) : findNetid ssid list.text = .ok none := by
  rw [findNetid, strstr_none_iff.2 absent]

/-- What a row has as SSID occurs. -/
theorem infix_of_mem (member : row ∈ list.rows) : row.ssid <:+: list.text := by
  obtain ⟨first, last, split⟩ := List.append_of_mem member
  rw [Listing.text, split, List.flatMap_append, List.flatMap_cons, Row.line, Row.columns]
  exact ⟨header ++ (first.flatMap fun row => '\n' :: row.line) ++ '\n' :: digits row.id ++ ['\t'],
    '\t' :: (row.bssid ++ '\t' :: row.flags) ++ (last.flatMap fun row => '\n' :: row.line) ++ ['\n'], by simp⟩

theorem hit_mem (hit : list.hit ssid = some row) : row ∈ list.rows := by
  obtain ⟨⟨before, pos⟩, cut, inside⟩ := Option.bind_eq_some_iff.1 hit
  split at inside
  · cases inside
  · rename_i behind
    obtain ⟨whole, -⟩ := strstr_some cut
    obtain ⟨behind, rfl, lines⟩ := cut_le (Nat.le_of_not_lt behind) whole
    dsimp only at inside
    rw [List.length_append, Nat.add_sub_cancel_left] at inside
    obtain ⟨-, -, -, -, -, -, member⟩ := rowAt_some inside lines
    exact member

/-! ## Connecting -/

/-- What is done with valid arguments, once the number of the network is known. -/
def finish (replies : Command → Option (List Char)) (ssid : List Char) (psk : Option (List Char)) (saveProfile : Bool)
    (first : List Message) (netid : Int) : Except Fault (WifiResult × List Message) :=
  (sendAll replies (configuring netid ssid psk saveProfile)).map fun r => (r.1, first ++ r.2)

theorem wifiConnect_valid (valid : Valid ssid psk) : wifiConnect ssid psk saveProfile (answers list added others) =
    (findNetid ssid list.text >>= fun found =>
      match found with
      | some netid => finish (answers list added others) ssid psk saveProfile [.listNetworks] netid
      | none =>
        match added.reply with
        | none => .ok (.wpaCmdReqFail, [.listNetworks, .addNetwork])
        | some buf => (atoi buf).mapError (fun _ => .undefined) >>= finish (answers list added others) ssid psk saveProfile [.listNetworks, .addNetwork]) := by
  obtain ⟨nonempty, single, long⟩ := valid
  have passphrase : (psk.any fun psk => psk.length < 8 || ' ' ∈ psk) = false := by
    cases psk with
    | none => rfl
    | some p => simpa using long p rfl
  rw [wifiConnect, if_neg (not_or.2 ⟨nonempty, single⟩), passphrase]
  dsimp only [answers]
  cases findNetid ssid list.text with
  | error f => rfl
  | ok found =>
    cases found with
    | some netid =>
      change (sendAll _ (configuring netid ssid psk saveProfile) >>= _) = finish _ _ _ _ _ _
      rw [finish]
      cases sendAll (answers list added others) (configuring netid ssid psk saveProfile) <;> rfl
    | none =>
      cases added.reply with
      | none => rfl
      | some buf =>
        change ((atoi buf).mapError (fun _ => Fault.undefined) >>= _) = ((atoi buf).mapError (fun _ => Fault.undefined) >>= _)
        refine congrArg _ (funext fun netid => ?_)
        rw [finish]
        cases sendAll (answers list added others) (configuring netid ssid psk saveProfile) <;> rfl

theorem wifiConnect_invalid (saveProfile : Bool) (replies : Command → Option (List Char)) (invalid : ¬ Valid ssid psk) : ∃ result, wifiConnect ssid psk saveProfile replies = .ok (result, []) := by
  rw [wifiConnect]
  by_cases name : ssid = [] ∨ ' ' ∈ ssid
  · exact ⟨_, if_pos name⟩
  · rw [if_neg name]
    have passphrase : (psk.any fun psk => psk.length < 8 || ' ' ∈ psk) = true := by
      by_contra none
      refine invalid ⟨(not_or.1 name).1, (not_or.1 name).2, fun p given => ?_⟩
      obtain rfl : psk = some p := given
      simpa using none
    exact ⟨_, if_pos passphrase⟩

/-- With the number of a network the right commands are sent, just where there is room. -/
theorem finish_iff (list : Listing) (added : Added) (others : Command → Option (List Char)) (saveProfile : Bool) (first : List Message)
    (short : (digits netid).length ≤ 10) (valid : Valid ssid psk) :
    (∃ result sent, finish (answers list added others) ssid psk saveProfile first netid = .ok (result, sent) ∧
      ∃ rest, sent = first ++ rest ∧ Configures netid ssid psk saveProfile rest) ↔ Room others ssid psk netid := by
  rw [← show Room (answers list added others) ssid psk netid ↔ Room others ssid psk netid from Iff.rfl, ← configuring_ok_iff saveProfile short valid]
  constructor
  · rintro ⟨result, sent, answered, -⟩
    obtain ⟨r, composed, -⟩ := map_ok_iff.1 answered
    exact ⟨r, composed⟩
  · rintro ⟨⟨result, sent⟩, composed⟩
    obtain ⟨begins, some⟩ := sendAll_begins composed
    exact ⟨result, first ++ sent, map_ok_iff.2 ⟨_, composed, rfl⟩, sent, rfl, some (List.cons_ne_nil _ _), begins⟩

theorem configures_head {rest : List Message} (configures : Configures netid ssid psk saveProfile rest) :
    ∃ more, rest = .setNetworkSsid netid ssid :: more := by
  obtain ⟨some, behind, whole⟩ := configures
  obtain ⟨m, more, rfl⟩ := List.exists_cons_of_ne_nil some
  exact ⟨more, by rw [List.head_eq_of_cons_eq whole]⟩

/-- A network that is listed is configured: it has to be that of the SSID. -/
theorem chosen_listed {rest : List Message} (member : row ∈ list.rows) (configures : Configures row.id ssid psk saveProfile rest) :
    Chosen list added ssid psk saveProfile (.listNetworks :: rest) ↔ row.ssid = ssid := by
  constructor
  · rintro (⟨other, there, name, rest', same, configures'⟩ | ⟨-, new⟩)
    · obtain rfl := List.tail_eq_of_cons_eq same
      obtain ⟨more, rfl⟩ := configures_head configures
      obtain ⟨more', same⟩ := configures_head configures'
      have id : row.id = other.id := by simpa using List.head_eq_of_cons_eq same
      rw [List.inj_on_of_nodup_map list.distinct member there id, name]
    · obtain ⟨more, rfl⟩ := configures_head configures
      cases added with
      | network id =>
        obtain ⟨rest, same, -⟩ := new
        cases same
      | failed | refused => cases new
  · exact fun name => Or.inl ⟨row, member, name, rest, rfl, configures⟩

/-- The SSID occurs. -/
theorem selects_found (valid : Valid ssid psk) (found : ssid <:+: list.text) :
    Selects list added others ssid psk saveProfile ↔
      ∃ row, list.hit ssid = some row ∧ row.ssid = ssid ∧ (digits row.id).length ≤ 4 ∧ Room others ssid psk row.id := by
  rw [Selects, wifiConnect_valid valid, findNetid_some valid.1 found]
  simp only [if_pos valid]
  cases hit : list.hit ssid with
  | none =>
    refine iff_of_false ?_ nofun
    rintro ⟨_, _, ⟨⟩, -⟩
  | some row =>
    dsimp only
    by_cases small : (digits row.id).length < 5
    · rw [if_pos small]
      have finishes := finish_iff list added others saveProfile [.listNetworks] (show (digits row.id).length ≤ 10 by omega) valid
      change (∃ result sent, finish (answers list added others) ssid psk saveProfile [.listNetworks] row.id = .ok (result, sent) ∧ _) ↔ _
      constructor
      · rintro ⟨result, sent, answered, chosen⟩
        obtain ⟨⟨result', sent'⟩, composed, same⟩ := map_ok_iff.1 answered
        cases same
        obtain ⟨begins, some⟩ := sendAll_begins composed
        have configures : Configures row.id ssid psk saveProfile sent' := ⟨some (List.cons_ne_nil _ _), begins⟩
        exact ⟨row, rfl, (chosen_listed (hit_mem hit) configures).1 chosen, Nat.le_of_lt_succ small,
          finishes.1 ⟨_, _, answered, sent', rfl, configures⟩⟩
      · rintro ⟨row', same, name, -, room⟩
        obtain rfl := Option.some.inj same
        obtain ⟨result, sent, answered, rest, rfl, configures⟩ := finishes.2 room
        exact ⟨result, _, answered, (chosen_listed (hit_mem hit) configures).2 name⟩
    · rw [if_neg small]
      refine iff_of_false ?_ ?_
      · rintro ⟨_, _, ⟨⟩, -⟩
      · rintro ⟨row', same, -, short, -⟩
        obtain rfl := Option.some.inj same
        omega

/-- It does not occur. -/
theorem selects_absent (valid : Valid ssid psk) (absent : ¬ ssid <:+: list.text) :
    Selects list added others ssid psk saveProfile ↔
      added = .failed ∨ ∃ id, added = .network id ∧ Room others ssid psk id := by
  have unlisted : ∀ row ∈ list.rows, row.ssid ≠ ssid := by
    rintro row member rfl
    exact absent (infix_of_mem member)
  rw [Selects, wifiConnect_valid valid, findNetid_none absent]
  simp only [if_pos valid]
  cases added with
  | failed => exact iff_of_true ⟨_, _, rfl, Or.inr ⟨unlisted, rfl⟩⟩ (Or.inl rfl)
  | refused =>
    refine iff_of_false ?_ ?_
    · rintro ⟨result, sent, answered, chosen⟩
      change finish (answers list .refused others) ssid psk saveProfile [.listNetworks, .addNetwork] (0 : Nat) = _ at answered
      obtain ⟨⟨result', sent'⟩, composed, same⟩ := map_ok_iff.1 answered
      cases same
      have some := (sendAll_begins composed).2 (List.cons_ne_nil _ _)
      obtain ⟨row, member, name, -⟩ | ⟨-, same⟩ := chosen
      · exact unlisted row member name
      · exact some (List.append_right_eq_self.1 same)
    · rintro (⟨⟨⟩⟩ | ⟨_, ⟨⟩, -⟩)
  | network id =>
    have number : (atoi (digits id ++ ['\n'])).mapError (fun _ => Fault.undefined) = .ok ((id : Nat) : Int) := by
      have stops : ∀ c ∈ ['\n'].head?, Websocket.isDigit c = false := by
        rintro c ⟨⟩
        rfl
      rw [atoi_digits_append id.2 stops]
      rfl
    have finishes := finish_iff list (.network id) others saveProfile [.listNetworks, .addNetwork] (show (digits id).length ≤ 10 from digits_short) valid
    dsimp only [Added.reply]
    change (∃ result sent, ((atoi (digits id ++ ['\n'])).mapError (fun _ => Fault.undefined) >>= _) = .ok (result, sent) ∧ _) ↔ _
    rw [number]
    change (∃ result sent, finish (answers list (.network id) others) ssid psk saveProfile [.listNetworks, .addNetwork] ((id : Nat) : Int) = .ok (result, sent) ∧ _) ↔ _
    constructor
    · rintro ⟨result, sent, answered, -⟩
      obtain ⟨⟨result', sent'⟩, composed, same⟩ := map_ok_iff.1 answered
      cases same
      obtain ⟨begins, some⟩ := sendAll_begins composed
      exact Or.inr ⟨id, rfl, finishes.1 ⟨_, _, answered, sent', rfl, some (List.cons_ne_nil _ _), begins⟩⟩
    · rintro (⟨⟨⟩⟩ | ⟨id', same, room⟩)
      cases same
      obtain ⟨result, sent, answered, rest, rfl, configures⟩ := finishes.2 room
      exact ⟨result, _, answered, Or.inr ⟨unlisted, rest, rfl, configures⟩⟩

/-- **The right network is selected** just where the SSID occurs first in its own row, whose number has at
most four digits, or nowhere; the supplicant gives a network where it is asked for one; and there is room
for the commands. -/
theorem selects_iff (list : Listing) (added : Added) (others : Command → Option (List Char)) (ssid : List Char)
    (psk : Option (List Char)) (saveProfile : Bool) :
    Selects list added others ssid psk saveProfile ↔ (Valid ssid psk → Fits list added others ssid psk) := by
  by_cases valid : Valid ssid psk
  · rw [imp_iff_right valid, Fits]
    by_cases found : ssid <:+: list.text
    · rw [selects_found valid found]
      constructor
      · rintro ⟨row, hit, name, short, room⟩
        exact Or.inr ⟨row.id, Or.inl ⟨row, hit, name, short, rfl⟩, room⟩
      · rintro (⟨absent, -⟩ | ⟨netid, ⟨row, hit, name, short, rfl⟩ | ⟨absent, -⟩, room⟩)
        · exact absurd found absent
        · exact ⟨row, hit, name, short, room⟩
        · exact absurd found absent
    · rw [selects_absent valid found]
      constructor
      · rintro (failed | ⟨id, given, room⟩)
        · exact Or.inl ⟨found, failed⟩
        · exact Or.inr ⟨id, Or.inr ⟨found, id, given, rfl⟩, room⟩
      · rintro (⟨-, failed⟩ | ⟨netid, ⟨row, hit, rfl, -⟩ | ⟨-, id, given, rfl⟩, room⟩)
        · exact Or.inl failed
        · exact absurd (infix_of_mem (hit_mem hit)) found
        · exact Or.inr ⟨id, given, room⟩
  · obtain ⟨result, refused⟩ := wifiConnect_invalid saveProfile (answers list added others) valid
    refine iff_of_true ⟨result, [], refused, ?_⟩ fun right => absurd right valid
    rw [if_neg valid]

/-! ## The module -/

section Module

variable {s : State}

theorem wifiSendCmd_eq (connected : s.control = .ok true) (reply : Option (List Char)) :
    wifiSendCmd reply s = .ok (match reply with
      | none => (.wpaCmdReqFail, [])
      | some buf => (.success, buf)) := by
  unfold wifiSendCmd
  rw [connected]
  cases reply <;> rfl

theorem obeyed_eq (connected : s.control = .ok true) (reply : Option (List Char)) : obeyed reply s = .ok (verdict reply) := by
  rw [obeyed, wifiSendCmd_eq connected]
  cases reply <;> rfl

theorem obeyedAll_eq (connected : s.control = .ok true) (answered : sendAll replies ms = .ok (result, sent)) :
    obeyedAll replies s (ms.map Message.command) = .ok result := by
  induction ms generalizing sent with
  | nil =>
    cases answered
    rfl
  | cons m ms ih =>
    rw [List.map_cons, obeyedAll, obeyed_eq connected]
    rw [sendAll] at answered
    split at answered
    · cases answered
    · split at answered
      · rename_i refused
        cases answered
        exact if_pos refused
      · rename_i obeyed
        obtain ⟨r, rest, same⟩ := map_ok_iff.1 answered
        cases same
        exact (if_neg obeyed).trans (ih rest)

theorem configuring_command (netid : Int) :
    (configuring netid ssid psk saveProfile).map Message.command = Wifi.configuring psk saveProfile := by
  cases saveProfile <;> by_cases secured : (psk.getD []).length ≠ 0 <;> simp [configuring, Wifi.configuring, secured, Message.command]

theorem findNetid_isSome {buf : List Char} {found : Option Int} (searched : findNetid ssid buf = .ok found) :
    found.isSome ↔ ssid <:+: buf := by
  rw [findNetid] at searched
  cases cut : strstr ssid buf with
  | none =>
    rw [cut] at searched
    cases searched
    exact iff_of_false nofun (strstr_none_iff.1 cut)
  | some p =>
    rw [cut] at searched
    obtain ⟨netid, -, rfl⟩ := map_ok_iff.1 searched
    refine iff_of_true rfl (not_not.1 fun absent => ?_)
    rw [strstr_none_iff.2 absent] at cut
    cases cut

/-- **What is returned** is what the call returns in the model of the module, where only the kind of a command counts. -/
theorem wifiConnect_returns (connected : s.control = .ok true) (answered : wifiConnect ssid psk saveProfile replies = .ok (result, sent)) :
    Wifi.wifiConnect (some ssid) psk saveProfile replies s = .ok result := by
  have finishes : ∀ {netid : Int} {first : List Message},
      (sendAll replies (configuring netid ssid psk saveProfile) >>= fun r => .ok (r.1, first ++ r.2)) = Except.ok (result, sent) →
      obeyedAll replies s (Wifi.configuring psk saveProfile) = .ok result := by
    intro netid first ran
    obtain ⟨r, composed, same⟩ := bind_ok_iff.1 ran
    cases same
    rw [← configuring_command netid]
    exact obeyedAll_eq connected composed
  rw [wifiConnect] at answered
  rw [Wifi.wifiConnect]
  simp only [reduceCtorEq, Option.some.injEq, Option.getD_some, false_or]
  split at answered
  · rename_i invalid
    cases answered
    exact if_pos invalid
  rename_i valid
  rw [if_neg valid]
  split at answered
  · rename_i invalid
    cases answered
    exact if_pos invalid
  rename_i passphrase
  rw [if_neg passphrase, wifiSendCmd_eq connected]
  cases listed : replies .listNetworks with
  | none =>
    rw [listed] at answered
    cases answered
    rfl
  | some buf =>
    rw [listed] at answered
    obtain ⟨found, searched, answered⟩ := bind_ok_iff.1 answered
    have occurs := findNetid_isSome searched
    cases found with
    | some netid =>
      have there : ssid <:+: buf := occurs.1 rfl
      have sent := @finishes netid [.listNetworks] answered
      simpa [there, bind, Except.bind, pure, Except.pure] using sent
    | none =>
      have absent : ¬ ssid <:+: buf := fun there => by cases occurs.2 there
      cases given : replies .addNetwork with
      | none =>
        simp only [given] at answered
        cases answered
        simp [absent, wifiSendCmd_eq connected, bind, Except.bind, pure, Except.pure]
      | some reply =>
        simp only [given] at answered
        obtain ⟨netid, -, answered⟩ := bind_ok_iff.1 answered
        have sent := @finishes netid [.listNetworks, .addNetwork] answered
        simpa [absent, wifiSendCmd_eq connected, bind, Except.bind] using sent

end Module

/-! ## A network with a longer name -/

/-- Network 0 has the SSID `home-guest`. -/
def guest : Row := ⟨0, "home-guest".toList, "any".toList, [], by simp [Clean], by simp [Clean], by simp [Clean]⟩

def neighbours : Listing := ⟨[guest], List.nodup_singleton _, by decide⟩

/-- It is configured anew for the SSID `home`. -/
theorem guest_taken : ¬ ∀ list added others ssid psk saveProfile, Selects list added others ssid psk saveProfile := by
  intro all
  obtain ⟨row, hit, name, -⟩ := (selects_found (show Valid "home".toList none by decide) (by decide)).1
    (all neighbours .failed (fun _ => none) "home".toList none false)
  obtain rfl := List.mem_singleton.1 (hit_mem hit)
  exact absurd name (by decide)

end ArtikSdk.Wifi.Networks
