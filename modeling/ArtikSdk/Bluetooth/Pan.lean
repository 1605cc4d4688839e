import ArtikSdk.Lib.Run
import ArtikSdk.Lib.Tokens
import ArtikSdk.Base.Error

/-!
# PAN

`pan.c`. The module is connected where its buffer begins like a path of the bus; the path of a device
is built in the same buffer before it is known whether there is a device, and an address is cut by
`strtok`. Next to it runs a book of what the application was told: the path of the connection that was
made last and not given up.
-/

namespace ArtikSdk.Bluetooth.Pan
open Lib

/-- An object path of the bus. -/
abbrev Path := List Char

/-- `DBUS_BLUEZ_OBJECT_PATH_HCI0` -/
def hci0 : Path := "/org/bluez/hci0".toList

/-- `MAC_PREFIX` -/
def macPrefix : Path := "/dev_".toList

/-- `MAC_ADDR_LEN` -/
def macAddrLen : Nat := 17

/-- `NETWORK_PATH_LEN` -/
def networkPathLen : Nat := 64

/-- `NAP`, `PANU` and `GN`. -/
def roles : List (List Char) := ["nap".toList, "panu".toList, "gn".toList]

/-- A store to null, or behind the buffer. -/
inductive Fault where
  | nullPointer
  | overflow

/-- The string in `_network_path`. -/
abbrev State := Path

def State.init : State := []

/-- `_is_network_path_valid` -/
def isNetworkPathValid (networkPath : State) : Bool := hci0.isPrefixOf networkPath

/-- `_pan_parameter_check`, with both arguments. -/
def panParameterCheck (addr uuid : List Char) : ArtikError :=
  if addr.length ≠ macAddrLen then .btError
  else if roles.all (fun role => !role.isPrefixOf uuid) then .btError
  else .ok

/-- `strcat` to the buffer. -/
def strcat (path s : Path) : Except Fault Path :=
  if path.length + s.length < networkPathLen then .ok (path ++ s) else .error .overflow

/-- A round of the loop of `_generate_device_path`: no separator behind the last token. -/
def appendToken (catCount : Nat) (path token : Path) : Except Fault Path := do
  let path ← strcat path token
  if catCount ≠ 6 then strcat path ['_'] else .ok path

/-- The loop over the tokens: what is in the buffer, and what is returned. -/
def appendTokens : Nat → Path → List (List Char) → Except Fault (Path × ArtikError)
  | _, path, [] => .ok (path, .ok)
  | catCount, path, token :: rest =>
    if token.length ≠ 2 then .ok (path, .btError)
    else do
      let path ← appendToken (catCount + 1) path token
      appendTokens (catCount + 1) path rest

/-- `_generate_device_path` -/
def generateDevicePath (networkPath : State) (macAddr : List Char) : Except Fault (State × ArtikError) :=
  if macAddr.length ≠ macAddrLen then .ok (networkPath, .btError)
  else appendTokens 0 (hci0 ++ macPrefix) (tokens ':' macAddr)

/-- What a call returns, and the path that it asks the bus to connect. -/
structure Output where
  result : ArtikError
  attempted : Option Path

/-- `bt_pan_connect`; `interface`: the pointer to it is not null, `granted`: there is memory for the
address, `reply`: the bus connects. -/
def btPanConnect (macAddr uuid : List Char) (interface granted reply : Bool) (networkPath : State) : Except Fault (State × Output) :=
  if isNetworkPathValid networkPath then .ok (networkPath, ⟨.btError, none⟩)
  else if panParameterCheck macAddr uuid ≠ .ok then .ok (networkPath, ⟨.invalidValue, none⟩)
  else if interface = false then .ok (networkPath, ⟨.invalidValue, none⟩)
  else if granted = false then .error .nullPointer
  else do
    let (networkPath, generated) ← generateDevicePath networkPath macAddr
    if generated ≠ .ok then .ok (networkPath, ⟨.badArgs, none⟩)
    else .ok (networkPath, ⟨if reply then .ok else .btError, some networkPath⟩)

/-- `bt_pan_disconnect` -/
def btPanDisconnect (reply : Bool) (networkPath : State) : State × Output :=
  if isNetworkPathValid networkPath = false then (networkPath, ⟨.notInitialized, none⟩)
  else ([], ⟨if reply then .ok else .btError, none⟩)

/-- `_get_pan_property`, of `Connected`, `Interface` or `UUID`. -/
def getPanProperty (reply : Bool) (networkPath : State) : State × Output :=
  if isNetworkPathValid networkPath = false then (networkPath, ⟨.notInitialized, none⟩)
  else (networkPath, ⟨if reply then .ok else .btError, none⟩)

/-- A call, with what its surroundings do. -/
inductive Operation where
  | connect (macAddr uuid : List Char) (interface granted reply : Bool)
  | disconnect (reply : Bool)
  | getProperty (reply : Bool)

def perform : Operation → State → Except Fault (State × Output)
  | .connect macAddr uuid interface granted reply, s => btPanConnect macAddr uuid interface granted reply s
  | .disconnect reply, s => .ok (btPanDisconnect reply s)
  | .getProperty reply, s => .ok (getPanProperty reply s)

/-! ## What the application was told -/

/-- `XX:XX:XX:XX:XX:XX` -/
structure Address where
  groups : List (List Char)
  six : groups.length = 6
  pairs : ∀ g ∈ groups, g.length = 2 ∧ ':' ∉ g

def Address.text (a : Address) : List Char := [':'].intercalate a.groups

/-- The path of a device. -/
def Address.path (a : Address) : Path := hci0 ++ macPrefix ++ ['_'].intercalate a.groups

/-- The module, and the connection that was made last and not given up. -/
structure Registry where
  networkPath : State
  book : Option Path

def Registry.init : Registry := ⟨.init, none⟩

/-- A connect that succeeds makes a connection, a disconnect gives it up. -/
def note : Operation → Output → Option Path → Option Path
  | .connect .., ⟨.ok, some path⟩, _ => some path
  | .disconnect _, _, _ => none
  | _, _, book => book

def Registry.step (op : Operation) (w : Registry) : Except Fault (Registry × Output) :=
  (perform op w.networkPath).map fun r => (⟨r.1, note op r.2 w.book⟩, r.2)

/-- An address and a role that are what they should be, and a place for the interface. -/
def Valid (macAddr uuid : List Char) (interface : Bool) : Prop :=
  (∃ a : Address, a.text = macAddr) ∧ (∃ role ∈ roles, role.isPrefixOf uuid) ∧ interface = true

/-- What the call itself has to do: connect asks for the device of an address, and does so where no
connection is there and all is valid; the others answer where a connection is there. -/
def Answers (c : Lib.Call Operation Registry Output) : Prop :=
  match c.input with
  | .connect macAddr uuid interface _ reply =>
    (∀ path, c.output.attempted = some path → ∃ a : Address, a.text = macAddr ∧ path = a.path) ∧
      (c.output.attempted.isSome ↔ c.before.book = none ∧ Valid macAddr uuid interface) ∧
      (c.output.result = .ok ↔ c.output.attempted.isSome ∧ reply = true)
  | .disconnect _ | .getProperty _ => c.output.result = .notInitialized ↔ c.before.book = none

/-- The module takes itself for connected just where the application does, and to the same device. -/
structure Keeps (c : Lib.Call Operation Registry Output) : Prop where
  answers : Answers c
  connected : isNetworkPathValid c.after.networkPath ↔ c.after.book.isSome
  path : ∀ path, c.after.book = some path → c.after.networkPath = path

/-- A connect that is tried: there is no connection, and what the code checks of the arguments is right. -/
def Tried (macAddr uuid : List Char) (interface : Bool) (w : Registry) : Prop :=
  w.book = none ∧ panParameterCheck macAddr uuid = .ok ∧ interface = true

/-- There is memory where a connect is tried, the address is one, and the bus connects. -/
def Fits : Operation → Registry → Prop
  | .connect macAddr uuid interface granted reply, w =>
    Tried macAddr uuid interface w → granted = true ∧ (∃ a : Address, a.text = macAddr) ∧ reply = true
  | .disconnect _, _ | .getProperty _, _ => True

structure Registry.Inv (w : Registry) : Prop where
  connected : isNetworkPathValid w.networkPath ↔ w.book.isSome
  path : ∀ path, w.book = some path → w.networkPath = path

/-! ## Addresses -/

variable {macAddr uuid token : List Char} {interface granted reply : Bool} {networkPath path : State} {ts : List (List Char)} {catCount : Nat}

theorem Address.text_length (a : Address) : a.text.length = macAddrLen := by
  have cut := splitOn_length ':' a.text
  have nonempty : a.groups ≠ [] := fun none => absurd a.six (by rw [none]; decide)
  rw [text, List.splitOn_intercalate ':' (fun g member => (a.pairs g member).2) nonempty,
    flatten_length fun g member => (a.pairs g member).1, a.six] at cut
  exact (Nat.succ.inj cut).symm

theorem Address.tokens_text (a : Address) : tokens ':' a.text = a.groups := by
  refine tokens_intercalate fun g member => ⟨fun empty => ?_, (a.pairs g member).2⟩
  have two := (a.pairs g member).1
  rw [empty] at two
  cases two

/-- **Which strings are addresses**: of the strings that are cut into pairs those with six of them. -/
theorem address_iff : (∃ a : Address, a.text = macAddr) ↔
    macAddr.length = macAddrLen ∧ (tokens ':' macAddr).length = 6 ∧ ∀ t ∈ tokens ':' macAddr, t.length = 2 := by
  constructor
  · rintro ⟨a, rfl⟩
    rw [a.tokens_text]
    exact ⟨a.text_length, a.six, fun g member => (a.pairs g member).1⟩
  · rintro ⟨long, six, pairs⟩
    refine ⟨⟨tokens ':' macAddr, six, fun g member => ⟨pairs g member, (mem_tokens member).2⟩⟩, intercalate_tokens ?_⟩
    rw [flatten_length pairs, six, long]
    rfl

theorem panParameterCheck_iff : panParameterCheck macAddr uuid = .ok ↔
    macAddr.length = macAddrLen ∧ ∃ role ∈ roles, role.isPrefixOf uuid := by
  have refused : ¬ (roles.all fun role => !role.isPrefixOf uuid) = true ↔ ∃ role ∈ roles, role.isPrefixOf uuid := by
    simp
  rw [panParameterCheck, ← refused]
  by_cases long : macAddr.length = macAddrLen
  · rw [if_neg (not_not.2 long)]
    split
    · rename_i all
      exact iff_of_false nofun fun role => role.2 all
    · rename_i role
      exact iff_of_true rfl ⟨long, role⟩
  · rw [if_pos long]
    exact iff_of_false nofun fun right => long right.1

/-- What a round appends. -/
def piece (catCount : Nat) (token : List Char) : Path := token ++ if catCount ≠ 6 then ['_'] else []

theorem piece_length (catCount : Nat) (token : List Char) : (piece catCount token).length ≤ token.length + 1 := by
  rw [piece, List.length_append]
  split <;> simp

theorem appendToken_ok (room : path.length + token.length + 1 < networkPathLen) :
    appendToken catCount path token = .ok (path ++ piece catCount token) := by
  have first : strcat path token = .ok (path ++ token) := if_pos (by omega)
  rw [appendToken, first, piece]
  change (if catCount ≠ 6 then strcat (path ++ token) ['_'] else .ok (path ++ token)) = _
  split
  · rw [strcat, if_pos (by rw [List.length_append, List.length_singleton]; omega), List.append_assoc]
  · rw [List.append_nil]

/-- Whatever the tokens are, the buffer keeps what it began with. -/
theorem appendTokens_keeps (catCount : Nat) (room : path.length + ts.flatten.length + ts.length < networkPathLen) :
    ∃ behind e, appendTokens catCount path ts = .ok (path ++ behind, e) := by
  induction ts generalizing catCount path with
  | nil => exact ⟨[], .ok, by rw [appendTokens, List.append_nil]⟩
  | cons token rest ih =>
    rw [List.flatten_cons, List.length_append, List.length_cons] at room
    rw [appendTokens]
    split
    · exact ⟨[], .btError, by rw [List.append_nil]⟩
    · have long := piece_length (catCount + 1) token
      have room' : (path ++ piece (catCount + 1) token).length + rest.flatten.length + rest.length < networkPathLen := by
        rw [List.length_append]
        omega
      obtain ⟨behind, e, appended⟩ := @ih (path ++ piece (catCount + 1) token) (catCount + 1) room'
      rw [appendToken_ok (by omega)]
      exact ⟨piece (catCount + 1) token ++ behind, e, appended.trans (by rw [List.append_assoc])⟩

/-- Six pairs are joined. -/
theorem appendTokens_pairs (six : catCount + ts.length = 6) (pairs : ∀ t ∈ ts, t.length = 2)
    (room : path.length + ts.flatten.length + ts.length < networkPathLen) :
    appendTokens catCount path ts = .ok (path ++ ['_'].intercalate ts, .ok) := by
  induction ts generalizing catCount path with
  | nil => rw [appendTokens, List.intercalate_nil, List.append_nil]
  | cons token rest ih =>
    obtain ⟨two, pairs⟩ := List.forall_mem_cons.1 pairs
    rw [List.flatten_cons, List.length_append, List.length_cons] at room
    rw [List.length_cons] at six
    have long := piece_length (catCount + 1) token
    rw [appendTokens, if_neg (not_not.2 two), appendToken_ok (by omega)]
    refine (ih (by omega) pairs (by rw [List.length_append]; omega)).trans ?_
    by_cases last : rest = []
    · have sixth : catCount + 1 = 6 := by simpa [last] using six
      rw [last, piece, if_neg (not_not.2 sixth), List.intercalate_singleton, List.intercalate_nil, List.append_nil, List.append_nil]
    · have more := List.length_pos_of_ne_nil last
      rw [piece, if_pos (by omega), List.intercalate_cons_of_ne_nil last]
      simp only [List.append_assoc]

/-- **The buffer behind the building of a path**: the module takes itself for connected, whether that
went well or not. -/
theorem generateDevicePath_fills (networkPath : State) (long : macAddr.length = macAddrLen) :
    ∃ path e, generateDevicePath networkPath macAddr = .ok (path, e) ∧ isNetworkPathValid path ∧
      ∀ a : Address, a.text = macAddr → path = a.path ∧ e = .ok := by
  have room : (hci0 ++ macPrefix).length + (tokens ':' macAddr).flatten.length + (tokens ':' macAddr).length < networkPathLen := by
    have short := tokens_length_le ':' macAddr
    rw [long, macAddrLen] at short
    have front : (hci0 ++ macPrefix).length = 20 := rfl
    rw [front, networkPathLen]
    omega
  rw [generateDevicePath, if_neg (not_not.2 long)]
  obtain ⟨behind, e, appended⟩ := appendTokens_keeps 0 room
  refine ⟨_, e, appended, ?_, ?_⟩
  · rw [isNetworkPathValid, List.isPrefixOf_iff_prefix, List.append_assoc]
    exact List.prefix_append _ _
  · rintro a rfl
    rw [a.tokens_text] at appended room
    rw [appendTokens_pairs (by rw [a.six]) (fun g member => (a.pairs g member).1) room] at appended
    cases appended
    exact ⟨rfl, rfl⟩

/-! ## One call -/

variable {w w' : Registry} {op : Operation} {o : Output}

theorem Registry.Inv.init : Registry.init.Inv := ⟨by decide, nofun⟩

theorem Registry.Inv.unconnected (inv : w.Inv) (none : w.book = none) : isNetworkPathValid w.networkPath = false := by
  have connected := inv.connected
  rw [none] at connected
  simpa using connected

/-- A connect that is not tried changes nothing. -/
theorem connect_untried (granted reply : Bool) (inv : w.Inv) (untried : ¬ Tried macAddr uuid interface w) :
    ∃ e, e ≠ .ok ∧ w.step (.connect macAddr uuid interface granted reply) = .ok (w, ⟨e, none⟩) := by
  cases book : w.book with
  | some path =>
    have valid : isNetworkPathValid w.networkPath = true := inv.connected.2 (by rw [book]; rfl)
    refine ⟨.btError, nofun, ?_⟩
    simp only [Registry.step, perform, btPanConnect, valid, if_true, Except.map]
    rfl
  | none =>
    have invalid := inv.unconnected book
    refine ⟨.invalidValue, nofun, ?_⟩
    by_cases check : panParameterCheck macAddr uuid = .ok
    · have missing : interface = false := by
        by_contra there
        exact untried ⟨book, check, by simpa using there⟩
      simp only [Registry.step, perform, btPanConnect, invalid, check, missing, Except.map]
      rfl
    · simp only [Registry.step, perform, btPanConnect, invalid, if_pos check, Except.map]
      rfl

/-- What is left, and answered, by a connect that is tried, with the path and the result of its building. -/
def outcome (reply : Bool) (book : Option Path) (path : Path) (built : ArtikError) : Registry × Output :=
  if built ≠ .ok then (⟨path, book⟩, ⟨.badArgs, none⟩)
  else (⟨path, if reply then some path else book⟩, ⟨if reply then .ok else .btError, some path⟩)

/-- A connect that is tried: the module takes itself for connected. -/
theorem connect_tried (granted reply : Bool) (inv : w.Inv) (tried : Tried macAddr uuid interface w) :
    ∃ path built, isNetworkPathValid path ∧ (∀ a : Address, a.text = macAddr → path = a.path ∧ built = .ok) ∧
      w.step (.connect macAddr uuid interface granted reply) =
        if granted = false then .error .nullPointer else .ok (outcome reply w.book path built) := by
  obtain ⟨book, check, there⟩ := tried
  obtain ⟨path, built, generated, valid, address⟩ := generateDevicePath_fills w.networkPath (panParameterCheck_iff.1 check).1
  refine ⟨path, built, valid, address, ?_⟩
  simp only [Registry.step, perform, btPanConnect, inv.unconnected book, check, there, generated, outcome]
  cases granted with
  | false => rfl
  | true =>
    change Except.map _ (if built ≠ .ok then _ else _) = _
    split
    · rfl
    · cases reply <;> rfl

theorem valid_tried (none : w.book = none) (valid : Valid macAddr uuid interface) : Tried macAddr uuid interface w := by
  obtain ⟨⟨a, rfl⟩, role, there⟩ := valid
  exact ⟨none, panParameterCheck_iff.2 ⟨a.text_length, role⟩, there⟩

theorem tried_valid (tried : Tried macAddr uuid interface w) (address : ∃ a : Address, a.text = macAddr) :
    Valid macAddr uuid interface := ⟨address, (panParameterCheck_iff.1 tried.2.1).2, tried.2.2⟩

theorem connect_keeps (inv : w.Inv) (fits : Fits (.connect macAddr uuid interface granted reply) w) :
    ∃ w' o, w.step (.connect macAddr uuid interface granted reply) = .ok (w', o) ∧ w'.Inv ∧
      Keeps ⟨w, .connect macAddr uuid interface granted reply, w', o⟩ := by
  by_cases tried : Tried macAddr uuid interface w
  · obtain ⟨path, built, valid, address, answered⟩ := connect_tried granted reply inv tried
    obtain ⟨rfl, ⟨a, rfl⟩, rfl⟩ := fits tried
    obtain ⟨rfl, rfl⟩ := address a rfl
    have inv' : Registry.Inv ⟨a.path, some a.path⟩ := ⟨iff_of_true valid rfl, fun _ same => Option.some.inj same⟩
    refine ⟨_, _, answered, inv', ⟨⟨?_, ?_, ?_⟩, inv'.connected, inv'.path⟩⟩
    · intro path same
      exact ⟨a, rfl, (Option.some.inj same).symm⟩
    · exact iff_of_true rfl ⟨tried.1, tried_valid tried ⟨a, rfl⟩⟩
    · exact iff_of_true rfl ⟨rfl, rfl⟩
  · obtain ⟨e, refused, answered⟩ := connect_untried granted reply inv tried
    refine ⟨_, _, answered, inv, ⟨⟨nofun, ?_, ?_⟩, inv.connected, inv.path⟩⟩
    · exact iff_of_false nofun fun right => tried (valid_tried right.1 right.2)
    · exact iff_of_false refused nofun

/-- A connect that keeps the law was not tried, or all went well. -/
theorem connect_fits (inv : w.Inv) (answered : w.step (.connect macAddr uuid interface granted reply) = .ok (w', o))
    (keeps : Keeps ⟨w, .connect macAddr uuid interface granted reply, w', o⟩) : Fits (.connect macAddr uuid interface granted reply) w := by
  intro tried
  obtain ⟨path, built, valid, -, answered'⟩ := connect_tried granted reply inv tried
  rw [answered] at answered'
  have unknown : w'.book = none → ¬ isNetworkPathValid w'.networkPath = true := by
    intro none told
    have some := keeps.connected.1 told
    rw [none] at some
    cases some
  cases granted with
  | false => cases answered'
  | true =>
    by_cases right : built = .ok
    · cases reply with
      | false =>
        simp only [outcome, right, tried.1] at answered'
        cases answered'
        exact absurd valid (unknown rfl)
      | true =>
        simp only [outcome, right] at answered'
        cases answered'
        obtain ⟨a, same, -⟩ := keeps.answers.1 path rfl
        exact ⟨rfl, ⟨a, same⟩, rfl⟩
    · simp only [outcome, if_pos right, tried.1] at answered'
      cases answered'
      exact absurd valid (unknown rfl)

theorem disconnect_keeps (inv : w.Inv) : ∃ w' o, w.step (.disconnect reply) = .ok (w', o) ∧ w'.Inv ∧ Keeps ⟨w, .disconnect reply, w', o⟩ := by
  have empty : Registry.Inv ⟨[], none⟩ := ⟨by decide, nofun⟩
  cases book : w.book with
  | none =>
    have invalid := inv.unconnected book
    have answered : w.step (.disconnect reply) = .ok (w, ⟨.notInitialized, none⟩) := by
      simp only [Registry.step, perform, btPanDisconnect, invalid, if_true, Except.map, note, ← book]
    exact ⟨_, _, answered, inv, ⟨iff_of_true rfl book, inv.connected, inv.path⟩⟩
  | some path =>
    have valid : isNetworkPathValid w.networkPath = true := inv.connected.2 (by rw [book]; rfl)
    have answered : w.step (.disconnect reply) = .ok (⟨[], none⟩, ⟨if reply then .ok else .btError, none⟩) := by
      simp only [Registry.step, perform, btPanDisconnect, valid, Except.map, note]
      rfl
    have told : (if reply then ArtikError.ok else .btError) ≠ .notInitialized := by cases reply <;> exact nofun
    refine ⟨_, _, answered, empty, ⟨iff_of_false told fun none => ?_, empty.connected, empty.path⟩⟩
    rw [book] at none
    cases none

theorem getProperty_keeps (inv : w.Inv) : ∃ w' o, w.step (.getProperty reply) = .ok (w', o) ∧ w'.Inv ∧ Keeps ⟨w, .getProperty reply, w', o⟩ := by
  cases book : w.book with
  | none =>
    have invalid := inv.unconnected book
    have answered : w.step (.getProperty reply) = .ok (w, ⟨.notInitialized, none⟩) := by
      simp only [Registry.step, perform, getPanProperty, invalid, if_true, Except.map, note]
    exact ⟨_, _, answered, inv, ⟨iff_of_true rfl book, inv.connected, inv.path⟩⟩
  | some path =>
    have valid : isNetworkPathValid w.networkPath = true := inv.connected.2 (by rw [book]; rfl)
    have answered : w.step (.getProperty reply) = .ok (w, ⟨if reply then .ok else .btError, none⟩) := by
      simp only [Registry.step, perform, getPanProperty, valid, Except.map, note]
      rfl
    have told : (if reply then ArtikError.ok else .btError) ≠ .notInitialized := by cases reply <;> exact nofun
    refine ⟨_, _, answered, inv, ⟨iff_of_false told fun none => ?_, inv.connected, inv.path⟩⟩
    rw [book] at none
    cases none

/-- **One call** that fits keeps the law. -/
theorem step_keeps (inv : w.Inv) (fits : Fits op w) : ∃ w' o, w.step op = .ok (w', o) ∧ w'.Inv ∧ Keeps ⟨w, op, w', o⟩ := by
  cases op with
  | connect macAddr uuid interface granted reply => exact connect_keeps inv fits
  | disconnect reply => exact disconnect_keeps inv
  | getProperty reply => exact getProperty_keeps inv

/-- **The module is connected** where the application takes it for connected, throughout the runs in
which all that is tried goes well; and in no other. -/
theorem connected_iff (ops : List Operation) :
    (∃ cs w, exec Registry.step ops .init = .ok (cs, w) ∧ ∀ c ∈ cs, Keeps c) ↔ Along Fits Registry.step ops .init := by
  refine exec_along_iff (I := Registry.Inv) (fun op w inv => ⟨?_, fun fits => ?_⟩) (fun op w w' o inv fits answered => ?_) .init
  · rintro ⟨w', o, answered, keeps⟩
    cases op with
    | connect macAddr uuid interface granted reply => exact connect_fits inv answered keeps
    | disconnect reply => trivial
    | getProperty reply => trivial
  · obtain ⟨w', o, answered, -, keeps⟩ := step_keeps inv fits
    exact ⟨w', o, answered, keeps⟩
  · obtain ⟨w₁, o₁, answered', inv', -⟩ := step_keeps inv fits
    rw [answered] at answered'
    cases answered'
    exact inv'

/-- A connect that the bus refuses leaves the module connected. -/
theorem connect_left : ¬ ∀ ops, ∃ cs w, exec Registry.step ops .init = .ok (cs, w) ∧ ∀ c ∈ cs, Keeps c := by
  intro all
  obtain ⟨cs, w, ran, keeps⟩ := all ([] ++ [.connect "00:11:22:33:44:55".toList "nap".toList true true false])
  obtain ⟨ds, s, o, first, answered, rfl⟩ := exec_concat ran
  cases first
  exact Bool.false_ne_true (connect_fits .init answered (keeps _ (List.mem_cons_self ..)) ⟨rfl, rfl, rfl⟩).2.2

end ArtikSdk.Bluetooth.Pan
