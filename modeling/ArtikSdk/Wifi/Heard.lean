import ArtikSdk.Wifi.Events

/-!
# What the supplicant tells

A book of what the application is to hear: the messages that wait, whether a scan is asked for, and whom to call. Each event of
the module is one step of the book, on what every event keeps of the connections.
-/

namespace ArtikSdk.Wifi.Events
open Lib

/-! ## The book

What the events mean: the messages that wait to be checked, whether a scan is asked for, and what the application has set. -/

/-- Behind its first `>` a message names an event. -/
def Names (message name : List Char) : Prop := ∃ level rest, '>' ∉ level ∧ message = level ++ '>' :: (name ++ rest)

/-- Without a connection that monitors there is no queue. -/
structure Book where
  queue : Option (List (List Char))
  wanted : Bool
  scanResult : Callback
  connect : Callback

def Book.empty : Book := ⟨none, false, .null, .null⟩

/-- Whom a message is for, what it tells, and whether a scan is asked for behind it. -/
inductive Book.Tells (b : Book) (message : List Char) : Callback → Told → Bool → Prop where
  | scanned (names : Names message wpaEventScanResults) (wanted : b.wanted = true) : b.Tells message b.scanResult .scanned false
  | connected (names : Names message wpaEventConnected) : b.Tells message b.connect (.connection true) b.wanted
  | disconnected (names : Names message wpaEventDisconnected) : b.Tells message b.connect (.connection false) b.wanted

/-- A scan is asked for from its acceptance until its results are told, once. What the supplicant tells is checked in its
order, each message once, and told to what is set then. -/
inductive Book.Next (b : Book) : Event → Output → Book → Prop where
  | opened {mode : Mode} {answers : InitAnswers} {registers : Bool} (closed : b.queue = none) :
      Next b (.init mode answers registers) (.code .ok) { b with queue := answers.connection.mon.map fun _ => [], wanted := false }
  | unopened {mode : Mode} {answers : InitAnswers} {registers : Bool} {e : ArtikError} (fails : e ≠ .ok) :
      Next b (.init mode answers registers) (.code e) b
  | closed : Next b .deinit (.code .ok) { b with queue := none }
  | unclosed {e : ArtikError} (fails : e ≠ .ok) : Next b .deinit (.code e) b
  | accepted {reply : List Char} (ok : "OK".toList <+: reply) : Next b (.scanRequest (some reply)) (.code .ok) { b with wanted := true }
  | refused {reply : Option (List Char)} {e : ArtikError} (fails : e ≠ .ok) : Next b (.scanRequest reply) (.code e) b
  | started {ssid password : Option (List Char)} {channel flags : BitVec 32} {hostapd : Bool} {e : ArtikError} :
      Next b (.startAp ssid password channel flags hostapd) (.code e) b
  | joined {ssid psk : Option (List Char)} {persistent : Bool} {replies : Command → Option (List Char)} {e : ArtikError} :
      Next b (.connect ssid psk persistent replies) (.code e) b
  | parted {reply : Option (List Char)} {e : ArtikError} : Next b (.disconnect reply) (.code e) b
  | setConnect {cb : Callback} : Next b (.setConnect cb) (.code .ok) { b with connect := cb }
  | setScanResult {cb : Callback} : Next b (.setScanResult cb) (.code .ok) { b with scanResult := cb }
  | unsetConnect : Next b .unsetConnect (.code .ok) { b with connect := .null }
  | unsetScanResult : Next b .unsetScanResult (.code .ok) { b with scanResult := .null }
  | told {message : List Char} : Next b (.tells message) .nothing { b with queue := b.queue.map (· ++ [received message]) }
  | dispatched {watch : Nat} {answers : OpenAnswers} {registers : Bool} : Next b (.dispatch watch answers registers) .nothing b
  | called {message : List Char} {rest : List (List Char)} {func userData : Nat} {told : Told} {wanted : Bool} {receives : Bool}
      (head : b.queue = some (message :: rest)) (tells : b.Tells message ⟨some func, userData⟩ told wanted) :
      Next b (.goOn receives) (.calls func told userData) { b with queue := some rest, wanted }
  | unheard {message : List Char} {rest : List (List Char)} {userData : Nat} {told : Told} {wanted : Bool} {receives : Bool}
      (head : b.queue = some (message :: rest)) (tells : b.Tells message ⟨none, userData⟩ told wanted) :
      Next b (.goOn receives) .nothing { b with queue := some rest, wanted }
  | skipped {message : List Char} {rest : List (List Char)} {receives : Bool} (head : b.queue = some (message :: rest))
      (silent : ∀ cb told wanted, ¬ b.Tells message cb told wanted) (goes : ¬ Names message wpaEventTerminating) :
      Next b (.goOn receives) .nothing { b with queue := some rest }
  | terminated {message : List Char} {rest : List (List Char)} {receives : Bool} (head : b.queue = some (message :: rest))
      (names : Names message wpaEventTerminating) : Next b (.goOn receives) .nothing { b with queue := none }
  | rests {receives : Bool} : Next b (.goOn receives) .nothing b
  | returned : Next b .goBack .nothing b

def State.book (s : State) : Book := ⟨s.monConn.map fun k => (s.inbox k).map received, s.activeScan, s.scanResult, s.connect⟩

/-- What the supplicant tells unasked begins with `<`. -/
def Event.Fits : Event → Prop
  | .tells message => message.head? = some '<'
  | _ => True

/-! ## Messages -/

theorem behindLevel_iff {m start : List Char} : behindLevel m = some start ↔ ∃ level, '>' ∉ level ∧ m = level ++ '>' :: start := by
  induction m with
  | nil =>
    constructor
    · intro found
      cases found
    · rintro ⟨level, -, empty⟩
      cases level <;> cases empty
  | cons c cs ih =>
    rw [behindLevel]
    split
    · rename_i ends
      subst ends
      constructor
      · intro same
        cases same
        exact ⟨[], by simp, rfl⟩
      · rintro ⟨level, outside, same⟩
        cases level with
        | nil =>
          cases same
          rfl
        | cons d level =>
          obtain ⟨rfl, -⟩ := List.cons.inj same
          exact absurd (List.mem_cons_self ..) outside
    · rename_i other
      rw [ih]
      constructor
      · rintro ⟨level, outside, rfl⟩
        exact ⟨c :: level, by simpa [Ne.symm other] using outside, rfl⟩
      · rintro ⟨level, outside, same⟩
        cases level with
        | nil => exact absurd (List.cons.inj same).1 other
        | cons d level =>
          obtain ⟨rfl, rest⟩ := List.cons.inj same
          exact ⟨level, fun inside => outside (List.mem_cons_of_mem _ inside), rest⟩

theorem strStarts_iff {src name : List Char} : strStarts src name = true ↔ ∃ rest, src = name ++ rest := by
  rw [strStarts, List.isPrefixOf_iff_prefix]
  exact ⟨fun starts => starts.imp fun _ same => same.symm, fun starts => starts.imp fun _ same => same.symm⟩

theorem names_iff {m name start : List Char} (behind : behindLevel m = some start) : Names m name ↔ strStarts start name = true := by
  rw [strStarts_iff]
  constructor
  · rintro ⟨level, rest, outside, same⟩
    have again := behindLevel_iff.2 ⟨level, outside, same⟩
    rw [behind] at again
    exact ⟨rest, Option.some.inj again⟩
  · rintro ⟨rest, rfl⟩
    obtain ⟨level, outside, same⟩ := behindLevel_iff.1 behind
    exact ⟨level, rest, outside, same⟩

theorem not_names {m name : List Char} (behind : behindLevel m = none) : ¬ Names m name := by
  rintro ⟨level, rest, outside, same⟩
  rw [behindLevel_iff.2 ⟨level, outside, same⟩] at behind
  cases behind

/-- The names of two events differ where `CTRL-EVENT-` ends. -/
theorem starts_char {start name : List Char} {c : Char} (starts : strStarts start name = true) (here : name[11]? = some c) :
    start[11]? = some c := by
  obtain ⟨rest, rfl⟩ := strStarts_iff.1 starts
  rw [List.getElem?_append_left (List.getElem?_eq_some_iff.1 here).1, here]

theorem onWifi_ok {α : Type} {x : Except Wifi.Fault α} {a : α} (works : onWifi x = .ok a) : x = .ok a := by
  cases x with
  | error f => cases works
  | ok b =>
    cases works
    rfl

/-! ## What is kept -/

variable {s s' : State} {o : Output} {e : Event}

/-- The connection that monitors is there only beside the one for commands, and the watches are its. -/
structure State.Connected (s : State) : Prop where
  monitored : s.base.cliCtrlConn = none → s.monConn = none
  attached : s.attached = true → s.monConn ≠ none
  readers : ∀ k ∈ s.readers, s.monConn = some k

/-- A message that is to be read was told to those who are attached, and one that the application is called for does not
tell of the end. -/
structure State.Linked (s : State) : Prop extends s.Connected where
  opened : ∀ k, s.monConn = some k → k < s.opened
  unread : ∀ k, s.opened ≤ k → s.inbox k = []
  marked : ∀ k, ∀ m ∈ s.inbox k, m.head? = some '<'
  running : ∀ f ∈ s.frames, ∀ m, f.buf = some m → tellsTerminating m = false

/-- What every event keeps: besides, a module that is not initialised, or has no name, has no connection. -/
structure State.Kept (s : State) : Prop extends s.Linked where
  initialised : s.base.wifiInitialized = false → s.base.cliCtrlConn = none
  named : s.base.ctrlIfname = false → s.base.cliCtrlConn = none

theorem init_kept : State.init.Kept where
  monitored _ := rfl
  attached attached := by cases attached
  readers k member := by cases member
  opened k there := by cases there
  unread _ _ := rfl
  marked k m member := by cases member
  running f member := by cases member
  initialised _ := rfl
  named _ := rfl

/-- Nothing is connected. -/
def State.closed (s : State) : State :=
  { s with base := { s.base with cliCtrlConn := none }, attached := false, readers := [], monConn := none }

theorem State.Connected.eq_closed (connected : s.Connected) (absent : s.base.cliCtrlConn = none) : s = s.closed := by
  have none' := connected.monitored absent
  have unattached : s.attached = false := Bool.eq_false_iff.2 fun attached => connected.attached attached none'
  have unwatched : s.readers = [] := List.eq_nil_iff_forall_not_mem.2 fun k member => by
    have there := connected.readers k member
    rw [none'] at there
    cases there
  rcases s with ⟨⟨initialized, connected, mode, ifname, wifi, cli, opened⟩, mon, attached, active, scan, connect, readers, inbox, made, frames⟩
  dsimp only at absent none' unattached unwatched
  subst absent none' unattached unwatched
  rfl

theorem State.Connected.close (connected : s.Connected) : wpaCliCloseConnection s = .ok s.closed := by
  unfold wpaCliCloseConnection
  split
  · rename_i absent
    exact congrArg Except.ok (connected.eq_closed absent)
  · split
    · rename_i broken
      exact absurd broken.2 (connected.attached broken.1)
    · rw [State.closed, Wifi.wpaCliCloseConnection, List.filter_eq_nil_iff.2 fun k member => by simp [connected.readers k member]]

/-- What opening the connections leads to from where there are none. -/
inductive Opens (ifname : Bool) (answers : OpenAnswers) (s : State) : State → Bool → Prop where
  | fails (n m : Nat) (more : s.opened ≤ m) : Opens ifname answers s { s with base := { s.base with opened := n }, opened := m } false
  | works (n m : Nat) (readers : List Nat) (named : ifname = true) (more : s.opened ≤ m)
      (there : answers.mon ≠ none → s.opened < m) (watched : ∀ k ∈ readers, k = s.opened ∧ answers.mon ≠ none) :
      Opens ifname answers s
        { s with
          base := { s.base with cliCtrlConn := some s.base.opened, opened := n }
          monConn := answers.mon.map fun _ => s.opened
          attached := answers.mon.isSome
          readers
          opened := m } true

theorem closed_opens (ifname : Bool) (answers : OpenAnswers) (registers : Bool) (s : State) :
    ∃ t works, wpaCliOpenConnection ifname answers registers s.closed = .ok (t, works) ∧ Opens ifname answers s.closed t works := by
  unfold wpaCliOpenConnection
  split
  · exact ⟨_, _, rfl, .fails s.base.opened s.opened le_rfl⟩
  · rename_i enough
    have named : ifname = true := Bool.eq_true_of_not_eq_false fun unnamed => enough (.inl unnamed)
    split
    · exact ⟨_, _, rfl, .fails s.base.opened s.opened le_rfl⟩
    · dsimp only
      cases mon : answers.mon with
      | none =>
        refine ⟨_, _, rfl, ?_⟩
        have opens : Opens ifname answers s.closed _ true := .works (s.base.opened + 1) s.opened [] named le_rfl (by simp [mon]) (by simp)
        rw [mon] at opens
        exact opens
      | some attaches =>
        cases attaches with
        | true =>
          refine ⟨_, _, rfl, ?_⟩
          have opens : Opens ifname answers s.closed _ true :=
            .works (s.base.opened + 1) (s.opened + 1) (if registers then [s.opened] else []) named (Nat.le_succ _)
              (fun _ => Nat.lt_succ_self _) (by cases registers <;> simp [mon, State.closed])
          rw [mon] at opens
          exact opens
        | false =>
          -- the connection that could not be attached is closed again
          have connected : (State.Connected { s.closed with
              base := { s.closed.base with cliCtrlConn := some s.base.opened, opened := s.base.opened + 1 }
              monConn := some s.opened
              opened := s.opened + 1 }) :=
            ⟨fun absent => (by cases absent), fun attached => (by cases attached), fun k member => (by cases member)⟩
          refine ⟨_, _, congrArg (Except.map (·, false)) connected.close, ?_⟩
          exact .fails (s.base.opened + 1) (s.opened + 1) (Nat.le_succ _)

/-! ## Calls of the application -/

/-- What closing the connections keeps. -/
theorem State.Linked.close (linked : s.Linked) : s.closed.Linked where
  monitored _ := rfl
  attached attached := by cases attached
  readers k member := by cases member
  opened k there := by cases there
  unread := linked.unread
  marked := linked.marked
  running := linked.running

theorem State.Kept.close (kept : s.Kept) : s.closed.Kept := { kept.toLinked.close with initialised := fun _ => rfl, named := fun _ => rfl }

theorem Opens.linked {ifname : Bool} {answers : OpenAnswers} {t : State} {works : Bool} (linked : s.closed.Linked)
    (opens : Opens ifname answers s.closed t works) : t.Linked := by
  cases opens with
  | fails n m more =>
    refine { monitored := fun _ => rfl, attached := linked.attached, readers := linked.readers, opened := fun k there => ?_,
             unread := fun k new => linked.unread k (more.trans new), marked := linked.marked, running := linked.running }
    cases there
  | works n m readers named more there watched =>
    refine { monitored := fun absent => ?_, attached := fun attached none' => ?_, readers := fun k member => ?_, opened := fun k same => ?_,
             unread := fun k new => linked.unread k (more.trans new), marked := linked.marked, running := linked.running }
    · cases absent
    · cases mon : answers.mon <;> simp_all
    · obtain ⟨rfl, some'⟩ := watched k member
      obtain ⟨a, mon⟩ := Option.ne_none_iff_exists'.1 some'
      simp [mon]
    · obtain ⟨a, mon, rfl⟩ := Option.map_eq_some_iff.1 same
      exact there (by rw [mon]; exact Option.some_ne_none a)

/-- What an answer keeps, and what it means. -/
structure Does (s : State) (e : Event) (s' : State) (o : Output) : Prop where
  kept : s'.Kept
  next : Book.Next s.book e o s'.book

/-- An initialisation is answered, and changes the connection only where there is none. -/
theorem State.Kept.wifiInit (kept : s.Kept) (mode : Mode) (answers : InitAnswers) (registers : Bool) :
    ∃ s' e, osWifiInit mode answers registers s = .ok (s', e) ∧ Does s (.init mode answers registers) s' (.code e) ∧
      s'.frames = s.frames ∧ (s.monConn = none ∨ s' = s) := by
  unfold osWifiInit
  split
  · exact ⟨_, _, rfl, ⟨kept, .unopened (by decide)⟩, rfl, .inr rfl⟩
  · split
    · exact ⟨_, _, rfl, ⟨kept, .unopened (by decide)⟩, rfl, .inr rfl⟩
    · unfold wifiInitialize
      split
      · exact ⟨_, _, rfl, ⟨kept, .unopened (by decide)⟩, rfl, .inr rfl⟩
      · rename_i unnamed
        have absent := kept.named (Bool.eq_false_iff.2 unnamed)
        have unmonitored := kept.monitored absent
        have book : s.book = ⟨none, s.activeScan, s.scanResult, s.connect⟩ := by rw [State.book, unmonitored]; rfl
        have linked : (State.Linked { s with base := { s.base with ctrlIfname := answers.ifname }, readers := [] }) :=
          { kept.toLinked with readers := fun k member => (by cases member) }
        obtain ⟨t, works, opened, opens⟩ := closed_opens answers.ifname answers.connection registers
          { s with base := { s.base with ctrlIfname := answers.ifname }, readers := [] }
        rw [← linked.eq_closed absent] at opened
        rw [opened]
        have linked' := opens.linked linked.close
        cases opens with
        | fails n m more =>
          refine ⟨_, _, rfl, ⟨⟨linked', fun _ => rfl, fun _ => rfl⟩, ?_⟩, rfl, .inl unmonitored⟩
          rw [book]
          exact .unopened (by decide)
        | works n m readers named more there watched =>
          refine ⟨_, _, rfl, ⟨⟨{ linked' with }, fun unset => (by cases unset), fun unnamed => ?_⟩, ?_⟩, rfl, .inl unmonitored⟩
          · exact absurd (named.symm.trans unnamed) (by decide)
          · -- a connection is new, and has nothing to read
            have empty : (answers.connection.mon.map fun _ => s.opened).map (fun k => (s.inbox k).map received) =
                answers.connection.mon.map fun _ => [] := by
              rw [Option.map_map]
              exact congrArg (fun f => answers.connection.mon.map f) (funext fun _ => by simp [kept.unread s.opened le_rfl])
            have next : Book.Next ⟨none, s.activeScan, s.scanResult, s.connect⟩ (.init mode answers registers) (.code .ok) _ := .opened rfl
            rw [← empty] at next
            rw [book]
            exact next

/-- A deinitialisation is answered. -/
theorem State.Kept.wifiDeinit (kept : s.Kept) :
    ∃ s' e, osWifiDeinit s = .ok (s', e) ∧ Does s .deinit s' (.code e) ∧ s'.frames = s.frames := by
  unfold osWifiDeinit
  split
  · exact ⟨_, _, rfl, ⟨kept, .unclosed (by decide)⟩, rfl⟩
  · have linked : (State.Linked { s with base := { s.base with ctrlIfname := false } }) := { kept.toLinked with }
    unfold wifiDeinitialize
    rw [linked.toConnected.close]
    exact ⟨_, _, rfl, ⟨⟨{ kept.toLinked.close with }, fun _ => rfl, fun _ => rfl⟩, .closed⟩, rfl⟩

theorem sendCmd_success {reply : Option (List Char)} {buf : List Char} {t : Wifi.State}
    (sent : wifiSendCmd reply t = .ok (.success, buf)) : reply = some buf := by
  obtain ⟨there, -, same⟩ := map_ok_iff.1 sent
  cases there with
  | false => cases same
  | true =>
    cases reply with
    | none => cases same
    | some r =>
      cases same
      rfl

theorem scan_success {reply : Option (List Char)} {t : Wifi.State} (works : Wifi.wifiScanRequest reply t = .ok .success) :
    ∃ r, reply = some r ∧ "OK".toList <+: r := by
  obtain ⟨⟨result, buf⟩, sent, judged⟩ := map_ok_iff.1 works
  dsimp only at judged
  by_cases fails : result ≠ .success
  · rw [if_pos fails] at judged
    exact absurd judged fails
  · rw [if_neg fails] at judged
    by_cases starts : "OK".toList.isPrefixOf buf = true
    · rw [not_not.1 fails] at sent
      exact ⟨buf, sendCmd_success sent, List.isPrefixOf_iff_prefix.1 starts⟩
    · rw [if_neg starts] at judged
      split at judged <;> cases judged

theorem State.Kept.scanRequest (kept : s.Kept) {reply : Option (List Char)} {c : ArtikError}
    (answered : osWifiScanRequest reply s = .ok (s', c)) :
    Does s (.scanRequest reply) s' (.code c) ∧ s'.frames = s.frames ∧ s'.monConn = s.monConn := by
  unfold osWifiScanRequest at answered
  split at answered
  · cases answered
    exact ⟨⟨kept, .refused (by decide)⟩, rfl, rfl⟩
  · obtain ⟨⟨t, result⟩, requested, same⟩ := map_ok_iff.1 answered
    unfold wifiScanRequest at requested
    obtain ⟨result', scanned, rest⟩ := bind_ok_iff.1 requested
    cases rest
    cases same
    by_cases works : result = .success
    · subst works
      obtain ⟨r, rfl, ok⟩ := scan_success scanned
      refine ⟨⟨{ kept with }, ?_⟩, rfl, rfl⟩
      have next : Book.Next s.book (.scanRequest (some r)) (.code .ok) { s.book with wanted := true } := .accepted ok
      rw [← Bool.or_true s.activeScan] at next
      exact next
    · have code : result.code ≠ .ok := by
        rw [WifiResult.code, if_neg works]
        decide
      refine ⟨⟨{ kept with }, ?_⟩, rfl, rfl⟩
      have next : Book.Next s.book (.scanRequest reply) (.code result.code) s.book := .refused code
      simpa [State.book, works] using next

/-- A call of `linux_wifi.c` that leaves the connections as they are. -/
theorem State.Kept.onBase (kept : s.Kept) {t : Wifi.State} (conn : t.cliCtrlConn = s.base.cliCtrlConn)
    (initialised : t.wifiInitialized = s.base.wifiInitialized) (named : t.ctrlIfname = s.base.ctrlIfname) :
    (State.Kept { s with base := t }) := by
  refine { kept.toLinked with
    monitored := fun absent => kept.monitored (conn ▸ absent), initialised := fun unset => ?_, named := fun unset => ?_ }
  · exact conn.trans (kept.initialised (initialised ▸ unset))
  · exact conn.trans (kept.named (named ▸ unset))

theorem State.Kept.join (kept : s.Kept) {ssid psk : Option (List Char)} {persistent : Bool}
    {replies : Command → Option (List Char)} {t : Wifi.State} {c : ArtikError}
    (answered : Wifi.osWifiConnect ssid psk persistent replies s.base = .ok (t, c)) :
    Does s (.connect ssid psk persistent replies) { s with base := t } (.code c) := by
  refine ⟨?_, .joined⟩
  unfold Wifi.osWifiConnect at answered
  split at answered
  · cases answered
    exact kept
  · split at answered
    · cases answered
      exact kept
    · obtain ⟨result, -, same⟩ := map_ok_iff.1 answered
      split at same <;> cases same <;> exact kept.onBase rfl rfl rfl

theorem State.Kept.part (kept : s.Kept) {reply : Option (List Char)} {t : Wifi.State} {c : ArtikError}
    (answered : Wifi.osWifiDisconnect reply s.base = .ok (t, c)) : Does s (.disconnect reply) { s with base := t } (.code c) := by
  refine ⟨?_, .parted⟩
  unfold Wifi.osWifiDisconnect at answered
  split at answered
  · cases answered
    exact kept
  · obtain ⟨result, -, same⟩ := map_ok_iff.1 answered
    split at same <;> cases same <;> exact kept.onBase rfl rfl rfl

/-! ## Messages and the loop -/

theorem State.Kept.tells (kept : s.Kept) {message : List Char} (marked : message.head? = some '<') :
    Does s (.tells message) (tells message s) .nothing := by
  unfold Events.tells
  have next : Book.Next s.book (.tells message) .nothing { s.book with queue := s.book.queue.map (· ++ [received message]) } := .told
  split
  · rename_i there
    refine ⟨kept, ?_⟩
    simpa [State.book, there] using next
  · rename_i k there
    refine ⟨{ kept with unread := fun j new => ?_, marked := fun j m member => ?_ }, ?_⟩
    · have old := kept.opened k there
      dsimp only at new ⊢
      rw [Function.update_of_ne (by omega)]
      exact kept.unread j new
    · dsimp only at member
      by_cases same : j = k
      · subst same
        rw [Function.update_self, List.mem_append, List.mem_singleton] at member
        obtain member | rfl := member
        · exact kept.marked j m member
        · exact marked
      · rw [Function.update_of_ne same] at member
        exact kept.marked j m member
    · simpa [State.book, there] using next

theorem State.Kept.dispatch (kept : s.Kept) (watch : Nat) (answers : OpenAnswers) (registers : Bool) :
    ∃ s', dispatch watch answers registers s = .ok (s', .nothing) ∧ Does s (.dispatch watch answers registers) s' .nothing ∧
      s'.base = s.base ∧ s'.monConn = s.monConn ∧ (s'.frames = s.frames ∨ s.monConn = some watch ∧ (∀ f ∈ s.frames, f.watch ≠ watch) ∧
        s'.frames = ⟨watch, watch, none⟩ :: s.frames) := by
  unfold Events.dispatch
  split
  · rename_i ready
    have there := kept.readers watch ready.1
    split
    · rename_i absent
      rw [absent] at there
      cases there
    · rename_i ctrl there'
      obtain rfl := Option.some.inj (there.symm.trans there')
      refine ⟨_, rfl, ⟨{ kept with running := fun f member m busy => ?_ }, .dispatched⟩, rfl, rfl, .inr ⟨there, ready.2, rfl⟩⟩
      cases member with
      | head => cases busy
      | tail _ member => exact kept.running f member m busy
  · exact ⟨s, rfl, ⟨kept, .dispatched⟩, rfl, rfl, .inl rfl⟩

theorem Book.Tells.queue {b : Book} {message : List Char} {cb : Callback} {told : Told} {wanted : Bool}
    (tells : b.Tells message cb told wanted) (q : Option (List (List Char))) : Book.Tells { b with queue := q } message cb told wanted := by
  cases tells with
  | scanned names asked => exact .scanned (b := { b with queue := q }) names asked
  | connected names => exact .connected (b := { b with queue := q }) names
  | disconnected names => exact .disconnected (b := { b with queue := q }) names

/-- `check_event` calls whom the message is for, and nobody if it is for nobody. -/
theorem checkEvent_tells (m : List Char) (s : State) :
    (∃ cb told wanted, checkEvent m s = ({ s with activeScan := wanted }, some (cb, told)) ∧ s.book.Tells m cb told wanted) ∨
      checkEvent m s = (s, none) ∧ ∀ cb told wanted, ¬ s.book.Tells m cb told wanted := by
  unfold checkEvent
  cases behind : behindLevel m with
  | none =>
    refine .inr ⟨rfl, fun cb told wanted tells => ?_⟩
    cases tells with
    | scanned names _ => exact not_names behind names
    | connected names => exact not_names behind names
    | disconnected names => exact not_names behind names
  | some start =>
    dsimp only
    split
    · rename_i bss
      refine .inr ⟨rfl, fun cb told wanted tells => ?_⟩
      have added : start[11]? = some 'B' := by
        rw [Bool.or_eq_true] at bss
        exact bss.elim (starts_char · rfl) (starts_char · rfl)
      cases tells with
      | scanned names _ => exact absurd (added.symm.trans (starts_char ((names_iff behind).1 names) rfl)) (by decide)
      | connected names => exact absurd (added.symm.trans (starts_char ((names_iff behind).1 names) rfl)) (by decide)
      | disconnected names => exact absurd (added.symm.trans (starts_char ((names_iff behind).1 names) rfl)) (by decide)
    · split
      · rename_i scan
        rw [Bool.and_eq_true] at scan
        exact .inl ⟨_, _, _, rfl, .scanned ((names_iff behind).2 scan.2) scan.1⟩
      · rename_i unwanted
        split
        · rename_i connected
          exact .inl ⟨_, _, _, rfl, .connected ((names_iff behind).2 connected)⟩
        · rename_i unconnected
          split
          · rename_i disconnected
            exact .inl ⟨_, _, _, rfl, .disconnected ((names_iff behind).2 disconnected)⟩
          · rename_i undisconnected
            refine .inr ⟨rfl, fun cb told wanted tells => ?_⟩
            cases tells with
            | scanned names asked => exact unwanted (Bool.and_eq_true_iff.2 ⟨asked, (names_iff behind).1 names⟩)
            | connected names => exact unconnected ((names_iff behind).1 names)
            | disconnected names => exact undisconnected ((names_iff behind).1 names)

/-- A message that begins with `<` tells of the end by its event. -/
theorem tellsTerminating_iff {m : List Char} (marked : m.head? = some '<') : tellsTerminating m = true ↔ Names m wpaEventTerminating := by
  unfold tellsTerminating
  rw [if_pos marked]
  cases behind : behindLevel m with
  | none =>
    refine iff_of_false (fun starts => ?_) (not_names behind)
    obtain ⟨rest, same⟩ := strStarts_iff.1 starts
    rw [Option.getD_none] at same
    rw [same] at marked
    cases marked
  | some start => exact (names_iff behind).symm

/-- Whoever is called is not told of the end. -/
theorem Book.Tells.goes {b : Book} {m : List Char} {cb : Callback} {told : Told} {wanted : Bool} (tells : b.Tells m cb told wanted) :
    ¬ Names m wpaEventTerminating := by
  intro ends
  cases behind : behindLevel m with
  | none => exact not_names behind ends
  | some start =>
    have last : start[11]? = some 'T' := starts_char ((names_iff behind).1 ends) rfl
    cases tells with
    | scanned names _ => exact absurd (last.symm.trans (starts_char ((names_iff behind).1 names) rfl)) (by decide)
    | connected names => exact absurd (last.symm.trans (starts_char ((names_iff behind).1 names) rfl)) (by decide)
    | disconnected names => exact absurd (last.symm.trans (starts_char ((names_iff behind).1 names) rfl)) (by decide)

theorem received_head {message : List Char} (marked : message.head? = some '<') : (received message).head? = some '<' := by
  cases message with
  | nil => cases marked
  | cons c cs =>
    cases marked
    rfl

/-- Behind an event that does not tell of the end the loop goes on. -/
theorem afterEvent_goes {f : Frame} {frames : List Frame} {m : List Char} (goes : tellsTerminating m = false) :
    afterEvent f frames m s = .ok ({ s with frames := { f with buf := none } :: frames }, .nothing) := by
  unfold afterEvent checkTerminating
  rw [if_neg (by rw [goes]; exact fun ends => Bool.false_ne_true ends.1)]
  rfl

/-- Behind one that does it ends, and the connections are closed. -/
theorem afterEvent_ends {f : Frame} {frames : List Frame} {m : List Char} (linked : s.Linked) (ends : tellsTerminating m = true)
    (there : s.base.cliCtrlConn ≠ none) : afterEvent f frames m s = .ok ({ s.closed with frames }, .nothing) := by
  have unattached : (State.Connected { s with attached := false }) := ⟨linked.monitored, fun attached => (by cases attached), linked.readers⟩
  unfold afterEvent checkTerminating
  rw [if_pos ⟨ends, there⟩, unattached.close]
  rfl

theorem State.Kept.frames (kept : s.Kept) {frames : List Frame}
    (running : ∀ f ∈ frames, f ∈ s.frames ∨ ∀ m, f.buf = some m → tellsTerminating m = false) : (State.Kept { s with frames }) := by
  refine { kept with running := fun f member m busy => ?_ }
  obtain old | new := running f member
  · exact kept.running f old m busy
  · exact new m busy

/-- What is read of a connection is gone. -/
theorem State.Kept.read (kept : s.Kept) {k : Nat} {message : List Char} {rest : List (List Char)} (here : s.inbox k = message :: rest) :
    (State.Kept { s with inbox := Function.update s.inbox k rest }) := by
  refine { kept with unread := fun j new => ?_, marked := fun j m member => ?_ }
  · have old := kept.unread j new
    have other : j ≠ k := fun same => by rw [same, here] at old; cases old
    dsimp only
    rw [Function.update_of_ne other]
    exact old
  · dsimp only at member
    by_cases same : j = k
    · subst same
      rw [Function.update_self] at member
      exact kept.marked j m (by rw [here]; exact List.mem_cons_of_mem _ member)
    · rw [Function.update_of_ne same] at member
      exact kept.marked j m member

/-- A round of the loop that runs last, on a connection that is open: it ends, or checks a message and goes on, calls the
application, or ends with the connection. -/
inductive Goes (f : Frame) (frames : List Frame) (s : State) : State → Prop where
  | ends (t : State) (base : t.base = s.base) (same : t.monConn = s.monConn) (left : t.frames = frames) : Goes f frames s t
  | goesOn (t : State) (buf : Option (List Char)) (base : t.base = s.base) (same : t.monConn = s.monConn)
      (left : t.frames = { f with buf } :: frames) : Goes f frames s t
  | closes (t : State) (base : t.base = Wifi.wpaCliCloseConnection s.base) (none' : t.monConn = none) (left : t.frames = frames) :
      Goes f frames s t

theorem State.Kept.goOn (kept : s.Kept) {f : Frame} {frames : List Frame} (runs : s.frames = f :: frames) (idle : f.buf = none)
    (opened : s.monConn = some f.ctrl) (receives : Bool) :
    ∃ s' o, goOn receives s = .ok (s', o) ∧ Does s (.goOn receives) s' o ∧ Goes f frames s s' := by
  have fewer : ∀ g ∈ frames, g ∈ s.frames ∨ ∀ m, g.buf = some m → tellsTerminating m = false :=
    fun g member => .inl (by rw [runs]; exact List.mem_cons_of_mem _ member)
  unfold Events.goOn
  split
  · rename_i none'
    rw [none'] at runs
    cases runs
  · rename_i f' frames' runs'
    obtain ⟨rfl, rfl⟩ := List.cons.inj (runs'.symm.trans runs)
    rw [if_neg (not_not.2 idle), if_neg (not_not.2 opened)]
    split
    · exact ⟨_, _, rfl, ⟨kept.frames fewer, .rests⟩, .ends _ rfl rfl rfl⟩
    · rename_i message rest here
      split
      · exact ⟨_, _, rfl, ⟨kept.frames fewer, .rests⟩, .ends _ rfl rfl rfl⟩
      · have head : s.book.queue = some (received message :: rest.map received) := by
          rw [State.book, opened, Option.map_some, here, List.map_cons]
        have marked := received_head (kept.marked f'.ctrl message (by rw [here]; exact List.mem_cons_self ..))
        have kept' := kept.read here
        have queue : (s.monConn.map fun k => (Function.update s.inbox f'.ctrl rest k).map received) = some (rest.map received) := by
          simp [opened]
        have book : (State.book { s with inbox := Function.update s.inbox f'.ctrl rest }) =
            { s.book with queue := some (rest.map received) } := by
          rw [← queue]
          rfl
        have again : ∀ buf : Option (List Char), (∀ m, buf = some m → tellsTerminating m = false) →
            ∀ g ∈ { f' with buf } :: frames', g ∈ s.frames ∨ ∀ m, g.buf = some m → tellsTerminating m = false := by
          intro buf goes g member
          cases member with
          | head => exact .inr goes
          | tail _ member => exact fewer g member
        have tells := checkEvent_tells (received message) { s with inbox := Function.update s.inbox f'.ctrl rest }
        rw [book] at tells
        obtain ⟨cb, told, wanted, checks, tells⟩ | ⟨checks, silent⟩ := tells
        · have tells := tells.queue s.book.queue
          have goes : tellsTerminating (received message) = false := by
            rw [← Bool.not_eq_true, tellsTerminating_iff marked]
            exact tells.goes
          dsimp only
          rw [checks]
          obtain ⟨func, userData⟩ := cb
          cases func with
          | none =>
            dsimp only
            rw [afterEvent_goes goes]
            have left : (State.Kept { s with inbox := Function.update s.inbox f'.ctrl rest, frames := { f' with buf := none } :: frames' }) :=
              kept'.frames (again none fun m busy => by cases busy)
            refine ⟨_, _, rfl, ⟨{ left with }, ?_⟩, .goesOn _ none rfl rfl rfl⟩
            have next : Book.Next s.book (.goOn receives) .nothing _ := .unheard head tells
            rw [← queue] at next
            exact next
          | some func =>
            have left : (State.Kept { s with
                inbox := Function.update s.inbox f'.ctrl rest, frames := { f' with buf := some (received message) } :: frames' }) :=
              kept'.frames (again _ fun m busy => Option.some.inj busy ▸ goes)
            refine ⟨_, _, rfl, ⟨{ left with }, ?_⟩, .goesOn _ (some (received message)) rfl rfl rfl⟩
            have next : Book.Next s.book (.goOn receives) (.calls func told userData) _ := .called head tells
            rw [← queue] at next
            exact next
        · dsimp only
          rw [checks]
          have silent : ∀ cb told wanted, ¬ s.book.Tells (received message) cb told wanted :=
            fun cb told wanted tells => silent cb told wanted (tells.queue _)
          by_cases ends : tellsTerminating (received message) = true
          · have there : s.base.cliCtrlConn ≠ none := fun absent => by
              rw [kept.monitored absent] at opened
              cases opened
            dsimp only
            rw [afterEvent_ends kept'.toLinked ends there]
            have left : (State.Kept { (State.closed { s with inbox := Function.update s.inbox f'.ctrl rest }) with frames := frames' }) :=
              { kept'.close with running := fun g member => kept.running g (by rw [runs]; exact List.mem_cons_of_mem _ member) }
            exact ⟨_, _, rfl, ⟨left, .terminated head ((tellsTerminating_iff marked).1 ends)⟩, .closes _ rfl rfl rfl⟩
          · dsimp only
            rw [afterEvent_goes (Bool.eq_false_iff.2 ends)]
            refine ⟨_, _, rfl, ⟨kept'.frames (again none fun m busy => by cases busy), ?_⟩, .goesOn _ none rfl rfl rfl⟩
            have next : Book.Next s.book (.goOn receives) .nothing _ :=
              .skipped head silent fun names => ends ((tellsTerminating_iff marked).2 names)
            rw [← queue] at next
            exact next

theorem State.Kept.goBack (kept : s.Kept) :
    ∃ s', goBack s = .ok (s', .nothing) ∧ Does s .goBack s' .nothing ∧ s'.base = s.base ∧ s'.monConn = s.monConn ∧
      (s'.frames = s.frames ∨ ∃ f frames, s.frames = f :: frames ∧ s'.frames = { f with buf := none } :: frames) := by
  unfold Events.goBack
  split
  · rename_i watch ctrl m frames runs
    have goes := kept.running _ (by rw [runs]; exact List.mem_cons_self ..) m rfl
    rw [afterEvent_goes goes]
    refine ⟨_, rfl, ⟨kept.frames fun g member => ?_, .returned⟩, rfl, rfl, .inr ⟨_, _, runs, rfl⟩⟩
    cases member with
    | head => exact .inr fun m busy => by cases busy
    | tail _ member => exact .inl (by rw [runs]; exact List.mem_cons_of_mem _ member)
  · exact ⟨s, rfl, ⟨kept, .returned⟩, rfl, rfl, .inl rfl⟩

end ArtikSdk.Wifi.Events
