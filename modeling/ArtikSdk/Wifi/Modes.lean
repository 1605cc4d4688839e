import ArtikSdk.Wifi.Linux

/-!
# WiFi on Linux: modes

The flags agree as long as a module that is connected is neither disconnected nor deinitialised, and
no initialisation fails once it has the name of the interface: a disconnect takes the mode and not the
initialisation, a deinitialisation leaves the connected flag, and `wifi_initialize` keeps the name.
-/

namespace ArtikSdk.Wifi
open Lib

/-- An initialisation followed by a connect succeeds. -/
def State.Joins (mode : Mode) (answers : InitAnswers) (ssid psk : Option (List Char)) (persistent : Bool)
    (replies : Command → Option (List Char)) (s : State) : Prop :=
  (osWifiInit mode answers s).2 = .ok ∧ ∃ t, osWifiConnect ssid psk persistent replies (osWifiInit mode answers s).1 = .ok (t, .ok)

/-- **The law of a call**: the module is initialised exactly when it has a mode, it is connected only in
`STATION` mode, behind an initialisation that failed every one succeeds that would have from the start,
and behind a deinitialisation with the connect that follows. -/
structure Agrees (c : Call Input State (Option ArtikError)) : Prop where
  initialised : c.after.wifiInitialized = true ↔ c.after.wifiMode ≠ .none
  connected : c.after.wifiConnected = true → c.after.wifiMode = .station
  again : ∀ mode answers, c.input = .init mode answers → c.before.wifiInitialized = false → c.output ≠ some .ok →
    ∀ mode' answers', (osWifiInit mode' answers' .init).2 = .ok → (osWifiInit mode' answers' c.after).2 = .ok
  anew : c.input = .deinit → ∀ mode answers ssid psk persistent replies,
    State.init.Joins mode answers ssid psk persistent replies → c.after.Joins mode answers ssid psk persistent replies

/-- `wpa_cli_open_connection` works. -/
def OpenAnswers.works (answers : OpenAnswers) : Bool := answers.memory && answers.ctrl && answers.mon != some false

/-- An initialisation works, unless it has no memory for the name of the interface; a connected module is
not deinitialised, and no disconnect works. -/
def Input.Fits : Input → State → Prop
  | .init mode answers, s =>
    s.wifiInitialized = false → mode = .station ∨ mode = .ap → answers.ifname = true → answers.connection.works = true
  | .deinit, s => s.wifiConnected = false
  | .disconnect reply, s => s.wifiConnected = true → wifiDisconnect reply s ≠ .ok .success
  | _, _ => True

/-- The flags agree, also with the name of the interface. -/
structure State.Kept (s : State) : Prop where
  initialised : s.wifiInitialized = true ↔ s.wifiMode ≠ .none
  connected : s.wifiConnected = true → s.wifiMode = .station
  ifname : s.ctrlIfname = s.wifiInitialized

theorem State.Kept.init : State.init.Kept := ⟨by decide, nofun, rfl⟩

variable {s s' : State} {o : Option ArtikError} {mode : Mode} {answers : InitAnswers}

/-! ## Initialising -/

/-- `wpa_cli_open_connection` touches the connections only. -/
theorem wpaCliOpenConnection_eq (ifname : Bool) (answers : OpenAnswers) (s : State) : ∃ conn n,
    wpaCliOpenConnection ifname answers s = ({ s with cliCtrlConn := conn, opened := n }, ifname && answers.works) ∧
      ((ifname && answers.works) = true → conn = some s.opened) := by
  unfold wpaCliOpenConnection OpenAnswers.works wpaCliCloseConnection
  rcases answers with ⟨_ | _, _ | _, mon⟩ <;> rcases ifname with _ | _
  all_goals
    rcases mon with _ | _ | _ <;> exact ⟨_, _, rfl, by simp⟩

/-- An initialisation of a module that is not: refused, failed without the name of the interface or with
it, or done. -/
inductive Initialises (mode : Mode) (answers : InitAnswers) (s : State) : State → ArtikError → Prop where
  | badArgs : ¬ (mode = .station ∨ mode = .ap) → Initialises mode answers s s .badArgs
  | fails (conn : Option Nat) (n : Nat) : (mode = .station ∨ mode = .ap) → (answers.ifname && answers.connection.works) = false →
      Initialises mode answers s { s with ctrlIfname := answers.ifname, cliCtrlConn := conn, opened := n } .wifiError
  | works (n : Nat) : (mode = .station ∨ mode = .ap) → (answers.ifname && answers.connection.works) = true →
      Initialises mode answers s
        { s with
          ctrlIfname := true, cliCtrlConn := some s.opened, wifiCtrlConn := some s.opened, opened := n,
          wifiInitialized := true, wifiMode := mode } .ok

theorem osWifiInit_initialises (uninitialised : s.wifiInitialized = false) (unnamed : s.ctrlIfname = false) (mode : Mode)
    (answers : InitAnswers) : Initialises mode answers s (osWifiInit mode answers s).1 (osWifiInit mode answers s).2 := by
  obtain ⟨conn, n, opens, given⟩ := wpaCliOpenConnection_eq answers.ifname answers.connection { s with ctrlIfname := answers.ifname }
  unfold osWifiInit
  rw [if_neg (by rw [uninitialised]; decide)]
  by_cases valid : mode = .station ∨ mode = .ap
  · rw [if_neg fun invalid : mode ≠ .station ∧ mode ≠ .ap => valid.elim invalid.1 invalid.2]
    unfold wifiInitialize
    rw [if_neg (by rw [unnamed]; decide), opens]
    cases works : (answers.ifname && answers.connection.works) with
    | false => exact .fails conn n valid works
    | true =>
      have named : answers.ifname = true := (Bool.and_eq_true_iff.1 works).1
      obtain rfl := given works
      rw [named]
      exact .works n valid works
  · rw [if_pos (not_or.1 valid)]
    exact .badArgs valid

/-- Only its arguments decide over the initialisation of a module that is not initialised and has no name. -/
theorem osWifiInit_ok_iff (uninitialised : s.wifiInitialized = false) (unnamed : s.ctrlIfname = false) :
    (osWifiInit mode answers s).2 = .ok ↔ (mode = .station ∨ mode = .ap) ∧ (answers.ifname && answers.connection.works) = true := by
  have way := osWifiInit_initialises uninitialised unnamed mode answers
  generalize (osWifiInit mode answers s).1 = t at way
  generalize (osWifiInit mode answers s).2 = e at way
  cases way with
  | badArgs invalid => exact iff_of_false nofun fun both => invalid both.1
  | fails conn n valid fails => exact iff_of_false nofun fun both => absurd (both.2.symm.trans fails) (by decide)
  | works n valid works => exact iff_of_true rfl ⟨valid, works⟩

/-- What an initialisation that works leaves. -/
theorem osWifiInit_state (uninitialised : s.wifiInitialized = false) (unnamed : s.ctrlIfname = false)
    (works : (osWifiInit mode answers s).2 = .ok) :
    (osWifiInit mode answers s).1.wifiMode = mode ∧ (osWifiInit mode answers s).1.wifiConnected = s.wifiConnected ∧
      (osWifiInit mode answers s).1.control = .ok true := by
  have way := osWifiInit_initialises uninitialised unnamed mode answers
  rw [works] at way
  generalize (osWifiInit mode answers s).1 = t at way
  cases way with
  | works n valid _ =>
    refine ⟨rfl, rfl, ?_⟩
    simp [State.control]

/-! ## Connecting -/

section Connect

variable {t : State} {ssid psk : Option (List Char)} {save : Bool} {replies : Command → Option (List Char)}

theorem wifiSendCmd_congr (same : s.control = t.control) (reply : Option (List Char)) : wifiSendCmd reply s = wifiSendCmd reply t := by
  unfold wifiSendCmd
  rw [same]

theorem obeyed_congr (same : s.control = t.control) (reply : Option (List Char)) : obeyed reply s = obeyed reply t := by
  unfold obeyed
  rw [wifiSendCmd_congr same]

theorem obeyedAll_congr (same : s.control = t.control) (replies : Command → Option (List Char)) (cs : List Command) :
    obeyedAll replies s cs = obeyedAll replies t cs := by
  induction cs with
  | nil => rfl
  | cons c cs ih => rw [obeyedAll, obeyedAll, obeyed_congr same, ih]

/-- Of the state only the connection decides over `wifi_connect`. -/
theorem wifiConnect_congr (same : s.control = t.control) : wifiConnect ssid psk save replies s = wifiConnect ssid psk save replies t := by
  unfold wifiConnect
  simp only [wifiSendCmd_congr same, obeyedAll_congr same]

/-- Only the mode, the flag and the connection decide over a connect. -/
theorem osWifiConnect_congr (modes : s.wifiMode = t.wifiMode) (flags : s.wifiConnected = t.wifiConnected) (same : s.control = t.control) :
    (∃ u, osWifiConnect ssid psk save replies s = .ok (u, .ok)) ↔ ∃ u, osWifiConnect ssid psk save replies t = .ok (u, .ok) := by
  have code (s : State) : (∃ u, osWifiConnect ssid psk save replies s = .ok (u, .ok)) ↔
      s.wifiMode = .station ∧ s.wifiConnected = false ∧ wifiConnect ssid psk save replies s = .ok .success := by
    unfold osWifiConnect
    by_cases station : s.wifiMode = .station
    · rw [if_neg (not_not_intro station)]
      by_cases connected : s.wifiConnected = true
      · rw [if_pos connected]
        refine iff_of_false ?_ fun all => absurd (connected.symm.trans all.2.1) (by decide)
        rintro ⟨u, result⟩
        cases result
      · rw [if_neg connected]
        constructor
        · rintro ⟨u, result⟩
          obtain ⟨r, sent, shown⟩ := map_ok_iff.1 result
          refine ⟨station, Bool.eq_false_of_not_eq_true connected, ?_⟩
          split at shown
          · cases shown
          · rename_i success
            rw [not_not] at success
            rw [sent, success]
        · rintro ⟨-, -, sent⟩
          exact ⟨_, map_ok_iff.2 ⟨_, sent, rfl⟩⟩
    · rw [if_pos station]
      refine iff_of_false ?_ fun all => station all.1
      rintro ⟨u, result⟩
      cases result
  rw [code s, code t, modes, flags, wifiConnect_congr same]

end Connect

/-- A module that is not initialised is not connected. -/
theorem State.Kept.unconnected (kept : s.Kept) (uninitialised : s.wifiInitialized = false) : s.wifiConnected = false := by
  by_contra connected
  have station := kept.connected (Bool.eq_true_of_not_eq_false connected)
  have initialised := kept.initialised.2 (by rw [station]; decide)
  exact absurd (initialised.symm.trans uninitialised) (by decide)

/-- A module without mode and connection joins as from the start. -/
theorem joins_of_idle (kept : s.Kept) (uninitialised : s.wifiInitialized = false) {ssid psk : Option (List Char)} {persistent : Bool}
    {replies : Command → Option (List Char)} (start : State.init.Joins mode answers ssid psk persistent replies) :
    s.Joins mode answers ssid psk persistent replies := by
  have unnamed : s.ctrlIfname = false := kept.ifname.trans uninitialised
  have unconnected := kept.unconnected uninitialised
  obtain ⟨works, connects⟩ := start
  have now : (osWifiInit mode answers s).2 = .ok :=
    (osWifiInit_ok_iff uninitialised unnamed).2 ((osWifiInit_ok_iff rfl rfl).1 works)
  obtain ⟨mode₀, flag₀, control₀⟩ := osWifiInit_state rfl rfl works
  obtain ⟨mode₁, flag₁, control₁⟩ := osWifiInit_state uninitialised unnamed now
  exact ⟨now, (osWifiConnect_congr (mode₀.trans mode₁.symm) (flag₀.trans (unconnected.symm.trans flag₁.symm))
    (control₀.trans control₁.symm)).1 connects⟩

/-! ## Calls against the law -/

/-- A call that leaves the flags has the law. -/
theorem Agrees.of_kept {input : Input} (kept : s'.Kept) (other : ∀ mode answers, input ≠ .init mode answers) (stays : input ≠ .deinit) :
    Agrees ⟨s, input, s', o⟩ :=
  ⟨kept.initialised, kept.connected, fun mode answers same => absurd same (other mode answers), fun same => absurd same stays⟩

theorem init_exact (kept : s.Kept) (mode : Mode) (answers : InitAnswers) :
    (Agrees ⟨s, .init mode answers, (osWifiInit mode answers s).1, some (osWifiInit mode answers s).2⟩ ↔ (Input.init mode answers).Fits s) ∧
      ((Input.init mode answers).Fits s → (osWifiInit mode answers s).1.Kept) := by
  cases initialised : s.wifiInitialized with
  | true =>
    have busy : osWifiInit mode answers s = (s, .busy) := by
      unfold osWifiInit
      rw [if_pos initialised]
    rw [busy]
    refine ⟨iff_of_true ⟨kept.initialised, kept.connected, fun _ _ _ un => ?_, nofun⟩ fun un => ?_, fun _ => kept⟩
    · exact absurd (initialised.symm.trans un) (by decide)
    · exact absurd (initialised.symm.trans un) (by decide)
  | false =>
    have unnamed : s.ctrlIfname = false := kept.ifname.trans initialised
    have ready {t : State} (un : t.wifiInitialized = false) (name : t.ctrlIfname = false) (mode' : Mode) (answers' : InitAnswers)
        (start : (osWifiInit mode' answers' .init).2 = .ok) : (osWifiInit mode' answers' t).2 = .ok :=
      (osWifiInit_ok_iff un name).2 ((osWifiInit_ok_iff rfl rfl).1 start)
    have way := osWifiInit_initialises initialised unnamed mode answers
    generalize (osWifiInit mode answers s).1 = t at way
    generalize (osWifiInit mode answers s).2 = e at way
    cases way with
    | badArgs invalid =>
      refine ⟨iff_of_true ⟨kept.initialised, kept.connected, fun _ _ _ _ _ => ready initialised unnamed, nofun⟩ ?_, fun _ => kept⟩
      exact fun _ valid => absurd valid invalid
    | works n valid works =>
      have modes : mode ≠ .none := by rintro rfl; exact valid.elim nofun nofun
      have connects : s.wifiConnected = true → mode = .station := fun connected =>
        absurd (connected.symm.trans (kept.unconnected initialised)) (by decide)
      refine ⟨iff_of_true ⟨iff_of_true rfl modes, connects, fun _ _ _ _ failed => absurd rfl failed, nofun⟩ ?_, fun _ => ?_⟩
      · exact fun _ _ _ => (Bool.and_eq_true_iff.1 works).2
      · exact ⟨iff_of_true rfl modes, connects, rfl⟩
    | fails conn n valid fails =>
      have flags : (s.wifiInitialized = true ↔ s.wifiMode ≠ .none) := kept.initialised
      cases named : answers.ifname with
      | false =>
        refine ⟨iff_of_true ⟨flags, kept.connected, fun _ _ _ _ _ => ready initialised rfl, nofun⟩ ?_, fun _ => ?_⟩
        · exact fun _ _ given => absurd (named.symm.trans given) (by decide)
        · exact ⟨flags, kept.connected, initialised.symm⟩
      | true =>
        have refused : answers.connection.works = false := by simpa [named] using fails
        have unfit : ¬ (Input.init mode answers).Fits s := fun fits =>
          absurd ((fits initialised valid named).symm.trans refused) (by decide)
        refine ⟨iff_of_false (fun law => ?_) unfit, fun fits => absurd fits unfit⟩
        have again := law.again mode answers rfl initialised nofun .station ⟨true, ⟨true, true, none⟩⟩ (by decide)
        unfold osWifiInit wifiInitialize at again
        rw [if_neg (by dsimp only; rw [initialised]; decide)] at again
        simp at again

theorem deinit_exact (kept : s.Kept) :
    (Agrees ⟨s, .deinit, (osWifiDeinit s).1, some (osWifiDeinit s).2⟩ ↔ Input.deinit.Fits s) ∧
      (Input.deinit.Fits s → (osWifiDeinit s).1.Kept) := by
  unfold osWifiDeinit
  cases initialised : s.wifiInitialized with
  | false =>
    rw [if_pos rfl]
    have unconnected := kept.unconnected initialised
    refine ⟨iff_of_true ⟨kept.initialised, kept.connected, nofun, fun _ _ _ _ _ _ _ => ?_⟩ unconnected, fun _ => kept⟩
    exact joins_of_idle kept initialised
  | true =>
    rw [if_neg (by decide)]
    have after (unconnected : s.wifiConnected = false) :
        State.Kept { wifiDeinitialize s with wifiInitialized := false, wifiMode := .none } :=
      ⟨iff_of_false nofun (not_not_intro rfl), fun connected => absurd (unconnected.symm.trans connected) (by decide), rfl⟩
    refine ⟨⟨fun law => ?_, fun unconnected => ?_⟩, after⟩
    · by_contra connected
      cases law.connected (Bool.eq_true_of_not_eq_false connected)
    · exact ⟨(after unconnected).initialised, (after unconnected).connected, nofun, fun _ _ _ _ _ _ _ => joins_of_idle (after unconnected) rfl⟩

theorem osWifiConnect_kept {ssid psk : Option (List Char)} {persistent : Bool} {replies : Command → Option (List Char)} {e : ArtikError}
    (kept : s.Kept) (answered : osWifiConnect ssid psk persistent replies s = .ok (s', e)) : s'.Kept := by
  unfold osWifiConnect at answered
  split at answered
  · cases answered
    exact kept
  · rename_i station
    rw [not_not] at station
    split at answered
    · cases answered
      exact kept
    · obtain ⟨result, -, shown⟩ := map_ok_iff.1 answered
      split at shown
      · cases shown
        exact kept
      · cases shown
        exact ⟨kept.initialised, fun _ => station, kept.ifname⟩

/-- A disconnect that works leaves an initialised module without a mode. -/
theorem disconnect_exact {reply : Option (List Char)} {e : ArtikError} (kept : s.Kept) (answered : osWifiDisconnect reply s = .ok (s', e)) :
    (Agrees ⟨s, .disconnect reply, s', some e⟩ ↔ (Input.disconnect reply).Fits s) ∧ ((Input.disconnect reply).Fits s → s'.Kept) := by
  have same (t : State) (stays : t.Kept) (fits : (Input.disconnect reply).Fits s) :
      (Agrees ⟨s, .disconnect reply, t, some e⟩ ↔ (Input.disconnect reply).Fits s) ∧ ((Input.disconnect reply).Fits s → t.Kept) :=
    ⟨iff_of_true (.of_kept stays nofun nofun) fits, fun _ => stays⟩
  unfold osWifiDisconnect at answered
  split at answered
  · rename_i unconnected
    cases answered
    exact same s kept fun connected => absurd (unconnected.symm.trans connected) (by decide)
  · rename_i connected
    have connected := Bool.eq_true_of_not_eq_false connected
    obtain ⟨result, sent, shown⟩ := map_ok_iff.1 answered
    split at shown
    · rename_i fails
      cases shown
      refine same s kept fun _ works => fails ?_
      exact Except.ok.inj (sent.symm.trans works)
    · rename_i works
      rw [not_not] at works
      cases shown
      have unfit : ¬ (Input.disconnect reply).Fits s := fun fits => fits connected (works ▸ sent)
      refine ⟨iff_of_false (fun law => ?_) unfit, fun fits => absurd fits unfit⟩
      have initialised := kept.initialised.2 (by rw [kept.connected connected]; decide)
      exact law.initialised.1 initialised rfl

/-! ## Runs -/

/-- What comes from the supplicant touches the connections only. -/
theorem wpaCliReconnect_kept (answers : OpenAnswers) (kept : s.Kept) : (wpaCliReconnect answers s).Kept := by
  unfold wpaCliReconnect
  obtain ⟨conn, n, opens, -⟩ := wpaCliOpenConnection_eq s.ctrlIfname answers (wpaCliCloseConnection s)
  rw [opens]
  exact ⟨kept.initialised, kept.connected, kept.ifname⟩

theorem step_exact {input : Input} (kept : s.Kept) (answered : step input s = .ok (s', o)) :
    (Agrees ⟨s, input, s', o⟩ ↔ input.Fits s) ∧ (input.Fits s → s'.Kept) := by
  have steady (stays : s'.Kept) (other : ∀ mode answers, input ≠ .init mode answers) (no_deinit : input ≠ .deinit) (fits : input.Fits s) :
      (Agrees ⟨s, input, s', o⟩ ↔ input.Fits s) ∧ (input.Fits s → s'.Kept) :=
    ⟨iff_of_true (.of_kept stays other no_deinit) fits, fun _ => stays⟩
  cases input with
  | init mode answers =>
    cases Except.ok.inj answered
    exact init_exact kept mode answers
  | deinit =>
    cases Except.ok.inj answered
    exact deinit_exact kept
  | startAp ssid password channel encryptionFlags hostapd =>
    cases Except.ok.inj answered
    exact steady kept nofun nofun trivial
  | scanRequest reply =>
    obtain ⟨e, -, shown⟩ := map_ok_iff.1 answered
    cases shown
    exact steady kept nofun nofun trivial
  | connect ssid psk persistent replies =>
    obtain ⟨⟨t, e⟩, result, shown⟩ := map_ok_iff.1 answered
    cases shown
    exact steady (osWifiConnect_kept kept result) nofun nofun trivial
  | disconnect reply =>
    obtain ⟨⟨t, e⟩, result, shown⟩ := map_ok_iff.1 answered
    cases shown
    exact disconnect_exact kept result
  | lost answers =>
    cases Except.ok.inj answered
    refine steady ?_ nofun nofun trivial
    split
    · exact kept
    · exact wpaCliReconnect_kept answers kept
  | terminating =>
    cases Except.ok.inj answered
    exact steady ⟨kept.initialised, kept.connected, kept.ifname⟩ nofun nofun trivial

/-- **Modes.** In a run of calls with any answers of the supplicant, every call has the law exactly when
every initialisation fits, no connected module is deinitialised, and no disconnect works. -/
theorem modes_iff {calls : List (Call Input State (Option ArtikError))} (run : Run step .init calls s) :
    (∀ c ∈ calls, Agrees c) ↔ ∀ c ∈ calls, c.input.Fits c.before :=
  Run.fits_iff (I := State.Kept) (fun _ _ _ _ kept answered => (step_exact kept answered).1)
    (fun _ _ _ _ kept fits answered => (step_exact kept answered).2 fits) run .init

/-- The connection and its monitor are opened. -/
def InitAnswers.working : InitAnswers := ⟨true, ⟨true, true, some true⟩⟩

/-- The supplicant obeys, with one network listed. -/
def obeying : Command → Option (List Char)
  | .listNetworks => some "0	home	any".toList
  | .addNetwork => some ['1']
  | _ => some "OK".toList

/-- Scanned, and connected to a network. -/
theorem modes_connected : ∃ calls s, Run step .init calls s ∧ calls.length = 3 ∧
    ((∀ c ∈ calls, Agrees c) ↔ ∀ c ∈ calls, c.input.Fits c.before) := by
  have computed : execTest step
      [.init .station .working, .scanRequest (some "OK".toList), .connect (some ['h']) (some "password".toList) true obeying] .init
      (fun calls => calls.map Call.output == [some .ok, some .ok, some .ok]) = true := by
    decide
  obtain ⟨calls, s, run, inputs, -⟩ := execTest_run computed
  exact ⟨calls, s, run, by simpa using congrArg List.length inputs, modes_iff run⟩

/-- A module that was connected and disconnected is initialised and has no mode. -/
theorem modes_disagree : ¬ ∀ calls s, Run step .init calls s → ∀ c ∈ calls, Agrees c := by
  intro all
  have computed : execTest step
      [.init .station .working, .connect (some ['h']) none false obeying, .disconnect (some "OK".toList)] .init
      (fun calls => calls.any fun c => c.after.wifiInitialized && c.after.wifiMode == .none) = true := by
    decide
  obtain ⟨calls, s, run, -, disagrees⟩ := execTest_run computed
  obtain ⟨c, member, disagrees⟩ := List.any_eq_true.1 disagrees
  rw [Bool.and_eq_true, beq_iff_eq] at disagrees
  exact (all calls s run c member).initialised.1 disagrees.1 disagrees.2

end ArtikSdk.Wifi
