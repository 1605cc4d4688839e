import ArtikSdk.Lib.Simulation
import ArtikSdk.Wifi.Modes
import ArtikSdk.Wifi.Heard

/-!
# Runs with the supplicant

Messages are heard once and in their order, a scan is told for each one that was accepted at most once, and the connection that
the loop reads is open, unless the application closes it while the loop runs.
-/

namespace ArtikSdk.Wifi.Events
open Lib

variable {s s' : State} {o : Output} {e : Event}

/-! ## The module of the commands -/

theorem close_base {t : State} (closed : wpaCliCloseConnection s = .ok t) : t.base = Wifi.wpaCliCloseConnection s.base := by
  unfold wpaCliCloseConnection at closed
  split at closed
  · rename_i absent
    cases closed
    rw [Wifi.wpaCliCloseConnection, ← absent]
  · split at closed
    · cases closed
    · cases closed
      rfl

theorem open_base {t : State} {ifname works registers : Bool} {answers : OpenAnswers}
    (opened : wpaCliOpenConnection ifname answers registers s = .ok (t, works)) :
    Wifi.wpaCliOpenConnection ifname answers s.base = (t.base, works) := by
  unfold wpaCliOpenConnection at opened
  unfold Wifi.wpaCliOpenConnection
  split at opened
  · rename_i fails
    cases opened
    rw [if_pos fails]
  · rename_i enough
    rw [if_neg enough]
    split at opened
    · rename_i fails
      cases opened
      rw [if_pos fails]
    · rename_i connects
      rw [if_neg connects]
      dsimp only at opened ⊢
      cases mon : answers.mon with
      | none =>
        rw [mon] at opened
        cases opened
        rfl
      | some attaches =>
        rw [mon] at opened
        cases attaches with
        | true =>
          cases opened
          rfl
        | false =>
          obtain ⟨u, closed, same⟩ := map_ok_iff.1 opened
          cases same
          rw [if_pos rfl, close_base closed]

/-- The call of the module of the commands that an event makes. -/
def Event.input : Event → Option Wifi.Input
  | .init mode answers _ => some (.init mode answers)
  | .deinit => some .deinit
  | .startAp ssid password channel encryptionFlags hostapd => some (.startAp ssid password channel encryptionFlags hostapd)
  | .scanRequest reply => some (.scanRequest reply)
  | .connect ssid psk persistent replies => some (.connect ssid psk persistent replies)
  | .disconnect reply => some (.disconnect reply)
  | _ => none

theorem init_base {mode : Mode} {answers : InitAnswers} {registers : Bool} {c : ArtikError}
    (done : osWifiInit mode answers registers s = .ok (s', c)) : Wifi.osWifiInit mode answers s.base = (s'.base, c) := by
  unfold osWifiInit at done
  unfold Wifi.osWifiInit
  split at done
  · rename_i busy
    cases done
    rw [if_pos busy]
  · rename_i free
    rw [if_neg free]
    split at done
    · rename_i invalid
      cases done
      rw [if_pos invalid]
    · rename_i valid
      rw [if_neg valid]
      obtain ⟨⟨t, result⟩, initialised, rest⟩ := bind_ok_iff.1 done
      unfold wifiInitialize at initialised
      unfold Wifi.wifiInitialize
      split at initialised
      · rename_i named
        cases initialised
        cases rest
        rw [if_pos named]
        rfl
      · rename_i unnamed
        rw [if_neg unnamed]
        obtain ⟨⟨u, works⟩, opened, then'⟩ := bind_ok_iff.1 initialised
        rw [open_base opened]
        cases works with
        | false =>
          cases then'
          cases rest
          rfl
        | true =>
          cases then'
          cases rest
          rfl

theorem deinit_base {c : ArtikError} (done : osWifiDeinit s = .ok (s', c)) : Wifi.osWifiDeinit s.base = (s'.base, c) := by
  unfold osWifiDeinit at done
  unfold Wifi.osWifiDeinit
  split at done
  · rename_i never
    cases done
    rw [if_pos never]
  · rename_i initialised
    rw [if_neg initialised]
    obtain ⟨t, deinitialised, rest⟩ := bind_ok_iff.1 done
    obtain ⟨u, closed, then'⟩ := bind_ok_iff.1 deinitialised
    cases then'
    cases rest
    rw [Wifi.wifiDeinitialize, ← close_base closed]

theorem scan_base {reply : Option (List Char)} {c : ArtikError} (done : osWifiScanRequest reply s = .ok (s', c)) :
    Wifi.osWifiScanRequest reply s.base = .ok c ∧ s'.base = s.base := by
  unfold osWifiScanRequest at done
  unfold Wifi.osWifiScanRequest
  split at done
  · rename_i other
    cases done
    exact ⟨if_pos other, rfl⟩
  · rename_i station
    obtain ⟨⟨t, result⟩, requested, same⟩ := map_ok_iff.1 done
    obtain ⟨result', scanned, rest⟩ := bind_ok_iff.1 requested
    cases rest
    cases same
    rw [if_neg station, scanned]
    exact ⟨rfl, rfl⟩

/-- A round that is answered finds no loop, one that is called out, or one that goes on. -/
theorem State.Kept.goes {receives : Bool} (kept : s.Kept) (answered : step (.goOn receives) s = .ok (s', o)) :
    Does s (.goOn receives) s' o ∧ ((∃ f frames, s.frames = f :: frames ∧ f.buf = none ∧ s.monConn = some f.ctrl ∧ Goes f frames s s') ∨ s' = s) := by
  cases runs : s.frames with
  | nil =>
    rw [Events.step, Events.goOn, runs] at answered
    cases answered
    exact ⟨⟨kept, .rests⟩, .inr rfl⟩
  | cons f frames =>
    by_cases idle : f.buf = none
    · by_cases opened : s.monConn = some f.ctrl
      · obtain ⟨t, c, done, does, goes⟩ := kept.goOn runs idle opened receives
        rw [Events.step, done] at answered
        cases answered
        exact ⟨does, .inl ⟨f, frames, rfl, idle, opened, goes⟩⟩
      · rw [Events.step, Events.goOn, runs] at answered
        dsimp only at answered
        rw [if_neg (not_not.2 idle), if_pos opened] at answered
        cases answered
    · rw [Events.step, Events.goOn, runs] at answered
      dsimp only at answered
      rw [if_pos idle] at answered
      cases answered
      exact ⟨⟨kept, .rests⟩, .inr rfl⟩

/-- An event does to the module of the commands what its call does; the others leave it, or close its connection. -/
theorem State.Kept.step_base (kept : s.Kept) (answered : step e s = .ok (s', o)) :
    (∃ i c, e.input = some i ∧ o = .code c ∧ Wifi.step i s.base = .ok (s'.base, some c)) ∨
      e.input = none ∧ (s'.base = s.base ∨ Wifi.step .terminating s.base = .ok (s'.base, none)) := by
  cases e with
  | init mode answers registers =>
    obtain ⟨⟨t, c⟩, done, same⟩ := map_ok_iff.1 answered
    cases same
    refine .inl ⟨_, c, rfl, rfl, ?_⟩
    rw [Wifi.step, init_base done]
  | deinit =>
    obtain ⟨⟨t, c⟩, done, same⟩ := map_ok_iff.1 answered
    cases same
    refine .inl ⟨_, c, rfl, rfl, ?_⟩
    rw [Wifi.step, deinit_base done]
  | startAp ssid password channel encryptionFlags hostapd =>
    cases answered
    exact .inl ⟨_, _, rfl, rfl, rfl⟩
  | scanRequest reply =>
    obtain ⟨⟨t, c⟩, done, same⟩ := map_ok_iff.1 answered
    cases same
    refine .inl ⟨_, c, rfl, rfl, ?_⟩
    obtain ⟨scanned, base⟩ := scan_base (onWifi_ok done)
    rw [Wifi.step, scanned, base]
    rfl
  | connect ssid psk persistent replies =>
    obtain ⟨⟨t, c⟩, done, same⟩ := map_ok_iff.1 answered
    cases same
    refine .inl ⟨_, c, rfl, rfl, ?_⟩
    rw [Wifi.step, onWifi_ok done]
    rfl
  | disconnect reply =>
    obtain ⟨⟨t, c⟩, done, same⟩ := map_ok_iff.1 answered
    cases same
    refine .inl ⟨_, c, rfl, rfl, ?_⟩
    rw [Wifi.step, onWifi_ok done]
    rfl
  | setConnect cb =>
    cases answered
    exact .inr ⟨rfl, .inl rfl⟩
  | setScanResult cb =>
    cases answered
    exact .inr ⟨rfl, .inl rfl⟩
  | unsetConnect =>
    cases answered
    exact .inr ⟨rfl, .inl rfl⟩
  | unsetScanResult =>
    cases answered
    exact .inr ⟨rfl, .inl rfl⟩
  | tells message =>
    cases answered
    refine .inr ⟨rfl, .inl ?_⟩
    unfold Events.tells
    split <;> rfl
  | dispatch watch answers registers =>
    obtain ⟨t, done, -, base, -⟩ := kept.dispatch watch answers registers
    rw [Events.step, done] at answered
    cases answered
    exact .inr ⟨rfl, .inl base⟩
  | goOn receives =>
    refine .inr ⟨rfl, ?_⟩
    obtain ⟨-, ⟨f, frames, -, -, -, goes⟩ | rfl⟩ := kept.goes answered
    · cases goes with
      | ends base same left => exact .inl base
      | goesOn buf base same left => exact .inl base
      | closes base none' left => exact .inr (by rw [base]; rfl)
    · exact .inl rfl
  | goBack =>
    obtain ⟨t, done, -, base, -⟩ := kept.goBack
    rw [Events.step, done] at answered
    cases answered
    exact .inr ⟨rfl, .inl base⟩

/-! ## A run -/

/-- An answered event of a state that keeps what is kept. -/
theorem State.Kept.does (kept : s.Kept) (fits : e.Fits) (answered : step e s = .ok (s', o)) : Does s e s' o := by
  cases e with
  | init mode answers registers =>
    obtain ⟨t, c, done, does, -⟩ := kept.wifiInit mode answers registers
    rw [Events.step, done] at answered
    cases answered
    exact does
  | deinit =>
    obtain ⟨t, c, done, does, -⟩ := kept.wifiDeinit
    rw [Events.step, done] at answered
    cases answered
    exact does
  | startAp ssid password channel encryptionFlags hostapd =>
    cases answered
    exact ⟨kept, .started⟩
  | scanRequest reply =>
    obtain ⟨⟨t, c⟩, done, same⟩ := map_ok_iff.1 answered
    cases same
    exact (kept.scanRequest (onWifi_ok done)).1
  | connect ssid psk persistent replies =>
    obtain ⟨⟨t, c⟩, done, same⟩ := map_ok_iff.1 answered
    cases same
    exact kept.join (onWifi_ok done)
  | disconnect reply =>
    obtain ⟨⟨t, c⟩, done, same⟩ := map_ok_iff.1 answered
    cases same
    exact kept.part (onWifi_ok done)
  | setConnect cb =>
    cases answered
    exact ⟨{ kept with }, .setConnect⟩
  | setScanResult cb =>
    cases answered
    exact ⟨{ kept with }, .setScanResult⟩
  | unsetConnect =>
    cases answered
    exact ⟨{ kept with }, .unsetConnect⟩
  | unsetScanResult =>
    cases answered
    exact ⟨{ kept with }, .unsetScanResult⟩
  | tells message =>
    cases answered
    exact kept.tells fits
  | dispatch watch answers registers =>
    obtain ⟨t, done, does, -⟩ := kept.dispatch watch answers registers
    rw [Events.step, done] at answered
    cases answered
    exact does
  | goOn receives => exact (kept.goes answered).1
  | goBack =>
    obtain ⟨t, done, does, -⟩ := kept.goBack
    rw [Events.step, done] at answered
    cases answered
    exact does

/-- **The module does what its book tells.** In every run, each message of the supplicant is checked once and in its order, and
what the application has set last is called with what it tells; a scan is told once for its acceptance. -/
theorem events_heard {cs : List (Call Event State Output)} (run : Run step .init cs s) (fits : ∀ c ∈ cs, c.input.Fits) :
    Follows Book.Next .empty cs s.book := by
  have start : State.init.Kept ∧ State.init.book = .empty := ⟨init_kept, rfl⟩
  obtain ⟨b, follows, -, rfl⟩ := run.follows (R := fun s b => s.Kept ∧ s.book = b) (C := fun e _ => e.Fits) start fits (by
    rintro e t t' o b ⟨kept, rfl⟩ fits answered
    have does := kept.does fits answered
    exact ⟨t'.book, does.next, does.kept, rfl⟩)
  exact follows

/-- A scan is asked for, and its results come. The application is told, asks again, and nothing else has come. -/
def scanning : List Event :=
  [.init .station .working true, .setScanResult ⟨some 7, 8⟩, .scanRequest (some "OK\n".toList),
    .tells "<3>CTRL-EVENT-SCAN-RESULTS ".toList, .dispatch 0 ⟨true, true, none⟩ true, .goOn true,
    .scanRequest (some "OK\n".toList), .goBack, .goOn true]

example : (exec step scanning .init).map (fun r => r.1.map Call.output) =
    .ok [.code .ok, .code .ok, .code .ok, .nothing, .nothing, .calls 7 .scanned 8, .code .ok, .nothing, .nothing] := by rfl

theorem events_heard_scanning :
    ∃ (cs : List (Call Event State Output)) (b : Book), cs.map Call.input = scanning ∧ Follows Book.Next .empty cs b := by
  obtain ⟨run, inputs⟩ := exec_run (rfl : exec step scanning .init = .ok _)
  refine ⟨_, _, inputs, events_heard run fun c member => ?_⟩
  have fits : ∀ i ∈ scanning, i.Fits := by
    simp [scanning, Event.Fits]
  exact fits _ (inputs ▸ List.mem_map_of_mem member)

/-- The module of the commands is in a state of its own runs. -/
theorem base_reachable {cs : List (Call Event State Output)} (run : Run step .init cs s) (fits : ∀ c ∈ cs, c.input.Fits) :
    Reachable Wifi.step .init s.base := by
  refine (run.under (C := fun e _ => e.Fits) (I := fun s => s.Kept ∧ Reachable Wifi.step .init s.base) ⟨init_kept, .refl _ _⟩ fits ?_).2
  intro e t t' o inv fits answered
  refine ⟨(inv.1.does fits answered).kept, ?_⟩
  obtain ⟨i, c, -, -, made⟩ | ⟨-, base | ended⟩ := inv.1.step_base answered
  · exact inv.2.snoc made
  · rw [base]
    exact inv.2
  · exact inv.2.snoc ended

/-- A call that accepts a scan, and one that tells of its results. -/
def acceptsScan (c : Call Event State Output) : Prop := ∃ reply, c.input = .scanRequest reply ∧ c.output = .code .ok
def tellsScan (c : Call Event State Output) : Prop := ∃ func userData, c.output = .calls func .scanned userData

theorem Book.Tells.asked {b : Book} {m : List Char} {cb : Callback} {told : Told} {wanted : Bool} (tells : b.Tells m cb told wanted) :
    (wanted = true → b.wanted = true ∧ told ≠ .scanned) ∧ (told = .scanned → b.wanted = true) := by
  cases tells with
  | scanned names asked => exact ⟨fun never => (by cases never), fun _ => asked⟩
  | connected names => exact ⟨fun asked => ⟨asked, by decide⟩, fun never => (by cases never)⟩
  | disconnected names => exact ⟨fun asked => ⟨asked, by decide⟩, fun never => (by cases never)⟩

/-- A scan is asked for since it was accepted, and until it is told. -/
theorem Book.Next.asked {b b' : Book} (next : Book.Next b e o b') :
    (b'.wanted = true → (∃ reply, e = .scanRequest reply ∧ o = .code .ok) ∨ b.wanted = true ∧ ∀ func userData, o ≠ .calls func .scanned userData) ∧
      ∀ func userData, o = .calls func .scanned userData → b.wanted = true := by
  cases next with
  | accepted ok => exact ⟨fun _ => .inl ⟨_, rfl, rfl⟩, fun func userData same => (by cases same)⟩
  | called head tells =>
    refine ⟨fun wanted => .inr ⟨(tells.asked.1 wanted).1, fun _ _ same => ?_⟩, fun _ _ same => ?_⟩
    · cases same
      exact (tells.asked.1 wanted).2 rfl
    · cases same
      exact tells.asked.2 rfl
  | unheard head tells => exact ⟨fun wanted => .inr ⟨(tells.asked.1 wanted).1, fun _ _ same => (by cases same)⟩, fun _ _ same => (by cases same)⟩
  | opened closed => exact ⟨fun never => (by cases never), fun _ _ same => (by cases same)⟩
  | _ => exact ⟨fun wanted => .inr ⟨wanted, fun _ _ same => (by cases same)⟩, fun _ _ same => (by cases same)⟩

/-- **Each scan is told once.** When the application is told of the results of a scan, a request of it has been accepted since
it was told of any last. -/
theorem scans_told {before after : List (Call Event State Output)} {c : Call Event State Output}
    (run : Run step .init (before ++ c :: after) s) (fits : ∀ d ∈ before ++ c :: after, d.input.Fits) (tells : tellsScan c) :
    ∃ xs d ys, before = xs ++ d :: ys ∧ acceptsScan d ∧ ∀ b ∈ ys, ¬ tellsScan b := by
  obtain ⟨t, first, rest⟩ := run.split
  obtain ⟨rfl, answered, -⟩ := rest.head
  have fits' : ∀ d ∈ before, d.input.Fits := fun d member => fits d (List.mem_append_left _ member)
  have asked : c.before.Kept ∧ (c.before.activeScan = true → ∃ xs d ys, before = xs ++ d :: ys ∧ acceptsScan d ∧ ∀ b ∈ ys, ¬ tellsScan b) := by
    refine first.history (P := fun cs s => s.Kept ∧ (s.activeScan = true → ∃ xs d ys, cs = xs ++ d :: ys ∧ acceptsScan d ∧ ∀ b ∈ ys, ¬ tellsScan b))
      (C := fun e _ => e.Fits) ⟨init_kept, fun active => by cases active⟩ fits' fun ds e t t' o before fits answered => ?_
    have does := before.1.does fits answered
    refine ⟨does.kept, fun active => ?_⟩
    obtain accepts | ⟨active, silent⟩ := does.next.asked.1 active
    · exact ⟨ds, _, [], rfl, accepts, fun b member => by cases member⟩
    · obtain ⟨xs, d, ys, rfl, accepts, none'⟩ := before.2 active
      refine ⟨xs, d, ys ++ [⟨t, e, t', o⟩], by simp, accepts, fun b member => ?_⟩
      obtain member | same := List.mem_append.1 member
      · exact none' b member
      · rw [List.mem_singleton.1 same]
        rintro ⟨func, userData, told⟩
        exact silent func userData told
  have does := asked.1.does (fits c (by simp)) answered
  obtain ⟨func, userData, told⟩ := tells
  exact asked.2 (does.next.asked.2 func userData told)

theorem scans_told_scanning :
    ∃ (before : List (Call Event State Output)) (c : Call Event State Output) (after : List (Call Event State Output)),
      (before ++ c :: after).map Call.input = scanning ∧ tellsScan c ∧
        ∃ xs d ys, before = xs ++ d :: ys ∧ acceptsScan d ∧ ∀ b ∈ ys, ¬ tellsScan b := by
  obtain ⟨run, inputs⟩ := exec_run (rfl : exec step scanning .init = .ok _)
  refine ⟨[_, _, _, _, _], _, [_, _, _], inputs, ⟨7, 8, rfl⟩, scans_told run (fun c member => ?_) ⟨7, 8, rfl⟩⟩
  have fits : ∀ i ∈ scanning, i.Fits := by
    simp [scanning, Event.Fits]
  exact fits _ (inputs ▸ List.mem_map_of_mem member)

/-! ## Connections that are closed -/

/-- The application does not deinitialise the module while the loop on its connection runs. -/
def Event.Careful (e : Event) (s : State) : Prop := e.Fits ∧ (e = .deinit → s.frames = [])

/-- At most one loop runs, on the connection whose watch has called it. -/
def State.Single (s : State) : Prop := s.frames = [] ∨ ∃ f, s.frames = [f] ∧ s.monConn = some f.ctrl ∧ f.watch = f.ctrl

theorem State.Single.congr {t : State} (single : s.Single) (frames : t.frames = s.frames) (monConn : t.monConn = s.monConn) : t.Single := by
  rw [Single, frames, monConn]
  exact single

theorem wifi_fault {α β : Type} {x : Except Wifi.Fault α} {g : α → β} {f : Fault} (failed : (onWifi x).map g = .error f) :
    ∃ h, f = .wifi h := by
  cases x with
  | error h =>
    cases failed
    exact ⟨h, rfl⟩
  | ok a => cases failed

/-- A careful event uses no connection that is closed or is not there, and at most one loop runs behind it. -/
theorem State.Kept.careful (kept : s.Kept) (single : s.Single) (careful : e.Careful s) :
    (∀ f, step e s = .error f → ∃ g, f = .wifi g) ∧ ∀ s' o, step e s = .ok (s', o) → s'.Single := by
  cases e with
  | init mode answers registers =>
    obtain ⟨t, c, done, -, frames, unchanged⟩ := kept.wifiInit mode answers registers
    rw [Events.step, done]
    refine ⟨fun f failed => (by cases failed), fun s' o answered => ?_⟩
    cases answered
    obtain none' | rfl := unchanged
    · obtain idle | ⟨f, runs, opened, -⟩ := single
      · exact .inl (frames.trans idle)
      · rw [none'] at opened
        cases opened
    · exact single
  | deinit =>
    obtain ⟨t, c, done, -, frames⟩ := kept.wifiDeinit
    rw [Events.step, done]
    refine ⟨fun f failed => (by cases failed), fun s' o answered => ?_⟩
    cases answered
    exact .inl (frames.trans (careful.2 rfl))
  | startAp ssid password channel encryptionFlags hostapd =>
    refine ⟨fun f failed => (by cases failed), fun s' o answered => ?_⟩
    cases answered
    exact single
  | scanRequest reply =>
    refine ⟨fun f failed => wifi_fault failed, fun s' o answered => ?_⟩
    obtain ⟨⟨t, c⟩, done, same⟩ := map_ok_iff.1 answered
    cases same
    obtain ⟨-, frames, monConn⟩ := kept.scanRequest (onWifi_ok done)
    exact single.congr frames monConn
  | connect ssid psk persistent replies =>
    refine ⟨fun f failed => wifi_fault failed, fun s' o answered => ?_⟩
    obtain ⟨⟨t, c⟩, done, same⟩ := map_ok_iff.1 answered
    cases same
    exact single.congr rfl rfl
  | disconnect reply =>
    refine ⟨fun f failed => wifi_fault failed, fun s' o answered => ?_⟩
    obtain ⟨⟨t, c⟩, done, same⟩ := map_ok_iff.1 answered
    cases same
    exact single.congr rfl rfl
  | setConnect cb =>
    refine ⟨fun f failed => (by cases failed), fun s' o answered => ?_⟩
    cases answered
    exact single.congr rfl rfl
  | setScanResult cb =>
    refine ⟨fun f failed => (by cases failed), fun s' o answered => ?_⟩
    cases answered
    exact single.congr rfl rfl
  | unsetConnect =>
    refine ⟨fun f failed => (by cases failed), fun s' o answered => ?_⟩
    cases answered
    exact single.congr rfl rfl
  | unsetScanResult =>
    refine ⟨fun f failed => (by cases failed), fun s' o answered => ?_⟩
    cases answered
    exact single.congr rfl rfl
  | tells message =>
    refine ⟨fun f failed => (by cases failed), fun s' o answered => ?_⟩
    cases answered
    unfold Events.tells
    split
    · exact single
    · exact single.congr rfl rfl
  | dispatch watch answers registers =>
    obtain ⟨t, done, -, -, monConn, frames⟩ := kept.dispatch watch answers registers
    rw [Events.step, done]
    refine ⟨fun f failed => (by cases failed), fun s' o answered => ?_⟩
    cases answered
    obtain same | ⟨opened, idle, frames⟩ := frames
    · exact single.congr same monConn
    · obtain none' | ⟨f, runs, opened', own⟩ := single
      · exact .inr ⟨_, by rw [frames, none'], monConn.trans opened, rfl⟩
      · -- the watch of the loop that runs is not called again
        have other := idle f (by rw [runs]; exact List.mem_singleton_self f)
        exact absurd (own.trans (Option.some.inj (opened'.symm.trans opened))) other
  | goOn receives =>
    obtain none' | ⟨f, runs, opened, own⟩ := single
    · rw [Events.step, Events.goOn, none']
      refine ⟨fun f failed => (by cases failed), fun s' o answered => ?_⟩
      cases answered
      exact .inl none'
    · by_cases idle : f.buf = none
      · obtain ⟨t, c, done, -, goes⟩ := kept.goOn runs idle opened receives
        rw [Events.step, done]
        refine ⟨fun f failed => (by cases failed), fun s' o answered => ?_⟩
        cases answered
        cases goes with
        | ends base same left => exact .inl left
        | goesOn buf base same left => exact .inr ⟨_, left, same.trans opened, own⟩
        | closes base none' left => exact .inl left
      · rw [Events.step, Events.goOn, runs]
        dsimp only
        rw [if_pos idle]
        refine ⟨fun f failed => (by cases failed), fun s' o answered => ?_⟩
        cases answered
        exact .inr ⟨f, runs, opened, own⟩
  | goBack =>
    obtain ⟨t, done, -, -, monConn, frames⟩ := kept.goBack
    rw [Events.step, done]
    refine ⟨fun f failed => (by cases failed), fun s' o answered => ?_⟩
    cases answered
    obtain same | ⟨f, rest, runs, left⟩ := frames
    · exact single.congr same monConn
    · obtain none' | ⟨g, runs', opened, own⟩ := single
      · rw [none'] at runs
        cases runs
      · rw [runs'] at runs
        cases runs
        exact .inr ⟨_, left, monConn.trans opened, own⟩

/-- The supplicant ends while the module is initialised. -/
def ending : List Event :=
  [.init .station .working true, .tells "<3>CTRL-EVENT-TERMINATING ".toList, .dispatch 0 ⟨true, true, none⟩ true, .goOn true]

/-- A loop whose application deinitialises the module reads a connection that is closed. -/
example : (exec step (scanning.take 6 ++ [.deinit, .goBack, .goOn true]) .init).map (fun r => r.1.length) = .error .closed := by rfl

end ArtikSdk.Wifi.Events
