import ArtikSdk.Lib.Run
import ArtikSdk.Mqtt.Client

/-!
# MQTT: the TLS credentials that mosquitto reads

All clients share three files. What a client wrote is there when it connects if nothing was
written or removed since, and if nothing longer was in the file before.
-/

namespace ArtikSdk.Mqtt
open Lib

/-- A client that connects is given the files of its own credentials, with these in them. -/
def Given (c : Call Input State Output) : Prop :=
  match c.input, c.output with
  | .connect .., .connects config reads => ∀ tls, config.tls = some tls → ∀ f, reads f = (tls.configured f).map some
  | _, _ => True

/-- The client that connects was secured when it was created, and each of its credentials is the one
that was written last to its file, completely and over nothing longer. -/
def Input.Fits : Input → State → Prop
  | .connect handle _ _ _, s =>
    ∀ client tls, s.byHandle handle = .ok (some client) → client.config.tls = some tls →
      ∀ f data, tls.configured f = some data → client.secured = true ∧ s.latest f = some ⟨data, true⟩
  | _, _ => True

/-! ## What a call can do -/

/-- From `s`, clients are linked whose configuration has `P`, stored into without another
configuration, and removed; credentials are written with `W`, and files are removed. -/
inductive Moves (P : Config → Prop) (W : List UInt8 → Nat → Prop) (s : State) : State → Prop where
  | none : Moves P W s s
  | add {t : State} {n : Client} : Moves P W s t → P n.config → Moves P W s { t with requestedNode := t.requestedNode ++ [n] }
  | update {t : State} {a : Nat} {f : Client → Client} :
      Moves P W s t → (∀ n, (f n).config = n.config) → Moves P W s (t.update a f)
  | delete {t : State} {a : Nat} : Moves P W s t → Moves P W s (t.delete a)
  | write {t : State} {f : File} {data : List UInt8} {written : Nat} :
      Moves P W s t → W data written → Moves P W s (t.write f data written)
  | cleanup {t : State} {removes : File → Bool} : Moves P W s t → Moves P W s (t.cleanup removes)

/-- The configuration that a create is given has `P`, and what it writes of each credential has `W`. -/
def Input.Makes (P : Config → Prop) (W : List UInt8 → Nat → Prop) : Input → Prop
  | .create config answers =>
    P config ∧ ∀ tls, config.tls = some tls → ∀ f data, tls.configured f = some data → W data (answers.tls.written f)
  | _ => True

section Moves

variable {P : Config → Prop} {W : List UInt8 → Nat → Prop} {s s' t : State} {o : Output}

theorem destroyClient_moves {handle : Nat} {removes : File → Bool} (moves : Moves P W s t)
    (answered : destroyClient handle removes t = .ok s') : Moves P W s s' := by
  obtain ⟨r, -, rest⟩ := bind_ok_iff.1 answered
  cases r with
  | none =>
    cases rest
    exact moves
  | some client =>
    cases rest
    refine .delete ?_
    split
    · exact .cleanup moves
    · exact moves

theorem mqttDestroyClient_moves {handle : Nat} {removes : File → Bool} (moves : Moves P W s t)
    (answered : mqttDestroyClient handle removes t = .ok s') : Moves P W s s' := by
  obtain ⟨r, -, rest⟩ := bind_ok_iff.1 answered
  cases r with
  | none =>
    cases rest
    exact moves
  | some client =>
    dsimp only at rest
    split at rest
    · cases rest
    · exact destroyClient_moves moves rest

theorem abandon_moves {a : Nat} {answers : CreateAnswers} (moves : Moves P W s t) (answered : abandon a answers t = .ok (s', o)) :
    Moves P W s s' := by
  obtain ⟨t', done, rest⟩ := bind_ok_iff.1 answered
  cases rest
  exact mqttDestroyClient_moves moves done

theorem writeFiles_moves {tls : Tls} {answers : TlsAnswers}
    (writes : ∀ f data, tls.configured f = some data → W data (answers.written f)) (fs : List File) (moves : Moves P W s t) :
    Moves P W s (writeFiles tls answers fs t).1 := by
  induction fs generalizing t with
  | nil => exact moves
  | cons f fs ih =>
    rw [writeFiles]
    split
    · exact ih moves
    · rename_i data configured
      split
      · exact moves
      · exact ih (.write moves (writes f data configured))

theorem secure_moves {a : Nat} {config : Config} {answers : CreateAnswers}
    (writes : ∀ tls, config.tls = some tls → ∀ f data, tls.configured f = some data → W data (answers.tls.written f))
    (moves : Moves P W s t) (answered : secure a config answers t = .ok (s', o)) : Moves P W s s' := by
  unfold secure at answered
  dsimp only at answered
  split at answered
  · rename_i tls configured
    cases answered
    refine .update ?_ fun n => rfl
    have written := writeFiles_moves (writes tls configured) [.ca, .cert, .key] moves
    unfold tlsWriteTempCertFiles
    dsimp only
    split
    · exact written
    · exact .cleanup written
  · split at answered
    · exact abandon_moves moves answered
    · cases answered
      exact .update moves fun n => rfl

theorem mqttCreateClient_moves {config : Config} {answers : CreateAnswers} (makes : (Input.create config answers).Makes P W)
    (answered : mqttCreateClient config answers s = .ok (s', o)) : Moves P W s s' := by
  obtain ⟨r, added, rest⟩ := bind_ok_iff.1 answered
  unfold State.add at added
  split at added
  · cases added
  · cases picked : answers.node.pick s.used with
    | none =>
      rw [picked] at added
      cases added
      cases rest
      exact .none
    | some a =>
      rw [picked, Option.map_some] at added
      cases added
      have linked : Moves P W s { s with requestedNode := s.requestedNode ++ [⟨a, config, false, false, false⟩] } :=
        .add .none makes.1
      dsimp only at rest
      split at rest
      · cases rest
        exact .update linked fun n => rfl
      · split at rest
        · exact abandon_moves linked rest
        · split at rest
          · exact abandon_moves linked rest
          · exact secure_moves makes.2 linked rest

theorem mqttConnect_moves {handle : Nat} {connects socket : Bool} {removes : File → Bool}
    (answered : mqttConnect handle connects socket removes s = .ok (s', o)) : Moves P W s s' := by
  obtain ⟨r, -, rest⟩ := bind_ok_iff.1 answered
  cases r with
  | none =>
    cases rest
    exact .none
  | some client =>
    dsimp only at rest
    split at rest
    · cases rest
      exact .none
    · split at rest
      · obtain ⟨t, done, rest⟩ := bind_ok_iff.1 rest
        cases rest
        exact mqttDestroyClient_moves .none done
      · split at rest
        · cases rest
        · cases rest
          exact .none

/-- Every answered call is a row of moves. -/
theorem step_moves {input : Input} (makes : input.Makes P W) (answered : step input s = .ok (s', o)) : Moves P W s s' := by
  cases input with
  | create config answers => exact mqttCreateClient_moves makes answered
  | connect handle connects socket removes => exact mqttConnect_moves answered
  | destroy handle removes =>
    obtain ⟨t, done, rest⟩ := bind_ok_iff.1 answered
    cases rest
    exact mqttDestroyClient_moves .none done

theorem Moves.clients (moves : Moves P W s t) (before : ∀ n ∈ s.requestedNode, P n.config) : ∀ n ∈ t.requestedNode, P n.config := by
  induction moves with
  | none => exact before
  | add _ new ih =>
    intro n member
    obtain old | last := List.mem_append.1 member
    · exact ih n old
    · rw [List.mem_singleton.1 last]
      exact new
  | update _ keeps ih =>
    intro n' member
    obtain ⟨n, present, rfl⟩ := List.mem_map.1 member
    split
    · rw [keeps]
      exact ih n present
    · exact ih n present
  | delete _ ih => exact fun n member => ih n (List.mem_of_mem_eraseP member)
  | write _ _ ih => exact ih
  | cleanup _ ih => exact ih

end Moves

/-! ## The files -/

/-- A credential that covers its file is all of it. -/
def State.Covered (s : State) : Prop := ∀ f data, s.latest f = some ⟨data, true⟩ → s.files f = some data

theorem write_covered {s : State} (covered : s.Covered) (f : File) (data : List UInt8) (written : Nat) :
    (s.write f data written).Covered := by
  intro g data' latest
  by_cases same : g = f
  · subst same
    dsimp only [State.write] at latest ⊢
    rw [Function.update_self] at latest ⊢
    injection latest with latest
    injection latest with data covers
    rw [Bool.and_eq_true, decide_eq_true_eq, decide_eq_true_eq] at covers
    subst data
    rw [List.take_of_length_le covers.1, overwrite, List.drop_of_length_le covers.2, List.append_nil]
  · dsimp only [State.write] at latest ⊢
    rw [Function.update_of_ne same] at latest ⊢
    exact covered g data' latest

theorem cleanup_covered {s : State} (covered : s.Covered) (removes : File → Bool) : (s.cleanup removes).Covered := by
  intro f data latest
  dsimp only [State.cleanup] at latest ⊢
  split at latest
  · cases latest
  · rename_i kept
    rw [if_neg kept]
    exact covered f data latest

theorem Moves.covered {P : Config → Prop} {W : List UInt8 → Nat → Prop} {s t : State} (moves : Moves P W s t) (covered : s.Covered) :
    t.Covered := by
  induction moves with
  | none => exact covered
  | add _ _ ih => exact ih
  | update _ _ ih => exact ih
  | delete _ ih => exact ih
  | write _ _ ih => exact write_covered ih _ _ _
  | cleanup _ ih => exact cleanup_covered ih _

/-- Every file that is there begins with the credential that was written last, and has no more than
it only if it is covered. -/
def State.Begins (Q : List UInt8 → Prop) (s : State) : Prop :=
  ∀ f, match s.latest f with
    | none => s.files f = none
    | some w => Q w.data ∧ ∃ rest, s.files f = some (w.data ++ rest) ∧ (rest = [] → w.covers = true)

theorem write_begins {Q : List UInt8 → Prop} {s : State} (begins : s.Begins Q) {f : File} {data : List UInt8} {written : Nat}
    (whole : Q data ∧ data.length ≤ written) : (s.write f data written).Begins Q := by
  intro g
  by_cases same : g = f
  · subst same
    dsimp only [State.write]
    rw [Function.update_self, Function.update_self]
    refine ⟨whole.1, ((s.files g).getD []).drop data.length, ?_, fun rest => ?_⟩
    · rw [List.take_of_length_le whole.2, overwrite]
    · rw [Bool.and_eq_true, decide_eq_true_eq, decide_eq_true_eq]
      exact ⟨whole.2, List.drop_eq_nil_iff.1 rest⟩
  · dsimp only [State.write]
    rw [Function.update_of_ne same, Function.update_of_ne same]
    exact begins g

theorem cleanup_begins {Q : List UInt8 → Prop} {s : State} (begins : s.Begins Q) (removes : File → Bool) :
    (s.cleanup removes).Begins Q := by
  intro f
  dsimp only [State.cleanup]
  cases removes f with
  | true => rfl
  | false => exact begins f

theorem Moves.begins {P : Config → Prop} {Q : List UInt8 → Prop} {s t : State}
    (moves : Moves P (fun data written => Q data ∧ data.length ≤ written) s t) (begins : s.Begins Q) : t.Begins Q := by
  induction moves with
  | none => exact begins
  | add _ _ ih => exact ih
  | update _ _ ih => exact ih
  | delete _ ih => exact ih
  | write _ whole ih => exact write_begins ih whole
  | cleanup _ ih => exact cleanup_begins ih _

/-! ## What mosquitto reads -/

theorem connect_shows {handle : Nat} {connects socket : Bool} {removes : File → Bool} {s s' : State} {o : Output}
    (answered : mqttConnect handle connects socket removes s = .ok (s', o)) :
    ∃ r, s.byHandle handle = .ok r ∧
      o = match r with
        | none => .failed
        | some client => .connects client.config (s.reads client) := by
  obtain ⟨r, found, rest⟩ := bind_ok_iff.1 answered
  refine ⟨r, found, ?_⟩
  cases r with
  | none =>
    cases rest
    rfl
  | some client =>
    dsimp only at rest
    split at rest
    · cases rest
      rfl
    · split at rest
      · obtain ⟨t, -, rest⟩ := bind_ok_iff.1 rest
        cases rest
        rfl
      · split at rest
        · cases rest
        · cases rest
          rfl

theorem reads_own_iff {s : State} {client : Client} {tls : Tls} (configured : client.config.tls = some tls) :
    (∀ f, s.reads client f = (tls.configured f).map some) ↔
      ∀ f data, tls.configured f = some data → client.secured = true ∧ s.files f = some data := by
  apply forall_congr'
  intro f
  unfold State.reads
  rw [configured]
  dsimp only
  cases tls.configured f with
  | none => cases client.secured <;> simp
  | some data => cases client.secured <;> simp

/-- A connect is given its own credentials, if every file it fits is covered. -/
theorem step_given {input : Input} {s s' : State} {o : Output} (covered : s.Covered) (answered : step input s = .ok (s', o))
    (fits : input.Fits s) : Given ⟨s, input, s', o⟩ := by
  cases input with
  | create config answers => trivial
  | destroy handle removes => trivial
  | connect handle connects socket removes =>
    obtain ⟨r, found, rfl⟩ := connect_shows answered
    cases r with
    | none => trivial
    | some client =>
      intro tls configured
      rw [reads_own_iff configured]
      intro f data own
      obtain ⟨secured, latest⟩ := fits client tls found configured f data own
      exact ⟨secured, covered f data latest⟩

/-- No credential is the beginning of another. -/
def PrefixFree (Q : List UInt8 → Prop) : Prop := ∀ data data', Q data → Q data' → data <+: data' → data = data'

/-- The credentials of a configuration are in `Q`. -/
def Config.Has (Q : List UInt8 → Prop) (config : Config) : Prop :=
  ∀ tls, config.tls = some tls → ∀ f data, tls.configured f = some data → Q data

/-- The credentials are in `Q`, and are written completely. -/
def Input.Writes (Q : List UInt8 → Prop) (input : Input) : Prop :=
  input.Makes (Config.Has Q) fun data written => Q data ∧ data.length ≤ written

theorem find_mem {handle : Nat} {ns : List Client} {n : Client} (found : find handle ns = .ok (some n)) : n ∈ ns := by
  induction ns with
  | nil => cases found
  | cons m ms ih =>
    rw [find] at found
    split at found
    · cases found
    · split at found
      · cases found
        exact List.mem_cons_self
      · exact List.mem_cons_of_mem _ (ih found)

theorem byHandle_mem {handle : Nat} {s : State} {n : Client} (found : s.byHandle handle = .ok (some n)) : n ∈ s.requestedNode := by
  unfold State.byHandle at found
  split at found
  · cases found
  · exact find_mem found

/-- Where no credential is the beginning of another, a connect that is given its own fits. -/
theorem step_fits {Q : List UInt8 → Prop} (free : PrefixFree Q) {input : Input} {s s' : State} {o : Output} (begins : s.Begins Q)
    (clients : ∀ n ∈ s.requestedNode, n.config.Has Q) (answered : step input s = .ok (s', o)) (given : Given ⟨s, input, s', o⟩) :
    input.Fits s := by
  cases input with
  | create config answers => trivial
  | destroy handle removes => trivial
  | connect handle connects socket removes =>
    intro client tls found configured f data own
    obtain ⟨r, found', rfl⟩ := connect_shows answered
    cases found.symm.trans found'
    obtain ⟨secured, file⟩ := (reads_own_iff configured).1 (given tls configured) f data own
    refine ⟨secured, ?_⟩
    have inFile := begins f
    cases latest : s.latest f with
    | none =>
      rw [latest] at inFile
      rw [show s.files f = none from inFile] at file
      cases file
    | some w =>
      rw [latest] at inFile
      obtain ⟨known, rest, contents, covers⟩ := inFile
      rw [file] at contents
      have whole : data = w.data ++ rest := Option.some.inj contents
      -- what was written last is the beginning of the client's credential, and so it is that credential
      have same := free w.data data known (clients client (byHandle_mem found) tls configured f data own) ⟨rest, whole.symm⟩
      have nothing : rest = [] := by
        rw [← same] at whole
        exact List.self_eq_append_right.1 whole
      obtain ⟨written, covered⟩ := w
      rw [show written = data from same, show covered = true from covers nothing]

/-- **Credentials.** In every run in which each client that connects was secured, and each of its
credentials was the last one written to its file, completely and over nothing longer, every
client is given its own. Where no credential is the beginning of another, they are written
completely and no file was there before, no other client is. -/
theorem credentials_given {files : File → Option (List UInt8)} {cs : List (Call Input State Output)} {s : State}
    (run : Run step (.boot files) cs s) :
    ((∀ c ∈ cs, c.input.Fits c.before) → ∀ c ∈ cs, Given c) ∧
      ∀ Q, PrefixFree Q → (∀ f, files f = none) → (∀ c ∈ cs, c.input.Writes Q) → (∀ c ∈ cs, Given c) →
        ∀ c ∈ cs, c.input.Fits c.before := by
  constructor
  · intro fits c member
    have start : (State.boot files).Covered := fun f data latest => by cases latest
    have makes (e : Input) : e.Makes (fun _ => True) fun _ _ => True := by
      cases e with
      | create => exact ⟨trivial, fun _ _ _ _ _ => trivial⟩
      | connect => trivial
      | destroy => trivial
    obtain ⟨covered, answered⟩ := run.invariant_before (I := State.Covered) start
      (fun e t t' o covered answered => (step_moves (makes e) answered).covered covered) member
    exact step_given covered answered (fits c member)
  · intro Q free absent writes given
    have start : (State.boot files).Begins Q ∧ ∀ n ∈ (State.boot files).requestedNode, n.config.Has Q :=
      ⟨absent, fun n member => by cases member⟩
    have both := Run.fits_iff (I := fun s => s.Begins Q ∧ ∀ n ∈ s.requestedNode, n.config.Has Q)
      (P := fun c => c.input.Writes Q ∧ (Given c → c.input.Fits c.before)) (C := fun e s => e.Writes Q)
      (fun e t t' o inv answered => and_iff_left fun given => step_fits free inv.1 inv.2 answered given)
      (fun e t t' o inv writes answered =>
        ⟨(step_moves writes answered).begins inv.1, (step_moves writes answered).clients inv.2⟩) run start
    exact fun c member => (both.2 writes c member).2 (given c member)

/-- A client at `a` with these credentials, and every step of its creation works. -/
def Input.createWith (a : Nat) (ca cert key : List UInt8) : Input :=
  .create ⟨false, false, false, some ⟨fun f => match f with | .ca => ca | .cert => cert | .key => key⟩, false⟩
    ⟨.only a, true, true, true, ⟨fun _ => true, fun _ => 2000, true, fun _ => true⟩, true, true⟩

/-- One client after the other: the second one has the longer credentials. -/
theorem credentials_twoClients :
    ∃ cs s, Run step (.boot fun _ => none) cs s ∧ cs.length = 5 ∧ ((∀ c ∈ cs, c.input.Fits c.before) → ∀ c ∈ cs, Given c) := by
  have computed : execTest step
      [.createWith 1 [1] [2] [3], .connect 1 true true fun _ => true, .destroy 1 fun _ => true, .createWith 1 [4, 5] [6, 7] [8, 9],
        .connect 1 true true fun _ => true]
      (.boot fun _ => none) (fun _ => true) = true := by
    decide
  obtain ⟨cs, s, run, inputs, -⟩ := execTest_run computed
  exact ⟨cs, s, run, by simpa using congrArg List.length inputs, (credentials_given run).1⟩

/-- A client connects and is given something else than its certificate authority. -/
def astray (c : Call Input State Output) : Bool :=
  match c.input, c.output with
  | .connect .., .connects config reads =>
    match config.tls with
    | some tls => reads .ca ≠ (tls.configured .ca).map some
    | none => false
  | _, _ => false

theorem astray_notGiven {c : Call Input State Output} (strays : astray c = true) : ¬ Given c := by
  intro given
  unfold astray at strays
  split at strays
  · rename_i config reads input output
    split at strays
    · rename_i tls configured
      unfold Given at given
      rw [input, output] at given
      exact of_decide_eq_true strays (given tls configured .ca)
    · cases strays
  · cases strays

/-- A second client is created before the first one connects, and its shorter credential leaves the
end of the longer one in the file. -/
theorem credentials_notGiven :
    ¬ ∀ (files : File → Option (List UInt8)) (cs : List (Call Input State Output)) (s : State),
      Run step (.boot files) cs s → ∀ c ∈ cs, Given c := by
  intro given
  have computed : execTest step
      [.createWith 1 [1, 2, 3] [4, 5, 6] [7, 8, 9], .createWith 2 [10, 11] [12, 13] [14, 15], .connect 1 true true fun _ => true]
      (.boot fun _ => none) (fun cs => cs.any astray) = true := by
    decide
  obtain ⟨cs, s, run, -, strays⟩ := execTest_run computed
  obtain ⟨c, member, strays⟩ := List.any_eq_true.1 strays
  exact astray_notGiven strays (given _ cs s run c member)

end ArtikSdk.Mqtt
