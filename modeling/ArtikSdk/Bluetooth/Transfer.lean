import ArtikSdk.Bluetooth.Ftp

/-!
# Bluetooth FTP: cancelling a transfer

While a request of a cancel is pending the state is to stay `BT_FTP_STATE_CANCELING`, and not longer.
Every other completion that comes meanwhile overwrites it, and a cancel that goes on when the
transfer is over is never answered.
-/

namespace ArtikSdk.Bluetooth.Ftp
open Lib

/-- Some request of a cancel is pending. -/
def State.cancels (s : State) : Prop := ∃ r ∈ s.pending, r.own = true

/-- **The law of a state**: while a request of a cancel is pending every operation is refused, and when
nothing is pending nothing is being cancelled. -/
structure Refuses (s : State) : Prop where
  busy : s.cancels → ∀ op : Operation, op.given = true → perform op s = (s, .busy)
  free : s.pending = [] → s.ftpState ≠ .canceling

/-- The completion of a resume goes on to cancel an upload. -/
def Request.GoesOn (r : Request) (ok : Bool) (s : State) : Prop :=
  r.method = .resume ∧ ok = true ∧ s.ftpReq = .put ∧ s.ftpState = .canceling

/-- A completion that goes on to cancel finds the transfer, or leaves other requests pending; any other
completion leaves no request of a cancel; and the session is not removed under one. -/
def Input.Fits : Input → State → Prop
  | .completes i ok, s => ∀ r, s.pending[i]? = some r →
    (r.GoesOn ok s → s.objectPath ≠ none ∨ s.pending.eraseIdx i ≠ []) ∧
    (¬ r.GoesOn ok s → ∀ r' ∈ s.pending.eraseIdx i, r'.own = false)
  | .interfaceRemoved interfaces, s => .session ∈ interfaces → ¬ s.cancels
  | _, _ => True

/-! ## The law by fields -/

/-- What the law comes to: a session, and the state itself. -/
structure State.Kept (s : State) : Prop where
  session : s.cancels → s.sessionPath ≠ none
  canceling : s.cancels → s.ftpState = .canceling
  free : s.pending = [] → s.ftpState ≠ .canceling

theorem State.Kept.init : State.init.Kept where
  session cancels := by
    obtain ⟨r, member, -⟩ := cancels
    cases member
  canceling cancels := by
    obtain ⟨r, member, -⟩ := cancels
    cases member
  free _ := by decide

variable {s s' : State} {o : Option ArtikError}

theorem checkStatus_busy (session : s.sessionPath ≠ none) (canceling : s.ftpState = .canceling) : checkStatus s = .busy := by
  rw [checkStatus, if_neg session, if_pos canceling]

/-- What `_check_status` refuses, every operation does. -/
theorem perform_busy (busy : checkStatus s = .busy) (op : Operation) (given : op.given = true) : perform op s = (s, .busy) := by
  have refused : checkStatus s ≠ .ok := by rw [busy]; decide
  have idles : idle s = .busy := by rw [idle, if_pos refused, busy]
  have actives : active s = .busy := by rw [active, if_pos refused, busy]
  have synchronous_busy (argument : Option (List Char)) (reply : Bool) (there : argument.isSome = true) :
      synchronous argument reply s = (s, .busy) := by
    rw [synchronous, if_neg (Option.isSome_iff_ne_none.1 there), idles, if_pos (by decide)]
  have file_busy (req : ReqType) (first second : Option (List Char)) (reply : Option (Path × Option Status))
      (there : first.isSome = true ∧ second.isSome = true) : file req first second reply s = (s, .busy) := by
    have both : ¬ (first = none ∨ second = none) :=
      not_or.2 ⟨Option.isSome_iff_ne_none.1 there.1, Option.isSome_iff_ne_none.1 there.2⟩
    unfold file
    rw [if_neg both, idles, if_pos (by decide)]
  cases op with
  | changeFolder folder reply => exact synchronous_busy folder reply given
  | createFolder folder reply => exact synchronous_busy folder reply given
  | deleteFile name reply => exact synchronous_busy name reply given
  | listFolder reply =>
    show btFtpListFolder reply s = _
    rw [btFtpListFolder, idles, if_pos (by decide)]
  | getFile targetFile sourceFile reply => exact file_busy _ _ _ reply (Bool.and_eq_true_iff.1 given).symm
  | putFile sourceFile targetFile reply => exact file_busy _ _ _ reply (Bool.and_eq_true_iff.1 given)
  | resumeTransfer =>
    show btFtpResumeTransfer s = _
    rw [btFtpResumeTransfer, actives, if_pos (by decide)]
  | suspendTransfer =>
    show btFtpSuspendTransfer s = _
    rw [btFtpSuspendTransfer, actives, if_pos (by decide)]
  | cancelTransfer =>
    show btFtpCancelTransfer s = _
    rw [btFtpCancelTransfer, actives, if_pos (by decide)]

/-- Where everything is refused, `_check_status` refuses it: of a suspend and a change of the folder, one
would not be for another reason. -/
theorem checkStatus_of_busy (all : ∀ op : Operation, op.given = true → perform op s = (s, .busy)) : checkStatus s = .busy := by
  have suspend : btFtpSuspendTransfer s = (s, .busy) := all .suspendTransfer rfl
  have folder : btFtpListFolder true s = (s, .busy) := all (.listFolder true) rfl
  unfold btFtpSuspendTransfer active at suspend
  unfold btFtpListFolder idle at folder
  by_cases passes : checkStatus s = .ok
  · rw [passes] at suspend folder
    cases path : s.objectPath with
    | none => simp [path] at folder
    | some p => simp [path] at suspend
  · rw [if_pos passes, if_pos passes] at suspend
    exact congrArg Prod.snd suspend

theorem refuses_iff : Refuses s ↔ s.Kept := by
  constructor
  · intro law
    have busy (cancels : s.cancels) : s.sessionPath ≠ none ∧ s.ftpState = .canceling := by
      have checked := checkStatus_of_busy (law.busy cancels)
      unfold checkStatus at checked
      split at checked
      · cases checked
      · rename_i session
        split at checked
        · rename_i canceling
          exact ⟨session, canceling⟩
        · cases checked
    exact ⟨fun cancels => (busy cancels).1, fun cancels => (busy cancels).2, law.free⟩
  · intro kept
    exact ⟨fun cancels => perform_busy (checkStatus_busy (kept.session cancels) (kept.canceling cancels)), kept.free⟩

/-! ## Calls -/

/-- The requests, the session and the state are the same. -/
structure Steady (s t : State) : Prop where
  pending : t.pending = s.pending
  sessionPath : t.sessionPath = s.sessionPath
  ftpState : t.ftpState = s.ftpState

theorem Steady.refl (s : State) : Steady s s := ⟨rfl, rfl, rfl⟩

theorem Steady.kept (steady : Steady s s') (kept : s.Kept) : s'.Kept := by
  obtain ⟨pending, sessionPath, ftpState⟩ := steady
  have cancels : s'.cancels → s.cancels := by
    unfold State.cancels
    rw [pending]
    exact id
  exact ⟨fun c => by rw [sessionPath]; exact kept.session (cancels c), fun c => by rw [ftpState]; exact kept.canceling (cancels c),
    fun none => by rw [ftpState]; rw [pending] at none; exact kept.free none⟩

/-- An operation on the transfer that is not refused finds the session and the transfer, and nothing is
being cancelled. -/
theorem active_ok (passes : ¬ active s ≠ .ok) :
    s.sessionPath ≠ none ∧ s.ftpState ≠ .canceling ∧ ∃ path, s.objectPath = some path := by
  unfold active checkStatus at passes
  by_cases session : s.sessionPath = none
  · simp [session] at passes
  · by_cases canceling : s.ftpState = .canceling
    · simp [session, canceling] at passes
    · cases path : s.objectPath with
      | none => simp [session, canceling, path] at passes
      | some p => exact ⟨session, canceling, p, rfl⟩

/-- A call of a method is pending behind it. -/
theorem call_pending {method : Method} {own : Bool} (there : ∃ path, s.objectPath = some path) :
    (s.call method own).pending = s.pending ++ [⟨method, own⟩] := by
  obtain ⟨path, there⟩ := there
  unfold State.call
  rw [there]

/-- A request of no cancel, made when nothing is being cancelled, keeps the law. -/
theorem kept_request (kept : s.Kept) (quiet : s.ftpState ≠ .canceling) {method : Method} {next : TransportState}
    (other : next ≠ .canceling) : State.Kept { s.call method false with ftpState := next } := by
  have none_cancels : ¬ s.cancels := fun cancels => quiet (kept.canceling cancels)
  have still : ¬ State.cancels { s.call method false with ftpState := next } := by
    rintro ⟨r, member, own⟩
    dsimp only at member
    unfold State.call at member
    split at member
    · exact none_cancels ⟨r, member, own⟩
    · rcases List.mem_append.1 member with member | member
      · exact none_cancels ⟨r, member, own⟩
      · rw [List.mem_singleton.1 member] at own
        cases own
  exact ⟨fun c => absurd c still, fun c => absurd c still, fun _ => other⟩

/-- A request of a cancel keeps the law. -/
theorem kept_cancel (session : s.sessionPath ≠ none) (there : ∃ path, s.objectPath = some path) {method : Method} {own : Bool} :
    State.Kept { s.call method own with ftpState := .canceling } where
  session _ := by
    dsimp only
    unfold State.call
    split <;> exact session
  canceling _ := rfl
  free nothing := by
    dsimp only at nothing
    rw [call_pending there] at nothing
    exact absurd nothing (List.append_ne_nil_of_right_ne_nil _ (List.cons_ne_nil _ _))

theorem synchronous_state (argument : Option (List Char)) (reply : Bool) (s : State) : (synchronous argument reply s).1 = s := by
  unfold synchronous
  split
  · rfl
  · split <;> rfl

theorem steady_file (req : ReqType) (first second : Option (List Char)) (reply : Option (Path × Option Status)) (s : State) :
    Steady s (file req first second reply s).1 := by
  unfold file
  split
  · exact .refl s
  · split
    · exact .refl s
    · cases reply with
      | none => exact .refl s
      | some p => exact ⟨rfl, rfl, rfl⟩

/-- Every operation keeps the law. -/
theorem perform_kept (kept : s.Kept) (op : Operation) : (perform op s).1.Kept := by
  cases op with
  | changeFolder folder reply => exact (congrArg State.Kept (synchronous_state folder reply s)).mpr kept
  | createFolder folder reply => exact (congrArg State.Kept (synchronous_state folder reply s)).mpr kept
  | deleteFile name reply => exact (congrArg State.Kept (synchronous_state name reply s)).mpr kept
  | listFolder reply =>
    show (btFtpListFolder reply s).1.Kept
    unfold btFtpListFolder
    split <;> exact kept
  | getFile targetFile sourceFile reply => exact (steady_file .get sourceFile targetFile reply s).kept kept
  | putFile sourceFile targetFile reply => exact (steady_file .put sourceFile targetFile reply s).kept kept
  | resumeTransfer =>
    show (btFtpResumeTransfer s).1.Kept
    unfold btFtpResumeTransfer
    split
    · exact kept
    · rename_i passes
      exact kept_request kept (active_ok passes).2.1 (by decide)
  | suspendTransfer =>
    show (btFtpSuspendTransfer s).1.Kept
    unfold btFtpSuspendTransfer
    split
    · exact kept
    · rename_i passes
      exact kept_request kept (active_ok passes).2.1 (by decide)
  | cancelTransfer =>
    show (btFtpCancelTransfer s).1.Kept
    unfold btFtpCancelTransfer
    split
    · exact kept
    · rename_i passes
      obtain ⟨session, -, there⟩ := active_ok passes
      split
      · exact kept_cancel session there
      · exact kept_cancel session there

/-! ## Completions -/

/-- A callback that does not go on to cancel writes another state, and touches neither the session nor
the requests. -/
theorem callback_ends {r : Request} {ok : Bool} (ends : ¬ r.GoesOn ok s) :
    (r.callback ok s).pending = s.pending ∧ (r.callback ok s).sessionPath = s.sessionPath ∧ (r.callback ok s).ftpState ≠ .canceling := by
  obtain ⟨method, own⟩ := r
  cases method with
  | suspend => cases ok <;> exact ⟨rfl, rfl, by simp [Request.callback, ftpSuspendCallback]⟩
  | cancel => cases ok <;> exact ⟨rfl, rfl, by simp [Request.callback, ftpCancelCallback]⟩
  | resume =>
    show (ftpResumeCallback own ok s).pending = s.pending ∧ (ftpResumeCallback own ok s).sessionPath = s.sessionPath ∧
      (ftpResumeCallback own ok s).ftpState ≠ .canceling
    unfold ftpResumeCallback
    cases ok with
    | false => exact ⟨rfl, rfl, by simp⟩
    | true =>
      rw [if_neg (by decide), if_neg fun goes => ends ⟨rfl, rfl, goes⟩]
      exact ⟨rfl, rfl, by simp⟩

/-- A completion that does not go on to cancel keeps the law exactly when it leaves no request of a
cancel. -/
theorem completes_ends {r : Request} {ok : Bool} (ends : ¬ r.GoesOn ok s) :
    (r.callback ok s).Kept ↔ ∀ r' ∈ s.pending, r'.own = false := by
  obtain ⟨pending, -, quiet⟩ := callback_ends ends
  constructor
  · intro kept r' member
    by_contra own
    refine quiet (kept.canceling ⟨r', ?_, Bool.eq_true_of_not_eq_false own⟩)
    rw [pending]
    exact member
  · intro none_own
    have still : ¬ (r.callback ok s).cancels := by
      rintro ⟨r', member, own⟩
      rw [pending] at member
      exact absurd ((none_own r' member).symm.trans own) (by decide)
    exact ⟨fun c => absurd c still, fun c => absurd c still, fun _ => quiet⟩

/-- A completion that goes on to cancel keeps the law exactly when it finds the transfer, or others are
still pending. -/
theorem completes_goesOn {r : Request} {ok : Bool} (session : r.own = true ∨ s.cancels → s.sessionPath ≠ none) (goes : r.GoesOn ok s) :
    (r.callback ok s).Kept ↔ s.objectPath ≠ none ∨ s.pending ≠ [] := by
  obtain ⟨method, own⟩ := r
  obtain ⟨rfl, rfl, put, canceling⟩ := goes
  have next : (Request.mk .resume own).callback true s = s.call .cancel own := by
    show ftpResumeCallback own true s = _
    rw [ftpResumeCallback, if_neg (by decide), if_pos ⟨put, canceling⟩]
  rw [next]
  unfold State.call
  cases path : s.objectPath with
  | none =>
    constructor
    · intro kept
      exact .inr fun nothing => kept.free nothing canceling
    · rintro (there | others)
      · exact absurd rfl there
      · exact ⟨fun cancels => session (.inr cancels), fun _ => canceling, fun nothing => absurd nothing others⟩
  | some p =>
    refine iff_of_true ⟨?_, fun _ => canceling, ?_⟩ (.inl (by simp))
    · rintro ⟨r, member, mine⟩
      rcases List.mem_append.1 member with member | member
      · exact session (.inr ⟨r, member, mine⟩)
      · rw [List.mem_singleton.1 member] at mine
        exact session (.inl mine)
    · intro nothing
      exact absurd nothing (List.append_ne_nil_of_right_ne_nil _ (List.cons_ne_nil _ _))

/-! ## Signals -/

theorem steady_obexNotified (s : State) : Steady s (obexNotified s) := by
  unfold obexNotified
  dsimp only
  split <;> exact ⟨rfl, rfl, rfl⟩

theorem steady_obexPropertiesChanged (path : Path) (status : Option Status) (s : State) : Steady s (obexPropertiesChanged path status s) := by
  unfold obexPropertiesChanged
  split <;> exact ⟨rfl, rfl, rfl⟩

/-- New interfaces touch neither the requests nor the state, and leave a session where there is one. -/
theorem onInterfaceAdded_kept (path : Path) (interfaces : List Interface) (kept : s.Kept) : (onInterfaceAdded path interfaces s).Kept := by
  unfold onInterfaceAdded
  induction interfaces generalizing s with
  | nil => exact kept
  | cons i is ih =>
    refine ih ?_
    cases i with
    | session => exact ⟨fun _ => Option.some_ne_none path, kept.canceling, kept.free⟩
    | transfer status => exact ⟨kept.session, kept.canceling, kept.free⟩
    | other => exact kept

/-- Removed interfaces touch neither the requests nor the state; the session is gone if it is among them. -/
theorem onInterfaceRemoved_fields (interfaces : List Interface) (s : State) :
    (onInterfaceRemoved interfaces s).pending = s.pending ∧ (onInterfaceRemoved interfaces s).ftpState = s.ftpState ∧
      (onInterfaceRemoved interfaces s).sessionPath = if .session ∈ interfaces then none else s.sessionPath := by
  unfold onInterfaceRemoved
  induction interfaces generalizing s with
  | nil => exact ⟨rfl, rfl, rfl⟩
  | cons i is ih =>
    obtain ⟨pending, ftpState, sessionPath⟩ := ih (interfaceRemoved s i)
    refine ⟨pending.trans ?_, ftpState.trans ?_, sessionPath.trans ?_⟩
    · cases i <;> rfl
    · cases i <;> rfl
    · cases i <;> simp [interfaceRemoved]

theorem onInterfaceRemoved_kept_iff (interfaces : List Interface) (kept : s.Kept) :
    (onInterfaceRemoved interfaces s).Kept ↔ (.session ∈ interfaces → ¬ s.cancels) := by
  obtain ⟨pending, ftpState, sessionPath⟩ := onInterfaceRemoved_fields interfaces s
  have cancels : (onInterfaceRemoved interfaces s).cancels ↔ s.cancels := by
    unfold State.cancels
    rw [pending]
  constructor
  · intro after gone now
    refine after.session (cancels.2 now) ?_
    rw [sessionPath, if_pos gone]
  · intro safe
    refine ⟨fun now => ?_, fun now => ?_, fun nothing => ?_⟩
    · rw [sessionPath, if_neg fun gone => safe gone (cancels.1 now)]
      exact kept.session (cancels.1 now)
    · rw [ftpState]
      exact kept.canceling (cancels.1 now)
    · rw [ftpState]
      rw [pending] at nothing
      exact kept.free nothing

/-! ## Runs -/

theorem dispatch_ok {t : State} (answered : dispatch s t = .ok (s', o)) : s' = t := by
  unfold dispatch at answered
  split at answered
  · cases answered
  · cases answered
    rfl

/-- A step from a state that keeps the law keeps it exactly when it fits. -/
theorem step_kept_iff {input : Input} (kept : s.Kept) (answered : step input s = .ok (s', o)) : s'.Kept ↔ input.Fits s := by
  cases input with
  | call op =>
    cases answered
    exact iff_of_true (perform_kept kept op) trivial
  | completes i ok =>
    cases found : s.pending[i]? with
    | none =>
      simp only [step, found] at answered
      cases answered
    | some r =>
      simp only [step, found] at answered
      obtain rfl := dispatch_ok answered
      let rest : State := { s with pending := s.pending.eraseIdx i }
      have fits : (Input.completes i ok).Fits s ↔
          (r.GoesOn ok s → s.objectPath ≠ none ∨ rest.pending ≠ []) ∧ (¬ r.GoesOn ok s → ∀ r' ∈ rest.pending, r'.own = false) :=
        ⟨fun all => all r found, fun one r' found' => by cases found.symm.trans found'; exact one⟩
      rw [fits]
      by_cases goes : r.GoesOn ok s
      · have session : r.own = true ∨ rest.cancels → rest.sessionPath ≠ none := by
          rintro (mine | ⟨r', member, mine⟩)
          · exact kept.session ⟨r, List.mem_of_getElem? found, mine⟩
          · exact kept.session ⟨r', List.mem_of_mem_eraseIdx member, mine⟩
        rw [show (r.callback ok rest).Kept ↔ _ from completes_goesOn session goes]
        exact ⟨fun there => ⟨fun _ => there, fun ends => absurd goes ends⟩, fun both => both.1 goes⟩
      · rw [show (r.callback ok rest).Kept ↔ _ from completes_ends (s := rest) goes]
        exact ⟨fun none_own => ⟨fun goes' => absurd goes' goes, fun _ => none_own⟩, fun both => both.2 goes⟩
  | propertiesChanged path status =>
    obtain rfl := dispatch_ok answered
    exact iff_of_true ((steady_obexPropertiesChanged path status s).kept kept) trivial
  | notified =>
    simp only [step] at answered
    split at answered
    · cases answered
      exact iff_of_true ((steady_obexNotified s).kept kept) trivial
    · cases answered
  | interfaceAdded path interfaces =>
    obtain rfl := dispatch_ok answered
    exact iff_of_true (onInterfaceAdded_kept path interfaces kept) trivial
  | interfaceRemoved interfaces =>
    obtain rfl := dispatch_ok answered
    exact onInterfaceRemoved_kept_iff interfaces kept

/-- **Cancelling.** In a run of calls, completions and signals, after every step operations are refused
while a request of a cancel is pending, and only while something is, exactly when every step fits. -/
theorem cancel_iff {calls : List (Call Input State (Option ArtikError))} (run : Run step .init calls s) :
    (∀ c ∈ calls, Refuses c.after) ↔ ∀ c ∈ calls, c.input.Fits c.before :=
  Run.fits_iff (I := State.Kept) (P := fun c => Refuses c.after)
    (fun _ _ _ _ kept answered => refuses_iff.trans (step_kept_iff kept answered))
    (fun _ _ _ _ kept fits answered => (step_kept_iff kept answered).2 fits) run .init

/-- A session and an upload in it. -/
def uploading : List Input :=
  [.interfaceAdded ['s'] [.session], .call (.putFile (some ['a']) (some ['b']) (some (['t'], none)))]

/-- A suspended upload is cancelled: the resume is answered, then the cancel. -/
theorem cancel_suspended : ∃ calls s, Run step .init calls s ∧ calls.length = 7 ∧
    ((∀ c ∈ calls, Refuses c.after) ↔ ∀ c ∈ calls, c.input.Fits c.before) := by
  have computed : execTest step
      (uploading ++ [.call .suspendTransfer, .completes 0 true, .call .cancelTransfer, .completes 0 true, .completes 0 true]) .init
      (fun calls => calls.getLast?.any fun c => c.after.ftpState == .canceled) = true := by
    decide
  obtain ⟨calls, s, run, inputs, -⟩ := execTest_run computed
  exact ⟨calls, s, run, by simpa [uploading] using congrArg List.length inputs, cancel_iff run⟩

/-- A suspend that completes behind a cancel ends the refusals while the cancel is still pending. -/
theorem cancel_not : ¬ ∀ calls s, Run step .init calls s → ∀ c ∈ calls, Refuses c.after := by
  intro all
  have computed : execTest step (uploading ++ [.call .suspendTransfer, .call .cancelTransfer, .completes 0 true]) .init
      (fun calls => calls.any fun c => c.after.pending.any (·.own) && c.after.ftpState != .canceling) = true := by
    decide
  obtain ⟨calls, s, run, -, spoils⟩ := execTest_run computed
  obtain ⟨c, member, spoils⟩ := List.any_eq_true.1 spoils
  rw [Bool.and_eq_true, List.any_eq_true, bne_iff_ne] at spoils
  exact spoils.2 ((refuses_iff.1 (all calls s run c member)).canceling spoils.1)

end ArtikSdk.Bluetooth.Ftp
