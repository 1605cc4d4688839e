import ArtikSdk.Lib.Queue
import ArtikSdk.Websocket.Container

/-!
# Websocket: messages are queued

Either direction of a connection is a queue with room for one message. A message that comes
while another waits takes its place, so that the messages passed on are those taken in exactly
when none of them comes before the one in front of it has gone.
-/

namespace ArtikSdk.Websocket
open Lib

/-- A connection between two events. -/
structure Live (c : Connection) : Prop where
  stored : ∃ counters, c.container.fds = some counters
  heard : 0 < c.announced → ∃ bytes, c.container.receiveMessage = .buffer bytes

theorem Live.opened (sendGarbage receiveGarbage : Bool) (len : Nat) : Live (.opened sendGarbage receiveGarbage len) where
  stored := ⟨_, rfl⟩
  heard announced := by cases announced

/-! ## What an event does -/

/-- The slots of `c'` are those of `c`. -/
structure SameSlots (c c' : Connection) : Prop where
  stored : ∃ counters, c'.container.fds = some counters
  sendMessage : c'.container.sendMessage = c.container.sendMessage
  sendMessageLen : c'.container.sendMessageLen = c.container.sendMessageLen
  receiveMessage : c'.container.receiveMessage = c.container.receiveMessage
  announced : c'.announced = c.announced
  receiveWatch : c'.receiveWatch = c.receiveWatch

/-- What has become of a connection that was told of the message `bytes`. -/
structure Told (c c' : Connection) (bytes : List Byte) (works : Bool) : Prop where
  stored : ∃ counters, c'.container.fds = some counters
  sendMessage : c'.container.sendMessage = c.container.sendMessage
  sendMessageLen : c'.container.sendMessageLen = c.container.sendMessageLen
  receiveMessage : c'.container.receiveMessage = .buffer bytes
  announced : c'.announced = c.announced + if works then 1 else 0
  receiveWatch : c'.receiveWatch = c.receiveWatch

/-- The events of a connection, one case for each thing that they can do. -/
inductive Stepped (c : Connection) : Event → Except Fault (Connection × Output) → Prop where
  | refused {message : List Byte} {malloc : Bool} {r : ArtikError} : c.errorConnect = true ∨ malloc = false → r ≠ .ok →
      Stepped c (.writeStream message malloc) (.ok (c, ⟨some r, [], []⟩))
  | accepted (message : List Byte) : c.errorConnect = false →
      Stepped c (.writeStream message true) (.ok ({ c with container := c.container.store message }, ⟨some .ok, [], []⟩))
  | crashed (works : Bool) : c.container.sendMessage = .wild → Stepped c (.lws .writeable works) (.error .wildPointer)
  | spurious (works : Bool) : c.container.sendMessage = .null → Stepped c (.lws .writeable works) (.ok (c, ⟨none, [], []⟩))
  | written (works : Bool) {bytes : List Byte} : c.container.sendMessage = .buffer bytes →
      Stepped c (.lws .writeable works)
        (.ok ({ c with container.sendMessage := .null }, ⟨none, [bytes.take c.container.sendMessageLen], []⟩))
  | dropped (payload beyond : List Byte) (works : Bool) :
      Stepped c (.lws (.receive payload beyond false) works) (.ok (c, ⟨none, [], []⟩))
  | told {payload beyond : List Byte} {works : Bool} {c' : Connection} : Told c c' (stringAt (payload ++ beyond)) works →
      Stepped c (.lws (.receive payload beyond true) works) (.ok (c', ⟨none, [], []⟩))
  | noticed {reason : Reason} {works : Bool} {c' : Connection} : reason ≠ .writeable →
      (∀ payload beyond copied, reason ≠ .receive payload beyond copied) → SameSlots c c' →
      Stepped c (.lws reason works) (.ok (c', ⟨none, [], []⟩))
  | idle (reads : Bool) : ¬(c.receiveWatch = true ∧ 0 < c.announced) → Stepped c (.pollReceive reads) (.ok (c, ⟨none, [], []⟩))
  | unwatched : c.receiveWatch = true → 0 < c.announced →
      Stepped c (.pollReceive false) (.ok ({ c with receiveWatch := false }, ⟨none, [], []⟩))
  | delivered {bytes : List Byte} {c' : Connection} : c.receiveWatch = true → 0 < c.announced →
      c.container.receiveMessage = .buffer bytes → c'.container.sendMessage = c.container.sendMessage →
      c'.container.sendMessageLen = c.container.sendMessageLen → c'.announced = 0 →
      (∃ counters, c'.container.fds = some counters) →
      Stepped c (.pollReceive true) (.ok (c', ⟨none, [], [bytes]⟩))

variable {c c' : Connection} {e : Event} {o : Output}

/-- A notification of something else than a message. -/
theorem notify_sameSlots (live : Live c) {fd : Fd} (other : fd ≠ .receive) (works errorConnect : Bool) :
    ∃ k, c.container.notify fd works = .ok k ∧ SameSlots c ⟨k, errorConnect, c.receiveWatch⟩ := by
  obtain ⟨counters, stored⟩ := live.stored
  rw [Container.notify, stored]
  refine ⟨_, rfl, ?_⟩
  cases works with
  | false => exact ⟨⟨counters, stored⟩, rfl, rfl, rfl, rfl, rfl⟩
  | true =>
    refine ⟨⟨_, rfl⟩, rfl, rfl, rfl, ?_, rfl⟩
    simp only [Connection.announced, stored, if_true, Option.map_some, Option.getD_some, Function.update_of_ne other.symm]

theorem lws_noticed (fd : Fd) (live : Live c) {reason : Reason} {works : Bool} (other : fd ≠ .receive)
    (notWriteable : reason ≠ .writeable) (notReceive : ∀ payload beyond copied, reason ≠ .receive payload beyond copied)
    (does : c.container.lwsCallback reason works = (c.container.notify fd works).map (·, [])) :
    Stepped c (.lws reason works) (step (.lws reason works) c) := by
  obtain ⟨k, notified, same⟩ := notify_sameSlots live other works (c.errorConnect || decide (reason = .wsiDestroy))
  rw [step, lwsCallback, does, notified]
  exact .noticed notWriteable notReceive same

theorem lws_quiet (live : Live c) {reason : Reason} {works : Bool} (notWriteable : reason ≠ .writeable)
    (notReceive : ∀ payload beyond copied, reason ≠ .receive payload beyond copied)
    (does : c.container.lwsCallback reason works = .ok (c.container, [])) :
    Stepped c (.lws reason works) (step (.lws reason works) c) := by
  rw [step, lwsCallback, does]
  exact .noticed notWriteable notReceive ⟨live.stored, rfl, rfl, rfl, rfl, rfl⟩

theorem writeStream_stepped (c : Connection) (message : List Byte) (malloc : Bool) :
    Stepped c (.writeStream message malloc) (step (.writeStream message malloc) c) := by
  rw [step, osWebsocketWriteStream]
  by_cases lost : c.errorConnect = true
  · rw [if_pos lost]
    exact .refused (Or.inl lost) (by decide)
  rw [if_neg lost]
  cases malloc with
  | false => exact .refused (Or.inr rfl) (by decide)
  | true => exact .accepted message (by simpa using lost)

theorem writeable_stepped (c : Connection) (works : Bool) :
    Stepped c (.lws .writeable works) (step (.lws .writeable works) c) := by
  have flag : (c.errorConnect || decide (Reason.writeable = .wsiDestroy)) = c.errorConnect := Bool.or_false _
  rw [step, lwsCallback, Container.lwsCallback]
  cases slot : c.container.sendMessage with
  | wild => exact .crashed works slot
  | null =>
    dsimp only [Except.map]
    rw [flag]
    exact .spurious works slot
  | buffer bytes =>
    dsimp only [Except.map]
    rw [flag]
    exact .written works slot

theorem receive_stepped (live : Live c) (payload beyond : List Byte) (copied works : Bool) :
    Stepped c (.lws (.receive payload beyond copied) works) (step (.lws (.receive payload beyond copied) works) c) := by
  have flag : (c.errorConnect || decide (Reason.receive payload beyond copied = .wsiDestroy)) = c.errorConnect := by simp
  obtain ⟨counters, stored⟩ := live.stored
  rw [step, lwsCallback, Container.lwsCallback]
  cases copied with
  | false =>
    rw [if_pos rfl]
    dsimp only [Except.map]
    rw [flag]
    exact .dropped payload beyond works
  | true =>
    rw [if_neg (by decide), Container.notify, stored]
    refine .told ⟨?_, ?_, ?_, ?_, ?_, rfl⟩
    all_goals cases works
    all_goals simp [Connection.announced, stored]

theorem pollReceive_stepped (live : Live c) (reads : Bool) :
    Stepped c (.pollReceive reads) (step (.pollReceive reads) c) := by
  obtain ⟨counters, stored⟩ := live.stored
  rw [step, pollReceive]
  by_cases due : c.receiveWatch = true ∧ 0 < c.announced
  · rw [if_pos due, Container.osWebsocketReceiveCallback, stored]
    dsimp only
    cases reads with
    | false => exact .unwatched due.1 due.2
    | true =>
      obtain ⟨bytes, message⟩ := live.heard due.2
      rw [if_neg (by decide), message]
      exact .delivered due.1 due.2 message rfl rfl rfl ⟨_, rfl⟩
  · rw [if_neg due]
    exact .idle reads due

/-- **Every event of a live connection.** -/
theorem step_stepped (live : Live c) (e : Event) : Stepped c e (step e c) := by
  cases e with
  | writeStream message malloc => exact writeStream_stepped c message malloc
  | pollReceive reads => exact pollReceive_stepped live reads
  | lws reason works =>
    cases reason with
    | established => exact lws_noticed .connect live (by decide) (by simp) (by simp) rfl
    | writeable => exact writeable_stepped c works
    | receive payload beyond copied => exact receive_stepped live payload beyond copied works
    | connectionError => exact lws_noticed .close live (by decide) (by simp) (by simp) rfl
    | closed => exact lws_noticed .close live (by decide) (by simp) (by simp) rfl
    | wsiDestroy => exact lws_noticed .close live (by decide) (by simp) (by simp) rfl
    | confirmExtensionSupported => exact lws_quiet live (by simp) (by simp) rfl
    | other => exact lws_quiet live (by simp) (by simp) rfl

theorem step_live (live : Live c) (answered : step e c = .ok (c', o)) : Live c' := by
  have stepped := step_stepped live e
  rw [answered] at stepped
  cases stepped with
  | refused => exact live
  | accepted => exact ⟨live.stored, live.heard⟩
  | spurious => exact live
  | written => exact ⟨live.stored, live.heard⟩
  | dropped => exact live
  | told told => exact ⟨told.stored, fun _ => ⟨_, told.receiveMessage⟩⟩
  | noticed _ _ same =>
    refine ⟨same.stored, fun announced => ?_⟩
    rw [same.receiveMessage]
    exact live.heard (same.announced ▸ announced)
  | idle => exact live
  | unwatched => exact ⟨live.stored, live.heard⟩
  | delivered _ _ _ _ _ none stored => exact ⟨stored, fun some => by omega⟩

/-- Only a WRITEABLE that finds garbage in the slot goes wrong. -/
theorem step_answers (live : Live c) (sound : ∀ works, e = .lws .writeable works → c.container.sendMessage ≠ .wild) :
    ∃ c' o, step e c = .ok (c', o) := by
  have stepped := step_stepped live e
  cases answered : step e c with
  | ok r => exact ⟨r.1, r.2, rfl⟩
  | error f =>
    rw [answered] at stepped
    cases stepped with
    | crashed works wild => exact absurd wild (sound works rfl)

/-! ## Sending -/

/-- The message of a call for which `os_websocket_write_stream` returned `S_OK`. -/
def accepted (c : Call Event Connection Output) : List (List Byte) :=
  match c.input with
  | .writeStream message _ => if c.output.result = some .ok then [message] else []
  | _ => []

/-- What waits in the slot for a WRITEABLE. -/
def Connection.unsent (c : Connection) : List (List Byte) :=
  match c.container.sendMessage with
  | .buffer bytes => [bytes.take c.container.sendMessageLen]
  | _ => []

def outgoing : Traffic Event Connection Output (List Byte) where
  waiting := Connection.unsent
  taken := accepted
  given c := c.output.written

/-- A message is accepted into an empty slot only, and no WRITEABLE finds garbage in it. -/
def SendFits (e : Event) (c : Connection) : Prop :=
  match e with
  | .writeStream _ malloc => c.errorConnect = true ∨ malloc = false ∨ c.unsent = []
  | .lws .writeable _ => c.container.sendMessage ≠ .wild
  | _ => True

theorem unsent_same (sendMessage : c'.container.sendMessage = c.container.sendMessage)
    (sendMessageLen : c'.container.sendMessageLen = c.container.sendMessageLen) : c'.unsent = c.unsent := by
  rw [Connection.unsent, Connection.unsent, sendMessage, sendMessageLen]

theorem unsent_store (c : Connection) (message : List Byte) :
    ({ c with container := c.container.store message } : Connection).unsent = [message] := by
  simp [Connection.unsent, Container.store]

/-- An event conserves the messages to send exactly when it fits, and else loses one. -/
theorem step_outgoing (live : Live c) (answered : step e c = .ok (c', o)) :
    outgoing.Conserves ⟨c, e, c', o⟩ ∧ SendFits e c ∨ outgoing.Loses ⟨c, e, c', o⟩ ∧ ¬ SendFits e c := by
  have stepped := step_stepped live e
  rw [answered] at stepped
  cases stepped with
  | @refused message malloc r why failed =>
    refine Or.inl ⟨?_, why.imp_right Or.inl⟩
    have none : accepted ⟨c, .writeStream message malloc, c, ⟨some r, [], []⟩⟩ = [] :=
      if_neg (by simpa using failed)
    simp [Traffic.Conserves, outgoing, none]
  | accepted message connected =>
    have taken (after : Connection) : accepted ⟨c, .writeStream message true, after, ⟨some .ok, [], []⟩⟩ = [message] := by
      simp [accepted]
    by_cases empty : c.unsent = []
    · refine Or.inl ⟨?_, Or.inr (Or.inr empty)⟩
      simp only [Traffic.Conserves, outgoing, taken, unsent_store, empty, List.nil_append]
    · refine Or.inr ⟨?_, ?_⟩
      · have some := List.length_pos_of_ne_nil empty
        simp only [Traffic.Loses, outgoing, taken, unsent_store, List.length_nil, List.length_singleton]
        omega
      · simp [SendFits, connected, empty]
  | spurious works null =>
    refine Or.inl ⟨?_, ?_⟩
    · simp [Traffic.Conserves, outgoing, accepted]
    · rw [SendFits, null]
      decide
  | written works message =>
    refine Or.inl ⟨?_, ?_⟩
    · simp [Traffic.Conserves, outgoing, accepted, Connection.unsent, message]
    · rw [SendFits, message]
      exact Pointer.noConfusion
  | dropped => exact Or.inl ⟨by simp [Traffic.Conserves, outgoing, accepted], trivial⟩
  | told told =>
    have same := unsent_same told.sendMessage told.sendMessageLen
    exact Or.inl ⟨by simp [Traffic.Conserves, outgoing, accepted, same], trivial⟩
  | @noticed reason works _ notWriteable _ slots =>
    have same := unsent_same slots.sendMessage slots.sendMessageLen
    refine Or.inl ⟨by simp [Traffic.Conserves, outgoing, accepted, same], ?_⟩
    cases reason with
    | writeable => exact absurd rfl notWriteable
    | _ => trivial
  | idle => exact Or.inl ⟨by simp [Traffic.Conserves, outgoing, accepted], trivial⟩
  | unwatched => exact Or.inl ⟨by simp [Traffic.Conserves, outgoing, accepted, Connection.unsent], trivial⟩
  | delivered _ _ _ sendMessage sendMessageLen =>
    have same := unsent_same sendMessage sendMessageLen
    exact Or.inl ⟨by simp [Traffic.Conserves, outgoing, accepted, same], trivial⟩

theorem sendFits_answers (live : Live c) (fits : SendFits e c) : ∃ c' o, step e c = .ok (c', o) :=
  step_answers live fun works same => by
    rw [same] at fits
    exact fits

/-- The slot is empty after a WRITEABLE. -/
theorem writeable_unsent {works : Bool} (live : Live c) (answered : step (.lws .writeable works) c = .ok (c', o)) :
    c'.unsent = [] := by
  have stepped := step_stepped live (.lws .writeable works)
  rw [answered] at stepped
  cases stepped with
  | spurious _ null => rw [Connection.unsent, null]
  | written => rfl
  | noticed notWriteable => exact absurd rfl notWriteable

/-- Every call of a run starts from a live connection, and is one that the run answered. -/
theorem run_calls {cs : List (Call Event Connection Output)} (run : Run step c cs c') (live : Live c) {d : Call Event Connection Output}
    (member : d ∈ cs) : Live d.before ∧ step d.input d.before = .ok (d.after, d.output) :=
  run.invariant_before live (fun _ _ _ _ here answered => step_live here answered) member

/-- **Sending.** After a WRITEABLE the messages passed to `lws_write` are those for which
`os_websocket_write_stream` returned `S_OK`, each once and in the order of the calls, exactly when
each of them found the slot empty and no WRITEABLE found garbage in it. -/
theorem sent_iff (sendGarbage receiveGarbage : Bool) (len : Nat) (es : List Event) (works : Bool) :
    (∃ cs c, exec step (es ++ [.lws .writeable works]) (.opened sendGarbage receiveGarbage len) = .ok (cs, c) ∧
      (cs.flatMap fun d => d.output.written) = cs.flatMap accepted) ↔
      Along SendFits step (es ++ [.lws .writeable works]) (.opened sendGarbage receiveGarbage len) := by
  have start := Live.opened sendGarbage receiveGarbage len
  have empty : (Connection.opened sendGarbage receiveGarbage len).unsent = [] := by
    cases sendGarbage <;> rfl
  rw [← exec_fits_iff (I := Live) (fun e c live fits => sendFits_answers live fits)
    (fun e c c' o live _ answered => step_live live answered) start]
  refine exists_congr fun cs => exists_congr fun c => and_congr_right fun ran => ?_
  obtain ⟨run, -⟩ := exec_run ran
  obtain ⟨ds, t, o, before, last, -⟩ := exec_concat ran
  have none := writeable_unsent ((exec_run before).1.invariant start fun _ _ _ _ here answered => step_live here answered) last
  have either : ∀ d ∈ cs, outgoing.Conserves d ∧ SendFits d.input d.before ∨ outgoing.Loses d ∧ ¬ SendFits d.input d.before :=
    fun d member => step_outgoing (run_calls run start member).1 (run_calls run start member).2
  have all := Traffic.given_length_iff run (fun d member => (either d member).imp And.left And.left) empty none
  constructor
  · intro same d member
    rcases either d member with ⟨-, fits⟩ | ⟨lost, -⟩
    · exact fits
    · exact absurd (all.1 (congrArg List.length same) d member) lost.not_conserves
  · intro fits
    refine Traffic.given_eq (t := outgoing) run (fun d member => ?_) empty none
    rcases either d member with ⟨kept, -⟩ | ⟨-, unfit⟩
    · exact kept
    · exact absurd (fits d member) unfit

/-- The second write takes the slot from the first message. -/
theorem secondWrite_not_sent :
    ¬ ∃ cs c, exec step [.writeStream [97] true, .writeStream [98] true, .lws .writeable true] (.opened false false 0) = .ok (cs, c) ∧
      (cs.flatMap fun d => d.output.written) = cs.flatMap accepted := by
  rintro ⟨cs, c, ran, same⟩
  cases ran
  revert same
  decide

/-! ## Receiving -/

/-- The bytes of the message that an event brings. -/
def arrived (c : Call Event Connection Output) : List (List Byte) :=
  match c.input with
  | .lws (.receive payload _ _) _ => [payload]
  | _ => []

/-- The string that `strndup` reads from that message. -/
def copied (c : Call Event Connection Output) : List (List Byte) :=
  match c.input with
  | .lws (.receive payload beyond _) _ => [stringAt (payload ++ beyond)]
  | _ => []

/-- What waits in the slot for the receive handler. -/
def Connection.undelivered (c : Connection) : List (List Byte) :=
  if c.receiveWatch = true ∧ 0 < c.announced then
    match c.container.receiveMessage with
    | .buffer bytes => [bytes]
    | _ => []
  else []

def incoming : Traffic Event Connection Output (List Byte) where
  waiting := Connection.undelivered
  taken := copied
  given c := c.output.delivered

/-- A message is copied and announced while none waits, and a message that waits is read. -/
def HandlerFits (e : Event) (c : Connection) : Prop :=
  match e with
  | .lws (.receive _ _ copied) works => copied = true ∧ works = true ∧ c.receiveWatch = true ∧ c.announced = 0
  | .pollReceive reads => reads = true ∨ ¬(c.receiveWatch = true ∧ 0 < c.announced)
  | .lws .writeable _ => c.container.sendMessage ≠ .wild
  | _ => True

/-- The message ends with its bytes, and not before. -/
def Terminated (e : Event) : Prop :=
  match e with
  | .lws (.receive payload beyond _) _ => stringAt (payload ++ beyond) = payload
  | _ => True

theorem undelivered_same (same : SameSlots c c') : c'.undelivered = c.undelivered := by
  rw [Connection.undelivered, Connection.undelivered, same.receiveWatch, same.announced, same.receiveMessage]

theorem undelivered_length (c : Connection) : c.undelivered.length ≤ 1 := by
  unfold Connection.undelivered
  split
  · split <;> simp
  · simp

theorem undelivered_none (none : ¬(c.receiveWatch = true ∧ 0 < c.announced)) : c.undelivered = [] := if_neg none

/-- A message that is announced while none waits. -/
theorem Told.alone {bytes : List Byte} (told : Told c c' bytes true) (watched : c.receiveWatch = true) (first : c.announced = 0) :
    c.undelivered = [] ∧ c'.undelivered = [bytes] := by
  constructor
  · exact undelivered_none (by omega)
  · rw [Connection.undelivered, told.receiveMessage, told.receiveWatch, told.announced, if_pos ⟨watched, by rw [if_pos rfl]; omega⟩]

/-- Otherwise the message takes the place of one that waits, or does not wait itself. -/
theorem Told.loses {bytes : List Byte} {works : Bool} (live : Live c) (told : Told c c' bytes works)
    (busy : ¬(works = true ∧ c.receiveWatch = true ∧ c.announced = 0)) : c'.undelivered.length < c.undelivered.length + 1 := by
  have few := undelivered_length c'
  by_cases held : c.receiveWatch = true ∧ 0 < c.announced
  · obtain ⟨bytes, message⟩ := live.heard held.2
    have one : c.undelivered.length = 1 := by rw [Connection.undelivered, if_pos held, message, List.length_singleton]
    rw [one]
    exact Nat.lt_succ_of_le few
  · -- the message is not announced, or there is nobody to announce it to
    have before : c.undelivered = [] := undelivered_none held
    have after : c'.undelivered = [] := by
      apply undelivered_none
      rw [told.receiveWatch, told.announced]
      rintro ⟨watched, some⟩
      have first : c.announced = 0 := Nat.eq_zero_of_not_pos fun more => held ⟨watched, more⟩
      cases works with
      | true => exact busy ⟨rfl, watched, first⟩
      | false => simp [first] at some
    rw [before, after]
    decide

/-- An event conserves the messages received exactly when it fits, and else loses one. -/
theorem step_incoming (live : Live c) (answered : step e c = .ok (c', o)) :
    incoming.Conserves ⟨c, e, c', o⟩ ∧ HandlerFits e c ∨ incoming.Loses ⟨c, e, c', o⟩ ∧ ¬ HandlerFits e c := by
  have stepped := step_stepped live e
  rw [answered] at stepped
  cases stepped with
  | refused => exact Or.inl ⟨by simp [Traffic.Conserves, incoming, copied], trivial⟩
  | accepted message =>
    have same : ({ c with container := c.container.store message } : Connection).undelivered = c.undelivered := rfl
    exact Or.inl ⟨by simp [Traffic.Conserves, incoming, copied, same], trivial⟩
  | spurious works null =>
    refine Or.inl ⟨by simp [Traffic.Conserves, incoming, copied], ?_⟩
    rw [HandlerFits, null]
    decide
  | written works message =>
    have same : ({ c with container.sendMessage := .null } : Connection).undelivered = c.undelivered := rfl
    refine Or.inl ⟨by simp [Traffic.Conserves, incoming, copied, same], ?_⟩
    rw [HandlerFits, message]
    exact Pointer.noConfusion
  | dropped => exact Or.inr ⟨by simp [Traffic.Loses, incoming, copied], fun fits => by cases fits.1⟩
  | @told payload beyond works _ told =>
    have copy : copied ⟨c, .lws (.receive payload beyond true) works, c', ⟨none, [], []⟩⟩ = [stringAt (payload ++ beyond)] := rfl
    by_cases free : works = true ∧ c.receiveWatch = true ∧ c.announced = 0
    · obtain ⟨rfl, watched, first⟩ := free
      obtain ⟨before, after⟩ := told.alone watched first
      exact Or.inl ⟨by simp only [Traffic.Conserves, incoming, copy, before, after, List.nil_append], rfl, rfl, watched, first⟩
    · refine Or.inr ⟨?_, fun fits => free fits.2⟩
      simp only [Traffic.Loses, incoming, copy, List.length_nil, List.length_singleton, Nat.zero_add]
      exact told.loses live free
  | @noticed reason works _ notWriteable notReceive slots =>
    have same := undelivered_same slots
    have nothing : copied ⟨c, .lws reason works, c', ⟨none, [], []⟩⟩ = [] := by
      cases reason with
      | receive payload beyond copied => exact absurd rfl (notReceive payload beyond copied)
      | _ => rfl
    refine Or.inl ⟨by simp [Traffic.Conserves, incoming, nothing, same], ?_⟩
    cases reason with
    | writeable => exact absurd rfl notWriteable
    | receive payload beyond copied => exact absurd rfl (notReceive payload beyond copied)
    | _ => trivial
  | idle reads none => exact Or.inl ⟨by simp [Traffic.Conserves, incoming, copied], Or.inr none⟩
  | unwatched watched some =>
    obtain ⟨bytes, message⟩ := live.heard some
    refine Or.inr ⟨?_, fun fits => ?_⟩
    · simp [Traffic.Loses, incoming, copied, Connection.undelivered, watched, some, message]
    · rcases fits with reads | none
      · cases reads
      · exact none ⟨watched, some⟩
  | @delivered bytes _ watched some message _ _ none _ =>
    have before : c.undelivered = [bytes] := by rw [Connection.undelivered, if_pos ⟨watched, some⟩, message]
    have after : c'.undelivered = [] := undelivered_none (by omega)
    exact Or.inl ⟨by simp [Traffic.Conserves, incoming, copied, before, after], Or.inl rfl⟩

theorem handlerFits_answers (live : Live c) (fits : HandlerFits e c) : ∃ c' o, step e c = .ok (c', o) :=
  step_answers live fun works same => by
    rw [same] at fits
    exact fits

/-- Nothing waits after the handler has run. -/
theorem pollReceive_undelivered (live : Live c) (answered : step (.pollReceive true) c = .ok (c', o)) : c'.undelivered = [] := by
  have stepped := step_stepped live (.pollReceive true)
  rw [answered] at stepped
  cases stepped with
  | idle _ none => exact undelivered_none none
  | delivered _ _ _ _ _ none => exact undelivered_none (by omega)

/-- **Receiving.** After a run of the receive handler the messages passed to the receive callback
are those that arrived, each once, with its own bytes and in the order of arrival, exactly when
each of them was copied and announced while no other waited, ended with its bytes and not before,
and was read; where messages are sent on the same connection, no WRITEABLE finds garbage. -/
theorem received_iff (sendGarbage receiveGarbage : Bool) (len : Nat) (es : List Event) :
    (∃ cs c, exec step (es ++ [.pollReceive true]) (.opened sendGarbage receiveGarbage len) = .ok (cs, c) ∧
      (cs.flatMap fun d => d.output.delivered) = cs.flatMap arrived) ↔
      Along (fun e c => HandlerFits e c ∧ Terminated e) step (es ++ [.pollReceive true])
        (.opened sendGarbage receiveGarbage len) := by
  have start := Live.opened sendGarbage receiveGarbage len
  have empty : (Connection.opened sendGarbage receiveGarbage len).undelivered = [] := undelivered_none (by simp [Connection.announced,
    Connection.opened])
  rw [← exec_fits_iff (I := Live) (fun e c live fits => handlerFits_answers live fits.1)
    (fun e c c' o live _ answered => step_live live answered) start]
  refine exists_congr fun cs => exists_congr fun c => and_congr_right fun ran => ?_
  obtain ⟨run, -⟩ := exec_run ran
  obtain ⟨ds, t, o, before, last, -⟩ := exec_concat ran
  have none := pollReceive_undelivered ((exec_run before).1.invariant start fun _ _ _ _ here answered => step_live here answered) last
  have either : ∀ d ∈ cs, incoming.Conserves d ∧ HandlerFits d.input d.before ∨ incoming.Loses d ∧ ¬ HandlerFits d.input d.before :=
    fun d member => step_incoming (run_calls run start member).1 (run_calls run start member).2
  have all := Traffic.given_length_iff run (fun d member => (either d member).imp And.left And.left) empty none
  have measures : ∀ d ∈ cs, (copied d).length = (arrived d).length := by
    intro d _
    unfold copied arrived
    split <;> rfl
  have terminated : ∀ d : Call Event Connection Output, copied d = arrived d ↔ Terminated d.input := by
    intro d
    unfold copied arrived Terminated
    split <;> simp
  have total : (cs.flatMap copied).length = (cs.flatMap arrived).length := by
    rw [List.length_flatMap, List.length_flatMap, List.map_congr_left measures]
  constructor
  · intro same
    have kept := all.1 ((congrArg List.length same).trans total.symm)
    have given := Traffic.given_eq (t := incoming) run kept empty none
    have strings := (flatMap_eq_iff measures).1 (given.symm.trans same)
    intro d member
    rcases either d member with ⟨-, fits⟩ | ⟨lost, -⟩
    · exact ⟨fits, (terminated d).1 (strings d member)⟩
    · exact absurd (kept d member) lost.not_conserves
  · intro fits
    have given : (cs.flatMap fun d => d.output.delivered) = cs.flatMap copied := by
      refine Traffic.given_eq (t := incoming) run (fun d member => ?_) empty none
      rcases either d member with ⟨kept, -⟩ | ⟨-, unfit⟩
      · exact kept
      · exact absurd (fits d member).1 unfit
    rw [given]
    exact (flatMap_eq_iff measures).2 fun d member => (terminated d).2 (fits d member).2

/-- The second message takes the slot from the first. -/
theorem secondMessage_not_received :
    ¬ ∃ cs c, exec step [.lws (.receive [97] [0] true) true, .lws (.receive [98] [0] true) true, .pollReceive true]
        (.opened false false 0) = .ok (cs, c) ∧ (cs.flatMap fun d => d.output.delivered) = cs.flatMap arrived := by
  rintro ⟨cs, c, ran, same⟩
  cases ran
  revert same
  decide

end ArtikSdk.Websocket
