import ArtikSdk.Lib.Simulation

/-!
# The control connection

`wpa_ctrl_request` of `wpa_ctrl.c`, with the supplicant at the other end of the socket. A request is sent, and what comes in
is read until it does not begin with `<`. The supplicant answers the requests in order, and says what it likes in between. A
request is given up when nothing comes in for ten seconds, and its answer is read when it comes.
-/

namespace ArtikSdk.Wifi.Control
open Lib

/-! ## The connection -/

/-- The command of a call of `wpa_ctrl_request`, and the size of the buffer for its reply. -/
structure Request where
  cmd : List Char
  replyLen : Nat
deriving DecidableEq

/-- `asked` are the commands that the supplicant has not answered, `inbox` the datagrams that are to be read, and `waiting`
is the call that waits for its reply. -/
structure Connection where
  asked : List (List Char)
  inbox : List (List Char)
  waiting : Option Request
deriving DecidableEq

def Connection.opened : Connection := ⟨[], [], none⟩

/-- A call of `wpa_ctrl_request`, and whether its command is sent in the end; a round of its loop, with what `select` and
`recv` make of it; an answer of the supplicant to the first command that it has not answered, and a message that nobody
asked for. -/
inductive Input where
  | request (r : Request) (sends : Bool)
  | round (selects receives : Bool)
  | answers (reply : List Char)
  | tells (message : List Char)
deriving DecidableEq

/-- A command was sent, a message skipped, or the call returned, with a reply or without; the supplicant answered a command. -/
inductive Output where
  | sent
  | skipped (message : List Char)
  | returned (reply : List Char)
  | failed (res : Int)
  | answered (cmd : List Char)
  | nothing
deriving DecidableEq

/-- One round: `recv` cuts a datagram off at the size of the buffer. Nothing to read is what `select` tells after ten seconds. -/
def wpaCtrlRound (r : Request) (selects receives : Bool) (s : Connection) : Connection × Output :=
  if selects = false then ({ s with waiting := none }, .failed (-1))
  else
    match s.inbox with
    | [] => ({ s with waiting := none }, .failed (-2))
    | message :: inbox =>
      if receives = false then ({ s with waiting := none }, .failed (-1))
      else if (message.take r.replyLen).head? = some '<' then ({ s with inbox }, .skipped message)
      else ({ s with inbox, waiting := none }, .returned (message.take r.replyLen))

/-- A call blocks its thread, so that there is no other one before it returns. -/
def step (i : Input) (s : Connection) : Except Empty (Connection × Output) :=
  .ok <|
    match i, s.waiting, s.asked with
    | .request r sends, none, _ =>
      if sends = false then (s, .failed (-1)) else ({ s with asked := s.asked ++ [r.cmd], waiting := some r }, .sent)
    | .round selects receives, some r, _ => wpaCtrlRound r selects receives s
    | .answers reply, _, cmd :: asked => ({ s with asked, inbox := s.inbox ++ [reply] }, .answered cmd)
    | .tells message, _, _ => ({ s with inbox := s.inbox ++ [message] }, .nothing)
    | _, _, _ => (s, .nothing)

/-- There is room for a reply, and a message begins with `<` exactly when nobody asked for it. -/
def Input.Fits : Input → Prop
  | .request r _ => 0 < r.replyLen
  | .round _ _ => True
  | .answers reply => reply.head? ≠ some '<'
  | .tells message => message.head? = some '<'

/-! ## What a run did -/

/-- The command that a call sends. -/
def sentCommand : Input → Output → Option (List Char)
  | .request r _, .sent => some r.cmd
  | _, _ => none

/-- The command that the supplicant answers, with its answer. -/
def givenAnswer : Input → Output → Option (List Char × List Char)
  | .answers reply, .answered cmd => some (cmd, reply)
  | _, _ => none

def Output.isReply : Output → Bool
  | .returned _ => true
  | _ => false

/-- A call gives up after its command was sent. -/
def givesUp (c : Call Input Connection Output) : Bool := c.before.waiting.isSome && c.after.waiting.isNone && !c.output.isReply

def commands (cs : List (Call Input Connection Output)) : List (List Char) := cs.filterMap fun c => sentCommand c.input c.output
def answers (cs : List (Call Input Connection Output)) : List (List Char × List Char) :=
  cs.filterMap fun c => givenAnswer c.input c.output
def replied (cs : List (Call Input Connection Output)) : Nat := cs.countP fun c => c.output.isReply
def givenUp (cs : List (Call Input Connection Output)) : Nat := cs.countP givesUp

/-! ## One step -/

variable {s s' : Connection} {i : Input} {o : Output} {cs : List (Call Input Connection Output)} {c : Call Input Connection Output}

/-- What is to be read as a reply. -/
def Connection.pending (s : Connection) : List (List Char) := s.inbox.filter fun message => message.head? ≠ some '<'

def Connection.waits (s : Connection) : Nat := if s.waiting.isSome then 1 else 0

/-- What a step does to the commands and answers that are under way, and to the call that waits. -/
structure Moves (c : Call Input Connection Output) : Prop where
  asked : c.before.asked ++ (sentCommand c.input c.output).toList = (givenAnswer c.input c.output).toList.map Prod.fst ++ c.after.asked
  pending : ∃ read : List (List Char), read.length = (if c.output.isReply then 1 else 0) ∧
    c.before.pending ++ (givenAnswer c.input c.output).toList.map Prod.snd = read ++ c.after.pending
  counted : c.before.waits + (sentCommand c.input c.output).toList.length =
    (if c.output.isReply then 1 else 0) + (if givesUp c then 1 else 0) + c.after.waits
  own : ∀ r, c.after.waiting = some r →
    (c.before.waiting = some r ∧ sentCommand c.input c.output = none) ∨ 0 < r.replyLen ∧ sentCommand c.input c.output = some r.cmd

theorem givesUp_still (waiting : s'.waiting = s.waiting) : givesUp ⟨s, i, s', o⟩ = false := by
  unfold givesUp
  rw [show s'.waiting.isNone = !s.waiting.isSome by rw [waiting]; cases s.waiting <;> rfl]
  cases s.waiting.isSome <;> rfl

/-- A step that shows nothing, and neither reads nor waits. -/
theorem moves_still (sent : sentCommand i o = none) (given : givenAnswer i o = none) (reply : o.isReply = false)
    (asked : s'.asked = s.asked) (pending : s'.pending = s.pending) (waiting : s'.waiting = s.waiting) : Moves ⟨s, i, s', o⟩ := by
  refine ⟨?_, ⟨[], ?_, ?_⟩, ?_, fun r waits => .inl ⟨waiting ▸ waits, sent⟩⟩
  · simp [sent, given, asked]
  · simp [reply]
  · simp [given, pending]
  · simp [sent, reply, givesUp_still waiting, Connection.waits, waiting]

/-- The call that waits gives up. -/
theorem moves_fails {r : Request} (waits : s.waiting = some r) (selects receives : Bool) (res : Int) :
    Moves ⟨s, .round selects receives, { s with waiting := none }, .failed res⟩ := by
  refine ⟨?_, ⟨[], rfl, ?_⟩, ?_, fun r' waits' => by cases waits'⟩
  · simp [sentCommand, givenAnswer]
  · simp [givenAnswer, Connection.pending]
  · simp [sentCommand, Output.isReply, givesUp, Connection.waits, waits]

/-- The cut of a message begins as the message does. -/
theorem head?_take {n : Nat} (room : 0 < n) (message : List Char) : (message.take n).head? = message.head? := by
  rw [List.head?_take, if_neg (by omega)]

/-- A round takes the first message: it is skipped, or the call returns with it. -/
theorem moves_round {r : Request} (waits : s.waiting = some r) (room : 0 < r.replyLen) (selects receives : Bool) :
    Moves ⟨s, .round selects receives, (wpaCtrlRound r selects receives s).1, (wpaCtrlRound r selects receives s).2⟩ := by
  unfold wpaCtrlRound
  split
  · exact moves_fails waits selects receives (-1)
  · split
    · exact moves_fails waits selects receives (-2)
    · rename_i message inbox here
      split
      · exact moves_fails waits selects receives (-1)
      · rw [head?_take room]
        split
        · rename_i asked
          refine moves_still rfl rfl rfl rfl ?_ rfl
          rw [Connection.pending, Connection.pending, here, List.filter_cons_of_neg (by simp [asked])]
        · rename_i reply
          refine ⟨?_, ⟨[message], rfl, ?_⟩, ?_, fun r' waits' => by cases waits'⟩
          · simp [sentCommand, givenAnswer]
          · simp only [givenAnswer, Connection.pending, here]
            rw [List.filter_cons_of_pos (by simp [reply])]
            exact List.append_nil _
          · simp [sentCommand, Output.isReply, givesUp, Connection.waits, waits]

theorem step_moves (answered : step i s = .ok (s', o)) (fits : i.Fits) (room : ∀ r, s.waiting = some r → 0 < r.replyLen) :
    Moves ⟨s, i, s', o⟩ := by
  unfold step at answered
  cases i with
  | request r sends =>
    cases waits : s.waiting with
    | some r' =>
      rw [waits] at answered
      cases answered
      exact moves_still rfl rfl rfl rfl rfl rfl
    | none =>
      rw [waits] at answered
      cases sends with
      | false =>
        cases answered
        exact moves_still rfl rfl rfl rfl rfl rfl
      | true =>
        cases answered
        refine ⟨?_, ⟨[], rfl, ?_⟩, ?_, fun r' same => ?_⟩
        · simp [sentCommand, givenAnswer]
        · simp [givenAnswer, Connection.pending]
        · simp [sentCommand, Output.isReply, givesUp, Connection.waits, waits]
        · obtain rfl := Option.some.inj same
          exact .inr ⟨fits, rfl⟩
  | round selects receives =>
    cases waits : s.waiting with
    | none =>
      rw [waits] at answered
      cases answered
      exact moves_still rfl rfl rfl rfl rfl rfl
    | some r =>
      rw [waits] at answered
      obtain ⟨rfl, rfl⟩ := Prod.mk.inj (Except.ok.inj answered)
      exact moves_round waits (room r waits) selects receives
  | answers reply =>
    cases asked : s.asked with
    | nil =>
      rw [asked] at answered
      cases answered
      exact moves_still rfl rfl rfl rfl rfl rfl
    | cons cmd rest =>
      rw [asked] at answered
      cases answered
      refine ⟨?_, ⟨[], rfl, ?_⟩, ?_, fun r waits => .inl ⟨waits, rfl⟩⟩
      · simp [sentCommand, givenAnswer, asked]
      · simp [givenAnswer, Connection.pending, show reply.head? ≠ some '<' from fits]
      · have stays : givesUp ⟨s, .answers reply, ⟨rest, s.inbox ++ [reply], s.waiting⟩, .answered cmd⟩ = false := givesUp_still rfl
        simp [sentCommand, Output.isReply, Connection.waits, stays]
  | tells message =>
    cases answered
    refine moves_still rfl rfl rfl rfl ?_ rfl
    simp [Connection.pending, show message.head? = some '<' from fits]

/-! ## A run -/

/-- What a run has done, and what is under way: the commands that were not answered are asked for, the answers that were
not read are to be read, and the last command is the one that waits. -/
structure Ordered (cs : List (Call Input Connection Output)) (s : Connection) : Prop where
  asked : commands cs = (answers cs).map Prod.fst ++ s.asked
  pending : ∃ read : List (List Char), read.length = replied cs ∧ (answers cs).map Prod.snd = read ++ s.pending
  counted : (commands cs).length = replied cs + givenUp cs + s.waits
  own : ∀ r, s.waiting = some r → 0 < r.replyLen ∧ (commands cs).getLast? = some r.cmd

theorem Ordered.opened : Ordered [] .opened := by
  refine ⟨rfl, ⟨[], rfl, rfl⟩, rfl, fun r waits => ?_⟩
  cases waits

theorem Ordered.concat (ordered : Ordered cs c.before) (moves : Moves c) : Ordered (cs ++ [c]) c.after := by
  have commands' : commands (cs ++ [c]) = commands cs ++ (sentCommand c.input c.output).toList := by
    rw [commands, List.filterMap_append]
    rfl
  have answers' : answers (cs ++ [c]) = answers cs ++ (givenAnswer c.input c.output).toList := by
    rw [answers, List.filterMap_append]
    rfl
  have replied' : replied (cs ++ [c]) = replied cs + if c.output.isReply then 1 else 0 := by
    rw [replied, List.countP_append, List.countP_singleton]
    rfl
  have givenUp' : givenUp (cs ++ [c]) = givenUp cs + if givesUp c then 1 else 0 := by
    rw [givenUp, List.countP_append, List.countP_singleton]
    rfl
  obtain ⟨read, length, before⟩ := ordered.pending
  obtain ⟨now, one, moved⟩ := moves.pending
  refine ⟨?_, ⟨read ++ now, ?_, ?_⟩, ?_, fun r waits => ?_⟩
  · rw [commands', answers', ordered.asked, List.append_assoc, moves.asked, List.map_append, List.append_assoc]
  · rw [List.length_append, length, one, replied']
  · rw [answers', List.map_append, before, List.append_assoc, moved, List.append_assoc]
  · rw [commands', List.length_append, replied', givenUp', ordered.counted]
    have counted := moves.counted
    omega
  · rw [commands']
    obtain ⟨waited, none'⟩ | ⟨room, sent⟩ := moves.own r waits
    · rw [none']
      simpa using ordered.own r waited
    · rw [sent]
      exact ⟨room, by simp⟩

theorem run_ordered (run : Run step .opened cs s) (fits : ∀ c ∈ cs, c.input.Fits) : Ordered cs s := by
  refine run.history (C := fun i _ => i.Fits) Ordered.opened fits fun ds i t t' o ordered fits answered => ?_
  exact ordered.concat (c := ⟨t, i, t', o⟩) (step_moves answered fits fun r waits => (ordered.own r waits).1)

/-- A call returns only from a round, with the first message of the inbox. -/
theorem step_returns {reply : List Char} (answered : step i s = .ok (s', .returned reply)) :
    ∃ r message rest, s.waiting = some r ∧ s.inbox = message :: rest ∧ reply = message.take r.replyLen ∧ reply.head? ≠ some '<' := by
  unfold step at answered
  cases i with
  | request r sends =>
    cases waits : s.waiting with
    | some r' =>
      rw [waits] at answered
      cases answered
    | none =>
      rw [waits] at answered
      cases sends <;> cases answered
  | round selects receives =>
    cases waits : s.waiting with
    | none =>
      rw [waits] at answered
      cases answered
    | some r =>
      rw [waits] at answered
      have round : wpaCtrlRound r selects receives s = (s', .returned reply) := Except.ok.inj answered
      unfold wpaCtrlRound at round
      split at round
      · cases round
      · split at round
        · cases round
        · rename_i message rest here
          split at round
          · cases round
          · split at round
            · cases round
            · rename_i unasked
              cases round
              exact ⟨r, message, rest, rfl, here, rfl, unasked⟩
  | answers reply =>
    cases asked : s.asked with
    | nil =>
      rw [asked] at answered
      cases answered
    | cons cmd rest =>
      rw [asked] at answered
      cases answered
  | tells message => cases answered

/-- **Replies and their commands.** A call that returns a reply has sent its command as the last one, and the reply is what
the supplicant answered to a command that is as many places before it as calls gave up before: to its own exactly when
none did. -/
theorem replies_matched {before after : List (Call Input Connection Output)} {reply : List Char}
    (run : Run step .opened (before ++ c :: after) s) (fits : ∀ d ∈ before ++ c :: after, d.input.Fits)
    (returns : c.output = .returned reply) :
    ∃ r cmd answer, c.before.waiting = some r ∧ (commands before)[replied before + givenUp before]? = some r.cmd ∧
      (commands before).length = replied before + givenUp before + 1 ∧ (commands before)[replied before]? = some cmd ∧
        (answers before)[replied before]? = some (cmd, answer) ∧ reply = answer.take r.replyLen := by
  obtain ⟨t, first, rest⟩ := run.split
  obtain ⟨rfl, answered, -⟩ := rest.head
  have ordered := run_ordered first fun d member => fits d (List.mem_append_left _ member)
  rw [returns] at answered
  obtain ⟨r, message, inbox, waits, here, rfl, unasked⟩ := step_returns answered
  obtain ⟨room, last⟩ := ordered.own r waits
  have length : (commands before).length = replied before + givenUp before + 1 := by
    rw [ordered.counted, Connection.waits, waits]
    rfl
  -- the message is the first answer that was not read
  have next : ((answers before).map Prod.snd)[replied before]? = some message := by
    obtain ⟨read, count, all⟩ := ordered.pending
    rw [head?_take room] at unasked
    rw [all, ← count, List.getElem?_append_right le_rfl, Nat.sub_self, Connection.pending, here,
      List.filter_cons_of_pos (by simpa using unasked)]
    rfl
  rw [List.getElem?_map, Option.map_eq_some_iff] at next
  obtain ⟨⟨cmd, answer⟩, place, rfl⟩ := next
  refine ⟨r, cmd, answer, waits, ?_, length, ?_, place, rfl⟩
  · rw [List.getLast?_eq_getElem?, length] at last
    exact last
  · rw [ordered.asked, List.getElem?_append_left (by simpa using (List.getElem?_eq_some_iff.1 place).1), List.getElem?_map, place]
    rfl

/-- A scan is not answered in time, and the answer comes for the next command. -/
def late : List Input :=
  [.request ⟨"SCAN".toList, 4096⟩ true, .round true true, .request ⟨"DISCONNECT".toList, 4096⟩ true,
    .tells "<3>CTRL-EVENT-BSS-ADDED".toList, .answers "FAIL-BUSY".toList, .round true true, .round true true]

example : (exec step late .opened).map (fun r => r.1.map Call.output) =
    .ok [.sent, .failed (-2), .sent, .nothing, .answered "SCAN".toList, .skipped "<3>CTRL-EVENT-BSS-ADDED".toList,
      .returned "FAIL-BUSY".toList] := by rfl

theorem replies_matched_late :
    ∃ (before : List (Call Input Connection Output)) (c : Call Input Connection Output), (before ++ [c]).map Call.input = late ∧
      c.output = .returned "FAIL-BUSY".toList ∧
      ∃ r cmd answer, c.before.waiting = some r ∧ (commands before)[replied before + givenUp before]? = some r.cmd ∧
        (commands before).length = replied before + givenUp before + 1 ∧ (commands before)[replied before]? = some cmd ∧
          (answers before)[replied before]? = some (cmd, answer) ∧ "FAIL-BUSY".toList = answer.take r.replyLen := by
  obtain ⟨run, inputs⟩ := exec_run (rfl : exec step late .opened = .ok _)
  refine ⟨[_, _, _, _, _, _], _, inputs, rfl, replies_matched run (fun d member => ?_) rfl⟩
  have fits : ∀ i ∈ late, i.Fits := by
    simp [late, Input.Fits]
  exact fits _ (inputs ▸ List.mem_map_of_mem member)

end ArtikSdk.Wifi.Control
