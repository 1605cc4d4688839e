import ArtikSdk.Lib.Run

/-!
# Bytes that a websocket receives on Tinyara

`websocket_recv_cb` of `tinyara_websocket.c` reads again where `mbedtls_ssl_read` fails, and where `recv` does
not. What the socket returns is chosen by the world, and so is the `errno` that is found: a `recv` that succeeds
leaves the one of before.
-/

namespace ArtikSdk.Websocket.Tinyara
open Lib

def eagain : Int := 11
def ebusy : Int := 16

/-- What `recv` or `mbedtls_ssl_read` returns, with room for `len` bytes, and the `errno` behind it. -/
structure Reading (len : Nat) where
  ret : Int
  data : List UInt8
  errno : Int
  length : data.length = ret.toNat
  fits : ret ≤ len

/-- What the socket returns, one after the other. -/
abbrev Readings := Nat → (len : Nat) → Reading len

/-- How many readings were taken, and whether `websocket_set_error` was called. -/
structure Socket where
  taken : Nat
  error : Bool

/-- The return value and the buffer. `received` is not in the source: all bytes that were read. -/
structure Received where
  ret : Int
  buf : List UInt8
  received : List UInt8

/-- A reading into the buffer. -/
def Received.read {len : Nat} (r : Reading len) (o : Received) : Received :=
  ⟨r.ret, r.data ++ o.buf.drop r.data.length, o.received ++ r.data⟩

/-- Where the source comes to its `retry_cnt`. -/
def retries (tls : Bool) {len : Nat} (r : Reading len) : Bool :=
  if tls then r.ret < 0 else 0 < r.ret && (r.errno = eagain || r.errno = ebusy)

def recvLoop (tls : Bool) (readings : Readings) (len : Nat) : Nat → Socket → Received → Socket × Received
  | retryCnt, s, o =>
    let r := readings s.taken len
    let o := o.read r
    if r.ret = 0 then (⟨s.taken + 1, true⟩, o)
    else if retries tls r then
      match retryCnt with
      | 0 => (⟨s.taken + 1, true⟩, o)
      | retryCnt + 1 => recvLoop tls readings len retryCnt ⟨s.taken + 1, s.error⟩ o
    else (⟨s.taken + 1, s.error⟩, o)

/-- The buffer of a call. -/
structure Buffer where
  len : Nat
  buf : List UInt8
  size : buf.length = len

def websocketRecvCb (tls : Bool) (readings : Readings) (b : Buffer) (s : Socket) : Socket × Received :=
  recvLoop tls readings b.len 3 s ⟨0, b.buf, []⟩

def step (tls : Bool) (readings : Readings) (b : Buffer) (s : Socket) : Except Empty (Socket × Received) :=
  .ok (websocketRecvCb tls readings b s)

abbrev Event := Call Buffer Socket Received

/-! ## What is expected -/

/-- The bytes that the caller is given. -/
def Received.handed (o : Received) : List UInt8 := o.buf.take o.ret.toNat

/-- Every byte that was read is handed over once and in order. -/
def Complete (calls : List Event) : Prop := calls.flatMap (fun c => c.output.handed) = calls.flatMap fun c => c.output.received

/-- A successful `recv` finds the `errno` of an earlier call that would have blocked. -/
def Stale {len : Nat} (r : Reading len) : Prop := 0 < r.ret ∧ (r.errno = eagain ∨ r.errno = ebusy)

variable {tls : Bool} {readings : Readings} {s s' : Socket} {o : Received} {len : Nat} {calls : List Event}

/-! ## A call -/

theorem Reading.data_nil {r : Reading len} : r.data = [] ↔ r.ret ≤ 0 := by
  rw [← List.length_eq_zero_iff, r.length]
  omega

theorem read_handed (r : Reading len) (o : Received) : (o.read r).handed = r.data := by
  rw [Received.handed, Received.read, ← r.length]
  exact List.take_left' rfl

theorem retries_plain {r : Reading len} : retries false r = true ↔ Stale r := by
  rw [retries, if_neg (by decide), Bool.and_eq_true, decide_eq_true_eq, Bool.or_eq_true, decide_eq_true_eq, decide_eq_true_eq]
  rfl

theorem retries_tls {r : Reading len} : retries true r = true ↔ r.ret < 0 := by
  rw [retries, if_pos rfl, decide_eq_true_eq]

/-- What was read before the last reading is lost. -/
theorem recvLoop_received (tls : Bool) (readings : Readings) (len : Nat) (retryCnt : Nat) (s : Socket) (o : Received) :
    ∃ lost, (recvLoop tls readings len retryCnt s o).2.received =
        o.received ++ (lost ++ (recvLoop tls readings len retryCnt s o).2.handed) ∧
      (lost = [] ↔ tls = true ∨ retryCnt = 0 ∨ ¬ Stale (readings s.taken len)) := by
  induction retryCnt generalizing s o with
  | zero =>
    refine ⟨[], ?_, iff_of_true rfl (.inr (.inl rfl))⟩
    rw [recvLoop, List.nil_append]
    split
    · rw [read_handed]
      rfl
    · split <;> rw [read_handed] <;> rfl
  | succ retryCnt ih =>
    rw [recvLoop]
    by_cases closed : (readings s.taken len).ret = 0
    · rw [if_pos closed]
      refine ⟨[], by rw [read_handed]; rfl, iff_of_true rfl (.inr (.inr fun stale => ?_))⟩
      have positive := stale.1
      omega
    · rw [if_neg closed]
      by_cases again : retries tls (readings s.taken len) = true
      · rw [if_pos again]
        obtain ⟨lost, received, nothing⟩ := ih ⟨s.taken + 1, s.error⟩ (o.read (readings s.taken len))
        refine ⟨(readings s.taken len).data ++ lost, ?_, ?_⟩
        · rw [received, Received.read]
          simp only [List.append_assoc]
        · rw [List.append_eq_nil_iff, Reading.data_nil]
          cases tls with
          | true =>
            have failed := retries_tls.1 again
            exact iff_of_true ⟨by omega, nothing.2 (.inl rfl)⟩ (.inl rfl)
          | false =>
            have stale := retries_plain.1 again
            refine iff_of_false (fun both => ?_) ?_
            · have positive := stale.1
              omega
            · rintro (tls | never | fresh)
              · cases tls
              · cases never
              · exact fresh stale
      · rw [if_neg again]
        refine ⟨[], by rw [read_handed]; rfl, iff_of_true rfl ?_⟩
        cases tls with
        | true => exact .inl rfl
        | false => exact .inr (.inr fun stale => again (retries_plain.2 stale))

/-- A call that starts with an `errno` of before loses what it has read. -/
theorem websocketRecvCb_received (tls : Bool) (readings : Readings) (b : Buffer) (s : Socket) :
    ∃ lost, (websocketRecvCb tls readings b s).2.received = lost ++ (websocketRecvCb tls readings b s).2.handed ∧
      (lost = [] ↔ tls = true ∨ ¬ Stale (readings s.taken b.len)) := by
  obtain ⟨lost, received, nothing⟩ := recvLoop_received tls readings b.len 3 s ⟨0, b.buf, []⟩
  refine ⟨lost, received, nothing.trans ?_⟩
  rw [or_iff_right (show ¬ 3 = 0 by decide)]

/-! ## Runs -/

/-- Where every part of one list is a part of the other behind something lost, the lists are the same if nothing was lost. -/
theorem flatMap_eq_iff {α β : Type} {f g : α → List β} {P : α → Prop} {xs : List α}
    (parts : ∀ x ∈ xs, ∃ lost, f x = lost ++ g x ∧ (lost = [] ↔ P x)) :
    (xs.flatMap g).length ≤ (xs.flatMap f).length ∧ (xs.flatMap g = xs.flatMap f ↔ ∀ x ∈ xs, P x) := by
  induction xs with
  | nil => exact ⟨le_rfl, fun _ x member => (by cases member), fun _ => rfl⟩
  | cons x xs ih =>
    obtain ⟨first, rest⟩ := List.forall_mem_cons.1 parts
    obtain ⟨lost, part, nothing⟩ := first
    obtain ⟨le, ih⟩ := ih rest
    rw [List.flatMap_cons, List.flatMap_cons, part, List.forall_mem_cons, ← ih, ← nothing]
    simp only [List.length_append]
    refine ⟨by omega, fun same => ?_, ?_⟩
    · have lengths := congrArg List.length same
      simp only [List.length_append] at lengths
      have empty : lost = [] := List.eq_nil_of_length_eq_zero (by omega)
      rw [empty, List.nil_append] at same
      exact ⟨empty, List.append_cancel_left same⟩
    · rintro ⟨rfl, same⟩
      rw [List.nil_append, same]

/-- **Bytes received.** A run hands over every byte that was read exactly when the socket is one of TLS, or no call
begins with a successful `recv` that finds an old `errno`. -/
theorem handedOver_iff (run : Run (step tls readings) s calls s') :
    Complete calls ↔ tls = true ∨ ∀ c ∈ calls, ¬ Stale (readings c.before.taken c.input.len) := by
  have each : (tls = true ∨ ∀ c ∈ calls, ¬ Stale (readings c.before.taken c.input.len)) ↔
      ∀ c ∈ calls, tls = true ∨ ¬ Stale (readings c.before.taken c.input.len) := by
    simp only [forall_or_left]
  rw [each]
  refine (flatMap_eq_iff fun c member => ?_).2
  have answered := (run.invariant_before (I := fun _ => True) trivial (fun _ _ _ _ _ _ => trivial) member).2
  obtain ⟨lost, received, nothing⟩ := websocketRecvCb_received tls readings c.input c.before
  have result : websocketRecvCb tls readings c.input c.before = (c.after, c.output) := Except.ok.inj answered
  rw [result] at received
  exact ⟨lost, received, nothing⟩

/-- One byte for each reading, with this `errno` behind it. -/
def oneByte (errno : Int) : Readings := fun n len =>
  ⟨min 1 len, List.replicate (min 1 len) (UInt8.ofNat n), errno, by rw [List.length_replicate]; omega, by omega⟩

def room : Buffer := ⟨1, [0], rfl⟩

theorem fresh_complete : ∃ calls s, Run (step false (oneByte 0)) ⟨0, false⟩ calls s ∧ calls.map Call.input = [room, room] ∧
    Complete calls := by
  obtain ⟨calls, s, done, fresh⟩ : ∃ calls s, exec (step false (oneByte 0)) [room, room] ⟨0, false⟩ = .ok (calls, s) ∧
      ∀ c ∈ calls, ¬ Stale (oneByte 0 c.before.taken c.input.len) := by
    refine ⟨_, _, rfl, fun c member stale => ?_⟩
    exact absurd stale.2 (show ¬ ((0 : Int) = eagain ∨ (0 : Int) = ebusy) by decide)
  obtain ⟨run, inputs⟩ := exec_run done
  exact ⟨calls, s, run, inputs, (handedOver_iff run).2 (.inr fresh)⟩

/-- Three of four bytes are lost. -/
theorem stale_not_complete : ∃ calls s, Run (step false (oneByte eagain)) ⟨0, false⟩ calls s ∧ calls.map Call.input = [room] ∧
    ¬ Complete calls := by
  obtain ⟨calls, s, done, lost⟩ : ∃ calls s, exec (step false (oneByte eagain)) [room] ⟨0, false⟩ = .ok (calls, s) ∧
      ¬ Complete calls :=
    ⟨_, _, rfl, fun complete => absurd complete (by unfold Complete; decide)⟩
  obtain ⟨run, inputs⟩ := exec_run done
  exact ⟨calls, s, run, inputs, lost⟩

end ArtikSdk.Websocket.Tinyara
