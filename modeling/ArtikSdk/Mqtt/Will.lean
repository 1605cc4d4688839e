import ArtikSdk.Lib.Cells
import ArtikSdk.Lib.Run

/-!
# MQTT: the will

`mqtt_set_willmsg` and `mqtt_free_willmsg` of `mqtt_client.c`, and what `mqtt_create_client` hands to
`mosquitto_will_set`. Memory that `malloc` gives holds what the world has left there.
-/

namespace ArtikSdk.Mqtt
open Lib

/-- A string: its bytes before the final null. -/
structure CString where
  bytes : List UInt8
  noNull : ∀ b ∈ bytes, b ≠ 0

/-- `artik_mqtt_msg`; `none` is NULL. -/
structure Msg where
  topic : Option Nat
  payload : Option Nat
  payloadLen : Int
  qos : Int
  retain : Bool

inductive Block where
  | msg (m : Msg)
  | text (bytes : List UInt8)

/-- A will as it was set. -/
structure Will where
  topic : CString
  payload : CString
  qos : Int
  retain : Bool

/-- The `will_msg` of a configuration, and (not in the source) the will of the last call that succeeded. -/
structure WillState where
  heap : Cells Block
  willMsg : Option Nat
  latest : Option Will

/-- No will is set yet. -/
def WillState.init (heap : Cells Block) : WillState := ⟨heap, none, none⟩

/-- What is not allocated is freed or read, or a read goes on behind a block. -/
inductive WillFault where
  | dangling
  | behind
deriving DecidableEq

inductive WillCode where
  | success
  | noMem
  | param
deriving DecidableEq

/-- What the three allocations find: no memory, or what was there before. A copied string leaves one byte. -/
structure WillMemory where
  msg : Option Msg
  topic : Option UInt8
  payload : Option UInt8

def freeBlock (p : Option Nat) (h : Cells Block) : Except WillFault (Cells Block) :=
  match p with
  | none => .ok h
  | some b =>
    match h.free b with
    | none => .error .dangling
    | some h' => .ok h'

/-- `mqtt_free_willmsg`. -/
def mqttFreeWillmsg (s : WillState) : Except WillFault WillState :=
  match s.willMsg with
  | none => .ok s
  | some p =>
    match s.heap.cells p with
    | some (.msg m) => do
      let h ← freeBlock m.topic s.heap
      let h ← freeBlock m.payload h
      let h ← freeBlock (some p) h
      return { s with heap := h, willMsg := none }
    | _ => .error .dangling

/-- The arguments of a call; NULL is `none`. -/
structure WillArgs where
  willtopic : Option CString
  willmsg : Option CString
  qos : Int
  retain : Bool

/-- `strlen` in an `int`. -/
@[irreducible]
def intLength (text : CString) : Int := (text.bytes.length : Int).bmod (2 ^ 32)

/-- The three allocations, from the state in which no will is there. -/
def buildWill (will : Will) (memory : WillMemory) (s : WillState) : WillState × WillCode :=
  match memory.msg with
  | none => ({ s with willMsg := none }, .noMem)
  | some old =>
    let p := s.heap.next
    let h := s.heap.alloc (.msg old)
    match memory.topic with
    | none => ({ s with heap := h.store p (.msg { old with topic := none }), willMsg := some p }, .noMem)
    | some topicEnd =>
      let t := h.next
      let h := h.alloc (.text (will.topic.bytes ++ [topicEnd]))
      match memory.payload with
      | none => ({ s with heap := h.store p (.msg { old with topic := some t, payload := none }), willMsg := some p }, .noMem)
      | some payloadEnd =>
        let q := h.next
        let h := h.alloc (.text (will.payload.bytes ++ [payloadEnd]))
        let m : Msg := ⟨some t, some q, intLength will.payload, will.qos, will.retain⟩
        ({ heap := h.store p (.msg m), willMsg := some p, latest := some will }, .success)

/-- `config && willtopic && willmsg && qos <= 2 && qos >= 0` -/
def WillArgs.will (args : WillArgs) : Option Will :=
  match args.willtopic, args.willmsg with
  | some topic, some payload => if 0 ≤ args.qos ∧ args.qos ≤ 2 then some ⟨topic, payload, args.qos, args.retain⟩ else none
  | _, _ => none

def mqttSetWillmsg (args : WillArgs) (memory : WillMemory) (s : WillState) : Except WillFault (WillState × WillCode) :=
  match args.will with
  | none => .ok (s, .param)
  | some will => (mqttFreeWillmsg s).map (buildWill will memory)

/-- What `mosquitto_will_set` is given: the string at the topic, and as many bytes of the payload. -/
structure Handed where
  topic : Option (List UInt8)
  payload : Option (List UInt8)
  payloadLen : Int
  qos : Int
  retain : Bool
deriving DecidableEq

def readString (h : Cells Block) (p : Option Nat) : Except WillFault (Option (List UInt8)) :=
  match p with
  | none => .ok none
  | some b =>
    match h.cells b with
    | some (.text bytes) => if 0 ∈ bytes then .ok (some (bytes.takeWhile (· ≠ 0))) else .error .behind
    | _ => .error .dangling

def readBytes (h : Cells Block) (p : Option Nat) (len : Int) : Except WillFault (Option (List UInt8)) :=
  match p with
  | none => .ok none
  | some b =>
    match h.cells b with
    | some (.text bytes) => if len.toNat ≤ bytes.length then .ok (some (bytes.take len.toNat)) else .error .behind
    | _ => .error .dangling

/-- The part of `mqtt_create_client` about the will; there is none where `will_msg` is NULL. -/
def WillState.handed (s : WillState) : Except WillFault (Option Handed) :=
  match s.willMsg with
  | none => .ok none
  | some p =>
    match s.heap.cells p with
    | some (.msg m) => do
      let topic ← readString s.heap m.topic
      let payload ← readBytes s.heap m.payload m.payloadLen
      return some ⟨topic, payload, m.payloadLen, m.qos, m.retain⟩
    | _ => .error .dangling

abbrev WillInput := WillArgs × WillMemory

def willStep (e : WillInput) (s : WillState) : Except WillFault (WillState × WillCode) := mqttSetWillmsg e.1 e.2 s

/-! ## What is expected -/

def Will.handed (w : Will) : Handed := ⟨some w.topic.bytes, some w.payload.bytes, w.payload.bytes.length, w.qos, w.retain⟩

/-- A client that is created now is given the will of the last call that succeeded. -/
def WillState.Right (s : WillState) : Prop := s.handed = .ok (s.latest.map Will.handed)

/-- A call with good arguments finds memory for all three, a null behind the topic, and an `int` that holds the length; or
no memory at all where there was no will. -/
def WillFits (e : WillInput) (s : WillState) : Prop :=
  ∀ will, e.1.will = some will →
    match e.2.msg with
    | none => s.willMsg = none
    | some _ => e.2.topic = some 0 ∧ e.2.payload.isSome = true ∧ will.payload.bytes.length < 2 ^ 31

variable {s s' : WillState} {will : Will}

/-- The will that is set is the latest, in three blocks of its own. -/
inductive Formed (s : WillState) : Prop where
  | unset (absent : s.willMsg = none) (latest : s.latest = none)
  | held {p t q : Nat} {will : Will} {payloadEnd : UInt8} (present : s.willMsg = some p)
      (msg : s.heap.cells p = some (.msg ⟨some t, some q, will.payload.bytes.length, will.qos, will.retain⟩))
      (topic : s.heap.cells t = some (.text (will.topic.bytes ++ [0])))
      (payload : s.heap.cells q = some (.text (will.payload.bytes ++ [payloadEnd])))
      (apart : t ≠ q) (latest : s.latest = some will)

/-! ## The old will -/

theorem freeBlock_live {h : Cells Block} {b : Nat} {x : Block} (live : h.cells b = some x) :
    ∃ h', freeBlock (some b) h = .ok h' ∧ ∀ c, c ≠ b → h'.cells c = h.cells c := by
  have owned : h.Owned [b] := ⟨List.nodup_singleton b, fun c member => by rw [List.mem_singleton.1 member, live]; rfl⟩
  obtain ⟨h', freed, -, frame, -⟩ := owned.free
  exact ⟨h', by rw [freeBlock, freed], frame⟩

theorem free_works (formed : Formed s) : ∃ h, mqttFreeWillmsg s = .ok { s with heap := h, willMsg := none } := by
  cases formed with
  | unset absent latest =>
    refine ⟨s.heap, ?_⟩
    rw [mqttFreeWillmsg, absent]
    obtain ⟨heap, willMsg, latest⟩ := s
    cases absent
    rfl
  | @held p t q will payloadEnd present msg topic payload apart latest =>
    have other : p ≠ t := by
      rintro rfl
      rw [msg] at topic
      cases topic
    have other' : p ≠ q := by
      rintro rfl
      rw [msg] at payload
      cases payload
    obtain ⟨h₁, first, frame₁⟩ := freeBlock_live topic
    obtain ⟨h₂, second, frame₂⟩ := freeBlock_live ((frame₁ q apart.symm).trans payload)
    obtain ⟨h₃, third, -⟩ := freeBlock_live ((frame₂ p other').trans ((frame₁ p other).trans msg))
    refine ⟨h₃, ?_⟩
    rw [mqttFreeWillmsg, present]
    dsimp only
    rw [msg]
    dsimp only
    rw [first]
    dsimp only [bind, Except.bind]
    rw [second]
    dsimp only
    rw [third]
    rfl

/-! ## The new will -/

theorem CString.null_not_mem (text : CString) : 0 ∉ text.bytes := fun member => text.noNull 0 member rfl

/-- A copy of a string that ends in this byte is read as the string if the byte is null. -/
theorem readString_copy {h : Cells Block} {t : Nat} {text : CString} {e : UInt8} (copied : h.cells t = some (.text (text.bytes ++ [e]))) :
    readString h (some t) = if e = 0 then .ok (some text.bytes) else .error .behind := by
  rw [readString, copied]
  dsimp only
  by_cases null : e = 0
  · rw [if_pos null, if_pos (by rw [null]; exact List.mem_append_right _ (List.mem_singleton_self _)), null,
      List.takeWhile_append_of_pos fun b member => decide_eq_true (text.noNull b member)]
    simp
  · rw [if_neg null, if_neg]
    intro member
    obtain inText | atEnd := List.mem_append.1 member
    · exact text.null_not_mem inText
    · exact null (List.mem_singleton.1 atEnd).symm

theorem readBytes_copy {h : Cells Block} {q : Nat} {text : CString} {e : UInt8} (copied : h.cells q = some (.text (text.bytes ++ [e]))) :
    readBytes h (some q) text.bytes.length = .ok (some text.bytes) := by
  rw [readBytes, copied]
  dsimp only
  rw [Int.toNat_natCast, if_pos (by rw [List.length_append]; omega), List.take_left]

theorem intLength_iff (text : CString) : intLength text = text.bytes.length ↔ text.bytes.length < 2 ^ 31 := by
  unfold intLength
  rw [Int.bmod_def]
  split <;> omega

theorem Formed.right (formed : Formed s) : s.Right := by
  cases formed with
  | unset absent latest =>
    rw [WillState.Right, WillState.handed, absent, latest]
    rfl
  | held present msg topic payload apart latest =>
    rw [WillState.Right, WillState.handed, present, latest]
    dsimp only
    rw [msg]
    dsimp only
    rw [readString_copy topic, if_pos rfl, readBytes_copy payload]
    rfl

/-- What is handed over is read through the message. -/
theorem Right.reads {p : Nat} {m : Msg} (right : s.Right) (present : s.willMsg = some p) (msg : s.heap.cells p = some (.msg m)) :
    ∃ w, s.latest = some w ∧ readString s.heap m.topic = .ok (some w.topic.bytes) ∧
      readBytes s.heap m.payload m.payloadLen = .ok (some w.payload.bytes) ∧ m.payloadLen = w.payload.bytes.length := by
  rw [WillState.Right, WillState.handed, present] at right
  dsimp only at right
  rw [msg] at right
  obtain ⟨topic, first, right⟩ := bind_ok_iff.1 right
  obtain ⟨payload, second, right⟩ := bind_ok_iff.1 right
  cases latest : s.latest with
  | none =>
    rw [latest] at right
    cases right
  | some w =>
    rw [latest] at right
    obtain ⟨rfl, rfl, length, -⟩ := Handed.mk.inj (Option.some.inj (Except.ok.inj right))
    exact ⟨w, rfl, first, second, length⟩

/-- Three allocations, and a store into the first block. -/
theorem copies_apart (h : Cells Block) (old m x y : Block) :
    ((((h.alloc old).alloc x).alloc y).store h.next m).cells h.next = some m ∧
    ((((h.alloc old).alloc x).alloc y).store h.next m).cells (h.next + 1) = some x ∧
    ((((h.alloc old).alloc x).alloc y).store h.next m).cells (h.next + 2) = some y := by
  have first : (((h.alloc old).alloc x).alloc y).cells h.next = some old := by
    rw [Cells.alloc_other y (show h.next ≠ h.next + 1 + 1 by omega), Cells.alloc_other x (show h.next ≠ h.next + 1 by omega),
      Cells.alloc_self]
  refine ⟨Cells.store_self first m, ?_, ?_⟩
  · rw [Cells.store_other m (by omega), Cells.alloc_other y (show h.next + 1 ≠ h.next + 1 + 1 by omega)]
    exact Cells.alloc_self x (h.alloc old)
  · rw [Cells.store_other m (by omega)]
    exact Cells.alloc_self y ((h.alloc old).alloc x)

/-- A will whose strings were copied into blocks of their own is right as far as the terminator and the length are. -/
theorem built_right {h : Cells Block} {p t q : Nat} {topicEnd payloadEnd : UInt8}
    (msg : h.cells p = some (.msg ⟨some t, some q, intLength will.payload, will.qos, will.retain⟩))
    (topic : h.cells t = some (.text (will.topic.bytes ++ [topicEnd])))
    (payload : h.cells q = some (.text (will.payload.bytes ++ [payloadEnd]))) (apart : t ≠ q) :
    (⟨h, some p, some will⟩ : WillState).Right ↔ topicEnd = 0 ∧ will.payload.bytes.length < 2 ^ 31 := by
  constructor
  · intro right
    obtain ⟨w, latest, first, -, length⟩ := Right.reads right rfl msg
    cases latest
    dsimp only at length
    rw [readString_copy topic] at first
    split at first
    · rename_i null
      exact ⟨null, (intLength_iff will.payload).1 length⟩
    · cases first
  · rintro ⟨rfl, short⟩
    have length : intLength will.payload = will.payload.bytes.length := (intLength_iff will.payload).2 short
    rw [length] at msg
    exact (Formed.held rfl msg topic payload apart rfl).right

theorem buildWill_right (memory : WillMemory) (will : Will) (s : WillState) :
    (buildWill will memory s).1.Right ↔
      match memory.msg with
      | none => s.latest = none
      | some _ => memory.topic = some 0 ∧ memory.payload.isSome = true ∧ will.payload.bytes.length < 2 ^ 31 := by
  obtain ⟨msg, topic, payload⟩ := memory
  cases msg with
  | none =>
    rw [buildWill]
    dsimp only
    rw [WillState.Right, WillState.handed]
    cases s.latest with
    | none => exact iff_of_true rfl rfl
    | some w => exact iff_of_false (fun same => by cases same) (fun same => by cases same)
  | some old =>
    have placed := Cells.alloc_self (.msg old) s.heap
    cases topic with
    | none =>
      -- the topic of the half-built will is NULL
      refine iff_of_false (fun right => ?_) (fun fits => by cases fits.1)
      obtain ⟨w, -, first, -⟩ := Right.reads right rfl (Cells.store_self placed _)
      cases first
    | some topicEnd =>
      have kept : ((s.heap.alloc (.msg old)).alloc (.text (will.topic.bytes ++ [topicEnd]))).cells s.heap.next = some (.msg old) :=
        (Cells.alloc_other _ (show s.heap.next ≠ s.heap.next + 1 by omega)).trans placed
      cases payload with
      | none =>
        refine iff_of_false (fun right => ?_) (fun fits => by cases fits.2.1)
        obtain ⟨w, -, -, second, -⟩ := Right.reads right rfl (Cells.store_self kept _)
        cases second
      | some payloadEnd =>
        obtain ⟨msgAt, topicAt, payloadAt⟩ := copies_apart s.heap (.msg old)
          (.msg ⟨some (s.heap.next + 1), some (s.heap.next + 2), intLength will.payload, will.qos, will.retain⟩)
          (.text (will.topic.bytes ++ [topicEnd])) (.text (will.payload.bytes ++ [payloadEnd]))
        refine (built_right msgAt topicAt payloadAt (show s.heap.next + 1 ≠ s.heap.next + 2 by omega)).trans ?_
        rw [Option.some_inj, and_iff_right (show (some payloadEnd).isSome = true from rfl)]

/-- What is built right is formed. -/
theorem buildWill_formed {memory : WillMemory} (right : (buildWill will memory s).1.Right) :
    Formed (buildWill will memory s).1 := by
  have fits := (buildWill_right memory will s).1 right
  obtain ⟨msg, topic, payload⟩ := memory
  cases msg with
  | none => exact .unset rfl fits
  | some old =>
    obtain ⟨rfl, payloadThere, short⟩ := fits
    cases payload with
    | none => cases payloadThere
    | some payloadEnd =>
      obtain ⟨msgAt, topicAt, payloadAt⟩ := copies_apart s.heap (.msg old)
        (.msg ⟨some (s.heap.next + 1), some (s.heap.next + 2), will.payload.bytes.length, will.qos, will.retain⟩)
        (.text (will.topic.bytes ++ [0])) (.text (will.payload.bytes ++ [payloadEnd]))
      rw [buildWill]
      dsimp only
      rw [(intLength_iff will.payload).2 short]
      exact .held rfl msgAt topicAt payloadAt (show s.heap.next + 1 ≠ s.heap.next + 2 by omega) rfl

theorem Formed.latest_iff (formed : Formed s) : s.latest = none ↔ s.willMsg = none := by
  cases formed with
  | unset absent latest => exact iff_of_true latest absent
  | held present _ _ _ _ latest =>
    rw [present, latest]
    exact iff_of_false (Option.some_ne_none _) (Option.some_ne_none _)

/-- A call from a will that is formed returns. -/
theorem set_returns (formed : Formed s) (e : WillInput) :
    ∃ s' code, willStep e s = .ok (s', code) ∧ (s'.Right ↔ WillFits e s) ∧ (s'.Right → Formed s') := by
  obtain ⟨args, memory⟩ := e
  unfold willStep mqttSetWillmsg WillFits
  dsimp only
  cases given : args.will with
  | none => exact ⟨s, .param, rfl, iff_of_true formed.right (fun will same => by cases same), fun _ => formed⟩
  | some will =>
    obtain ⟨h, freed⟩ := free_works formed
    have built := buildWill_right memory will { s with heap := h, willMsg := none }
    refine ⟨_, _, by rw [freed]; rfl, built.trans ?_, buildWill_formed⟩
    dsimp only
    rw [formed.latest_iff]
    constructor
    · intro fits will' same
      cases same
      exact fits
    · intro fits
      exact fits will rfl

/-- **The will.** Whatever calls are made, with whatever memory, a client is given the will of the last call that
succeeded, behind every one of them, exactly when each call fits. -/
theorem will_iff (heap : Cells Block) (inputs : List WillInput) :
    (∃ calls s, exec willStep inputs (.init heap) = .ok (calls, s) ∧ ∀ c ∈ calls, c.after.Right) ↔
      Along WillFits willStep inputs (.init heap) := by
  refine exec_along_iff (I := Formed) (P := fun c => c.after.Right) (fun e s formed => ?_) (fun e s s' o formed fits answered => ?_)
    (.unset rfl rfl)
  · obtain ⟨t, code, returned, right, -⟩ := set_returns formed e
    rw [← right]
    constructor
    · rintro ⟨s', o, answered, holds⟩
      rw [returned] at answered
      cases answered
      exact holds
    · intro holds
      exact ⟨t, code, returned, holds⟩
  · obtain ⟨t, code, returned, right, forms⟩ := set_returns formed e
    rw [returned] at answered
    cases answered
    exact forms (right.2 fits)

/-- `a` and `b`. -/
def aTopic : CString := ⟨[97], List.forall_mem_singleton.2 (by decide)⟩
def bTopic : CString := ⟨[98], List.forall_mem_singleton.2 (by decide)⟩

def given (text : CString) : WillArgs := ⟨some text, some text, 0, false⟩

/-- Memory with zeros, and memory where something else was. -/
def zeros : WillMemory := ⟨some ⟨none, none, 0, 0, false⟩, some 0, some 0⟩
def stale : WillMemory := ⟨some ⟨none, none, 0, 0, false⟩, some 65, some 0⟩
def noMemory : WillMemory := ⟨none, none, none⟩

/-- A topic is copied without its terminator; where there is no memory for a new will, the old one is gone. -/
theorem will_lost :
    (¬ ∃ calls s, exec willStep [(given aTopic, stale)] (.init .empty) = .ok (calls, s) ∧ ∀ c ∈ calls, c.after.Right) ∧
    ¬ ∃ calls s, exec willStep [(given aTopic, zeros), (given bTopic, noMemory)] (.init .empty) = .ok (calls, s) ∧
      ∀ c ∈ calls, c.after.Right := by
  constructor
  · rintro ⟨calls, s, done, right⟩
    cases done
    cases right _ (List.mem_singleton_self _)
  · rintro ⟨calls, s, done, right⟩
    cases done
    cases right _ (List.mem_cons_of_mem _ (List.mem_singleton_self _))

end ArtikSdk.Mqtt
