import ArtikSdk.Bluetooth.Gatt.Calls

/-!
# GATT server: what each event does

When an event crashes or loses a buffer, when it replies as it should, and what it makes of the
ledger. Every run of the server follows from these.
-/

namespace ArtikSdk.Bluetooth.Gatt
open Lib

/-- The attribute at a path. -/
def Hci.target (path : Path) (s : Hci) : Option Attribute :=
  match path with
  | .service _ => none
  | .characteristic .. => (findChrListByPath path s).map (·.toAttribute)
  | .descriptor .. => findDescList path s

/-- The attribute that a method call reaches. -/
def Hci.called (path : Path) (method : Method) (s : Hci) : Option Attribute := if s.dispatches path method then s.target path else none

/-- The pointer of a request is not to a removed attribute. -/
def Hci.Live (r : BtGattReqHandle) (s : Hci) : Prop := ∃ o a, r.chr.or r.desc = some o ∧ s.attribute o = some a

/-- Everything in the answer to GetManagedObjects has a UUID. -/
def BtGattService.Named (svc : BtGattService) : Prop := svc.serviceUuid ≠ none ∧ ∀ a ∈ svc.attributes, a.uuid ≠ none

/-- An event that does not crash: nothing is looked up behind a list, GetManagedObjects is for a
position in the list, and an answer is for a request that is open, whose attribute is still there
where it takes a value. -/
def Event.Crashless (e : Event) (s : Hci) : Prop :=
  match e with
  | .server c => c.Crashless s
  | .notify serviceId _ bytes => bytes = [] ∨ serviceId ≠ s.gattServices.length
  | .methodCall path method =>
    s.dispatches path method = true → ∀ serv, path = .service serv → ∃ svc, s.gattServices[serv]? = some svc ∧ svc.Named
  | .reqSetValue k _ => ∃ r, s.request k = some r ∧ (r.type = .read → s.Live r)
  | .reqSetResult k state _ => ∃ r, s.request k = some r ∧ (r.type = .write → state = .ok → s.Live r)

/-- An event that does not lose a buffer. -/
def Event.Frees (e : Event) (s : Hci) : Prop :=
  match e with
  | .server c => c.Frees s
  | _ => True

/-- What is accepted and asked. -/
def Event.enter (e : Event) (result : ArtikError) (s : Hci) (l : Ledger) : Ledger :=
  match e with
  | .server c => c.enter result s.objects l
  | .notify serviceId charId bytes =>
    match findChrListById serviceId charId s with
    | .ok (some chr) => if result = .ok then l.accept chr.objectId bytes else l
    | _ => l
  | .methodCall path .readValue =>
    match s.called path .readValue with
    | none => l
    | some a => if a.readCallback then l.ask s.invocations a.objectId [] else l
  | .methodCall path (.writeValue value) =>
    match s.called path (.writeValue value) with
    | none => l
    | some a =>
      let l := l.ask s.invocations a.objectId value
      if a.writeCallback then l else l.accept a.objectId value
  | .methodCall .. => l
  | .reqSetValue k value => if result = .ok then l.accept (l.asked k).1 value else l
  | .reqSetResult k state _ => if result = .ok ∧ state = .ok then l.accept (l.asked k).1 (l.asked k).2 else l

/-! ## Replies -/

/-- 1 for an invocation whose request is done, 0 for one that is open or to come. -/
def Hci.settled (k : Nat) (s : Hci) : Nat := if k < s.invocations ∧ s.request k = none then 1 else 0

def repliesTo (k : Nat) (o : Output) : Nat := o.replies.countP fun reply => reply.1 = k

/-- The invocation that an event answers. -/
def Event.answers : Event → Option Nat
  | .reqSetValue k _ | .reqSetResult k .. => some k
  | _ => none

/-- With an event as many replies are sent to an invocation as requests of it are done, and one to
the invocation that it answers. -/
structure Replies (c : Call Event Hci Output) : Prop where
  settled : ∀ k, c.before.settled k + repliesTo k c.output = c.after.settled k
  answered : ∀ k, c.input.answers = some k → repliesTo k c.output = 1

/-- An event that replies as it should: of the methods of an attribute that is there only the
reading and writing ones do, of one that is not only those without a value; a read is answered
with a value or an error, a write with success or an error, and an error has a message. -/
def Event.Fits (e : Event) (s : Hci) : Prop :=
  match e with
  | .server _ | .notify .. => True
  | .methodCall path method =>
    s.dispatches path method = true → (∀ serv, path ≠ .service serv) →
      match s.target path with
      | none => returnNull method ≠ []
      | some _ => method = .readValue ∨ ∃ value, method = .writeValue value
  | .reqSetValue k _ => ∀ r, s.request k = some r → r.type = .read
  | .reqSetResult k state errMsg =>
    ∀ r, s.request k = some r →
      match state with
      | .ok => r.type = .write
      | .invalidValueLength => r.type = .write ∧ errMsg ≠ none
      | .other => False
      | _ => errMsg ≠ none

/-- What an event does. -/
structure Does (e : Event) (s : Hci) (l : Ledger) (s' : Hci) (o : Output) : Prop where
  tied : s'.Tied (e.enter o.result s l)
  frees : s.NoLeak → (s'.NoLeak ↔ e.Frees s)
  replies : Replies ⟨s, e, s', o⟩ ↔ e.Fits s

variable {s s' : Hci} {l : Ledger} {a : Attribute} {r : BtGattReqHandle} {e : Event} {o : Output} {k : Nat}

theorem request_none : s.request k = none ↔ ∀ r ∈ s.requests, r.invocation ≠ k := by
  rw [Hci.request, List.find?_eq_none]
  simp

theorem request_congr (same : s'.requests.Perm s.requests) (k : Nat) : s'.request k = none ↔ s.request k = none := by
  rw [request_none, request_none]
  exact ⟨fun none r member => none r (same.mem_iff.2 member), fun none r member => none r (same.mem_iff.1 member)⟩

theorem request_begun (tied : s.Tied l) (found : s.request k = some r) : k < s.invocations := by
  have here := (tied.handle found).1
  have := tied.begun r (List.mem_of_find?_eq_some found)
  omega

theorem request_new (tied : s.Tied l) : s.request s.invocations = none := by
  by_contra found
  obtain ⟨r, found⟩ := Option.ne_none_iff_exists'.1 found
  exact absurd (request_begun tied found) (Nat.lt_irrefl _)

theorem settled_new (s : Hci) : s.settled s.invocations = 0 := if_neg fun bound => absurd bound.1 (Nat.lt_irrefl _)

theorem repliesTo_map (k j : Nat) (result : ArtikError) (replies : List Reply) :
    repliesTo k ⟨result, replies.map fun reply => (j, reply)⟩ = if k = j then replies.length else 0 := by
  rw [repliesTo, List.countP_map]
  by_cases here : k = j
  · rw [if_pos here, List.countP_eq_length.2]
    intro reply _
    simp [here]
  · rw [if_neg here, List.countP_eq_zero.2]
    intro reply _
    simpa using Ne.symm here

/-- Nothing is sent and no request changes. -/
theorem replies_quiet (requests : s'.requests = s.requests) (invocations : s'.invocations = s.invocations) (result : ArtikError) :
    Replies ⟨s, e, s', ⟨result, []⟩⟩ ↔ e.answers = none := by
  constructor
  · intro replies
    by_contra answers
    obtain ⟨k, answers⟩ := Option.ne_none_iff_exists'.1 answers
    have one := replies.answered k answers
    cases one
  · intro none
    refine ⟨fun k => ?_, fun k answers => ?_⟩
    · change s.settled k + 0 = s'.settled k
      rw [Hci.settled, Hci.settled, invocations, Nat.add_zero]
      exact if_congr (and_congr_right fun _ => (request_congr (.of_eq requests) k).symm) rfl rfl
    · rw [none] at answers
      cases answers

/-- A new invocation is done at once. -/
theorem replies_direct (tied : s.Tied l) (requests : s'.requests.Perm s.requests) (invocations : s'.invocations = s.invocations + 1)
    (event : e.answers = none) (result : ArtikError) (replies : List Reply) :
    Replies ⟨s, e, s', ⟨result, replies.map fun reply => (s.invocations, reply)⟩⟩ ↔ replies.length = 1 := by
  have after : s'.settled s.invocations = 1 :=
    if_pos ⟨by omega, (request_congr requests _).2 (request_new tied)⟩
  constructor
  · intro replies
    have total := replies.settled s.invocations
    dsimp only at total
    rw [repliesTo_map, if_pos rfl, settled_new, after] at total
    omega
  · intro one
    refine ⟨fun k => ?_, fun k answers => ?_⟩
    · dsimp only
      rw [repliesTo_map, one]
      by_cases here : k = s.invocations
      · rw [here, if_pos rfl, settled_new, after]
      · rw [if_neg here, Nat.add_zero, Hci.settled, Hci.settled, invocations]
        refine if_congr (and_congr ?_ (request_congr requests k).symm) rfl rfl
        omega
    · rw [event] at answers
      cases answers

/-- A new invocation is handed to the application. -/
theorem replies_open (invocation : r.invocation = s.invocations) (requests : s'.requests.Perm (r :: s.requests))
    (invocations : s'.invocations = s.invocations + 1) (event : e.answers = none) (result : ArtikError) :
    Replies ⟨s, e, s', ⟨result, []⟩⟩ := by
  refine ⟨fun k => ?_, fun k answers => ?_⟩
  · change s.settled k + 0 = s'.settled k
    by_cases here : k = s.invocations
    · rw [here, settled_new, Hci.settled, if_neg]
      rintro ⟨-, none⟩
      exact request_none.1 none r (requests.mem_iff.2 (List.mem_cons_self ..)) invocation
    · rw [Hci.settled, Hci.settled, invocations, Nat.add_zero]
      refine if_congr (and_congr (by omega) ?_) rfl rfl
      rw [request_none, request_none]
      constructor
      · intro none q member
        rcases List.mem_cons.1 (requests.mem_iff.1 member) with rfl | member
        · omega
        · exact none q member
      · exact fun none q member => none q (requests.mem_iff.2 (List.mem_cons_of_mem _ member))
  · rw [event] at answers
    cases answers

/-- A request is answered for good. -/
theorem replies_close (tied : s.Tied l) (found : s.request k = some r) (requests : s'.requests = (s.close k).requests)
    (invocations : s'.invocations = s.invocations) (event : e.answers = some k) (result : ArtikError) (replies : List Reply) :
    Replies ⟨s, e, s', ⟨result, replies.map fun reply => (k, reply)⟩⟩ ↔ replies.length = 1 := by
  obtain ⟨named, rest, whole, closed⟩ := tied.handle found
  have distinct := (whole.map BtGattReqHandle.invocation).nodup_iff.1 tied.named
  rw [List.map_cons, List.nodup_cons, named] at distinct
  have done : s'.request k = none := by
    rw [request_none, requests]
    intro q member same
    exact distinct.1 (same ▸ List.mem_map_of_mem (closed.mem_iff.1 member))
  constructor
  · intro replies
    have one := replies.answered k event
    rwa [repliesTo_map, if_pos rfl] at one
  · intro one
    refine ⟨fun j => ?_, fun j answers => ?_⟩
    · dsimp only
      rw [repliesTo_map, one]
      by_cases here : j = k
      · rw [here, if_pos rfl, Hci.settled, Hci.settled, invocations, if_neg, if_pos ⟨request_begun tied found, done⟩]
        rw [found]
        rintro ⟨-, none⟩
        cases none
      · rw [if_neg here, Hci.settled, Hci.settled, invocations, Nat.add_zero]
        refine if_congr (and_congr_right fun _ => ?_) rfl rfl
        rw [request_none, request_none, requests]
        constructor
        · exact fun none q member => none q (whole.mem_iff.2 (List.mem_cons_of_mem _ (closed.mem_iff.1 member)))
        · intro none q member
          rcases List.mem_cons.1 (whole.mem_iff.1 member) with rfl | member
          · exact fun same => here (same.symm.trans named)
          · exact none q (closed.mem_iff.2 member)
    · rw [event] at answers
      cases answers
      dsimp only
      rw [repliesTo_map, if_pos rfl, one]

/-! ## Answers -/

/-- The buffer of a request is freed, where there is one, and then the handle. -/
theorem dropWrite_spec (tied : s.Tied l) (found : s.request k = some r) :
    ∃ s', dropWrite r s = .ok s' ∧ s'.requests = s.requests ∧ s'.invocations = s.invocations ∧ (s'.close k).Tied l ∧
      (s.NoLeak → (s'.close k).NoLeak) := by
  obtain ⟨-, rest, whole, closed⟩ := tied.handle found
  obtain ⟨h, frees, dropped, all⟩ := Tied.drop (Tied.requests tied whole)
  refine ⟨{ s with heap := h }, by rw [dropWrite_eq, frees], rfl, rfl, dropped.requests closed.symm, fun leaks => ?_⟩
  exact (all (leaks.perm (owners_requests _ whole))).perm (owners_requests _ closed.symm)

/-- The buffer of a write becomes that of the attribute, and then the handle is freed. -/
theorem acceptWrite_spec (tied : s.Tied l) (found : s.request k = some r) (write : r.type = .write) (live : s.Live r) :
    ∃ s', acceptWrite r s = .ok s' ∧ s'.requests = s.requests ∧ s'.invocations = s.invocations ∧
      (s'.close k).Tied (l.accept (l.asked k).1 (l.asked k).2) ∧ (s.NoLeak → (s'.close k).NoLeak) := by
  obtain ⟨named, rest, whole, closed⟩ := tied.handle found
  obtain ⟨o, a, pointer, there⟩ := live
  have target : o = (l.asked k).1 := by
    have asked := (tied.asks r (List.mem_of_find?_eq_some found)).1
    rw [pointer, named] at asked
    exact Option.some.inj asked
  obtain ⟨-, rfl⟩ := Hci.attribute_some there
  obtain ⟨others, front, tied', assigned⟩ := tied.split there
  obtain ⟨h, frees, fewer, all⟩ := (tied'.requests whole).freed
  have apart := tied'.others
  obtain ⟨taken, all'⟩ := fewer.take (a := a.keep r.value r.len) apart.1 apart.2 write rfl rfl
  have after := (assigned (.keep r.value r.len)).symm
  refine ⟨{ s with heap := h }.setValue a.objectId r.value r.len, ?_, rfl, rfl, ?_, fun leaks => ?_⟩
  · rw [acceptWrite, pointer]
    dsimp only
    rw [freeValue_eq there, frees]
    rfl
  · rw [← target, ← named]
    rw [← named] at closed
    exact (taken.perm after).requests closed.symm
  · have before := all' (all (leaks.perm ((owners_perm front _).trans (owners_requests _ whole))))
    exact before.perm ((owners_perm after _).trans (owners_requests _ closed.symm))

/-- An answer that is refused sends nothing. -/
theorem returnDbusState_refused {type : BtGattReqType} {state : ReqState} {errMsg : Option String}
    (refused : (returnDbusState type state errMsg).1 ≠ .ok) : (returnDbusState type state errMsg).2 = [] := by
  cases state <;> cases type <;> first | exact absurd rfl refused | rfl

theorem returnDbusState_ok {type : BtGattReqType} {errMsg : Option String} : (returnDbusState type .ok errMsg).1 = .ok ↔ type = .write := by
  cases type <;> simp [returnDbusState]

theorem returnDbusError_length (name : String) (message : Option String) :
    (returnDbusError (some name) message).length = 1 ↔ message ≠ none := by
  cases message <;> simp [returnDbusError]

/-- Exactly one reply is sent. -/
theorem returnDbusState_replies {type : BtGattReqType} (known : type ≠ .notify) (state : ReqState) (errMsg : Option String) :
    (returnDbusState type state errMsg).1 = .ok ∧ (returnDbusState type state errMsg).2.length = 1 ↔
      match state with
      | .ok => type = .write
      | .invalidValueLength => type = .write ∧ errMsg ≠ none
      | .other => False
      | _ => errMsg ≠ none := by
  cases state with
  | ok => cases type <;> simp [returnDbusState, returnNull]
  | invalidValueLength => cases type <;> simp [returnDbusState, returnDbusError_length]
  | other => simp [returnDbusState, returnDbusError]
  | failed => simp [returnDbusState, returnDbusError_length]
  | inProgress => simp [returnDbusState, returnDbusError_length]
  | notPermitted => simp [returnDbusState, returnDbusError_length, known]
  | notAuthorized => simp [returnDbusState, returnDbusError_length, known]
  | notSupported => simp [returnDbusState, returnDbusError_length]

theorem btGattReqSetResult_spec (tied : s.Tied l) (found : s.request k = some r) (state : ReqState) (errMsg : Option String)
    (live : r.type = .write → state = .ok → s.Live r) :
    ∃ s', btGattReqSetResult k state errMsg s =
        .ok (s', ⟨(returnDbusState r.type state errMsg).1, (returnDbusState r.type state errMsg).2.map fun reply => (k, reply)⟩) ∧
      ((returnDbusState r.type state errMsg).1 ≠ .ok → s' = s) ∧
      ((returnDbusState r.type state errMsg).1 = .ok →
        s'.requests = (s.close k).requests ∧ s'.invocations = s.invocations ∧
          s'.Tied (if state = .ok then l.accept (l.asked k).1 (l.asked k).2 else l) ∧ (s.NoLeak → s'.NoLeak)) := by
  rw [btGattReqSetResult, found]
  dsimp only
  by_cases refused : (returnDbusState r.type state errMsg).1 ≠ .ok
  · have plain : ¬(r.type = .write ∧ state = .ok) := by
      rintro ⟨write, rfl⟩
      exact refused (returnDbusState_ok.2 write)
    rw [if_neg plain, returnDbusState_refused refused]
    dsimp only
    rw [if_pos refused]
    exact ⟨s, rfl, fun _ => rfl, fun ok => absurd ok refused⟩
  · by_cases accepted : state = .ok
    · subst accepted
      have write := returnDbusState_ok.1 (not_not.1 refused)
      obtain ⟨t, accepts, requests, invocations, tied', all⟩ := acceptWrite_spec tied found write (live write rfl)
      rw [if_pos ⟨write, rfl⟩, accepts]
      dsimp only
      rw [if_neg refused, if_pos rfl]
      refine ⟨t.close k, by rw [not_not.1 refused]; rfl, fun bad => absurd bad refused, fun _ => ⟨?_, invocations, ?_, all⟩⟩
      · rw [Hci.close, Hci.close, requests]
      · rw [if_pos rfl]
        exact tied'
    · obtain ⟨t, drops, requests, invocations, tied', all⟩ := dropWrite_spec tied found
      rw [if_neg fun both => accepted both.2]
      dsimp only
      rw [if_neg refused, if_neg accepted, drops]
      refine ⟨t.close k, by rw [not_not.1 refused]; rfl, fun bad => absurd bad refused, fun _ => ⟨?_, invocations, ?_, all⟩⟩
      · rw [Hci.close, Hci.close, requests]
      · rw [if_neg accepted]
        exact tied'

theorem Hci.Tied.known (tied : s.Tied l) (found : s.request k = some r) : r.type ≠ .notify := by
  rcases (tied.asks r (List.mem_of_find?_eq_some found)).2 with ⟨read, -⟩ | ⟨write, -⟩
  · rw [read]
    decide
  · rw [write]
    decide

theorem reqSetResult_does (tied : s.Tied l) {state : ReqState} {errMsg : Option String}
    (crashless : Event.Crashless (.reqSetResult k state errMsg) s) :
    ∃ s' o, step (.reqSetResult k state errMsg) s = .ok (s', o) ∧ Does (.reqSetResult k state errMsg) s l s' o := by
  obtain ⟨r, found, live⟩ := crashless
  obtain ⟨s', answered, refused, done⟩ := btGattReqSetResult_spec tied found state errMsg live
  have exactly := returnDbusState_replies (tied.known found) state errMsg
  have fits : Event.Fits (.reqSetResult k state errMsg) s ↔
      (returnDbusState r.type state errMsg).1 = .ok ∧ (returnDbusState r.type state errMsg).2.length = 1 := by
    rw [exactly, Event.Fits]
    constructor
    · exact fun all => all r found
    · intro one q there
      rw [found] at there
      cases there
      exact one
  refine ⟨s', _, answered, ?_⟩
  by_cases ok : (returnDbusState r.type state errMsg).1 = .ok
  · obtain ⟨requests, invocations, tied', all⟩ := done ok
    refine ⟨?_, fun leaks => iff_of_true (all leaks) trivial, ?_⟩
    · simpa only [Event.enter, ok, true_and] using tied'
    · rw [fits, replies_close tied found requests invocations rfl]
      exact ⟨fun one => ⟨ok, one⟩, And.right⟩
  · obtain rfl := refused ok
    rw [returnDbusState_refused ok]
    refine ⟨?_, fun leaks => iff_of_true leaks trivial, iff_of_false ?_ fun all => ok (fits.1 all).1⟩
    · simpa only [Event.enter, ok, false_and, if_false] using tied
    · rw [List.map_nil, replies_quiet rfl rfl]
      simp [Event.answers]

theorem reqSetValue_does (tied : s.Tied l) {value : List Byte} (crashless : Event.Crashless (.reqSetValue k value) s) :
    ∃ s' o, step (.reqSetValue k value) s = .ok (s', o) ∧ Does (.reqSetValue k value) s l s' o := by
  obtain ⟨r, found, live⟩ := crashless
  rw [step, btGattReqSetValue, found]
  dsimp only
  by_cases read : r.type = .read
  · rw [if_neg (not_not.2 read)]
    obtain ⟨o, a, pointer, there⟩ := live read
    obtain ⟨asked, kind⟩ := tied.asks r (List.mem_of_find?_eq_some found)
    have target : o = (l.asked k).1 := by
      rw [pointer, (tied.handle found).1] at asked
      exact Option.some.inj asked
    have none : r.value = none := by
      rcases kind with ⟨-, none⟩ | ⟨write, -⟩
      · exact none
      · rw [read] at write
        cases write
    obtain ⟨t, replaces, quiet, tied', all⟩ := replaceValue_spec tied there value
    have found' : t.request k = some r := by
      rw [Hci.request, quiet.requests]
      exact found
    obtain ⟨u, drops, -, -, tied'', all'⟩ := dropWrite_spec tied' found'
    rw [dropWrite, none] at drops
    cases drops
    rw [pointer]
    dsimp only
    rw [replaces]
    refine ⟨t.close k, ⟨.ok, [(k, .value value)]⟩, rfl, ?_, fun leaks => iff_of_true (all' (all leaks)) trivial, ?_⟩
    · rw [target] at tied''
      exact tied''
    · have closed : (t.close k).requests = (s.close k).requests := by
        rw [Hci.close, Hci.close, quiet.requests]
      refine iff_of_true ?_ fun q there => ?_
      · exact (replies_close (e := .reqSetValue k value) tied found closed quiet.invocations rfl .ok [.value value]).2 rfl
      · rw [found] at there
        cases there
        exact read
  · rw [if_pos read]
    refine ⟨s, ⟨.badArgs, []⟩, rfl, ?_, fun leaks => iff_of_true leaks trivial, ?_⟩
    · simpa [Event.enter] using tied
    · rw [replies_quiet rfl rfl]
      exact iff_of_false (by simp [Event.answers]) fun all => read (all r found)

theorem notify_does (tied : s.Tied l) {serviceId charId : Int} {bytes : List Byte}
    (crashless : Event.Crashless (.notify serviceId charId bytes) s) :
    ∃ s' o, step (.notify serviceId charId bytes) s = .ok (s', o) ∧ Does (.notify serviceId charId bytes) s l s' o := by
  have refused : Does (.notify serviceId charId bytes) s l s ⟨.btError, []⟩ := by
    refine ⟨?_, fun leaks => iff_of_true leaks trivial, (replies_quiet rfl rfl _).trans (iff_of_true rfl trivial)⟩
    rw [Event.enter]
    split
    · exact tied
    · exact tied
  rw [step, btGattNotify]
  by_cases empty : bytes = []
  · rw [if_pos empty]
    exact ⟨s, ⟨.btError, []⟩, rfl, refused⟩
  · rw [if_neg empty]
    have other := crashless.resolve_left empty
    have looks := findChrListById_eq serviceId charId s
    rw [if_neg other] at looks
    cases found : (nth s.gattServices serviceId).bind fun svc => nth svc.charData charId with
    | none =>
      rw [found] at looks
      rw [looks]
      exact ⟨s, ⟨.btError, []⟩, rfl, refused⟩
    | some chr =>
      rw [found] at looks
      obtain ⟨svc, service, characteristic⟩ := Option.bind_eq_some_iff.1 found
      have there := tied.attribute (Hci.mem_attributes (nth_mem service) (svc.chr_attribute (nth_mem characteristic)))
      obtain ⟨t, replaces, quiet, tied', all⟩ := replaceValue_spec tied there bytes
      rw [looks]
      dsimp only
      rw [replaces]
      refine ⟨t, ⟨.ok, []⟩, rfl, ?_, fun leaks => iff_of_true (all leaks) trivial,
        (replies_quiet quiet.requests quiet.invocations _).trans (iff_of_true rfl trivial)⟩
      rw [Event.enter, looks]
      exact tied'

theorem server_does (tied : s.Tied l) {c : ServerCall} (crashless : c.Crashless s) :
    ∃ s' o, step (.server c) s = .ok (s', o) ∧ Does (.server c) s l s' o := by
  obtain ⟨s', o, answered, serves⟩ := server_answers tied crashless
  refine ⟨s', ⟨o.result, []⟩, by rw [step, answered]; rfl, serves.tied, serves.frees, ?_⟩
  exact (replies_quiet serves.requests serves.invocations _).trans (iff_of_true rfl trivial)

/-! ## Method calls -/

/-- The state in which a method call is handled. -/
def Hci.begin (s : Hci) : Hci := { s with invocations := s.invocations + 1 }

theorem Hci.Tied.begin (tied : s.Tied l) : s.begin.Tied l :=
  ⟨tied.distinct, tied.made, tied.named, fun r member => Nat.lt_succ_of_lt (tied.begun r member), tied.owned, tied.holds, tied.asks⟩

theorem readValue_spec (tied : s.Tied l) (member : a ∈ s.attributes) {chr desc : Option Nat} (pointer : chr.or desc = some a.objectId) :
    ∃ s' o, readValue a chr desc s.invocations s.begin = .ok (s', o) ∧
      s'.Tied (if a.readCallback then l.ask s.invocations a.objectId [] else l) ∧ (s.NoLeak → s'.NoLeak) ∧
      ∀ e : Event, e.answers = none → Replies ⟨s, e, s', o⟩ := by
  rw [readValue]
  by_cases callback : a.readCallback = true
  · rw [if_pos callback, if_pos callback]
    let handle : BtGattReqHandle := ⟨.read, chr, desc, s.invocations, 0, none⟩
    have front : (s.requests ++ [handle]).Perm (handle :: s.requests) := List.perm_append_comm
    obtain ⟨opened, all⟩ := Tied.openRead (r := handle) tied rfl pointer rfl rfl
    refine ⟨s.begin.open handle, ⟨.ok, []⟩, rfl, opened.requests front.symm, fun leaks => ?_, fun e event => ?_⟩
    · exact (all leaks).perm (owners_requests _ front.symm)
    · exact replies_open (r := handle) rfl front rfl event .ok
  · rw [if_neg callback, if_neg callback, tied.begin.stored member]
    refine ⟨s.begin, ⟨.ok, [(s.invocations, .value (l.accepted a.objectId))]⟩, rfl, tied.begin, id, fun e event => ?_⟩
    have same : s.begin.requests.Perm s.requests := .refl _
    exact (replies_direct tied same rfl event .ok [.value (l.accepted a.objectId)]).2 rfl

theorem writeValue_spec (tied : s.Tied l) (member : a ∈ s.attributes) {chr desc : Option Nat} (pointer : chr.or desc = some a.objectId)
    (value : List Byte) :
    ∃ s' o, writeValue a chr desc value s.invocations s.begin = .ok (s', o) ∧
      s'.Tied (if a.writeCallback then l.ask s.invocations a.objectId value
        else (l.ask s.invocations a.objectId value).accept a.objectId value) ∧ (s.NoLeak → s'.NoLeak) ∧
      ∀ e : Event, e.answers = none → Replies ⟨s, e, s', o⟩ := by
  let handle : BtGattReqHandle := ⟨.write, chr, desc, s.invocations, value.length, some s.heap.next⟩
  let t : Hci := { s.begin with heap := s.heap.alloc value }.open handle
  have front : t.requests.Perm (handle :: s.requests) := List.perm_append_comm
  obtain ⟨opened, all⟩ := Tied.openWrite (r := handle) tied value rfl pointer rfl rfl rfl
  have tied' : t.Tied (l.ask s.invocations a.objectId value) := opened.requests front.symm
  have leaks' (leaks : s.NoLeak) : t.NoLeak := (all leaks).perm (owners_requests _ front.symm)
  rw [writeValue]
  by_cases callback : a.writeCallback = true
  · rw [if_pos callback, if_pos callback]
    exact ⟨t, ⟨.ok, []⟩, rfl, tied', leaks', fun e event => replies_open (r := handle) rfl front rfl event .ok⟩
  · rw [if_neg callback, if_neg callback]
    have found : t.request s.invocations = some handle := by
      rw [Hci.request]
      dsimp only [t, Hci.open]
      have new := request_new tied
      rw [Hci.request] at new
      rw [List.find?_append]
      dsimp only [Hci.begin]
      rw [new]
      simp [handle]
    have live : t.Live handle := ⟨a.objectId, a, pointer, tied'.attribute member⟩
    obtain ⟨u, answered, -, done⟩ := btGattReqSetResult_spec tied' found .ok none fun _ _ => live
    obtain ⟨requests, invocations, tied'', all'⟩ := done rfl
    rw [if_pos rfl, Ledger.ask_self] at tied''
    obtain ⟨-, rest, whole, closed⟩ := tied'.handle found
    have back : u.requests.Perm s.requests := by
      rw [requests]
      exact closed.trans ((List.perm_cons handle).1 (whole.symm.trans front))
    exact ⟨u, _, answered, tied'', fun leaks => all' (leaks' leaks),
      fun e event => (replies_direct tied back invocations event .ok [.unit]).2 rfl⟩

/-- A call that is answered at once and changes nothing. -/
theorem begin_does (tied : s.Tied l) {path : Path} {method : Method}
    (enters : Event.enter (.methodCall path method) .ok s l = l) (replies : List Reply)
    (fits : Event.Fits (.methodCall path method) s ↔ replies.length = 1) :
    Does (.methodCall path method) s l s.begin ⟨.ok, replies.map fun reply => (s.invocations, reply)⟩ := by
  have same : s.begin.requests.Perm s.requests := .refl _
  refine ⟨?_, fun leaks => iff_of_true leaks trivial, (replies_direct tied same rfl rfl .ok replies).trans fits.symm⟩
  rw [enters]
  exact tied.begin

theorem returnNull_length (method : Method) : (returnNull method).length = 1 ↔ returnNull method ≠ [] := by
  cases method <;> simp [returnNull]

theorem findChrListByPath_mem {path : Path} {chr : BtGattChar} (found : findChrListByPath path s = some chr) :
    chr.toAttribute ∈ s.attributes := by
  obtain ⟨svc, service, member⟩ := List.mem_flatMap.1 (List.mem_of_find?_eq_some found)
  exact Hci.mem_attributes service (svc.chr_attribute member)

theorem findDescList_mem {path : Path} (found : findDescList path s = some a) : a ∈ s.attributes := by
  obtain ⟨chr, characteristic, member⟩ := List.mem_flatMap.1 (List.mem_of_find?_eq_some found)
  obtain ⟨svc, service, there⟩ := List.mem_flatMap.1 characteristic
  exact Hci.mem_attributes service (svc.desc_attribute there member)

/-- A call of a method that has an attribute, found or not. -/
structure Dispatched (path : Path) (method : Method) (s : Hci) : Prop where
  passed : s.dispatches path method = true
  other : ∀ serv, path ≠ .service serv

variable {path : Path} {method : Method}

theorem Dispatched.fits (d : Dispatched path method s) (found : s.target path = some a) :
    Event.Fits (.methodCall path method) s ↔ method = .readValue ∨ ∃ value, method = .writeValue value := by
  rw [Event.Fits, found]
  exact ⟨fun all => all d.passed d.other, fun one _ _ => one⟩

theorem readCall_does (tied : s.Tied l) (d : Dispatched path .readValue s) (found : s.target path = some a) (member : a ∈ s.attributes)
    {chr desc : Option Nat} (pointer : chr.or desc = some a.objectId) :
    ∃ s' o, readValue a chr desc s.invocations s.begin = .ok (s', o) ∧ Does (.methodCall path .readValue) s l s' o := by
  obtain ⟨s', o, answered, tied', all, replies⟩ := readValue_spec tied member pointer
  refine ⟨s', o, answered, ?_, fun leaks => iff_of_true (all leaks) trivial, iff_of_true (replies _ rfl) ((d.fits found).2 (Or.inl rfl))⟩
  simpa only [Event.enter, Hci.called, d.passed, if_true, found] using tied'

theorem writeCall_does (tied : s.Tied l) {value : List Byte} (d : Dispatched path (.writeValue value) s) (found : s.target path = some a)
    (member : a ∈ s.attributes) {chr desc : Option Nat} (pointer : chr.or desc = some a.objectId) :
    ∃ s' o, writeValue a chr desc value s.invocations s.begin = .ok (s', o) ∧ Does (.methodCall path (.writeValue value)) s l s' o := by
  obtain ⟨s', o, answered, tied', all, replies⟩ := writeValue_spec tied member pointer value
  refine ⟨s', o, answered, ?_, fun leaks => iff_of_true (all leaks) trivial,
    iff_of_true (replies _ rfl) ((d.fits found).2 (Or.inr ⟨value, rfl⟩))⟩
  simpa only [Event.enter, Hci.called, d.passed, if_true, found] using tied'

/-- The other methods of an attribute send nothing. -/
theorem otherCall_does (tied : s.Tied l) (d : Dispatched path method s) (found : s.target path = some a)
    (other : ¬(method = .readValue ∨ ∃ value, method = .writeValue value)) :
    Does (.methodCall path method) s l s.begin ⟨.ok, []⟩ := by
  refine begin_does tied ?_ [] ((d.fits found).trans (iff_of_false other (by decide)))
  cases method with
  | readValue => exact absurd (Or.inl rfl) other
  | writeValue value => exact absurd (Or.inr ⟨value, rfl⟩) other
  | startNotify => simp only [Event.enter]
  | stopNotify => simp only [Event.enter]
  | indicateConfirm address complete => simp only [Event.enter]
  | getManagedObjects => simp only [Event.enter]

/-- Where there is no attribute, the methods without a value are answered. -/
theorem missingCall_does (tied : s.Tied l) (d : Dispatched path method s) (found : s.target path = none) :
    Does (.methodCall path method) s l s.begin ⟨.ok, (returnNull method).map fun reply => (s.invocations, reply)⟩ := by
  refine begin_does tied ?_ (returnNull method) ?_
  · cases method <;> simp only [Event.enter, Hci.called, d.passed, if_true, found]
  · rw [returnNull_length, Event.Fits, found]
    exact ⟨fun all => all d.passed d.other, fun one _ _ => one⟩

theorem charMethodCall_does (tied : s.Tied l) (svc chr : Nat) (d : Dispatched (.characteristic svc chr) method s) :
    ∃ s' o, charMethodCall (.characteristic svc chr) method s.invocations s.begin = .ok (s', o) ∧
      Does (.methodCall (.characteristic svc chr) method) s l s' o := by
  have same : findChrListByPath (.characteristic svc chr) s.begin = findChrListByPath (.characteristic svc chr) s := rfl
  rw [charMethodCall, same]
  cases lookup : findChrListByPath (.characteristic svc chr) s with
  | none =>
    refine ⟨_, _, rfl, missingCall_does tied d ?_⟩
    rw [Hci.target, lookup]
    rfl
  | some c =>
    have found : s.target (.characteristic svc chr) = some c.toAttribute := by
      rw [Hci.target, lookup]
      rfl
    have member := findChrListByPath_mem lookup
    cases method with
    | readValue => exact readCall_does tied d found member rfl
    | writeValue value => exact writeCall_does tied d found member rfl
    | startNotify => exact ⟨_, _, rfl, otherCall_does tied d found (by simp)⟩
    | stopNotify => exact ⟨_, _, rfl, otherCall_does tied d found (by simp)⟩
    | indicateConfirm address complete => exact ⟨_, _, rfl, otherCall_does tied d found (by simp)⟩
    | getManagedObjects => exact ⟨_, _, rfl, otherCall_does tied d found (by simp)⟩

theorem descMethodCall_does (tied : s.Tied l) (svc chr desc : Nat) (d : Dispatched (.descriptor svc chr desc) method s) :
    ∃ s' o, descMethodCall (.descriptor svc chr desc) method s.invocations s.begin = .ok (s', o) ∧
      Does (.methodCall (.descriptor svc chr desc) method) s l s' o := by
  have same : findDescList (.descriptor svc chr desc) s.begin = findDescList (.descriptor svc chr desc) s := rfl
  rw [descMethodCall, same]
  cases found : findDescList (.descriptor svc chr desc) s with
  | none => exact ⟨_, _, rfl, missingCall_does tied d found⟩
  | some a =>
    have member := findDescList_mem found
    cases method with
    | readValue => exact readCall_does tied d found member rfl
    | writeValue value => exact writeCall_does tied d found member rfl
    | startNotify => exact ⟨_, _, rfl, otherCall_does tied d found (by simp)⟩
    | stopNotify => exact ⟨_, _, rfl, otherCall_does tied d found (by simp)⟩
    | indicateConfirm address complete => exact ⟨_, _, rfl, otherCall_does tied d found (by simp)⟩
    | getManagedObjects => exact ⟨_, _, rfl, otherCall_does tied d found (by simp)⟩

theorem uuidString_answers (uuid : Option String) : (∃ v, uuidString uuid = .ok v) ↔ uuid ≠ none := by
  cases uuid <;> simp [uuidString]

theorem Hci.Tied.valueProperty (tied : s.Tied l) (member : a ∈ s.attributes) : ∃ v, s.valueProperty a = .ok v := by
  rw [Hci.valueProperty]
  split
  · exact ⟨_, rfl⟩
  · rw [tied.stored member]
    exact ⟨_, rfl⟩

/-- GetManagedObjects is answered where everything has a UUID. -/
theorem managedObjects_answers (tied : s.Tied l) {svc : BtGattService} (service : svc ∈ s.gattServices) :
    (∃ os, managedObjects svc s = .ok os) ↔ svc.Named := by
  have desc (chr : BtGattChar) (member : chr ∈ svc.charData) (d : Attribute) (there : d ∈ chr.descData) :
      (∃ o, managedDesc chr s d = .ok o) ↔ d.uuid ≠ none := by
    obtain ⟨v, value⟩ := tied.valueProperty (Hci.mem_attributes service (svc.desc_attribute member there))
    rw [← uuidString_answers, managedDesc]
    simp only [bind_ok_iff, value]
    constructor
    · rintro ⟨o, uuid, named, -⟩
      exact ⟨uuid, named⟩
    · rintro ⟨uuid, named⟩
      exact ⟨_, uuid, named, v, rfl, rfl⟩
  have chars (chr : BtGattChar) (member : chr ∈ svc.charData) :
      (∃ os, managedChar svc s chr = .ok os) ↔ ∀ a ∈ chr.toAttribute :: chr.descData, a.uuid ≠ none := by
    obtain ⟨v, value⟩ := tied.valueProperty (Hci.mem_attributes service (svc.chr_attribute member))
    have all : (∃ os, chr.descData.mapM (managedDesc chr s) = .ok os) ↔ ∀ d ∈ chr.descData, d.uuid ≠ none :=
      mapM_answers_iff.trans (forall₂_congr fun d there => desc chr member d there)
    rw [List.forall_mem_cons, ← uuidString_answers, ← all, managedChar]
    simp only [bind_ok_iff, value]
    constructor
    · rintro ⟨os, uuid, named, w, -, ds, descs, -⟩
      exact ⟨⟨uuid, named⟩, ⟨ds, descs⟩⟩
    · rintro ⟨⟨uuid, named⟩, ⟨ds, descs⟩⟩
      exact ⟨_, uuid, named, v, rfl, ds, descs, rfl⟩
  have all : (∃ os, svc.charData.mapM (managedChar svc s) = .ok os) ↔ ∀ a ∈ svc.attributes, a.uuid ≠ none := by
    rw [mapM_answers_iff, BtGattService.attributes, List.forall_mem_flatMap]
    exact forall₂_congr chars
  rw [BtGattService.Named, ← uuidString_answers, ← all, managedObjects]
  simp only [bind_ok_iff]
  constructor
  · rintro ⟨os, uuid, named, cs, chars, -⟩
    exact ⟨⟨uuid, named⟩, ⟨cs, chars⟩⟩
  · rintro ⟨⟨uuid, named⟩, ⟨cs, chars⟩⟩
    exact ⟨_, uuid, named, cs, chars, rfl⟩

theorem methodCall_does (tied : s.Tied l) (crashless : Event.Crashless (.methodCall path method) s) :
    ∃ s' o, step (.methodCall path method) s = .ok (s', o) ∧ Does (.methodCall path method) s l s' o := by
  rw [step, methodCall]
  by_cases passed : s.dispatches path method = true
  · rw [if_pos passed]
    cases path with
    | service serv =>
      obtain ⟨svc, found, named⟩ := crashless passed serv rfl
      have method' : method = .getManagedObjects := by
        have offers := (of_decide_eq_true passed).2
        cases method <;> first | rfl | cases offers
      subst method'
      obtain ⟨os, answers⟩ := (managedObjects_answers tied.begin (List.mem_of_getElem? found)).2 named
      have does : Does (.methodCall (.service serv) .getManagedObjects) s l s.begin ⟨.ok, [(s.invocations, .objects os)]⟩ :=
        begin_does tied rfl [.objects os] (iff_of_true (fun _ other => absurd rfl (other serv)) rfl)
      have there : s.begin.gattServices[serv]? = some svc := found
      refine ⟨_, _, ?_, does⟩
      dsimp only [servMethodCall]
      rw [found]
      dsimp only
      change (managedObjects svc s.begin).map _ = _
      rw [answers]
      rfl
    | characteristic svc chr => exact charMethodCall_does tied svc chr ⟨passed, by simp⟩
    | descriptor svc chr desc => exact descMethodCall_does tied svc chr desc ⟨passed, by simp⟩
  · rw [if_neg passed]
    refine ⟨s, ⟨.ok, []⟩, rfl, ?_, fun leaks => iff_of_true leaks trivial, (replies_quiet rfl rfl _).trans
      (iff_of_true rfl fun dispatched => absurd dispatched passed)⟩
    cases method <;> simpa [Event.enter, Hci.called, passed] using tied

/-- An event that does not crash is answered. -/
theorem step_does (tied : s.Tied l) (crashless : e.Crashless s) : ∃ s' o, step e s = .ok (s', o) ∧ Does e s l s' o := by
  cases e with
  | server c => exact server_does tied crashless
  | notify serviceId charId bytes => exact notify_does tied crashless
  | methodCall path method => exact methodCall_does tied crashless
  | reqSetValue k value => exact reqSetValue_does tied crashless
  | reqSetResult k state errMsg => exact reqSetResult_does tied crashless

/-! ## Crashes -/

theorem freeValue_live {t : Hci} (frees : freeValue k s = .ok t) : ∃ a, s.attribute k = some a := by
  rw [freeValue] at frees
  cases found : s.attribute k with
  | none =>
    rw [found] at frees
    cases frees
  | some a => exact ⟨a, rfl⟩

theorem methodCall_crashless (tied : s.Tied l) (answered : step (.methodCall path method) s = .ok (s', o)) :
    Event.Crashless (.methodCall path method) s := by
  rintro passed serv rfl
  rw [step, methodCall, if_pos passed] at answered
  have method' : method = .getManagedObjects := by
    have offers := (of_decide_eq_true passed).2
    cases method <;> first | rfl | cases offers
  subst method'
  dsimp only [servMethodCall] at answered
  split at answered
  · cases answered
  · rename_i svc found
    obtain ⟨os, answers, -⟩ := map_ok_iff.1 answered
    exact ⟨svc, found, (managedObjects_answers tied.begin (List.mem_of_getElem? found)).1 ⟨os, answers⟩⟩

theorem reqSetValue_crashless {value : List Byte} (answered : step (.reqSetValue k value) s = .ok (s', o)) :
    Event.Crashless (.reqSetValue k value) s := by
  rw [step, btGattReqSetValue] at answered
  split at answered
  · cases answered
  · rename_i r found
    refine ⟨r, found, fun read => ?_⟩
    rw [if_neg (not_not.2 read)] at answered
    split at answered
    · cases answered
    · rename_i p pointer
      obtain ⟨t, replaces, -⟩ := map_ok_iff.1 answered
      obtain ⟨u, frees, -⟩ := map_ok_iff.1 replaces
      obtain ⟨a, there⟩ := freeValue_live frees
      exact ⟨p, a, pointer, there⟩

theorem reqSetResult_crashless (tied : s.Tied l) {state : ReqState} {errMsg : Option String}
    (answered : step (.reqSetResult k state errMsg) s = .ok (s', o)) : Event.Crashless (.reqSetResult k state errMsg) s := by
  rw [step, btGattReqSetResult] at answered
  split at answered
  · cases answered
  · rename_i r found
    refine ⟨r, found, fun write ok => ?_⟩
    rw [if_pos ⟨write, ok⟩, acceptWrite, (tied.asks r (List.mem_of_find?_eq_some found)).1] at answered
    dsimp only at answered
    split at answered
    · cases answered
    · rename_i t accepts
      obtain ⟨u, frees, -⟩ := map_ok_iff.1 accepts
      obtain ⟨a, there⟩ := freeValue_live frees
      exact ⟨_, a, (tied.asks r (List.mem_of_find?_eq_some found)).1, there⟩

/-- Only an event that does not crash is answered. -/
theorem step_crashless (tied : s.Tied l) (answered : step e s = .ok (s', o)) : e.Crashless s := by
  cases e with
  | server c =>
    obtain ⟨r, served, -⟩ := map_ok_iff.1 answered
    exact server_crashes served
  | notify serviceId charId bytes =>
    rw [step, btGattNotify] at answered
    split at answered
    · exact Or.inl (by assumption)
    · refine Or.inr fun behind => ?_
      rw [findChrListById_eq, if_pos behind] at answered
      cases answered
  | methodCall path method => exact methodCall_crashless tied answered
  | reqSetValue k value => exact reqSetValue_crashless answered
  | reqSetResult k state errMsg => exact reqSetResult_crashless tied answered

theorem step_tied (tied : s.Tied l) (answered : step e s = .ok (s', o)) : Does e s l s' o := by
  obtain ⟨t, o', same, does⟩ := step_does tied (step_crashless tied answered)
  rw [answered] at same
  cases same
  exact does

end ArtikSdk.Bluetooth.Gatt
