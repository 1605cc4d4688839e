import ArtikSdk.Security.Acceptance

/-!
# Streaming the signed data

The verdict on a context depends on the data that was given for it, in whatever chunks, and
on nothing that was done with other contexts. A handle is an address: it is rejected after
`final` until init returns it again.
-/

namespace ArtikSdk.Security
open Lib

/-- What the library promises of SHA-256: `absorbed` says which bytes a digest context has had. -/
structure Sha256Contract (M : Mbedtls) (sha256 : List UInt8 → List UInt8) (absorbed : M.MdContext → List UInt8 → Prop) : Prop where
  size : M.mdGetSize .sha256 = 32
  length : ∀ m, (sha256 m).length = 32
  started : absorbed (M.mdStarted .sha256) []
  update : ∀ mdCtx m data, absorbed mdCtx m → (M.mdUpdate mdCtx data).1 = 0 ∧ absorbed (M.mdUpdate mdCtx data).2 (m ++ data)
  finish : ∀ mdCtx m, absorbed mdCtx m → M.mdFinish mdCtx = (0, sha256 m)
  md : ∀ m, M.md .sha256 m = (0, sha256 m)

/-- The call is an update or a final of the handle. -/
def Input.uses (handle : Nat) : Input → Bool
  | .init .. => false
  | .update h _ => h = handle
  | .final h => h = handle

/-- The call is a successful init that returned the handle for the bundle. -/
def Opened (M : Mbedtls) (handle : Nat) (b : Bundle) (c : Call Input (State M) Output) : Prop :=
  ∃ w place signaturePem rootCa signingTimeIn r, c.input = .init w place signaturePem rootCa signingTimeIn ∧ c.output = .init r ∧
    r.err = .ok ∧ r.handle = some handle ∧ readBundle M w signaturePem rootCa = some b

/-- The data that a call gives for a handle. -/
def Input.dataFor (handle : Nat) : Input → List UInt8
  | .update h (some data) => if h = handle then data else []
  | _ => []

/-- The data that the calls give for a handle, chunk after chunk. -/
def dataFor {S : Type} (handle : Nat) (calls : List (Call Input S Output)) : List UInt8 :=
  calls.flatMap fun c => c.input.dataFor handle

/-- No init returns the handle. -/
def Unreturned {S : Type} (calls : List (Call Input S Output)) (handle : Nat) : Prop :=
  ∀ c ∈ calls, ∀ r, c.output = .init r → r.handle ≠ some handle

/-- The context is one of those that the state represents. -/
def Has {M : Mbedtls} (s : State M) (c : Context) : Prop := ∃ cs, Represents s cs ∧ c ∈ cs

/-- What the calls of a run return. A handle is rejected after final for as long as `dead` says
of the calls since. -/
structure Streamed (M : Mbedtls) (sha256 : List UInt8 → List UInt8) (dead : List (Call Input (State M) Output) → Nat → Prop)
    (calls : List (Call Input (State M) Output)) : Prop where
  /-- Data for an open context is taken. -/
  update : ∀ pre i mid u post handle b data, calls = pre ++ i :: (mid ++ u :: post) → Opened M handle b i →
    (∀ c ∈ mid, c.input ≠ .final handle) → u.input = .update handle (some data) → data ≠ [] → u.output = .code .ok
  /-- Final accepts when the digest is that of the data, and the signature verifies. -/
  final : ∀ pre i mid f post handle b, calls = pre ++ i :: (mid ++ f :: post) → Opened M handle b i →
    (∀ c ∈ mid, c.input ≠ .final handle) → f.input = .final handle →
      (f.output = .code .ok ↔ sha256 (dataFor handle mid) = b.digest ∧
        M.pkVerify (leaf b.sigData.chain) .sha256 (sha256 b.message) b.signature = 0)
  /-- After it the handle is rejected. -/
  closed : ∀ pre f mid u post handle, calls = pre ++ f :: (mid ++ u :: post) → f.input = .final handle → dead mid handle →
    u.input.uses handle = true → u.output = .code .badArgs
  /-- A call leaves every context as it is whose handle it does not use. -/
  others : ∀ c ∈ calls, ∀ x, Has c.before x → c.input.uses x.handle = false → Has c.after x

/-! ## Traces -/

/-- The contexts along the calls. -/
inductive Trace (M : Mbedtls) : List Context → List (Call Input (State M) Output) → List Context → Prop where
  | nil (cs : List Context) : Trace M cs [] cs
  | cons {cs cs' cs'' : List Context} {c : Call Input (State M) Output} {calls : List (Call Input (State M) Output)}
      (first : Transition M cs c.input c.output cs') (rest : Trace M cs' calls cs'') : Trace M cs (c :: calls) cs''

variable {M : Mbedtls} {s s' : State M} {cs cs' cs'' : List Context} {calls calls' : List (Call Input (State M) Output)} {x : Context}
  {input : Input} {o : Output} {c : Call Input (State M) Output} {sha256 : List UInt8 → List UInt8}
  {absorbed : M.MdContext → List UInt8 → Prop}

theorem Trace.split (trace : Trace M cs (calls ++ calls') cs'') : ∃ cs', Trace M cs calls cs' ∧ Trace M cs' calls' cs'' := by
  induction calls generalizing cs with
  | nil => exact ⟨cs, .nil cs, trace⟩
  | cons c calls ih =>
    cases trace with
    | cons first rest =>
      obtain ⟨cs', front, back⟩ := ih rest
      exact ⟨cs', .cons first front, back⟩

theorem Trace.head (trace : Trace M cs (c :: calls) cs'') : ∃ cs', Transition M cs c.input c.output cs' ∧ Trace M cs' calls cs'' := by
  cases trace with
  | cons first rest => exact ⟨_, first, rest⟩

/-- A run is a trace. -/
theorem run_trace (run : Run (step M) s calls s') (rep : Represents s cs) : ∃ cs', Trace M cs calls cs' ∧ Represents s' cs' := by
  induction run generalizing cs with
  | nil => exact ⟨cs, .nil cs, rep⟩
  | @cons s t s'' input o calls answered _ ih =>
    obtain ⟨t', o', cs', result, transition, rep'⟩ := step_transition rep input
    rw [answered] at result
    cases result
    obtain ⟨cs'', trace, rep''⟩ := ih rep'
    exact ⟨cs'', .cons transition trace, rep''⟩

/-- Every call of a run returns. -/
theorem exec_total (inputs : List Input) (rep : Represents s cs) : ∃ calls s', exec (step M) inputs s = .ok (calls, s') := by
  induction inputs generalizing s cs with
  | nil => exact ⟨[], s, rfl⟩
  | cons input inputs ih =>
    obtain ⟨t, o, cs', result, -, rep'⟩ := step_transition rep input
    obtain ⟨calls, s', rest⟩ := ih rep'
    exact ⟨_, s', by rw [exec, result]; dsimp only; rw [rest]⟩

theorem map_chunk_handles (handle : Nat) (data : List UInt8) (cs : List Context) :
    (cs.map fun c' => if c'.handle = handle then { c' with chunks := c'.chunks ++ [data] } else c').map Context.handle =
      cs.map Context.handle := by
  rw [List.map_map]
  refine List.map_congr_left fun c' _ => ?_
  rw [Function.comp_apply]
  split <;> rfl

/-- No two contexts have one handle. -/
theorem Transition.nodup (transition : Transition M cs input o cs') (once : (cs.map Context.handle).Nodup) :
    (cs'.map Context.handle).Nodup := by
  cases transition with
  | initFailed | updateRefused | finalRefused => exact once
  | init _ _ _ _ fresh =>
    rw [List.map_append, List.map_singleton]
    exact List.nodup_append.mpr ⟨once, List.nodup_singleton _, by grind⟩
  | update => rw [map_chunk_handles]; exact once
  | final => exact once.sublist (List.filter_sublist.map _)

theorem Trace.nodup (trace : Trace M cs calls cs') (once : (cs.map Context.handle).Nodup) : (cs'.map Context.handle).Nodup := by
  induction trace with
  | nil => exact once
  | cons first _ ih => exact ih (first.nodup once)

/-- A context whose handle is not used stays as it is. -/
theorem Transition.others (transition : Transition M cs input o cs') (member : x ∈ cs) (unused : input.uses x.handle = false) :
    x ∈ cs' := by
  cases transition with
  | initFailed | updateRefused | finalRefused => exact member
  | init => exact List.mem_append_left _ member
  | update =>
    have other := of_decide_eq_false unused
    exact List.mem_map.mpr ⟨x, member, if_neg (Ne.symm other)⟩
  | final =>
    have other := of_decide_eq_false unused
    exact List.mem_filter.mpr ⟨member, decide_eq_true (Ne.symm other)⟩

/-- A context that is not closed has the call's data, too. -/
theorem Transition.tracks (transition : Transition M cs input o cs') (member : x ∈ cs) (stays : input ≠ .final x.handle) :
    ∃ x' ∈ cs', x'.handle = x.handle ∧ x'.bundle = x.bundle ∧ x'.chunks.flatten = x.chunks.flatten ++ input.dataFor x.handle := by
  cases transition with
  | initFailed | finalRefused => exact ⟨x, member, rfl, rfl, (List.append_nil _).symm⟩
  | init => exact ⟨x, List.mem_append_left _ member, rfl, rfl, (List.append_nil _).symm⟩
  | @updateRefused handle data refused =>
    refine ⟨x, member, rfl, rfl, ?_⟩
    obtain absent | rfl | rfl := refused
    · have other : handle ≠ x.handle := fun same => absent (same ▸ List.mem_map_of_mem member)
      cases data with
      | none => exact (List.append_nil _).symm
      | some data => rw [Input.dataFor, if_neg other, List.append_nil]
    · exact (List.append_nil _).symm
    · rw [Input.dataFor, ite_self, List.append_nil]
  | @update c data =>
    refine ⟨_, List.mem_map_of_mem member, ?_⟩
    by_cases mine : x.handle = c.handle
    · rw [if_pos mine, Input.dataFor, if_pos mine.symm, List.flatten_append, List.flatten_singleton]
      exact ⟨rfl, rfl, rfl⟩
    · rw [if_neg mine, Input.dataFor, if_neg (Ne.symm mine), List.append_nil]
      exact ⟨rfl, rfl, rfl⟩
  | @final c =>
    have other : x.handle ≠ c.handle := fun same => stays (by rw [same])
    exact ⟨x, List.mem_filter.mpr ⟨member, decide_eq_true other⟩, rfl, rfl, (List.append_nil _).symm⟩

/-- **A context has the data of all the calls**, until it is closed. -/
theorem Trace.tracks (trace : Trace M cs calls cs') (member : x ∈ cs) (stays : ∀ c ∈ calls, c.input ≠ .final x.handle) :
    ∃ x' ∈ cs', x'.handle = x.handle ∧ x'.bundle = x.bundle ∧ x'.chunks.flatten = x.chunks.flatten ++ dataFor x.handle calls := by
  induction trace generalizing x with
  | nil => exact ⟨x, member, rfl, rfl, (List.append_nil _).symm⟩
  | @cons cs cs' cs'' c calls first _ ih =>
    obtain ⟨y, inside, handle, bundle, chunks⟩ := first.tracks member (stays c (List.mem_cons_self ..))
    obtain ⟨z, last, handle', bundle', chunks'⟩ := ih inside fun d later => handle ▸ stays d (List.mem_cons_of_mem _ later)
    refine ⟨z, last, handle'.trans handle, bundle'.trans bundle, ?_⟩
    rw [chunks', chunks, handle, dataFor, dataFor, List.flatMap_cons, List.append_assoc]

/-- A handle that is not returned is not there again. -/
theorem Transition.absent {handle : Nat} (transition : Transition M cs input o cs') (absent : handle ∉ cs.map Context.handle)
    (unreturned : ∀ r, o = .init r → r.handle ≠ some handle) : handle ∉ cs'.map Context.handle := by
  cases transition with
  | initFailed | updateRefused | finalRefused => exact absent
  | @init _ _ _ _ _ r a b _ given =>
    rw [List.map_append, List.map_singleton, List.mem_append, List.mem_singleton]
    rintro (there | rfl)
    · exact absent there
    · exact unreturned r rfl given
  | update => rw [map_chunk_handles]; exact absent
  | final => exact fun there => absent (List.Sublist.subset (List.filter_sublist.map _) there)

theorem Trace.absent {handle : Nat} (trace : Trace M cs calls cs') (absent : handle ∉ cs.map Context.handle)
    (unreturned : Unreturned calls handle) : handle ∉ cs'.map Context.handle := by
  induction trace with
  | nil => exact absent
  | @cons cs cs' cs'' c calls first _ ih =>
    exact ih (first.absent absent (unreturned c (List.mem_cons_self ..))) fun d later => unreturned d (List.mem_cons_of_mem _ later)

/-! ## The verdict -/

theorem Sha256Contract.feed (contract : Sha256Contract M sha256 absorbed) (chunks : List (List UInt8)) :
    absorbed (feed M chunks) chunks.flatten := by
  induction chunks using List.reverseRecOn with
  | nil => exact contract.started
  | append_singleton chunks data ih =>
    rw [feed_snoc, List.flatten_append, List.flatten_singleton]
    exact (contract.update _ _ data ih).2

theorem Sha256Contract.verdict (contract : Sha256Contract M sha256 absorbed) (x : Context) :
    verdict M x = .ok ↔ sha256 x.chunks.flatten = x.bundle.digest ∧
      M.pkVerify (leaf x.bundle.sigData.chain) .sha256 (sha256 x.bundle.message) x.bundle.signature = 0 := by
  have short : (sha256 x.chunks.flatten).take 32 = sha256 x.chunks.flatten :=
    List.take_of_length_le (by rw [contract.length])
  have size : (M.mdGetSize .sha256).toNat = 32 := by rw [contract.size]; rfl
  rw [Security.verdict, contract.finish _ _ (contract.feed x.chunks), contract.md]
  dsimp only
  rw [size, short, if_neg (by decide), if_neg (show ¬ (0 : Int) ≠ 0 by decide)]
  by_cases same : sha256 x.chunks.flatten = x.bundle.digest
  · have length : x.bundle.digest.length = 32 := by rw [← same, contract.length]
    have whole : x.bundle.digest.take 32 = x.bundle.digest := List.take_of_length_le (by omega)
    rw [length, whole, same]
    simp
  · have differ : (32 ≠ x.bundle.digest.length || x.bundle.digest.take 32 ≠ sha256 x.chunks.flatten) = true := by
      rw [Bool.or_eq_true, decide_eq_true_iff, decide_eq_true_iff, or_iff_not_imp_left, not_not]
      intro length equal
      rw [List.take_of_length_le (by omega)] at equal
      exact same equal.symm
    rw [if_pos differ]
    exact ⟨fun mismatch => (by cases mismatch), fun both => absurd both.1 same⟩

/-! ## The calls of a run -/

/-- The context that a successful init opens. -/
theorem Transition.opened {handle : Nat} {b : Bundle} (transition : Transition M cs c.input c.output cs') (opened : Opened M handle b c) :
    ⟨handle, b, []⟩ ∈ cs' := by
  obtain ⟨w, place, signaturePem, rootCa, signingTimeIn, r, input, output, ok, given, read⟩ := opened
  rw [input, output] at transition
  cases transition with
  | initFailed failed => exact absurd ok failed
  | init _ given' read' =>
    rw [given] at given'
    rw [read] at read'
    cases given'
    cases read'
    exact List.mem_append_right _ (List.mem_singleton_self _)

/-- Between the init and a later call the context has got the data. -/
theorem Trace.open {pre mid post : List (Call Input (State M) Output)} {i u : Call Input (State M) Output} {handle : Nat} {b : Bundle}
    (trace : Trace M [] (pre ++ i :: (mid ++ u :: post)) cs) (opened : Opened M handle b i)
    (stays : ∀ c ∈ mid, c.input ≠ .final handle) :
    ∃ cs₁ cs₂, Transition M cs₁ u.input u.output cs₂ ∧ (cs₁.map Context.handle).Nodup ∧
      ∃ x ∈ cs₁, x.handle = handle ∧ x.bundle = b ∧ x.chunks.flatten = dataFor handle mid := by
  obtain ⟨cs₃, front, trace⟩ := trace.split
  obtain ⟨cs₄, first, trace⟩ := trace.head
  obtain ⟨cs₁, middle, trace⟩ := trace.split
  obtain ⟨cs₂, transition, -⟩ := trace.head
  obtain ⟨x, member, same, bundle, chunks⟩ := middle.tracks (first.opened opened) stays
  exact ⟨cs₁, cs₂, transition, middle.nodup (first.nodup (front.nodup List.nodup_nil)), x, member, same, bundle, chunks⟩

/-- After final a handle is not there, until it is returned. -/
theorem Trace.closed {pre mid post : List (Call Input (State M) Output)} {f u : Call Input (State M) Output} {handle : Nat}
    (trace : Trace M [] (pre ++ f :: (mid ++ u :: post)) cs) (final : f.input = .final handle) (dead : Unreturned mid handle) :
    ∃ cs₁ cs₂, Transition M cs₁ u.input u.output cs₂ ∧ handle ∉ cs₁.map Context.handle := by
  obtain ⟨cs₃, -, trace⟩ := trace.split
  obtain ⟨cs₄, first, trace⟩ := trace.head
  obtain ⟨cs₁, middle, trace⟩ := trace.split
  obtain ⟨cs₂, transition, -⟩ := trace.head
  refine ⟨cs₁, cs₂, transition, middle.absent ?_ dead⟩
  rw [final] at first
  generalize f.output = output at first
  cases first with
  | finalRefused absent => exact absent
  | final =>
    rintro there
    obtain ⟨c, inside, same⟩ := List.mem_map.mp there
    exact of_decide_eq_true (List.mem_filter.mp inside).2 same

/-- **Streaming**: any calls in any order. -/
theorem streamed (contract : Sha256Contract M sha256 absorbed) (inputs : List Input) :
    ∃ calls s, exec (step M) inputs (State.init M) = .ok (calls, s) ∧ Streamed M sha256 Unreturned calls := by
  obtain ⟨calls, s, result⟩ := exec_total inputs (represents_init (M := M))
  have run := (exec_run result).1
  obtain ⟨cs, trace, -⟩ := run_trace run represents_init
  refine ⟨calls, s, result, ⟨?_, ?_, ?_, ?_⟩⟩
  · rintro pre i mid u post handle b data rfl opened stays input nonempty
    obtain ⟨cs₁, cs₂, transition, once, x, member, same, bundle, chunks⟩ := trace.open opened stays
    have known : handle ∈ cs₁.map Context.handle := same ▸ List.mem_map_of_mem member
    rw [input] at transition
    generalize u.output = output at transition
    cases transition with
    | updateRefused refused =>
      obtain absent | null | empty := refused
      · exact absurd known absent
      · cases null
      · exact absurd (Option.some.inj empty) nonempty
    | @update c =>
      rw [(contract.update _ _ data (contract.feed c.chunks)).1]
      rfl
  · rintro pre i mid f post handle b rfl opened stays input
    obtain ⟨cs₁, cs₂, transition, once, x, member, same, rfl, chunks⟩ := trace.open opened stays
    have known : handle ∈ cs₁.map Context.handle := same ▸ List.mem_map_of_mem member
    rw [input] at transition
    generalize f.output = output at transition
    cases transition with
    | finalRefused absent => exact absurd known absent
    | @final c inside =>
      obtain rfl : x = c := List.inj_on_of_nodup_map once member inside same
      rw [← chunks, ← contract.verdict x, Output.code.injEq]
  · rintro pre f mid u post handle rfl final dead uses
    obtain ⟨cs₁, cs₂, transition, absent⟩ := trace.closed final dead
    generalize u.input = input at transition uses
    generalize u.output = output at transition
    cases transition with
    | initFailed | init => cases uses
    | updateRefused | finalRefused => rfl
    | update inside | final inside =>
      rw [← of_decide_eq_true uses] at absent
      exact absurd (List.mem_map_of_mem inside) absent
  · rintro c member x ⟨cs₁, rep, inside⟩ unused
    have answered := (run.invariant_before (I := fun _ => True) trivial (fun _ _ _ _ _ _ => trivial) member).2
    obtain ⟨s', o, cs₂, result, transition, rep'⟩ := step_transition rep c.input
    rw [answered] at result
    cases result
    exact ⟨cs₂, rep', transition.others inside unused⟩

theorem otherSerial_contract : Sha256Contract otherSerialLibrary Sha256.digest fun (fed m : List UInt8) => fed = m where
  size := rfl
  length := Sha256.digest_length
  started := rfl
  update _ _ data same := ⟨rfl, congrArg (· ++ data) same⟩
  finish _ _ same := congrArg (fun m => ((0 : Int), Sha256.digest m)) same
  md _ := rfl

/-- A context is opened, used and closed, and the next one gets its address. -/
def reuse : List Input :=
  [.init .plenty true otherSerialPem otherSerialRoot none, .update 1 (some [0x61]), .final 1,
    .init .plenty true otherSerialPem otherSerialRoot none, .update 1 (some [0x61])]

theorem reuse_streamed :
    ∃ calls s, exec (step otherSerialLibrary) reuse (State.init otherSerialLibrary) = .ok (calls, s) ∧
      Streamed otherSerialLibrary Sha256.digest Unreturned calls := streamed otherSerial_contract reuse

/-- The last of five calls returns `S_OK`. -/
def fifthOk (calls : List (Call Input (State otherSerialLibrary) Output)) : Bool :=
  match calls.map Call.output with
  | [_, _, _, _, .code .ok] => true
  | _ => false

theorem five_calls {α : Type} {calls : List α} (length : calls.length = 5) : ∃ c₀ c₁ c₂ c₃ c₄, calls = [c₀, c₁, c₂, c₃, c₄] := by
  match calls, length with
  | [c₀, c₁, c₂, c₃, c₄], _ => exact ⟨c₀, c₁, c₂, c₃, c₄, rfl⟩

/-- The handle is taken again after final. -/
theorem reuse_not_streamed :
    ¬ ∃ calls s, exec (step otherSerialLibrary) reuse (State.init otherSerialLibrary) = .ok (calls, s) ∧
      Streamed otherSerialLibrary Sha256.digest (fun _ _ => True) calls := by
  rintro ⟨calls, s, result, streamed⟩
  have taken : execTest (step otherSerialLibrary) reuse (State.init otherSerialLibrary) fifthOk = true := by decide +kernel
  have inputs := (exec_run result).2
  have third : (calls.map Call.input)[2]? = some (.final 1) := by rw [inputs]; rfl
  have last : (calls.map Call.input)[4]? = some (.update 1 (some [0x61])) := by rw [inputs]; rfl
  have length : calls.length = 5 := by rw [← List.length_map (f := Call.input), inputs]; rfl
  have accepted := execTest_result taken result
  obtain ⟨c₀, c₁, c₂, c₃, c₄, rfl⟩ := five_calls length
  have rejected := streamed.closed [c₀, c₁] c₂ [c₃] c₄ [] 1 rfl (Option.some.inj third) trivial
    (by rw [show c₄.input = _ from Option.some.inj last]; rfl)
  have shown : [c₀, c₁, c₂, c₃, c₄].map Call.output = [c₀.output, c₁.output, c₂.output, c₃.output, .code .badArgs] := by
    rw [← rejected]
    rfl
  unfold fifthOk at accepted
  rw [shown] at accepted
  cases accepted

end ArtikSdk.Security
