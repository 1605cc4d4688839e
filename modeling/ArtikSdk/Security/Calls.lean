import ArtikSdk.Security.Contexts

/-!
# What a call does to the contexts

A call that fails gives back what it allocated, and a context that is filled has three new
blocks. `step_represents` is the step of the simulation.
-/

namespace ArtikSdk.Security
open Lib

variable {M : Mbedtls} {s s' s₁ s₂ : State M} {cs pre post : List Context} {c c' : Context} {p q r b : Nat} {bytes : List UInt8}
  {w : World}

/-! ## Memory -/

/-- What was allocated in `s` is there in `s'`, too. -/
structure Keeps (s s' : State M) : Prop where
  list : s'.verifyNodes = s.verifyNodes
  node : s'.node = s.node
  memory : ∀ p, (s.memory p).isSome = true → s'.memory p = s.memory p

theorem Keeps.refl (s : State M) : Keeps s s := ⟨rfl, rfl, fun _ _ => rfl⟩

theorem Keeps.trans (first : Keeps s s₁) (second : Keeps s₁ s₂) : Keeps s s₂ := by
  refine ⟨second.list.trans first.list, second.node.trans first.node, fun p used => ?_⟩
  have here := first.memory p used
  rw [second.memory p (by rw [here, used]), here]

/-- A store to memory that is not from before. -/
theorem Keeps.store (first : Keeps s s₁) (fresh : s.memory p = none) (v : Option (List UInt8)) :
    Keeps s { s₁ with memory := Function.update s₁.memory p v } := by
  refine ⟨first.list, first.node, fun x used => ?_⟩
  have other : x ≠ p := by
    rintro rfl
    rw [fresh] at used
    cases used
  exact (Function.update_of_ne other _ _).trans (first.memory x used)

theorem alloc_some {m : Malloc} (allocated : alloc m bytes s = some (p, s')) :
    p ≠ 0 ∧ s.memory p = none ∧ s'.memory p = some bytes ∧ Keeps s s' ∧ ∀ x, x ≠ p → s'.memory x = s.memory x := by
  rw [alloc] at allocated
  cases picked : m.pick fun a => (s.memory a).isSome with
  | none =>
    rw [picked] at allocated
    cases allocated
  | some a =>
    rw [picked] at allocated
    cases allocated
    obtain ⟨nonzero, unused⟩ := m.fresh _ _ picked
    have fresh : s.memory p = none := Option.isNone_iff_eq_none.mp (by simpa using unused)
    exact ⟨nonzero, fresh, Function.update_self .., (Keeps.refl s).store fresh _, fun x other => Function.update_of_ne other _ _⟩

/-- Memory that is not from before is given back. -/
theorem free_keeps (first : Keeps s s₁) (fresh : p ≠ 0 → s.memory p = none) (used : p ≠ 0 → (s₁.memory p).isSome = true) :
    ∃ s₂, free p s₁ = .ok s₂ ∧ Keeps s s₂ ∧ ∀ x, x ≠ p → s₂.memory x = s₁.memory x := by
  rw [free]
  by_cases null : p = 0
  · rw [if_pos null]
    exact ⟨s₁, rfl, first, fun _ _ => rfl⟩
  · rw [if_neg null, if_pos (used null)]
    exact ⟨_, rfl, first.store (fresh null) none, fun x other => Function.update_of_ne other _ _⟩

/-- One of the allocations for a copy. -/
theorem allocCopy_cases (m : Malloc) (s : State M) :
    ∃ p s', allocCopy m s = (p, s') ∧ Keeps s s' ∧ (p ≠ 0 → s.memory p = none ∧ (s'.memory p).isSome = true) := by
  rw [allocCopy]
  cases allocated : alloc m [] s with
  | none => exact ⟨0, s, rfl, .refl s, fun nonzero => absurd rfl nonzero⟩
  | some r =>
    obtain ⟨p, s'⟩ := r
    obtain ⟨-, fresh, block, keeps, -⟩ := alloc_some allocated
    exact ⟨p, s', rfl, keeps, fun _ => ⟨fresh, by rw [block]; rfl⟩⟩

theorem slice_length {buf : List UInt8} (r : Region buf.length) : r.bytes.length = r.len := by
  have inside := r.inside
  rw [Region.bytes, slice, List.length_take, List.length_drop]
  omega

theorem memcpy_eq {dst src len : Nat} (used : s.memory b = some bytes) :
    memcpy b dst src len s = .ok { s with memory := Function.update s.memory dst (some (slice bytes src len)) } := by
  rw [memcpy, used]

theorem store_eq {byte : UInt8} (used : s.memory p = some bytes) (nonempty : bytes ≠ []) :
    store p byte s = .ok { s with memory := Function.update s.memory p (some (byte :: bytes.tail)) } := by
  obtain ⟨x, xs, rfl⟩ := List.exists_cons_of_ne_nil nonempty
  rw [store, used]
  rfl

/-- The three allocations: each pointer is null or a block that was not in use, and no two of
the blocks are the same. -/
structure Copies (w : World) (s : State M) (p q r : Nat) (s' : State M) : Prop where
  calls : ∃ s₁ s₂, allocCopy w.dataDigest s = (p, s₁) ∧ allocCopy w.signedDigest s₁ = (q, s₂) ∧ allocCopy w.messageData s₂ = (r, s')
  keeps : Keeps s s'
  fresh : ∀ x ∈ [p, q, r], x ≠ 0 → s.memory x = none ∧ (s'.memory x).isSome = true
  apartP : p ≠ 0 → q ≠ p ∧ r ≠ p
  apartQ : q ≠ 0 → r ≠ q

theorem copies (w : World) (s : State M) : ∃ p q r s', Copies w s p q r s' := by
  obtain ⟨p, s₁, first, keep₁, freshP⟩ := allocCopy_cases w.dataDigest s
  obtain ⟨q, s₂, second, keep₂, freshQ⟩ := allocCopy_cases w.signedDigest s₁
  obtain ⟨r, s₃, third, keep₃, freshR⟩ := allocCopy_cases w.messageData s₂
  -- an address that is in use stays in use, and so is not given again
  have stays {s s' : State M} (keeps : Keeps s s') {x : Nat} (used : (s.memory x).isSome = true) : (s'.memory x).isSome = true := by
    rw [keeps.memory x used, used]
  have unused {s s' : State M} (keeps : Keeps s s') {x : Nat} (fresh : s'.memory x = none) : s.memory x = none := by
    by_contra some
    have used := stays keeps (Option.isSome_iff_ne_none.mpr some)
    rw [fresh] at used
    cases used
  have apart {s : State M} {x y : Nat} (used : (s.memory x).isSome = true) (fresh : y ≠ 0 → s.memory y = none) (nonzero : x ≠ 0) :
      y ≠ x := by
    rintro rfl
    rw [fresh nonzero] at used
    cases used
  refine ⟨p, q, r, s₃, ⟨s₁, s₂, first, second, third⟩, (keep₁.trans keep₂).trans keep₃, ?_, fun nonzero => ?_, fun nonzero => ?_⟩
  · intro x member nonzero
    rw [List.mem_cons, List.mem_cons, List.mem_singleton] at member
    obtain rfl | rfl | rfl := member
    · exact ⟨(freshP nonzero).1, stays keep₃ (stays keep₂ (freshP nonzero).2)⟩
    · exact ⟨unused keep₁ (freshQ nonzero).1, stays keep₃ (freshQ nonzero).2⟩
    · exact ⟨unused (keep₁.trans keep₂) (freshR nonzero).1, (freshR nonzero).2⟩
  · have used := (freshP nonzero).2
    exact ⟨apart used (fun nonzero => (freshQ nonzero).1) nonzero, apart (stays keep₂ used) (fun nonzero => (freshR nonzero).1) nonzero⟩
  · exact apart (freshQ nonzero).2 (fun nonzero => (freshR nonzero).1) nonzero

/-- One of them failed: the others are given back. -/
theorem Copies.starved (given : Copies w s p q r s₁) (null : p = 0 ∨ q = 0 ∨ r = 0) {n : Nat} (sigData : SignedData n) :
    ∃ s', copyNodeData w b sigData s = .ok (.noMem, ⟨p, 0⟩, ⟨q, 0⟩, ⟨r, 0⟩, s') ∧ Keeps s s' := by
  obtain ⟨t₁, t₂, first, second, third⟩ := given.calls
  have freshP := given.fresh p (List.mem_cons_self ..)
  have freshQ := given.fresh q (List.mem_cons_of_mem _ (List.mem_cons_self ..))
  have freshR := given.fresh r (List.mem_cons_of_mem _ (List.mem_cons_of_mem _ (List.mem_cons_self ..)))
  have otherP {x : Nat} (nonzero : x ≠ 0) (apart : p ≠ 0 → x ≠ p) : x ≠ p := by
    intro same
    exact apart (same ▸ nonzero) same
  obtain ⟨s₂, freed₁, keeps₁, same₁⟩ :=
    free_keeps given.keeps (fun nonzero => (freshP nonzero).1) fun nonzero => (freshP nonzero).2
  obtain ⟨s₃, freed₂, keeps₂, same₂⟩ := free_keeps keeps₁ (fun nonzero => (freshQ nonzero).1) fun nonzero => by
    rw [same₁ q (otherP nonzero fun nonzero => (given.apartP nonzero).1), (freshQ nonzero).2]
  obtain ⟨s₄, freed₃, keeps₃, -⟩ := free_keeps keeps₂ (fun nonzero => (freshR nonzero).1) fun nonzero => by
    rw [same₂ r fun same => given.apartQ (same ▸ nonzero) same, same₁ r (otherP nonzero fun nonzero => (given.apartP nonzero).2),
      (freshR nonzero).2]
  refine ⟨s₄, ?_, keeps₃⟩
  simp only [copyNodeData, first, second, third]
  rw [if_pos null]
  simp only [freed₁, freed₂, freed₃, bind, Except.bind, pure, Except.pure]

/-- All three blocks are there: each has its part of the bundle. -/
theorem Copies.granted (given : Copies w s p q r s₁) (nonzeroP : p ≠ 0) (nonzeroQ : q ≠ 0) (nonzeroR : r ≠ 0) (B : Bundle)
    (buffer : s.memory b = some B.buf) :
    ∃ digest signed message s', copyNodeData w b B.sigData s = .ok (.ok, digest, signed, message, s') ∧ Keeps s s' ∧
      Block s' digest B.digest ∧ Block s' signed B.signature ∧ Block s' message B.message ∧
      [digest.p, signed.p, message.p].Nodup ∧ ∀ p ∈ [digest.p, signed.p, message.p], s.memory p = none := by
  obtain ⟨t₁, t₂, first, second, third⟩ := given.calls
  have newP := (given.fresh p (List.mem_cons_self ..) nonzeroP).1
  have newQ := (given.fresh q (List.mem_cons_of_mem _ (List.mem_cons_self ..)) nonzeroQ).1
  have newR := (given.fresh r (List.mem_cons_of_mem _ (List.mem_cons_of_mem _ (List.mem_cons_self ..))) nonzeroR).1
  obtain ⟨apartPQ, apartPR⟩ := given.apartP nonzeroP
  have apartQR := given.apartQ nonzeroQ
  have apartB {x : Nat} (new : s.memory x = none) : b ≠ x := by
    rintro rfl
    rw [buffer] at new
    cases new
  have start : s₁.memory b = some B.buf := by rw [given.keeps.memory b (by rw [buffer]; rfl), buffer]
  have raw := slice_length B.sigData.signer.raw
  have nonempty : slice B.buf B.sigData.signer.raw.p B.sigData.signer.raw.len ≠ [] := by
    intro empty
    have positive := B.sigData.signer.rawNonempty
    rw [Region.bytes, empty, List.length_nil] at raw
    omega
  simp only [copyNodeData, first, second, third]
  rw [if_neg (not_or.mpr ⟨nonzeroP, not_or.mpr ⟨nonzeroQ, nonzeroR⟩⟩)]
  simp only [bind, Except.bind]
  rw [memcpy_eq start]
  dsimp only
  rw [memcpy_eq ((Function.update_of_ne (apartB newP) _ _).trans start)]
  dsimp only
  rw [memcpy_eq ((Function.update_of_ne (apartB newQ) _ _).trans ((Function.update_of_ne (apartB newP) _ _).trans start))]
  dsimp only
  rw [store_eq (Function.update_self ..) nonempty]
  refine ⟨_, _, _, _, rfl, (((given.keeps.store newP _).store newQ _).store newR _).store newR _, ?_, ?_, ?_, ?_, ?_⟩
  · exact ⟨by simp only [Function.update_of_ne apartPR.symm, Function.update_of_ne apartPQ.symm, Function.update_self]; rfl,
      (slice_length _).symm⟩
  · exact ⟨by simp only [Function.update_of_ne apartQR.symm, Function.update_self]; rfl, (slice_length _).symm⟩
  · refine ⟨Function.update_self .., ?_⟩
    rw [Bundle.message, List.length_cons, List.length_tail, raw]
    exact (Nat.sub_add_cancel B.sigData.signer.rawNonempty).symm
  · simp only [List.nodup_cons, List.mem_cons, List.not_mem_nil, or_false, not_or, List.nodup_nil, not_false_eq_true, and_true]
    exact ⟨⟨apartPQ.symm, apartPR.symm⟩, apartQR.symm⟩
  · intro x member
    rw [List.mem_cons, List.mem_cons, List.mem_singleton] at member
    obtain rfl | rfl | rfl := member
    · exact newP
    · exact newQ
    · exact newR

/-! ## Checking -/

theorem x509NameCmp_iff (a b : Name) : x509NameCmp a b = true ↔ a = b := by
  induction a generalizing b with
  | nil => cases b <;> simp [x509NameCmp]
  | cons x xs ih =>
    cases b with
    | nil => simp [x509NameCmp]
    | cons y ys =>
      obtain ⟨⟨tag, oid⟩, ⟨tag', val⟩, merged⟩ := x
      obtain ⟨⟨tag₂, oid₂⟩, ⟨tag₂', val₂⟩, merged₂⟩ := y
      rw [x509NameCmp]
      simp only [List.cons.injEq, NameNode.mk.injEq, Asn1Buf.mk.injEq, ← ih]
      grind

/-- The checks that a bundle passes. -/
theorem checkPkcs7Validity_ok {n : Nat} (sigData : SignedData n) :
    checkPkcs7Validity M sigData = .ok ↔ sigData.signer.issuer = (leaf sigData.chain).issuer ∧
      sigData.signer.serial.bytes ≠ (leaf sigData.chain).issuerId.bytes ∧
      (leaf sigData.chain).extTypes &&& extExtendedKeyUsage ≠ 0 ∧
      M.x509CrtCheckExtendedKeyUsage (leaf sigData.chain) oidCodeSigning = 0 ∧ sigData.signer.digestAlgId = .sha256 := by
  rw [checkPkcs7Validity, ← x509NameCmp_iff]
  have serial : (sigData.signer.serial.bytes.length = (leaf sigData.chain).issuerId.bytes.length ∧
      sigData.signer.serial.bytes = (leaf sigData.chain).issuerId.bytes) ↔
      sigData.signer.serial.bytes = (leaf sigData.chain).issuerId.bytes := by
    refine and_iff_right_of_imp fun same => ?_
    rw [same]
  simp only [serial]
  grind

theorem initializeMdContext_yields (w : World) {n : Nat} (sigData : SignedData n) :
    Yields (fun mdCtx => M.mdInfoFromType sigData.signer.digestAlgId = true ∧ mdCtx = M.mdStarted sigData.signer.digestAlgId)
      (initializeMdContext M w sigData) := by
  rw [initializeMdContext]
  split_ifs with unknown setup starts
  · exact .error (by decide)
  · exact .error (by decide)
  · exact .error (by decide)
  · exact .ok ⟨Bool.eq_true_of_not_eq_false unknown, rfl⟩

/-! ## Filling a context -/

/-- `s'` is `s` but for the node `a`, and for memory that was not in use. -/
structure Aside (a : Nat) (s s' : State M) : Prop where
  list : s'.verifyNodes = s.verifyNodes
  node : ∀ x, x ≠ a → s'.node x = s.node x
  memory : ∀ p, (s.memory p).isSome = true → s'.memory p = s.memory p

theorem Keeps.aside (keeps : Keeps s s') (a : Nat) : Aside a s s' := ⟨keeps.list, fun _ _ => by rw [keeps.node], keeps.memory⟩

/-- The context `a` is filled, with blocks that were not in use. -/
structure Filled (a : Nat) (B : Bundle) (s s' : State M) : Prop where
  holds : Holds s' ⟨a, B, []⟩
  apart : (blocks s' ⟨a, B, []⟩).Nodup
  fresh : ∀ p ∈ blocks s' ⟨a, B, []⟩, s.memory p = none

theorem Filled.of_node {a : Nat} {B : Bundle} {node : VerifyNode M} (here : s'.node a = node)
    (mdCtx : node.mdCtx = some (feed M [])) (digest : Block s' node.dataDigest B.digest)
    (signature : Block s' node.signedDigest B.signature) (message : Block s' node.messageData B.message)
    (digestAlgId : node.digestAlgId = .sha256) (chain : node.chain = B.sigData.chain)
    (apart : [node.dataDigest.p, node.signedDigest.p, node.messageData.p].Nodup)
    (fresh : ∀ p ∈ [node.dataDigest.p, node.signedDigest.p, node.messageData.p], s.memory p = none) : Filled a B s s' := by
  subst here
  exact ⟨⟨mdCtx, digest, signature, message, digestAlgId, chain⟩, apart, fresh⟩

/-- A bundle that passes is copied, when there is the memory. -/
theorem fillNode_granted (a : Nat) {B : Bundle} (buffer : s.memory b = some B.buf) (valid : checkPkcs7Validity M B.sigData = .ok)
    {mdCtx : M.MdContext} (started : initializeMdContext M w B.sigData = .ok mdCtx) (given : Copies w s p q r s₁)
    (nonzeroP : p ≠ 0) (nonzeroQ : q ≠ 0) (nonzeroR : r ≠ 0) :
    ∃ s', fillNode w a b B.sigData s = .ok (.ok, s') ∧ Aside a s s' ∧ Filled a B s s' := by
  obtain ⟨digest, signed, message, s', copied, keeps, digestBlock, signedBlock, messageBlock, apart, fresh⟩ :=
    given.granted nonzeroP nonzeroQ nonzeroR B buffer
  have sha256 := ((checkPkcs7Validity_ok B.sigData).mp valid).2.2.2.2
  obtain ⟨-, here⟩ := (initializeMdContext_yields ..).result started
  rw [sha256] at here
  rw [fillNode, if_neg (not_not.mpr valid), started]
  dsimp only
  rw [copied]
  refine ⟨_, rfl, ⟨keeps.list, fun x other => ?_, keeps.memory⟩, ?_⟩
  · exact (Function.update_of_ne other _ _).trans (by rw [keeps.node])
  · exact Filled.of_node (Function.update_self ..) (by rw [here]; rfl) digestBlock signedBlock messageBlock sha256 rfl apart fresh

theorem fillNode_spec (w : World) (a : Nat) (B : Bundle) (buffer : s.memory b = some B.buf) :
    ∃ err s', fillNode w a b B.sigData s = .ok (err, s') ∧ Aside a s s' ∧
      (err = .ok → checkPkcs7Validity M B.sigData = .ok ∧ M.mdInfoFromType .sha256 = true ∧ Filled a B s s') := by
  by_cases invalid : checkPkcs7Validity M B.sigData ≠ .ok
  · rw [fillNode, if_pos invalid]
    exact ⟨_, s, rfl, (Keeps.refl s).aside a, fun ok => absurd ok invalid⟩
  · have valid := not_not.mp invalid
    cases started : initializeMdContext M w B.sigData with
    | error e =>
      rw [fillNode, if_neg invalid, started]
      exact ⟨e, s, rfl, (Keeps.refl s).aside a, fun ok => absurd ok ((initializeMdContext_yields ..).code started)⟩
    | ok mdCtx =>
      obtain ⟨p, q, r, s₁, given⟩ := copies w s
      by_cases null : p = 0 ∨ q = 0 ∨ r = 0
      · obtain ⟨s', copied, keeps⟩ := given.starved null B.sigData
        rw [fillNode, if_neg invalid, started]
        dsimp only
        rw [copied]
        refine ⟨.noMem, _, rfl, ⟨keeps.list, fun x other => ?_, keeps.memory⟩, fun ok => by cases ok⟩
        exact (Function.update_of_ne other _ _).trans (by rw [keeps.node])
      · rw [not_or, not_or] at null
        obtain ⟨nonzeroP, nonzeroQ, nonzeroR⟩ := null
        obtain ⟨s', result, aside, filled⟩ := fillNode_granted a buffer valid started given nonzeroP nonzeroQ nonzeroR
        have known := ((initializeMdContext_yields ..).result started).1
        rw [((checkPkcs7Validity_ok B.sigData).mp valid).2.2.2.2] at known
        exact ⟨.ok, s', result, aside, fun _ => ⟨valid, known, filled⟩⟩

theorem rollback_iff (signingTimeIn : Option Time.ArtikTime) (time : Time.ArtikTime) :
    (signingTimeIn.any fun earliest => Time.artikTimeCompareDates earliest time > 0) = true ↔
      ∃ earliest ∈ signingTimeIn, time.Earlier earliest := by
  rw [Option.any_eq_true]
  refine exists_congr fun earliest => and_congr_right fun _ => ?_
  rw [decide_eq_true_iff]
  exact Time.compareDates_pos earliest time

theorem checkBundle_spec (w : World) (a : Nat) {buf : List UInt8} (rootCA : List Crt) (signingTimeIn : Option Time.ArtikTime)
    (buffer : s.memory b = some buf) :
    ∃ err time s', checkBundle w a b buf rootCA signingTimeIn s = .ok (err, time, s') ∧ Aside a s s' ∧
      (err = .ok → ∃ sigData, pkcs7GetSignedData M buf w.digestAlgoIds w.chain rootCA = .ok sigData ∧
        Passes M signingTimeIn ⟨buf, rootCA, sigData⟩ ∧ Filled a ⟨buf, rootCA, sigData⟩ s s') := by
  rw [checkBundle]
  cases parsed : pkcs7GetSignedData M buf w.digestAlgoIds w.chain rootCA with
  | error e =>
    have code := (signedData_yields ..).code parsed
    exact ⟨e, none, s, rfl, (Keeps.refl s).aside a, fun ok => absurd ok code⟩
  | ok sigData =>
    dsimp only
    by_cases early : (signingTimeIn.any fun earliest => Time.artikTimeCompareDates earliest (signingTime sigData) > 0) = true
    · rw [if_pos early]
      exact ⟨_, _, s, rfl, (Keeps.refl s).aside a, fun ok => by cases ok⟩
    · rw [if_neg early]
      obtain ⟨err, s', filled, aside, outcome⟩ := fillNode_spec w a ⟨buf, rootCA, sigData⟩ buffer
      rw [filled]
      refine ⟨err, _, s', rfl, aside, fun ok => ?_⟩
      obtain ⟨valid, known, filled⟩ := outcome ok
      refine ⟨sigData, rfl, ⟨valid, known, fun earliest given earlier => ?_⟩, filled⟩
      exact early ((rollback_iff ..).mpr ⟨earliest, given, earlier⟩)

theorem Aside.trans {a : Nat} (first : Aside a s s₁) (second : Aside a s₁ s₂) : Aside a s s₂ := by
  refine ⟨second.list.trans first.list, fun x other => (second.node x other).trans (first.node x other), fun p used => ?_⟩
  have here := first.memory p used
  rw [second.memory p (by rw [here, used]), here]

/-- The buffer of the bundle, and what follows once it is freed. -/
theorem free_buffer {a : Nat} (allocated : alloc w.pem bytes s = some (b, s₁)) (aside : Aside a s₁ s₂) :
    ∃ s', free b s₂ = .ok s' ∧ Aside a s s' ∧ ∀ B, Filled a B s₁ s₂ → Filled a B s s' := by
  obtain ⟨nonzero, fresh, buffer, keeps, others⟩ := alloc_some allocated
  have used : (s₂.memory b).isSome = true := by
    rw [aside.memory b (by rw [buffer]; rfl), buffer]
    rfl
  have whole := (keeps.aside a).trans aside
  refine ⟨{ s₂ with memory := Function.update s₂.memory b none }, ?_, ⟨whole.list, whole.node, fun p there => ?_⟩, fun B filled => ?_⟩
  · rw [free, if_neg nonzero, if_pos used]
  · have other : p ≠ b := by
      rintro rfl
      rw [fresh] at there
      cases there
    exact (Function.update_of_ne other _ _).trans (whole.memory p there)
  · have other : ∀ p ∈ blocks s₂ ⟨a, B, []⟩, p ≠ b := by
      rintro p member rfl
      have new := filled.fresh p member
      rw [buffer] at new
      cases new
    refine ⟨filled.holds.frame rfl fun p member => Function.update_of_ne (other p member) _ _, filled.apart, fun p member => ?_⟩
    rw [← others p (other p member), filled.fresh p member]

theorem readSignature_spec (w : World) (a : Nat) (signaturePem rootCa : List UInt8) (signingTimeIn : Option Time.ArtikTime)
    (s : State M) :
    ∃ err time s', readSignature w a signaturePem rootCa signingTimeIn s = .ok (err, time, s') ∧ Aside a s s' ∧
      (err = .ok → ∃ B, readBundle M w signaturePem rootCa = some B ∧ Passes M signingTimeIn B ∧ Filled a B s s') := by
  rw [readSignature, readBundle]
  cases M.pemReadBuffer "-----BEGIN PKCS7-----" "-----END PKCS7-----" signaturePem with
  | none => exact ⟨_, _, s, rfl, (Keeps.refl s).aside a, fun ok => by cases ok⟩
  | some buf =>
    dsimp only
    cases allocated : alloc w.pem buf s with
    | none => exact ⟨_, _, s, rfl, (Keeps.refl s).aside a, fun ok => by cases ok⟩
    | some r =>
      obtain ⟨b, s₁⟩ := r
      dsimp only
      cases M.x509CrtParse (rootCa ++ [0]) with
      | none =>
        obtain ⟨s', freed, aside, -⟩ := free_buffer allocated ((Keeps.refl s₁).aside a)
        dsimp only
        rw [freed]
        exact ⟨_, _, s', rfl, aside, fun ok => by cases ok⟩
      | some rootCA =>
        have buffer : s₁.memory b = some buf := by
          obtain ⟨-, -, block, -⟩ := alloc_some allocated
          exact block
        obtain ⟨err, time, s₂, checked, aside, outcome⟩ := checkBundle_spec w a rootCA signingTimeIn buffer
        obtain ⟨s', freed, aside', filled'⟩ := free_buffer allocated aside
        dsimp only
        rw [checked]
        dsimp only
        rw [freed]
        refine ⟨err, time, s', rfl, aside', fun ok => ?_⟩
        obtain ⟨sigData, parsed, passes, filled⟩ := outcome ok
        rw [parsed]
        exact ⟨_, rfl, passes, filled' _ filled⟩

/-! ## The three functions -/

/-- The first node at an address is removed. -/
theorem removeFirst_middle {e : ArtikList.Elem} {xs ys : List ArtikList.Elem} (fresh : e.1 ∉ xs.map Prod.fst) :
    ArtikList.removeFirst (fun x => x.1 = e.1) (xs ++ e :: ys) = ⟨.code .ok, xs ++ ys, [e]⟩ := by
  have absent : ∀ x ∈ xs, ¬ decide (x.1 = e.1) = true := fun x member same =>
    fresh (List.mem_map.mpr ⟨x, member, of_decide_eq_true same⟩)
  have here : decide (e.1 = e.1) = true := decide_eq_true rfl
  have erased : (e :: ys).eraseP (fun x => decide (x.1 = e.1)) = ys := List.eraseP_cons_of_pos here
  have found : (e :: ys).find? (fun x => decide (x.1 = e.1)) = some e := List.find?_cons_of_pos here
  rw [ArtikList.removeFirst, List.find?_append, List.find?_eq_none.mpr absent, List.eraseP_append_right _ absent, erased, found]
  rfl

/-- The contexts there were, beside a node that is not theirs. -/
theorem Represents.beside {a : Nat} (rep : Represents s cs) (fresh : a ∉ cs.map Context.handle)
    (list : ArtikList.Refines s'.verifyNodes (cs.map Context.elem)) (node : ∀ x, x ≠ a → s'.node x = s.node x)
    (memory : ∀ p, (s.memory p).isSome = true → s'.memory p = s.memory p) : Represents s' cs :=
  rep.frame list (fun _ member => node _ fun same => fresh (same ▸ List.mem_map_of_mem member)) fun c member p inside =>
    memory p ((rep.holds c member).used inside)

/-- One more context, in memory that was not in use. -/
theorem Represents.snoc {a : Nat} {B : Bundle} (rep : Represents s cs) (fresh : a ∉ cs.map Context.handle)
    (list : ArtikList.Refines s'.verifyNodes ((cs ++ [Context.mk a B []]).map Context.elem))
    (others : ∀ x, x ≠ a → s'.node x = s.node x) (memory : ∀ p, (s.memory p).isSome = true → s'.memory p = s.memory p)
    (filled : Filled a B s s') : Represents s' (cs ++ [⟨a, B, []⟩]) := by
  have node : ∀ c ∈ cs, s'.node c.handle = s.node c.handle := fun c member =>
    others _ fun same => fresh (same ▸ List.mem_map_of_mem member)
  have same : cs.flatMap (blocks s') = cs.flatMap (blocks s) := List.flatMap_congr fun c member => blocks_frame (node c member)
  refine ⟨list, fun c member => ?_, ?_⟩
  · rcases List.mem_append.mp member with old | new
    · exact (rep.holds c old).frame (node c old) fun p inside => memory p ((rep.holds c old).used inside)
    · rw [List.mem_singleton.mp new]
      exact filled.holds
  · rw [List.flatMap_append, List.flatMap_singleton, same]
    refine List.nodup_append.mpr ⟨rep.apart, filled.apart, fun p old q new => ?_⟩
    rintro rfl
    obtain ⟨c, member, inside⟩ := List.mem_flatMap.mp old
    have used := (rep.holds c member).used inside
    rw [filled.fresh p new] at used
    cases used

/-- **Init**: it fails and adds no context, or it adds one for a bundle that passes. -/
theorem init_spec (rep : Represents s cs) (w : World) (handle : Bool) (signaturePem rootCa : List UInt8)
    (signingTimeIn : Option Time.ArtikTime) :
    ∃ s' r, osVerifySignatureInit w handle signaturePem rootCa signingTimeIn s = .ok (s', r) ∧
      (r.err ≠ .ok ∧ r.handle = none ∧ Represents s' cs ∨
        ∃ a B, r.err = .ok ∧ r.handle = some a ∧ readBundle M w signaturePem rootCa = some B ∧ Passes M signingTimeIn B ∧
          a ∉ cs.map Context.handle ∧ Represents s' (cs ++ [⟨a, B, []⟩])) := by
  rw [osVerifySignatureInit]
  by_cases place : handle = false
  · rw [if_pos place]
    exact ⟨s, _, rfl, .inl ⟨by decide, rfl, rep⟩⟩
  rw [if_neg place]
  obtain ⟨list, a, added, ⟨rfl, -, refines⟩ | ⟨nonnull, -, fresh, refines⟩⟩ := ArtikList.add_cases rep.refines verifyNodeSize w.node
  · rw [added]
    exact ⟨_, _, rfl, .inl ⟨by decide, rfl, rep.frame refines (fun _ _ => rfl) fun _ _ _ _ => rfl⟩⟩
  · rw [added]
    dsimp only
    rw [if_neg nonnull]
    rw [handles_eq] at fresh
    have cleared : Aside a { s with verifyNodes := list } { s with verifyNodes := list, node := Function.update s.node a (.zero M) } :=
      ⟨rfl, fun x other => Function.update_of_ne other _ _, fun _ _ => rfl⟩
    obtain ⟨err, time, t, read, aside, outcome⟩ := readSignature_spec w a signaturePem rootCa signingTimeIn
      { s with verifyNodes := list, node := Function.update s.node a (.zero M) }
    have whole := cleared.trans aside
    have there : t.verifyNodes = list := whole.list
    rw [read]
    dsimp only
    by_cases ok : err = .ok
    · rw [if_pos ok]
      obtain ⟨B, bundle, passes, filled⟩ := outcome ok
      refine ⟨t, _, rfl, .inr ⟨a, B, rfl, rfl, bundle, passes, fresh, ?_⟩⟩
      have more : ArtikList.Refines t.verifyNodes ((cs ++ [Context.mk a B []]).map Context.elem) := by
        rw [there, List.map_append]
        exact refines
      exact rep.snoc fresh more whole.node whole.memory ⟨filled.holds, filled.apart, filled.fresh⟩
    · rw [if_neg ok]
      obtain ⟨list', code, deleted, -, follows⟩ := ArtikList.deleteNode_follows noClear refines a
      rw [there, deleted]
      have back : ArtikList.Refines list' (cs.map Context.elem) := by
        have last := follows.refines
        rw [removeFirst_middle (e := (a, _)) (by rw [handles_eq]; exact fresh), List.append_nil] at last
        exact last
      exact ⟨_, _, rfl, .inl ⟨ok, rfl, rep.beside fresh back whole.node whole.memory⟩⟩

theorem getByHandle_context (rep : Represents s cs) (handle : Nat) :
    ArtikList.artikListGetByHandle handle s.verifyNodes = .ok (if handle ∈ cs.map Context.handle then handle else 0) := by
  rw [ArtikList.getByHandle_eq rep.refines]
  by_cases known : handle ∈ cs.map Context.handle
  · rw [if_pos known]
    obtain ⟨c, member, rfl⟩ := List.mem_map.mp known
    rw [if_neg (rep.nonzero member), List.find?_map]
    cases found : cs.find? ((fun e => decide (e.2.handle = c.handle)) ∘ Context.elem) with
    | none => exact absurd rfl (of_decide_eq_false (Bool.eq_false_iff.mpr (List.find?_eq_none.mp found c member)))
    | some c' =>
      have matches' := List.find?_some found
      have same : decide (c'.handle = c.handle) = true := matches'
      exact congrArg Except.ok (of_decide_eq_true same)
  · rw [if_neg known]
    have absent : (cs.map Context.elem).find? (fun e => e.2.handle = handle) = none := by
      refine List.find?_eq_none.mpr fun e member same => known ?_
      obtain ⟨c, inside, rfl⟩ := List.mem_map.mp member
      exact List.mem_map.mpr ⟨c, inside, of_decide_eq_true same⟩
    rw [absent]
    split <;> rfl

/-- A handle that no context has, and an update without data, are refused. -/
theorem update_refused (rep : Represents s cs) {handle : Nat} {data : Option (List UInt8)}
    (refused : handle ∉ cs.map Context.handle ∨ data = none ∨ data = some []) :
    osVerifySignatureUpdate handle data s = .ok (s, .badArgs) := by
  rw [osVerifySignatureUpdate, getByHandle_context rep]
  dsimp only
  by_cases null : (if handle ∈ cs.map Context.handle then handle else 0) = 0
  · rw [if_pos null]
  · rw [if_neg null]
    obtain absent | rfl | rfl := refused
    · rw [if_neg absent] at null
      exact absurd rfl null
    · rfl
    · rfl

theorem final_refused (rep : Represents s cs) {handle : Nat} (absent : handle ∉ cs.map Context.handle) :
    osVerifySignatureFinal handle s = .ok (s, .badArgs) := by
  rw [osVerifySignatureFinal, getByHandle_context rep, if_neg absent]
  rfl

theorem Represents.unique (rep : Represents s cs) (member : c ∈ cs) (member' : c' ∈ cs) (same : c'.handle = c.handle) : c' = c :=
  List.inj_on_of_nodup_map rep.handles member' member same

theorem feed_snoc (chunks : List (List UInt8)) (data : List UInt8) :
    feed M (chunks ++ [data]) = (M.mdUpdate (feed M chunks) data).2 := by
  rw [feed, List.foldl_append]
  rfl

/-- The contexts after a chunk for one of them. -/
theorem Represents.grow (rep : Represents s cs) (member : c ∈ cs) (data : List UInt8)
    (node : s'.node c.handle = { s.node c.handle with mdCtx := some (M.mdUpdate (feed M c.chunks) data).2 })
    (others : ∀ x, x ≠ c.handle → s'.node x = s.node x) (list : s'.verifyNodes = s.verifyNodes) (memory : s'.memory = s.memory) :
    Represents s' (cs.map fun c' => if c'.handle = c.handle then { c' with chunks := c'.chunks ++ [data] } else c') := by
  have holds := rep.holds c member
  have elems : (cs.map fun c' => if c'.handle = c.handle then { c' with chunks := c'.chunks ++ [data] } else c').map Context.elem =
      cs.map Context.elem := by
    rw [List.map_map]
    refine List.map_congr_left fun c' _ => ?_
    rw [Function.comp_apply]
    split <;> rfl
  have same : ∀ c' ∈ cs, blocks s' (if c'.handle = c.handle then { c' with chunks := c'.chunks ++ [data] } else c') = blocks s c' := by
    intro c' inside
    by_cases mine : c'.handle = c.handle
    · rw [if_pos mine, rep.unique member inside mine, blocks, node, blocks]
    · rw [if_neg mine, blocks_frame (others _ mine)]
  refine ⟨by rw [elems, list]; exact rep.refines, fun c'' changed => ?_, ?_⟩
  · obtain ⟨c', inside, rfl⟩ := List.mem_map.mp changed
    by_cases mine : c'.handle = c.handle
    · rw [if_pos mine, rep.unique member inside mine]
      constructor
      · rw [node, feed_snoc]
      · rw [node, Block, memory]
        exact holds.digest
      · rw [node, Block, memory]
        exact holds.signature
      · rw [node, Block, memory]
        exact holds.message
      · rw [node]
        exact holds.digestAlgId
      · rw [node]
        exact holds.chain
    · rw [if_neg mine]
      exact (rep.holds c' inside).frame (others _ mine) fun p _ => by rw [memory]
  · rw [List.flatMap_map, List.flatMap_congr same]
    exact rep.apart

/-- **Update**: the chunk is appended to the context's. -/
theorem update_spec (rep : Represents s cs) (member : c ∈ cs) {data : List UInt8} (nonempty : data ≠ []) :
    ∃ s', osVerifySignatureUpdate c.handle (some data) s =
        .ok (s', if (M.mdUpdate (feed M c.chunks) data).1 ≠ 0 then .badArgs else .ok) ∧
      Represents s' (cs.map fun c' => if c'.handle = c.handle then { c' with chunks := c'.chunks ++ [data] } else c') := by
  have holds := rep.holds c member
  rw [osVerifySignatureUpdate, getByHandle_context rep, if_pos (List.mem_map_of_mem member)]
  dsimp only
  rw [if_neg (rep.nonzero member), if_neg (mt List.length_eq_zero_iff.mp nonempty), holds.mdCtx]
  dsimp only
  refine ⟨{ s with node := Function.update s.node c.handle { s.node c.handle with mdCtx := some (M.mdUpdate (feed M c.chunks) data).2 } },
    ?_, rep.grow member data (Function.update_self ..) (fun x other => Function.update_of_ne other _ _) rfl rfl⟩
  by_cases failed : (M.mdUpdate (feed M c.chunks) data).1 ≠ 0
  · rw [if_pos failed, if_pos failed]
  · rw [if_neg failed, if_neg failed]

theorem free_used (used : (s.memory p).isSome = true) :
    ∃ s', free p s = .ok s' ∧ s'.verifyNodes = s.verifyNodes ∧ s'.node = s.node ∧ ∀ x, x ≠ p → s'.memory x = s.memory x := by
  rw [free]
  by_cases null : p = 0
  · rw [if_pos null]
    exact ⟨s, rfl, rfl, rfl, fun _ _ => rfl⟩
  · rw [if_neg null, if_pos used]
    exact ⟨_, rfl, rfl, rfl, fun x other => Function.update_of_ne other _ _⟩

/-- What is found out about a context is the verdict on it. -/
theorem finalChecks_eq (holds : Holds s c) : finalChecks (s.node c.handle) (feed M c.chunks) s = .ok (verdict M c) := by
  obtain ⟨digest, digestLen⟩ := holds.digest
  obtain ⟨signature, signatureLen⟩ := holds.signature
  obtain ⟨message, messageLen⟩ := holds.message
  rw [finalChecks, verdict, digest, message, signature, digestLen, signatureLen, messageLen, holds.digestAlgId, holds.chain]
  dsimp only
  rw [List.take_length, List.take_length]
  split_ifs <;> rfl

/-- The other contexts are those of other handles. -/
theorem filter_handle (handles : ((pre ++ c :: post).map Context.handle).Nodup) :
    ((pre ++ c :: post).filter fun c' => c'.handle ≠ c.handle) = pre ++ post ∧ c.handle ∉ (pre ++ post).map Context.handle := by
  rw [List.map_append, List.map_cons, List.nodup_middle, ← List.map_append] at handles
  obtain ⟨fresh, -⟩ := List.nodup_cons.mp handles
  have other : ∀ c' ∈ pre ++ post, decide (c'.handle ≠ c.handle) = true := fun c' member =>
    decide_eq_true fun same => fresh (List.mem_map.mpr ⟨c', member, same⟩)
  refine ⟨?_, fresh⟩
  rw [List.filter_append, List.filter_cons_of_neg (by simp), ← List.filter_append, List.filter_eq_self.mpr other]

/-- The node of a context is removed. -/
theorem removeFirst_context (fresh : c.handle ∉ (pre ++ post).map Context.handle) :
    (ArtikList.removeFirst (fun e => e.1 = c.handle) ((pre ++ c :: post).map Context.elem)).list = (pre ++ post).map Context.elem := by
  have absent : c.elem.1 ∉ (pre.map Context.elem).map Prod.fst := by
    rw [handles_eq]
    intro member
    rw [List.map_append] at fresh
    exact fresh (List.mem_append_left _ member)
  have removed : ArtikList.removeFirst (fun e => e.1 = c.handle) (pre.map Context.elem ++ c.elem :: post.map Context.elem) = _ :=
    removeFirst_middle absent
  rw [List.map_append, List.map_cons, List.map_append]
  rw [removed]

/-- The blocks of a context are its alone. -/
theorem apart_middle (apart : ((pre ++ c :: post).flatMap (blocks s)).Nodup) :
    (blocks s c).Nodup ∧ ((pre ++ post).flatMap (blocks s)).Nodup ∧ ∀ c' ∈ pre ++ post, ∀ p ∈ blocks s c', p ∉ blocks s c := by
  have moved : (blocks s c ++ (pre ++ post).flatMap (blocks s)).Nodup := by
    refine (List.Perm.nodup_iff ?_).mp apart
    rw [List.flatMap_append, List.flatMap_cons, List.flatMap_append]
    exact List.perm_append_comm_assoc ..
  obtain ⟨here, rest, across⟩ := List.nodup_append.mp moved
  exact ⟨here, rest, fun c' member p inside mine => across p mine p (List.mem_flatMap.mpr ⟨c', member, inside⟩) rfl⟩

/-- **Final**: the verdict on the context, which is closed. -/
theorem final_spec (rep : Represents s cs) (member : c ∈ cs) :
    ∃ s', osVerifySignatureFinal c.handle s = .ok (s', verdict M c) ∧ Represents s' (cs.filter fun c' => c'.handle ≠ c.handle) := by
  have holds := rep.holds c member
  rw [osVerifySignatureFinal, getByHandle_context rep, if_pos (List.mem_map_of_mem member)]
  dsimp only
  rw [if_neg (rep.nonzero member), holds.mdCtx]
  dsimp only
  rw [finalChecks_eq holds]
  dsimp only
  obtain ⟨pre, post, rfl⟩ := List.append_of_mem member
  obtain ⟨without, fresh⟩ := filter_handle rep.handles
  obtain ⟨here, apart, elsewhere⟩ := apart_middle rep.apart
  have usedP := holds.used (List.mem_cons_self ..)
  have usedQ := holds.used (List.mem_cons_of_mem _ (List.mem_cons_self ..))
  have usedR := holds.used (List.mem_cons_of_mem _ (List.mem_cons_of_mem _ (List.mem_cons_self ..)))
  rw [blocks, List.nodup_cons, List.nodup_cons, List.mem_cons, List.mem_singleton, not_or, List.mem_singleton] at here
  obtain ⟨⟨apartPQ, apartPR⟩, apartQR, -⟩ := here
  obtain ⟨s₁, freed₁, list₁, node₁, memory₁⟩ := free_used usedP
  obtain ⟨s₂, freed₂, list₂, node₂, memory₂⟩ := free_used (s := s₁) (by rw [memory₁ _ (Ne.symm apartPQ)]; exact usedQ)
  obtain ⟨s₃, freed₃, list₃, node₃, memory₃⟩ := free_used (s := s₂)
    (by rw [memory₂ _ (Ne.symm apartQR), memory₁ _ (Ne.symm apartPR)]; exact usedR)
  have list : s₃.verifyNodes = s.verifyNodes := list₃.trans (list₂.trans list₁)
  obtain ⟨list', code, deleted, -, follows⟩ := ArtikList.deleteNode_follows noClear rep.refines c.handle
  simp only [freed₁, freed₂, freed₃, bind, Except.bind]
  rw [list, deleted]
  refine ⟨{ s₃ with verifyNodes := list' }, rfl, ?_⟩
  have refines := follows.refines
  rw [removeFirst_context fresh] at refines
  rw [without]
  have node : ∀ x, s₃.node x = s.node x := fun x => by rw [node₃, node₂, node₁]
  refine ⟨refines, fun c' inside => ?_, ?_⟩
  · refine (rep.holds c' (by grind)).frame (node _) fun p mine => ?_
    have other := elsewhere c' inside p mine
    rw [blocks, List.mem_cons, List.mem_cons, List.mem_singleton, not_or, not_or] at other
    obtain ⟨otherP, otherQ, otherR⟩ := other
    exact (memory₃ _ otherR).trans ((memory₂ _ otherQ).trans (memory₁ _ otherP))
  · have same : (pre ++ post).flatMap (blocks { s₃ with verifyNodes := list' }) = (pre ++ post).flatMap (blocks s) :=
      List.flatMap_congr fun c' _ => blocks_frame (node _)
    rw [same]
    exact apart

/-- **Step lemma**: every call is a transition of the contexts. -/
theorem step_transition (rep : Represents s cs) (input : Input) :
    ∃ s' o cs', step M input s = .ok (s', o) ∧ Transition M cs input o cs' ∧ Represents s' cs' := by
  cases input with
  | init w handle signaturePem rootCa signingTimeIn =>
    obtain ⟨s', r, result, ⟨failed, nowhere, rep'⟩ | ⟨a, B, ok, given, read, passes, fresh, rep'⟩⟩ :=
      init_spec rep w handle signaturePem rootCa signingTimeIn
    · exact ⟨s', .init r, cs, by rw [step, result]; rfl, .initFailed failed nowhere, rep'⟩
    · exact ⟨s', .init r, _, by rw [step, result]; rfl, .init ok given read passes fresh, rep'⟩
  | update handle data =>
    by_cases refused : handle ∉ cs.map Context.handle ∨ data = none ∨ data = some []
    · exact ⟨s, _, cs, by rw [step, update_refused rep refused]; rfl, .updateRefused refused, rep⟩
    · rw [not_or, not_or, not_not] at refused
      obtain ⟨known, notNull, nonempty⟩ := refused
      obtain ⟨c, member, rfl⟩ := List.mem_map.mp known
      obtain ⟨data, rfl⟩ := Option.ne_none_iff_exists'.mp notNull
      have nonempty : data ≠ [] := fun empty => nonempty (congrArg some empty)
      obtain ⟨s', result, rep'⟩ := update_spec rep member nonempty
      exact ⟨s', _, _, by rw [step, result]; rfl, .update member nonempty, rep'⟩
  | final handle =>
    by_cases known : handle ∈ cs.map Context.handle
    · obtain ⟨c, member, rfl⟩ := List.mem_map.mp known
      obtain ⟨s', result, rep'⟩ := final_spec rep member
      exact ⟨s', _, _, by rw [step, result]; rfl, .final member, rep'⟩
    · exact ⟨s, _, cs, by rw [step, final_refused rep known]; rfl, .finalRefused known, rep⟩

end ArtikSdk.Security
