import ArtikSdk.Base.ArtikSequence
import ArtikSdk.Security.Verify

/-!
# Verification contexts

The abstract state: the contexts that are open, each with its handle, its bundle, and the
data it was given. `Represents` says where the code keeps them: a node for each, with three
blocks that are the node's alone. Every call keeps that, and does to the contexts what
`observe` reads from the call.
-/

namespace ArtikSdk.Security
open Lib

/-- A bundle, with the certificates it was checked against. -/
structure Bundle where
  buf : List UInt8
  rootCA : List Crt
  sigData : SignedData buf.length

def Bundle.digest (b : Bundle) : List UInt8 := b.sigData.signer.attributes.digest.bytes

def Bundle.signature (b : Bundle) : List UInt8 := b.sigData.signer.encryptedDigest.bytes

/-- The authenticated attributes, with the tag of a SET. -/
def Bundle.message (b : Bundle) : List UInt8 := 0x31 :: b.sigData.signer.raw.bytes.tail

/-- The bundle in a signature. -/
def readBundle (M : Mbedtls) (w : World) (signaturePem rootCa : List UInt8) : Option Bundle :=
  match M.pemReadBuffer "-----BEGIN PKCS7-----" "-----END PKCS7-----" signaturePem, M.x509CrtParse (rootCa ++ [0]) with
  | some buf, some rootCA =>
    match pkcs7GetSignedData M buf w.digestAlgoIds w.chain rootCA with
    | .error _ => none
    | .ok sigData => some ⟨buf, rootCA, sigData⟩
  | _, _ => none

structure Context where
  handle : Nat
  bundle : Bundle
  chunks : List (List UInt8)

/-- The digest context after the chunks. -/
def feed (M : Mbedtls) (chunks : List (List UInt8)) : M.MdContext :=
  chunks.foldl (fun mdCtx data => (M.mdUpdate mdCtx data).2) (M.mdStarted .sha256)

/-- What `final` finds out about a context. -/
def verdict (M : Mbedtls) (c : Context) : ArtikError :=
  let (ret, mdDat) := M.mdFinish (feed M c.chunks)
  let mdLen := (M.mdGetSize .sha256).toNat
  if ret ≠ 0 then .badArgs
  else if mdLen ≠ c.bundle.digest.length || c.bundle.digest.take mdLen ≠ mdDat.take mdLen then .securityDigestMismatch
  else if (M.md .sha256 c.bundle.message).1 ≠ 0 then .securitySignatureMismatch
  else if M.pkVerify (leaf c.bundle.sigData.chain) .sha256 (M.md .sha256 c.bundle.message).2 c.bundle.signature ≠ 0 then
    .securitySignatureMismatch
  else .ok

/-- The bundle passes the checks, the library has its digest, and it was not signed before the
rollback time. -/
structure Passes (M : Mbedtls) (signingTimeIn : Option Time.ArtikTime) (b : Bundle) : Prop where
  valid : checkPkcs7Validity M b.sigData = .ok
  known : M.mdInfoFromType .sha256 = true
  time : ∀ earliest ∈ signingTimeIn, ¬ (signingTime b.sigData).Earlier earliest

/-- What a call returns, and the contexts it leaves. -/
inductive Transition (M : Mbedtls) (cs : List Context) : Input → Output → List Context → Prop where
  | initFailed {w : World} {handle : Bool} {signaturePem rootCa : List UInt8} {signingTimeIn : Option Time.ArtikTime} {r : InitResult}
      (failed : r.err ≠ .ok) (nowhere : r.handle = none) :
      Transition M cs (.init w handle signaturePem rootCa signingTimeIn) (.init r) cs
  | init {w : World} {handle : Bool} {signaturePem rootCa : List UInt8} {signingTimeIn : Option Time.ArtikTime} {r : InitResult}
      {a : Nat} {b : Bundle} (ok : r.err = .ok) (given : r.handle = some a) (read : readBundle M w signaturePem rootCa = some b)
      (passes : Passes M signingTimeIn b) (fresh : a ∉ cs.map Context.handle) :
      Transition M cs (.init w handle signaturePem rootCa signingTimeIn) (.init r) (cs ++ [⟨a, b, []⟩])
  | updateRefused {handle : Nat} {data : Option (List UInt8)}
      (refused : handle ∉ cs.map Context.handle ∨ data = none ∨ data = some []) :
      Transition M cs (.update handle data) (.code .badArgs) cs
  | update {c : Context} {data : List UInt8} (member : c ∈ cs) (nonempty : data ≠ []) :
      Transition M cs (.update c.handle (some data)) (.code (if (M.mdUpdate (feed M c.chunks) data).1 ≠ 0 then .badArgs else .ok))
        (cs.map fun c' => if c'.handle = c.handle then { c' with chunks := c'.chunks ++ [data] } else c')
  | finalRefused {handle : Nat} (absent : handle ∉ cs.map Context.handle) : Transition M cs (.final handle) (.code .badArgs) cs
  | final {c : Context} (member : c ∈ cs) :
      Transition M cs (.final c.handle) (.code (verdict M c)) (cs.filter fun c' => c'.handle ≠ c.handle)

/-! ## Where the code keeps them -/

/-- The element of a context. -/
def Context.elem (c : Context) : ArtikList.Elem := (c.handle, ⟨0, c.handle, verifyNodeSize.bytes - ArtikList.sizeofNode, 0⟩)

variable {M : Mbedtls} {s s' s'' : State M} {cs pre post : List Context} {c c' : Context} {p q r : Nat} {bytes : List UInt8}
  {w : World}

/-- The block at a pointer has the bytes and no others. -/
def Block (s : State M) (at' : Pointer) (bytes : List UInt8) : Prop := s.memory at'.p = some bytes ∧ at'.len = bytes.length

structure Holds (s : State M) (c : Context) : Prop where
  mdCtx : (s.node c.handle).mdCtx = some (feed M c.chunks)
  digest : Block s (s.node c.handle).dataDigest c.bundle.digest
  signature : Block s (s.node c.handle).signedDigest c.bundle.signature
  message : Block s (s.node c.handle).messageData c.bundle.message
  digestAlgId : (s.node c.handle).digestAlgId = .sha256
  chain : (s.node c.handle).chain = c.bundle.sigData.chain

/-- The blocks of a context. -/
def blocks (s : State M) (c : Context) : List Nat :=
  [(s.node c.handle).dataDigest.p, (s.node c.handle).signedDigest.p, (s.node c.handle).messageData.p]

structure Represents (s : State M) (cs : List Context) : Prop where
  refines : ArtikList.Refines s.verifyNodes (cs.map Context.elem)
  holds : ∀ c ∈ cs, Holds s c
  apart : (cs.flatMap (blocks s)).Nodup

theorem represents_init : Represents (State.init M) [] :=
  ⟨⟨rfl, rfl, fun _ => rfl⟩, fun _ member => (List.not_mem_nil member).elim, List.nodup_nil⟩

theorem handles_eq (cs : List Context) : (cs.map Context.elem).map Prod.fst = cs.map Context.handle := by
  rw [List.map_map]
  rfl

theorem Represents.handles (rep : Represents s cs) : (cs.map Context.handle).Nodup := by
  rw [← handles_eq]
  exact rep.refines.chain.nodup

theorem Represents.nonzero (rep : Represents s cs) (member : c ∈ cs) : c.handle ≠ 0 :=
  (Segment.cells rep.refines.chain (List.mem_map_of_mem member)).1

/-- What a context depends on. -/
theorem Holds.frame (holds : Holds s c) (node : s'.node c.handle = s.node c.handle)
    (memory : ∀ p ∈ blocks s c, s'.memory p = s.memory p) : Holds s' c := by
  have digest := memory _ (List.mem_cons_self ..)
  have signature := memory _ (List.mem_cons_of_mem _ (List.mem_cons_self ..))
  have message := memory _ (List.mem_cons_of_mem _ (List.mem_cons_of_mem _ (List.mem_cons_self ..)))
  constructor
  · rw [node, holds.mdCtx]
  · rw [node, Block, digest]
    exact holds.digest
  · rw [node, Block, signature]
    exact holds.signature
  · rw [node, Block, message]
    exact holds.message
  · rw [node, holds.digestAlgId]
  · rw [node, holds.chain]

/-- Its blocks are in use. -/
theorem Holds.used (holds : Holds s c) (member : p ∈ blocks s c) : (s.memory p).isSome = true := by
  rw [blocks, List.mem_cons, List.mem_cons, List.mem_singleton] at member
  obtain rfl | rfl | rfl := member
  · rw [holds.digest.1]
    rfl
  · rw [holds.signature.1]
    rfl
  · rw [holds.message.1]
    rfl

theorem blocks_frame (node : s'.node c.handle = s.node c.handle) : blocks s' c = blocks s c := by rw [blocks, node, blocks]

/-- **Frame rule**: the contexts depend on the list, on their nodes and on their blocks. -/
theorem Represents.frame (rep : Represents s cs) (list : ArtikList.Refines s'.verifyNodes (cs.map Context.elem))
    (node : ∀ c ∈ cs, s'.node c.handle = s.node c.handle)
    (memory : ∀ c ∈ cs, ∀ p ∈ blocks s c, s'.memory p = s.memory p) : Represents s' cs := by
  refine ⟨list, fun c member => (rep.holds c member).frame (node c member) (memory c member), ?_⟩
  have same : cs.flatMap (blocks s') = cs.flatMap (blocks s) :=
    List.flatMap_congr fun c member => blocks_frame (node c member)
  rw [same]
  exact rep.apart

end ArtikSdk.Security
