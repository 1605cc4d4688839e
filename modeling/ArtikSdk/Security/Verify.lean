import ArtikSdk.Base.ArtikList
import ArtikSdk.Base.Dates
import ArtikSdk.Security.Pkcs7

/-!
# Verifying signatures

`os_verify_signature_init`, `_update` and `_final` of `tinyara_security.c`. A verification
context is a node of `verify_nodes`, with a digest context and copies of three parts of the
bundle in memory of its own; its handle is its address. The time module is linked in.
-/

namespace ArtikSdk.Security
open Lib

/-- A pointer and a length. -/
structure Pointer where
  p : Nat
  len : Nat
deriving DecidableEq

/-- `verify_node`, behind the list's fields. -/
structure VerifyNode (M : Mbedtls) where
  mdCtx : Option M.MdContext
  dataDigest : Pointer
  signedDigest : Pointer
  messageData : Pointer
  digestAlgId : MdType
  chain : List Crt

def VerifyNode.zero (M : Mbedtls) : VerifyNode M := ⟨none, ⟨0, 0⟩, ⟨0, 0⟩, ⟨0, 0⟩, .none, []⟩

/-- The list, the nodes, and the memory that `malloc` gave. -/
structure State (M : Mbedtls) where
  verifyNodes : ArtikList.State
  node : Nat → VerifyNode M
  memory : Nat → Option (List UInt8)

def State.init (M : Mbedtls) : State M := ⟨.init, fun _ => .zero M, fun _ => none⟩

inductive Fault where
  | heap (f : Heap.Fault)
  | nullPointer
  | notAllocated
deriving DecidableEq

/-- The outcomes of the allocations of `os_verify_signature_init`, in their order, and whether
`mbedtls_md_setup` and `mbedtls_md_starts` work. -/
structure World where
  node : Malloc
  pem : Malloc
  digestAlgoIds : Nat → Bool
  chain : Bool
  mdSetup : Bool
  mdStarts : Bool
  dataDigest : Malloc
  signedDigest : Malloc
  messageData : Malloc

section

variable {M : Mbedtls}

/-! ## Memory -/

def alloc (m : Malloc) (bytes : List UInt8) (s : State M) : Option (Nat × State M) :=
  match m.pick fun a => (s.memory a).isSome with
  | none => none
  | some p => some (p, { s with memory := Function.update s.memory p (some bytes) })

/-- `free(p)` -/
def free (p : Nat) (s : State M) : Except Fault (State M) :=
  if p = 0 then .ok s
  else if (s.memory p).isSome then .ok { s with memory := Function.update s.memory p none }
  else .error .notAllocated

/-! ## Checking a bundle -/

/-- `x509_name_cmp`, as a test for `0`. -/
def x509NameCmp : Name → Name → Bool
  | [], [] => true
  | a :: as, b :: bs =>
    if a.oid.tag ≠ b.oid.tag || a.oid.bytes.length ≠ b.oid.bytes.length || a.oid.bytes ≠ b.oid.bytes then false
    else if a.val.tag ≠ b.val.tag || a.val.bytes.length ≠ b.val.bytes.length || a.val.bytes ≠ b.val.bytes then false
    else if a.nextMerged ≠ b.nextMerged then false
    else x509NameCmp as bs
  | _, _ => false

variable (M) in
def checkPkcs7Validity {n : Nat} (sigData : SignedData n) : ArtikError :=
  if x509NameCmp sigData.signer.issuer (leaf sigData.chain).issuer = false then .securityInvalidPkcs7
  else if sigData.signer.serial.bytes.length = (leaf sigData.chain).issuerId.bytes.length ∧
      sigData.signer.serial.bytes = (leaf sigData.chain).issuerId.bytes then .securityInvalidPkcs7
  else if (leaf sigData.chain).extTypes &&& extExtendedKeyUsage = 0 then .securityInvalidPkcs7
  else if M.x509CrtCheckExtendedKeyUsage (leaf sigData.chain) oidCodeSigning ≠ 0 then .securityInvalidPkcs7
  else if sigData.signer.digestAlgId ≠ .sha256 then .notSupported
  else .ok

/-- The signing time of the bundle. -/
def signingTime {n : Nat} (sigData : SignedData n) : Time.ArtikTime where
  second := Time.unsigned sigData.signer.attributes.signingTime.sec
  minute := Time.unsigned sigData.signer.attributes.signingTime.min
  hour := Time.unsigned sigData.signer.attributes.signingTime.hour
  day := Time.unsigned sigData.signer.attributes.signingTime.day
  month := Time.unsigned sigData.signer.attributes.signingTime.mon
  year := Time.unsigned sigData.signer.attributes.signingTime.year
  dayOfWeek := Time.unsigned (-1)
  msecond := 0

/-! ## Filling a context -/

variable (M) in
def initializeMdContext {n : Nat} (w : World) (sigData : SignedData n) : Except ArtikError M.MdContext :=
  if M.mdInfoFromType sigData.signer.digestAlgId = false then .error .securityInvalidPkcs7
  else if w.mdSetup = false then .error .badArgs
  else if w.mdStarts = false then .error .badArgs
  else .ok (M.mdStarted sigData.signer.digestAlgId)

/-- `memcpy(dst, src, len)` from the buffer at `b`. -/
def memcpy (b dst src len : Nat) (s : State M) : Except Fault (State M) :=
  match s.memory b with
  | none => .error .notAllocated
  | some bytes => .ok { s with memory := Function.update s.memory dst (some (slice bytes src len)) }

/-- `*p = byte` -/
def store (p : Nat) (byte : UInt8) (s : State M) : Except Fault (State M) :=
  match s.memory p with
  | some (_ :: bytes) => .ok { s with memory := Function.update s.memory p (some (byte :: bytes)) }
  | _ => .error .notAllocated

/-- One of the three allocations; null is `0`. -/
def allocCopy (m : Malloc) (s : State M) : Nat × State M :=
  match alloc m [] s with
  | none => (0, s)
  | some r => r

/-- The three copies, from the buffer at `b`. -/
def copyNodeData {n : Nat} (w : World) (b : Nat) (sigData : SignedData n) (s : State M) :
    Except Fault (ArtikError × Pointer × Pointer × Pointer × State M) :=
  let digest := sigData.signer.attributes.digest
  let signed := sigData.signer.encryptedDigest
  let message := sigData.signer.raw
  let (p, s) := allocCopy w.dataDigest s
  let (q, s) := allocCopy w.signedDigest s
  let (r, s) := allocCopy w.messageData s
  if p = 0 ∨ q = 0 ∨ r = 0 then do
    let s ← free p s
    let s ← free q s
    let s ← free r s
    return (.noMem, ⟨p, 0⟩, ⟨q, 0⟩, ⟨r, 0⟩, s)
  else do
    let s ← memcpy b p digest.p digest.len s
    let s ← memcpy b q signed.p signed.len s
    let s ← memcpy b r message.p message.len s
    let s ← store r 0x31 s
    return (.ok, ⟨p, digest.len⟩, ⟨q, signed.len⟩, ⟨r, message.len⟩, s)

/-- What `os_verify_signature_init` returns, and what it stores through its pointers. -/
structure InitResult where
  err : ArtikError
  handle : Option Nat
  signingTimeOut : Option Time.ArtikTime

/-- From the check of the bundle on, for the context `a` and the buffer at `b`. -/
def fillNode {n : Nat} (w : World) (a b : Nat) (sigData : SignedData n) (s : State M) : Except Fault (ArtikError × State M) :=
  if checkPkcs7Validity M sigData ≠ .ok then .ok (checkPkcs7Validity M sigData, s)
  else
    match initializeMdContext M w sigData with
    | .error e => .ok (e, s)
    | .ok mdCtx =>
      match copyNodeData w b sigData s with
      | .error f => .error f
      | .ok (err, digest, signed, message, s) =>
        let node : VerifyNode M :=
          if err = .ok then ⟨some mdCtx, digest, signed, message, sigData.signer.digestAlgId, sigData.chain⟩
          else { VerifyNode.zero M with mdCtx := some mdCtx, dataDigest := digest, signedDigest := signed, messageData := message }
        .ok (err, { s with node := Function.update s.node a node })

/-- The bundle in the buffer at `b`, against the root certificates and the rollback time. -/
def checkBundle (w : World) (a b : Nat) (buf : List UInt8) (rootCA : List Crt) (signingTimeIn : Option Time.ArtikTime) (s : State M) :
    Except Fault (ArtikError × Option Time.ArtikTime × State M) :=
  match pkcs7GetSignedData M buf w.digestAlgoIds w.chain rootCA with
  | .error e => .ok (e, none, s)
  | .ok sigData =>
    let time := signingTime sigData
    if signingTimeIn.any fun earliest => Time.artikTimeCompareDates earliest time > 0 then
      .ok (.securitySigningTimeRollback, some time, s)
    else
      match fillNode w a b sigData s with
      | .error f => .error f
      | .ok (err, s) => .ok (err, some time, s)

/-- Between the allocation of the context `a` and the label `cleanup_node`. -/
def readSignature (w : World) (a : Nat) (signaturePem rootCa : List UInt8) (signingTimeIn : Option Time.ArtikTime) (s : State M) :
    Except Fault (ArtikError × Option Time.ArtikTime × State M) :=
  match M.pemReadBuffer "-----BEGIN PKCS7-----" "-----END PKCS7-----" signaturePem with
  | none => .ok (.securityInvalidPkcs7, none, s)
  | some buf =>
    match alloc w.pem buf s with
    | none => .ok (.securityInvalidPkcs7, none, s)
    | some (b, s) =>
      match M.x509CrtParse (rootCa ++ [0]) with
      | none => (free b s).map fun s => (.securityInvalidX509, none, s)
      | some rootCA =>
        match checkBundle w a b buf rootCA signingTimeIn s with
        | .error f => .error f
        | .ok (err, time, s) => (free b s).map fun s => (err, time, s)

/-- `sizeof(verify_node)` -/
def verifyNodeSize : ArtikList.SizeOfNode := ⟨ArtikList.sizeofNode + 112, Nat.le_add_right _ _⟩

/-- The nodes have no clear function. -/
def noClear : ArtikList.OnClear := fun _ _ x => x

/-- `handle` says whether there is a place for the handle. -/
def osVerifySignatureInit (w : World) (handle : Bool) (signaturePem rootCa : List UInt8) (signingTimeIn : Option Time.ArtikTime)
    (s : State M) : Except Fault (State M × InitResult) :=
  if handle = false then .ok (s, ⟨.badArgs, none, none⟩)
  else
    match ArtikList.artikListAdd 0 verifyNodeSize w.node s.verifyNodes with
    | .error f => .error (.heap f)
    | .ok (a, list) =>
      if a = 0 then .ok ({ s with verifyNodes := list }, ⟨.noMem, none, none⟩)
      else
        match readSignature w a signaturePem rootCa signingTimeIn
          { s with verifyNodes := list, node := Function.update s.node a (.zero M) } with
        | .error f => .error f
        | .ok (err, time, s) =>
          -- that its address is the handle of the node, `artik_list_add` has seen to
          if err = .ok then .ok (s, ⟨.ok, some a, time⟩)
          else
            match ArtikList.artikListDeleteNode noClear a s.verifyNodes with
            | .error f => .error (.heap f)
            | .ok (_, list) => .ok ({ s with verifyNodes := list }, ⟨err, none, time⟩)

/-! ## Update and final -/

/-- `data` is `none` for a null pointer. -/
def osVerifySignatureUpdate (handle : Nat) (data : Option (List UInt8)) (s : State M) : Except Fault (State M × ArtikError) :=
  match ArtikList.artikListGetByHandle handle s.verifyNodes with
  | .error f => .error (.heap f)
  | .ok a =>
    if a = 0 then .ok (s, .badArgs)
    else
      match data with
      | none => .ok (s, .badArgs)
      | some data =>
        if data.length = 0 then .ok (s, .badArgs)
        else
          match (s.node a).mdCtx with
          | none => .error .nullPointer
          | some mdCtx =>
            let (ret, mdCtx) := M.mdUpdate mdCtx data
            let s := { s with node := Function.update s.node a { s.node a with mdCtx := some mdCtx } }
            if ret ≠ 0 then .ok (s, .badArgs) else .ok (s, .ok)

/-- The checks of `os_verify_signature_final`, up to the label `cleanup`. -/
def finalChecks (node : VerifyNode M) (mdCtx : M.MdContext) (s : State M) : Except Fault ArtikError :=
  let (ret, mdDat) := M.mdFinish mdCtx
  if ret ≠ 0 then .ok .badArgs
  else
    match s.memory node.dataDigest.p with
    | none => .error .notAllocated
    | some digest =>
      let mdLen := (M.mdGetSize node.digestAlgId).toNat
      if mdLen ≠ node.dataDigest.len || digest.take mdLen ≠ mdDat.take mdLen then .ok .securityDigestMismatch
      else
        match s.memory node.messageData.p with
        | none => .error .notAllocated
        | some message =>
          let (ret, hash) := M.md node.digestAlgId (message.take node.messageData.len)
          if ret ≠ 0 then .ok .securitySignatureMismatch
          else
            match s.memory node.signedDigest.p with
            | none => .error .notAllocated
            | some signature =>
              if M.pkVerify (leaf node.chain) node.digestAlgId hash (signature.take node.signedDigest.len) ≠ 0 then
                .ok .securitySignatureMismatch
              else .ok .ok

def osVerifySignatureFinal (handle : Nat) (s : State M) : Except Fault (State M × ArtikError) :=
  match ArtikList.artikListGetByHandle handle s.verifyNodes with
  | .error f => .error (.heap f)
  | .ok a =>
    if a = 0 then .ok (s, .badArgs)
    else
      match (s.node a).mdCtx with
      | none => .error .nullPointer
      | some mdCtx =>
        match finalChecks (s.node a) mdCtx s with
        | .error f => .error f
        | .ok err => do
          let node := s.node a
          let s ← free node.dataDigest.p s
          let s ← free node.signedDigest.p s
          let s ← free node.messageData.p s
          match ArtikList.artikListDeleteNode noClear a s.verifyNodes with
          | .error f => .error (.heap f)
          | .ok (_, list) => .ok ({ s with verifyNodes := list }, err)

end

/-! ## Calls -/

inductive Input where
  | init (world : World) (handle : Bool) (signaturePem rootCa : List UInt8) (signingTimeIn : Option Time.ArtikTime)
  | update (handle : Nat) (data : Option (List UInt8))
  | final (handle : Nat)

inductive Output where
  | init (r : InitResult)
  | code (e : ArtikError)

def step (M : Mbedtls) (input : Input) (s : State M) : Except Fault (State M × Output) :=
  match input with
  | .init w handle signaturePem rootCa signingTimeIn =>
    (osVerifySignatureInit w handle signaturePem rootCa signingTimeIn s).map fun r => (r.1, .init r.2)
  | .update handle data => (osVerifySignatureUpdate handle data s).map fun r => (r.1, .code r.2)
  | .final handle => (osVerifySignatureFinal handle s).map fun r => (r.1, .code r.2)

end ArtikSdk.Security
