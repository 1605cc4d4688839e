import ArtikSdk.Security.Calls
import ArtikSdk.Security.Der

/-!
# Which bundles are accepted

The serial number of the signer has to be that of the leaf certificate. `check_pkcs7_validity`
compares it with the issuer's unique identifier instead, and refuses the bundle where the two
are the same: of the checks this one alone does not do what it is for.
-/

namespace ArtikSdk.Security
open Lib

/-- The bundle was signed with the leaf certificate, that certificate may sign code, and it was
signed in time. -/
structure Valid (M : Mbedtls) (signingTimeIn : Option Time.ArtikTime) (b : Bundle) : Prop where
  issuer : b.sigData.signer.issuer = (leaf b.sigData.chain).issuer
  serial : b.sigData.signer.serial.bytes = (leaf b.sigData.chain).serial.bytes
  chain : M.x509CrtVerify b.sigData.chain b.rootCA = 0
  digest : b.sigData.signer.digestAlgId = .sha256
  usage : (leaf b.sigData.chain).extTypes &&& extExtendedKeyUsage ≠ 0 ∧
    M.x509CrtCheckExtendedKeyUsage (leaf b.sigData.chain) oidCodeSigning = 0
  time : ∀ earliest ∈ signingTimeIn, ¬ (signingTime b.sigData).Earlier earliest

/-- In every state that can be reached a call of init on these accepts a valid bundle only, and
adds nothing to the list where it does not accept. -/
def Sound (M : Mbedtls) (signaturePem rootCa : List UInt8) (signingTimeIn : Option Time.ArtikTime) : Prop :=
  ∀ s, Reachable (step M) (State.init M) s → ∀ w handle,
    ∃ s' r, osVerifySignatureInit w handle signaturePem rootCa signingTimeIn s = .ok (s', r) ∧
      (r.err = .ok → ∃ b, readBundle M w signaturePem rootCa = some b ∧ Valid M signingTimeIn b) ∧
      (r.err ≠ .ok → r.handle = none ∧ ∀ xs, ArtikList.Refines s.verifyNodes xs → ArtikList.Refines s'.verifyNodes xs)

/-- A bundle that passes the other checks, and whose serial number is not the unique identifier
of the leaf's issuer, has the serial number of the leaf. -/
def SerialsAgree (M : Mbedtls) (signaturePem rootCa : List UInt8) (signingTimeIn : Option Time.ArtikTime) : Prop :=
  ∀ w b, readBundle M w signaturePem rootCa = some b → b.sigData.signer.issuer = (leaf b.sigData.chain).issuer →
    (leaf b.sigData.chain).extTypes &&& extExtendedKeyUsage ≠ 0 →
    M.x509CrtCheckExtendedKeyUsage (leaf b.sigData.chain) oidCodeSigning = 0 → b.sigData.signer.digestAlgId = .sha256 →
    M.mdInfoFromType .sha256 = true → (∀ earliest ∈ signingTimeIn, ¬ (signingTime b.sigData).Earlier earliest) →
    b.sigData.signer.serial.bytes ≠ (leaf b.sigData.chain).issuerId.bytes →
    b.sigData.signer.serial.bytes = (leaf b.sigData.chain).serial.bytes

variable {M : Mbedtls} {s s' : State M} {cs : List Context} {B : Bundle} {w : World} {signaturePem rootCa : List UInt8}
  {signingTimeIn : Option Time.ArtikTime}

theorem reachable_represents (reach : Reachable (step M) (State.init M) s) : ∃ cs, Represents s cs := by
  obtain ⟨calls, run⟩ := reach
  refine run.invariant (I := fun s => ∃ cs, Represents s cs) ⟨[], represents_init⟩ fun input t t' o inv answered => ?_
  obtain ⟨cs, rep⟩ := inv
  obtain ⟨t'', o', cs', result, -, rep'⟩ := step_transition rep input
  rw [answered] at result
  cases result
  exact ⟨cs', rep'⟩

theorem readBundle_some (read : readBundle M w signaturePem rootCa = some B) :
    M.pemReadBuffer "-----BEGIN PKCS7-----" "-----END PKCS7-----" signaturePem = some B.buf ∧
      M.x509CrtParse (rootCa ++ [0]) = some B.rootCA ∧
      pkcs7GetSignedData M B.buf w.digestAlgoIds w.chain B.rootCA = .ok B.sigData := by
  rw [readBundle] at read
  cases pem : M.pemReadBuffer "-----BEGIN PKCS7-----" "-----END PKCS7-----" signaturePem with
  | none =>
    rw [pem] at read
    cases read
  | some buf =>
    cases root : M.x509CrtParse (rootCa ++ [0]) with
    | none =>
      rw [pem, root] at read
      cases read
    | some rootCA =>
      rw [pem, root] at read
      dsimp only at read
      cases parsed : pkcs7GetSignedData M buf w.digestAlgoIds w.chain rootCA with
      | error e =>
        rw [parsed] at read
        cases read
      | ok sigData =>
        rw [parsed] at read
        cases read
        exact ⟨rfl, rfl, parsed⟩

/-- The outcomes of a call for which there is memory, and which reads as `w` does. -/
def World.granted (w : World) : World where
  node := .only 1
  pem := .only 1
  digestAlgoIds := w.digestAlgoIds
  chain := w.chain
  mdSetup := true
  mdStarts := true
  dataDigest := .only 2
  signedDigest := .only 3
  messageData := .only 4

theorem Malloc.only_pick {a : Nat} {u : Nat → Bool} (nonzero : a ≠ 0) (free : u a = false) :
    (Malloc.only a).pick u = some a := if_pos ⟨nonzero, free⟩

theorem allocCopy_only {a p : Nat} (nonzero : a ≠ 0) (free : s.memory a = none) (allocated : allocCopy (.only a) s = (p, s')) :
    a = p ∧ ∀ x, x ≠ a → s'.memory x = s.memory x := by
  rw [allocCopy, alloc, Malloc.only_pick nonzero (by rw [free]; rfl)] at allocated
  cases allocated
  exact ⟨rfl, fun x other => Function.update_of_ne other _ _⟩

/-- The three blocks are there when nothing but the buffer is. -/
theorem copies_granted (w : World) (free : ∀ a, a ≠ 1 → s.memory a = none) : ∃ s', Copies w.granted s 2 3 4 s' := by
  obtain ⟨p, q, r, s', given⟩ := copies w.granted s
  obtain ⟨s₁, s₂, first, second, third⟩ := given.calls
  obtain ⟨rfl, same₁⟩ := allocCopy_only (by decide) (free 2 (by decide)) first
  have free₁ (a : Nat) (other : a ≠ 1) (apart : a ≠ 2) : s₁.memory a = none := (same₁ a apart).trans (free a other)
  obtain ⟨rfl, same₂⟩ := allocCopy_only (by decide) (free₁ 3 (by decide) (by decide)) second
  have free₂ : s₂.memory 4 = none := (same₂ 4 (by decide)).trans (free₁ 4 (by decide) (by decide))
  obtain ⟨rfl, -⟩ := allocCopy_only (by decide) free₂ third
  exact ⟨s', given⟩

theorem checkBundle_granted (a : Nat) (buffer : s.memory 1 = some B.buf) (free : ∀ a, a ≠ 1 → s.memory a = none)
    (parsed : pkcs7GetSignedData M B.buf w.digestAlgoIds w.chain B.rootCA = .ok B.sigData) (passes : Passes M signingTimeIn B) :
    ∃ time s', checkBundle w.granted a 1 B.buf B.rootCA signingTimeIn s = .ok (.ok, time, s') ∧ Aside a s s' := by
  have early : (signingTimeIn.any fun earliest => Time.artikTimeCompareDates earliest (signingTime B.sigData) > 0) = false := by
    rw [← Bool.not_eq_true, rollback_iff]
    rintro ⟨earliest, limit, earlier⟩
    exact passes.time earliest limit earlier
  have started : initializeMdContext M w.granted B.sigData = .ok (M.mdStarted .sha256) := by
    rw [initializeMdContext, ((checkPkcs7Validity_ok B.sigData).mp passes.valid).2.2.2.2, passes.known]
    rfl
  obtain ⟨s₁, given⟩ := copies_granted w free
  obtain ⟨s₂, filled, aside, -⟩ := fillNode_granted a buffer passes.valid started given (by decide) (by decide) (by decide)
  refine ⟨some (signingTime B.sigData), s₂, ?_, aside⟩
  rw [checkBundle, show pkcs7GetSignedData M B.buf w.granted.digestAlgoIds w.granted.chain B.rootCA = _ from parsed]
  dsimp only
  rw [early, if_neg Bool.false_ne_true, filled]

theorem readSignature_granted (a : Nat) (empty : ∀ a, s.memory a = none) (read : readBundle M w signaturePem rootCa = some B)
    (passes : Passes M signingTimeIn B) :
    ∃ time s', readSignature w.granted a signaturePem rootCa signingTimeIn s = .ok (.ok, time, s') := by
  obtain ⟨pem, root, parsed⟩ := readBundle_some read
  have buffered : ∃ s₁, alloc w.granted.pem B.buf s = some (1, s₁) := by
    have given : w.granted.pem.pick (fun a => (s.memory a).isSome) = some 1 := Malloc.only_pick (by decide) (by rw [empty]; rfl)
    rw [alloc, given]
    exact ⟨_, rfl⟩
  obtain ⟨s₁, buffered⟩ := buffered
  obtain ⟨-, -, buffer, -, others⟩ := alloc_some buffered
  obtain ⟨time, s₂, checked, aside⟩ := checkBundle_granted a buffer (fun a other => (others a other).trans (empty a)) parsed passes
  obtain ⟨s₃, freed, -⟩ := free_buffer buffered aside
  refine ⟨time, s₃, ?_⟩
  rw [readSignature, pem]
  dsimp only
  rw [buffered]
  dsimp only
  rw [root]
  dsimp only
  rw [checked]
  dsimp only
  rw [freed]
  rfl

/-- **A bundle that passes is accepted** when there is memory. -/
theorem passes_accepted (read : readBundle M w signaturePem rootCa = some B) (passes : Passes M signingTimeIn B) :
    ∃ s' r, osVerifySignatureInit w.granted true signaturePem rootCa signingTimeIn (State.init M) = .ok (s', r) ∧ r.err = .ok := by
  obtain ⟨list, a, added, ⟨-, refused, -⟩ | ⟨nonnull, -, -, -⟩⟩ :=
    ArtikList.add_cases (represents_init (M := M)).refines verifyNodeSize w.granted.node
  · have given := Malloc.only_pick (u := fun a => ((State.init M).verifyNodes.heap.cell a).isSome) Nat.one_ne_zero rfl
    exact absurd (given.symm.trans refused) (by decide)
  obtain ⟨time, s', result⟩ := readSignature_granted (s := ⟨list, Function.update (State.init M).node a (.zero M), fun _ => none⟩) a
    (fun _ => rfl) read passes
  refine ⟨s', ⟨.ok, some a, time⟩, ?_, rfl⟩
  rw [osVerifySignatureInit, if_neg (by decide), added]
  dsimp only [State.init] at result ⊢
  rw [if_neg nonnull, result]
  rfl

/-- **What is accepted**: valid bundles only, of exactly the signatures whose serial numbers agree. -/
theorem sound_iff (M : Mbedtls) (signaturePem rootCa : List UInt8) (signingTimeIn : Option Time.ArtikTime) :
    Sound M signaturePem rootCa signingTimeIn ↔ SerialsAgree M signaturePem rootCa signingTimeIn := by
  constructor
  · intro sound w B read issuer extension usage digest sha256 time serial
    have valid := (checkPkcs7Validity_ok B.sigData).mpr ⟨issuer, serial, extension, usage, digest⟩
    obtain ⟨s', r, accepted, ok⟩ := passes_accepted read ⟨valid, sha256, time⟩
    obtain ⟨s'', r', result, valid, -⟩ := sound _ (.refl ..) w.granted true
    rw [accepted] at result
    cases result
    obtain ⟨B', read', valid⟩ := valid ok
    rw [show readBundle M w.granted signaturePem rootCa = _ from read] at read'
    cases read'
    exact valid.serial
  · intro agree s reach w handle
    obtain ⟨cs, rep⟩ := reachable_represents reach
    obtain ⟨s', r, result, ⟨failed, nowhere, rep'⟩ | ⟨a, B, ok, -, read, passes, -, -⟩⟩ :=
      init_spec rep w handle signaturePem rootCa signingTimeIn
    · refine ⟨s', r, result, fun ok => absurd ok failed, fun _ => ⟨nowhere, fun xs refines => ?_⟩⟩
      rw [Chain.unique refines.chain rep.refines.chain]
      exact rep'.refines
    · refine ⟨s', r, result, fun _ => ⟨B, read, ?_⟩, fun failed => absurd ok failed⟩
      obtain ⟨issuer, serial, extension, usage, digest⟩ := (checkPkcs7Validity_ok B.sigData).mp passes.valid
      have same := agree w B read issuer extension usage digest passes.known passes.time serial
      exact ⟨issuer, same, (signedData_yields ..).result (readBundle_some read).2.2, digest, ⟨extension, usage⟩, passes.time⟩

/-! ## A bundle with another serial number -/

/-- A bundle over one byte, and in it the certificate it was signed with, which has the serial
number 2. The signer's is 3: the signature does not cover it. -/
def otherSerial : List UInt8 :=
  [0x30, 0x82, 0x02, 0x45, 0x06, 0x09, 0x2a, 0x86, 0x48, 0x86, 0xf7, 0x0d, 0x01, 0x07, 0x02, 0xa0,
    0x82, 0x02, 0x36, 0x30, 0x82, 0x02, 0x32, 0x02, 0x01, 0x01, 0x31, 0x0f, 0x30, 0x0d, 0x06, 0x09,
    0x60, 0x86, 0x48, 0x01, 0x65, 0x03, 0x04, 0x02, 0x01, 0x05, 0x00, 0x30, 0x0b, 0x06, 0x09, 0x2a,
    0x86, 0x48, 0x86, 0xf7, 0x0d, 0x01, 0x07, 0x01, 0xa0, 0x82, 0x01, 0x21, 0x30, 0x82, 0x01, 0x1d,
    0x30, 0x81, 0xc4, 0xa0, 0x03, 0x02, 0x01, 0x02, 0x02, 0x01, 0x02, 0x30, 0x0a, 0x06, 0x08, 0x2a,
    0x86, 0x48, 0xce, 0x3d, 0x04, 0x03, 0x02, 0x30, 0x0c, 0x31, 0x0a, 0x30, 0x08, 0x06, 0x03, 0x55,
    0x04, 0x03, 0x0c, 0x01, 0x41, 0x30, 0x1e, 0x17, 0x0d, 0x32, 0x36, 0x31, 0x31, 0x31, 0x39, 0x30,
    0x34, 0x30, 0x31, 0x35, 0x39, 0x5a, 0x17, 0x0d, 0x33, 0x36, 0x31, 0x31, 0x31, 0x36, 0x30, 0x34,
    0x30, 0x31, 0x35, 0x39, 0x5a, 0x30, 0x0c, 0x31, 0x0a, 0x30, 0x08, 0x06, 0x03, 0x55, 0x04, 0x03,
    0x0c, 0x01, 0x41, 0x30, 0x59, 0x30, 0x13, 0x06, 0x07, 0x2a, 0x86, 0x48, 0xce, 0x3d, 0x02, 0x01,
    0x06, 0x08, 0x2a, 0x86, 0x48, 0xce, 0x3d, 0x03, 0x01, 0x07, 0x03, 0x42, 0x00, 0x04, 0x0d, 0xef,
    0xef, 0x65, 0x96, 0x1b, 0xcc, 0x0f, 0x09, 0x43, 0xc5, 0x92, 0x4f, 0x7d, 0x04, 0x12, 0x5c, 0xfb,
    0x8a, 0x22, 0x8e, 0x85, 0x6c, 0x19, 0xba, 0x6d, 0xe8, 0x03, 0x9d, 0xa3, 0x4c, 0x9e, 0x5d, 0x3b,
    0x8d, 0xce, 0x1b, 0x22, 0xb8, 0x95, 0x34, 0xc7, 0xd1, 0x7f, 0x4e, 0x69, 0x21, 0x8c, 0x67, 0x02,
    0x2e, 0xa7, 0xe4, 0xe5, 0xee, 0xf9, 0x66, 0x6d, 0xe3, 0xdb, 0x78, 0x7e, 0x35, 0x1c, 0xa3, 0x17,
    0x30, 0x15, 0x30, 0x13, 0x06, 0x03, 0x55, 0x1d, 0x25, 0x04, 0x0c, 0x30, 0x0a, 0x06, 0x08, 0x2b,
    0x06, 0x01, 0x05, 0x05, 0x07, 0x03, 0x03, 0x30, 0x0a, 0x06, 0x08, 0x2a, 0x86, 0x48, 0xce, 0x3d,
    0x04, 0x03, 0x02, 0x03, 0x48, 0x00, 0x30, 0x45, 0x02, 0x21, 0x00, 0x90, 0xc4, 0x20, 0xd5, 0x01,
    0x71, 0x3e, 0x54, 0xa4, 0x58, 0x32, 0x0b, 0xc3, 0xb4, 0x55, 0xda, 0x24, 0xac, 0xdd, 0xc5, 0xf1,
    0x8d, 0x2d, 0xa3, 0xa6, 0xcf, 0xf3, 0xf4, 0x79, 0xfc, 0x12, 0xf1, 0x02, 0x20, 0x47, 0x46, 0x79,
    0x7a, 0xa5, 0xdc, 0xd7, 0x75, 0x2f, 0x33, 0x13, 0xd4, 0x7b, 0xb3, 0xa3, 0x10, 0x48, 0x89, 0xb6,
    0xe1, 0xcd, 0x15, 0xa5, 0x8c, 0xdc, 0xb1, 0xcf, 0x7c, 0x72, 0xde, 0xa7, 0x9b, 0x31, 0x81, 0xe9,
    0x30, 0x81, 0xe6, 0x02, 0x01, 0x01, 0x30, 0x11, 0x30, 0x0c, 0x31, 0x0a, 0x30, 0x08, 0x06, 0x03,
    0x55, 0x04, 0x03, 0x0c, 0x01, 0x41, 0x02, 0x01, 0x03, 0x30, 0x0d, 0x06, 0x09, 0x60, 0x86, 0x48,
    0x01, 0x65, 0x03, 0x04, 0x02, 0x01, 0x05, 0x00, 0xa0, 0x69, 0x30, 0x18, 0x06, 0x09, 0x2a, 0x86,
    0x48, 0x86, 0xf7, 0x0d, 0x01, 0x09, 0x03, 0x31, 0x0b, 0x06, 0x09, 0x2a, 0x86, 0x48, 0x86, 0xf7,
    0x0d, 0x01, 0x07, 0x01, 0x30, 0x1c, 0x06, 0x09, 0x2a, 0x86, 0x48, 0x86, 0xf7, 0x0d, 0x01, 0x09,
    0x05, 0x31, 0x0f, 0x17, 0x0d, 0x32, 0x36, 0x31, 0x31, 0x31, 0x39, 0x30, 0x34, 0x30, 0x31, 0x35,
    0x39, 0x5a, 0x30, 0x2f, 0x06, 0x09, 0x2a, 0x86, 0x48, 0x86, 0xf7, 0x0d, 0x01, 0x09, 0x04, 0x31,
    0x22, 0x04, 0x20, 0xca, 0x97, 0x81, 0x12, 0xca, 0x1b, 0xbd, 0xca, 0xfa, 0xc2, 0x31, 0xb3, 0x9a,
    0x23, 0xdc, 0x4d, 0xa7, 0x86, 0xef, 0xf8, 0x14, 0x7c, 0x4e, 0x72, 0xb9, 0x80, 0x77, 0x85, 0xaf,
    0xee, 0x48, 0xbb, 0x30, 0x0a, 0x06, 0x08, 0x2a, 0x86, 0x48, 0xce, 0x3d, 0x04, 0x03, 0x02, 0x04,
    0x48, 0x30, 0x46, 0x02, 0x21, 0x00, 0xaf, 0xf3, 0xaf, 0xe7, 0xec, 0x9c, 0x1b, 0x66, 0x51, 0xff,
    0xb5, 0x30, 0x73, 0x41, 0x9c, 0xa9, 0x30, 0xf7, 0xc7, 0x4e, 0x4a, 0xc6, 0x7d, 0x8c, 0x88, 0x42,
    0x6b, 0x20, 0x17, 0x1a, 0xe8, 0x78, 0x02, 0x21, 0x00, 0xb0, 0xad, 0xa5, 0x9f, 0x6c, 0xab, 0x06,
    0xac, 0xf6, 0x46, 0x9c, 0x80, 0xe8, 0x4c, 0xb3, 0x9e, 0x05, 0x52, 0x97, 0xa3, 0x87, 0x45, 0x77,
    0x07, 0xfd, 0x8d, 0x0e, 0xf5, 0x52, 0xab, 0x31, 0x11]

def otherSerialCrt : Crt where
  raw := slice otherSerial 60 289
  issuer := [⟨⟨asn1Oid, [0x55, 0x04, 0x03]⟩, ⟨0x0c, [0x41]⟩, 0⟩]
  serial := ⟨0x02, [0x02]⟩
  issuerId := ⟨0, []⟩
  extTypes := extExtendedKeyUsage

def otherSerialPem : List UInt8 := pem "PKCS7" otherSerial

def otherSerialRoot : List UInt8 := pem "CERTIFICATE" otherSerialCrt.raw

def otherSerialLibrary : Mbedtls :=
  .forBundle otherSerialPem otherSerial otherSerialRoot otherSerialCrt (Sha256.digest (0x31 :: slice otherSerial 393 106)) (slice otherSerial 513 72)

/-- No allocation fails. -/
def World.plenty : World := ⟨.only 1, .only 1, fun _ => true, true, true, true, .only 2, .only 3, .only 4⟩

/-- What is read of it passes. -/
theorem otherSerial_passes :
    ∃ b, readBundle otherSerialLibrary .plenty otherSerialPem otherSerialRoot = some b ∧ Passes otherSerialLibrary none b ∧
      b.sigData.signer.serial.bytes ≠ (leaf b.sigData.chain).serial.bytes := by
  have read : ((readBundle otherSerialLibrary .plenty otherSerialPem otherSerialRoot).any fun b =>
      checkPkcs7Validity otherSerialLibrary b.sigData = .ok &&
        b.sigData.signer.serial.bytes ≠ (leaf b.sigData.chain).serial.bytes) = true := by decide +kernel
  obtain ⟨b, read, test⟩ := (Option.any_eq_true ..).mp read
  rw [Bool.and_eq_true, decide_eq_true_iff, decide_eq_true_iff] at test
  exact ⟨b, read, ⟨test.1, rfl, fun _ given => by cases given⟩, test.2⟩

/-- It is accepted. -/
theorem otherSerial_not_sound : ¬ Sound otherSerialLibrary otherSerialPem otherSerialRoot none := by
  intro sound
  obtain ⟨b, read, passes, other⟩ := otherSerial_passes
  obtain ⟨s', r, accepted, ok⟩ := passes_accepted read passes
  obtain ⟨s'', r', result, valid, -⟩ := sound _ (.refl ..) World.plenty.granted true
  rw [accepted] at result
  cases result
  obtain ⟨b', read', valid⟩ := valid ok
  rw [show readBundle otherSerialLibrary World.plenty.granted otherSerialPem otherSerialRoot = _ from read] at read'
  cases read'
  exact other valid.serial

end ArtikSdk.Security
