import ArtikSdk.Base.Error
import ArtikSdk.Security.Mbedtls

/-!
# The PKCS#7 parser

`mbedtls_pkcs7_parser.c`. Pointers into the buffer are offsets. The list of digest algorithms
and the certificate chain are lists; `memory` says which of the allocations for the former
work.
-/

namespace ArtikSdk.Security

def oidPkcs7Data : List UInt8 := oidPkcs ++ [0x07, 0x01]
def oidPkcs7SignedData : List UInt8 := oidPkcs ++ [0x07, 0x02]
def oidPkcs9ContentType : List UInt8 := oidPkcs9 ++ [0x03]
def oidPkcs9SigningTime : List UInt8 := oidPkcs9 ++ [0x05]
def oidPkcs9MessageDigest : List UInt8 := oidPkcs9 ++ [0x04]

/-- A part of a buffer of `n` bytes. -/
structure Region (n : Nat) where
  p : Nat
  len : Nat
  inside : p + len ≤ n

def Region.widen {n m : Nat} (r : Region n) (le : n ≤ m) : Region m := ⟨r.p, r.len, Nat.le_trans r.inside le⟩

/-- The contents of an element. -/
abbrev Found.region {p last : Nat} (t : Found p last) : Region last := ⟨t.q, t.len, t.inside⟩

def slice (buf : List UInt8) (p len : Nat) : List UInt8 := (buf.drop p).take len

/-- The bytes of a region. -/
def Region.bytes {buf : List UInt8} (r : Region buf.length) : List UInt8 := slice buf r.p r.len

/-- `authenticated_attributes`, without the part that the caller sets. -/
structure Attributes (n : Nat) where
  signingTime : X509Time
  digest : Region n

/-- `signer_info` -/
structure SignerInfo (n : Nat) where
  issuer : Name
  serial : Asn1Buf
  digestAlgId : MdType
  attributes : Attributes n
  raw : Region n
  rawNonempty : 0 < raw.len
  encryptedDigest : Region n

/-- `signed_data` -/
structure SignedData (n : Nat) where
  chain : List Crt
  signer : SignerInfo n

/-- `sig_data->chain` as a certificate. -/
def leaf (chain : List Crt) : Crt := chain.headD .zero

section

variable (M : Mbedtls) (buf : List UInt8)

/-- A call whose failure is an invalid PKCS#7. -/
def expect {α : Type} (r : Option α) : Except ArtikError α :=
  match r with
  | none => .error .securityInvalidPkcs7
  | some a => .ok a

def check (e : ArtikError) (c : Bool) : Except ArtikError Unit := if c then .ok () else .error e

def require (c : Bool) : Except ArtikError Unit := check .securityInvalidPkcs7 c

def getTag (p last : Nat) (tag : UInt8) : Except ArtikError (Found p last) :=
  match M.asn1GetTag buf p last tag 0 with
  | .found t => .ok t
  | .failed _ _ => .error .securityInvalidPkcs7

def pkcs7GetHashAlg (p last : Nat) : Except ArtikError (Read p last MdType) := do
  let alg ← expect (M.asn1GetAlg buf p last)
  require (alg.value.2.tag = asn1Null)
  let md ← expect (M.oidGetMdAlg alg.value.1)
  return ⟨alg.q, md, alg.after, alg.inside⟩

def pkcs7GetEncryptionAlg (p last : Nat) : Except ArtikError (Read p last PkType) := do
  let alg ← expect (M.asn1GetAlg buf p last)
  require (alg.value.2.tag = asn1Null || alg.value.2.tag = 0)
  let sig ← expect (M.oidGetSigAlg alg.value.1)
  return ⟨alg.q, sig.2, alg.after, alg.inside⟩

/-- The loop over `DigestAlgorithmIdentifiers`; `ids` are those read. -/
def pkcs7GetDigestAlgorithmIdentifiers (memory : Nat → Bool) (p last : Nat) (ids : List MdType) :
    Except ArtikError (Nat × List MdType) :=
  if p = last then .ok (p, ids)
  else if memory ids.length = false then .error .noMem
  else
    match pkcs7GetHashAlg M buf p last with
    | .error e => .error e
    | .ok alg => pkcs7GetDigestAlgorithmIdentifiers memory alg.q last (ids ++ [alg.value])
termination_by last - p
decreasing_by
  have after := alg.after
  have inside := alg.inside
  omega

/-- The loop over the certificates: the length of each is read from its bytes 2 and 3. -/
def pkcs7GetChainCerts (p buflen i : Nat) (chain : List Crt) : Except ArtikError (List Crt) :=
  if i < buflen then
    match M.x509CrtParseDer (slice buf (p + i) (buflen - i)) with
    | none => .error .securityInvalidPkcs7
    | some crt =>
      pkcs7GetChainCerts p buflen
        (i + (((buf.getD (p + i + 2) 0).toNat <<< 8) ||| (buf.getD (p + i + 3) 0).toNat) + 4) (chain ++ [crt])
  else .ok chain
termination_by buflen - i
decreasing_by omega

/-- The attributes so far, and which there were. -/
structure AttributeLoop (n : Nat) where
  hasContentType : Bool
  hasSigningTime : Bool
  hasMessageDigest : Bool
  attributes : Attributes n

/-- One attribute, in the sequence that ends at `endSeq`. -/
def pkcs7GetAttribute (p endSeq : Nat) (inside : endSeq ≤ buf.length) (s : AttributeLoop buf.length) :
    Except ArtikError (Read p endSeq (AttributeLoop buf.length)) :=
  match getTag M buf p endSeq asn1Oid with
  | .error e => .error e
  | .ok oid =>
    have after := oid.after
    have within := oid.inside
    let oidBytes := slice buf oid.q oid.len
    if oidBytes = oidPkcs9ContentType then
      match getTag M buf (oid.q + oid.len) endSeq asn1Set with
      | .error e => .error e
      | .ok set =>
        have afterSet := set.after
        have withinSet := set.inside
        match getTag M buf set.q endSeq asn1Oid with
        | .error e => .error e
        | .ok content =>
          have afterContent := content.after
          if slice buf content.q content.len = oidPkcs7Data then
            .ok ⟨content.q + content.len, { s with hasContentType := true }, by omega, content.inside⟩
          else .error .securityInvalidPkcs7
    else if oidBytes = oidPkcs9SigningTime then
      match getTag M buf (oid.q + oid.len) endSeq asn1Set with
      | .error e => .error e
      | .ok set =>
        have afterSet := set.after
        have withinSet := set.inside
        match M.x509GetTime buf set.q (set.q + set.len) with
        | none => .error .securityInvalidPkcs7
        | some time =>
          have afterTime := time.after
          have withinTime := time.inside
          .ok ⟨time.q, { s with hasSigningTime := true, attributes := { s.attributes with signingTime := time.value } }, by omega, by omega⟩
    else if oidBytes = oidPkcs9MessageDigest then
      match getTag M buf (oid.q + oid.len) endSeq asn1Set with
      | .error e => .error e
      | .ok set =>
        have afterSet := set.after
        match getTag M buf set.q endSeq asn1OctetString with
        | .error e => .error e
        | .ok digest =>
          have afterDigest := digest.after
          have withinDigest := digest.inside
          .ok ⟨digest.q + digest.len,
            { s with hasMessageDigest := true, attributes := { s.attributes with digest := ⟨digest.q, digest.len, by omega⟩ } },
            by omega, digest.inside⟩
    else .error .securityInvalidPkcs7

def pkcs7GetAuthenticatedAttributes (p last : Nat) (inside : last ≤ buf.length) (s : AttributeLoop buf.length) :
    Except ArtikError (Nat × Attributes buf.length) :=
  if p = last then
    if s.hasContentType && s.hasSigningTime && s.hasMessageDigest then .ok (p, s.attributes) else .error .securityInvalidPkcs7
  else
    match getTag M buf p last asn1Sequence with
    | .error e => .error e
    | .ok t =>
      have after := t.after
      have within := t.inside
      match pkcs7GetAttribute M buf t.q (t.q + t.len) (by omega) s with
      | .error e => .error e
      | .ok next => pkcs7GetAuthenticatedAttributes next.q last inside next.value
termination_by last - p
decreasing_by
  have after' := next.after
  have within' := next.inside
  omega

/-- `memset(sig_data, 0, ...)` -/
def AttributeLoop.zero (n : Nat) : AttributeLoop n :=
  ⟨false, false, false, ⟨⟨0, 0, 0, 0, 0, 0⟩, ⟨0, 0, by omega⟩⟩⟩

/-- `raw` begins at the tag. -/
def rawRegion {p : Nat} (t : Found p buf.length) : Region buf.length := ⟨p, t.len + (t.q - p), by
  have after := t.after
  have inside := t.inside
  omega⟩

theorem Found.raw_nonempty {p last : Nat} (t : Found p last) : 0 < t.len + (t.q - p) :=
  Nat.lt_of_lt_of_le (Nat.sub_pos_of_lt t.after) (Nat.le_add_left _ _)

def pkcs7GetSignerInfo (p : Nat) (digestAlgoIds : List MdType) : Except ArtikError (SignerInfo buf.length) := do
  let t ← getTag M buf p buf.length asn1Sequence
  let ver ← expect (M.asn1GetInt buf t.q buf.length)
  require (ver.value = 1)
  let t ← getTag M buf ver.q buf.length asn1Sequence
  let t ← getTag M buf t.q buf.length asn1Sequence
  let issuer ← expect (M.x509GetName buf t.q (t.q + t.len))
  let serial ← expect (M.x509GetSerial buf issuer.q buf.length)
  let alg ← pkcs7GetHashAlg M buf serial.q buf.length
  require (digestAlgoIds.head? = some alg.value)
  let t ← getTag M buf alg.q buf.length asn1Context
  let attributes ← pkcs7GetAuthenticatedAttributes M buf t.q (t.q + t.len) t.inside (.zero _)
  let enc ← pkcs7GetEncryptionAlg M buf attributes.1 buf.length
  require (enc.value = .ecdsa)
  let digest ← getTag M buf enc.q buf.length asn1OctetString
  return {
    issuer := issuer.value
    serial := serial.value
    digestAlgId := alg.value
    attributes := attributes.2
    raw := rawRegion buf t
    rawNonempty := Nat.lt_of_lt_of_le (Nat.sub_pos_of_lt t.after) (Nat.le_add_left _ _)
    encryptedDigest := ⟨digest.q, digest.len, digest.inside⟩
  }

/-- Reverse the chain in place: `prev` is reversed, `current` is left. -/
def reverseChain : List Crt → List Crt → List Crt
  | prev, [] => prev
  | prev, crt :: current => reverseChain (crt :: prev) current

/-- The offset of the SignerInfo: the outcome of looking for the tag before it is not checked. -/
def signerInfosTag (p len : Nat) : Nat × Nat :=
  match M.asn1GetTag buf p buf.length asn1Set len with
  | .found t => (t.q, t.len)
  | .failed q len => (q, len)

/-- `memory` and `chainMemory` are the outcomes of the allocations. -/
def pkcs7GetSignedData (memory : Nat → Bool) (chainMemory : Bool) (rootCA : List Crt) : Except ArtikError (SignedData buf.length) := do
  let t ← getTag M buf 0 buf.length asn1Sequence
  let oid ← getTag M buf t.q buf.length asn1Oid
  require (slice buf oid.q oid.len = oidPkcs7SignedData)
  let t ← getTag M buf (oid.q + oid.len) buf.length asn1Context
  require (t.q + t.len = buf.length)
  let t ← getTag M buf t.q buf.length asn1Sequence
  let ver ← expect (M.asn1GetInt buf t.q buf.length)
  require (ver.value = 1)
  let t ← getTag M buf ver.q buf.length asn1Set
  let ids ← expect (pkcs7GetDigestAlgorithmIdentifiers M buf memory t.q (t.q + t.len) []).toOption
  require (ids.2.length = 1)
  let t ← getTag M buf ids.1 buf.length asn1Sequence
  let ct ← getTag M buf t.q (t.q + t.len) asn1Oid
  -- that `ct_oid` ends where `*p` now is, is checked, and is so
  require (slice buf ct.q ct.len = oidPkcs7Data)
  check .noMem chainMemory
  let t ← getTag M buf (ct.q + ct.len) buf.length asn1Context
  let certs ← pkcs7GetChainCerts M buf t.q t.len 0 []
  let chain := reverseChain [] (if certs = [] then [.zero] else certs)
  check .securityCaVerifFailed (M.x509CrtVerify chain rootCA = 0)
  let t := signerInfosTag M buf (t.q + t.len) t.len
  require (t.1 + t.2 = buf.length)
  let signer ← pkcs7GetSignerInfo M buf t.1 ids.2
  return ⟨chain, signer⟩

end

/-! ## What the parser returns -/

theorem expect_ok {α : Type} {r : Option α} {a : α} (got : expect r = .ok a) : r = some a := by
  cases r with
  | none => cases got
  | some b =>
    cases got
    rfl

theorem expect_toOption {α : Type} {x : Except ArtikError α} {a : α} (got : expect x.toOption = .ok a) : x = .ok a := by
  cases x with
  | error e => cases got
  | ok b =>
    cases got
    rfl

theorem check_ok {e : ArtikError} {c : Bool} {u : Unit} (passed : check e c = .ok u) : c = true := by
  cases c with
  | false => cases passed
  | true => rfl

theorem required {c : Prop} [Decidable c] {u : Unit} (passed : require (decide c) = .ok u) : c := of_decide_eq_true (check_ok passed)

/-- An error has a code, and a result has the property. -/
inductive Yields {α : Type} (P : α → Prop) : Except ArtikError α → Prop where
  | error {e : ArtikError} (code : e ≠ .ok) : Yields P (.error e)
  | ok {a : α} (holds : P a) : Yields P (.ok a)

section

variable {M : Mbedtls} {buf : List UInt8} {α β : Type} {P : α → Prop} {Q : β → Prop}

theorem Yields.bind {x : Except ArtikError α} {f : α → Except ArtikError β} (first : Yields P x) (rest : ∀ a, P a → Yields Q (f a)) :
    Yields Q (x >>= f) := by
  cases first with
  | error code => exact .error code
  | ok holds => exact rest _ holds

/-- An error is handed on as it is. -/
theorem Yields.failed {x : Except ArtikError α} {e : ArtikError} (first : Yields P x) (failed : x = .error e) :
    Yields Q (.error e) := by
  subst failed
  cases first with
  | error code => exact .error code

theorem Yields.code {x : Except ArtikError α} {e : ArtikError} (first : Yields P x) (failed : x = .error e) : e ≠ .ok := by
  subst failed
  cases first with
  | error code => exact code

theorem Yields.result {x : Except ArtikError α} {a : α} (first : Yields P x) (result : x = .ok a) : P a := by
  subst result
  cases first with
  | ok holds => exact holds

/-- Calls of which only the errors matter. -/
abbrev Proper (x : Except ArtikError α) : Prop := Yields (fun _ => True) x

theorem expect_proper (r : Option α) : Proper (expect r) := by
  cases r with
  | none => exact .error (by decide)
  | some a => exact .ok trivial

theorem check_yields {e : ArtikError} (code : e ≠ .ok) (c : Bool) : Yields (fun _ => c = true) (check e c) := by
  cases c with
  | false => exact .error code
  | true => exact .ok rfl

theorem require_yields (c : Bool) : Yields (fun _ => c = true) (require c) := check_yields (by decide) c

theorem getTag_proper (p last : Nat) (tag : UInt8) : Proper (getTag M buf p last tag) := by
  rw [getTag]
  cases M.asn1GetTag buf p last tag 0 with
  | found t => exact .ok trivial
  | failed q len => exact .error (by decide)

theorem hashAlg_proper (p last : Nat) : Proper (pkcs7GetHashAlg M buf p last) :=
  (expect_proper _).bind fun _ _ => (require_yields _).bind fun _ _ => (expect_proper _).bind fun _ _ => .ok trivial

theorem encryptionAlg_proper (p last : Nat) : Proper (pkcs7GetEncryptionAlg M buf p last) :=
  (expect_proper _).bind fun _ _ => (require_yields _).bind fun _ _ => (expect_proper _).bind fun _ _ => .ok trivial

theorem chainCerts_proper (p buflen i : Nat) (chain : List Crt) : Proper (pkcs7GetChainCerts M buf p buflen i chain) := by
  fun_induction pkcs7GetChainCerts M buf p buflen i chain with
  | case1 => exact .error (by decide)
  | case2 _ _ _ _ _ ih => exact ih
  | case3 => exact .ok trivial

theorem attribute_proper (p endSeq : Nat) (inside : endSeq ≤ buf.length) (s : AttributeLoop buf.length) :
    Proper (pkcs7GetAttribute M buf p endSeq inside s) := by
  unfold pkcs7GetAttribute
  cases tagged : getTag M buf p endSeq asn1Oid with
  | error e => exact (getTag_proper ..).failed tagged
  | ok oid =>
    dsimp only
    split_ifs
    · cases tagged : getTag M buf (oid.q + oid.len) endSeq asn1Set with
      | error e => exact (getTag_proper ..).failed tagged
      | ok set =>
        dsimp only
        cases tagged : getTag M buf set.q endSeq asn1Oid with
        | error e => exact (getTag_proper ..).failed tagged
        | ok content =>
          dsimp only
          split_ifs
          · exact .ok trivial
          · exact .error (by decide)
    · cases tagged : getTag M buf (oid.q + oid.len) endSeq asn1Set with
      | error e => exact (getTag_proper ..).failed tagged
      | ok set =>
        dsimp only
        cases M.x509GetTime buf set.q (set.q + set.len) with
        | none => exact .error (by decide)
        | some time => exact .ok trivial
    · cases tagged : getTag M buf (oid.q + oid.len) endSeq asn1Set with
      | error e => exact (getTag_proper ..).failed tagged
      | ok set =>
        dsimp only
        cases tagged : getTag M buf set.q endSeq asn1OctetString with
        | error e => exact (getTag_proper ..).failed tagged
        | ok digest => exact .ok trivial
    · exact .error (by decide)

theorem attributes_proper (p last : Nat) (inside : last ≤ buf.length) (s : AttributeLoop buf.length) :
    Proper (pkcs7GetAuthenticatedAttributes M buf p last inside s) := by
  fun_induction pkcs7GetAuthenticatedAttributes M buf p last inside s with
  | case1 => exact .ok trivial
  | case2 => exact .error (by decide)
  | case3 _ _ _ _ failed => exact (getTag_proper ..).failed failed
  | case4 _ _ _ _ _ _ _ _ failed => exact (attribute_proper ..).failed failed
  | case5 _ _ _ _ _ _ _ _ _ ih => exact ih

theorem signerInfo_proper (p : Nat) (digestAlgoIds : List MdType) : Proper (pkcs7GetSignerInfo M buf p digestAlgoIds) := by
  apply (getTag_proper ..).bind fun _ _ => ?_
  apply (expect_proper _).bind fun _ _ => ?_
  apply (require_yields _).bind fun _ _ => ?_
  apply (getTag_proper ..).bind fun _ _ => ?_
  apply (getTag_proper ..).bind fun _ _ => ?_
  apply (expect_proper _).bind fun _ _ => ?_
  apply (expect_proper _).bind fun _ _ => ?_
  apply (hashAlg_proper ..).bind fun _ _ => ?_
  apply (require_yields _).bind fun _ _ => ?_
  apply (getTag_proper ..).bind fun _ _ => ?_
  apply (attributes_proper ..).bind fun _ _ => ?_
  apply (encryptionAlg_proper ..).bind fun _ _ => ?_
  apply (require_yields _).bind fun _ _ => ?_
  apply (getTag_proper ..).bind fun _ _ => ?_
  exact .ok trivial

/-- **The chain of a bundle that is read verifies**; a bundle that is not is refused with an error. -/
theorem signedData_yields (memory : Nat → Bool) (chainMemory : Bool) (rootCA : List Crt) :
    Yields (fun sigData => M.x509CrtVerify sigData.chain rootCA = 0) (pkcs7GetSignedData M buf memory chainMemory rootCA) := by
  apply (getTag_proper ..).bind fun _ _ => ?_
  apply (getTag_proper ..).bind fun _ _ => ?_
  apply (require_yields _).bind fun _ _ => ?_
  apply (getTag_proper ..).bind fun _ _ => ?_
  apply (require_yields _).bind fun _ _ => ?_
  apply (getTag_proper ..).bind fun _ _ => ?_
  apply (expect_proper _).bind fun _ _ => ?_
  apply (require_yields _).bind fun _ _ => ?_
  apply (getTag_proper ..).bind fun _ _ => ?_
  apply (expect_proper _).bind fun _ _ => ?_
  apply (require_yields _).bind fun _ _ => ?_
  apply (getTag_proper ..).bind fun _ _ => ?_
  apply (getTag_proper ..).bind fun _ _ => ?_
  apply (require_yields _).bind fun _ _ => ?_
  apply (check_yields (by decide) _).bind fun _ _ => ?_
  apply (getTag_proper ..).bind fun _ _ => ?_
  apply (chainCerts_proper ..).bind fun _ _ => ?_
  apply (check_yields (by decide) _).bind fun _ verified => ?_
  apply (require_yields _).bind fun _ _ => ?_
  apply (signerInfo_proper ..).bind fun _ _ => ?_
  exact .ok (of_decide_eq_true verified)

end

end ArtikSdk.Security
