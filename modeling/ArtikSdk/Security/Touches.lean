import ArtikSdk.Lib.Traced
import ArtikSdk.Security.ChainCerts

/-!
# What the parser touches

The parser again, with the places that it reads and moves to, each with the end of the element
that it is in. Of the calls of the library nothing is known but their contract: a call that finds
something reads nothing behind it, and one that does not reads nothing behind the end it is given.
-/

namespace ArtikSdk.Security
open Lib

/-- The bytes before `upTo` are read, or the cursor is moved there, in an element that ends at `limit`. -/
structure Touch where
  upTo : Nat
  limit : Nat

def Touch.Inside (t : Touch) : Prop := t.upTo ≤ t.limit

inductive LibraryCall where
  | tag (tag : UInt8) (len : Nat)
  | int
  | alg
  | name
  | serial
  | time
  | certificate

/-- How far the calls at some place with some end read. -/
abbrev Extent := LibraryCall → Nat → Nat → Nat

abbrev Found.stop {p last : Nat} (t : Found p last) : Nat := t.q + t.len

theorem Found.stop_inside {p last : Nat} (t : Found p last) : t.stop ≤ last := t.inside

section

variable (M : Mbedtls) (buf : List UInt8)

/-- How far a call may read. -/
def mayRead : Extent
  | .tag tag len, p, last =>
    match M.asn1GetTag buf p last tag len with
    | .found t => t.stop
    | .failed _ _ => last
  | .int, p, last => (M.asn1GetInt buf p last).elim last (·.q)
  | .alg, p, last => (M.asn1GetAlg buf p last).elim last (·.q)
  | .name, p, last => (M.x509GetName buf p last).elim last (·.q)
  | .serial, p, last => (M.x509GetSerial buf p last).elim last (·.q)
  | .time, p, last => (M.x509GetTime buf p last).elim last (·.q)
  | .certificate, _, last => last

def Extent.Allowed (reach : Extent) : Prop := ∀ call p last, reach call p last ≤ mayRead M buf call p last

/-! ## The parser -/

variable (reach : Extent)

/-- A call of the library in an element that ends at `limit`; it leaves the cursor behind what it read. -/
def called {α : Type} (call : LibraryCall) (p last limit : Nat) (r : Except ArtikError α) (cursor : α → Nat) : Traced ArtikError Touch α := do
  touch ⟨reach call p last, limit⟩
  let a ← quiet r
  touch ⟨cursor a, limit⟩
  return a

def scanTag (p last limit : Nat) (tag : UInt8) : Traced ArtikError Touch (Found p last) :=
  called reach (.tag tag 0) p last limit (getTag M buf p last tag) (·.q)

def scanInt (p last limit : Nat) : Traced ArtikError Touch (Read p last Int) :=
  called reach .int p last limit (expect (M.asn1GetInt buf p last)) (·.q)

def scanHashAlg (p last limit : Nat) : Traced ArtikError Touch (Read p last MdType) := do
  let alg ← called reach .alg p last limit (expect (M.asn1GetAlg buf p last)) (·.q)
  quiet (require (alg.value.2.tag = asn1Null))
  let md ← quiet (expect (M.oidGetMdAlg alg.value.1))
  return alg.holding md

def scanEncryptionAlg (p last limit : Nat) : Traced ArtikError Touch (Read p last PkType) := do
  let alg ← called reach .alg p last limit (expect (M.asn1GetAlg buf p last)) (·.q)
  quiet (require (alg.value.2.tag = asn1Null || alg.value.2.tag = 0))
  let sig ← quiet (expect (M.oidGetSigAlg alg.value.1))
  return alg.holding sig.2

/-- The loop in the SET that ends at `last`. -/
def scanDigestAlgorithmIdentifiers (memory : Nat → Bool) (p last : Nat) (ids : List MdType) : Traced ArtikError Touch (Nat × List MdType) :=
  if p = last then return (p, ids)
  else if memory ids.length = false then quiet (.error .noMem)
  else do
    let alg ← scanHashAlg M buf reach p last last
    scanDigestAlgorithmIdentifiers memory alg.q last (ids ++ [alg.value])
termination_by last - p
decreasing_by
  have after := alg.after
  have inside := alg.inside
  omega

/-- The certificates, in the element whose contents are the `buflen` bytes at `p`. -/
def scanChainCerts (p buflen i : Nat) (chain : List Crt) : Traced ArtikError Touch (List Crt) :=
  if i < buflen then do
    touch ⟨reach .certificate (p + i) (p + buflen), p + buflen⟩
    let crt ← quiet (expect (M.x509CrtParseDer (slice buf (p + i) (buflen - i))))
    -- the bytes 2 and 3, and the step to the next certificate
    touch ⟨p + i + 4, p + buflen⟩
    touch ⟨p + (i + sizeAt buf (p + i)), p + buflen⟩
    scanChainCerts p buflen (i + sizeAt buf (p + i)) (chain ++ [crt])
  else return chain
termination_by buflen - i
decreasing_by
  have positive : 0 < sizeAt buf (p + i) := Nat.succ_pos _
  omega

/-- One attribute, in the sequence that ends at `endSeq`. What is in the SET is in its contents. -/
def scanAttribute (p endSeq : Nat) (inside : endSeq ≤ buf.length) (s : AttributeLoop buf.length) :
    Traced ArtikError Touch (Read p endSeq (AttributeLoop buf.length)) := do
  let oid ← scanTag M buf reach p endSeq endSeq asn1Oid
  touch ⟨oid.stop, endSeq⟩
  let oidBytes := slice buf oid.q oid.len
  if oidBytes = oidPkcs9ContentType then
    let set ← scanTag M buf reach (oid.q + oid.len) endSeq endSeq asn1Set
    let content ← scanTag M buf reach set.q endSeq set.stop asn1Oid
    touch ⟨content.stop, set.stop⟩
    quiet (require (slice buf content.q content.len = oidPkcs7Data))
    return content.read { s with hasContentType := true } (oid.before set)
  else if oidBytes = oidPkcs9SigningTime then
    let set ← scanTag M buf reach (oid.q + oid.len) endSeq endSeq asn1Set
    let time ← called reach .time set.q (set.q + set.len) set.stop (expect (M.x509GetTime buf set.q (set.q + set.len))) (·.q)
    return time.widen { s with hasSigningTime := true, attributes := { s.attributes with signingTime := time.value } } (oid.before set) (oid.within set)
  else if oidBytes = oidPkcs9MessageDigest then
    let set ← scanTag M buf reach (oid.q + oid.len) endSeq endSeq asn1Set
    let digest ← scanTag M buf reach set.q endSeq set.stop asn1OctetString
    touch ⟨digest.stop, set.stop⟩
    return digest.read { s with hasMessageDigest := true, attributes := { s.attributes with digest := digest.region.widen inside } }
      (oid.before set)
  else quiet (.error .securityInvalidPkcs7)

def scanAuthenticatedAttributes (p last : Nat) (inside : last ≤ buf.length) (s : AttributeLoop buf.length) :
    Traced ArtikError Touch (Nat × Attributes buf.length) :=
  if p = last then quiet (if s.hasContentType && s.hasSigningTime && s.hasMessageDigest then .ok (p, s.attributes) else .error .securityInvalidPkcs7)
  else do
    let t ← scanTag M buf reach p last last asn1Sequence
    let next ← scanAttribute M buf reach t.q (t.q + t.len) (Nat.le_trans t.inside inside) s
    scanAuthenticatedAttributes next.q last inside next.value
termination_by last - p
decreasing_by
  have after := t.after
  have within := t.inside
  have after' := next.after
  have within' := next.inside
  omega

/-- The SignerInfo, in an element that ends at `limit`. -/
def scanSignerInfo (p limit : Nat) (digestAlgoIds : List MdType) : Traced ArtikError Touch (SignerInfo buf.length) := do
  let signer ← scanTag M buf reach p buf.length limit asn1Sequence
  let ver ← scanInt M buf reach signer.q buf.length signer.stop
  quiet (require (ver.value = 1))
  let issuerAndSerial ← scanTag M buf reach ver.q buf.length signer.stop asn1Sequence
  let rdn ← scanTag M buf reach issuerAndSerial.q buf.length issuerAndSerial.stop asn1Sequence
  let issuer ← called reach .name rdn.q (rdn.q + rdn.len) rdn.stop (expect (M.x509GetName buf rdn.q (rdn.q + rdn.len))) (·.q)
  let serial ← called reach .serial issuer.q buf.length issuerAndSerial.stop (expect (M.x509GetSerial buf issuer.q buf.length)) (·.q)
  let alg ← scanHashAlg M buf reach serial.q buf.length signer.stop
  quiet (require (digestAlgoIds.head? = some alg.value))
  let t ← scanTag M buf reach alg.q buf.length signer.stop asn1Context
  let attributes ← scanAuthenticatedAttributes M buf reach t.q (t.q + t.len) t.stop_inside (.zero _)
  let enc ← scanEncryptionAlg M buf reach attributes.1 buf.length signer.stop
  quiet (require (enc.value = .ecdsa))
  let digest ← scanTag M buf reach enc.q buf.length signer.stop asn1OctetString
  touch ⟨digest.stop, signer.stop⟩
  return {
    issuer := issuer.value
    serial := serial.value
    digestAlgId := alg.value
    attributes := attributes.2
    raw := rawRegion buf t
    rawNonempty := t.raw_nonempty
    encryptedDigest := digest.region
  }

/-- The end of the element that the SignerInfo is in: of the SET, if there is one, in one that ends at `limit`. -/
def signersEnd (p len limit : Nat) : Nat :=
  match M.asn1GetTag buf p buf.length asn1Set len with
  | .found t => t.stop
  | .failed _ _ => limit

/-- Any error is an invalid PKCS#7. -/
def scanExpect {α : Type} (x : Traced ArtikError Touch α) : Traced ArtikError Touch α := ⟨expect x.result.toOption, x.touches⟩

def scanSignedData (memory : Nat → Bool) (chainMemory : Bool) (rootCA : List Crt) : Traced ArtikError Touch (SignedData buf.length) := do
  let contentInfo ← scanTag M buf reach 0 buf.length buf.length asn1Sequence
  let oid ← scanTag M buf reach contentInfo.q buf.length contentInfo.stop asn1Oid
  touch ⟨oid.stop, contentInfo.stop⟩
  quiet (require (slice buf oid.q oid.len = oidPkcs7SignedData))
  let content ← scanTag M buf reach (oid.q + oid.len) buf.length contentInfo.stop asn1Context
  quiet (require (content.q + content.len = buf.length))
  let signedData ← scanTag M buf reach content.q buf.length content.stop asn1Sequence
  let ver ← scanInt M buf reach signedData.q buf.length signedData.stop
  quiet (require (ver.value = 1))
  let set ← scanTag M buf reach ver.q buf.length signedData.stop asn1Set
  let ids ← scanExpect (scanDigestAlgorithmIdentifiers M buf reach memory set.q (set.q + set.len) [])
  quiet (require (ids.2.length = 1))
  let info ← scanTag M buf reach ids.1 buf.length signedData.stop asn1Sequence
  -- `ct_oid.tag = **p`
  touch ⟨info.q + 1, info.stop⟩
  let ct ← scanTag M buf reach info.q (info.q + info.len) info.stop asn1Oid
  touch ⟨ct.stop, info.stop⟩
  quiet (require (slice buf ct.q ct.len = oidPkcs7Data))
  quiet (check .noMem chainMemory)
  let t ← scanTag M buf reach (ct.q + ct.len) buf.length signedData.stop asn1Context
  let certs ← scanChainCerts M buf reach t.q t.len 0 []
  touch ⟨t.stop, signedData.stop⟩
  let chain := reverseChain [] (if certs = [] then [.zero] else certs)
  quiet (check .securityCaVerifFailed (M.x509CrtVerify chain rootCA = 0))
  touch ⟨reach (.tag asn1Set t.len) (t.q + t.len) buf.length, signedData.stop⟩
  let signers := signerInfosTag M buf (t.q + t.len) t.len
  touch ⟨signers.1, signedData.stop⟩
  quiet (require (signers.1 + signers.2 = buf.length))
  let signer ← scanSignerInfo M buf reach signers.1 (signersEnd M buf (t.q + t.len) t.len signedData.stop) ids.2
  return ⟨chain, signer⟩

end

/-! ## What it returns -/

variable {M : Mbedtls} {buf : List UInt8} {reach : Extent} {p last limit : Nat}

theorem called_result {α : Type} {call : LibraryCall} {r : Except ArtikError α} {cursor : α → Nat} :
    (called reach call p last limit r cursor).result = r := by
  rw [called]
  cases r <;> rfl

theorem scanTag_result {tag : UInt8} : (scanTag M buf reach p last limit tag).result = getTag M buf p last tag := called_result

theorem scanInt_result : (scanInt M buf reach p last limit).result = expect (M.asn1GetInt buf p last) := called_result

theorem scanHashAlg_result : (scanHashAlg M buf reach p last limit).result = pkcs7GetHashAlg M buf p last := by
  simp only [scanHashAlg, pkcs7GetHashAlg, bind_result, called_result, quiet_result, pure_result]
  rfl

theorem scanEncryptionAlg_result : (scanEncryptionAlg M buf reach p last limit).result = pkcs7GetEncryptionAlg M buf p last := by
  simp only [scanEncryptionAlg, pkcs7GetEncryptionAlg, bind_result, called_result, quiet_result, pure_result]
  rfl

theorem scanDigestAlgorithmIdentifiers_result {memory : Nat → Bool} {ids : List MdType} :
    (scanDigestAlgorithmIdentifiers M buf reach memory p last ids).result = pkcs7GetDigestAlgorithmIdentifiers M buf memory p last ids := by
  fun_induction pkcs7GetDigestAlgorithmIdentifiers M buf memory p last ids with
  | case1 ids =>
    rw [scanDigestAlgorithmIdentifiers, if_pos rfl]
    rfl
  | case2 p ids more starved =>
    rw [scanDigestAlgorithmIdentifiers, if_neg more, if_pos starved]
    rfl
  | case3 p ids more granted e failed =>
    rw [scanDigestAlgorithmIdentifiers, if_neg more, if_neg granted, bind_result, scanHashAlg_result, failed]
    rfl
  | case4 p ids more granted alg found ih =>
    rw [scanDigestAlgorithmIdentifiers, if_neg more, if_neg granted, bind_result, scanHashAlg_result, found]
    exact ih

theorem scanChainCerts_result {buflen i : Nat} {chain : List Crt} :
    (scanChainCerts M buf reach p buflen i chain).result = pkcs7GetChainCerts M buf p buflen i chain := by
  fun_induction pkcs7GetChainCerts M buf p buflen i chain with
  | case1 i chain inside failed =>
    rw [scanChainCerts, if_pos inside]
    simp only [bind_result, touch_result, quiet_result, failed]
    rfl
  | case2 i chain inside crt found ih =>
    rw [scanChainCerts, if_pos inside]
    simp only [bind_result, touch_result, quiet_result, found]
    exact ih
  | case3 i chain outside =>
    rw [scanChainCerts, if_neg outside]
    rfl

theorem scanAttribute_result {endSeq : Nat} {inside : endSeq ≤ buf.length} {s : AttributeLoop buf.length} :
    (scanAttribute M buf reach p endSeq inside s).result = pkcs7GetAttribute M buf p endSeq inside s := by
  rw [scanAttribute, pkcs7GetAttribute]
  simp only [bind_result, scanTag_result, touch_result]
  cases getTag M buf p endSeq asn1Oid with
  | error e => rfl
  | ok oid =>
    simp only [ok_bind]
    split_ifs
    · simp only [bind_result, scanTag_result, touch_result, quiet_result]
      cases getTag M buf (oid.q + oid.len) endSeq asn1Set with
      | error e => rfl
      | ok set =>
        simp only [ok_bind]
        cases getTag M buf set.q endSeq asn1Oid with
        | error e => rfl
        | ok content =>
          simp only [ok_bind]
          by_cases isData : slice buf content.q content.len = oidPkcs7Data
          · rw [if_pos isData, decide_eq_true isData]
            rfl
          · rw [if_neg isData, decide_eq_false isData]
            rfl
    · simp only [bind_result, scanTag_result, called_result]
      cases getTag M buf (oid.q + oid.len) endSeq asn1Set with
      | error e => rfl
      | ok set =>
        simp only [ok_bind]
        cases M.x509GetTime buf set.q (set.q + set.len) <;> rfl
    · simp only [bind_result, scanTag_result, touch_result]
      cases getTag M buf (oid.q + oid.len) endSeq asn1Set with
      | error e => rfl
      | ok set =>
        simp only [ok_bind]
        cases getTag M buf set.q endSeq asn1OctetString <;> rfl
    · rfl

theorem scanAuthenticatedAttributes_result {inside : last ≤ buf.length} {s : AttributeLoop buf.length} :
    (scanAuthenticatedAttributes M buf reach p last inside s).result = pkcs7GetAuthenticatedAttributes M buf p last inside s := by
  fun_induction pkcs7GetAuthenticatedAttributes M buf p last inside s with
  | case1 s all =>
    rw [scanAuthenticatedAttributes, if_pos rfl, if_pos all]
    rfl
  | case2 s missing =>
    rw [scanAuthenticatedAttributes, if_pos rfl, if_neg missing]
    rfl
  | case3 p s more e failed =>
    rw [scanAuthenticatedAttributes, if_neg more, bind_result, scanTag_result, failed]
    rfl
  | case4 p s more t found after within e failed =>
    rw [scanAuthenticatedAttributes, if_neg more, bind_result, scanTag_result, found, ok_bind, bind_result, scanAttribute_result, failed]
    rfl
  | case5 p s more t found after within next one ih =>
    rw [scanAuthenticatedAttributes, if_neg more, bind_result, scanTag_result, found, ok_bind, bind_result, scanAttribute_result, one]
    exact ih

theorem scanSignerInfo_result {ids : List MdType} :
    (scanSignerInfo M buf reach p limit ids).result = pkcs7GetSignerInfo M buf p ids := by
  simp only [scanSignerInfo, pkcs7GetSignerInfo, bind_result, scanTag_result, scanInt_result, called_result, quiet_result, scanHashAlg_result,
    scanEncryptionAlg_result, scanAuthenticatedAttributes_result, touch_result, pure_result, ok_bind]
  rfl

/-- **The parser with its touches is the parser.** -/
theorem scanSignedData_result {memory : Nat → Bool} {chainMemory : Bool} {rootCA : List Crt} :
    (scanSignedData M buf reach memory chainMemory rootCA).result = pkcs7GetSignedData M buf memory chainMemory rootCA := by
  simp only [scanSignedData, pkcs7GetSignedData, bind_result, scanTag_result, scanInt_result, quiet_result, scanExpect,
    scanDigestAlgorithmIdentifiers_result, scanChainCerts_result, scanSignerInfo_result, touch_result, pure_result, ok_bind]
  rfl

end ArtikSdk.Security
