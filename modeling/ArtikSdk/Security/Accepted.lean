import ArtikSdk.Lib.Run
import ArtikSdk.Security.Acceptance
import ArtikSdk.Security.Walk

/-!
# Which buffers the parser accepts

The branches of the parser that go on, with what they read: an accepted buffer has its walk. It
is of the grammar, and nothing else, where the ends of that walk coincide.
-/

namespace ArtikSdk.Security
open Lib

variable {M : Mbedtls} {buf : List UInt8} {tag : UInt8} {p last : Nat}
/-! ## What was read -/

theorem reverseChain_eq (prev certs : List Crt) : reverseChain prev certs = certs.reverse ++ prev := by
  induction certs generalizing prev with
  | nil => rfl
  | cons crt certs ih => rw [reverseChain, ih, List.reverse_cons, List.append_assoc, List.singleton_append]

/-- The certificate that stands for none has no bytes. -/
theorem reversed_raw (certs : List Crt) :
    (reverseChain [] (if certs = [] then [.zero] else certs)).reverse.flatMap (·.raw) = certs.flatMap (·.raw) := by
  rw [reverseChain_eq, List.append_nil, List.reverse_reverse]
  split
  · subst certs
    rfl
  · rfl

section

variable (reads : ReadsItems M)
include reads

theorem getTag_at {t : Found p last} (found : getTag M buf p last tag = .ok t) : ElementAt buf tag p last t.q t.len := by
  rw [getTag] at found
  split at found
  · cases found
    exact reads.tags.sound ‹_›
  · cases found

theorem getTag_oid {t : Found p last} (found : getTag M buf p last asn1Oid = .ok t) {bytes : List UInt8} (is : slice buf t.q t.len = bytes) :
    oid buf bytes p (t.q + t.len) :=
  ⟨t.q, t.len, (getTag_at reads found).mono (Nat.le_refl _), rfl, by rwa [bytesAre, Nat.add_sub_cancel_left]⟩

theorem hashAlg_at {r : Read p last MdType} (read : pkcs7GetHashAlg M buf p last = .ok r) : digestAlgorithm M buf r.value p r.q := by
  rw [pkcs7GetHashAlg] at read
  obtain ⟨alg, found, read⟩ := bind_ok_iff.1 read
  obtain ⟨_, parameters, read⟩ := bind_ok_iff.1 read
  obtain ⟨md, known, read⟩ := bind_ok_iff.1 read
  cases read
  refine ⟨alg.value, reads.algorithms (expect_ok found), required parameters, expect_ok known⟩

theorem encryptionAlg_at {r : Read p last PkType} (read : pkcs7GetEncryptionAlg M buf p last = .ok r) (ecdsa : r.value = .ecdsa) :
    digestEncryptionAlgorithm M buf p r.q := by
  rw [pkcs7GetEncryptionAlg] at read
  obtain ⟨alg, found, read⟩ := bind_ok_iff.1 read
  obtain ⟨_, parameters, read⟩ := bind_ok_iff.1 read
  obtain ⟨sig, known, read⟩ := bind_ok_iff.1 read
  cases read
  refine ⟨alg.value, sig.1, reads.algorithms (expect_ok found), ?_, ?_⟩
  · have either := check_ok parameters
    rwa [Bool.or_eq_true, decide_eq_true_iff, decide_eq_true_iff] at either
  · rw [expect_ok known, ← show sig.2 = .ecdsa from ecdsa]

theorem version_at {r : Read p last Int} (read : expect (M.asn1GetInt buf p last) = .ok r) (one : r.value = 1) : version buf p r.q := by
  obtain ⟨q, len, at_, ends, is⟩ := reads.integers (expect_ok read)
  exact ⟨q, len, at_, ends, by rw [one] at is; exact_mod_cast is.symm⟩

/-- One identifier after the other. -/
theorem digestAlgorithms_read {memory : Nat → Bool} {ids ids' : List MdType} {q : Nat}
    (read : pkcs7GetDigestAlgorithmIdentifiers M buf memory p last ids = .ok (q, ids')) :
    q = last ∧ ∃ more, ids' = ids ++ more ∧ sequence (more.map (digestAlgorithm M buf)) p last := by
  fun_induction pkcs7GetDigestAlgorithmIdentifiers M buf memory p last ids with
  | case1 ids =>
    cases read
    exact ⟨rfl, [], (List.append_nil _).symm, rfl⟩
  | case2 => cases read
  | case3 => cases read
  | case4 p ids more memory alg found ih =>
    obtain ⟨rfl, mds, rfl, following⟩ := ih read
    exact ⟨rfl, alg.value :: mds, by rw [List.append_assoc]; rfl, alg.q, hashAlg_at reads found, following⟩

/-- The attribute in a sequence. -/
theorem attribute_read (x : Element buf asn1Sequence p) (inside : x.stop ≤ buf.length) {s : AttributeLoop buf.length}
    {next : Read x.q x.stop (AttributeLoop buf.length)} (parsed : pkcs7GetAttribute M buf x.q x.stop inside s = .ok next) :
    ∃ a : AttributeRead M buf p, a.stop = next.q ∧ a.kind.apply s = next.value := by
  have begins : p < x.q := x.at_.after
  have whole {q len : Nat} {tag : UInt8} {p' : Nat} (at_ : ElementAt buf tag p' x.stop q len) (ends : q + len ≤ x.stop) : ElementAt buf tag p' buf.length q len :=
    at_.mono (Nat.le_trans ends inside)
  unfold pkcs7GetAttribute at parsed
  split at parsed
  · cases parsed
  rename_i o oidFound
  dsimp only at parsed
  split at parsed
  · rename_i isType
    split at parsed
    · cases parsed
    rename_i set setFound
    split at parsed
    · cases parsed
    rename_i content contentFound
    split at parsed
    · rename_i isData
      cases parsed
      exact ⟨⟨.contentType, x, _, getTag_oid reads oidFound isType, ⟨set.q, set.len, whole (getTag_at reads setFound) set.inside⟩, _,
        getTag_oid reads contentFound isData, by have h1 := o.after; have h2 := set.after; have h3 := content.after; omega⟩, rfl, rfl⟩
    · cases parsed
  · split at parsed
    · rename_i isType
      split at parsed
      · cases parsed
      rename_i set setFound
      split at parsed
      · cases parsed
      rename_i time timeRead
      cases parsed
      exact ⟨⟨.signingTime time.value, x, _, getTag_oid reads oidFound isType, ⟨set.q, set.len, whole (getTag_at reads setFound) set.inside⟩, _,
        ⟨time, timeRead, rfl, rfl⟩, by have h1 := o.after; have h2 := set.after; have h3 := time.after; omega⟩, rfl, rfl⟩
    · split at parsed
      · rename_i isType
        split at parsed
        · cases parsed
        rename_i set setFound
        split at parsed
        · cases parsed
        rename_i digest digestFound
        cases parsed
        exact ⟨⟨.messageDigest _, x, _, getTag_oid reads oidFound isType, ⟨set.q, set.len, whole (getTag_at reads setFound) set.inside⟩, _,
          ⟨_, _, (getTag_at reads digestFound).mono (Nat.le_refl _), rfl, rfl, rfl⟩,
          by have h1 := o.after; have h2 := set.after; have h3 := digest.after; omega⟩, rfl, rfl⟩
      · cases parsed

theorem attributes_read (inside : last ≤ buf.length) {s : AttributeLoop buf.length} {q : Nat} {attrs : Attributes buf.length}
    (parsed : pkcs7GetAuthenticatedAttributes M buf p last inside s = .ok (q, attrs)) :
    q = last ∧ ∃ as loop, AttributesRead M buf last p as ∧ (as.map (·.2.kind)).foldl Attribute.apply s = loop ∧
      (loop.hasContentType = true ∧ loop.hasSigningTime = true ∧ loop.hasMessageDigest = true) ∧ loop.attributes = attrs := by
  fun_induction pkcs7GetAuthenticatedAttributes M buf p last inside s with
  | case1 s all =>
    cases parsed
    simp only [Bool.and_eq_true] at all
    exact ⟨rfl, [], s, .nil, rfl, ⟨all.1.1, all.1.2, all.2⟩, rfl⟩
  | case2 => cases parsed
  | case3 => cases parsed
  | case4 => cases parsed
  | case5 p s more t found after within next one ih =>
    obtain ⟨rfl, as, loop, rest, is, all, are⟩ := ih parsed
    obtain ⟨a, stop, applied⟩ := attribute_read reads ⟨t.q, t.len, (getTag_at reads found).mono (Nat.le_trans t.inside inside)⟩ _ one
    rw [← stop] at rest
    refine ⟨rfl, ⟨p, a⟩ :: as, loop, .cons a rest, ?_, all, are⟩
    rw [List.map_cons, List.foldl_cons, applied, is]

/-- The SignerInfo with its walk. -/
theorem signerInfo_walk {ids : List MdType} {s : SignerInfo buf.length} (parsed : pkcs7GetSignerInfo M buf p ids = .ok s) :
    ids.head? = some s.digestAlgId ∧ Nonempty (SignerWalk M buf s p) := by
  rw [pkcs7GetSignerInfo] at parsed
  obtain ⟨signerInfo, foundSigner, parsed⟩ := bind_ok_iff.1 parsed
  obtain ⟨ver, readVer, parsed⟩ := bind_ok_iff.1 parsed
  obtain ⟨_, one, parsed⟩ := bind_ok_iff.1 parsed
  obtain ⟨issuerAndSerial, foundIssuerAndSerial, parsed⟩ := bind_ok_iff.1 parsed
  obtain ⟨rdnSequence, foundRdn, parsed⟩ := bind_ok_iff.1 parsed
  obtain ⟨issuer, readIssuer, parsed⟩ := bind_ok_iff.1 parsed
  obtain ⟨serial, readSerial, parsed⟩ := bind_ok_iff.1 parsed
  obtain ⟨alg, readAlg, parsed⟩ := bind_ok_iff.1 parsed
  obtain ⟨_, same, parsed⟩ := bind_ok_iff.1 parsed
  obtain ⟨context, foundContext, parsed⟩ := bind_ok_iff.1 parsed
  obtain ⟨⟨q, attrs⟩, readAttributes, parsed⟩ := bind_ok_iff.1 parsed
  obtain ⟨enc, readEnc, parsed⟩ := bind_ok_iff.1 parsed
  obtain ⟨_, ecdsa, parsed⟩ := bind_ok_iff.1 parsed
  obtain ⟨digest, foundDigest, parsed⟩ := bind_ok_iff.1 parsed
  cases parsed
  obtain ⟨rfl, as, loop, attributesRead, loopIs, found, are⟩ := attributes_read reads context.inside readAttributes
  have after := context.after
  refine ⟨required same, ⟨{
    signerInfo := ⟨signerInfo.q, signerInfo.len, getTag_at reads foundSigner⟩
    versionEnd := ver.q
    version := version_at reads readVer (required one)
    issuerAndSerial := ⟨issuerAndSerial.q, issuerAndSerial.len, getTag_at reads foundIssuerAndSerial⟩
    rdnSequence := ⟨rdnSequence.q, rdnSequence.len, getTag_at reads foundRdn⟩
    issuer := issuer
    issuerRead := expect_ok readIssuer
    issuerIs := rfl
    serialEnd := serial.q
    serial := reads.serials (expect_ok readSerial)
    digestAlgorithmEnd := alg.q
    digestAlgorithm := hashAlg_at reads readAlg
    attributes := ⟨context.q, context.len, getTag_at reads foundContext⟩
    raw := ⟨rfl, ?_⟩
    reads := as
    attributesRead := attributesRead
    loop := loop
    loopIs := loopIs
    found := found
    attributesAre := are
    encryptionEnd := enc.q
    encryption := encryptionAlg_at reads readEnc (required ecdsa)
    encryptedDigestEnd := digest.q + digest.len
    encryptedDigest := ⟨digest.q, digest.len, (getTag_at reads foundDigest).mono (Nat.le_refl _), rfl, rfl, rfl⟩ }⟩⟩
  dsimp only [rawRegion, Element.stop]
  omega

theorem signerInfosTag_at (len : Nat) (set : Element buf asn1Set p) :
    (signerInfosTag M buf p len).1 = set.q ∧ (signerInfosTag M buf p len).2 = set.len := by
  obtain ⟨t, found⟩ := reads.tags.complete set.at_ len
  have same := (reads.tags.sound found).unique set.at_
  rw [signerInfosTag, found]
  exact same

/-- **An accepted buffer has its walk.** -/
theorem signedData_walk {memory : Nat → Bool} {chainMemory : Bool} {rootCA : List Crt} {sd : SignedData buf.length}
    (parsed : pkcs7GetSignedData M buf memory chainMemory rootCA = .ok sd) : Nonempty (Walk M buf sd) := by
  rw [pkcs7GetSignedData] at parsed
  obtain ⟨contentInfo, foundContentInfo, parsed⟩ := bind_ok_iff.1 parsed
  obtain ⟨type, foundType, parsed⟩ := bind_ok_iff.1 parsed
  obtain ⟨_, isSignedData, parsed⟩ := bind_ok_iff.1 parsed
  obtain ⟨content, foundContent, parsed⟩ := bind_ok_iff.1 parsed
  obtain ⟨_, contentEnds, parsed⟩ := bind_ok_iff.1 parsed
  obtain ⟨signedData, foundSignedData, parsed⟩ := bind_ok_iff.1 parsed
  obtain ⟨ver, readVer, parsed⟩ := bind_ok_iff.1 parsed
  obtain ⟨_, one, parsed⟩ := bind_ok_iff.1 parsed
  obtain ⟨algorithms, foundAlgorithms, parsed⟩ := bind_ok_iff.1 parsed
  obtain ⟨⟨q, ids⟩, readIds, parsed⟩ := bind_ok_iff.1 parsed
  obtain ⟨_, single, parsed⟩ := bind_ok_iff.1 parsed
  obtain ⟨dataInfo, foundDataInfo, parsed⟩ := bind_ok_iff.1 parsed
  obtain ⟨dataType, foundDataType, parsed⟩ := bind_ok_iff.1 parsed
  obtain ⟨_, isData, parsed⟩ := bind_ok_iff.1 parsed
  obtain ⟨_, memory, parsed⟩ := bind_ok_iff.1 parsed
  obtain ⟨certificates, foundCertificates, parsed⟩ := bind_ok_iff.1 parsed
  obtain ⟨certs, readCerts, parsed⟩ := bind_ok_iff.1 parsed
  obtain ⟨_, verified, parsed⟩ := bind_ok_iff.1 parsed
  obtain ⟨_, signerEnds, parsed⟩ := bind_ok_iff.1 parsed
  obtain ⟨signer, readSigner, parsed⟩ := bind_ok_iff.1 parsed
  cases parsed
  obtain ⟨same, ⟨walk⟩⟩ := signerInfo_walk reads readSigner
  obtain ⟨rfl, mds, rfl, algorithm⟩ := digestAlgorithms_read reads (expect_toOption readIds)
  obtain ⟨md, rfl⟩ := List.length_eq_one_iff.1 (required single)
  obtain ⟨_, algorithm, rfl⟩ := algorithm
  obtain rfl := Option.some.inj same
  exact ⟨{
    contentInfo := ⟨contentInfo.q, contentInfo.len, getTag_at reads foundContentInfo⟩
    typeEnd := type.q + type.len
    type := getTag_oid reads foundType (required isSignedData)
    content := ⟨content.q, content.len, getTag_at reads foundContent⟩
    contentEnds := required contentEnds
    signedData := ⟨signedData.q, signedData.len, getTag_at reads foundSignedData⟩
    versionEnd := ver.q
    version := version_at reads readVer (required one)
    digestAlgorithms := ⟨algorithms.q, algorithms.len, getTag_at reads foundAlgorithms⟩
    digestAlgorithm := algorithm
    dataInfo := ⟨dataInfo.q, dataInfo.len, (getTag_at reads foundDataInfo)⟩
    dataTypeEnd := dataType.q + dataType.len
    dataType := getTag_oid reads foundDataType (required isData)
    certificates := ⟨certificates.q, certificates.len, getTag_at reads foundCertificates⟩
    chain := by rw [reversed_raw, chainCerts_calls readCerts, List.nil_append]; rfl
    signer := (signerInfosTag M buf (certificates.q + certificates.len) certificates.len).1
    signerInfos := fun set => by
      obtain ⟨begins, length⟩ := signerInfosTag_at reads (p := certificates.q + certificates.len) certificates.len set
      have ends := required signerEnds
      rw [begins, length] at ends
      exact ⟨begins.symm, ends⟩
    signerWalk := walk }⟩

end

/-- **An accepted buffer is the bundle that was parsed**, and nothing else, when in its walk every element ends where its
contents do. -/
theorem accepted_isBundle_iff (reads : ReadsItems M) {memory : Nat → Bool} {chainMemory : Bool} {rootCA : List Crt}
    {sd : SignedData buf.length} (accepted : pkcs7GetSignedData M buf memory chainMemory rootCA = .ok sd) :
    IsBundle M buf sd ↔ ∃ w : Walk M buf sd, w.Exact := by
  constructor
  · intro bundle
    obtain ⟨w⟩ := signedData_walk reads accepted
    exact ⟨w, (isBundle_iff w).1 bundle⟩
  · rintro ⟨w, exact⟩
    exact (isBundle_iff w).2 exact

/-! ## A library that reads items -/

section

variable (buf : List UInt8) (p last : Nat)

/-- `mbedtls_asn1_get_int` -/
def elementInt : Option (Read p last Int) :=
  match elementTag buf p last asn1Integer 0 with
  | .failed _ _ => none
  | .found t =>
    if t.len = 0 ∨ 4 < t.len ∨ 0x80 ≤ byteAt buf t.q then none
    else some ⟨t.q + t.len, value (slice buf t.q t.len), Nat.lt_of_lt_of_le t.after (Nat.le_add_right _ _), t.inside⟩

/-- `mbedtls_asn1_get_alg`: the parameters are optional. -/
def elementAlg : Option (Read p last (Asn1Buf × Asn1Buf)) :=
  match elementTag buf p last asn1Sequence 0 with
  | .failed _ _ => none
  | .found t =>
    match elementTag buf t.q (t.q + t.len) asn1Oid 0 with
    | .failed _ _ => none
    | .found o =>
      let alg : Asn1Buf := ⟨asn1Oid, slice buf o.q o.len⟩
      let behind := Nat.lt_of_lt_of_le t.after (Nat.le_add_right _ _)
      if o.q + o.len = t.q + t.len then some ⟨t.q + t.len, (alg, ⟨0, []⟩), behind, t.inside⟩
      else
        match elementTag buf (o.q + o.len) (t.q + t.len) (byteAt buf (o.q + o.len)) 0 with
        | .failed _ _ => none
        | .found params =>
          if params.q + params.len = t.q + t.len then
            some ⟨t.q + t.len, (alg, ⟨byteAt buf (o.q + o.len), slice buf params.q params.len⟩), behind, t.inside⟩
          else none

/-- `mbedtls_x509_get_serial` -/
def elementSerial : Option (Read p last Asn1Buf) :=
  if byteAt buf p ≠ 0x82 ∧ byteAt buf p ≠ asn1Integer then none
  else
    match elementTag buf p last (byteAt buf p) 0 with
    | .failed _ _ => none
    | .found t =>
      some ⟨t.q + t.len, ⟨byteAt buf p, slice buf t.q t.len⟩, Nat.lt_of_lt_of_le t.after (Nat.le_add_right _ _), t.inside⟩

end

def itemLibrary : Mbedtls :=
  { otherSerialLibrary with
    asn1GetTag := elementTag
    asn1GetInt := elementInt
    asn1GetAlg := elementAlg
    x509GetSerial := elementSerial }

theorem elementTag_item {t : Found p last} (found : elementTag buf p last tag 0 = .found t) {contents : Item}
    (holds : contents t.q (t.q + t.len)) : element buf tag contents p (t.q + t.len) :=
  ⟨t.q, t.len, ((elementTag_finds (M := itemLibrary) rfl).sound found).mono (Nat.le_refl _), rfl, holds⟩

theorem slice_all (buf : List UInt8) (q len : Nat) : bytesAre buf (slice buf q len) q (q + len) := by
  rw [bytesAre, Nat.add_sub_cancel_left]

theorem itemLibrary_reads : ReadsItems itemLibrary where
  tags := elementTag_finds rfl
  integers {buf p last r} read := by
    change elementInt buf p last = some r at read
    rw [elementInt] at read
    split at read
    · cases read
    rename_i t found
    split at read
    · cases read
    · cases read
      exact elementTag_item found (by rw [Nat.add_sub_cancel_left])
  algorithms {buf p last r} read := by
    change elementAlg buf p last = some r at read
    rw [elementAlg] at read
    split at read
    · cases read
    rename_i t found
    split at read
    · cases read
    rename_i o foundOid
    have isOid : oid buf (slice buf o.q o.len) t.q (o.q + o.len) := elementTag_item foundOid (slice_all ..)
    dsimp only at read
    split at read
    · rename_i ends
      cases read
      exact elementTag_item found ⟨_, isOid, .inl ⟨ends, rfl⟩⟩
    · split at read
      · cases read
      rename_i params foundParams
      split at read
      · rename_i ends
        cases read
        have isParams := elementTag_item foundParams (slice_all buf params.q params.len)
        rw [ends] at isParams
        exact elementTag_item found ⟨_, isOid, .inr isParams⟩
      · cases read
  serials {buf p last r} read := by
    change elementSerial buf p last = some r at read
    rw [elementSerial] at read
    split at read
    · cases read
    split at read
    · cases read
    rename_i t found
    cases read
    exact elementTag_item found (slice_all ..)

/-! ## A bundle, and one with a byte behind it -/

deriving instance DecidableEq for Region, Attributes, SignerInfo, SignedData

/-- What is read of the bundle. -/
def otherSerialData : SignedData otherSerial.length where
  chain := [otherSerialCrt]
  signer := {
    issuer := otherSerialCrt.issuer
    serial := ⟨0x02, [0x03]⟩
    digestAlgId := .sha256
    attributes := ⟨⟨2026, 11, 19, 4, 1, 59⟩, ⟨467, 32, by decide +kernel⟩⟩
    raw := ⟨392, 107, by decide +kernel⟩
    rawNonempty := by decide
    encryptedDigest := ⟨513, 72, by decide +kernel⟩ }

theorem otherSerial_parsed : pkcs7GetSignedData itemLibrary otherSerial (fun _ => true) true [otherSerialCrt] = .ok otherSerialData := by
  decide +kernel

/-- An element from one offset to another whose contents are at `q`. -/
def foundAs (buf : List UInt8) (tag : UInt8) (p q e : Nat) : Bool :=
  match elementTag buf p e tag 0 with
  | .failed _ _ => false
  | .found t => t.q = q && t.q + t.len = e

theorem foundAs_element {q e : Nat} (found : foundAs buf tag p q e = true) {contents : Item} (holds : contents q e) : element buf tag contents p e := by
  rw [foundAs] at found
  split at found
  · cases found
  rename_i t found'
  rw [Bool.and_eq_true, decide_eq_true_iff, decide_eq_true_iff] at found
  obtain ⟨rfl, ends⟩ := found
  exact ⟨t.q, t.len, (elementTag_finds (M := itemLibrary) rfl).sound found', ends, holds⟩

theorem otherSerial_isBundle : IsBundle itemLibrary otherSerial otherSerialData := by
  have oidAt {p : Nat} (q e : Nat) {bytes : List UInt8} (found : (foundAs otherSerial asn1Oid p q e && slice otherSerial q (e - q) = bytes) = true) :
      oid otherSerial bytes p e := by
    rw [Bool.and_eq_true, decide_eq_true_iff] at found
    exact foundAs_element found.1 found.2
  have digestAlgorithmAt {p : Nat} (q o m e : Nat) (found : foundAs otherSerial asn1Sequence p q e = true)
      (isOid : oid otherSerial oidSha256 q m) (null : foundAs otherSerial asn1Null m e e = true) :
      digestAlgorithm itemLibrary otherSerial .sha256 p e :=
    ⟨(⟨asn1Oid, oidSha256⟩, ⟨asn1Null, []⟩), foundAs_element found ⟨m, isOid, .inr (foundAs_element null (by rw [bytesAre, Nat.sub_self]; rfl))⟩, rfl, rfl⟩
  have algorithms : element otherSerial asn1Set (sequence [digestAlgorithm itemLibrary otherSerial .sha256]) 26 43 :=
    foundAs_element (q := 28) (by decide +kernel)
      ⟨43, digestAlgorithmAt 30 32 41 43 (by decide +kernel) (oidAt 32 41 (by decide +kernel)) (by decide +kernel), rfl⟩
  have detached : detachedInfo otherSerial 43 56 :=
    foundAs_element (q := 45) (by decide +kernel) ⟨56, oidAt 47 56 (by decide +kernel), rfl⟩
  have certs : certificates otherSerial [otherSerialCrt] 56 349 := by
    refine foundAs_element (q := 60) (by decide +kernel) ?_
    rw [List.flatMap_singleton]
    exact slice_all otherSerial 60 289
  have name : issuerName itemLibrary otherSerial otherSerialCrt.issuer 360 374 := by
    have read : ((itemLibrary.x509GetName otherSerial 362 374).any fun r => r.q = 374 && r.value = otherSerialCrt.issuer) = true := by decide +kernel
    obtain ⟨r, read, is⟩ := (Option.any_eq_true ..).mp read
    rw [Bool.and_eq_true, decide_eq_true_iff, decide_eq_true_iff] at is
    exact foundAs_element (q := 362) (by decide +kernel) ⟨r, read, is⟩
  have issuerAndSerial : issuerAndSerialNumber itemLibrary otherSerial otherSerialCrt.issuer ⟨0x02, [0x03]⟩ 358 377 :=
    foundAs_element (q := 360) (by decide +kernel)
      ⟨374, name, 377, foundAs_element (q := 376) (by decide +kernel) (show slice otherSerial 376 1 = [0x03] by decide +kernel), rfl⟩
  have contentType : attributeOf otherSerial oidPkcs9ContentType (oid otherSerial oidPkcs7Data) 394 420 :=
    foundAs_element (q := 396) (by decide +kernel) ⟨407, oidAt 398 407 (by decide +kernel), 420,
      foundAs_element (q := 409) (by decide +kernel) (oidAt 411 420 (by decide +kernel)), rfl⟩
  have signingTime : @Attribute.item itemLibrary otherSerial (.signingTime otherSerialData.signer.attributes.signingTime) 420 450 := by
    have read : ((itemLibrary.x509GetTime otherSerial 435 450).any fun r =>
        r.q = 450 && r.value = otherSerialData.signer.attributes.signingTime) = true := by decide +kernel
    obtain ⟨r, read, is⟩ := (Option.any_eq_true ..).mp read
    rw [Bool.and_eq_true, decide_eq_true_iff, decide_eq_true_iff] at is
    have inSet : element otherSerial asn1Set ((Attribute.signingTime otherSerialData.signer.attributes.signingTime).value itemLibrary) 433 450 :=
      foundAs_element (q := 435) (by decide +kernel) ⟨r, read, is⟩
    exact foundAs_element (q := 422) (by decide +kernel) ⟨433, oidAt 424 433 (by decide +kernel), 450, inSet, rfl⟩
  have messageDigest : @Attribute.item itemLibrary otherSerial (.messageDigest otherSerialData.signer.attributes.digest) 450 499 :=
    foundAs_element (q := 452) (by decide +kernel) ⟨463, oidAt 454 463 (by decide +kernel), 499,
      foundAs_element (q := 465) (by decide +kernel) (foundAs_element (q := 467) (by decide +kernel) ⟨rfl, rfl⟩), rfl⟩
  have attributes : authenticatedAttributes itemLibrary otherSerial otherSerialData.signer 392 499 :=
    ⟨foundAs_element (q := 394) (by decide +kernel) ⟨_, .refl _, 420, contentType, 450, signingTime, 499, messageDigest, rfl⟩, rfl, rfl⟩
  have encryption : digestEncryptionAlgorithm itemLibrary otherSerial 499 511 :=
    ⟨(⟨asn1Oid, oidEcdsaSha256⟩, ⟨0, []⟩), .sha256, foundAs_element (q := 501) (by decide +kernel)
      ⟨511, oidAt 503 511 (by decide +kernel), .inl ⟨rfl, rfl⟩⟩, .inr rfl, rfl⟩
  have signer : signerInfo itemLibrary otherSerial otherSerialData.signer 352 585 :=
    foundAs_element (q := 355) (by decide +kernel) ⟨358, foundAs_element (q := 357) (by decide +kernel) (by decide +kernel), 377, issuerAndSerial,
      392, digestAlgorithmAt 379 381 390 392 (by decide +kernel) (oidAt 381 390 (by decide +kernel)) (by decide +kernel), 499, attributes,
      511, encryption, 585, foundAs_element (q := 513) (by decide +kernel) ⟨rfl, rfl⟩, 585, .inl rfl, rfl⟩
  have data : signedData itemLibrary otherSerial otherSerialData 19 585 :=
    foundAs_element (q := 23) (by decide +kernel) ⟨26, foundAs_element (q := 25) (by decide +kernel) (by decide +kernel), 43, algorithms, 56, detached,
      349, certs, 585, foundAs_element (q := 352) (by decide +kernel) ⟨585, signer, rfl⟩, rfl⟩
  have whole : otherSerial.length = 585 := by decide +kernel
  rw [IsBundle, whole]
  exact foundAs_element (q := 4) (by decide +kernel)
    ⟨15, oidAt 6 15 (by decide +kernel), 585, foundAs_element (q := 19) (by decide +kernel) ⟨585, data, rfl⟩, rfl⟩

theorem otherSerial_exact : ∃ w : Walk itemLibrary otherSerial otherSerialData, w.Exact :=
  (accepted_isBundle_iff itemLibrary_reads otherSerial_parsed).1 otherSerial_isBundle

/-- The elements up to the SignerInfo, but for the first one, end behind a byte that is in none of the others. -/
def trailing : List UInt8 := (otherSerial.set 18 0x37).set 351 0xea ++ [0x00]

theorem trailing_not_bundle (sd : SignedData trailing.length) : ¬ IsBundle itemLibrary trailing sd := by
  rintro ⟨q, len, at_, ends, -⟩
  have found : foundAs trailing asn1Sequence 0 4 585 = true := by decide +kernel
  obtain ⟨q', len', at_', ends', -⟩ : element trailing asn1Sequence (fun _ _ => True) 0 585 := foundAs_element found trivial
  obtain ⟨rfl, rfl⟩ := at_.unique at_'
  have whole : trailing.length = 586 := by decide +kernel
  omega

theorem trailing_accepted : ReadsItems itemLibrary ∧
    ¬ ∀ sd, pkcs7GetSignedData itemLibrary trailing (fun _ => true) true [otherSerialCrt] = .ok sd → IsBundle itemLibrary trailing sd := by
  refine ⟨itemLibrary_reads, fun bundles => ?_⟩
  have parsed : (pkcs7GetSignedData itemLibrary trailing (fun _ => true) true [otherSerialCrt]).toOption.isSome = true := by decide +kernel
  obtain ⟨sd, parsed⟩ := Option.isSome_iff_exists.1 parsed
  cases answer : pkcs7GetSignedData itemLibrary trailing (fun _ => true) true [otherSerialCrt] with
  | error e =>
    rw [answer] at parsed
    cases parsed
  | ok sd' => exact trailing_not_bundle sd' (bundles sd' answer)

end ArtikSdk.Security
