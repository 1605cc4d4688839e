import ArtikSdk.Lib.Run
import ArtikSdk.Security.Grammar

/-!
# The walk over a bundle

Where the parser finds each element of a buffer, and where it goes on. Most elements have their
tags looked for up to the end of the buffer, and whether one ends where its contents do is not
compared. A buffer is of the grammar where these ends coincide.
-/

namespace ArtikSdk.Security
open Lib

/-- An element that begins at `p`. -/
structure Element (buf : List UInt8) (tag : UInt8) (p : Nat) where
  q : Nat
  len : Nat
  at_ : ElementAt buf tag p buf.length q len

def Element.stop {buf : List UInt8} {tag : UInt8} {p : Nat} (x : Element buf tag p) : Nat := x.q + x.len

/-! ## Attributes -/

section

variable (M : Mbedtls) {buf : List UInt8}

/-- The value that is read in a set: where the cursor is left. -/
def Attribute.ReadIn {p : Nat} (set : Element buf asn1Set p) (stop : Nat) : Attribute buf.length → Prop
  | .contentType => oid buf oidPkcs7Data set.q stop
  | .signingTime time => ∃ r, M.x509GetTime buf set.q set.stop = some r ∧ r.q = stop ∧ r.value = time
  | .messageDigest digest => element buf asn1OctetString digest.Is set.q stop

/-- What it does to the variables of the loop. -/
def Attribute.apply (s : AttributeLoop buf.length) : Attribute buf.length → AttributeLoop buf.length
  | .contentType => { s with hasContentType := true }
  | .signingTime time => { s with hasSigningTime := true, attributes := { s.attributes with signingTime := time } }
  | .messageDigest digest => { s with hasMessageDigest := true, attributes := { s.attributes with digest := digest } }

variable (buf)

structure AttributeRead (p : Nat) where
  kind : Attribute buf.length
  seq : Element buf asn1Sequence p
  oidEnd : Nat
  type : oid buf kind.type seq.q oidEnd
  set : Element buf asn1Set oidEnd
  stop : Nat
  value : kind.ReadIn M set stop
  after : p < stop

/-- The attribute is the OID and the set, and the set is its value. -/
structure AttributeRead.Exact {M : Mbedtls} {buf : List UInt8} {p : Nat} (a : AttributeRead M buf p) : Prop where
  seq : a.seq.stop = a.stop
  set : a.set.stop = a.stop

/-- The attributes up to `last`. -/
inductive AttributesRead (last : Nat) : Nat → List (Σ p, AttributeRead M buf p) → Prop where
  | nil : AttributesRead last last []
  | cons {p : Nat} {as : List (Σ p, AttributeRead M buf p)} (a : AttributeRead M buf p) (rest : AttributesRead last a.stop as) :
      AttributesRead last p (⟨p, a⟩ :: as)

/-! ## The walk -/

/-- The certificates that the library reads where the loop calls it. -/
def certsIn (p buflen : Nat) : List Crt :=
  (chainCalls M buf p buflen 0).filterMap fun i => M.x509CrtParseDer (slice buf (p + i) (buflen - i))

structure SignerWalk (s : SignerInfo buf.length) (p : Nat) where
  signerInfo : Element buf asn1Sequence p
  versionEnd : Nat
  version : version buf signerInfo.q versionEnd
  issuerAndSerial : Element buf asn1Sequence versionEnd
  rdnSequence : Element buf asn1Sequence issuerAndSerial.q
  issuer : Read rdnSequence.q rdnSequence.stop Name
  issuerRead : M.x509GetName buf rdnSequence.q rdnSequence.stop = some issuer
  issuerIs : issuer.value = s.issuer
  serialEnd : Nat
  serial : serialNumber buf s.serial issuer.q serialEnd
  digestAlgorithmEnd : Nat
  digestAlgorithm : digestAlgorithm M buf s.digestAlgId serialEnd digestAlgorithmEnd
  attributes : Element buf asn1Context digestAlgorithmEnd
  raw : s.raw.Is digestAlgorithmEnd attributes.stop
  reads : List (Σ p, AttributeRead M buf p)
  attributesRead : AttributesRead M buf attributes.stop attributes.q reads
  loop : AttributeLoop buf.length
  loopIs : (reads.map (·.2.kind)).foldl Attribute.apply (.zero _) = loop
  found : loop.hasContentType = true ∧ loop.hasSigningTime = true ∧ loop.hasMessageDigest = true
  attributesAre : loop.attributes = s.attributes
  encryptionEnd : Nat
  encryption : digestEncryptionAlgorithm M buf attributes.stop encryptionEnd
  encryptedDigestEnd : Nat
  encryptedDigest : element buf asn1OctetString s.encryptedDigest.Is encryptionEnd encryptedDigestEnd

structure Walk (sd : SignedData buf.length) where
  contentInfo : Element buf asn1Sequence 0
  typeEnd : Nat
  type : oid buf oidPkcs7SignedData contentInfo.q typeEnd
  content : Element buf asn1Context typeEnd
  contentEnds : content.stop = buf.length
  signedData : Element buf asn1Sequence content.q
  versionEnd : Nat
  version : version buf signedData.q versionEnd
  digestAlgorithms : Element buf asn1Set versionEnd
  digestAlgorithm : digestAlgorithm M buf sd.signer.digestAlgId digestAlgorithms.q digestAlgorithms.stop
  dataInfo : Element buf asn1Sequence digestAlgorithms.stop
  dataTypeEnd : Nat
  dataType : oid buf oidPkcs7Data dataInfo.q dataTypeEnd
  certificates : Element buf asn1Context dataTypeEnd
  chain : sd.chain.reverse.flatMap (·.raw) = (certsIn M buf certificates.q certificates.len).flatMap (·.raw)
  /-- Behind the tag of `SignerInfos`, if there is one. -/
  signer : Nat
  signerInfos : ∀ set : Element buf asn1Set certificates.stop, set.q = signer ∧ set.stop = buf.length
  signerWalk : SignerWalk M buf sd.signer signer

/-- In the SignerInfo no element has anything behind its contents, and behind the last item there may be the attributes that
are not authenticated. -/
structure SignerWalk.Exact {M : Mbedtls} {buf : List UInt8} {s : SignerInfo buf.length} {p : Nat} (w : SignerWalk M buf s p)
    (e : Nat) : Prop where
  signerInfo : w.signerInfo.stop = e
  rdnSequence : w.issuer.q = w.rdnSequence.stop
  issuerAndSerial : w.issuerAndSerial.stop = w.serialEnd
  three : w.reads.length = 3
  attributes : ∀ a ∈ w.reads, a.2.Exact
  encryptedDigest : optional (unauthenticatedAttributes buf) w.encryptedDigestEnd e

structure Walk.Exact {M : Mbedtls} {buf : List UInt8} {sd : SignedData buf.length} (w : Walk M buf sd) : Prop where
  contentInfo : w.contentInfo.stop = buf.length
  signedData : w.signedData.stop = buf.length
  detached : w.dataInfo.stop = w.dataTypeEnd
  certificates : slice buf w.certificates.q w.certificates.len = (certsIn M buf w.certificates.q w.certificates.len).flatMap (·.raw)
  signerInfos : Nonempty (Element buf asn1Set w.certificates.stop)
  signer : w.signerWalk.Exact buf.length

end

variable {M : Mbedtls} {buf : List UInt8} {tag : UInt8} {p e last : Nat} {contents : Item}

theorem Element.item_iff (x : Element buf tag p) : element buf tag contents p e ↔ x.stop = e ∧ contents x.q e := element_iff x.at_

theorem issuerName_iff {name : Name} (x : Element buf asn1Sequence p) {r : Read x.q x.stop Name} (read : M.x509GetName buf x.q x.stop = some r) :
    issuerName M buf name p e ↔ x.stop = e ∧ r.q = e ∧ r.value = name := by
  rw [issuerName, x.item_iff]
  refine and_congr_right ?_
  rintro rfl
  constructor
  · rintro ⟨r', read', same⟩
    rw [read] at read'
    cases read'
    exact same
  · exact fun same => ⟨r, read, same⟩

theorem sequence_cons {a : Item} {as : List Item} : sequence (a :: as) p e ↔ ∃ m, a p m ∧ sequence as m e := Iff.rfl

theorem sequence_nil : sequence [] p e ↔ p = e := Iff.rfl

/-! ## Accepted attributes -/

theorem oid_unique {bytes bytes' : List UInt8} {e' : Nat} (first : oid buf bytes p e) (second : oid buf bytes' p e') :
    e = e' ∧ bytes = bytes' := by
  obtain ⟨q, len, at_, rfl, is⟩ := first
  obtain ⟨rfl, is'⟩ := (element_iff at_).1 second
  exact ⟨rfl, is.symm.trans is'⟩

theorem attributeOf_iff (a : AttributeRead M buf p) {type : List UInt8} {value : Item} : attributeOf buf type value p e ↔
    a.seq.stop = e ∧ type = a.kind.type ∧ a.set.stop = e ∧ value a.set.q e := by
  rw [attributeOf, a.seq.item_iff]
  refine and_congr_right fun _ => ?_
  simp only [sequence_cons, sequence_nil]
  constructor
  · rintro ⟨m, isOid, m', isSet, rfl⟩
    obtain ⟨rfl, rfl⟩ := oid_unique a.type isOid
    exact ⟨rfl, a.set.item_iff.1 isSet⟩
  · rintro ⟨rfl, inSet⟩
    exact ⟨a.oidEnd, a.type, e, a.set.item_iff.2 inSet, rfl⟩

/-- An attribute of the grammar is read as it is. -/
theorem AttributeRead.of_item (a : AttributeRead M buf p) (k : Attribute buf.length) (holds : k.item M p e) :
    a.Exact ∧ a.stop = e := by
  obtain ⟨kind, seq, oidEnd, type, set, stop, read, after⟩ := a
  have same {type' : List UInt8} {value : Item} (holds : attributeOf buf type' value p e) : type' = kind.type :=
    ((attributeOf_iff ⟨kind, seq, oidEnd, type, set, stop, read, after⟩).1 holds).2.1
  have exact {type' : List UInt8} {value : Item} (holds : attributeOf buf type' value p e)
      (value_stop : set.stop = e → value set.q e → stop = e) :
      AttributeRead.Exact ⟨kind, seq, oidEnd, type, set, stop, read, after⟩ ∧ stop = e := by
    obtain ⟨seqEnd, -, setEnd, inSet⟩ := (attributeOf_iff ⟨kind, seq, oidEnd, type, set, stop, read, after⟩).1 holds
    have ends := value_stop setEnd inSet
    exact ⟨⟨seqEnd.trans ends.symm, setEnd.trans ends.symm⟩, ends⟩
  cases k with
  | contentType =>
    cases kind with
    | contentType => exact exact holds fun _ inSet => (oid_unique read inSet).1
    | signingTime time => exact absurd (same holds) (show oidPkcs9ContentType ≠ oidPkcs9SigningTime by decide)
    | messageDigest digest => exact absurd (same holds) (show oidPkcs9ContentType ≠ oidPkcs9MessageDigest by decide)
  | signingTime time' =>
    cases kind with
    | contentType => exact absurd (same holds) (show oidPkcs9SigningTime ≠ oidPkcs9ContentType by decide)
    | signingTime time =>
      refine exact holds ?_
      rintro rfl ⟨r, readTime, ends, -⟩
      obtain ⟨r', readTime', stops, -⟩ := read
      rw [readTime] at readTime'
      cases readTime'
      exact stops.symm.trans ends
    | messageDigest digest => exact absurd (same holds) (show oidPkcs9SigningTime ≠ oidPkcs9MessageDigest by decide)
  | messageDigest digest' =>
    cases kind with
    | contentType => exact absurd (same holds) (show oidPkcs9MessageDigest ≠ oidPkcs9ContentType by decide)
    | signingTime time => exact absurd (same holds) (show oidPkcs9MessageDigest ≠ oidPkcs9SigningTime by decide)
    | messageDigest digest =>
      refine exact holds fun _ inSet => ?_
      obtain ⟨q, len, at_, rfl, -⟩ := read
      exact ((element_iff at_).1 inSet).1

theorem AttributeRead.item (a : AttributeRead M buf p) (exact : a.Exact) : a.kind.item M p a.stop := by
  obtain ⟨kind, seq, oidEnd, type, set, stop, read, after⟩ := a
  obtain ⟨seqEnd, setEnd⟩ := exact
  cases kind with
  | contentType => exact (attributeOf_iff ⟨.contentType, seq, oidEnd, type, set, stop, read, after⟩).2 ⟨seqEnd, rfl, setEnd, read⟩
  | signingTime time =>
    refine (attributeOf_iff ⟨.signingTime time, seq, oidEnd, type, set, stop, read, after⟩).2 ⟨seqEnd, rfl, setEnd, ?_⟩
    dsimp only at setEnd
    subst setEnd
    exact read
  | messageDigest digest =>
    exact (attributeOf_iff ⟨.messageDigest digest, seq, oidEnd, type, set, stop, read, after⟩).2 ⟨seqEnd, rfl, setEnd, read⟩

theorem AttributesRead.le {as : List (Σ p, AttributeRead M buf p)} (reads : AttributesRead M buf last p as) : p ≤ last := by
  induction reads with
  | nil => exact Nat.le_refl _
  | cons a _ ih => exact Nat.le_trans (Nat.le_of_lt a.after) ih

theorem sequence_le {order : List (Attribute buf.length)} (holds : sequence (order.map (·.item M)) p e) : p ≤ e := by
  induction order generalizing p with
  | nil => exact Nat.le_of_eq holds
  | cons k order ih =>
    obtain ⟨m, item, following⟩ := holds
    exact Nat.le_trans (Nat.le_of_lt (element_lt item)) (ih following)

/-- Where there are attributes of the grammar, these are read and no others. -/
theorem AttributesRead.of_sequence {as : List (Σ p, AttributeRead M buf p)} (reads : AttributesRead M buf last p as)
    {order : List (Attribute buf.length)} (holds : sequence (order.map (·.item M)) p last) :
    as.length = order.length ∧ ∀ a ∈ as, a.2.Exact := by
  induction order generalizing p as with
  | nil =>
    cases reads with
    | nil => exact ⟨rfl, fun _ member => (List.not_mem_nil member).elim⟩
    | cons a rest =>
      have ended : p = last := holds
      have after := a.after
      have le := rest.le
      omega
  | cons k order ih =>
    obtain ⟨m, item, following⟩ := holds
    cases reads with
    | nil =>
      have less := element_lt item
      have le := sequence_le following
      omega
    | cons a rest =>
      obtain ⟨exact, rfl⟩ := a.of_item k item
      obtain ⟨length, all⟩ := ih rest following
      refine ⟨by rw [List.length_cons, List.length_cons, length], fun a' member => ?_⟩
      obtain rfl | member := List.mem_cons.1 member
      · exact exact
      · exact all a' member

theorem AttributesRead.sequence {as : List (Σ p, AttributeRead M buf p)} (reads : AttributesRead M buf last p as)
    (exact : ∀ a ∈ as, a.2.Exact) : Security.sequence ((as.map (·.2.kind)).map (·.item M)) p last := by
  induction reads with
  | nil => rfl
  | cons a _ ih =>
    exact ⟨a.stop, a.item (exact ⟨_, a⟩ List.mem_cons_self), ih fun a' member => exact a' (List.mem_cons_of_mem _ member)⟩

/-- Three attributes of which none is missing are each of the three once, and what the loop returns is of these. -/
theorem three_perm {kinds : List (Attribute buf.length)} {loop : AttributeLoop buf.length} (three : kinds.length = 3)
    (is : kinds.foldl Attribute.apply (.zero _) = loop)
    (found : loop.hasContentType = true ∧ loop.hasSigningTime = true ∧ loop.hasMessageDigest = true) :
    kinds.Perm [.contentType, .signingTime loop.attributes.signingTime, .messageDigest loop.attributes.digest] := by
  subst is
  match kinds, three with
  | [a, b, c], _ =>
    cases a <;> cases b <;> cases c <;> simp [Attribute.apply, AttributeLoop.zero] at found ⊢
    -- what is left are the orders other than that of the list
    case contentType.messageDigest.signingTime => exact .swap ..
    case signingTime.contentType.messageDigest => exact .swap ..
    case signingTime.messageDigest.contentType => exact List.perm_append_singleton _ [_, _]
    case messageDigest.contentType.signingTime => exact (List.perm_append_singleton _ [_, _]).symm
    case messageDigest.signingTime.contentType => exact List.reverse_perm [Attribute.contentType, .signingTime _, .messageDigest _]

/-! ## Accepted bundles -/

theorem signerInfo_iff {s : SignerInfo buf.length} (w : SignerWalk M buf s p) : signerInfo M buf s p e ↔ w.Exact e := by
  have version_at {m : Nat} : version buf w.signerInfo.q m ↔ w.versionEnd = m := (element_determined _ _).iff w.version
  have serial_at {m : Nat} : serialNumber buf s.serial w.issuer.q m ↔ w.serialEnd = m := (element_determined _ _).iff w.serial
  have algorithm_at {m : Nat} : digestAlgorithm M buf s.digestAlgId w.serialEnd m ↔ w.digestAlgorithmEnd = m :=
    (digestAlgorithm_determined _).iff w.digestAlgorithm
  have encryption_at {m : Nat} : digestEncryptionAlgorithm M buf w.attributes.stop m ↔ w.encryptionEnd = m :=
    digestEncryptionAlgorithm_determined.iff w.encryption
  have digest_at {m : Nat} : element buf asn1OctetString s.encryptedDigest.Is w.encryptionEnd m ↔ w.encryptedDigestEnd = m :=
    (element_determined _ _).iff w.encryptedDigest
  rw [signerInfo, w.signerInfo.item_iff]
  constructor
  · rintro ⟨signerEnd, m, isVersion, m, issuerAndSerial, m, isAlgorithm, m, isAttributes, m, isEncryption, m, isDigest, m, behind, rfl⟩
    obtain rfl := version_at.1 isVersion
    obtain ⟨issuerAndSerialEnd, m, name, m, isSerial, rfl⟩ := w.issuerAndSerial.item_iff.1 issuerAndSerial
    obtain ⟨rdnEnd, rfl, -⟩ := (issuerName_iff w.rdnSequence w.issuerRead).1 name
    obtain rfl := serial_at.1 isSerial
    obtain rfl := algorithm_at.1 isAlgorithm
    obtain ⟨rfl, order, perm, isSequence⟩ := w.attributes.item_iff.1 isAttributes.1
    obtain ⟨length, all⟩ := w.attributesRead.of_sequence isSequence
    obtain rfl := encryption_at.1 isEncryption
    obtain rfl := digest_at.1 isDigest
    exact ⟨signerEnd, rdnEnd.symm, issuerAndSerialEnd, length.trans perm.length_eq, all, behind⟩
  · rintro ⟨signerEnd, rdnEnd, issuerAndSerialEnd, three, all, behind⟩
    have name : issuerName M buf s.issuer w.issuerAndSerial.q w.issuer.q :=
      (issuerName_iff w.rdnSequence w.issuerRead).2 ⟨rdnEnd.symm, rfl, w.issuerIs⟩
    have issuerAndSerial : issuerAndSerialNumber M buf s.issuer s.serial w.versionEnd w.serialEnd :=
      w.issuerAndSerial.item_iff.2 ⟨issuerAndSerialEnd, w.issuer.q, name, w.serialEnd, w.serial, rfl⟩
    have perm := three_perm (by rw [List.length_map, three]) w.loopIs w.found
    rw [w.attributesAre] at perm
    have isAttributes : element buf asn1Context (attributes M buf s.attributes) w.digestAlgorithmEnd w.attributes.stop :=
      w.attributes.item_iff.2 ⟨rfl, _, perm, w.attributesRead.sequence all⟩
    exact ⟨signerEnd, w.versionEnd, w.version, w.serialEnd, issuerAndSerial, w.digestAlgorithmEnd, w.digestAlgorithm, w.attributes.stop,
      ⟨isAttributes, w.raw⟩, w.encryptionEnd, w.encryption, w.encryptedDigestEnd, w.encryptedDigest, e, behind, rfl⟩

theorem isBundle_iff {sd : SignedData buf.length} (w : Walk M buf sd) : IsBundle M buf sd ↔ w.Exact := by
  have type_at {m : Nat} : oid buf oidPkcs7SignedData w.contentInfo.q m ↔ w.typeEnd = m := (element_determined _ _).iff w.type
  have version_at {m : Nat} : version buf w.signedData.q m ↔ w.versionEnd = m := (element_determined _ _).iff w.version
  have algorithms_at {m : Nat} : element buf asn1Set (sequence [digestAlgorithm M buf sd.signer.digestAlgId]) w.versionEnd m ↔
      w.digestAlgorithms.stop = m := by
    rw [w.digestAlgorithms.item_iff]
    refine and_iff_left_of_imp ?_
    rintro rfl
    exact ⟨_, w.digestAlgorithm, rfl⟩
  have detached_at {m : Nat} : detachedInfo buf w.digestAlgorithms.stop m ↔ w.dataInfo.stop = m ∧ w.dataTypeEnd = m := by
    rw [detachedInfo, w.dataInfo.item_iff, sequence_cons]
    refine and_congr_right fun _ => ?_
    constructor
    · rintro ⟨m, isType, rfl⟩
      exact (oid_unique w.dataType isType).1
    · rintro rfl
      exact ⟨_, w.dataType, rfl⟩
  rw [IsBundle, contentInfo, w.contentInfo.item_iff]
  constructor
  · rintro ⟨contentInfoEnd, m, isType, m, isContent, rfl⟩
    obtain rfl := type_at.1 isType
    obtain ⟨-, m, isData, rfl⟩ := w.content.item_iff.1 isContent
    obtain ⟨dataEnd, m, isVersion, m, isAlgorithms, m, isDetached, m, isCertificates, m, isSigners, rfl⟩ := w.signedData.item_iff.1 isData
    obtain rfl := version_at.1 isVersion
    obtain rfl := algorithms_at.1 isAlgorithms
    obtain ⟨detachedEnd, rfl⟩ := detached_at.1 isDetached
    obtain ⟨rfl, certs⟩ := w.certificates.item_iff.1 isCertificates
    obtain ⟨q, len, at_, signersEnd, m, isSigner, rfl⟩ := isSigners
    obtain ⟨rfl, -⟩ := w.signerInfos ⟨q, len, at_⟩
    refine ⟨contentInfoEnd, dataEnd, detachedEnd, ?_, ⟨⟨_, len, at_⟩⟩, (signerInfo_iff w.signerWalk).1 isSigner⟩
    rwa [bytesAre, Element.stop, Nat.add_sub_cancel_left, w.chain] at certs
  · rintro ⟨contentInfoEnd, dataEnd, detachedEnd, certs, ⟨set⟩, signer⟩
    obtain ⟨begins, ends⟩ := w.signerInfos set
    have isSigner : element buf asn1Set (sequence [signerInfo M buf sd.signer]) w.certificates.stop buf.length :=
      set.item_iff.2 ⟨ends, _, begins ▸ (signerInfo_iff w.signerWalk).2 signer, rfl⟩
    have isCertificates : certificates buf sd.chain.reverse w.dataTypeEnd w.certificates.stop :=
      w.certificates.item_iff.2 ⟨rfl, by rwa [bytesAre, Element.stop, Nat.add_sub_cancel_left, w.chain]⟩
    have isData : signedData M buf sd w.content.q buf.length :=
      w.signedData.item_iff.2 ⟨dataEnd, w.versionEnd, w.version, _, algorithms_at.2 rfl, _, detached_at.2 ⟨detachedEnd, rfl⟩, _, isCertificates,
        _, isSigner, rfl⟩
    exact ⟨contentInfoEnd, w.typeEnd, w.type, buf.length, w.content.item_iff.2 ⟨w.contentEnds, _, isData, rfl⟩, rfl⟩

end ArtikSdk.Security
