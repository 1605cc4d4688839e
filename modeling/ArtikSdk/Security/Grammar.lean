import ArtikSdk.Security.ChainCerts

/-!
# The grammar of a bundle

`SignedData` as in the comments of `mbedtls_pkcs7_parser.c`, for what is supported: detached
content, no revocation lists, one digest algorithm, one SignerInfo, and the three authenticated
attributes. An item says where in the buffer it begins and ends. Each element is filled by its
contents, and nothing is behind the last one.
-/

namespace ArtikSdk.Security

def asn1Integer : UInt8 := 0x02

/-- `[1]`, which the parser does not know. -/
def asn1Context1 : UInt8 := 0xa1

/-- What is from one offset to another. -/
abbrev Item := Nat → Nat → Prop

/-- Items, one behind the other. -/
def sequence : List Item → Item
  | [] => fun p e => p = e
  | a :: as => fun p e => ∃ m, a p m ∧ sequence as m e

def optional (a : Item) : Item := fun p e => p = e ∨ a p e

/-- As many as there are of an item. -/
inductive Repeated (a : Item) : Nat → Nat → Prop where
  | nil {p : Nat} : Repeated a p p
  | cons {p m e : Nat} (first : a p m) (rest : Repeated a m e) : Repeated a p e

section

variable (M : Mbedtls) (buf : List UInt8)

/-- An element whose contents are the item. -/
def element (tag : UInt8) (contents : Item) : Item := fun p e =>
  ∃ q len, ElementAt buf tag p e q len ∧ q + len = e ∧ contents q e

def bytesAre (bytes : List UInt8) : Item := fun q e => slice buf q (e - q) = bytes

def oid (bytes : List UInt8) : Item := element buf asn1Oid (bytesAre buf bytes)

/-- Only version 1 is supported. -/
def version : Item := element buf asn1Integer fun q e => value (slice buf q (e - q)) = 1

/-- An AlgorithmIdentifier: the algorithm and its parameters, whose tag is 0 where they are absent. -/
def algorithmIdentifier (alg : Asn1Buf × Asn1Buf) : Item :=
  element buf asn1Sequence fun q e => ∃ m, oid buf alg.1.bytes q m ∧
    (m = e ∧ alg.2.tag = 0 ∨ element buf alg.2.tag (bytesAre buf alg.2.bytes) m e)

def digestAlgorithm (md : MdType) : Item := fun p e =>
  ∃ alg, algorithmIdentifier buf alg p e ∧ alg.2.tag = asn1Null ∧ M.oidGetMdAlg alg.1 = some md

def digestEncryptionAlgorithm : Item := fun p e =>
  ∃ alg md, algorithmIdentifier buf alg p e ∧ (alg.2.tag = asn1Null ∨ alg.2.tag = 0) ∧ M.oidGetSigAlg alg.1 = some (md, .ecdsa)

/-- Without content. -/
def detachedInfo : Item := element buf asn1Sequence (sequence [oid buf oidPkcs7Data])

def certificates (chain : List Crt) : Item := element buf asn1Context (bytesAre buf (chain.flatMap (·.raw)))

def issuerName (name : Name) : Item :=
  element buf asn1Sequence fun q e => ∃ r, M.x509GetName buf q e = some r ∧ r.q = e ∧ r.value = name

def serialNumber (serial : Asn1Buf) : Item := element buf serial.tag (bytesAre buf serial.bytes)

def issuerAndSerialNumber (name : Name) (serial : Asn1Buf) : Item :=
  element buf asn1Sequence (sequence [issuerName M buf name, serialNumber buf serial])

/-- An attribute with a single value. -/
def attributeOf (type : List UInt8) (value : Item) : Item :=
  element buf asn1Sequence (sequence [oid buf type, element buf asn1Set value])

/-- Attributes of any type. -/
def unauthenticatedAttributes : Item :=
  element buf asn1Context1 (Repeated (element buf asn1Sequence
    (sequence [element buf asn1Oid fun _ _ => True, element buf asn1Set fun _ _ => True])))

/-- The region is that from one offset to the other. -/
def Region.Is {n : Nat} (r : Region n) : Item := fun p e => r.p = p ∧ r.p + r.len = e

end

/-- The attributes that are supported. -/
inductive Attribute (n : Nat) where
  | contentType
  | signingTime (time : X509Time)
  | messageDigest (digest : Region n)

section

variable (M : Mbedtls) {buf : List UInt8}

def Attribute.type : Attribute buf.length → List UInt8
  | .contentType => oidPkcs9ContentType
  | .signingTime _ => oidPkcs9SigningTime
  | .messageDigest _ => oidPkcs9MessageDigest

def Attribute.value : Attribute buf.length → Item
  | .contentType => oid buf oidPkcs7Data
  | .signingTime time => fun q e => ∃ r, M.x509GetTime buf q e = some r ∧ r.q = e ∧ r.value = time
  | .messageDigest digest => element buf asn1OctetString digest.Is

def Attribute.item (a : Attribute buf.length) : Item := attributeOf buf a.type (a.value M)

variable (buf)

/-- Each of the three attributes once, in some order, and no other one. -/
def attributes (a : Attributes buf.length) : Item := fun p e =>
  ∃ order : List (Attribute buf.length), order.Perm [.contentType, .signingTime a.signingTime, .messageDigest a.digest] ∧
    sequence (order.map (·.item M)) p e

def authenticatedAttributes (s : SignerInfo buf.length) : Item := fun p e =>
  element buf asn1Context (attributes M buf s.attributes) p e ∧ s.raw.Is p e

def signerInfo (s : SignerInfo buf.length) : Item :=
  element buf asn1Sequence (sequence [version buf, issuerAndSerialNumber M buf s.issuer s.serial, digestAlgorithm M buf s.digestAlgId,
    authenticatedAttributes M buf s, digestEncryptionAlgorithm M buf, element buf asn1OctetString s.encryptedDigest.Is,
    optional (unauthenticatedAttributes buf)])

def signedData (sd : SignedData buf.length) : Item :=
  element buf asn1Sequence (sequence [version buf, element buf asn1Set (sequence [digestAlgorithm M buf sd.signer.digestAlgId]),
    detachedInfo buf, certificates buf sd.chain.reverse, element buf asn1Set (sequence [signerInfo M buf sd.signer])])

def contentInfo (sd : SignedData buf.length) : Item :=
  element buf asn1Sequence (sequence [oid buf oidPkcs7SignedData, element buf asn1Context (sequence [signedData M buf sd])])

/-- The buffer is the bundle that was parsed, and nothing else. -/
def IsBundle (sd : SignedData buf.length) : Prop := contentInfo M buf sd 0 buf.length

end

/-- What the library reads is what there is. -/
structure ReadsItems (M : Mbedtls) : Prop where
  tags : FindsElements M
  integers : ∀ {buf p last r}, M.asn1GetInt buf p last = some r → element buf asn1Integer (fun q e => r.value = value (slice buf q (e - q))) p r.q
  algorithms : ∀ {buf p last r}, M.asn1GetAlg buf p last = some r → algorithmIdentifier buf r.value p r.q
  serials : ∀ {buf p last r}, M.x509GetSerial buf p last = some r → serialNumber buf r.value p r.q

/-! ## Where an item ends -/

/-- Where the item begins, there is one end. -/
def Determined (a : Item) : Prop := ∀ p e e', a p e → a p e' → e = e'

variable {M : Mbedtls} {buf : List UInt8} {tag : UInt8} {contents : Item} {p e last q len : Nat}

theorem ElementAt.mono (at_ : ElementAt buf tag p last q len) (inside : q + len ≤ e) : ElementAt buf tag p e q len := by
  obtain ⟨lengthBytes, rest, bytes, form, short, after, -⟩ := at_
  exact ⟨lengthBytes, rest, bytes, form, short, after, inside⟩

theorem element_iff (at_ : ElementAt buf tag p last q len) : element buf tag contents p e ↔ q + len = e ∧ contents q e := by
  constructor
  · rintro ⟨q', len', other, ends, holds⟩
    obtain ⟨rfl, rfl⟩ := at_.unique other
    exact ⟨ends, holds⟩
  · rintro ⟨rfl, holds⟩
    exact ⟨q, len, at_.mono (Nat.le_refl _), rfl, holds⟩

theorem ElementAt.after (at_ : ElementAt buf tag p last q len) : p < q := by
  obtain ⟨lengthBytes, rest, bytes, form, short, rfl, -⟩ := at_
  omega

theorem element_lt (holds : element buf tag contents p e) : p < e := by
  obtain ⟨q, len, at_, rfl, -⟩ := holds
  have after := at_.after
  omega

theorem element_determined (tag : UInt8) (contents : Item) : Determined (element buf tag contents) := by
  rintro p e e' ⟨q, len, at_, rfl, -⟩ other
  exact ((element_iff at_).1 other).1

theorem digestAlgorithm_determined (md : MdType) : Determined (digestAlgorithm M buf md) := by
  rintro p e e' ⟨alg, read, -⟩ ⟨alg', read', -⟩
  obtain ⟨q, len, at_, rfl, -⟩ := read
  exact ((element_iff at_).1 read').1

theorem digestEncryptionAlgorithm_determined : Determined (digestEncryptionAlgorithm M buf) := by
  rintro p e e' ⟨alg, md, read, -⟩ ⟨alg', md', read', -⟩
  obtain ⟨q, len, at_, rfl, -⟩ := read
  exact ((element_iff at_).1 read').1

theorem Determined.iff {a : Item} {m : Nat} (determined : Determined a) (holds : a p m) : a p e ↔ m = e := by
  constructor
  · exact determined p m e holds
  · rintro rfl
    exact holds

end ArtikSdk.Security
