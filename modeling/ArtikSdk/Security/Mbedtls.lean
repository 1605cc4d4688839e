import ArtikSdk.Lib.Alloc

/-!
# What the SDK uses of mbedtls

The library is a parameter. The calls that read at a pointer into a buffer get the buffer, the
offset of the pointer and the offset of the end, and return the offset they leave: behind what
they read, and not behind the end. Where a failing call leaves its pointer is of no concern,
but for a tag, which one caller does not check.
-/

namespace ArtikSdk.Security

/-- `mbedtls_md_type_t` -/
inductive MdType where
  | none
  | md2
  | md4
  | md5
  | sha1
  | sha224
  | sha256
  | sha384
  | sha512
  | ripemd160
deriving DecidableEq

/-- `mbedtls_pk_type_t` -/
inductive PkType where
  | none
  | rsa
  | eckey
  | eckeyDh
  | ecdsa
  | rsaAlt
  | rsassaPss
deriving DecidableEq

/-- `mbedtls_asn1_buf`, with the bytes it points to. -/
structure Asn1Buf where
  tag : UInt8
  bytes : List UInt8
deriving DecidableEq

/-- One node of an `mbedtls_x509_name`. -/
structure NameNode where
  oid : Asn1Buf
  val : Asn1Buf
  nextMerged : UInt8
deriving DecidableEq

abbrev Name := List NameNode

/-- `mbedtls_x509_time` -/
structure X509Time where
  year : Int
  mon : Int
  day : Int
  hour : Int
  min : Int
  sec : Int
deriving DecidableEq

/-- `mbedtls_x509_crt`: the fields the SDK reads, and the certificate itself for the library. -/
structure Crt where
  raw : List UInt8
  issuer : Name
  serial : Asn1Buf
  issuerId : Asn1Buf
  extTypes : Nat
deriving DecidableEq

/-- `mbedtls_x509_crt_init` -/
def Crt.zero : Crt := ⟨[], [⟨⟨0, []⟩, ⟨0, []⟩, 0⟩], ⟨0, []⟩, ⟨0, []⟩, 0⟩

/-- What a call at `p` read: where it leaves the pointer. -/
structure Read (p last : Nat) (α : Type) where
  q : Nat
  value : α
  after : p < q
  inside : q ≤ last

/-- A tag that was found at `p`: its contents are the `len` bytes at `q`. -/
structure Found (p last : Nat) where
  q : Nat
  len : Nat
  after : p < q
  inside : q + len ≤ last

/-- The same place with another value. -/
def Read.holding {p last : Nat} {α β : Type} (r : Read p last α) (value : β) : Read p last β := ⟨r.q, value, r.after, r.inside⟩

/-- The same end, read from a place before, in an element that reaches as far. -/
def Read.widen {p q last e : Nat} {α β : Type} (r : Read q last α) (value : β) (before : p ≤ q) (reaches : last ≤ e) : Read p e β :=
  ⟨r.q, value, Nat.lt_of_le_of_lt before r.after, Nat.le_trans r.inside reaches⟩

/-- The end of the contents, read from a place before. -/
def Found.read {p q last : Nat} {β : Type} (t : Found q last) (value : β) (before : p ≤ q) : Read p last β :=
  ⟨t.q + t.len, value, Nat.lt_of_le_of_lt before (Nat.lt_of_lt_of_le t.after (Nat.le_add_right _ _)), t.inside⟩

/-- What is found behind an item begins behind it, and ends where that may end. -/
theorem Found.before {p last : Nat} (item : Found p last) (t : Found (item.q + item.len) last) : p ≤ t.q := by
  have after := item.after
  have after' := t.after
  omega

theorem Found.within {p last : Nat} (item : Found p last) (t : Found (item.q + item.len) last) : t.q + t.len ≤ last := t.inside

/-- `mbedtls_asn1_get_tag`; a failing call may have written to both. -/
inductive Tagged (p last : Nat) where
  | found (t : Found p last)
  | failed (q len : Nat)

structure Mbedtls where
  pemReadBuffer : String → String → List UInt8 → Option (List UInt8)
  x509CrtParse : List UInt8 → Option (List Crt)
  asn1GetTag (buf : List UInt8) (p last : Nat) (tag : UInt8) (len : Nat) : Tagged p last
  asn1GetInt (buf : List UInt8) (p last : Nat) : Option (Read p last Int)
  asn1GetAlg (buf : List UInt8) (p last : Nat) : Option (Read p last (Asn1Buf × Asn1Buf))
  oidGetMdAlg : Asn1Buf → Option MdType
  oidGetSigAlg : Asn1Buf → Option (MdType × PkType)
  x509GetName (buf : List UInt8) (p last : Nat) : Option (Read p last Name)
  x509GetSerial (buf : List UInt8) (p last : Nat) : Option (Read p last Asn1Buf)
  x509GetTime (buf : List UInt8) (p last : Nat) : Option (Read p last X509Time)
  /-- The certificate at the start of the bytes. -/
  x509CrtParseDer : List UInt8 → Option Crt
  /-- A chain against trusted certificates. -/
  x509CrtVerify : List Crt → List Crt → Int
  x509CrtCheckExtendedKeyUsage : Crt → List UInt8 → Int
  /-- A digest context on which `mbedtls_md_setup` and `mbedtls_md_starts` worked. -/
  MdContext : Type
  mdStarted : MdType → MdContext
  mdUpdate : MdContext → List UInt8 → Int × MdContext
  mdFinish : MdContext → Int × List UInt8
  mdInfoFromType : MdType → Bool
  mdGetSize : MdType → UInt8
  md : MdType → List UInt8 → Int × List UInt8
  pkVerify : Crt → MdType → List UInt8 → List UInt8 → Int

/-! ## Constants -/

def asn1OctetString : UInt8 := 0x04
def asn1Null : UInt8 := 0x05
def asn1Oid : UInt8 := 0x06
/-- `MBEDTLS_ASN1_CONSTRUCTED | MBEDTLS_ASN1_SEQUENCE` -/
def asn1Sequence : UInt8 := 0x30
/-- `MBEDTLS_ASN1_CONSTRUCTED | MBEDTLS_ASN1_SET` -/
def asn1Set : UInt8 := 0x31
/-- `MBEDTLS_ASN1_CONSTRUCTED | MBEDTLS_ASN1_CONTEXT_SPECIFIC` -/
def asn1Context : UInt8 := 0xa0

/-- `MBEDTLS_OID_PKCS` -/
def oidPkcs : List UInt8 := [0x2a, 0x86, 0x48, 0x86, 0xf7, 0x0d, 0x01]
def oidPkcs9 : List UInt8 := oidPkcs ++ [0x09]
def oidCodeSigning : List UInt8 := [0x2b, 0x06, 0x01, 0x05, 0x05, 0x07, 0x03, 0x03]
/-- `MBEDTLS_X509_EXT_EXTENDED_KEY_USAGE` -/
def extExtendedKeyUsage : Nat := 2 ^ 11

end ArtikSdk.Security
