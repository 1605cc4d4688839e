import ArtikSdk.Lib.Sha256
import ArtikSdk.Security.Pkcs7

/-!
# A library for one bundle

How mbedtls reads DER (`asn1parse.c`, `x509.c`), its SHA-256, and of the rest what it answers
for one bundle, whose certificate is the trusted one.
-/

namespace ArtikSdk.Security
open Lib

section

variable (buf : List UInt8)

def byteAt (p : Nat) : UInt8 := buf.getD p 0

/-- `mbedtls_asn1_get_len` -/
def derLen (p last : Nat) : Option (Nat × Nat) :=
  let first := (byteAt buf p).toNat
  let n := if first < 0x80 then 0 else first - 0x80
  let len := if first < 0x80 then first else (slice buf (p + 1) n).foldl (fun v b => v * 256 + b.toNat) 0
  if last < p + 1 + n || first = 0x80 || 4 < n || last < p + 1 + n + len then none else some (p + 1 + n, len)

/-- `mbedtls_asn1_get_tag`, as an option. -/
def derHeader (p last : Nat) (tag : UInt8) : Option (Nat × Nat) :=
  if last ≤ p || byteAt buf p ≠ tag then none else derLen buf (p + 1) last

def derTag (p last : Nat) (tag : UInt8) (len : Nat) : Tagged p last :=
  match derHeader buf p last tag with
  | none => .failed p len
  | some (q, n) => if h : p < q ∧ q + n ≤ last then .found ⟨q, n, h.1, h.2⟩ else .failed p len

/-- What was read, if it is where it has to be. -/
def derRead {α : Type} (p last : Nat) (r : Option (Nat × α)) : Option (Read p last α) :=
  match r with
  | none => none
  | some (q, a) => if h : p < q ∧ q ≤ last then some ⟨q, a, h.1, h.2⟩ else none

def derInt (p last : Nat) : Option (Read p last Int) :=
  derRead p last (match derHeader buf p last 0x02 with
    | none => none
    | some (q, n) =>
      if n = 0 || 4 < n || 0x80 ≤ byteAt buf q then none
      else some (q + n, ((slice buf q n).foldl (fun v b => v * 256 + b.toNat) 0 : Nat)))

/-- A value with whatever tag it has. -/
def derAny (p last : Nat) : Option (Nat × Asn1Buf) :=
  match derHeader buf p last (byteAt buf p) with
  | none => none
  | some (q, n) => some (q + n, ⟨byteAt buf p, slice buf q n⟩)

/-- `mbedtls_asn1_get_alg`: the parameters are optional. -/
def derAlg (p last : Nat) : Option (Read p last (Asn1Buf × Asn1Buf)) :=
  derRead p last (match derHeader buf p last asn1Sequence with
    | none => none
    | some (q, n) =>
      match derHeader buf q (q + n) asn1Oid with
      | none => none
      | some (o, k) =>
        let alg : Asn1Buf := ⟨asn1Oid, slice buf o k⟩
        if o + k = q + n then some (q + n, alg, ⟨0, []⟩)
        else
          match derAny buf (o + k) (q + n) with
          | none => none
          | some (r, params) => if r = q + n then some (q + n, alg, params) else none)

/-- `mbedtls_x509_get_serial` -/
def derSerial (p last : Nat) : Option (Read p last Asn1Buf) :=
  derRead p last (if byteAt buf p ≠ 0x82 && byteAt buf p ≠ 0x02 then none else derAny buf p last)

/-- `mbedtls_x509_get_time`, of a `UTCTime` with seconds. -/
def derTime (p last : Nat) : Option (Read p last X509Time) :=
  derRead p last (match derHeader buf p last 0x17 with
    | none => none
    | some (q, n) =>
      let two (i : Nat) : Int := 10 * ((byteAt buf (q + i)).toNat - 0x30) + ((byteAt buf (q + i + 1)).toNat - 0x30)
      if n ≠ 13 || byteAt buf (q + 12) ≠ 0x5a then none
      else some (q + n, ⟨two 0 + (if two 0 < 50 then 2000 else 1900), two 2, two 4, two 6, two 8, two 10⟩))

/-- The loop of `mbedtls_x509_get_name`, for one attribute in a set. -/
def derNameLoop (last : Nat) : Nat → Nat → Option (Nat × Name)
  | 0, _ => none
  | fuel + 1, p =>
    match derHeader buf p last asn1Set with
    | none => none
    | some (set, n) =>
      match derHeader buf set (set + n) asn1Sequence with
      | none => none
      | some (q, k) =>
        match derHeader buf q (q + k) asn1Oid with
        | none => none
        | some (o, m) =>
          match derAny buf (o + m) (q + k) with
          | none => none
          | some (r, val) =>
            if r ≠ set + n then none
            else if r = last then some (r, [⟨⟨asn1Oid, slice buf o m⟩, val, 0⟩])
            else (derNameLoop last fuel r).map fun rest => (rest.1, ⟨⟨asn1Oid, slice buf o m⟩, val, 0⟩ :: rest.2)

def derName (p last : Nat) : Option (Read p last Name) := derRead p last (derNameLoop buf last (last - p) p)

end

/-! ## PEM -/

def base64Char (n : Nat) : UInt8 :=
  UInt8.ofNat (if n < 26 then n + 0x41 else if n < 52 then n - 26 + 0x61 else if n < 62 then n - 52 + 0x30 else if n = 62 then 0x2b else 0x2f)

/-- The four characters for three bytes. -/
def base64Group (a b c : UInt8) : List UInt8 :=
  let n := a.toNat * 65536 + b.toNat * 256 + c.toNat
  [base64Char (n / 262144), base64Char (n / 4096 % 64), base64Char (n / 64 % 64), base64Char (n % 64)]

def base64 : List UInt8 → List UInt8
  | a :: b :: c :: rest => base64Group a b c ++ base64 rest
  | [a, b] => (base64Group a b 0).take 3 ++ [0x3d]
  | [a] => (base64Group a 0 0).take 2 ++ [0x3d, 0x3d]
  | [] => []

def ascii (text : String) : List UInt8 := text.toList.map fun c => UInt8.ofNat c.toNat

def pem (label : String) (der : List UInt8) : List UInt8 :=
  ascii "-----BEGIN " ++ ascii label ++ ascii "-----\n" ++ base64 der ++ ascii "\n-----END " ++ ascii label ++ ascii "-----\n"

/-! ## The library -/

/-- `MBEDTLS_OID_DIGEST_ALG_SHA256` -/
def oidSha256 : List UInt8 := [0x60, 0x86, 0x48, 0x01, 0x65, 0x03, 0x04, 0x02, 0x01]

/-- `MBEDTLS_OID_ECDSA_SHA256` -/
def oidEcdsaSha256 : List UInt8 := [0x2a, 0x86, 0x48, 0xce, 0x3d, 0x04, 0x03, 0x02]

/-- The library, for the texts of a bundle and of a certificate that is trusted, what they are,
and the signature over a hash that the certificate's key made. -/
def Mbedtls.forBundle (signaturePem der rootPem : List UInt8) (crt : Crt) (hash signature : List UInt8) : Mbedtls where
  pemReadBuffer _ _ text := if text = signaturePem then some der else none
  x509CrtParse text := if text = rootPem ++ [0] then some [crt] else none
  asn1GetTag := derTag
  asn1GetInt := derInt
  asn1GetAlg := derAlg
  oidGetMdAlg oid := if oid.bytes = oidSha256 then some .sha256 else none
  oidGetSigAlg oid := if oid.bytes = oidEcdsaSha256 then some (.sha256, .ecdsa) else none
  x509GetName := derName
  x509GetSerial := derSerial
  x509GetTime := derTime
  x509CrtParseDer bytes := if bytes.take crt.raw.length = crt.raw then some crt else none
  x509CrtVerify chain trusted := if chain = [crt] ∧ trusted = [crt] then 0 else -0x2700
  x509CrtCheckExtendedKeyUsage c oid := if c = crt ∧ oid = oidCodeSigning then 0 else -0x2800
  MdContext := List UInt8
  mdStarted _ := []
  mdUpdate fed data := (0, fed ++ data)
  mdFinish fed := (0, Sha256.digest fed)
  mdInfoFromType md := md = .sha256
  mdGetSize md := if md = .sha256 then 32 else 0
  md type message := if type = .sha256 then (0, Sha256.digest message) else (-0x5100, [])
  pkVerify c type h s := if c = crt ∧ type = .sha256 ∧ h = hash ∧ s = signature then 0 else -0x4e00

end ArtikSdk.Security
