import ArtikSdk.Security.ChainCerts

/-!
# The certificates of the secure element

`os_security_get_certificate`, `os_security_get_root_ca` and `os_get_certificate_sn` of
`tinyara_security.c`. The secure element fills a buffer of zeros with the root CA and the chain of
the device; offsets are from the start of the buffer. What a function that succeeds has read is
returned with its result.
-/

namespace ArtikSdk.Security
open Lib

/-- Whether the handle and the pointers are good, there is memory, and the secure element returns the string. -/
structure SeCall where
  handle : Bool
  output : Bool
  certMemory : Bool
  pemMemory : Bool
  copyMemory : Bool
  seeOk : Bool

/-- Nothing fails outside. -/
def SeCall.good : SeCall := ⟨true, true, true, true, true, true⟩

/-- The size of the buffer, and the memory behind it. -/
structure SeBuffer where
  seeMaxBufSize : Nat
  behind : List UInt8

/-- The buffer once the secure element has returned the string. -/
def SeBuffer.certData (m : SeBuffer) (blob : List UInt8) : List UInt8 :=
  blob ++ (List.replicate (m.seeMaxBufSize - blob.length) 0 ++ m.behind)

/-- `mbedtls_pem_write_buffer` with `PEM_BEGIN_CRT` and `PEM_END_CRT`: the text, where it fits. -/
abbrev PemWriter := List UInt8 → Nat → Option (List UInt8)

/-- What is exported: the certificate in the buffer, its text, and what was read. -/
structure Export where
  offset : Nat
  len : Nat
  text : List UInt8
  read : List (Nat × Nat)

/-- The certificate whose serial number was read, and what was read. -/
structure SerialNumber where
  offset : Nat
  cert : Crt
  sn : List UInt8
  read : List (Nat × Nat)

/-- `(cert_data[2] << 8) + cert_data[3] + 4` -/
def rootCaLen (certData : List UInt8) : Nat := ((certData.getD 2 0).toNat <<< 8) + (certData.getD 3 0).toNat + 4

section

variable (M : Mbedtls) (pemWriteBuffer : PemWriter) (m : SeBuffer)

def osSecurityGetRootCa (w : SeCall) (blob : List UInt8) : Except ArtikError Export :=
  if !w.handle || !w.output then .error .badArgs
  else if !w.certMemory || !w.pemMemory then .error .noMem
  else if !w.seeOk then .error .accessDenied
  else
    let certData := m.certData blob
    let rootCaLen := rootCaLen certData
    match pemWriteBuffer (slice certData 0 rootCaLen) 4096 with
    | none => .error .accessDenied
    | some text => if w.copyMemory then .ok ⟨0, rootCaLen, text, [(2, 2), (0, rootCaLen)]⟩ else .error .noMem

/-- The second certificate of the chain, as both functions look for it: its offset, the `len` of its tag, what was read. -/
def deviceCert (certData : List UInt8) (certLen : Nat) : Except ArtikError (Nat × Nat × List (Nat × Nat)) :=
  let devCert := rootCaLen certData
  let devCertLen := certLen - devCert
  -- `dev_cert + dev_cert_len` is the end of the string, also where `dev_cert` is behind it
  match M.asn1GetTag certData devCert certLen asn1Sequence 0 with
  | .failed _ _ => .error .accessDenied
  | .found t =>
    let p := t.q + t.len
    match M.asn1GetTag certData p (p + devCertLen) asn1Sequence t.len with
    | .failed _ _ => .error .accessDenied
    | .found t' => .ok (p, t'.len, [(2, 2), (devCert, t.q - devCert), (p, t'.q - p)])

def osSecurityGetCertificate (w : SeCall) (blob : List UInt8) : Except ArtikError Export :=
  if !w.handle || !w.output then .error .badArgs
  else if !w.certMemory || !w.pemMemory then .error .noMem
  else if !w.seeOk then .error .accessDenied
  else
    match deviceCert M (m.certData blob) blob.length with
    | .error e => .error e
    | .ok (devCert, len, read) =>
      match pemWriteBuffer (slice (m.certData blob) devCert (len + 4)) 4096 with
      | none => .error .accessDenied
      | some text => if w.copyMemory then .ok ⟨devCert, len + 4, text, read ++ [(devCert, len + 4)]⟩ else .error .noMem

/-- `room` is `*len`. -/
def osGetCertificateSn (w : SeCall) (room : Nat) (blob : List UInt8) : Except ArtikError SerialNumber :=
  if !w.handle || !w.output || room = 0 then .error .badArgs
  else if !w.certMemory then .error .noMem
  else if !w.seeOk then .error .accessDenied
  else
    match deviceCert M (m.certData blob) blob.length with
    | .error e => .error e
    | .ok (devCert, plen, read) =>
      match M.x509CrtParse (slice (m.certData blob) devCert (plen + 4)) with
      | none => .error .accessDenied
      | some certs =>
        let cert := leaf certs
        if cert.serial.bytes.length > room then .error .badArgs
        else .ok ⟨devCert, cert, cert.serial.bytes, read ++ [(devCert, plen + 4)]⟩

end

/-! ## What is expected -/

/-- Only bytes of the string were read. -/
def Inside (blob : List UInt8) (read : List (Nat × Nat)) : Prop := ∀ r ∈ read, r.1 + r.2 ≤ blob.length

section

variable (IsCertificate : Certificate → Prop) (M : Mbedtls) (pemWriteBuffer : PemWriter) (m : SeBuffer)

/-- The string begins with a certificate, and something is behind it. -/
def RootCa (blob : List UInt8) (root : Certificate) (rest : List UInt8) : Prop := IsCertificate root ∧ blob = root.bytes ++ rest

/-- The string begins with three certificates, and something is behind them. -/
structure ThreeCertificates (blob : List UInt8) (root first second : Certificate) (rest : List UInt8) : Prop where
  isRoot : IsCertificate root
  isFirst : IsCertificate first
  isSecond : IsCertificate second
  bytes : blob = root.bytes ++ (first.bytes ++ (second.bytes ++ rest))

/-- A root CA that is exported is the first certificate, and no other bytes were read. -/
def RootExported (blob : List UInt8) : Prop :=
  ∀ w e, osSecurityGetRootCa pemWriteBuffer m w blob = .ok e → Inside blob e.read ∧
    ∃ root rest, RootCa IsCertificate blob root rest ∧ e.offset = 0 ∧ e.len = root.size ∧ pemWriteBuffer root.bytes 4096 = some e.text

/-- A certificate that is exported is the second one behind the root CA. -/
def DeviceExported (blob : List UInt8) : Prop :=
  ∀ w e, osSecurityGetCertificate M pemWriteBuffer m w blob = .ok e → Inside blob e.read ∧
    ∃ root first second rest, ThreeCertificates IsCertificate blob root first second rest ∧ e.offset = root.size + first.size ∧
      e.len = second.size ∧ pemWriteBuffer second.bytes 4096 = some e.text

/-- A serial number that is read is that of the second certificate behind the root CA. -/
def SerialRead (blob : List UInt8) : Prop :=
  ∀ w room e, osGetCertificateSn M m w room blob = .ok e → Inside blob e.read ∧
    ∃ root first second rest, ThreeCertificates IsCertificate blob root first second rest ∧ e.offset = root.size + first.size ∧
      e.cert.raw = second.bytes ∧ e.sn = e.cert.serial.bytes

/-- `mbedtls_x509_crt_parse` reads the certificate at the start of DER. -/
def ParsesDer : Prop :=
  ∀ bytes certs, M.x509CrtParse bytes = some certs → bytes.head? = some asn1Sequence →
    ∃ c rest, IsCertificate c ∧ bytes = c.bytes ++ rest ∧ (leaf certs).raw = c.bytes

end

/-! ## When it is so -/

/-- What is found where the second certificate of the chain is looked for is refused; or nothing is found. -/
def NoDevice (m : SeBuffer) (blob : List UInt8) (refused : List UInt8 → Prop) : Prop :=
  ∀ q len q' len', ElementAt (m.certData blob) asn1Sequence (rootCaLen (m.certData blob)) blob.length q len →
    ElementAt (m.certData blob) asn1Sequence (q + len) (q + len + (blob.length - rootCaLen (m.certData blob))) q' len' →
    refused (slice (m.certData blob) (q + len) (len' + 4))

/-- At the offset that the bytes 2 and 3 give there is a SEQUENCE that ends where the first certificate of the chain ends. -/
def Skipped (m : SeBuffer) (blob : List UInt8) (root first : Certificate) : Prop :=
  ∃ q len, ElementAt (m.certData blob) asn1Sequence (rootCaLen (m.certData blob)) blob.length q len ∧ q + len = root.size + first.size

variable {IsCertificate : Certificate → Prop} {M : Mbedtls} {pemWriteBuffer : PemWriter} {m : SeBuffer} {blob rest : List UInt8}
  {root first second c : Certificate}

theorem rootCaLen_eq (certData : List UInt8) : rootCaLen certData = sizeAt certData 0 := by
  rw [rootCaLen, sizeAt, shifted_or, Nat.shiftLeft_eq]

theorem rootCaLen_root (m : SeBuffer) (root : Certificate) (rest : List UInt8) :
    rootCaLen (m.certData (root.bytes ++ rest)) = sizeAt root.bytes 0 := by
  have size := sizeAt_append root [] (rest ++ (List.replicate (m.seeMaxBufSize - (root.bytes ++ rest).length) 0 ++ m.behind))
  rw [List.nil_append, List.length_nil] at size
  rw [rootCaLen_eq, SeBuffer.certData, List.append_assoc]
  exact size

theorem Certificate.TwoBytes.size (two : c.TwoBytes) : sizeAt c.bytes 0 = c.size ∧ c.size = c.body.length + 4 := by
  have sizes := c.sizeAt_cases
  have size := c.size_eq
  rw [Certificate.TwoBytes] at *
  omega

theorem twoBytes_of_sizeAt (size : sizeAt c.bytes 0 = c.size) : c.TwoBytes := by
  have sizes := c.sizeAt_cases
  rw [Certificate.TwoBytes] at *
  omega

/-! ## The root CA -/

theorem slice_start (bytes rest : List UInt8) : slice (bytes ++ rest) 0 bytes.length = bytes := by
  rw [slice, List.drop_zero, List.take_left]

/-- A root CA is exported where its text fits. -/
theorem getRootCa_good {text : List UInt8}
    (written : pemWriteBuffer (slice (m.certData blob) 0 (rootCaLen (m.certData blob))) 4096 = some text) :
    osSecurityGetRootCa pemWriteBuffer m .good blob =
      .ok ⟨0, rootCaLen (m.certData blob), text, [(2, 2), (0, rootCaLen (m.certData blob))]⟩ := by
  rw [osSecurityGetRootCa, if_neg (by decide), if_neg (by decide), if_neg (by decide)]
  dsimp only
  rw [written]
  rfl

theorem getRootCa_ok {w : SeCall} {e : Export} (exported : osSecurityGetRootCa pemWriteBuffer m w blob = .ok e) :
    ∃ text, pemWriteBuffer (slice (m.certData blob) 0 (rootCaLen (m.certData blob))) 4096 = some text ∧
      e = ⟨0, rootCaLen (m.certData blob), text, [(2, 2), (0, rootCaLen (m.certData blob))]⟩ := by
  rw [osSecurityGetRootCa] at exported
  split at exported
  · cases exported
  split at exported
  · cases exported
  split at exported
  · cases exported
  dsimp only at exported
  split at exported
  · cases exported
  rename_i text written
  split at exported
  · cases exported
    exact ⟨text, written, rfl⟩
  · cases exported

theorem rootExported_iff : RootExported IsCertificate pemWriteBuffer m blob ↔
    pemWriteBuffer (slice (m.certData blob) 0 (rootCaLen (m.certData blob))) 4096 = none ∨
      ∃ root rest, RootCa IsCertificate blob root rest ∧ root.TwoBytes := by
  constructor
  · intro exported
    cases written : pemWriteBuffer (slice (m.certData blob) 0 (rootCaLen (m.certData blob))) 4096 with
    | none => exact .inl rfl
    | some text =>
      obtain ⟨-, root, rest, begins, -, len, -⟩ := exported .good _ (getRootCa_good written)
      refine .inr ⟨root, rest, begins, twoBytes_of_sizeAt ?_⟩
      rw [← rootCaLen_root m root rest, ← begins.2]
      exact len
  · rintro (unfit | ⟨root, rest, begins, two⟩) w e exported
    · obtain ⟨text, written, -⟩ := getRootCa_ok exported
      rw [unfit] at written
      cases written
    · obtain ⟨text, written, rfl⟩ := getRootCa_ok exported
      have length := root.bytes_length
      obtain ⟨certificate, rfl⟩ := begins
      have len : rootCaLen (m.certData (root.bytes ++ rest)) = root.size := (rootCaLen_root m root rest).trans two.size.1
      rw [len, SeBuffer.certData, List.append_assoc, Certificate.size, slice_start] at written
      refine ⟨?_, root, rest, ⟨certificate, rfl⟩, rfl, len, written⟩
      intro r inside
      rw [List.length_append]
      rw [List.mem_cons, List.mem_singleton] at inside
      obtain rfl | rfl := inside
      · dsimp only
        omega
      · dsimp only
        rw [len, Certificate.size]
        omega

/-! ## The device certificate -/

section

variable (finds : FindsElements M)
include finds

theorem deviceCert_iff {certData : List UInt8} {certLen : Nat} {r : Nat × Nat × List (Nat × Nat)} :
    deviceCert M certData certLen = .ok r ↔ ∃ q len q' len', ElementAt certData asn1Sequence (rootCaLen certData) certLen q len ∧
      ElementAt certData asn1Sequence (q + len) (q + len + (certLen - rootCaLen certData)) q' len' ∧
      r = (q + len, len', [(2, 2), (rootCaLen certData, q - rootCaLen certData), (q + len, q' - (q + len))]) := by
  rw [deviceCert]
  dsimp only
  constructor
  · intro found
    split at found
    · cases found
    rename_i t first
    split at found
    · cases found
    rename_i t' second
    cases found
    exact ⟨t.q, t.len, t'.q, t'.len, finds.sound first, finds.sound second, rfl⟩
  · rintro ⟨q, len, q', len', first, second, rfl⟩
    obtain ⟨t, found⟩ := finds.complete first 0
    obtain ⟨rfl, rfl⟩ := first.unique (finds.sound found)
    obtain ⟨t', found'⟩ := finds.complete second t.len
    obtain ⟨rfl, rfl⟩ := second.unique (finds.sound found')
    rw [found]
    dsimp only
    rw [found']

theorem getCertificate_ok {w : SeCall} {e : Export} (exported : osSecurityGetCertificate M pemWriteBuffer m w blob = .ok e) :
    ∃ q len q' len' text, ElementAt (m.certData blob) asn1Sequence (rootCaLen (m.certData blob)) blob.length q len ∧
      ElementAt (m.certData blob) asn1Sequence (q + len) (q + len + (blob.length - rootCaLen (m.certData blob))) q' len' ∧
      pemWriteBuffer (slice (m.certData blob) (q + len) (len' + 4)) 4096 = some text ∧
      e = ⟨q + len, len' + 4, text, [(2, 2), (rootCaLen (m.certData blob), q - rootCaLen (m.certData blob)),
        (q + len, q' - (q + len)), (q + len, len' + 4)]⟩ := by
  rw [osSecurityGetCertificate] at exported
  split at exported
  · cases exported
  split at exported
  · cases exported
  split at exported
  · cases exported
  split at exported
  · cases exported
  rename_i found
  obtain ⟨q, len, q', len', first, second, same⟩ := (deviceCert_iff finds).1 found
  cases same
  split at exported
  · cases exported
  rename_i text written
  split at exported
  · cases exported
    exact ⟨q, len, q', _, text, first, second, written, rfl⟩
  · cases exported

theorem getCertificate_good {q len q' len' : Nat} {text : List UInt8}
    (first : ElementAt (m.certData blob) asn1Sequence (rootCaLen (m.certData blob)) blob.length q len)
    (second : ElementAt (m.certData blob) asn1Sequence (q + len) (q + len + (blob.length - rootCaLen (m.certData blob))) q' len')
    (written : pemWriteBuffer (slice (m.certData blob) (q + len) (len' + 4)) 4096 = some text) :
    ∃ read, osSecurityGetCertificate M pemWriteBuffer m .good blob = .ok ⟨q + len, len' + 4, text, read⟩ := by
  rw [osSecurityGetCertificate, if_neg (by decide), if_neg (by decide), if_neg (by decide),
    (deviceCert_iff finds).2 ⟨q, len, q', len', first, second, rfl⟩]
  dsimp only
  rw [written]
  exact ⟨_, rfl⟩

theorem getSn_ok {w : SeCall} {room : Nat} {e : SerialNumber} (read : osGetCertificateSn M m w room blob = .ok e) :
    ∃ q len q' len' certs, ElementAt (m.certData blob) asn1Sequence (rootCaLen (m.certData blob)) blob.length q len ∧
      ElementAt (m.certData blob) asn1Sequence (q + len) (q + len + (blob.length - rootCaLen (m.certData blob))) q' len' ∧
      M.x509CrtParse (slice (m.certData blob) (q + len) (len' + 4)) = some certs ∧
      e = ⟨q + len, leaf certs, (leaf certs).serial.bytes, [(2, 2), (rootCaLen (m.certData blob), q - rootCaLen (m.certData blob)),
        (q + len, q' - (q + len)), (q + len, len' + 4)]⟩ := by
  rw [osGetCertificateSn] at read
  split at read
  · cases read
  split at read
  · cases read
  split at read
  · cases read
  split at read
  · cases read
  rename_i found
  obtain ⟨q, len, q', len', first, second, same⟩ := (deviceCert_iff finds).1 found
  cases same
  split at read
  · cases read
  rename_i certs parsed
  dsimp only at read
  split at read
  · cases read
  · cases read
    exact ⟨q, len, q', _, certs, first, second, parsed, rfl⟩

theorem getSn_good {q len q' len' : Nat} {certs : List Crt}
    (first : ElementAt (m.certData blob) asn1Sequence (rootCaLen (m.certData blob)) blob.length q len)
    (second : ElementAt (m.certData blob) asn1Sequence (q + len) (q + len + (blob.length - rootCaLen (m.certData blob))) q' len')
    (parsed : M.x509CrtParse (slice (m.certData blob) (q + len) (len' + 4)) = some certs) :
    ∃ room, osGetCertificateSn M m .good room blob = .ok ⟨q + len, leaf certs, (leaf certs).serial.bytes,
      [(2, 2), (rootCaLen (m.certData blob), q - rootCaLen (m.certData blob)), (q + len, q' - (q + len)), (q + len, len' + 4)]⟩ := by
  refine ⟨(leaf certs).serial.bytes.length + 1, ?_⟩
  rw [osGetCertificateSn, if_neg (by simp [SeCall.good]), if_neg (by decide), if_neg (by decide),
    (deviceCert_iff finds).2 ⟨q, len, q', len', first, second, rfl⟩]
  dsimp only
  rw [parsed]
  dsimp only
  rw [if_neg (by omega)]
  rfl

end

/-- Behind the first two certificates. -/
theorem ThreeCertificates.drop (three : ThreeCertificates IsCertificate blob root first second rest) (m : SeBuffer) :
    ∃ more, (m.certData blob).drop (root.size + first.size) = second.bytes ++ (rest ++ more) := by
  obtain ⟨-, -, -, rfl⟩ := three
  refine ⟨List.replicate (m.seeMaxBufSize - (root.bytes ++ (first.bytes ++ (second.bytes ++ rest))).length) 0 ++ m.behind, ?_⟩
  rw [SeBuffer.certData, Certificate.size, Certificate.size, ← List.length_append, ← List.append_assoc root.bytes, List.append_assoc,
    List.drop_left, List.append_assoc]

theorem ThreeCertificates.length (three : ThreeCertificates IsCertificate blob root first second rest) :
    blob.length = root.size + first.size + (1 + second.lengthBytes.length + second.body.length) + rest.length := by
  rw [three.bytes, ← second.size_eq]
  simp only [List.length_append, Certificate.size]
  omega

/-- What is read in front of the second certificate is inside. -/
theorem inside_reads {q len q' len' : Nat} (first : ElementAt (m.certData blob) asn1Sequence (rootCaLen (m.certData blob)) blob.length q len)
    (header : q' ≤ blob.length) (exported : q + len + (len' + 4) ≤ blob.length) :
    Inside blob [(2, 2), (rootCaLen (m.certData blob), q - rootCaLen (m.certData blob)), (q + len, q' - (q + len)), (q + len, len' + 4)] := by
  obtain ⟨lengthBytes, more, -, -, -, rfl, ends⟩ := first
  intro r inside
  simp only [List.mem_cons, List.not_mem_nil, or_false] at inside
  obtain rfl | rfl | rfl | rfl := inside <;> dsimp only <;> omega

theorem deviceExported_iff (finds : FindsElements M) : DeviceExported IsCertificate M pemWriteBuffer m blob ↔
    NoDevice m blob (fun der => pemWriteBuffer der 4096 = none) ∨
      ∃ root first second rest, ThreeCertificates IsCertificate blob root first second rest ∧ Skipped m blob root first ∧
        second.TwoBytes := by
  constructor
  · intro exported
    by_cases nothing : NoDevice m blob (fun der => pemWriteBuffer der 4096 = none)
    · exact .inl nothing
    · right
      unfold NoDevice at nothing
      push Not at nothing
      obtain ⟨q, len, q', len', element, element', fits⟩ := nothing
      obtain ⟨text, written⟩ := Option.ne_none_iff_exists'.1 fits
      obtain ⟨read, good⟩ := getCertificate_good finds element element' written
      obtain ⟨-, root, first, second, rest, three, offset, size, -⟩ := exported _ _ good
      obtain ⟨more, at_⟩ := three.drop m
      dsimp only at offset size
      rw [← offset] at at_
      obtain ⟨-, rfl⟩ := second.elementAt at_ element'
      refine ⟨root, first, second, rest, three, ⟨q, len, element, offset⟩, ?_⟩
      have total := second.size_eq
      rw [Certificate.TwoBytes]
      omega
  · rintro (nothing | ⟨root, first, second, rest, three, ⟨q, len, element, offset⟩, two⟩) w e exported
    · obtain ⟨q, len, q', len', text, element, element', written, -⟩ := getCertificate_ok finds exported
      rw [nothing q len q' len' element element'] at written
      cases written
    · obtain ⟨q₁, len₁, q', len', text, element₁, element', written, rfl⟩ := getCertificate_ok finds exported
      obtain ⟨rfl, rfl⟩ := element.unique element₁
      obtain ⟨more, at_⟩ := three.drop m
      rw [← offset] at at_
      obtain ⟨rfl, rfl⟩ := second.elementAt at_ element'
      have size : second.body.length + 4 = second.size := two.size.2.symm
      have length := three.length
      rw [Certificate.TwoBytes] at two
      refine ⟨inside_reads element (by omega) (by omega), root, first, second, rest, three, offset, size, ?_⟩
      rwa [slice, at_, size, Certificate.size, List.take_left] at written

/-- A slice from a certificate on, of the certificate and more. -/
theorem slice_certificate {buf more : List UInt8} {p n : Nat} (at_ : buf.drop p = c.bytes ++ more) (longer : c.size ≤ n) :
    ∃ tail, slice buf p n = c.bytes ++ tail :=
  ⟨more.take (n - c.bytes.length), by rw [slice, at_, List.take_append, List.take_of_length_le longer]⟩

theorem head_slice {buf more : List UInt8} {p n : Nat} (at_ : buf.drop p = c.bytes ++ more) :
    (slice buf p (n + 4)).head? = some asn1Sequence := by
  rw [slice, at_]
  rfl

theorem serialRead_iff (finds : FindsElements M) (parses : ParsesDer IsCertificate M) : SerialRead IsCertificate M m blob ↔
    NoDevice m blob (fun der => M.x509CrtParse der = none) ∨
      ∃ root first second rest, ThreeCertificates IsCertificate blob root first second rest ∧ Skipped m blob root first ∧
        second.lengthBytes.length ≤ 3 ∧ 3 ≤ second.lengthBytes.length + rest.length := by
  constructor
  · intro read
    by_cases nothing : NoDevice m blob (fun der => M.x509CrtParse der = none)
    · exact .inl nothing
    · right
      unfold NoDevice at nothing
      push Not at nothing
      obtain ⟨q, len, q', len', element, element', parsed⟩ := nothing
      obtain ⟨certs, parsed⟩ := Option.ne_none_iff_exists'.1 parsed
      obtain ⟨room, good⟩ := getSn_good finds element element' parsed
      obtain ⟨inside, root, first, second, rest, three, offset, raw, -⟩ := read _ _ _ good
      have within := inside (q + len, len' + 4) (by simp)
      have length := three.length
      obtain ⟨more, at_⟩ := three.drop m
      dsimp only at offset raw within
      rw [← offset] at at_ length
      obtain ⟨-, rfl⟩ := second.elementAt at_ element'
      obtain ⟨c, tail, -, given, raw'⟩ := parses _ _ parsed (head_slice at_)
      -- what was parsed is of the bytes that were given
      have fits : c.bytes.length ≤ second.body.length + 4 := by
        have lengths := congrArg List.length given
        rw [slice, List.length_take, List.length_append] at lengths
        omega
      rw [← raw', raw, ← Certificate.size, second.size_eq] at fits
      exact ⟨root, first, second, rest, three, ⟨q, len, element, offset⟩, by omega, by omega⟩
  · rintro (nothing | ⟨root, first, second, rest, three, ⟨q, len, element, offset⟩, short, room⟩) w _ e read
    · obtain ⟨q, len, q', len', certs, element, element', parsed, -⟩ := getSn_ok finds read
      rw [nothing q len q' len' element element'] at parsed
      cases parsed
    · obtain ⟨q₁, len₁, q', len', certs, element₁, element', parsed, rfl⟩ := getSn_ok finds read
      obtain ⟨rfl, rfl⟩ := element.unique element₁
      have length := three.length
      obtain ⟨more, at_⟩ := three.drop m
      rw [← offset] at at_ length
      obtain ⟨rfl, rfl⟩ := second.elementAt at_ element'
      obtain ⟨tail, given⟩ := slice_certificate at_ (show second.size ≤ second.body.length + 4 by rw [second.size_eq]; omega)
      obtain ⟨c, tail', -, given', raw⟩ := parses _ _ parsed (head_slice at_)
      obtain ⟨rfl, -⟩ := Certificate.bytes_unique (given.symm.trans given')
      exact ⟨inside_reads element (by omega) (by omega), root, first, second, rest, three, offset, raw, rfl⟩

/-- **The certificates of the secure element.** -/
theorem exported_iff (finds : FindsElements M) (parses : ParsesDer IsCertificate M) (pemWriteBuffer : PemWriter) (m : SeBuffer)
    (blob : List UInt8) :
    (RootExported IsCertificate pemWriteBuffer m blob ↔
      pemWriteBuffer (slice (m.certData blob) 0 (rootCaLen (m.certData blob))) 4096 = none ∨
        ∃ root rest, RootCa IsCertificate blob root rest ∧ root.TwoBytes) ∧
    (DeviceExported IsCertificate M pemWriteBuffer m blob ↔
      NoDevice m blob (fun der => pemWriteBuffer der 4096 = none) ∨
        ∃ root first second rest, ThreeCertificates IsCertificate blob root first second rest ∧ Skipped m blob root first ∧
          second.TwoBytes) ∧
    (SerialRead IsCertificate M m blob ↔
      NoDevice m blob (fun der => M.x509CrtParse der = none) ∨
        ∃ root first second rest, ThreeCertificates IsCertificate blob root first second rest ∧ Skipped m blob root first ∧
          second.lengthBytes.length ≤ 3 ∧ 3 ≤ second.lengthBytes.length + rest.length) :=
  ⟨rootExported_iff, deviceExported_iff finds, serialRead_iff finds parses⟩

/-! ## Three certificates -/

/-- The lines of a base64 text. -/
def pemLines : Nat → List UInt8 → List UInt8
  | 0, _ => []
  | fuel + 1, text => if text = [] then [] else text.take 64 ++ 0x0a :: pemLines fuel (text.drop 64)

def pemText : PemWriter := fun der size =>
  let text := ascii "-----BEGIN CERTIFICATE-----\n" ++ pemLines der.length (base64 der) ++ ascii "-----END CERTIFICATE-----\n"
  if text.length < size then some text else none

/-- The library, where it meets no certificate but this one. -/
def derLibrary (c : Certificate) : Mbedtls :=
  { libraryOf c with
    asn1GetTag := elementTag
    x509CrtParse := fun bytes => if bytes.take c.bytes.length = c.bytes then some [crtOf c] else none }

theorem derLibrary_parses (c : Certificate) : ParsesDer (· = c) (derLibrary c) := by
  intro bytes certs parsed _
  change (if bytes.take c.bytes.length = c.bytes then some [crtOf c] else none) = some certs at parsed
  split at parsed
  · rename_i begins
    cases parsed
    refine ⟨c, bytes.drop c.bytes.length, rfl, ?_, rfl⟩
    conv_lhs => rw [← List.take_append_drop c.bytes.length bytes, begins]
  · cases parsed

/-- Where the root CA has its length in two bytes, what is skipped is the first certificate of the chain. -/
theorem skipped_twoBytes (three : ThreeCertificates IsCertificate blob root first second rest) (two : root.TwoBytes)
    (short : first.lengthBytes.length ≤ 5) : Skipped m blob root first := by
  have length := three.length
  obtain ⟨-, -, -, rfl⟩ := three
  have size := two.size.1
  have start := rootCaLen_root m root (first.bytes ++ (second.bytes ++ rest))
  rw [size] at start
  refine ⟨root.size + 1 + first.lengthBytes.length, first.body.length, ?_, by rw [first.size_eq]; omega⟩
  rw [start]
  refine ⟨first.lengthBytes, first.body ++ (second.bytes ++ rest ++
    (List.replicate (m.seeMaxBufSize - (root.bytes ++ (first.bytes ++ (second.bytes ++ rest))).length) 0 ++ m.behind)), ?_, first.form,
    short, rfl, ?_⟩
  · rw [SeBuffer.certData, Certificate.size, List.append_assoc, List.drop_left, Certificate.bytes, List.append_assoc, List.append_assoc]
  · rw [length, first.size_eq]
    omega

def threeLong : List UInt8 := longCertificate.bytes ++ (longCertificate.bytes ++ (longCertificate.bytes ++ []))

theorem threeLong_certificates : ThreeCertificates (· = longCertificate) threeLong longCertificate longCertificate longCertificate [] :=
  ⟨rfl, rfl, rfl, rfl⟩

theorem threeLong_exported : RootExported (· = longCertificate) pemText ⟨1024, []⟩ threeLong ∧
    DeviceExported (· = longCertificate) (derLibrary longCertificate) pemText ⟨1024, []⟩ threeLong ∧
    SerialRead (· = longCertificate) (derLibrary longCertificate) ⟨1024, []⟩ threeLong := by
  obtain ⟨root, device, serial⟩ := exported_iff (elementTag_finds rfl) (derLibrary_parses longCertificate) pemText ⟨1024, []⟩ threeLong
  have skipped : Skipped ⟨1024, []⟩ threeLong longCertificate longCertificate := skipped_twoBytes threeLong_certificates rfl (by decide)
  exact ⟨root.2 (.inr ⟨_, _, ⟨rfl, rfl⟩, rfl⟩), device.2 (.inr ⟨_, _, _, _, threeLong_certificates, skipped, rfl⟩),
    serial.2 (.inr ⟨_, _, _, _, threeLong_certificates, skipped, by decide, by decide⟩)⟩

/-- The device certificate has its length in one byte. -/
def shortDevice : List UInt8 := longCertificate.bytes ++ (longCertificate.bytes ++ shortCertificate.bytes)

/-- A byte behind the string is exported with it. -/
theorem shortDevice_not_exported :
    ¬ DeviceExported (fun c => c = longCertificate ∨ c = shortCertificate) (derLibrary shortCertificate) pemText ⟨1024, []⟩ shortDevice := by
  intro exported
  have outside : ((osSecurityGetCertificate (derLibrary shortCertificate) pemText ⟨1024, []⟩ .good shortDevice).toOption.any fun e =>
      e.read.any fun r => shortDevice.length < r.1 + r.2) = true := by decide +kernel
  obtain ⟨e, found, outside⟩ := (Option.any_eq_true ..).mp outside
  obtain ⟨r, inside, outside⟩ := List.any_eq_true.1 outside
  cases result : osSecurityGetCertificate (derLibrary shortCertificate) pemText ⟨1024, []⟩ .good shortDevice with
  | error e =>
    rw [result] at found
    cases found
  | ok e =>
    rw [result] at found
    cases found
    have within := (exported _ _ result).1 r inside
    have behind := of_decide_eq_true outside
    omega

end ArtikSdk.Security
