import ArtikSdk.Security.Der
import ArtikSdk.Security.Element

/-!
# The certificates of a chain

`pkcs7_get_chain_certs` steps from one certificate to the next by a size that it takes from two
bytes behind the first two of a certificate.
-/

namespace ArtikSdk.Security
open Lib

/-- Where the loop calls `mbedtls_x509_crt_parse_der`. -/
def chainCalls (M : Mbedtls) (buf : List UInt8) (p buflen i : Nat) : List Nat :=
  if i < buflen then
    match M.x509CrtParseDer (slice buf (p + i) (buflen - i)) with
    | none => [i]
    | some _ => i :: chainCalls M buf p buflen (i + sizeAt buf (p + i))
  else []
termination_by buflen - i
decreasing_by
  have positive : 0 < sizeAt buf (p + i) := Nat.succ_pos _
  omega

def concat (certs : List Certificate) : List UInt8 := certs.flatMap Certificate.bytes

/-- Where the certificates begin, the first one at `i`. -/
def starts : Nat → List Certificate → List Nat
  | _, [] => []
  | i, c :: cs => i :: starts (i + c.size) cs

/-- The library accepts each of the certificates, whatever is behind it. -/
def Accepts (M : Mbedtls) (certs : List Certificate) : Prop :=
  ∀ c ∈ certs, ∀ rest, ∃ crt, M.x509CrtParseDer (c.bytes ++ rest) = some crt ∧ crt.raw = c.bytes

/-- Between `before` and `behind` the certificates are parsed one after the other, and nothing else. -/
def ParsesExactly (M : Mbedtls) (before : List UInt8) (certs : List Certificate) (behind : List UInt8) : Prop :=
  chainCalls M (before ++ concat certs ++ behind) before.length (concat certs).length 0 = starts 0 certs ∧
  ∃ crts, pkcs7GetChainCerts M (before ++ concat certs ++ behind) before.length (concat certs).length 0 [] = .ok crts ∧
    crts.map (·.raw) = certs.map Certificate.bytes

/-- The step is from each certificate to the next, and not short of the end from the last. -/
def Stepped : List Certificate → Prop
  | [] => True
  | [c] => c.size ≤ sizeAt c.bytes 0
  | c :: c' :: cs => sizeAt c.bytes 0 = c.size ∧ Stepped (c' :: cs)

variable {M : Mbedtls} {buf before behind rest : List UInt8} {p buflen i : Nat} {c : Certificate} {certs : List Certificate}

/-! ## One certificate -/

theorem Certificate.bytes_length (c : Certificate) : 4 ≤ c.bytes.length := by
  have elements := c.elements
  rw [bytes, List.length_append, List.length_cons]
  omega

theorem sizeAt_append (c : Certificate) (before rest : List UInt8) : sizeAt (before ++ (c.bytes ++ rest)) before.length = sizeAt c.bytes 0 := by
  have length := c.bytes_length
  have byte {k : Nat} (inside : k < 4) : (before ++ (c.bytes ++ rest)).getD (before.length + k) 0 = c.bytes.getD (0 + k) 0 := by
    rw [List.getD_eq_getElem?_getD, List.getElem?_append_right (Nat.le_add_right _ _), Nat.add_sub_cancel_left,
      List.getElem?_append_left (by omega), Nat.zero_add, List.getD_eq_getElem?_getD]
  rw [sizeAt, sizeAt, byte (by decide), byte (by decide)]

theorem slice_append (before rest behind : List UInt8) : slice (before ++ (rest ++ behind)) before.length rest.length = rest := by
  rw [slice, List.drop_left, List.take_left]

theorem concat_cons (c : Certificate) (cs : List Certificate) : concat (c :: cs) = c.bytes ++ concat cs := List.flatMap_cons

theorem chainCalls_end (outside : ¬ i < buflen) : chainCalls M buf p buflen i = [] := by
  rw [chainCalls, if_neg outside]

theorem chainCalls_head (M : Mbedtls) (buf : List UInt8) (p : Nat) (inside : i < buflen) : (chainCalls M buf p buflen i).head? = some i := by
  rw [chainCalls, if_pos inside]
  split <;> rfl

/-- What the loop returns is what was parsed at the calls. -/
theorem chainCerts_calls {chain crts : List Crt} (parsed : pkcs7GetChainCerts M buf p buflen i chain = .ok crts) :
    crts = chain ++ (chainCalls M buf p buflen i).filterMap fun i => M.x509CrtParseDer (slice buf (p + i) (buflen - i)) := by
  fun_induction pkcs7GetChainCerts M buf p buflen i chain with
  | case1 => cases parsed
  | case2 i chain inside crt found ih =>
    have calls : chainCalls M buf p buflen i = i :: chainCalls M buf p buflen (i + sizeAt buf (p + i)) := by
      rw [chainCalls, if_pos inside, found]
    rw [calls, List.filterMap_cons, found, List.append_cons]
    exact ih parsed
  | case3 i chain outside =>
    cases parsed
    rw [chainCalls_end outside, List.filterMap_nil, List.append_nil]

section

variable {cs : List Certificate} (at_ : before.length = p + i)
include at_

/-- What the loop has before it at a certificate. -/
theorem at_certificate (c : Certificate) (cs : List Certificate) (behind : List UInt8) :
    i < i + (concat (c :: cs)).length ∧
      slice (before ++ (concat (c :: cs) ++ behind)) (p + i) (concat (c :: cs)).length = c.bytes ++ concat cs ∧
      sizeAt (before ++ (concat (c :: cs) ++ behind)) (p + i) = sizeAt c.bytes 0 := by
  have length := c.bytes_length
  have step := sizeAt_append c before (concat cs ++ behind)
  have given := slice_append before (concat (c :: cs)) behind
  rw [at_] at step given
  refine ⟨?_, given, ?_⟩
  · rw [concat_cons, List.length_append]
    omega
  · rwa [concat_cons, List.append_assoc c.bytes]

variable (accepts : Accepts M (c :: cs))
include accepts

theorem chainCalls_cons : chainCalls M (before ++ (concat (c :: cs) ++ behind)) p (i + (concat (c :: cs)).length) i =
    i :: chainCalls M (before ++ (concat (c :: cs) ++ behind)) p (i + (concat (c :: cs)).length) (i + sizeAt c.bytes 0) := by
  obtain ⟨crt, parsed, -⟩ := accepts c List.mem_cons_self (concat cs)
  obtain ⟨inside, given, step⟩ := at_certificate at_ c cs behind
  conv_lhs => rw [chainCalls, if_pos inside, Nat.add_sub_cancel_left, given, parsed, step]

theorem chainCerts_cons (behind : List UInt8) (chain : List Crt) : ∃ crt, crt.raw = c.bytes ∧
    pkcs7GetChainCerts M (before ++ (concat (c :: cs) ++ behind)) p (i + (concat (c :: cs)).length) i chain =
      pkcs7GetChainCerts M (before ++ (concat (c :: cs) ++ behind)) p (i + (concat (c :: cs)).length) (i + sizeAt c.bytes 0)
        (chain ++ [crt]) := by
  obtain ⟨crt, parsed, raw⟩ := accepts c List.mem_cons_self (concat cs)
  obtain ⟨inside, given, step⟩ := at_certificate at_ c cs behind
  refine ⟨crt, raw, ?_⟩
  conv_lhs => rw [pkcs7GetChainCerts, if_pos inside, Nat.add_sub_cancel_left, given, parsed]
  rw [← step]
  rfl

end

theorem Accepts.tail {cs : List Certificate} (accepts : Accepts M (c :: cs)) : Accepts M cs :=
  fun c' inside => accepts c' (List.mem_cons_of_mem _ inside)

/-! ## The loop -/

/-- The rest of the loop, after a step to the next certificate. -/
theorem next_certificate (c : Certificate) (cs : List Certificate) (behind : List UInt8) (at_ : before.length = p + i) :
    (before ++ c.bytes).length = p + (i + c.size) ∧
      before ++ (concat (c :: cs) ++ behind) = (before ++ c.bytes) ++ (concat cs ++ behind) ∧
      i + (concat (c :: cs)).length = i + c.size + (concat cs).length := by
  refine ⟨?_, ?_, ?_⟩
  · rw [List.length_append, at_, Certificate.size, Nat.add_assoc]
  · rw [concat_cons, List.append_assoc, List.append_assoc]
  · rw [concat_cons, List.length_append, Certificate.size, Nat.add_assoc]

theorem chainCalls_iff (behind : List UInt8) (accepts : Accepts M certs) (at_ : before.length = p + i) :
    chainCalls M (before ++ (concat certs ++ behind)) p (i + (concat certs).length) i = starts i certs ↔ Stepped certs := by
  induction certs generalizing before i with
  | nil => exact iff_of_true (chainCalls_end (Nat.lt_irrefl i)) trivial
  | cons c cs ih =>
    obtain ⟨at', same, length⟩ := next_certificate c cs behind at_
    have following := ih accepts.tail at'
    rw [chainCalls_cons at_ accepts, starts, List.cons_inj_right]
    rw [← same, ← length] at following
    cases cs with
    | nil =>
      rw [starts, Stepped]
      constructor
      · intro ended
        by_contra short
        have inside : i + sizeAt c.bytes 0 < i + (concat [c]).length := by
          rw [length]
          change _ < i + c.size + 0
          omega
        have more := chainCalls_head M (before ++ (concat [c] ++ behind)) p inside
        rw [ended] at more
        cases more
      · intro past
        refine chainCalls_end ?_
        rw [length]
        change ¬ _ < i + c.size + 0
        omega
    | cons c' cs =>
      rw [Stepped]
      constructor
      · intro calls
        have inside : i + sizeAt c.bytes 0 < i + (concat (c :: c' :: cs)).length := by
          by_contra outside
          rw [chainCalls_end outside] at calls
          cases calls
        have head := chainCalls_head M (before ++ (concat (c :: c' :: cs) ++ behind)) p inside
        rw [calls] at head
        have step : sizeAt c.bytes 0 = c.size := Nat.add_left_cancel (Option.some.inj head).symm
        rw [step] at calls
        exact ⟨step, following.1 calls⟩
      · rintro ⟨step, stepped⟩
        rw [step]
        exact following.2 stepped

theorem chainCerts_stepped (behind : List UInt8) (accepts : Accepts M certs) (stepped : Stepped certs) (at_ : before.length = p + i) (chain : List Crt) :
    ∃ crts, pkcs7GetChainCerts M (before ++ (concat certs ++ behind)) p (i + (concat certs).length) i chain = .ok (chain ++ crts) ∧
      crts.map (·.raw) = certs.map Certificate.bytes := by
  induction certs generalizing before i chain with
  | nil =>
    refine ⟨[], ?_, rfl⟩
    rw [pkcs7GetChainCerts, if_neg (show ¬ i < i + (concat []).length from Nat.lt_irrefl i), List.append_nil]
  | cons c cs ih =>
    obtain ⟨at', same, length⟩ := next_certificate c cs behind at_
    obtain ⟨crt, raw, parsed⟩ := chainCerts_cons at_ accepts behind chain
    rw [parsed]
    cases cs with
    | nil =>
      refine ⟨[crt], ?_, by rw [List.map_cons, raw]; rfl⟩
      rw [length, pkcs7GetChainCerts, if_neg]
      change ¬ _ < i + c.size + 0
      have past : c.size ≤ sizeAt c.bytes 0 := stepped
      omega
    | cons c' cs =>
      obtain ⟨step, stepped⟩ := stepped
      obtain ⟨crts, rest, raws⟩ := ih accepts.tail stepped at' (chain ++ [crt])
      refine ⟨crt :: crts, ?_, by rw [List.map_cons, raws, raw]; rfl⟩
      rw [step, same, length, rest, List.append_assoc, List.singleton_append]

theorem parsesExactly_stepped (accepts : Accepts M certs) : ParsesExactly M before certs behind ↔ Stepped certs := by
  have calls := chainCalls_iff behind accepts (show before.length = before.length + 0 from rfl)
  rw [Nat.zero_add] at calls
  rw [ParsesExactly, List.append_assoc, calls]
  constructor
  · exact And.left
  · intro stepped
    obtain ⟨crts, parsed, raws⟩ := chainCerts_stepped behind accepts stepped (show before.length = before.length + 0 from rfl) []
    rw [Nat.zero_add] at parsed
    exact ⟨stepped, crts, parsed, raws⟩

/-! ## The forms of the lengths -/

/-- Each certificate has its length in two bytes behind `0x82`, and the last one may have it in fewer. -/
def TwoByteLengths (certs : List Certificate) : Prop :=
  (∀ c ∈ certs.dropLast, c.TwoBytes) ∧ ∀ c ∈ certs.getLast?, c.lengthBytes.length ≤ 3

theorem stepped_iff (certs : List Certificate) : Stepped certs ↔ TwoByteLengths certs := by
  induction certs with
  | nil => exact iff_of_true trivial ⟨nofun, nofun⟩
  | cons c cs ih =>
    have sizes := c.sizeAt_cases
    rw [Certificate.TwoBytes] at sizes
    cases cs with
    | nil =>
      rw [Stepped, TwoByteLengths]
      constructor
      · intro past
        refine ⟨nofun, fun c' last => ?_⟩
        obtain rfl : c = c' := Option.some.inj last
        omega
      · rintro ⟨-, last⟩
        have short := last c rfl
        omega
    | cons c' cs =>
      rw [Stepped, ih, TwoByteLengths, TwoByteLengths, List.dropLast_cons_cons, List.getLast?_cons_cons, List.forall_mem_cons, and_assoc,
        Certificate.TwoBytes]
      have step : sizeAt c.bytes 0 = c.size ↔ c.lengthBytes.length = 3 := by omega
      rw [step]

/-- **The certificates of a chain are parsed exactly** when their lengths are in two bytes. -/
theorem parsesExactly_iff (before : List UInt8) (certs : List Certificate) (behind : List UInt8) (accepts : Accepts M certs) :
    ParsesExactly M before certs behind ↔ TwoByteLengths certs :=
  (parsesExactly_stepped accepts).trans (stepped_iff certs)

/-! ## Two certificates -/

/-- What the two certificates certify: a key on the curve P-256, of A. -/
def tbsCertificate : List UInt8 :=
  [0x30, 0x81, 0xa6, 0x02, 0x01, 0x01, 0x30, 0x0a, 0x06, 0x08, 0x2a, 0x86, 0x48, 0xce, 0x3d, 0x04,
    0x03, 0x02, 0x30, 0x0c, 0x31, 0x0a, 0x30, 0x08, 0x06, 0x03, 0x55, 0x04, 0x03, 0x0c, 0x01, 0x41,
    0x30, 0x1e, 0x17, 0x0d, 0x32, 0x36, 0x31, 0x31, 0x31, 0x39, 0x31, 0x34, 0x31, 0x33, 0x33, 0x35,
    0x5a, 0x17, 0x0d, 0x33, 0x36, 0x31, 0x31, 0x31, 0x36, 0x31, 0x34, 0x31, 0x33, 0x33, 0x35, 0x5a,
    0x30, 0x0c, 0x31, 0x0a, 0x30, 0x08, 0x06, 0x03, 0x55, 0x04, 0x03, 0x0c, 0x01, 0x41, 0x30, 0x59,
    0x30, 0x13, 0x06, 0x07, 0x2a, 0x86, 0x48, 0xce, 0x3d, 0x02, 0x01, 0x06, 0x08, 0x2a, 0x86, 0x48,
    0xce, 0x3d, 0x03, 0x01, 0x07, 0x03, 0x42, 0x00, 0x04, 0x08, 0x4c, 0xda, 0xe0, 0xe1, 0x49, 0x8d,
    0xf9, 0xef, 0x60, 0x68, 0x91, 0xb4, 0x3e, 0xef, 0x87, 0x1e, 0xc6, 0xb1, 0x33, 0xc9, 0xc6, 0x82,
    0xa3, 0x53, 0xd8, 0x9e, 0x69, 0x39, 0xcb, 0xfc, 0x0c, 0x4f, 0xa0, 0xcc, 0x68, 0xa7, 0x3f, 0x07,
    0xb3, 0x4d, 0xd1, 0x07, 0xa8, 0x91, 0x66, 0x77, 0xdc, 0x43, 0x3e, 0xed, 0x6a, 0x84, 0xcf, 0x9d,
    0x64, 0x1b, 0xc4, 0xdd, 0xb8, 0xbc, 0x6e, 0xc4, 0x01]

/-- ECDSA with SHA-256 -/
def signatureAlgorithm : List UInt8 := [0x30, 0x0a, 0x06, 0x08, 0x2a, 0x86, 0x48, 0xce, 0x3d, 0x04, 0x03, 0x02]

/-- A signature of 71 bytes, with which the certificate has 254 bytes behind its length. -/
def shortSignature : List UInt8 :=
  [0x03, 0x47, 0x00, 0x30, 0x44, 0x02, 0x20, 0x31, 0xfe, 0x2b, 0xf6, 0x2f, 0xe4, 0x75, 0x1d, 0x99,
    0xd4, 0xc5, 0xb5, 0x74, 0xd4, 0x1b, 0xec, 0xf0, 0x99, 0x58, 0xee, 0x13, 0x27, 0x02, 0x26, 0x8a,
    0xc6, 0xc1, 0xf8, 0x5a, 0xbd, 0x52, 0x33, 0x02, 0x20, 0x2f, 0x20, 0x67, 0x5d, 0x5d, 0x9f, 0x18,
    0x45, 0x70, 0x09, 0x5a, 0xcd, 0x00, 0x60, 0x2f, 0x00, 0xf7, 0x0a, 0xe6, 0xd1, 0x4c, 0x69, 0x50,
    0x68, 0x95, 0x25, 0xee, 0xb7, 0xa2, 0x25, 0xcb, 0xde]

/-- One of 73 bytes, with which it has 256. -/
def longSignature : List UInt8 :=
  [0x03, 0x49, 0x00, 0x30, 0x46, 0x02, 0x21, 0x00, 0xda, 0xac, 0xf3, 0x81, 0x10, 0x7f, 0x29, 0x99,
    0x3f, 0x1e, 0x67, 0x3d, 0x6d, 0xf9, 0x3f, 0xdd, 0x0a, 0xc8, 0x5e, 0xe2, 0xde, 0x85, 0x59, 0xe0,
    0x97, 0xda, 0xb9, 0x4e, 0x32, 0x40, 0xc5, 0x67, 0x02, 0x21, 0x00, 0x89, 0xce, 0x65, 0x52, 0x4f,
    0xd9, 0xb3, 0x65, 0xcc, 0x79, 0x80, 0x00, 0xb9, 0x9d, 0x4e, 0xf4, 0xbc, 0xb7, 0x20, 0x8c, 0xc9,
    0x6e, 0xdd, 0x88, 0x7f, 0xe9, 0xd7, 0x36, 0x5b, 0x77, 0xfc, 0x29]

/-- The two signatures make the difference between one byte for the length and two. -/
theorem body_lengths : (tbsCertificate ++ signatureAlgorithm ++ shortSignature).length = value [0xfe] ∧
    (tbsCertificate ++ signatureAlgorithm ++ longSignature).length = value [0x01, 0x00] := by
  decide +kernel

def shortCertificate : Certificate where
  lengthBytes := [0x81, 0xfe]
  body := tbsCertificate ++ signatureAlgorithm ++ shortSignature
  form := body_lengths.1 ▸ @LengthForm.long [0xfe] (by simp) (by simp)
  elements := body_lengths.1 ▸ (by decide)
  tbs := rfl

def longCertificate : Certificate where
  lengthBytes := [0x82, 0x01, 0x00]
  body := tbsCertificate ++ signatureAlgorithm ++ longSignature
  form := body_lengths.2 ▸ @LengthForm.long [0x01, 0x00] (by simp) (by simp)
  elements := body_lengths.2 ▸ (by decide)
  tbs := rfl

/-- The certificate as the library reads it. -/
def crtOf (c : Certificate) : Crt where
  raw := c.bytes
  issuer := [⟨⟨asn1Oid, [0x55, 0x04, 0x03]⟩, ⟨0x0c, [0x41]⟩, 0⟩]
  serial := ⟨0x02, [0x01]⟩
  issuerId := ⟨0, []⟩
  extTypes := 0

/-- The library, where it meets no certificate but this one. -/
def libraryOf (c : Certificate) : Mbedtls := .forBundle [] [] [] (crtOf c) [] []

theorem libraryOf_accepts (c : Certificate) (n : Nat) : Accepts (libraryOf c) (List.replicate n c) := by
  intro c' inside rest
  obtain rfl := List.eq_of_mem_replicate inside
  refine ⟨crtOf c', ?_, rfl⟩
  show (if (c'.bytes ++ rest).take c'.bytes.length = c'.bytes then some (crtOf c') else none) = _
  rw [List.take_left, if_pos rfl]

theorem longCertificate_twoBytes : TwoByteLengths [longCertificate, longCertificate] := by
  refine ⟨fun c inside => ?_, fun c last => ?_⟩
  · rw [List.mem_singleton.1 inside]
    rfl
  · obtain rfl : longCertificate = c := Option.some.inj last
    decide

theorem long_parsesExactly : ParsesExactly (libraryOf longCertificate) [] [longCertificate, longCertificate] [] :=
  (parsesExactly_iff [] [longCertificate, longCertificate] [] (libraryOf_accepts longCertificate 2)).2 longCertificate_twoBytes

/-- Behind the first of the shorter ones the step is of 65076 bytes, over the second one. -/
theorem short_not_parsed : ¬ ParsesExactly (libraryOf shortCertificate) [] [shortCertificate, shortCertificate] [] := by
  intro parsed
  have stepped := (parsesExactly_stepped (libraryOf_accepts shortCertificate 2)).1 parsed
  exact absurd stepped.1 (by decide +kernel)

end ArtikSdk.Security
