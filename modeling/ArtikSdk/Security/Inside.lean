import ArtikSdk.Security.Accepted
import ArtikSdk.Security.Touches

/-!
# Whether the parser stays inside

Most of the calls are told the end of the buffer for that of the element they are in, and one
byte is read without a look at any end. The parser stays inside its buffer and its elements
where such a call finds what it looks for inside, or the element ends where the buffer does.
-/

namespace ArtikSdk.Security
open Lib

section

variable (M : Mbedtls) (buf : List UInt8)

/-- In whatever way the calls read within their contract, the parser stays inside. -/
def StaysInside (memory : Nat → Bool) (chainMemory : Bool) (rootCA : List Crt) : Prop :=
  Always (Extent.Allowed M buf) Touch.Inside fun reach => scanSignedData M buf reach memory chainMemory rootCA

/-- What there is in the SET of an attribute is looked for up to the end of the attribute. -/
def ValueNested (p endSeq : Nat) : Prop :=
  ∀ oid, getTag M buf p endSeq asn1Oid = .ok oid →
  ∀ set, getTag M buf (oid.q + oid.len) endSeq asn1Set = .ok set →
    (slice buf oid.q oid.len = oidPkcs9ContentType → mayRead M buf (.tag asn1Oid 0) set.q endSeq ≤ set.stop) ∧
    (slice buf oid.q oid.len = oidPkcs9MessageDigest → mayRead M buf (.tag asn1OctetString 0) set.q endSeq ≤ set.stop)

/-- The attributes that are read. -/
def AttributesNested (p last : Nat) (inside : last ≤ buf.length) (s : AttributeLoop buf.length) : Prop :=
  p ≠ last → ∀ t, getTag M buf p last asn1Sequence = .ok t →
    ValueNested M buf t.q (t.q + t.len) ∧
    ∀ next, pkcs7GetAttribute M buf t.q (t.q + t.len) (Nat.le_trans t.inside inside) s = .ok next →
      AttributesNested next.q last inside next.value
termination_by last - p
decreasing_by
  have after := t.after
  have within := t.inside
  have after' := next.after
  have within' := next.inside
  omega

/-- The call at `p`, which is told the end of the buffer, reads nothing behind `e`. -/
def Within (call : LibraryCall) (p e : Nat) : Prop := mayRead M buf call p buf.length ≤ e

/-- Every step of the loop over the certificates is to a place in the element. -/
def StepsInside (p buflen i : Nat) : Prop :=
  ∀ j ∈ chainCalls M buf p buflen i, (M.x509CrtParseDer (slice buf (p + j) (buflen - j))).isSome → j + sizeAt buf (p + j) ≤ buflen

/-- What there is in a SignerInfo is looked for up to the end of the buffer. -/
def SignerNested (p : Nat) (ids : List MdType) : Prop :=
  ∀ signer, getTag M buf p buf.length asn1Sequence = .ok signer →
  Within M buf .int signer.q signer.stop ∧
  ∀ ver, expect (M.asn1GetInt buf signer.q buf.length) = .ok ver → ver.value = 1 →
  Within M buf (.tag asn1Sequence 0) ver.q signer.stop ∧
  ∀ issuerAndSerial, getTag M buf ver.q buf.length asn1Sequence = .ok issuerAndSerial →
  Within M buf (.tag asn1Sequence 0) issuerAndSerial.q issuerAndSerial.stop ∧
  ∀ rdn, getTag M buf issuerAndSerial.q buf.length asn1Sequence = .ok rdn →
  ∀ issuer, expect (M.x509GetName buf rdn.q (rdn.q + rdn.len)) = .ok issuer →
  Within M buf .serial issuer.q issuerAndSerial.stop ∧
  ∀ serial, expect (M.x509GetSerial buf issuer.q buf.length) = .ok serial →
  Within M buf .alg serial.q signer.stop ∧
  ∀ alg, pkcs7GetHashAlg M buf serial.q buf.length = .ok alg → ids.head? = some alg.value →
  Within M buf (.tag asn1Context 0) alg.q signer.stop ∧
  ∀ t, getTag M buf alg.q buf.length asn1Context = .ok t →
  AttributesNested M buf t.q (t.q + t.len) t.region.inside (.zero _) ∧
  ∀ attributes, pkcs7GetAuthenticatedAttributes M buf t.q (t.q + t.len) t.region.inside (.zero _) = .ok attributes →
  Within M buf .alg attributes.1 signer.stop ∧
  ∀ enc, pkcs7GetEncryptionAlg M buf attributes.1 buf.length = .ok enc → enc.value = .ecdsa →
  Within M buf (.tag asn1OctetString 0) enc.q signer.stop

/-- So is what there is in a SignedData, that ends at `e`, behind the digest algorithms. The ContentInfo is not empty. -/
def ContentNested (p e : Nat) (ids : List MdType) (chainMemory : Bool) (rootCA : List Crt) : Prop :=
  Within M buf (.tag asn1Sequence 0) p e ∧
  ∀ info, getTag M buf p buf.length asn1Sequence = .ok info →
  0 < info.len ∧
  ∀ ct, getTag M buf info.q (info.q + info.len) asn1Oid = .ok ct → slice buf ct.q ct.len = oidPkcs7Data → chainMemory = true →
  Within M buf (.tag asn1Context 0) (ct.q + ct.len) e ∧
  ∀ t, getTag M buf (ct.q + ct.len) buf.length asn1Context = .ok t →
  StepsInside M buf t.q t.len 0 ∧
  ∀ certs, pkcs7GetChainCerts M buf t.q t.len 0 [] = .ok certs →
    M.x509CrtVerify (reverseChain [] (if certs = [] then [.zero] else certs)) rootCA = 0 →
  Within M buf (.tag asn1Set t.len) (t.q + t.len) e ∧
  ((signerInfosTag M buf (t.q + t.len) t.len).1 + (signerInfosTag M buf (t.q + t.len) t.len).2 = buf.length →
    SignerNested M buf (signerInfosTag M buf (t.q + t.len) t.len).1 ids)

/-- And what there is in a ContentInfo, and in the SignedData. -/
def SignedDataNested (memory : Nat → Bool) (chainMemory : Bool) (rootCA : List Crt) : Prop :=
  ∀ contentInfo, getTag M buf 0 buf.length asn1Sequence = .ok contentInfo →
  Within M buf (.tag asn1Oid 0) contentInfo.q contentInfo.stop ∧
  ∀ oid, getTag M buf contentInfo.q buf.length asn1Oid = .ok oid → slice buf oid.q oid.len = oidPkcs7SignedData →
  Within M buf (.tag asn1Context 0) (oid.q + oid.len) contentInfo.stop ∧
  ∀ content, getTag M buf (oid.q + oid.len) buf.length asn1Context = .ok content → content.q + content.len = buf.length →
  ∀ signedData, getTag M buf content.q buf.length asn1Sequence = .ok signedData →
  Within M buf .int signedData.q signedData.stop ∧
  ∀ ver, expect (M.asn1GetInt buf signedData.q buf.length) = .ok ver → ver.value = 1 →
  Within M buf (.tag asn1Set 0) ver.q signedData.stop ∧
  ∀ set, getTag M buf ver.q buf.length asn1Set = .ok set →
  ∀ ids, expect (pkcs7GetDigestAlgorithmIdentifiers M buf memory set.q (set.q + set.len) []).toOption = .ok ids → ids.2.length = 1 →
  ContentNested M buf ids.1 signedData.stop ids.2 chainMemory rootCA

instance (p endSeq : Nat) : Decidable (ValueNested M buf p endSeq) := by
  delta ValueNested
  infer_instance

instance (call : LibraryCall) (p e : Nat) : Decidable (Within M buf call p e) := by
  delta Within
  infer_instance

instance (p buflen i : Nat) : Decidable (StepsInside M buf p buflen i) := by
  delta StepsInside
  infer_instance

def AttributesNested.decidable (p last : Nat) (inside : last ≤ buf.length) (s : AttributeLoop buf.length) :
    Decidable (AttributesNested M buf p last inside s) :=
  have following (t : Found p last) (next : Read t.q (t.q + t.len) (AttributeLoop buf.length)) :
      Decidable (AttributesNested M buf next.q last inside next.value) := AttributesNested.decidable next.q last inside next.value
  decidable_of_iff (p ≠ last → ∀ t, getTag M buf p last asn1Sequence = .ok t →
    ValueNested M buf t.q (t.q + t.len) ∧
    ∀ next, pkcs7GetAttribute M buf t.q (t.q + t.len) (Nat.le_trans t.inside inside) s = .ok next →
      AttributesNested M buf next.q last inside next.value) (by rw [AttributesNested])
termination_by last - p
decreasing_by
  have after := t.after
  have within := t.inside
  have after' := next.after
  have within' := next.inside
  omega

instance (p last : Nat) (inside : last ≤ buf.length) (s : AttributeLoop buf.length) : Decidable (AttributesNested M buf p last inside s) :=
  AttributesNested.decidable M buf p last inside s

instance (p : Nat) (ids : List MdType) : Decidable (SignerNested M buf p ids) := by
  delta SignerNested
  infer_instance

instance (p e : Nat) (ids : List MdType) (chainMemory : Bool) (rootCA : List Crt) :
    Decidable (ContentNested M buf p e ids chainMemory rootCA) := by
  delta ContentNested
  infer_instance

instance (memory : Nat → Bool) (chainMemory : Bool) (rootCA : List Crt) : Decidable (SignedDataNested M buf memory chainMemory rootCA) := by
  delta SignedDataNested
  infer_instance

end

/-- The cursor that a failing `mbedtls_asn1_get_tag` leaves is not behind the end. -/
def FailsInside (M : Mbedtls) : Prop :=
  ∀ {buf p last tag len q n}, p ≤ last → M.asn1GetTag buf p last tag len = .failed q n → q ≤ last

variable {M : Mbedtls} {buf : List UInt8} {p last limit : Nat} {call : LibraryCall}

abbrev Stays {α : Type} (M : Mbedtls) (buf : List UInt8) (x : Extent → Traced ArtikError Touch α) : Prop :=
  Always (Extent.Allowed M buf) Touch.Inside x

theorem mayRead_allowed : Extent.Allowed M buf (mayRead M buf) := fun _ _ _ => Nat.le_refl _

theorem mayRead_le (call : LibraryCall) (p last : Nat) : mayRead M buf call p last ≤ last := by
  have read {α : Type} (r : Option (Read p last α)) : r.elim last (·.q) ≤ last := by
    cases r with
    | none => exact Nat.le_refl _
    | some r => exact r.inside
  cases call with
  | tag tag len =>
    rw [mayRead]
    split
    · rename_i t _
      exact t.inside
    · exact Nat.le_refl _
  | certificate => exact Nat.le_refl _
  | int => exact read _
  | alg => exact read _
  | name => exact read _
  | serial => exact read _
  | time => exact read _

theorem mayRead_tag {tag : UInt8} {t : Found p last} (found : getTag M buf p last tag = .ok t) :
    mayRead M buf (.tag tag 0) p last = t.stop := by
  have same : M.asn1GetTag buf p last tag 0 = .found t := by
    rw [getTag] at found
    split at found
    · rename_i same
      cases found
      exact same
    · cases found
  rw [mayRead, same]

theorem called_stays {α : Type} {r : Except ArtikError α} {cursor : α → Nat} (reads : ∀ a, r = .ok a → cursor a ≤ mayRead M buf call p last) :
    Stays M buf (fun reach => called reach call p last limit r cursor) ↔ mayRead M buf call p last ≤ limit := by
  constructor
  · intro stays
    have first := all_touch.1 (all_bind.1 (stays _ mayRead_allowed)).1
    exact first
  · intro within reach allowed
    refine all_bind.2 ⟨all_touch.2 (Nat.le_trans (allowed _ _ _) within), fun _ _ => ?_⟩
    refine all_bind.2 ⟨all_quiet _, fun a got => ?_⟩
    exact all_bind.2 ⟨all_touch.2 (Nat.le_trans (reads a got) within), fun _ _ => all_pure _⟩

/-! ## One step -/

section

variable {α β : Type} {g : Extent → α → Traced ArtikError Touch β} {h : Extent → Traced ArtikError Touch β}

theorem call_stays {r : Except ArtikError α} {cursor : α → Nat} (reads : ∀ a, r = .ok a → cursor a ≤ mayRead M buf call p last) :
    Stays M buf (fun reach => called reach call p last limit r cursor >>= g reach) ↔
      mayRead M buf call p last ≤ limit ∧ ∀ a, r = .ok a → Stays M buf fun reach => g reach a :=
  (always_bind fun _ => called_result).trans (and_congr_left' (called_stays reads))

theorem quiet_stays {r : Except ArtikError α} :
    Stays M buf (fun reach => quiet r >>= g reach) ↔ ∀ a, r = .ok a → Stays M buf fun reach => g reach a :=
  (always_bind fun _ => quiet_result r).trans (and_iff_right (always_quiet r))

theorem require_stays {c : Prop} [Decidable c] :
    Stays M buf (fun reach => quiet (require (decide c)) >>= fun _ => h reach) ↔ (c → Stays M buf h) := by
  refine quiet_stays.trans ?_
  by_cases holds : c
  · rw [decide_eq_true holds]
    exact ⟨fun all _ => all () rfl, fun stays _ _ => stays holds⟩
  · rw [decide_eq_false holds]
    exact ⟨fun _ holds' => absurd holds' holds, fun _ _ failed => by cases failed⟩

theorem touch_stays {t : Touch} : Stays M buf (fun reach => touch t >>= fun _ => h reach) ↔ t.Inside ∧ Stays M buf h := by
  refine (always_bind fun _ => touch_result t).trans ?_
  rw [always_touch mayRead_allowed]
  exact and_congr_right fun _ => ⟨fun all => all () rfl, fun stays _ _ => stays⟩

theorem reach_stays : Stays M buf (fun reach => touch ⟨reach call p last, limit⟩ >>= fun _ => h reach) ↔
    mayRead M buf call p last ≤ limit ∧ Stays M buf h := by
  refine (always_bind fun _ => touch_result _).trans (and_congr ?_ ⟨fun all => all () rfl, fun stays _ _ => stays⟩)
  constructor
  · intro all
    have most := all_touch.1 (all _ mayRead_allowed)
    exact most
  · exact fun within reach allowed => all_touch.2 (Nat.le_trans (allowed _ _ _) within)

theorem return_stays (a : α) : Stays M buf fun _ => (return a) := always_pure a

end

theorem expect_reads {α : Type} {f : Option (Read p last α)} (r : Read p last α) (got : expect f = .ok r) : r.q ≤ f.elim last (·.q) := by
  rw [expect_ok got]
  exact Nat.le_refl _

section

variable {β : Type}

theorem tag_stays {tag : UInt8} {g : Extent → Found p last → Traced ArtikError Touch β} :
    Stays M buf (fun reach => scanTag M buf reach p last limit tag >>= g reach) ↔
      mayRead M buf (.tag tag 0) p last ≤ limit ∧ ∀ t, getTag M buf p last tag = .ok t → Stays M buf fun reach => g reach t :=
  call_stays fun t found => by
    rw [mayRead_tag found]
    exact Nat.le_add_right _ _

theorem int_stays {g : Extent → Read p last Int → Traced ArtikError Touch β} :
    Stays M buf (fun reach => scanInt M buf reach p last limit >>= g reach) ↔
      mayRead M buf .int p last ≤ limit ∧ ∀ r, expect (M.asn1GetInt buf p last) = .ok r → Stays M buf fun reach => g reach r :=
  call_stays expect_reads

theorem hashAlg_stays {g : Extent → Read p last MdType → Traced ArtikError Touch β} :
    Stays M buf (fun reach => scanHashAlg M buf reach p last limit >>= g reach) ↔
      mayRead M buf .alg p last ≤ limit ∧ ∀ r, pkcs7GetHashAlg M buf p last = .ok r → Stays M buf fun reach => g reach r := by
  refine (always_bind fun _ => scanHashAlg_result).trans (and_congr_left' ?_)
  refine (call_stays expect_reads).trans (and_iff_left fun alg _ => ?_)
  exact quiet_stays.2 fun _ _ => quiet_stays.2 fun _ _ => return_stays _

theorem encryptionAlg_stays {g : Extent → Read p last PkType → Traced ArtikError Touch β} :
    Stays M buf (fun reach => scanEncryptionAlg M buf reach p last limit >>= g reach) ↔
      mayRead M buf .alg p last ≤ limit ∧ ∀ r, pkcs7GetEncryptionAlg M buf p last = .ok r → Stays M buf fun reach => g reach r := by
  refine (always_bind fun _ => scanEncryptionAlg_result).trans (and_congr_left' ?_)
  refine (call_stays expect_reads).trans (and_iff_left fun alg _ => ?_)
  exact quiet_stays.2 fun _ _ => quiet_stays.2 fun _ _ => return_stays _

end

/-! ## The loops -/

theorem digestAlgorithms_stay {memory : Nat → Bool} {ids : List MdType} :
    Stays M buf fun reach => scanDigestAlgorithmIdentifiers M buf reach memory p last ids := by
  fun_induction pkcs7GetDigestAlgorithmIdentifiers M buf memory p last ids with
  | case1 ids =>
    unfold scanDigestAlgorithmIdentifiers
    simp only [if_true]
    exact return_stays _
  | case2 p ids more starved =>
    unfold scanDigestAlgorithmIdentifiers
    simp only [if_neg more, if_pos starved]
    exact always_quiet _
  | case3 p ids more granted e failed =>
    unfold scanDigestAlgorithmIdentifiers
    simp only [if_neg more, if_neg granted]
    refine hashAlg_stays.2 ⟨mayRead_le _ _ _, fun alg found => ?_⟩
    rw [failed] at found
    cases found
  | case4 p ids more granted alg found ih =>
    unfold scanDigestAlgorithmIdentifiers
    simp only [if_neg more, if_neg granted]
    refine hashAlg_stays.2 ⟨mayRead_le _ _ _, fun alg' found' => ?_⟩
    rw [found] at found'
    cases found'
    exact ih

theorem chainCerts_stay {buflen i : Nat} {chain : List Crt} :
    (Stays M buf fun reach => scanChainCerts M buf reach p buflen i chain) ↔ StepsInside M buf p buflen i := by
  fun_induction pkcs7GetChainCerts M buf p buflen i chain with
  | case1 i chain inside failed =>
    have calls : chainCalls M buf p buflen i = [i] := by rw [chainCalls, if_pos inside, failed]
    unfold scanChainCerts
    simp only [if_pos inside]
    rw [StepsInside, calls, List.forall_mem_singleton, failed]
    refine iff_of_true (reach_stays.2 ⟨mayRead_le _ _ _, quiet_stays.2 fun crt found => ?_⟩) fun some => by cases some
    cases found
  | case2 i chain inside crt found ih =>
    have calls : chainCalls M buf p buflen i = i :: chainCalls M buf p buflen (i + sizeAt buf (p + i)) := by
      rw [chainCalls, if_pos inside, found]
    unfold scanChainCerts
    simp only [if_pos inside]
    rw [StepsInside, calls, List.forall_mem_cons, found]
    refine reach_stays.trans ((and_iff_right (mayRead_le _ _ _)).trans ?_)
    refine quiet_stays.trans ?_
    simp only [expect, Except.ok.injEq, forall_eq', touch_stays, Touch.Inside, Option.isSome_some, forall_const, ← and_assoc]
    refine and_congr ?_ ih
    have least : 4 ≤ sizeAt buf (p + i) := Nat.le_add_left _ _
    omega
  | case3 i chain outside =>
    unfold scanChainCerts
    simp only [if_neg outside]
    refine iff_of_true (return_stays _) ?_
    rw [StepsInside, chainCalls_end outside]
    exact List.forall_mem_nil _

/-! ## Attributes -/

theorem attribute_stays {endSeq : Nat} {inside : endSeq ≤ buf.length} {s : AttributeLoop buf.length} :
    (Stays M buf fun reach => scanAttribute M buf reach p endSeq inside s) ↔ ValueNested M buf p endSeq := by
  unfold scanAttribute ValueNested
  rw [tag_stays]
  refine (and_iff_right (mayRead_le _ _ _)).trans (forall₂_congr fun oid found => ?_)
  rw [touch_stays]
  refine (and_iff_right oid.inside).trans ?_
  have apart : oidPkcs9ContentType ≠ oidPkcs9MessageDigest ∧ oidPkcs9SigningTime ≠ oidPkcs9MessageDigest := by decide
  by_cases isContentType : slice buf oid.q oid.len = oidPkcs9ContentType
  · simp only [if_pos isContentType]
    rw [tag_stays]
    refine (and_iff_right (mayRead_le _ _ _)).trans (forall₂_congr fun set _ => ?_)
    rw [tag_stays, isContentType]
    constructor
    · exact fun stays => ⟨fun _ => stays.1, fun isDigest => absurd isDigest apart.1⟩
    · intro nested
      have within := nested.1 rfl
      refine ⟨within, fun content found => ?_⟩
      rw [mayRead_tag found] at within
      exact touch_stays.2 ⟨within, quiet_stays.2 fun _ _ => return_stays _⟩
  simp only [if_neg isContentType]
  by_cases isSigningTime : slice buf oid.q oid.len = oidPkcs9SigningTime
  · simp only [if_pos isSigningTime]
    rw [tag_stays]
    refine (and_iff_right (mayRead_le _ _ _)).trans (forall₂_congr fun set _ => ?_)
    rw [isSigningTime]
    refine iff_of_true ?_ ⟨fun isContentType' => ?_, fun isDigest => absurd isDigest apart.2⟩
    · exact (call_stays expect_reads).2 ⟨mayRead_le _ _ _, fun _ _ => return_stays _⟩
    · exact absurd (isSigningTime.trans isContentType') isContentType
  simp only [if_neg isSigningTime]
  by_cases isDigest : slice buf oid.q oid.len = oidPkcs9MessageDigest
  · simp only [if_pos isDigest]
    rw [tag_stays]
    refine (and_iff_right (mayRead_le _ _ _)).trans (forall₂_congr fun set _ => ?_)
    rw [tag_stays]
    constructor
    · exact fun stays => ⟨fun isContentType' => absurd isContentType' isContentType, fun _ => stays.1⟩
    · intro nested
      have within := nested.2 isDigest
      refine ⟨within, fun digest found => ?_⟩
      rw [mayRead_tag found] at within
      exact touch_stays.2 ⟨within, return_stays _⟩
  · simp only [if_neg isDigest]
    refine iff_of_true (always_quiet _) fun set _ => ?_
    exact ⟨fun isContentType' => absurd isContentType' isContentType, fun isDigest' => absurd isDigest' isDigest⟩

theorem attributes_stay {inside : last ≤ buf.length} {s : AttributeLoop buf.length} :
    (Stays M buf fun reach => scanAuthenticatedAttributes M buf reach p last inside s) ↔ AttributesNested M buf p last inside s := by
  fun_induction AttributesNested M buf p last inside s with
  | case1 p s ih =>
    unfold scanAuthenticatedAttributes
    by_cases ended : p = last
    · simp only [if_pos ended]
      exact iff_of_true (always_quiet _) fun more => absurd ended more
    · simp only [if_neg ended]
      rw [tag_stays]
      refine (and_iff_right (mayRead_le _ _ _)).trans ?_
      simp only [ne_eq, ended, not_false_eq_true, forall_true_left]
      refine forall₂_congr fun t found => ?_
      refine (always_bind fun _ => scanAttribute_result).trans (and_congr attribute_stays ?_)
      exact forall₂_congr fun next _ => ih t next

/-! ## The SignerInfo -/

theorem signerInfo_stays {ids : List MdType} (far : buf.length ≤ limit) :
    (Stays M buf fun reach => scanSignerInfo M buf reach p limit ids) ↔ SignerNested M buf p ids := by
  unfold scanSignerInfo SignerNested
  rw [tag_stays]
  refine (and_iff_right (Nat.le_trans (mayRead_le _ _ _) far)).trans (forall₂_congr fun signer _ => ?_)
  rw [int_stays]
  refine and_congr_right fun _ => forall₂_congr fun ver _ => ?_
  rw [require_stays]
  refine forall_congr' fun _ => ?_
  rw [tag_stays]
  refine and_congr_right fun _ => forall₂_congr fun issuerAndSerial _ => ?_
  rw [tag_stays]
  refine and_congr_right fun _ => forall₂_congr fun rdn _ => ?_
  rw [call_stays expect_reads]
  refine (and_iff_right (mayRead_le _ _ _)).trans (forall₂_congr fun issuer _ => ?_)
  rw [call_stays expect_reads]
  refine and_congr_right fun _ => forall₂_congr fun serial _ => ?_
  rw [hashAlg_stays]
  refine and_congr_right fun _ => forall₂_congr fun alg _ => ?_
  rw [require_stays]
  refine forall_congr' fun _ => ?_
  rw [tag_stays]
  refine and_congr_right fun _ => forall₂_congr fun t _ => ?_
  refine (always_bind fun _ => scanAuthenticatedAttributes_result).trans (and_congr attributes_stay ?_)
  refine forall₂_congr fun attributes _ => ?_
  refine encryptionAlg_stays.trans (and_congr_right fun _ => forall₂_congr fun enc _ => ?_)
  rw [require_stays]
  refine forall_congr' fun _ => ?_
  rw [tag_stays]
  refine and_iff_left_of_imp fun within digest found => ?_
  rw [mayRead_tag found] at within
  exact touch_stays.2 ⟨within, return_stays _⟩


/-! ## The bundle -/

theorem check_stays {β : Type} {h : Extent → Traced ArtikError Touch β} {e : ArtikError} {c : Bool} :
    Stays M buf (fun reach => quiet (check e c) >>= fun _ => h reach) ↔ (c = true → Stays M buf h) := by
  refine quiet_stays.trans ?_
  cases c with
  | true => exact ⟨fun all _ => all () rfl, fun stays _ _ => stays rfl⟩
  | false => exact ⟨fun _ holds => absurd holds Bool.false_ne_true, fun _ _ failed => by cases failed⟩

/-- Where the SignerInfo is looked for, and that the element around it ends with the buffer. -/
theorem signers_inside (fails : FailsInside M) {len : Nat} (begins : p ≤ buf.length) (within : Within M buf (.tag asn1Set len) p limit) :
    (signerInfosTag M buf p len).1 ≤ limit ∧
      ((signerInfosTag M buf p len).1 + (signerInfosTag M buf p len).2 = buf.length → buf.length ≤ signersEnd M buf p len limit) := by
  rw [Within, mayRead] at within
  rw [signerInfosTag, signersEnd]
  cases answer : M.asn1GetTag buf p buf.length asn1Set len with
  | found t =>
    rw [answer] at within
    exact ⟨Nat.le_trans (Nat.le_add_right _ _) within, fun ends => Nat.le_of_eq ends.symm⟩
  | failed q n =>
    rw [answer] at within
    exact ⟨Nat.le_trans (fails begins answer) within, fun _ => within⟩

theorem staysInside_iff (fails : FailsInside M) (memory : Nat → Bool) (chainMemory : Bool) (rootCA : List Crt) :
    StaysInside M buf memory chainMemory rootCA ↔ SignedDataNested M buf memory chainMemory rootCA := by
  unfold StaysInside scanSignedData SignedDataNested
  refine tag_stays.trans ((and_iff_right (mayRead_le _ _ _)).trans (forall₂_congr fun contentInfo _ => ?_))
  refine tag_stays.trans (and_congr_right fun within => forall₂_congr fun oid found => ?_)
  rw [mayRead_tag found] at within
  refine touch_stays.trans ((and_iff_right within).trans ?_)
  refine require_stays.trans (forall_congr' fun _ => ?_)
  refine tag_stays.trans (and_congr_right fun _ => forall₂_congr fun content _ => ?_)
  refine require_stays.trans (forall_congr' fun ends => ?_)
  refine tag_stays.trans ((and_iff_right ((mayRead_le _ _ _).trans (Nat.le_of_eq ends.symm))).trans (forall₂_congr fun signedData _ => ?_))
  refine int_stays.trans (and_congr_right fun _ => forall₂_congr fun ver _ => ?_)
  refine require_stays.trans (forall_congr' fun _ => ?_)
  refine tag_stays.trans (and_congr_right fun _ => forall₂_congr fun set _ => ?_)
  refine (always_bind fun _ => congrArg (fun r => expect r.toOption) scanDigestAlgorithmIdentifiers_result).trans ?_
  refine (and_iff_right fun reach allowed => digestAlgorithms_stay reach allowed).trans (forall₂_congr fun ids _ => ?_)
  refine require_stays.trans (forall_congr' fun _ => ?_)
  rw [ContentNested]
  refine tag_stays.trans (and_congr_right fun _ => forall₂_congr fun info _ => ?_)
  refine touch_stays.trans (and_congr ?_ ?_)
  · show info.q + 1 ≤ info.q + info.len ↔ _
    omega
  refine tag_stays.trans ((and_iff_right (mayRead_le _ _ _)).trans (forall₂_congr fun ct _ => ?_))
  refine touch_stays.trans ((and_iff_right ct.inside).trans ?_)
  refine require_stays.trans (forall_congr' fun _ => ?_)
  refine check_stays.trans (forall_congr' fun _ => ?_)
  refine tag_stays.trans (and_congr_right fun within => forall₂_congr fun t found => ?_)
  rw [mayRead_tag found] at within
  refine (always_bind fun _ => scanChainCerts_result).trans (and_congr chainCerts_stay (forall₂_congr fun certs _ => ?_))
  refine touch_stays.trans ((and_iff_right within).trans ?_)
  refine check_stays.trans ?_
  rw [decide_eq_true_iff]
  refine forall_congr' fun _ => ?_
  refine reach_stays.trans (and_congr_right fun within => ?_)
  obtain ⟨cursor, far⟩ := signers_inside fails t.inside within
  refine touch_stays.trans ((and_iff_right cursor).trans ?_)
  refine require_stays.trans (forall_congr' fun ends => ?_)
  refine (always_bind fun _ => scanSignerInfo_result).trans ?_
  exact (and_iff_left fun _ _ => return_stays _).trans (signerInfo_stays (far ends))

/-! ## Two bundles -/

theorem itemLibrary_failsInside : FailsInside itemLibrary := by
  intro buf p last tag len q n begins failed
  change elementTag buf p last tag len = .failed q n at failed
  rw [elementTag] at failed
  split at failed
  · cases failed
    exact begins
  · split at failed
    · cases failed
    · cases failed
      exact begins

theorem otherSerial_inside : StaysInside itemLibrary otherSerial (fun _ => true) true [otherSerialCrt] :=
  (staysInside_iff itemLibrary_failsInside (fun _ => true) true [otherSerialCrt]).2 (by decide +kernel)

/-- Its inner ContentInfo is empty, and ends where the buffer does. -/
def emptyContentInfo : List UInt8 :=
  [0x30, 0x25, 0x06, 0x09, 0x2a, 0x86, 0x48, 0x86, 0xf7, 0x0d, 0x01, 0x07, 0x02, 0xa0, 0x18, 0x30,
    0x16, 0x02, 0x01, 0x01, 0x31, 0x0f, 0x30, 0x0d, 0x06, 0x09, 0x60, 0x86, 0x48, 0x01, 0x65, 0x03,
    0x04, 0x02, 0x01, 0x05, 0x00, 0x30, 0x00]

/-- The byte behind the buffer is read. -/
theorem emptyContentInfo_not_inside : ¬ StaysInside itemLibrary emptyContentInfo (fun _ => true) true [otherSerialCrt] := by
  intro inside
  have behind : ((scanSignedData itemLibrary emptyContentInfo (mayRead itemLibrary emptyContentInfo) (fun _ => true) true
      [otherSerialCrt]).touches.any fun t => t.limit = emptyContentInfo.length && emptyContentInfo.length < t.upTo) = true := by decide +kernel
  obtain ⟨t, touched, test⟩ := List.any_eq_true.1 behind
  rw [Bool.and_eq_true, decide_eq_true_iff, decide_eq_true_iff] at test
  have within : t.upTo ≤ t.limit := inside _ mayRead_allowed t touched
  omega

end ArtikSdk.Security
