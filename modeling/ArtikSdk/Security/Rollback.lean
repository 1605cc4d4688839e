import ArtikSdk.Security.Calls
import ArtikSdk.Security.Linux.SigningTime

/-!
# The rollback check

`os_verify_signature_init` refuses a signature made before the time that the caller gives. The Linux code
asks whether the signing time compares as -1 with that time, the Tinyara code whether that time compares
as positive with the signing time.
-/

namespace ArtikSdk.Security
open ArtikSdk.Time (ArtikTime artikTimeCompareDates Orders compareDates_orders)

/-- What `linux_security.c` does with the signing time: `attr` is the attribute of the signer, and `wanted` whether
there is a `signing_time_out`, which is not the object of `signing_time_in`. -/
def Linux.checkSigningTime (attr : Option Linux.Asn1Type) (signingTimeIn : Option ArtikTime) (wanted : Bool) :
    ArtikError × Option ArtikTime :=
  if signingTimeIn.isSome || wanted then
    match attr with
    | none => (.securityInvalidPkcs7, none)
    | some attr =>
      match Linux.convertAsn1Time attr with
      | none => (.securityInvalidPkcs7, none)
      | some time =>
        let out := if wanted then some time else none
        if signingTimeIn.any fun earliest => artikTimeCompareDates time earliest = -1 then (.securitySigningTimeRollback, out)
        else (.ok, out)
  else (.ok, none)

/-- Both platforms refuse exactly the signatures that are earlier than the time given. -/
structure RollbackChecked : Prop where
  linux : ∀ attr signing rollback wanted, Linux.convertAsn1Time attr = some signing →
    ((Linux.checkSigningTime (some attr) (some rollback) wanted).1 = .securitySigningTimeRollback ↔ signing.Earlier rollback)
  tinyara : ∀ (M : Mbedtls) (w : World) (a b : Nat) (buf : List UInt8) (rootCA : List Crt) (s : State M) (rollback : ArtikTime)
    (sigData : SignedData buf.length), pkcs7GetSignedData M buf w.digestAlgoIds w.chain rootCA = .ok sigData →
    ((∃ time s', checkBundle w a b buf rootCA (some rollback) s = .ok (.securitySigningTimeRollback, time, s')) ↔
      (signingTime sigData).Earlier rollback)

variable {M : Mbedtls} {w : World}

theorem checkPkcs7Validity_other {n : Nat} (sigData : SignedData n) : checkPkcs7Validity M sigData ≠ .securitySigningTimeRollback := by
  unfold checkPkcs7Validity
  split_ifs <;> decide

theorem initializeMdContext_other {n : Nat} (sigData : SignedData n) :
    initializeMdContext M w sigData ≠ .error .securitySigningTimeRollback := by
  unfold initializeMdContext
  split_ifs <;> exact nofun

theorem copyNodeData_other {n b : Nat} (sigData : SignedData n) {s s' : State M} {p q r : Pointer} :
    copyNodeData w b sigData s ≠ .ok (.securitySigningTimeRollback, p, q, r, s') := by
  intro copied
  unfold copyNodeData at copied
  dsimp only at copied
  split at copied
  · obtain ⟨_, -, copied⟩ := Lib.bind_ok_iff.1 copied
    obtain ⟨_, -, copied⟩ := Lib.bind_ok_iff.1 copied
    obtain ⟨_, -, copied⟩ := Lib.bind_ok_iff.1 copied
    cases copied
  · obtain ⟨_, -, copied⟩ := Lib.bind_ok_iff.1 copied
    obtain ⟨_, -, copied⟩ := Lib.bind_ok_iff.1 copied
    obtain ⟨_, -, copied⟩ := Lib.bind_ok_iff.1 copied
    obtain ⟨_, -, copied⟩ := Lib.bind_ok_iff.1 copied
    cases copied

/-- Behind the rollback check nothing returns its error. -/
theorem fillNode_other {n a b : Nat} (sigData : SignedData n) {s s' : State M} :
    fillNode w a b sigData s ≠ .ok (.securitySigningTimeRollback, s') := by
  intro filled
  unfold fillNode at filled
  split at filled
  · exact checkPkcs7Validity_other sigData (congrArg Prod.fst (Except.ok.inj filled))
  · cases started : initializeMdContext M w sigData with
    | error e =>
      rw [started] at filled
      cases filled
      exact initializeMdContext_other sigData started
    | ok mdCtx =>
      rw [started] at filled
      dsimp only at filled
      split at filled
      · cases filled
      · rename_i copied
        cases filled
        exact copyNodeData_other sigData copied

theorem linux_rejects_iff {attr : Linux.Asn1Type} {signing : ArtikTime} (converted : Linux.convertAsn1Time attr = some signing)
    (rollback : ArtikTime) (wanted : Bool) :
    (Linux.checkSigningTime (some attr) (some rollback) wanted).1 = .securitySigningTimeRollback ↔ signing.Earlier rollback := by
  rw [Linux.checkSigningTime, if_pos (by simp)]
  dsimp only
  rw [converted]
  dsimp only
  have order := compareDates_orders.earlier signing rollback
  rw [Option.any_some]
  by_cases earlier : signing.fields < rollback.fields
  · rw [if_pos (decide_eq_true (order.2 earlier))]
    exact iff_of_true rfl earlier
  · rw [if_neg fun same => earlier (order.1 (of_decide_eq_true same))]
    exact iff_of_false nofun earlier

theorem tinyara_rejects_iff {a b : Nat} {buf : List UInt8} {rootCA : List Crt} {s : State M} {sigData : SignedData buf.length}
    (parsed : pkcs7GetSignedData M buf w.digestAlgoIds w.chain rootCA = .ok sigData) (rollback : ArtikTime) :
    (∃ time s', checkBundle w a b buf rootCA (some rollback) s = .ok (.securitySigningTimeRollback, time, s')) ↔
      (signingTime sigData).Earlier rollback := by
  rw [checkBundle, parsed]
  dsimp only
  by_cases early : (signingTime sigData).Earlier rollback
  · rw [if_pos ((rollback_iff ..).2 ⟨rollback, rfl, early⟩)]
    exact iff_of_true ⟨_, _, rfl⟩ early
  · have late : ¬ ((some rollback).any fun earliest => artikTimeCompareDates earliest (signingTime sigData) > 0) = true := by
      rw [rollback_iff]
      rintro ⟨earliest, same, earlier⟩
      rw [Option.mem_some_iff] at same
      exact early (same ▸ earlier)
    rw [if_neg late]
    refine iff_of_false ?_ early
    rintro ⟨time, s', checked⟩
    split at checked
    · cases checked
    · rename_i filled
      cases checked
      exact fillNode_other sigData filled

/-- **The rollback check.** -/
theorem rollback_checked : Orders artikTimeCompareDates ∧ RollbackChecked where
  left := compareDates_orders
  right :=
    { linux := fun _ _ rollback wanted converted => linux_rejects_iff converted rollback wanted
      tinyara := fun _ _ _ _ _ _ _ rollback _ parsed => tinyara_rejects_iff parsed rollback }

end ArtikSdk.Security
