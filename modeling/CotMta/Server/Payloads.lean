/-
  The payloads that `decode_ot_encrypted` accepts.

  The fields of the message are singular and proto3 keeps no presence, so a field
  that was not sent and one that was sent empty are both zeros.
-/
import CotMta.Nanopb.Records
import CotMta.Server.Codec

namespace CotMta.Server.ProtoCodec

open Nanopb

theorem isField_encrypted_m0 : IsField otEncryptedFields 1 32 (·.encrypted_m0)
    fun m v => { m with encrypted_m0 := v } where
  find := rfl
  get_set _ _ := rfl
  get_other := by simp [otEncryptedFields]

theorem isField_encrypted_m1 : IsField otEncryptedFields 2 32 (·.encrypted_m1)
    fun m v => { m with encrypted_m1 := v } where
  find := rfl
  get_set _ _ := rfl
  get_other := by simp [otEncryptedFields]

theorem isField_nonce : IsField otEncryptedFields 3 12 (·.nonce)
    fun m v => { m with nonce := v } where
  find := rfl
  get_set _ _ := rfl
  get_other := by simp [otEncryptedFields]

/-- **What the server takes for a ciphertext**: a string of records `rs`, each
    field with the payload of its last record, and zeros if that is empty or there
    is none.  The empty string is the ciphertext of zeros. -/
theorem decodeOtEncrypted_records :
    decodeOtEncrypted [] = some ⟨zeros 32, zeros 32, zeros 12⟩ ∧
      ∀ (bytes : List UInt8) (out : OTEncryptedPayload), decodeOtEncrypted bytes = some out →
        ∃ rs, (∀ rs', Records bytes rs' ↔ rs' = rs) ∧ LeftBy rs 1 out.encrypted_m0 ∧
          LeftBy rs 2 out.encrypted_m1 ∧ LeftBy rs 3 out.nonce := by
  refine ⟨pbDecode_nil, fun bytes out h => ?_⟩
  obtain ⟨rs, hrs, hfold⟩ := pbDecode_records h
  exact ⟨rs, fun _ => hrs.iff_eq, leftBy_of_zero isField_encrypted_m0 rfl hfold,
    leftBy_of_zero isField_encrypted_m1 rfl hfold, leftBy_of_zero isField_nonce rfl hfold⟩

/-- A payload as the client sends it. -/
theorem decodeOtEncrypted_records_sent :
    ∃ rs, (∀ rs', Records (bytesField 1 (Bytes.ofNat 32 1).toList ++
        bytesField 2 (Bytes.ofNat 32 2).toList ++ bytesField 3 (Bytes.ofNat 12 3).toList) rs' ↔
          rs' = rs) ∧
      LeftBy rs 1 (Bytes.ofNat 32 1) ∧ LeftBy rs 2 (Bytes.ofNat 32 2) ∧
      LeftBy rs 3 (Bytes.ofNat 12 3) :=
  decodeOtEncrypted_records.2 _ _
    (decodeOtEncrypted_eq ⟨Bytes.ofNat 32 1, Bytes.ofNat 32 2, Bytes.ofNat 12 3⟩)

/-- The value is in the last of the records of a tag that have its length. -/
def Sent (rs : List Record) (tag : ℕ) {size : ℕ} (value : Bytes size) : Prop :=
  (rs.filter fun r => r.tag = tag ∧ r.payload.bytes.length = size).getLast? =
    some ⟨tag, .len value.toList⟩

/-- Nothing was sent in the empty string. -/
theorem decodeOtEncrypted_not_sent :
    ¬∀ (bytes : List UInt8) (out : OTEncryptedPayload), decodeOtEncrypted bytes = some out →
      ∃ rs, Records bytes rs ∧ Sent rs 1 out.encrypted_m0 ∧ Sent rs 2 out.encrypted_m1 ∧
        Sent rs 3 out.nonce := by
  intro h
  obtain ⟨rs, hrs, hsent, -⟩ := h [] ⟨zeros 32, zeros 32, zeros 12⟩ pbDecode_nil
  rw [records_nil.1 hrs] at hsent
  cases hsent

end CotMta.Server.ProtoCodec
