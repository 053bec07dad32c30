/-
  Which compressed points the two programs accept.

  Both take the power `(p + 1) / 4` and compare its square.  The server checks
  the announced abscissa against `p` as well (`ecdsa_validate_pubkey`), the
  client does not.
-/
import CotMta.Client.Curve
import CotMta.Server.Curve

namespace CotMta.Session

open Trezor Bignum256 Secp256k1 Client.CryptoOps Server.CryptoOps

variable {bytes : Bytes 33} {behind : ℕ → UInt8}

/-- The affine point that a decoder should give for a string. -/
structure IsDecoded (bytes : Bytes 33) (x y : ℕ) : Prop where
  x_lt : x < p
  y_lt : y < p
  equation : y ^ 2 ≡ x ^ 3 + 7 [MOD p]
  parity : y % 2 = 1 ↔ bytes.toList.head? = some 0x03

/-- Client and server accept the string or reject it, and give the same point. -/
def SameDecoding (bytes : Bytes 33) (behind : ℕ → UInt8) : Prop :=
  ((∃ point, decodeCompressedPoint bytes.toList = .ok point) ↔
    ∃ cp, decodePoint ⟨bytes, behind⟩ = some cp) ∧
  ∀ point cp, decodeCompressedPoint bytes.toList = .ok point →
    decodePoint ⟨bytes, behind⟩ = some cp →
      ∃ x y, IsDecoded bytes x y ∧ point = ⟨false, x, y⟩ ∧ cp = ⟨ofNat x, ofNat y⟩

theorem server_accepts_iff (hpre : HasPrefix bytes) :
    (∃ cp, decodePoint ⟨bytes, behind⟩ = some cp) ↔
      abscissa bytes < p ∧ IsSquare ((abscissa bytes : Fp) ^ 3 + 7) := by
  constructor
  · rintro ⟨cp, hcp⟩
    obtain ⟨P, hP, -⟩ := (decodePoint_eq_some hpre).1 hcp
    exact (exists_compressed_iff.1 ⟨P, hP⟩).2
  · intro h
    obtain ⟨P, hP⟩ := exists_compressed_iff.2 ⟨hpre, h⟩
    exact ⟨_, decodePoint_eq hP behind⟩

theorem client_accepts_iff (hpre : HasPrefix bytes) :
    (∃ point, decodeCompressedPoint bytes.toList = .ok point) ↔
      IsSquare ((abscissa bytes : Fp) ^ 3 + 7) := by
  constructor
  · rintro ⟨point, hpoint⟩
    obtain ⟨y, -, heq, -⟩ := decodeCompressedPoint_eq_ok.1 hpoint
    exact ⟨y, by rw [← heq, pow_two]⟩
  · intro h
    obtain ⟨y, hy, heq, hbytes⟩ := exists_ordinate hpre h
    exact ⟨_, decodeCompressedPoint_eq_ok.2 ⟨y, hy, heq, hbytes, rfl⟩⟩

theorem isDecoded_compressedBytes {P : E.Point} {x y : ℕ} (h : AtNat P x y) :
    IsDecoded (compressedBytes x y) x y where
  x_lt := h.x_lt
  y_lt := h.y_lt
  equation := by
    rw [← ZMod.natCast_eq_natCast_iff]
    push_cast
    exact h.isAt.equation
  parity := by
    simp only [compressedBytes, List.head?_cons, Option.some.injEq]
    split <;> simp_all

/-- Where both accept they give the same point. -/
theorem same_point {point : Client.CryptoOps.AffinePoint} {cp : CurvePoint}
    (hpre : HasPrefix bytes) (hpoint : decodeCompressedPoint bytes.toList = .ok point)
    (hcp : decodePoint ⟨bytes, behind⟩ = some cp) :
    ∃ x y, IsDecoded bytes x y ∧ point = ⟨false, x, y⟩ ∧ cp = ⟨ofNat x, ofNat y⟩ := by
  obtain ⟨P, hP, rfl⟩ := (decodePoint_eq_some hpre).1 hcp
  obtain ⟨x, y, hat, rfl⟩ := exists_of_compressed hP
  obtain ⟨point', hpoint', hrep, -⟩ := decodeCompressedPoint_rep hP
  cases hpoint.symm.trans hpoint'
  cases hrep with
  | infinity => exact absurd rfl hat.ne_zero
  | affine hat' =>
    obtain ⟨rfl, rfl⟩ := hat.unique hat'
    exact ⟨x, y, isDecoded_compressedBytes hat, rfl, ofPoint_of_atNat hat⟩

/-- **The two decoders agree exactly on the strings whose abscissa is reduced or
    belongs to no point.** -/
theorem sameDecoding_iff (hpre : HasPrefix bytes) : SameDecoding bytes behind ↔
    abscissa bytes < p ∨ ¬IsSquare ((abscissa bytes : Fp) ^ 3 + 7) := by
  rw [SameDecoding, client_accepts_iff hpre, server_accepts_iff hpre]
  constructor
  · rintro ⟨h, -⟩
    rw [or_iff_not_imp_right, not_not]
    exact fun hsq => (h.1 hsq).1
  · intro h
    refine ⟨⟨fun hsq => ⟨h.resolve_right (not_not.2 hsq), hsq⟩, And.right⟩, ?_⟩
    intro point cp hpoint hcp
    exact same_point hpre hpoint hcp

theorem sameDecoding_G : SameDecoding (compressedBytes Gx Gy) fun _ => 0 := by
  refine (sameDecoding_iff hasPrefix_compressedBytes).2 (Or.inl ?_)
  rw [abscissa_compressedBytes (by norm_num [Gx])]
  norm_num [Gx, p]

/-- An ordinate at the abscissa one. -/
def ordinateOne : ℕ := 0x4218f20ae6c646b363db68605822fb14264ca8d2587fdd6fbc750d587e76a7ee

/-- The abscissa `p + 1` stands for the point with the abscissa one. -/
theorem decodings_differ :
    (∃ point, decodeCompressedPoint (compressedBytes (p + 1) 0).toList = .ok point) ∧
      (∀ behind, decodePoint ⟨compressedBytes (p + 1) 0, behind⟩ = none) ∧
      ¬SameDecoding (compressedBytes (p + 1) 0) fun _ => 0 := by
  have habs : abscissa (compressedBytes (p + 1) 0) = p + 1 :=
    abscissa_compressedBytes (by norm_num [p])
  have hsq : IsSquare ((abscissa (compressedBytes (p + 1) 0) : Fp) ^ 3 + 7) := by
    have h : (((p + 1) ^ 3 + 7 : ℕ) : Fp) = ((ordinateOne * ordinateOne : ℕ) : Fp) :=
      (ZMod.natCast_eq_natCast_iff' _ _ _).2 (by decide +kernel)
    refine ⟨(ordinateOne : Fp), ?_⟩
    rw [habs]
    exact_mod_cast h
  have hserver : ∀ behind, ¬∃ cp, decodePoint ⟨compressedBytes (p + 1) 0, behind⟩ = some cp := by
    intro behind h
    rw [server_accepts_iff hasPrefix_compressedBytes, habs] at h
    exact absurd h.1 (by omega)
  have hclient := (client_accepts_iff hasPrefix_compressedBytes).2 hsq
  refine ⟨hclient, fun behind => ?_, fun h => hserver _ (h.1.1 hclient)⟩
  exact Option.eq_none_iff_forall_ne_some.2 fun cp hcp => hserver behind ⟨cp, hcp⟩

end CotMta.Session
