/-
  Group operations for the server, computed by the affine formulas of the
  client: an instance of what is assumed of trezor's operations.
-/
import CotMta.Client.Curve
import CotMta.Trezor.EcdsaSpec

namespace CotMta.Session

open Trezor Bignum256 CurvePoint Limbs Secp256k1 Client Client.CryptoOps

/-- A point of trezor as one of the client. -/
def toAffine (cp : CurvePoint) : AffinePoint :=
  ⟨pointIsInfinity cp, value (2 ^ 30) cp.x.val, value (2 ^ 30) cp.y.val⟩

/-- A point of the client as one of trezor. -/
def ofAffine (point : AffinePoint) : CurvePoint :=
  if point.infinity then ⟨ofNat 0, ofNat 0⟩ else ⟨ofNat point.x.toNat, ofNat point.y.toNat⟩

/-- The point, or infinity for a call that throws. -/
def ofThrows : Throws AffinePoint → CurvePoint
  | .ok point => ofAffine point
  | .error _ => ⟨ofNat 0, ofNat 0⟩

/-- The operations of the server on the formulas of the client. -/
def affineOps : GroupOps where
  point_multiply k cp := ofThrows (scalarMultiply (value (2 ^ 30) k.val) (toAffine cp))
  scalar_multiply k := ofThrows (scalarMultiply (value (2 ^ 30) k.val) generator)
  point_add cp1 cp2 := ofThrows (addPoints (toAffine cp1) (toAffine cp2))

variable {P : E.Point} {point : AffinePoint}

theorem toAffine_rep : Rep (toAffine (ofPoint P)) P := by
  rw [toAffine, pointIsInfinity_ofPoint]
  rcases eq_or_ne P 0 with rfl | hP
  · exact .infinity
  · obtain ⟨x, y, hat⟩ := exists_atNat hP
    rw [decide_eq_false hP, ofPoint_of_atNat hat]
    simp only [ofNat, value_limbs_of_lt (hat.x_lt.trans p_lt_limbs),
      value_limbs_of_lt (hat.y_lt.trans p_lt_limbs)]
    exact .affine hat

theorem ofAffine_rep (h : Rep point P) : ofAffine point = ofPoint P := by
  cases h with
  | infinity => rfl
  | affine hat =>
    rw [ofPoint_of_atNat hat]
    rfl

theorem value_scalar {k : ℕ} (hk : k < n) : value (2 ^ 30) (ofNat k).val = k :=
  value_limbs_of_lt (hk.trans (by norm_num [n]))

theorem affineOps_lawful : affineOps.Lawful where
  point_multiply {k P} h0 hk hP := by
    obtain ⟨product, hprod, hrep⟩ := scalarMultiply_rep h0 hk (toAffine_rep (P := P))
    simp only [affineOps, value_scalar hk, hprod]
    exact ofAffine_rep hrep
  scalar_multiply {k} h0 hk := by
    obtain ⟨product, hprod, hrep⟩ := scalarMultiply_rep h0 hk rep_generator
    simp only [affineOps, value_scalar hk, hprod]
    exact ofAffine_rep hrep
  point_add {P Q} hP hQ := by
    obtain ⟨sum, hsum, hrep⟩ := addPoints_rep (toAffine_rep (P := P)) (toAffine_rep (P := Q))
    simp only [affineOps, hsum]
    exact ofAffine_rep hrep

end CotMta.Session
