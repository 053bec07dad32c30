/-
  Multiples of a point, computed on representatives modulo `p` in Jacobian
  coordinates, so that the kernel can evaluate a 256-bit multiple.

  `(X, Y, Z)` stands for the affine point `(X / Z², Y / Z³)`; `multiple` runs
  double-and-add from the most significant bit and gives up (`none`) on a
  vertical tangent or chord.
-/
import CotMta.Lib.ShortWeierstrass
import Mathlib.FieldTheory.Finite.Basic
import Mathlib.Tactic.FieldSimp
import Mathlib.Tactic.Ring

namespace CotMta.ShortWeierstrass

/-- Jacobian coordinates modulo `p`. -/
structure Jac where
  X : ℤ
  Y : ℤ
  Z : ℤ

/-- Doubling, by the slope `3X² / 2YZ`. -/
def Jac.double (p : ℤ) (P : Jac) : Jac :=
  let s := 4 * P.X * P.Y ^ 2 % p
  let m := 3 * P.X ^ 2 % p
  let x := (m ^ 2 - 2 * s) % p
  ⟨x, (m * (s - x) - 8 * P.Y ^ 4) % p, 2 * P.Y * P.Z % p⟩

/-- The denominator of the chord to the affine point with abscissa `gx`. -/
def Jac.chord (p gx : ℤ) (P : Jac) : ℤ := (gx * P.Z ^ 2 - P.X) % p

/-- Addition of the affine point `(gx, gy)`. -/
def Jac.addAffine (p gx gy : ℤ) (P : Jac) : Jac :=
  let h := P.chord p gx
  let r := (gy * P.Z ^ 3 - P.Y) % p
  let v := P.X * h ^ 2 % p
  let x := (r ^ 2 - h ^ 3 - 2 * v) % p
  ⟨x, (r * (v - x) - P.Y * h ^ 3) % p, h * P.Z % p⟩

/-- Double-and-add of `(gx, gy)` over the bits, most significant first. -/
def multiple (p gx gy : ℤ) : List Bool → Jac → Option Jac
  | [], P => some P
  | bit :: bits, P =>
    if P.Y % p = 0 then none
    else if bit then
      if (P.double p).chord p gx = 0 then none
      else multiple p gx gy bits ((P.double p).addAffine p gx gy)
    else multiple p gx gy bits (P.double p)

/-- The number with the given bits after those of `k`. -/
def bitsVal : List Bool → ℕ → ℕ
  | [], k => k
  | bit :: bits, k => bitsVal bits (2 * k + bit.toNat)

section
variable {p : ℕ} [Fact p.Prime] {b : ZMod p}

/-- The coordinates stand for the point `Q`. -/
def Jac.Rep (P : Jac) (Q : (short b).Point) : Prop :=
  (P.Z : ZMod p) ≠ 0 ∧ IsAt Q ((P.X : ZMod p) / P.Z ^ 2) (P.Y / P.Z ^ 3)

theorem intCast_emod_eq_zero {a : ℤ} : a % (p : ℤ) = 0 ↔ (a : ZMod p) = 0 := by
  rw [ZMod.intCast_zmod_eq_zero_iff_dvd, Int.dvd_iff_emod_eq_zero]

theorem Jac.Rep.double {P : Jac} {Q : (short b).Point} (h : P.Rep Q) (h2 : (2 : ZMod p) ≠ 0)
    (hY : (P.Y : ZMod p) ≠ 0) : (P.double p).Rep (Q + Q) := by
  obtain ⟨hZ, hat⟩ := h
  obtain ⟨X, Y, Z⟩ := P
  simp only at hZ hat hY
  have hadd := hat.add_self (l := 3 * (X : ZMod p) ^ 2 / (2 * Y * Z))
    (mul_ne_zero h2 (div_ne_zero hY (pow_ne_zero 3 hZ))) (by field_simp)
  refine ⟨by simp [Jac.double, h2, hY, hZ], ?_⟩
  convert hadd using 1 <;> simp only [Jac.double, ZMod.intCast_mod] <;> push_cast <;>
    field_simp <;> ring

theorem Jac.Rep.addAffine {P : Jac} {Q G : (short b).Point} {gx gy : ℤ} (h : P.Rep Q)
    (hG : IsAt G (gx : ZMod p) gy) (hc : P.chord p gx ≠ 0) : (P.addAffine p gx gy).Rep (Q + G) := by
  obtain ⟨hZ, hat⟩ := h
  obtain ⟨X, Y, Z⟩ := P
  simp only at hZ hat
  -- the abscissa of `G`, by the denominator `D` of the chord
  obtain ⟨D, hD⟩ : ∃ D : ZMod p, (gx : ZMod p) * Z ^ 2 - X = D := ⟨_, rfl⟩
  have hgx : (gx : ZMod p) = (X + D) / Z ^ 2 := by rw [← hD]; field_simp; ring
  have hcast : ((Jac.chord p gx ⟨X, Y, Z⟩ : ℤ) : ZMod p) = D := by simp [Jac.chord, hD]
  have hD0 : D ≠ 0 := by
    rintro rfl
    exact hc (intCast_emod_eq_zero.2 (by push_cast; exact hD))
  have hne : (X : ZMod p) / Z ^ 2 ≠ gx := by
    rw [hgx]
    intro he
    exact hD0 (by field_simp at he; linear_combination -he)
  have hadd := hat.add_of_ne hG hne (l := ((gy : ZMod p) * Z ^ 3 - Y) / (D * Z))
    (by rw [hgx]; field_simp; ring)
  refine ⟨by simp [Jac.addAffine, hcast, hD0, hZ], ?_⟩
  convert hadd using 1 <;> simp only [Jac.addAffine, ZMod.intCast_mod] <;> push_cast <;>
    simp only [hcast, hgx] <;> field_simp <;> ring

theorem multiple_rep {G : (short b).Point} {gx gy : ℤ} (h2 : (2 : ZMod p) ≠ 0)
    (hG : IsAt G (gx : ZMod p) gy) : ∀ (bits : List Bool) {P R : Jac} {k : ℕ}, P.Rep (k • G) →
      multiple p gx gy bits P = some R → R.Rep (bitsVal bits k • G)
  | [], P, R, k, hP, h => by
    obtain rfl := Option.some.inj h
    exact hP
  | bit :: bits, P, R, k, hP, h => by
    unfold multiple at h
    split_ifs at h with hY hbit hc
    · have hY' : (P.Y : ZMod p) ≠ 0 := fun h0 => hY (intCast_emod_eq_zero.2 h0)
      have hd := (hP.double h2 hY').addAffine hG hc
      rw [← two_nsmul, ← mul_nsmul', ← succ_nsmul] at hd
      simpa [bitsVal, hbit] using multiple_rep h2 hG bits hd h
    · have hY' : (P.Y : ZMod p) ≠ 0 := fun h0 => hY (intCast_emod_eq_zero.2 h0)
      have hd := hP.double h2 hY'
      rw [← two_nsmul, ← mul_nsmul'] at hd
      simpa [bitsVal, hbit] using multiple_rep h2 hG bits hd h

end

end CotMta.ShortWeierstrass
