/-
  Jacobian coordinates over a field: `(X, Y, Z)` stands for the affine point
  `(X / Z², Y / Z³)`.

  The formulas are those with halved slopes: `z₃ = h z`, where `r / (h z)` is
  the slope of the line, so that chord and tangent share everything after the
  choice of `(r, h)`.  `IsJac.add` has the one exception of these formulas in a
  hypothesis: the two points must not be opposite.
-/
import CotMta.Lib.ShortWeierstrass
import Mathlib.Tactic.FieldSimp

namespace CotMta.ShortWeierstrass

open WeierstrassCurve WeierstrassCurve.Affine

variable {F : Type} [Field F] {b : F} {P Q R : (short b).Point} {x y X Y Z m : F}

/-- `(X, Y, Z)` are coordinates of `P`. -/
def IsJac (P : (short b).Point) (X Y Z : F) : Prop := Z ≠ 0 ∧ IsAt P (X / Z ^ 2) (Y / Z ^ 3)

theorem IsJac.ne_zero (h : IsJac P X Y Z) : P ≠ 0 := h.2.ne_zero

theorem IsAt.isJac (h : IsAt P x y) (hZ : Z ≠ 0) : IsJac P (Z ^ 2 * x) (Z ^ 3 * y) Z := by
  refine ⟨hZ, ?_⟩
  rwa [mul_div_cancel_left₀ _ (pow_ne_zero 2 hZ), mul_div_cancel_left₀ _ (pow_ne_zero 3 hZ)]

theorem IsJac.neg_right (h : IsJac P X Y Z) : IsJac (-P) X Y (-Z) := by
  refine ⟨neg_ne_zero.2 h.1, ?_⟩
  have hneg := h.2.neg
  rwa [← div_neg, ← Odd.neg_pow (by decide), ← Even.neg_pow (by decide) Z] at hneg

theorem IsJac.neg_middle (h : IsJac P X Y Z) : IsJac (-P) X (-Y) Z := by
  refine ⟨h.1, ?_⟩
  rw [neg_div]
  exact h.2.neg

/-! ## Lines -/

/-- The third point of a line of slope `r / (h Z)` through an affine point and a
    point in Jacobian coordinates; the ordinate is taken in the middle of the two. -/
theorem IsAt.isJac_of_slope {h r Y₃ : F} (hZ : Z ≠ 0) (hh : h ≠ 0) (h2 : (2 : F) ≠ 0)
    (hline : r / (h * Z) * (X / Z ^ 2 - x) = Y / Z ^ 3 - y)
    (hY₃ : 2 * Y₃ = r * (h ^ 2 * (x * Z ^ 2 + X) - 2 * (r ^ 2 - h ^ 2 * (x * Z ^ 2 + X))) -
      h ^ 3 * (y * Z ^ 3 + Y))
    (hR : IsAt R ((r / (h * Z)) ^ 2 - x - X / Z ^ 2)
      (r / (h * Z) * (x - ((r / (h * Z)) ^ 2 - x - X / Z ^ 2)) - y)) :
    IsJac R (r ^ 2 - h ^ 2 * (x * Z ^ 2 + X)) Y₃ (h * Z) := by
  refine ⟨mul_ne_zero hh hZ, ?_⟩
  have hY : Y₃ = (r * (h ^ 2 * (x * Z ^ 2 + X) - 2 * (r ^ 2 - h ^ 2 * (x * Z ^ 2 + X))) -
      h ^ 3 * (y * Z ^ 3 + Y)) / 2 := by rw [← hY₃, mul_div_cancel_left₀ _ h2]
  have hYeq : Y = Z ^ 3 * y + r / h * (X - Z ^ 2 * x) := by
    field_simp at hline ⊢
    linear_combination -hline
  convert hR using 1
  · field_simp
    ring
  · rw [hY, hYeq]
    field_simp
    ring

section
variable [DecidableEq F]

/-- **Doubling**, by half the numerator of the slope. -/
theorem IsJac.double (h : IsJac P X Y Z) (h2 : (2 : F) ≠ 0) (hY : Y ≠ 0) (hm : 2 * m = 3 * X ^ 2) :
    IsJac (P + P) (m ^ 2 - 2 * (X * Y ^ 2))
      (m * (X * Y ^ 2 - (m ^ 2 - 2 * (X * Y ^ 2))) - (Y ^ 2) ^ 2) (Y * Z) := by
  obtain ⟨hZ, hat⟩ := h
  have hslope : m / (Y * Z) * (2 * (Y / Z ^ 3)) = 3 * (X / Z ^ 2) ^ 2 := by
    field_simp
    linear_combination hm
  have hadd := hat.add_self (mul_ne_zero h2 (div_ne_zero hY (pow_ne_zero 3 hZ))) hslope
  refine ⟨mul_ne_zero hY hZ, ?_⟩
  convert hadd using 1 <;> field_simp <;> ring

/-- A chord or a tangent: the numerator and the denominator of the slope. -/
inductive Line (x y X Y Z : F) : F → F → Prop
  | chord (hne : x * Z ^ 2 - X ≠ 0) : Line x y X Y Z (y * Z ^ 3 - Y) (x * Z ^ 2 - X)
  | tangent (heq : x * Z ^ 2 - X = 0) : Line x y X Y Z (3 * X ^ 2) (y * Z ^ 3 + Y)

/-- **Addition** of an affine point, doubling included. -/
theorem IsJac.add {h r Y₃ : F} (hP : IsJac P X Y Z) (hQ : IsAt Q x y) (h2 : (2 : F) ≠ 0)
    (hne : Q + P ≠ 0) (hline : Line x y X Y Z r h)
    (hY₃ : 2 * Y₃ = r * (h ^ 2 * (x * Z ^ 2 + X) - 2 * (r ^ 2 - h ^ 2 * (x * Z ^ 2 + X))) -
      h ^ 3 * (y * Z ^ 3 + Y)) :
    IsJac (Q + P) (r ^ 2 - h ^ 2 * (x * Z ^ 2 + X)) Y₃ (h * Z) := by
  obtain ⟨hZ, hat⟩ := hP
  cases hline with
  | chord hx =>
    have hxne : x ≠ X / Z ^ 2 := by
      rintro rfl
      exact hx (by rw [div_mul_cancel₀ _ (pow_ne_zero 2 hZ), sub_self])
    have hrun : X / Z ^ 2 - x = -(x * Z ^ 2 - X) / Z ^ 2 := by
      field_simp
      ring
    have hslope : (y * Z ^ 3 - Y) / ((x * Z ^ 2 - X) * Z) * (X / Z ^ 2 - x) = Y / Z ^ 3 - y := by
      rw [hrun]
      generalize x * Z ^ 2 - X = D at hx
      field_simp
      ring
    exact IsAt.isJac_of_slope hZ hx h2 hslope hY₃ (hQ.add_of_ne hat hxne hslope)
  | tangent hx =>
    have hxeq : x = X / Z ^ 2 := by rw [eq_div_iff (pow_ne_zero 2 hZ), ← sub_eq_zero, hx]
    subst hxeq
    -- equal abscissas, and the points are not opposite
    obtain rfl : Q = P := (hQ.eq_or_eq_neg hat).resolve_right fun h => hne (by
      rw [h, neg_add_cancel])
    obtain ⟨-, rfl⟩ := hQ.unique hat
    have hY : Y ≠ 0 := by
      rintro rfl
      refine hne ?_
      have hneg := hat.neg
      rw [zero_div, neg_zero] at hneg
      rw [zero_div] at hat
      rw [add_eq_zero_iff_eq_neg]
      exact hat.ext hneg
    have hsum : Y / Z ^ 3 * Z ^ 3 + Y = 2 * Y := by
      rw [div_mul_cancel₀ _ (pow_ne_zero 3 hZ), two_mul]
    have hYY : Y / Z ^ 3 * Z ^ 3 + Y ≠ 0 := hsum ▸ mul_ne_zero h2 hY
    refine IsAt.isJac_of_slope hZ hYY h2 ?_ hY₃ (hQ.add_self ?_ ?_)
    · rw [sub_self, mul_zero, sub_self]
    · exact mul_ne_zero h2 (div_ne_zero hY (pow_ne_zero 3 hZ))
    · rw [hsum]
      field_simp

omit [DecidableEq F] in
/-- Opposite points have no line: the denominator vanishes. -/
theorem Line.of_neg {h r : F} (hP : IsJac P X Y Z) (hQ : IsAt (-P) x y)
    (hline : Line x y X Y Z r h) : h = 0 := by
  obtain ⟨hZ, hat⟩ := hP
  obtain ⟨rfl, rfl⟩ := hQ.unique hat.neg
  cases hline with
  | chord hx => exact absurd (by rw [div_mul_cancel₀ _ (pow_ne_zero 2 hZ), sub_self]) hx
  | tangent _ => rw [neg_mul, div_mul_cancel₀ _ (pow_ne_zero 3 hZ), neg_add_cancel]

end

end CotMta.ShortWeierstrass
