/-
  Short Weierstrass curves `y² = x³ + b` in affine coordinates.

  `IsAt P x y` says that the point `P` of the group is the affine point
  `(x, y)`; the lemmas below give the chord-and-tangent formulas in terms of
  the slope, in the form programs compute it, and the order of the group: if
  some point has order `n`, the field has fewer than `3n / 2` elements and
  `-b` is not a cube, then that point generates the whole group.
-/
import Mathlib.AlgebraicGeometry.EllipticCurve.Affine.Point
import Mathlib.GroupTheory.Perm.Cycle.Type
import Mathlib.GroupTheory.OrderOfElement
import Mathlib.Algebra.Polynomial.Roots
import Mathlib.Tactic.LinearCombination

namespace CotMta.ShortWeierstrass

open WeierstrassCurve WeierstrassCurve.Affine

variable {F : Type} [Field F]

/-- The curve `y² = x³ + b`. -/
abbrev short (b : F) : Affine F := ⟨0, 0, 0, 0, b⟩

/-- `P` is the affine point `(x, y)`. -/
def IsAt {b : F} (P : (short b).Point) (x y : F) : Prop := ∃ h, P = .some x y h

variable {b : F} {P Q : (short b).Point} {x y x' y' : F}

theorem equation_short : (short b).Equation x y ↔ y ^ 2 = x ^ 3 + b := by
  simp [Affine.equation_iff]

theorem IsAt.equation (h : IsAt P x y) : y ^ 2 = x ^ 3 + b := by
  obtain ⟨hn, -⟩ := h; exact equation_short.1 hn.1

theorem IsAt.ne_zero (h : IsAt P x y) : P ≠ 0 := by
  obtain ⟨hn, rfl⟩ := h; exact Point.some_ne_zero hn

theorem IsAt.unique (h : IsAt P x y) (h' : IsAt P x' y') : x = x' ∧ y = y' := by
  obtain ⟨hn, rfl⟩ := h
  obtain ⟨hn', he⟩ := h'
  exact ⟨by injection he, by injection he⟩

theorem IsAt.ext (h : IsAt P x y) (h' : IsAt Q x y) : P = Q := by
  obtain ⟨hn, rfl⟩ := h; obtain ⟨hn', rfl⟩ := h'; rfl

theorem exists_isAt (hP : P ≠ 0) : ∃ x y, IsAt P x y := by
  cases P with
  | zero => exact absurd rfl hP
  | some x y h => exact ⟨x, y, h, rfl⟩

theorem IsAt.neg (h : IsAt P x y) : IsAt (-P) x (-y) := by
  obtain ⟨hn, rfl⟩ := h
  rw [Point.neg_some]
  have hy : (short b).negY x y = -y := by simp [negY]
  exact ⟨by have h := (@nonsingular_neg _ _ (short b) x y).2 hn; rwa [hy] at h, by congr 1⟩

/-- Points with the same abscissa are equal or opposite. -/
theorem IsAt.eq_or_eq_neg (h : IsAt P x y) (h' : IsAt Q x y') : P = Q ∨ P = -Q := by
  have hy : (y - y') * (y + y') = 0 := by linear_combination h.equation - h'.equation
  rcases mul_eq_zero.1 hy with hy | hy
  · obtain rfl := sub_eq_zero.1 hy
    exact Or.inl (h.ext h')
  · obtain rfl := eq_neg_of_add_eq_zero_left hy
    exact Or.inr (h.ext h'.neg)

/-! ## Addition -/

section
variable [DecidableEq F]

/-- The sum of two points off a vertical line, by the slope of the line. -/
theorem IsAt.add_of_slope (h : IsAt P x y) (h' : IsAt Q x' y')
    (hxy : ¬(x = x' ∧ y = (short b).negY x' y')) {l : F} (hl : (short b).slope x x' y y' = l) :
    IsAt (P + Q) (l ^ 2 - x - x') (l * (x - (l ^ 2 - x - x')) - y) := by
  obtain ⟨hn, rfl⟩ := h
  obtain ⟨hn', rfl⟩ := h'
  subst hl
  have hX : (short b).addX x x' ((short b).slope x x' y y') =
      (short b).slope x x' y y' ^ 2 - x - x' := by simp [addX]
  have hY : (short b).addY x x' y ((short b).slope x x' y y') = (short b).slope x x' y y' *
      (x - ((short b).slope x x' y y' ^ 2 - x - x')) - y := by
    simp only [addY, negAddY, negY, hX]; ring
  have hs := nonsingular_add hn hn' hxy
  rw [Point.add_some hxy]
  exact ⟨by rwa [← hY, ← hX], by congr 1⟩

/-- **Chord addition.** -/
theorem IsAt.add_of_ne (h : IsAt P x y) (h' : IsAt Q x' y') (hx : x ≠ x') {l : F}
    (hl : l * (x' - x) = y' - y) :
    IsAt (P + Q) (l ^ 2 - x - x') (l * (x - (l ^ 2 - x - x')) - y) := by
  refine h.add_of_slope h' (fun hxy => hx hxy.1) ?_
  have hd : x - x' ≠ 0 := sub_ne_zero.2 hx
  rw [slope_of_X_ne hx, div_eq_iff hd]
  linear_combination hl

/-- **Tangent doubling.** -/
theorem IsAt.add_self (h : IsAt P x y) (hy : 2 * y ≠ 0) {l : F} (hl : l * (2 * y) = 3 * x ^ 2) :
    IsAt (P + P) (l ^ 2 - x - x) (l * (x - (l ^ 2 - x - x)) - y) := by
  have hne : y ≠ (short b).negY x y := by
    simp only [negY, zero_mul, sub_zero]
    intro he
    exact hy (by linear_combination he)
  refine h.add_of_slope h (fun hxy => hne hxy.2) ?_
  rw [slope_of_Y_ne rfl hne]
  simp only [negY, zero_mul, mul_zero, sub_zero, add_zero, sub_neg_eq_add]
  rw [← two_mul, div_eq_iff hy, hl]

theorem IsAt.two_torsion (h : IsAt P x y) (hP : P + P = 0) : y = 0 ∨ (2 : F) = 0 := by
  by_contra hcon
  push Not at hcon
  have hy : 2 * y ≠ 0 := mul_ne_zero hcon.2 hcon.1
  exact (h.add_self hy (l := 3 * x ^ 2 / (2 * y)) (div_mul_cancel₀ _ hy)).ne_zero hP

end

/-! ## The order of the group -/

section
variable [Fintype F]

/-- The affine coordinates of a point, if any. -/
def coords : (short b).Point → Option (F × F)
  | .zero => none
  | .some x y _ => some (x, y)

omit [Fintype F] in
theorem coords_injective : Function.Injective (coords (b := b)) := by
  intro P Q h
  cases P <;> cases Q <;> simp_all [coords]

instance : Finite (short b).Point := Finite.of_injective _ coords_injective

/-- A finite field has at most two square roots of each element, so the curve
    has at most `2 |F| + 1` points. -/
theorem card_point_le : Nat.card (short b).Point ≤ 2 * Fintype.card F + 1 := by
  classical
  -- the affine points lie in a union of fibres of at most two elements
  let S : Finset (F × F) := Finset.univ.sigma (fun x : F =>
    (Polynomial.nthRoots 2 (x ^ 3 + b)).toFinset) |>.map (Equiv.sigmaEquivProd F F).toEmbedding
  have hS : S.card ≤ 2 * Fintype.card F := by
    rw [Finset.card_map, Finset.card_sigma, mul_comm]
    refine Finset.sum_le_card_nsmul _ _ 2 fun x _ => ?_
    exact (Multiset.toFinset_card_le _).trans (Polynomial.card_nthRoots 2 _)
  have hmem : ∀ P : (short b).Point, coords P ∈ insert none (S.map Function.Embedding.some) := by
    intro P
    cases P with
    | zero => simp [coords]
    | some x y h =>
      have he := equation_short.1 h.1
      simp [coords, S, Polynomial.mem_nthRoots, he]
  calc Nat.card (short b).Point
      = Nat.card (Set.range (coords (b := b))) := (Nat.card_range_of_injective coords_injective).symm
    _ ≤ Nat.card (insert none (S.map Function.Embedding.some) : Finset (Option (F × F))) :=
        Nat.card_mono (Finset.finite_toSet _) (Set.range_subset_iff.2 hmem)
    _ ≤ 2 * Fintype.card F + 1 := by
        rw [Nat.card_eq_fintype_card, Fintype.card_coe]
        exact (Finset.card_insert_le _ _).trans (by rw [Finset.card_map]; omega)

variable [DecidableEq F]

/-- **The group is no larger than the order of a point of large order.** -/
theorem card_point_of_order {n : ℕ} {G : (short b).Point} (hG : addOrderOf G = n)
    (hF : 2 * Fintype.card F + 1 < 3 * n) (h2 : (2 : F) ≠ 0) (hb : ∀ x : F, x ^ 3 + b ≠ 0) :
    Nat.card (short b).Point = n := by
  have hdvd : n ∣ Nat.card (short b).Point := hG ▸ addOrderOf_dvd_natCard G
  have hle := card_point_le (b := b)
  obtain ⟨k, hk⟩ := hdvd
  have hpos : 0 < Nat.card (short b).Point := Nat.card_pos
  have hodd : ¬ 2 ∣ Nat.card (short b).Point := by
    intro h
    obtain ⟨P, hP⟩ := exists_prime_addOrderOf_dvd_card' 2 h
    have hP0 : P ≠ 0 := by rintro rfl; simp at hP
    obtain ⟨x, y, hat⟩ := exists_isAt hP0
    have hPP : P + P = 0 := by rw [← two_nsmul, ← hP, addOrderOf_nsmul_eq_zero]
    obtain rfl := (hat.two_torsion hPP).resolve_right h2
    exact hb x (by linear_combination -hat.equation)
  have hk3 : k < 3 := by
    by_contra hcon
    have : n * 3 ≤ n * k := Nat.mul_le_mul_left n (by omega)
    omega
  interval_cases k
  · omega
  · omega
  · exact absurd ⟨n, by omega⟩ hodd

theorem exists_nsmul_of_card {n : ℕ} {G : (short b).Point} (hG : addOrderOf G = n)
    (hcard : Nat.card (short b).Point = n) (P : (short b).Point) : ∃ k < n, k • G = P := by
  have htop : AddSubgroup.zmultiples G = ⊤ := by
    apply AddSubgroup.eq_top_of_card_eq
    rw [Nat.card_zmultiples, hG, hcard]
  have hP : P ∈ AddSubgroup.zmultiples G := htop ▸ AddSubgroup.mem_top P
  rw [mem_zmultiples_iff_mem_range_addOrderOf, hG] at hP
  simpa using hP

end

end CotMta.ShortWeierstrass
