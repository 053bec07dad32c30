/-
  Reduction modulo `m` by subtracting estimated multiples, limb by limb.

  The modulus is a little below a round number `T = m + c`, so that `R / T` is a
  cheap lower estimate of `R / m`.  Step `k` subtracts `m · B ^ k` as often as
  `T · B ^ k` fits.  The result is below `T + 2 B c`, hence only partly reduced:
  it is `R % m` or `R % m + m`.  `reduce_eq` says exactly when it is the latter.
-/
import Mathlib.Tactic.Ring
import Mathlib.Tactic.Linarith

namespace CotMta.PartialReduction

/-- Subtract the estimated multiple of `m · K`. -/
def reduceStep (m T K R : ℕ) : ℕ := R - m * K * (R / (K * T))

/-- The steps `k - 1`, …, `0`. -/
def reduce (m T B : ℕ) : ℕ → ℕ → ℕ
  | 0, R => R
  | k + 1, R => reduce m T B k (reduceStep m T (B ^ k) R)

/-- The remainder is so small that the last estimate falls one short. -/
def FallsShort (m c B R : ℕ) : Prop := 1 ≤ R / m ∧ R % m < ((R / m - 1) % B + 1) * c

instance {m c B R : ℕ} : Decidable (FallsShort m c B R) :=
  inferInstanceAs (Decidable (_ ∧ _))

variable {m c T B K R : ℕ}

theorem reduce_succ {k : ℕ} :
    reduce m T B (k + 1) R = reduce m T B k (reduceStep m T (B ^ k) R) := rfl

section
variable (h : m + c = T)
include h

theorem reduceStep_add : reduceStep m T K R + m * (K * (R / (K * T))) = R := by
  rw [reduceStep, mul_assoc]
  refine Nat.sub_add_cancel ?_
  calc m * (K * (R / (K * T))) ≤ T * (K * (R / (K * T))) :=
        Nat.mul_le_mul_right _ (by omega)
    _ = K * T * (R / (K * T)) := by ring
    _ ≤ R := Nat.mul_div_le _ _

/-- What a step leaves: the low part and the defect of every multiple. -/
theorem reduceStep_eq :
    reduceStep m T K R = R % (K * T) + c * (K * (R / (K * T))) := by
  have hadd := reduceStep_add (K := K) (R := R) h
  have hR := Nat.mod_add_div R (K * T)
  generalize R / (K * T) = q at hadd hR ⊢
  generalize R % (K * T) = r at hR ⊢
  subst h
  nlinarith [hadd, hR]

theorem reduceStep_lt (hK : 0 < K) (hT : 0 < T) (hR : R < K * B * (2 * T)) :
    reduceStep m T K R < K * (T + 2 * B * c) := by
  have hq : R / (K * T) ≤ 2 * B := by
    refine Nat.le_of_lt ((Nat.div_lt_iff_lt_mul (Nat.mul_pos hK hT)).2 ?_)
    exact hR.trans_eq (by ring)
  rw [reduceStep_eq h]
  calc R % (K * T) + c * (K * (R / (K * T)))
      < K * T + c * (K * (R / (K * T))) :=
        Nat.add_lt_add_right (Nat.mod_lt _ (Nat.mul_pos hK hT)) _
    _ ≤ K * T + c * (K * (2 * B)) :=
        Nat.add_le_add_left (Nat.mul_le_mul_left c (Nat.mul_le_mul_left K hq)) _
    _ = K * (T + 2 * B * c) := by ring

theorem reduceStep_mod : reduceStep m T K R % m = R % m := by
  conv_rhs => rw [← reduceStep_add (K := K) (R := R) h, Nat.add_mul_mod_self_left]

theorem reduceStep_div (hm : 0 < m) :
    R / m = reduceStep m T K R / m + K * (R / (K * T)) := by
  conv_lhs => rw [← reduceStep_add (K := K) (R := R) h, Nat.add_mul_div_left _ _ hm]

/-- A step leaves the digits below `K`. -/
theorem reduceStep_low : reduceStep m T K R % K = R % K := by
  conv_rhs => rw [← reduceStep_add (K := K) (R := R) h, Nat.mul_left_comm,
    Nat.add_mul_mod_self_left]

theorem reduceStep_high (hK : 0 < K) : reduceStep m T K R / K = R / K - m * (R / K / T) := by
  have hadd := reduceStep_add (K := K) (R := R) h
  rw [← Nat.div_div_eq_div_mul, Nat.mul_left_comm] at hadd
  have hdiv : R / K = reduceStep m T K R / K + m * (R / K / T) := by
    conv_lhs => rw [← hadd, Nat.add_mul_div_left _ _ hK]
  exact (Nat.sub_eq_of_eq_add hdiv).symm

theorem reduce_mod : ∀ {k R : ℕ}, reduce m T B k R % m = R % m
  | 0, _ => rfl
  | k + 1, R => by rw [reduce_succ, reduce_mod, reduceStep_mod h]

theorem reduce_lt (hB : 0 < B) (hc : 2 * B * c ≤ T) (hT : 0 < T) : ∀ {k R : ℕ},
    R < B ^ (k + 1) * (2 * T) → reduce m T B (k + 1) R < T + 2 * B * c
  | 0, R, hR => by
    have := reduceStep_lt (K := 1) (B := B) h one_pos hT (hR.trans_eq (by ring))
    rwa [reduce_succ, pow_zero, reduce, ← one_mul (T + 2 * B * c)]
  | k + 1, R, hR => by
    rw [reduce_succ]
    refine reduce_lt hB hc hT ?_
    have := reduceStep_lt h (pow_pos hB (k + 1)) hT (by rwa [← pow_succ])
    exact this.trans_le (Nat.mul_le_mul_left _ (by omega))

/-! ## The exact result -/

/-- A step above the last one does not change whether the estimate falls short. -/
theorem fallsShort_reduceStep (hm : 0 < m) (hB : 0 < B) (hK : 0 < K) (hdvd : B ∣ K) :
    FallsShort m c B (reduceStep m T K R) ↔ FallsShort m c B R := by
  have hadd := reduceStep_add (K := K) (R := R) h
  have hle : K * T * (R / (K * T)) ≤ R := Nat.mul_div_le _ _
  rw [FallsShort, FallsShort, reduceStep_mod h, reduceStep_div (K := K) (R := R) h hm]
  generalize R / (K * T) = e at hadd hle ⊢
  have hdm := Nat.mod_add_div (reduceStep m T K R) m
  rw [reduceStep_mod h] at hdm
  generalize reduceStep m T K R / m = q at hdm ⊢
  rcases Nat.eq_zero_or_pos q with rfl | hq
  · -- nothing is left above the remainder: then the remainder is at least `B c`
    refine iff_of_false (by omega) fun ⟨hpos, hlt⟩ => ?_
    have he : 0 < e := Nat.pos_of_ne_zero fun he => by simp [he] at hpos
    have hKce : K * c * e ≤ R % m := by
      rw [← hdm] at hadd
      subst h
      nlinarith
    have hBc : B * c ≤ K * c * e :=
      (Nat.mul_le_mul_right c (Nat.le_of_dvd hK hdvd)).trans (Nat.le_mul_of_pos_right _ he)
    have hle := Nat.mul_le_mul_right c (Nat.succ_le_of_lt (Nat.mod_lt (0 + K * e - 1) hB))
    exact absurd hlt (not_lt.2 (hle.trans (hBc.trans hKce)))
  · have hmod : (q + K * e - 1) % B = (q - 1) % B := by
      obtain ⟨d, rfl⟩ := hdvd
      rw [show q + B * d * e - 1 = q - 1 + B * (d * e) by rw [mul_assoc]; omega,
        Nat.add_mul_mod_self_left]
    rw [hmod]
    exact and_congr_left fun _ => by omega

/-- The last step, from a quotient of at most `B`. -/
theorem reduceStep_one (hm : 0 < m) (hc : B * c ≤ T) (hq : R / m ≤ B) :
    reduceStep m T 1 R = R % m + if FallsShort m c B R then m else 0 := by
  have hdm := Nat.mod_add_div R m
  have hr := Nat.mod_lt R hm
  have hqc : R / m * c ≤ B * c := Nat.mul_le_mul_right c hq
  have hshort : FallsShort m c B R ↔ R % m < R / m * c := by
    unfold FallsShort
    rcases Nat.eq_zero_or_pos (R / m) with h0 | hpos
    · simp [h0]
    · rw [Nat.mod_eq_of_lt (show R / m - 1 < B by omega), Nat.sub_add_cancel hpos]
      exact and_iff_right hpos
  have hadd := reduceStep_add (K := 1) (R := R) h
  rw [one_mul, one_mul] at hadd
  simp only [hshort]
  generalize R % m = r at hdm hr ⊢
  generalize R / m = q at hdm hqc ⊢
  split
  · next hlt =>
    obtain ⟨q, rfl⟩ : ∃ q', q = q' + 1 :=
      Nat.exists_eq_succ_of_ne_zero fun h0 => by simp [h0] at hlt
    have hdiv : R / T = q := by
      refine Nat.div_eq_of_lt_le ?_ ?_ <;> subst h <;> nlinarith
    rw [hdiv] at hadd
    nlinarith
  · next hge =>
    have hdiv : R / T = q := by
      refine Nat.div_eq_of_lt_le ?_ ?_ <;> subst h <;> nlinarith
    rw [hdiv] at hadd
    omega

/-- **The partly reduced result.** -/
theorem reduce_eq (hm : 0 < m) (hB : 0 < B) (hc : (2 * B * B + B + 1) * c ≤ T) : ∀ {k R : ℕ},
    R < B ^ (k + 2) * (2 * T) →
      reduce m T B (k + 2) R = R % m + if FallsShort m c B R then m else 0
  | 0, R, hR => by
    have hT : 0 < T := by omega
    have hlt := reduceStep_lt (K := B) h hB hT (hR.trans_eq (by ring))
    have hq : reduceStep m T B R / m ≤ B := by
      refine Nat.le_of_lt_succ ((Nat.div_lt_iff_lt_mul hm).2 (hlt.trans_le ?_))
      subst h
      nlinarith
    have hBc : B * c ≤ T := by nlinarith
    rw [reduce_succ, reduce_succ, pow_one, pow_zero, reduce, reduceStep_one h hm hBc hq,
      reduceStep_mod h]
    simp only [fallsShort_reduceStep h hm hB hB (dvd_refl B)]
  | k + 1, R, hR => by
    have hT : 0 < T := by omega
    have hc' : 2 * B * c ≤ T := by nlinarith
    have hK : 0 < B ^ (k + 2) := pow_pos hB _
    have hlt := reduceStep_lt h hK hT (hR.trans_eq (by ring))
    rw [reduce_succ, reduce_eq hm hB hc (hlt.trans_le (Nat.mul_le_mul_left _ (by omega))),
      reduceStep_mod h]
    simp only [fallsShort_reduceStep h hm hB hK (dvd_pow_self B (by omega))]

end

end CotMta.PartialReduction
