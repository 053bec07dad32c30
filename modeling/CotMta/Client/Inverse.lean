/-
  `modInverse` for any modulus.

  The loop is the extended algorithm of Euclid: its remainders end in the greatest
  common divisor, and `t` is a cofactor of it.  That adding the modulus once
  brings `t` into range rests on its size: the cofactors have opposite signs, and
  `|newT| r + |t| newR` is the modulus at every turn (`Cofactors`), so that no `t`
  exceeds half of it.
-/
import CotMta.Client.Arith
import Mathlib.Data.Int.GCD

namespace CotMta.Client.CryptoOps

variable {value t newT r newR m : ℤ}

/-! ## The loop -/

/-- A turn of the loop on the remainders. -/
theorem sub_tdiv_mul (hr : 0 ≤ r) : r - r.tdiv newR * newR = r % newR := by
  rw [mul_comm, ← Int.tmod_def, Int.tmod_eq_emod_of_nonneg hr]

/-- The remainders end in the greatest common divisor. -/
theorem modInverseLoop_gcd (hr : 0 ≤ r) (hnewR : 0 ≤ newR) :
    (modInverseLoop t newT r newR).2 = Int.gcd r newR := by
  induction t, newT, r, newR using modInverseLoop.induct with
  | case1 t newT r newR hne quotient ih =>
    have hrest : r - quotient * newR = r % newR := sub_tdiv_mul hr
    have hgcd : Int.gcd newR (r % newR) = Int.gcd r newR := by
      rw [Int.gcd_comm, Int.gcd_emod]
    have hnonneg : 0 ≤ r - quotient * newR := by
      rw [hrest]
      exact Int.emod_nonneg r hne
    rw [modInverseLoop, dif_pos hne, ih hnewR hnonneg, hrest, hgcd]
  | case2 t newT r newR hzero =>
    have hzero' : newR = 0 := not_not.1 hzero
    rw [modInverseLoop, dif_neg hzero, hzero', Int.gcd_zero_right, Int.natCast_natAbs,
      abs_of_nonneg hr]

/-- Each `t` stays a cofactor of its remainder. -/
theorem modInverseLoop_modEq (ht : t * value ≡ r [ZMOD m]) (hnewT : newT * value ≡ newR [ZMOD m]) :
    (modInverseLoop t newT r newR).1 * value ≡ (modInverseLoop t newT r newR).2 [ZMOD m] := by
  induction t, newT, r, newR using modInverseLoop.induct with
  | case1 t newT r newR hne quotient ih =>
    have hrest : (t - quotient * newT) * value ≡ r - quotient * newR [ZMOD m] := by
      rw [sub_mul, mul_assoc]
      exact ht.sub (hnewT.mul_left quotient)
    rw [modInverseLoop, dif_pos hne]
    exact ih hnewT hrest
  | case2 t newT r newR hzero =>
    rw [modInverseLoop, dif_neg hzero]
    exact ht

/-- The cofactors between two turns, by their sizes `a` and `b`. -/
def Cofactors (m t newT r newR : ℤ) : Prop :=
  ∃ a b, 0 ≤ a ∧ 0 ≤ b ∧ 2 * a ≤ m ∧ b * r + a * newR = m ∧
    (t = -a ∧ newT = b ∨ t = a ∧ newT = -b)

theorem Cofactors.start (hm : 0 ≤ m) : Cofactors m 0 1 m newR :=
  ⟨0, 1, le_rfl, zero_le_one, by omega, by ring, Or.inl ⟨neg_zero.symm, rfl⟩⟩

theorem Cofactors.turn (h : Cofactors m t newT r newR) (hpos : 0 < newR) (hlt : newR < r) :
    Cofactors m newT (t - r.tdiv newR * newT) newR (r - r.tdiv newR * newR) := by
  obtain ⟨a, b, ha, hb, -, harea, hsign⟩ := h
  have hq : 0 ≤ r.tdiv newR := Int.tdiv_nonneg (by omega) hpos.le
  have hsmall : 2 * b ≤ m := by
    have hmul : b * 2 ≤ b * r := mul_le_mul_of_nonneg_left (by omega) hb
    have hrest : 0 ≤ a * newR := mul_nonneg ha hpos.le
    omega
  refine ⟨b, a + r.tdiv newR * b, hb, add_nonneg ha (mul_nonneg hq hb), hsmall, ?_, ?_⟩
  · linear_combination harea
  · rcases hsign with ⟨rfl, rfl⟩ | ⟨rfl, rfl⟩
    · exact Or.inr ⟨rfl, by ring⟩
    · exact Or.inl ⟨rfl, by ring⟩

/-- No cofactor that the loop ends with exceeds half of the modulus. -/
theorem modInverseLoop_small (h : Cofactors m t newT r newR) (hnewR : 0 ≤ newR)
    (hlt : newR < r) : 2 * |(modInverseLoop t newT r newR).1| ≤ m := by
  induction t, newT, r, newR using modInverseLoop.induct with
  | case1 t newT r newR hne quotient ih =>
    have hpos : 0 < newR := lt_of_le_of_ne hnewR (Ne.symm hne)
    have hrest : r - quotient * newR = r % newR := sub_tdiv_mul (by omega)
    rw [modInverseLoop, dif_pos hne]
    refine ih (h.turn hpos hlt) ?_ ?_
    · rw [hrest]
      exact Int.emod_nonneg r hne
    · rw [hrest]
      exact Int.emod_lt_of_pos r hpos
  | case2 t newT r newR hzero =>
    obtain ⟨a, b, ha, -, hsmall, -, hsign⟩ := h
    rw [modInverseLoop, dif_neg hzero]
    rcases hsign with ⟨rfl, -⟩ | ⟨rfl, -⟩
    · rwa [abs_neg, abs_of_nonneg ha]
    · rwa [abs_of_nonneg ha]

/-! ## The inverse -/

/-- `t` is a reduced inverse of `value`. -/
structure IsInverse (value m t : ℤ) : Prop where
  nonneg : 0 ≤ t
  lt : t < m
  modEq : value * t ≡ 1 [ZMOD m]

theorem IsInverse.unique {t' : ℤ} (h : IsInverse value m t) (h' : IsInverse value m t') :
    t' = t := by
  have hmod : t' ≡ t [ZMOD m] :=
    calc t' ≡ value * t * t' [ZMOD m] := by simpa using (h.modEq.mul_right t').symm
      _ = value * t' * t := by ring
      _ ≡ t [ZMOD m] := by simpa using h'.modEq.mul_right t
  rwa [Int.ModEq, Int.emod_eq_of_lt h'.nonneg h'.lt, Int.emod_eq_of_lt h.nonneg h.lt] at hmod

/-- Of the numbers at most half of the modulus in size the negative ones come into
    range by one addition. -/
theorem reduce_small (hm : 1 < m) (h : 2 * |t| ≤ m) :
    0 ≤ (if t < 0 then t + m else t) ∧ (if t < 0 then t + m else t) < m := by
  have hle := abs_le.1 (show |t| ≤ m / 2 by omega)
  split <;> omega

theorem loop_gcd (value : ℤ) (hm : 1 < m) :
    (modInverseLoop 0 1 m (value % m)).2 = Int.gcd (value % m) m := by
  rw [modInverseLoop_gcd (by omega) (Int.emod_nonneg value (by omega)), Int.gcd_comm]

theorem modInverse_of_gcd_ne (hm : 1 < m) (hgcd : Int.gcd (value % m) m ≠ 1) :
    modInverse value m = .error "mod inverse does not exist" := by
  have hr := loop_gcd value hm
  rw [modInverse, mod_eq (by omega)]
  generalize modInverseLoop 0 1 m (value % m) = loop at hr ⊢
  refine if_pos ?_
  rw [hr]
  exact_mod_cast hgcd

theorem modInverse_of_gcd (hm : 1 < m) (hgcd : Int.gcd (value % m) m = 1) :
    ∃ t, modInverse value m = .ok t ∧ IsInverse value m t := by
  have hnonneg : 0 ≤ value % m := Int.emod_nonneg value (by omega)
  have hlt : value % m < m := Int.emod_lt_of_pos value (by omega)
  have hr := loop_gcd value hm
  have ht : (modInverseLoop 0 1 m (value % m)).1 * value ≡
      (modInverseLoop 0 1 m (value % m)).2 [ZMOD m] := by
    refine modInverseLoop_modEq ?_ ?_
    · rw [zero_mul]
      exact (Int.modEq_zero_iff_dvd.2 dvd_rfl).symm
    · rw [one_mul]
      exact (Int.mod_modEq value m).symm
  have hsmall := modInverseLoop_small (Cofactors.start (by omega)) hnonneg hlt
  rw [hgcd, Nat.cast_one] at hr
  rw [modInverse, mod_eq (by omega)]
  generalize modInverseLoop 0 1 m (value % m) = loop at hr ht hsmall ⊢
  obtain ⟨t, r⟩ := loop
  obtain ⟨h0, hm'⟩ := reduce_small hm hsmall
  refine ⟨_, if_neg (not_not.2 hr), h0, hm', ?_⟩
  have hmod : (if t < 0 then t + m else t) ≡ t [ZMOD m] := by
    split
    · exact Int.add_modEq_right
    · rfl
  calc value * (if t < 0 then t + m else t) ≡ value * t [ZMOD m] := hmod.mul_left value
    _ = t * value := mul_comm _ _
    _ ≡ r [ZMOD m] := ht
    _ = 1 := hr

/-- **`modInverse` is the modular inverse:** it throws when there is none, and else
    returns the one below the modulus. -/
theorem modInverse_spec (value : ℤ) (hm : 1 < m) :
    ((∃ text, modInverse value m = .error text) ↔ Int.gcd (value % m) m ≠ 1) ∧
      (Int.gcd (value % m) m = 1 →
        ∃ t, modInverse value m = .ok t ∧ IsInverse value m t ∧
          ∀ t', IsInverse value m t' → t' = t) := by
  refine ⟨⟨?_, fun hgcd => ⟨_, modInverse_of_gcd_ne hm hgcd⟩⟩, fun hgcd => ?_⟩
  · rintro ⟨text, htext⟩ hgcd
    obtain ⟨t, ht, -⟩ := modInverse_of_gcd hm hgcd
    cases htext.symm.trans ht
  · obtain ⟨t, ht, hinv⟩ := modInverse_of_gcd hm hgcd
    exact ⟨t, ht, hinv, fun t' ht' => hinv.unique ht'⟩

/-- The inverse of `-3` modulo `10`, and none of `4`. -/
theorem modInverse_ten :
    (∃ t, modInverse (-3) 10 = .ok t ∧ IsInverse (-3) 10 t ∧
        ∀ t', IsInverse (-3) 10 t' → t' = t) ∧
      ∃ text, modInverse 4 10 = .error text :=
  ⟨(modInverse_spec (-3) (by decide)).2 (by decide),
    (modInverse_spec 4 (by decide)).1.2 (by decide)⟩

end CotMta.Client.CryptoOps
