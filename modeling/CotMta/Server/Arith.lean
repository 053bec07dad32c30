/-
  What the operations on scalars compute, for every `Arith`.

  `mod_add`, `mod_mul` and `mod_negate` hand `bn_mod` a number below `2 n` (or
  twice one below `3 n`) and are canonical for every input.  `mod_sub` computes
  `lhs + 2 n - rhs`, and its two calls of `bn_mod` do not bring that below `n`
  when `lhs` exceeds `rhs` by `n` or more (`modSub_nat`).
-/
import CotMta.Server.CryptoOps
import CotMta.Trezor.Curve

namespace CotMta.Server.CryptoOps

open Trezor Bignum256 Secp256k1

variable {W : Arith} {a b : Scalar} {v : ℕ}

theorem scalarToBn_eq : scalarToBn W a = ofNat a.nat := bnReadBe_eq

theorem bnToScalar_ofNat (h : v < 2 ^ 256) : (bnToScalar W (ofNat v)).nat = v := by
  rw [bnToScalar, bnWriteBe_ofNat h, Bytes.nat_ofNat (h.trans_eq (by norm_num))]

theorem bnToScalar_mod : (bnToScalar W (ofNat (v % n))).nat = v % n :=
  bnToScalar_ofNat ((Nat.mod_lt v n_pos).trans_le n_le)

theorem modAdd_nat : (modAdd W a b).nat = (a.nat + b.nat) % n := by
  have ha := nat_lt_two_n a
  have hb := nat_lt_two_n b
  simp only [modAdd, scalarToBn_eq, bnAddmod_order ha hb, bnMod_order (addmodVal_lt ha hb),
    bnToScalar_mod, addmodVal_mod]

theorem modMul_nat : (modMul W a b).nat = a.nat * b.nat % n := by
  have ha := nat_lt_two_n a
  have hb := nat_lt_two_n b
  simp only [modMul, scalarToBn_eq, bnMultiply_order hb ha, bnMod_order (mulVal_lt hb ha),
    bnToScalar_mod, mulVal_mod, mul_comm a.nat]

/-! ## Subtraction -/

/-- Twice `bn_mod` on a number below `3 n`. -/
theorem bnMod_bnMod (h : v < 3 * n) : bnMod W (bnMod W (ofNat v) order) order = ofNat (v % n) := by
  have hn := two_n_lt
  rcases Nat.lt_or_ge v (2 * n) with hv | hv
  · rw [bnMod_order hv, bnMod_order ((Nat.mod_lt v n_pos).trans (by omega)), Nat.mod_mod]
  · rw [order_eq, bnMod_ofNat (h.trans (by norm_num [n])) (by omega), if_neg (by omega), ← order_eq,
      bnMod_order (by omega), ← Nat.mod_eq_sub_mod (by omega)]

/-- Above `3 n` two multiples are not enough. -/
theorem bnMod_bnMod_of_le (h : 3 * n ≤ v) (hv : v < (2 ^ 30) ^ 9) :
    bnMod W (bnMod W (ofNat v) order) order = ofNat (v - 2 * n) := by
  have hn := two_n_lt
  rw [order_eq, bnMod_ofNat hv (by omega), if_neg (by omega), bnMod_ofNat (by omega) (by omega),
    if_neg (by omega)]
  exact congrArg ofNat (by omega)

theorem difference_eq : bnSubtractmod W (scalarToBn W a) (scalarToBn W b) order =
    ofNat (a.nat + 2 * n - b.nat) := by
  have ha := nat_lt_two_n a
  have hb := nat_lt_two_n b
  have hn := two_n_lt
  rw [scalarToBn_eq, scalarToBn_eq, order_eq, bnSubtractmod_ofNat (by omega) (by omega) (by omega)
    (by omega)]

theorem negation_eq : bnSubtractmod W bnZero (scalarToBn W a) order = ofNat (2 * n - a.nat) := by
  have hzero : bnZero = scalarToBn W (.ofNat 32 0) := by
    rw [scalarToBn_eq]
    decide +kernel
  have h0 : (Bytes.ofNat 32 0).nat = 0 := Bytes.nat_ofNat (by norm_num)
  rw [hzero, difference_eq, h0, zero_add]

theorem modSub_nat : (modSub W a b).nat =
    if a.nat < b.nat + n then (a.nat + 2 * n - b.nat) % n else a.nat - b.nat := by
  have ha := a.nat_lt
  have hn := n_pos
  simp only [modSub, difference_eq]
  split
  · next h => rw [bnMod_bnMod (by omega), bnToScalar_mod]
  · next h =>
    have hv : a.nat + 2 * n - b.nat - 2 * n = a.nat - b.nat := by omega
    rw [bnMod_bnMod_of_le (by omega) (by norm_num [n]; omega), hv, bnToScalar_ofNat (by omega)]

theorem modNegate_nat : (modNegate W a).nat = (2 * n - a.nat) % n := by
  have ha := nat_lt_two_n a
  have hn := n_pos
  rw [modNegate]
  split
  · next hzero =>
    have h0 : a.nat = 0 := Bytes.nat_eq_zero.2 fun byte hbyte =>
      eq_of_beq (List.all_eq_true.1 hzero byte hbyte)
    rw [h0, Nat.sub_zero, Nat.mul_mod_left]
  · simp only [negation_eq]
    rw [bnMod_bnMod (by omega), bnToScalar_mod]

/-! ## The operations -/

/-- The numbers that the operations compute from `lhs` and `rhs` and then reduce. -/
def unreduced (W : Arith) (lhs rhs : Scalar) : List Bignum256 :=
  let left := scalarToBn W lhs
  let right := scalarToBn W rhs
  [left, right, bnAddmod W left right order, bnMultiply W right left order,
    bnSubtractmod W left right order, bnMod W (bnSubtractmod W left right order) order,
    bnSubtractmod W bnZero left order, bnMod W (bnSubtractmod W bnZero left order) order]

/-- None of the numbers depends on what the arithmetic does beyond its range. -/
theorem unreduced_eq (W : Arith) (lhs rhs : Scalar) :
    unreduced W lhs rhs = unreduced exact lhs rhs := by
  have hl := nat_lt_two_n lhs
  have hr := nat_lt_two_n rhs
  have hmod : ∀ v < 4 * n, bnMod W (ofNat v) order = bnMod exact (ofNat v) order := by
    intro v hv
    have hlt : v < (2 ^ 30) ^ 9 := hv.trans (by norm_num [n])
    have hn : n < (2 ^ 30) ^ 9 := by norm_num [n]
    rw [order_eq, bnMod_ofNat hlt hn, bnMod_ofNat hlt hn]
  have hsub := hmod (lhs.nat + 2 * n - rhs.nat) (by omega)
  have hneg := hmod (2 * n - lhs.nat) (by omega)
  simp only [unreduced, difference_eq, negation_eq, hsub, hneg]
  simp only [scalarToBn_eq, bnAddmod_order hl hr, bnMultiply_order hr hl]

theorem modNegate_emod : ((modNegate W a).nat : ℤ) = -(a.nat : ℤ) % n := by
  have ha := nat_lt_two_n a
  rw [modNegate_nat]
  push_cast [ha.le]
  rw [show (2 * n - a.nat : ℤ) = -a.nat + n * 2 by ring, Int.add_mul_emod_self_left]

/-- **The arithmetic of scalars is arithmetic modulo `n`**, on any 32 bytes and
    for every `Arith`: nowhere does wrapping change a number. -/
theorem scalar_arithmetic (W : Arith) (a b : Scalar) :
    (modAdd W a b).nat = (a.nat + b.nat) % n ∧
      (modMul W a b).nat = a.nat * b.nat % n ∧
      ((modNegate W a).nat : ℤ) = -(a.nat : ℤ) % n ∧
      (a.nat < n → modSub W (modAdd W a b) b = a) ∧
      unreduced W a b = unreduced exact a b ∧ modSub W a b = modSub exact a b := by
  refine ⟨modAdd_nat, modMul_nat, modNegate_emod, fun ha => Bytes.nat_injective ?_,
    unreduced_eq W a b, Bytes.nat_injective ?_⟩
  · have hb := nat_lt_two_n b
    have hsum : (a.nat + b.nat) % n < n := Nat.mod_lt _ n_pos
    rw [modSub_nat, modAdd_nat, if_pos (by omega)]
    have hcancel : (a.nat + b.nat) % n + 2 * n - b.nat ≡ a.nat [MOD n] := by
      refine Nat.ModEq.add_right_cancel' b.nat ?_
      rw [Nat.sub_add_cancel (by omega)]
      calc (a.nat + b.nat) % n + 2 * n ≡ (a.nat + b.nat) % n [MOD n] :=
            Nat.add_mul_modulus_modEq_iff.2 rfl
        _ ≡ a.nat + b.nat [MOD n] := Nat.mod_modEq _ _
    rw [hcancel, Nat.mod_eq_of_lt ha]
  · rw [modSub_nat, modSub_nat]

/-- Three and `n`, which is not canonical. -/
theorem modSub_modAdd_three :
    modSub machine (modAdd machine (.ofNat 32 3) (.ofNat 32 n)) (.ofNat 32 n) = .ofNat 32 3 :=
  (scalar_arithmetic machine (.ofNat 32 3) (.ofNat 32 n)).2.2.2.1 (by decide +kernel)

/-! ## Subtraction against negation -/

theorem modAdd_modNegate_emod :
    ((modAdd W a (modNegate W b)).nat : ℤ) = ((a.nat : ℤ) - b.nat) % n := by
  rw [modAdd_nat]
  push_cast
  rw [modNegate_emod, Int.add_emod_emod, sub_eq_add_neg]

/-- **Subtracting is adding the negation exactly when `lhs` exceeds `rhs` by less
    than `n`.**  Beyond that the two calls of `bn_mod` leave `lhs - rhs` itself. -/
theorem modSub_eq_modAdd_iff (W : Arith) (lhs rhs : Scalar) :
    (modSub W lhs rhs = modAdd W lhs (modNegate W rhs) ∧
        ((modSub W lhs rhs).nat : ℤ) = ((lhs.nat : ℤ) - rhs.nat) % n) ↔
      lhs.nat < rhs.nat + n := by
  have hr := nat_lt_two_n rhs
  have hn := n_pos
  have hbytes : modSub W lhs rhs = modAdd W lhs (modNegate W rhs) ↔
      ((modSub W lhs rhs).nat : ℤ) = ((lhs.nat : ℤ) - rhs.nat) % n := by
    rw [← modAdd_modNegate_emod, Int.natCast_inj, Bytes.nat_inj]
  rw [hbytes, and_self, modSub_nat]
  split
  · next h =>
    push_cast [show rhs.nat ≤ lhs.nat + 2 * n by omega]
    rw [show (lhs.nat + 2 * n - rhs.nat : ℤ) = lhs.nat - rhs.nat + n * 2 by ring,
      Int.add_mul_emod_self_left]
    exact iff_of_true rfl h
  · next h =>
    have hlt : ((lhs.nat : ℤ) - rhs.nat) % n < n := Int.emod_lt_of_pos _ (by omega)
    refine iff_of_false (fun heq => ?_) h
    rw [← heq] at hlt
    omega

/-- At `n` and zero `mod_sub` returns `n`, the other path zero. -/
theorem modSub_order_zero :
    modSub machine (.ofNat 32 n) (.ofNat 32 0) = .ofNat 32 n ∧
      modSub machine (.ofNat 32 n) (.ofNat 32 0) ≠
        modAdd machine (.ofNat 32 n) (modNegate machine (.ofNat 32 0)) := by
  decide +kernel

end CotMta.Server.CryptoOps
