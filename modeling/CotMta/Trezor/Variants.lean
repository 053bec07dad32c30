/-
  The code of trezor under its other options, `USE_INVERSE_FAST` and
  `USE_PRECOMPUTED_CP` being zero: small but slow, and with the same results.
-/
import CotMta.Trezor.Operations

namespace CotMta.Trezor

open Limbs Bignum256 CurvePoint Secp256k1 Ecdsa

section
variable (W : Arith)

/-- `bn_inverse` by `x ^ (prime - 2)`; its loop is that of `bn_sqrt`. -/
def bnInverseSmall (x prime : Bignum256) : Bignum256 :=
  let limb (i : ℕ) := if i = 0 then word ((prime.limb i : ℤ) - 2) else prime.limb i
  let r := (List.range 9).foldl (fun r i => bnSqrtLimb W prime i 30 (limb i) r.1 r.2) (x, bnOne)
  bnMod W r.2 prime

/-- `curve->G`. -/
def curveG : CurvePoint where
  x := .ofFn ([0x16f81798, 0x27ca056c, 0x1ce28d95, 0x26ff36cb, 0x70b0702, 0x18a573a, 0xbbac55a,
    0x199fbe77, 0x79be].getD · 0)
  y := .ofFn ([0x3b10d4b8, 0x311f423f, 0x28554199, 0x5ed1229, 0x1108a8fd, 0x13eff038, 0x3c4655da,
    0x369dc9a8, 0x483a].getD · 0)

/-- `scalar_multiply` without a table. -/
def scalarMultiplySmall (bn_inverse : Bignum256 → Bignum256) (draws : List Bignum256)
    (k : Bignum256) : Option CurvePoint := pointMultiply W bn_inverse draws k curveG

end

variable {W : Arith} {v k : ℕ} {bn_inverse : Bignum256 → Bignum256} {draws draws' : List Bignum256}

/-- Fermat's inverse, also of zero. -/
theorem pow_p_sub_two (a : Fp) : a ^ (p - 2) = a⁻¹ := by
  have hp : 2 < p := by norm_num [p]
  rcases eq_or_ne a 0 with rfl | ha
  · rw [zero_pow (by omega), inv_zero]
  · refine eq_inv_of_mul_eq_one_left ?_
    have hexp : p - 2 + 1 = p - 1 := by omega
    rw [← pow_succ, hexp, ZMod.pow_card_sub_one_eq_one ha]

theorem bnInverseSmall_prime (hv : v < room) :
    bnInverseSmall W (ofNat v) prime = ofNat ((v : Fp)⁻¹).val := by
  have hlimb : ∀ i < 9, (if i = 0 then word ((prime.limb i : ℤ) - 2) else prime.limb i) =
      (ofNat (p - 2)).limb i := by
    decide +kernel
  have hone : bnOne = ofNat 1 := by decide
  have hfold : (List.range 9).foldl (fun r i => bnSqrtLimb W prime i 30
      (if i = 0 then word ((prime.limb i : ℤ) - 2) else prime.limb i) r.1 r.2) (ofNat v, ofNat 1) =
      (List.range' 0 9).foldl (fun r i => bnSqrtLimb W prime i 30 ((ofNat (p - 2)).limb i) r.1 r.2)
        (ofNat v, ofNat 1) := by
    rw [← List.range_eq_range']
    refine List.foldl_ext _ _ _ fun r i hi => ?_
    rw [hlimb i (List.mem_range.1 hi)]
  have hvalue : value (2 ^ 30) ((List.range' 0 9).map (ofNat (p - 2)).limb) = p - 2 := by
    decide +kernel
  obtain ⟨r, hr, hlt, hcast⟩ := foldl_bnSqrtLimb (W := W) (e := p - 2) (k := 9) (i := 0) (x := v)
    (r := 1) rfl hv (by norm_num [p])
  have hval : ((v : Fp)⁻¹).val = r % p := by
    rw [hvalue, Nat.cast_one, one_mul] at hcast
    rw [← ZMod.val_natCast, hcast, pow_p_sub_two]
  simp only [bnInverseSmall, hone, hfold, hr]
  rw [bnMod_prime hlt, hval]

theorem curveG_eq : curveG = ofPoint G := by
  rw [ofPoint_of_atNat ⟨by norm_num [Gx, p], by norm_num [Gy, p], G_isAt⟩]
  decide +kernel

/-- **Both inversions agree** on what is partly reduced and not zero. -/
theorem inverse_variants (hv : v < room) (h0 : (v : Fp) ≠ 0) :
    bnInverse W 513 (ofNat v) prime = some (bnInverseSmall W (ofNat v) prime) := by
  have hlimbs : v < (2 ^ 30) ^ 9 := hv.trans (by norm_num [room])
  rw [bnInverse_prime hlimbs h0, bnInverseSmall_prime hv]

/-- The inverse of three. -/
theorem inverse_variants_three :
    bnInverse machine 513 (ofNat 3) prime = some (bnInverseSmall machine (ofNat 3) prime) := by
  refine inverse_variants (by norm_num [room]) ?_
  rw [Ne, ZMod.natCast_eq_zero_iff]
  exact Nat.not_dvd_of_pos_of_lt (by norm_num) (by norm_num [p])

/-- **Both multiplications of the generator agree**, whatever they draw. -/
theorem multiply_variants (hinv : InvertsPrime bn_inverse) (hk : k < (2 ^ 30) ^ 9)
    (hdraws : (generateKRandom prime draws).isSome = (generateKRandom prime draws').isSome) :
    scalarMultiply W bn_inverse cp draws (ofNat k) =
      scalarMultiplySmall W bn_inverse draws' (ofNat k) := by
  rw [scalarMultiplySmall, curveG_eq, scalarMultiply_ofNat hinv G_isAt.ne_zero cp_multiples hk,
    pointMultiply_ofPoint hinv G_isAt.ne_zero hk, hdraws]

/-- Five times the generator, under different blindings. -/
theorem multiply_variants_five :
    scalarMultiply machine (bnInversePrime machine) cp [ofNat 1] (ofNat 5) =
      scalarMultiplySmall machine (bnInversePrime machine) [ofNat 0, ofNat 3] (ofNat 5) :=
  multiply_variants invertsPrime_bnInversePrime (by norm_num) (by decide +kernel)

end CotMta.Trezor
