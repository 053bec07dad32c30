/-
  The group operations of trezor on machine words.

  `pointMultiply` and `scalarMultiply` with `bn_inverse` and the table of
  `secp256k1.table` in place of their parameters, and the operations that the
  server calls: what is assumed of them elsewhere holds.
-/
import CotMta.Trezor.InverseSpec
import CotMta.Trezor.TableSpec

namespace CotMta.Trezor

open Limbs Bignum256 CurvePoint Secp256k1 Ecdsa

variable (W : Arith)

/-- `bn_inverse` modulo the prime.  The zero of an inversion that aborts is never used:
    whatever is proved of this function is of numbers that are not zero modulo the
    prime, and `bn_inverse` returns for them (`bnInverse_prime`). -/
def bnInversePrime (x : Bignum256) : Bignum256 := (bnInverse W 513 x prime).getD bnZero

/-- The operations of the server.  What is drawn to blind a multiplication may
    depend on its arguments.  A multiplication that fails leaves its result as it
    was, here infinity; `machineOps_lawful` is of scalars below the order and draws
    that end, with which none fails. -/
def machineOps (draws : Bignum256 → CurvePoint → List Bignum256) : GroupOps where
  point_multiply k p :=
    (pointMultiply W (bnInversePrime W) (draws k p) k p).getD pointSetInfinity
  scalar_multiply k :=
    (scalarMultiply W (bnInversePrime W) cp (draws k pointSetInfinity) k).getD pointSetInfinity
  point_add := pointAdd W (bnInversePrime W)

variable {W} {k : ℕ} {P : E.Point} {draws : Bignum256 → CurvePoint → List Bignum256}

theorem bnInverse_of_prime {m v : ℕ} [Fact m.Prime] (hodd : m % 2 = 1) (hlow : 2 ^ 256 - 2 ^ 224 ≤ m)
    (hm : m < 2 ^ 256) (hv : v < (2 ^ 30) ^ 9) (hne : (v : ZMod m) ≠ 0) :
    bnInverse W 513 (ofNat v) (ofNat m) = some (ofNat ((v : ZMod m)⁻¹).val) := by
  have hcop : v.Coprime m := (ZMod.isUnit_iff_coprime v m).1 hne.isUnit
  obtain ⟨w, hw, heq, hprod⟩ := bnInverse_eq (W := W) hodd hlow hm hv hcop le_rfl
  rw [heq, ← eq_inv_of_mul_eq_one_right hprod, ZMod.val_natCast_of_lt hw]

theorem bnInverse_prime {v : ℕ} (hv : v < (2 ^ 30) ^ 9) (hne : (v : Fp) ≠ 0) :
    bnInverse W 513 (ofNat v) prime = some (ofNat ((v : Fp)⁻¹).val) := by
  rw [prime_eq]
  exact bnInverse_of_prime (by norm_num [p]) (by norm_num [p]) (by norm_num [p]) hv hne

/-- **Inverses modulo both primes of the curve**, whatever is not zero modulo them. -/
theorem bnInverse_moduli {v : ℕ} (hv : v < (2 ^ 30) ^ 9) :
    ((v : Fp) ≠ 0 → bnInverse W 513 (ofNat v) prime = some (ofNat ((v : Fp)⁻¹).val)) ∧
    ((v : ZMod n) ≠ 0 → bnInverse W 513 (ofNat v) order = some (ofNat ((v : ZMod n)⁻¹).val)) := by
  refine ⟨bnInverse_prime hv, fun hne => ?_⟩
  rw [order_eq]
  exact bnInverse_of_prime (by norm_num [n]) (by norm_num [n]) (by norm_num [n]) hv hne

/-- The inverse of two modulo the order. -/
theorem bnInverse_moduli_two :
    bnInverse machine 513 (ofNat 2) order = some (ofNat (((2 : ℕ) : ZMod n)⁻¹).val) := by
  refine (bnInverse_moduli (by norm_num)).2 ?_
  rw [Ne, ZMod.natCast_eq_zero_iff]
  exact Nat.not_dvd_of_pos_of_lt (by norm_num) (by norm_num [n])

theorem invertsPrime_bnInversePrime : InvertsPrime (bnInversePrime W) := by
  intro v hv hne
  rw [bnInversePrime, bnInverse_prime hv hne, Option.getD_some]

/-- The operations on machine words compute in the group, if each blinding ends. -/
theorem machineOps_lawful (hdraws : ∀ k p, (generateKRandom prime (draws k p)).isSome) :
    (machineOps W draws).Lawful where
  point_multiply {k P} _ hk hP := by
    have hlimbs : k < (2 ^ 30) ^ 9 := hk.trans (by norm_num [n])
    simp only [machineOps]
    rw [pointMultiply_ofPoint invertsPrime_bnInversePrime hP hlimbs,
      if_pos ⟨hk, Or.inr (hdraws _ _)⟩, Option.getD_some]
  scalar_multiply {k} _ hk := by
    have hlimbs : k < (2 ^ 30) ^ 9 := hk.trans (by norm_num [n])
    simp only [machineOps]
    rw [scalarMultiply_ofNat invertsPrime_bnInversePrime G_isAt.ne_zero cp_multiples hlimbs,
      if_pos ⟨hk, Or.inr (hdraws _ _)⟩, Option.getD_some]
  point_add := pointAdd_ofPoint invertsPrime_bnInversePrime

/-- **Both multiplications compute in the group**, with the inverse and the table of
    the source: they return for a scalar below the order, if the blinding ends. -/
theorem multiplies_in_group {draws : List Bignum256} (hP : P ≠ 0) (hk : k < (2 ^ 30) ^ 9) :
    pointMultiply W (bnInversePrime W) draws (ofNat k) (ofPoint P) =
      (if k < n ∧ (k = 0 ∨ (generateKRandom prime draws).isSome) then some (ofPoint (k • P))
       else none) ∧
    scalarMultiply W (bnInversePrime W) cp draws (ofNat k) =
      if k < n ∧ (k = 0 ∨ (generateKRandom prime draws).isSome) then some (ofPoint (k • G))
      else none :=
  ⟨pointMultiply_ofPoint invertsPrime_bnInversePrime hP hk,
    scalarMultiply_ofNat invertsPrime_bnInversePrime G_isAt.ne_zero cp_multiples hk⟩

/-- Five times the generator, blinded with one. -/
theorem multiplies_in_group_five :
    scalarMultiply machine (bnInversePrime machine) cp [ofNat 1] (ofNat 5) =
      some (ofPoint (5 • G)) := by
  have hdraws : (generateKRandom prime [ofNat 1]).isSome := by decide +kernel
  refine (multiplies_in_group G_isAt.ne_zero (by norm_num)).2.trans ?_
  exact if_pos ⟨by norm_num [n], Or.inr hdraws⟩

end CotMta.Trezor
