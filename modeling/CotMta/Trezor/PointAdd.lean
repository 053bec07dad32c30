/-
  What `point_add` and `point_double` compute.

  On reduced coordinates they add in the group.  `pointAdd_chord` says more: what
  becomes of a first ordinate that is not reduced.  The subtractions of
  `bn_subtractmod` then borrow from beyond the top limb, which is `2 ^ 270` too
  much.
-/
import CotMta.Trezor.EcdsaSpec

namespace CotMta.Trezor

open Limbs Bignum256 CurvePoint Secp256k1 ShortWeierstrass PartialReduction

variable {W : Arith} {a b l t v x y x' y' : ℕ} {P Q R : E.Point}

/-! ## The arithmetic -/

/-- What `bn_multiply` makes of a product: its remainder, or `p` more. -/
def product (R : ℕ) : ℕ := R % p + if FallsShort p (2 ^ 256 - p) (2 ^ 30) R then p else 0

theorem product_lt {R : ℕ} : product R < 2 * p := by
  have h := Nat.mod_lt R p_pos
  rw [product]
  split <;> omega

theorem product_cast {R : ℕ} : (product R : Fp) = R := by
  rw [product, Nat.cast_add, ZMod.natCast_mod]
  split
  · rw [ZMod.natCast_self, add_zero]
  · rw [Nat.cast_zero, add_zero]

theorem bnMultiply_product (ha : a < (2 ^ 30) ^ 9) (hb : b < (2 ^ 30) ^ 9)
    (hab : a * b < (2 ^ 30) ^ 9 * (2 * 2 ^ 256)) :
    bnMultiply W (ofNat a) (ofNat b) prime = ofNat (product (a * b)) := by
  have hreduce : reduce p (2 ^ 256) (2 ^ 30) (7 + 2) (a * b) = product (a * b) :=
    reduce_eq (Nat.add_sub_cancel' p_le) p_pos (by norm_num) (by norm_num [p]) hab
  rw [prime_eq, bnMultiply_ofNat ha hb p_le le_p hab, hreduce]

/-- What `bn_subtractmod` makes of two numbers. -/
def difference (a b : ℕ) : ℕ := ((2 ^ 30) ^ 9 + a + 2 * p - b) % (2 ^ 30) ^ 9

theorem difference_lt : difference a b < (2 ^ 30) ^ 9 := Nat.mod_lt _ (by norm_num)

theorem difference_of_le (ha : a < 4 * p) (h : b ≤ a + 2 * p) :
    difference a b = a + 2 * p - b := by
  simp only [difference, p] at *
  omega

/-- The borrow. -/
theorem difference_of_lt (h : a + 2 * p < b) :
    difference a b = (2 ^ 30) ^ 9 + a + 2 * p - b := Nat.mod_eq_of_lt (by omega)

theorem difference_cast (ha : a < 4 * p) (h : b ≤ a + 2 * p) :
    (difference a b : Fp) = (a : Fp) - b := by
  rw [difference_of_le ha h, Nat.cast_sub h, Nat.cast_add, Nat.cast_mul, ZMod.natCast_self,
    mul_zero, add_zero]

theorem bnSubtractmod_prime (ha : a < (2 ^ 30) ^ 9) (hb : b < (2 ^ 30) ^ 9) :
    bnSubtractmod W (ofNat a) (ofNat b) prime = ofNat (difference a b) := by
  rw [prime_eq, bnSubtractmod_eq ha hb p_lt_limbs]
  exact ofNat_congr (Nat.mod_mod _ _).symm

/-- The two steps that reduce a number in full. -/
theorem bnMod_bnFastMod (ha : a < (2 ^ 30) ^ 9) :
    bnMod W (bnFastMod W (ofNat a) prime) prime = ofNat (a % p) := by
  have hle : p * (a / 2 ^ 256) ≤ a := by
    refine (Nat.mul_le_mul_right _ p_le).trans ?_
    omega
  have hlt : a - p * (a / 2 ^ 256) < 2 * p := by
    simp only [p] at *
    omega
  have hfast : bnFastMod W (ofNat a) prime = ofNat (a - p * (a / 2 ^ 256)) := by
    rw [prime_eq, bnFastMod_ofNat ha p_le]
  rw [hfast, bnMod_prime hlt, Nat.sub_mul_mod hle]

theorem bnMultK_prime {k : ℕ} (ha : a < 2 * p) (hk : k = 2 ∨ k = 3) :
    ∃ c, bnMultK W (ofNat a) k prime = ofNat c ∧ c < 2 * p ∧ (c : Fp) = (k : Fp) * a := by
  have hlt : k * a - p * (k * (a / 2 ^ 240) / 2 ^ 16) < 2 * p := by
    rcases hk with rfl | rfl <;> simp only [p] at * <;> omega
  have hle : p * (k * (a / 2 ^ 240) / 2 ^ 16) ≤ k * a := by
    rcases hk with rfl | rfl <;> simp only [p] at * <;> omega
  refine ⟨_, ?_, hlt, ?_⟩
  · rw [prime_eq]
    exact bnMultK_ofNat (ha.trans two_p_lt) (by omega) p_le
  · rw [Nat.cast_sub hle, Nat.cast_mul, Nat.cast_mul, ZMod.natCast_self, zero_mul, sub_zero]

/-! ## Lines -/

namespace Ecdsa

/-- Only the last subtraction can borrow. -/
theorem thirdPoint_eq (hl : l < 2 * p) (ht : t < 2 * p) (hx : x < p) (hv : v < (2 ^ 30) ^ 9) :
    ∃ X < p, (X : Fp) = (l : Fp) ^ 2 - t ∧
      thirdPoint W (ofNat l) (ofNat t) ⟨ofNat x, ofNat v⟩ =
        ⟨ofNat X, ofNat (difference (product (l * (x + 2 * p - X))) v % p)⟩ := by
  have hsmall : ∀ {c : ℕ}, c < 4 * p → c < (2 ^ 30) ^ 9 := fun h => h.trans (by norm_num [p])
  have hmul : ∀ {b : ℕ}, b < 4 * p →
      bnMultiply W (ofNat l) (ofNat b) prime = ofNat (product (l * b)) := by
    intro b hb
    refine bnMultiply_product (hl.trans two_p_lt) (hsmall hb) ?_
    exact (Nat.mul_lt_mul'' hl hb).trans (by norm_num [p])
  have hsq : product (l * l) < 2 * p := product_lt
  refine ⟨difference (product (l * l)) t % p, Nat.mod_lt _ p_pos, ?_, ?_⟩
  · rw [ZMod.natCast_mod, difference_cast (by omega) (by omega), product_cast, Nat.cast_mul,
      pow_two]
  · have hX := Nat.mod_lt (difference (product (l * l)) t) p_pos
    simp only [thirdPoint]
    rw [hmul (by omega), bnSubtractmod_prime (hsq.trans two_p_lt) (ht.trans two_p_lt),
      bnMod_bnFastMod difference_lt]
    generalize difference (product (l * l)) t % p = X at hX
    rw [bnSubtractmod_prime (hsmall (by omega)) (hsmall (by omega)),
      difference_of_le (by omega) (by omega), hmul (by omega),
      bnSubtractmod_prime (product_lt.trans two_p_lt) hv, bnMod_bnFastMod difference_lt]

/-- With reduced coordinates nothing is borrowed. -/
theorem thirdPoint_ofPoint (hl : l < 2 * p) (ht : t < 2 * p) (hx : x < p) (hy : y < p) {x' : Fp}
    (hsum : (t : Fp) = x + x')
    (h : IsAt R ((l : Fp) ^ 2 - x - x') ((l : Fp) * (x - ((l : Fp) ^ 2 - x - x')) - y)) :
    thirdPoint W (ofNat l) (ofNat t) ⟨ofNat x, ofNat y⟩ = ofPoint R := by
  obtain ⟨X, hX, hXcast, heq⟩ := thirdPoint_eq (W := W) hl ht hx
    (hy.trans p_lt_limbs)
  have hprod : product (l * (x + 2 * p - X)) < 2 * p := product_lt
  have hX' : (X : Fp) = (l : Fp) ^ 2 - x - x' := by
    rw [hXcast, hsum, sub_sub]
  rw [heq]
  refine (ofPoint_of_atNat ⟨hX, Nat.mod_lt _ p_pos, ?_⟩).symm
  rw [ZMod.natCast_mod, difference_cast (by omega) (by omega), product_cast, Nat.cast_mul,
    Nat.cast_sub (by omega), Nat.cast_add, Nat.cast_mul, ZMod.natCast_self, mul_zero, add_zero,
    hX']
  exact h

/-! ## The cases of `point_add` -/

/-- What `bn_inverse` says of itself: it inverts what is not zero modulo the
    prime, and the result is smaller than the prime. -/
def InvertsPrime (bn_inverse : Bignum256 → Bignum256) : Prop :=
  ∀ v : ℕ, v < (2 ^ 30) ^ 9 → (v : Fp) ≠ 0 → bn_inverse (ofNat v) = ofNat ((v : Fp)⁻¹).val

/-- The slope of the chord, partly reduced. -/
def lambdaVal (x y x' y' : ℕ) : ℕ := product (((x' : Fp) - x)⁻¹.val * difference y' y)

theorem pointIsInfinity_ofNat (hy : y < (2 ^ 30) ^ 9) (hy0 : y ≠ 0) :
    pointIsInfinity ⟨ofNat x, ofNat y⟩ = false := by
  rw [pointIsInfinity, bnIsZero_ofNat hy, decide_eq_false hy0, Bool.and_false]

variable {bn_inverse : Bignum256 → Bignum256}

/-- Two abscissas: the ordinates are any normalized numbers. -/
theorem pointAdd_chord (hinv : InvertsPrime bn_inverse) (hx : x < p) (hx' : x' < p)
    (hy : y < (2 ^ 30) ^ 9) (hy' : y' < (2 ^ 30) ^ 9) (hy0 : y ≠ 0) (hy0' : y' ≠ 0)
    (hne : x ≠ x') :
    ∃ sum < 2 * p, (sum : Fp) = x + x' ∧
      pointAdd W bn_inverse ⟨ofNat x, ofNat y⟩ ⟨ofNat x', ofNat y'⟩ =
        thirdPoint W (ofNat (lambdaVal x y x' y')) (ofNat sum) ⟨ofNat x, ofNat y⟩ := by
  have hxl := hx.trans p_lt_limbs
  have hxl' := hx'.trans p_lt_limbs
  have hequal : bnIsEqual (ofNat x) (ofNat x') = false := by
    rw [bnIsEqual_ofNat hxl hxl', decide_eq_false hne]
  have hcast : (difference x' x : Fp) = (x' : Fp) - x := difference_cast (by omega) (by omega)
  have hcast0 : (difference x' x : Fp) ≠ 0 := by
    rw [hcast]
    exact sub_ne_zero.2 fun h => hne (natCast_inj hx' hx h).symm
  have hinvlt : ((x' : Fp) - x)⁻¹.val < p := ZMod.val_lt _
  have hlambda : bnMultiply W (ofNat ((x' : Fp) - x)⁻¹.val) (ofNat (difference y' y)) prime =
      ofNat (lambdaVal x y x' y') := by
    refine bnMultiply_product (hinvlt.trans p_lt_limbs) difference_lt ?_
    exact (Nat.mul_lt_mul'' hinvlt difference_lt).trans (by norm_num [p])
  obtain ⟨sum, hsum, hlt, hsumcast⟩ := bnAddmod_prime (W := W) (a := x) (b := x')
    (by omega) (by omega)
  refine ⟨sum, hlt, hsumcast, ?_⟩
  simp only [pointAdd, pointIsEqual, pointIsNegativeOf, pointIsInfinity_ofNat hy hy0,
    pointIsInfinity_ofNat hy' hy0', hequal, Bool.false_and, Bool.not_false, if_true,
    Bool.false_eq_true, if_false, hsum]
  rw [bnSubtractmod_prime hxl' hxl, hinv _ difference_lt hcast0, hcast,
    bnSubtractmod_prime hy' hy, hlambda]

/-- One abscissa and two numbers for the ordinate: whatever they are, the points
    count as opposite. -/
theorem pointAdd_vertical (hy : y < (2 ^ 30) ^ 9) (hy' : y' < (2 ^ 30) ^ 9) (hy0 : y ≠ 0)
    (hy0' : y' ≠ 0) (hne : y ≠ y') :
    pointAdd W bn_inverse ⟨ofNat x, ofNat y⟩ ⟨ofNat x, ofNat y'⟩ = pointSetInfinity := by
  have hequal : bnIsEqual (ofNat y) (ofNat y') = false := by
    rw [bnIsEqual_ofNat hy hy', decide_eq_false hne]
  have hself : bnIsEqual (ofNat x) (ofNat x) = true := by rw [bnIsEqual_eq, decide_eq_true rfl]
  have hzero : bnIsZero (ofNat y) = false := by rw [bnIsZero_ofNat hy, decide_eq_false hy0]
  simp only [pointAdd, pointIsEqual, pointIsNegativeOf, pointIsInfinity_ofNat hy hy0,
    pointIsInfinity_ofNat hy' hy0', hequal, hself, hzero, Bool.and_false, Bool.not_true,
    Bool.not_false, if_true, Bool.false_eq_true, if_false]

theorem pointDouble_ofPoint (hinv : InvertsPrime bn_inverse) (hP : P ≠ 0) :
    pointDouble W bn_inverse (ofPoint P) = ofPoint (P + P) := by
  obtain ⟨x, y, hat⟩ := exists_atNat hP
  have hxlt := hat.x_lt
  have hylt := hat.y_lt
  have hy := hat.ordinate_ne_zero
  have hyl := hylt.trans p_lt_limbs
  have h2y : (2 : Fp) * y ≠ 0 := mul_ne_zero two_ne_zero hat.y_ne_zero
  obtain ⟨d, hd, hdlt, hdcast⟩ := bnMultK_prime (W := W) (a := y) (by omega) (Or.inl rfl)
  obtain ⟨s, hs, hslt, hscast⟩ := bnMultiply_prime (W := W) (a := x) (b := x)
    (lt_room (by omega)) (lt_room (by omega))
  obtain ⟨q, hq, hqlt, hqcast⟩ := bnMultK_prime (W := W) hslt (Or.inr rfl)
  have hsubi : bnSubi W (ofNat q) 0 prime = ofNat (q + p) := by
    rw [prime_eq]
    exact bnSubi_zero (hqlt.trans two_p_lt) p_lt_limbs
  have hdcast' : (d : Fp) = 2 * y := by exact_mod_cast hdcast
  have hinverse : bn_inverse (ofNat d) = ofNat ((2 : Fp) * y)⁻¹.val := by
    rw [hinv d (hdlt.trans two_p_lt) (by rwa [hdcast']), hdcast']
  obtain ⟨l, hl, hllt, hlcast⟩ := bnMultiply_prime (W := W) (a := q + p)
    (b := ((2 : Fp) * y)⁻¹.val) ((Nat.add_lt_add_right hqlt p).trans (by norm_num [p, room]))
    ((ZMod.val_lt _).trans (by norm_num [p, room]))
  have hslope : (l : Fp) * (2 * y) = 3 * (x : Fp) ^ 2 := by
    rw [hlcast, ZMod.natCast_zmod_val, mul_assoc, inv_mul_cancel₀ h2y, mul_one, Nat.cast_add,
      ZMod.natCast_self, add_zero, hqcast, hscast, pow_two]
    rfl
  have hzero : bnIsZero (ofNat y) = false := by rw [bnIsZero_ofNat hyl, decide_eq_false hy]
  rw [ofPoint_of_atNat hat]
  simp only [pointDouble, pointIsInfinity_ofNat hyl hy, hzero, Bool.false_eq_true, if_false, hd,
    hinverse, hs, hq, hsubi, hl, bnLshift_ofNat]
  refine thirdPoint_ofPoint hllt (by omega) hxlt hylt ?_ (hat.isAt.add_self h2y hslope)
  rw [Nat.cast_mul, Nat.cast_two, two_mul]

/-- **`point_add` on reduced coordinates is the addition of the group.** -/
theorem pointAdd_ofPoint (hinv : InvertsPrime bn_inverse) (hP : P ≠ 0) (hQ : Q ≠ 0) :
    pointAdd W bn_inverse (ofPoint P) (ofPoint Q) = ofPoint (P + Q) := by
  obtain ⟨x, y, hat⟩ := exists_atNat hP
  obtain ⟨x', y', hat'⟩ := exists_atNat hQ
  have hyl := hat.y_lt.trans p_lt_limbs
  have hyl' := hat'.y_lt.trans p_lt_limbs
  have hy0 := hat.ordinate_ne_zero
  have hy0' := hat'.ordinate_ne_zero
  rcases eq_or_ne x x' with rfl | hne
  · rcases hat.isAt.eq_or_eq_neg hat'.isAt with rfl | rfl
    · have hdouble := pointDouble_ofPoint (W := W) hinv hP
      have hself : pointIsEqual (ofPoint P) (ofPoint P) = true := by
        rw [pointIsEqual, bnIsEqual_eq, bnIsEqual_eq, decide_eq_true rfl, decide_eq_true rfl]
        rfl
      rw [pointAdd, pointIsInfinity_ofPoint, decide_eq_false hP, hself]
      simp only [Bool.false_eq_true, if_false, if_true]
      exact hdouble
    · obtain ⟨-, rfl⟩ := hat.unique hat'.neg
      have hodd := p_odd
      rw [ofPoint_of_atNat hat, ofPoint_of_atNat hat',
        pointAdd_vertical hyl hyl' hy0 hy0' (by omega), neg_add_cancel]
      rfl
  · obtain ⟨sum, hlt, hsum, heq⟩ := pointAdd_chord (W := W) hinv hat.x_lt hat'.x_lt hyl hyl' hy0
      hy0' hne
    have hx : (x : Fp) ≠ x' := fun h => hne (natCast_inj hat.x_lt hat'.x_lt h)
    have hslope : (lambdaVal x y x' y' : Fp) * ((x' : Fp) - x) = y' - y := by
      have hd0 : (x' : Fp) - x ≠ 0 := sub_ne_zero.2 hx.symm
      have hylt := hat.y_lt
      have hylt' := hat'.y_lt
      rw [lambdaVal, product_cast, Nat.cast_mul, ZMod.natCast_zmod_val,
        difference_cast (by omega) (by omega), mul_right_comm, inv_mul_cancel₀ hd0, one_mul]
    rw [ofPoint_of_atNat hat, ofPoint_of_atNat hat', heq]
    exact thirdPoint_ofPoint product_lt hlt hat.x_lt hat.y_lt hsum
      (hat.isAt.add_of_ne hat'.isAt hx hslope)

end Ecdsa

end CotMta.Trezor
