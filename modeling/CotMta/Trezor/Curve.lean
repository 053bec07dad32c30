/-
  `secp256k1.c`: the curve's constants in limbs, and the numbers they are.
-/
import CotMta.Secp256k1
import CotMta.Trezor.BignumMul

namespace CotMta.Trezor

open Bignum256

/-- `secp256k1.prime`. -/
def prime : Bignum256 :=
  ⟨[0x3ffffc2f, 0x3ffffffb, 0x3fffffff, 0x3fffffff, 0x3fffffff, 0x3fffffff, 0x3fffffff,
    0x3fffffff, 0xffff], rfl⟩

/-- `secp256k1.order`. -/
def order : Bignum256 :=
  ⟨[0x10364141, 0x3f497a33, 0x348a03bb, 0x2bb739ab, 0x3ffffeba, 0x3fffffff, 0x3fffffff,
    0x3fffffff, 0xffff], rfl⟩

/-- `secp256k1.b`. -/
def curveB : Bignum256 := ⟨[7, 0, 0, 0, 0, 0, 0, 0, 0], rfl⟩

theorem prime_eq : prime = ofNat Secp256k1.p := by decide +kernel
theorem order_eq : order = ofNat Secp256k1.n := by decide +kernel
theorem curveB_eq : curveB = ofNat 7 := by decide +kernel

/-- A *partly reduced number* of `bignum.c`: normalized and below `2 m`. -/
def PartlyReduced (m : ℕ) (a : Bignum256) : Prop := ∃ v < 2 * m, a = ofNat v

open Secp256k1 PartialReduction Limbs

variable {W : Arith} {a b m : ℕ}

/-- `bn_mod` on a partly reduced number. -/
theorem bnMod_eq (hm : 2 * m < (2 ^ 30) ^ 9) (ha : a < 2 * m) :
    bnMod W (ofNat a) (ofNat m) = ofNat (a % m) := by
  rw [bnMod_ofNat (ha.trans hm) (by omega)]
  congr 1
  split
  · next h => rw [Nat.mod_eq_of_lt h]
  · next h => rw [Nat.mod_eq_sub_mod (by omega), Nat.mod_eq_of_lt (by omega)]

/-! ## The group order as a modulus -/

theorem n_le : n ≤ 2 ^ 256 := by norm_num [n]
theorem n_pos : 0 < n := by norm_num [n]
theorem le_n : 2 ^ 256 - 2 ^ 224 ≤ n := by norm_num [n]
theorem two_n_lt : 2 * n < (2 ^ 30) ^ 9 := by norm_num [n]

/-- Any 32 bytes are partly reduced. -/
theorem nat_lt_two_n (w : Bytes 32) : w.nat < 2 * n := w.nat_lt.trans (by norm_num [n])

theorem bnMod_order (ha : a < 2 * n) : bnMod W (ofNat a) order = ofNat (a % n) := by
  rw [order_eq]
  exact bnMod_eq two_n_lt ha

/-- What `bn_addmod` makes of two partly reduced numbers. -/
def addmodVal (a b : ℕ) : ℕ := a + b - n * ((a / 2 ^ 240 + b / 2 ^ 240) / 2 ^ 16)

theorem bnAddmod_order (ha : a < 2 * n) (hb : b < 2 * n) :
    bnAddmod W (ofNat a) (ofNat b) order = ofNat (addmodVal a b) := by
  rw [order_eq]
  exact bnAddmod_ofNat (ha.trans two_n_lt) (hb.trans two_n_lt) n_le

theorem addmodVal_lt (ha : a < 2 * n) (hb : b < 2 * n) : addmodVal a b < 2 * n := by
  simp only [addmodVal, n] at *
  omega

theorem addmodVal_mod : addmodVal a b % n = (a + b) % n := by
  have hle : n * ((a / 2 ^ 240 + b / 2 ^ 240) / 2 ^ 16) ≤ a + b := by
    refine (Nat.mul_le_mul_right _ n_le).trans ?_
    omega
  exact Nat.sub_mul_mod hle

/-- What `bn_multiply` makes of a product. -/
def mulVal (R : ℕ) : ℕ := reduce n (2 ^ 256) (2 ^ 30) 9 R

/-- The range that the reduction asks of a product. -/
def ProductInRange (R : ℕ) : Prop := R < (2 ^ 30) ^ 9 * (2 * 2 ^ 256)

instance {R : ℕ} : Decidable (ProductInRange R) := inferInstanceAs (Decidable (_ < _))

theorem productInRange (ha : a < 2 * n) (hb : b < 2 * n) : ProductInRange (a * b) :=
  (Nat.mul_lt_mul'' ha hb).trans (by norm_num [n])

theorem ProductInRange.mulVal_lt {R : ℕ} (hR : ProductInRange R) : mulVal R < 2 * n :=
  (reduce_nine_lt n_le le_n hR).trans (by norm_num [n])

theorem mulVal_lt (ha : a < 2 * n) (hb : b < 2 * n) : mulVal (a * b) < 2 * n :=
  (productInRange ha hb).mulVal_lt

theorem mulVal_mod {R : ℕ} : mulVal R % n = R % n := reduce_nine_mod n_le

theorem mulVal_eq {R : ℕ} (hR : ProductInRange R) :
    mulVal R = R % n + if FallsShort n (2 ^ 256 - n) (2 ^ 30) R then n else 0 :=
  reduce_eq (Nat.add_sub_cancel' n_le) n_pos (by norm_num) (by norm_num [n]) hR

/-- Partly reduced numbers satisfy the assertions of `bn_multiply`. -/
theorem bnMultiplyChecked_order (ha : a < 2 * n) (hb : b < 2 * n) :
    bnMultiplyChecked W (ofNat a) (ofNat b) order = some (ofNat (mulVal (a * b))) := by
  rw [order_eq]
  exact bnMultiplyChecked_ofNat (ha.trans two_n_lt) (hb.trans two_n_lt) n_le le_n
    (productInRange ha hb)

theorem bnMultiply_order (ha : a < 2 * n) (hb : b < 2 * n) :
    bnMultiply W (ofNat a) (ofNat b) order = ofNat (mulVal (a * b)) :=
  bnMultiply_of_checked (bnMultiplyChecked_order ha hb)

/-! ## Words that nothing was stored in -/

/-- The value of the words of an uninitialised number. -/
def wordsVal (w : Words) : ℕ := (ofWords w).nat

theorem wordsVal_lt {w : Words} : ProductInRange (wordsVal w) :=
  nat_ofWords_lt.trans (by norm_num)

theorem bnOne_eq : bnOne = ofNat 1 := by decide +kernel

/-- One times any words: every column is a word, none wraps. -/
theorem bnMultiplyChecked_one {w : Words} :
    bnMultiplyChecked W bnOne (ofWords w) order = some (ofNat (mulVal (wordsVal w))) := by
  have hone : ∀ i, bnOne.limb i ≤ 1 := by
    intro i
    rcases Nat.lt_or_ge i 9 with h | h
    · rw [bnOne, limb_ofFn h]
      split <;> omega
    · rw [limb_of_le h]
      omega
  have hcolumn : ∀ i, column bnOne (ofWords w) i ≤ 2 ^ 64 - 2 ^ 34 := fun i =>
    (column_le hone (fun _ => limb_ofWords_lt.le) i).trans (by norm_num)
  have hnat : bnOne.nat * (ofWords w).nat = wordsVal w := by
    rw [bnOne_eq, nat_ofNat (by norm_num), one_mul, wordsVal]
  have hlong := bnMultiplyLong_eq (W := W) hcolumn (by
    rw [hnat]
    exact nat_ofWords_lt.trans (by norm_num))
  rw [hnat] at hlong
  rw [order_eq]
  exact bnMultiplyChecked_of_long n_le le_n hlong wordsVal_lt

/-- 32 bytes times any words: the assertions hold exactly for products in range. -/
theorem bnMultiplyChecked_words (ha : a < 2 ^ 256) {w : Words} :
    bnMultiplyChecked machine (ofNat a) (ofWords w) order =
      if ProductInRange (wrappedProduct (ofNat a) (ofWords w)) then
        some (ofNat (mulVal (wrappedProduct (ofNat a) (ofWords w)))) else none := by
  rw [order_eq]
  split
  next hR => exact bnMultiplyChecked_of_long n_le le_n (bnMultiplyLong_words ha) hR
  next hR =>
    refine bnMultiplyChecked_none n_le (bnMultiplyLong_words ha) (Nat.not_lt.1 hR) ?_
    have htop := wrappedProduct_top ha (w := w)
    rw [Nat.div_lt_iff_lt_mul (by norm_num)] at htop
    exact htop.trans_eq (by norm_num)

/-- The limbs of words and of `a` added, each sum cut to 32 bits. -/
def wordsSum (w : Words) (a : ℕ) : ℕ :=
  value (2 ^ 30) ((List.range 9).map fun i => ((ofWords w).limb i + (ofNat a).limb i) % 2 ^ 32)

/-- What `bn_addmod` makes of words and `a`. -/
def addWordsVal (w : Words) (a : ℕ) : ℕ :=
  wordsSum w a - n * (((ofWords w).limb 8 + (ofNat a).limb 8) % 2 ^ 32 / 2 ^ 16)

theorem wordsSum_eq {w : Words} : wordsSum w a = value (2 ^ 30) ((List.range 8).map fun i =>
    ((ofWords w).limb i + (ofNat a).limb i) % 2 ^ 32) +
      (2 ^ 30) ^ 8 * (((ofWords w).limb 8 + (ofNat a).limb 8) % 2 ^ 32) := by
  rw [wordsSum, List.range_succ, List.map_append, value_append, List.length_map,
    List.length_range]
  simp only [List.map_cons, List.map_nil, value, mul_zero, add_zero]

theorem addWordsVal_le {w : Words} :
    n * (((ofWords w).limb 8 + (ofNat a).limb 8) % 2 ^ 32 / 2 ^ 16) ≤ wordsSum w a := by
  refine (Nat.mul_le_mul_right _ n_le).trans ?_
  rw [wordsSum_eq]
  generalize ((ofWords w).limb 8 + (ofNat a).limb 8) % 2 ^ 32 = c
  omega

theorem addWordsVal_lt {w : Words} : addWordsVal w a < (2 ^ 30) ^ 9 := by
  have hlow := value_add_le (B := 2 ^ 30) (t := 5) (l := (List.range 8).map fun i =>
    ((ofWords w).limb i + (ofNat a).limb i) % 2 ^ 32) fun b hb => by
      obtain ⟨i, -, rfl⟩ := List.mem_map.1 hb
      omega
  rw [List.length_map, List.length_range] at hlow
  have hmul := Nat.mul_le_mul_right
    (((ofWords w).limb 8 + (ofNat a).limb 8) % 2 ^ 32 / 2 ^ 16) le_n
  have hc := Nat.mod_lt ((ofWords w).limb 8 + (ofNat a).limb 8) (show 0 < 2 ^ 32 by norm_num)
  rw [addWordsVal, wordsSum_eq]
  generalize n * (((ofWords w).limb 8 + (ofNat a).limb 8) % 2 ^ 32 / 2 ^ 16) = d at hmul ⊢
  generalize ((ofWords w).limb 8 + (ofNat a).limb 8) % 2 ^ 32 = c at hmul hc ⊢
  generalize value (2 ^ 30) ((List.range 8).map fun i =>
    ((ofWords w).limb i + (ofNat a).limb i) % 2 ^ 32) = v at hlow ⊢
  omega

theorem bnAddmod_words {w : Words} :
    bnAddmod machine (ofWords w) (ofNat a) order = ofNat (addWordsVal w a) := by
  have hlimb : ∀ i < 9, (ofFn fun i => machine.u32 ((ofWords w).limb i + (ofNat a).limb i)).limb i =
      ((ofWords w).limb i + (ofNat a).limb i) % 2 ^ 32 := by
    intro i hi
    rw [limb_ofFn hi]
    simp only [machine]
    omega
  have hsum : sumZ (fun i => ((ofFn fun i =>
      machine.u32 ((ofWords w).limb i + (ofNat a).limb i)).limb i : ℤ)) = wordsSum w a := by
    rw [sumZ_nat, ← value_limb, wordsSum]
    exact congrArg _ (congrArg _ (List.map_congr_left fun i hi => hlimb i (List.mem_range.1 hi)))
  have hn : n < (2 ^ 30) ^ 9 := by norm_num [n]
  rw [bnAddmod, order_eq]
  refine bnFastMod_eq (fun i hi => ?_) hn ?_
  · rw [hlimb i hi]
    exact Nat.mod_lt _ (by norm_num)
  · rw [hsum, hlimb 8 (by norm_num), Nat.shiftRight_eq_div_pow, addWordsVal,
      Nat.cast_sub addWordsVal_le, Nat.cast_mul]

end CotMta.Trezor
