/-
  `bn_multiply`: the long product and the nine reduction steps.

  The long product is exact where no column reaches `2 ^ 64`, and `wrappedProduct`
  where one does.  Step `k` of the reduction subtracts the multiple of
  `m · 2 ^ (30 k)` that the bits above `2 ^ (30 k + 256)` ask for, which is
  `PartialReduction.reduceStep` with `T = 2 ^ 256`; since `m` is a little below
  `2 ^ 256` this leaves the number below `2 ^ (30 k) · 2 ^ 257`, which is what
  the next step needs and what its assertions say.  Above that range the first
  step fails.
-/
import CotMta.Trezor.BignumSpec
import CotMta.Lib.PartialReduction
import Mathlib.Algebra.Order.BigOperators.Group.List

namespace CotMta.Trezor

open Limbs Bignum256 PartialReduction

variable {W : Arith} {a b m k R : ℕ}

/-! ## The long product -/

theorem foldl_u64 {f : ℕ → ℕ} : ∀ {js : List ℕ} {temp : ℕ}, temp + (js.map f).sum < 2 ^ 64 →
    js.foldl (fun temp j => W.u64 (temp + f j : ℕ)) temp = temp + (js.map f).sum
  | [], temp, _ => by simp
  | j :: js, temp, h => by
    simp only [List.map_cons, List.sum_cons] at h
    have hu : W.u64 (temp + f j : ℕ) = temp + f j := by
      exact_mod_cast W.u64_eq (temp + f j : ℕ) (by omega) (by exact_mod_cast (by omega))
    simp only [List.foldl_cons, List.map_cons, List.sum_cons, hu]
    rw [foldl_u64 (by omega), add_assoc]

/-- The sum of the products in column `i`. -/
def column (k x : Bignum256) (i : ℕ) : ℕ :=
  ((List.range' (i - 8) (min i 8 + 1 - (i - 8))).map fun j => k.limb j * x.limb (i - j)).sum

theorem column_le {k x : Bignum256} {K X : ℕ} (hk : ∀ i, k.limb i ≤ K) (hx : ∀ i, x.limb i ≤ X)
    (i : ℕ) : column k x i ≤ 9 * (K * X) := by
  refine (List.sum_le_card_nsmul _ (K * X) fun p hp => ?_).trans ?_
  · obtain ⟨j, -, rfl⟩ := List.mem_map.1 hp
    exact Nat.mul_le_mul (hk j) (hx (i - j))
  · rw [List.length_map, List.length_range', nsmul_eq_mul, Nat.cast_id]
    exact Nat.mul_le_mul_right _ (by omega)

/-- No column of normalized numbers wraps. -/
theorem column_ofNat_le (i : ℕ) : column (ofNat a) (ofNat b) i ≤ 2 ^ 64 - 2 ^ 34 :=
  (column_le (fun _ => limb_ofNat_lt.le) (fun _ => limb_ofNat_lt.le) i).trans (by norm_num)

theorem mulColumn_eq {k x : Bignum256} {i temp : ℕ} (h : temp < 2 ^ 34)
    (hc : column k x i ≤ 2 ^ 64 - 2 ^ 34) : mulColumn W k x i temp = temp + column k x i := by
  rw [mulColumn, column, ← foldl_u64 (W := W) (by rw [← column]; omega)]
  simp only [Nat.cast_add, Nat.cast_mul]

theorem bnMultiplyLongLoop_eq {k x : Bignum256} (hc : ∀ i, column k x i ≤ 2 ^ 64 - 2 ^ 34) :
    ∀ {is : List ℕ} {temp : ℕ}, temp < 2 ^ 34 →
      bnMultiplyLongLoop W k x temp is =
        limbs (2 ^ 30) is.length (temp + value (2 ^ 30) (is.map (column k x))) ++
          [W.u32 (((temp + value (2 ^ 30) (is.map (column k x))) / (2 ^ 30) ^ is.length : ℕ))]
  | [], temp, _ => by simp [bnMultiplyLongLoop, value]
  | i :: is, temp, h => by
    have hi := hc i
    have hlt : (temp + column k x i) >>> 30 < 2 ^ 34 := by
      rw [Nat.shiftRight_eq_div_pow]
      omega
    simp only [bnMultiplyLongLoop, mulColumn_eq h hi, bnMultiplyLongLoop_eq hc hlt,
      List.length_cons, List.map_cons, value, limbs, List.cons_append]
    rw [show 0x3FFFFFFF = 2 ^ 30 - 1 by norm_num, Nat.and_two_pow_sub_one_eq_mod, ← add_assoc,
      Nat.add_mul_mod_self_left, Nat.add_mul_div_left _ _ (by norm_num : 0 < 2 ^ 30),
      pow_succ' (2 ^ 30) is.length, ← Nat.div_div_eq_div_mul,
      Nat.add_mul_div_left _ _ (by norm_num : 0 < 2 ^ 30), Nat.shiftRight_eq_div_pow]

/-- The columns of the schoolbook product add up to the product. -/
theorem value_column (k x : Bignum256) :
    value (2 ^ 30) ((List.range 17).map (column k x)) = k.nat * x.nat := by
  rw [← value_limb, ← value_limb]
  generalize 2 ^ 30 = B
  simp only [List.range_succ, List.range_zero, List.nil_append, List.cons_append, List.map_cons,
    List.map_nil, value, column, List.range', List.sum_cons, List.sum_nil, Nat.reduceSub,
    Nat.reduceAdd, Nat.reduceLeDiff, Nat.min_def, reduceIte]
  ring

/-- The seventeen columns and the last carry are the eighteen limbs of the result. -/
theorem limbs_snoc (hR : R / (2 ^ 30) ^ 17 < 2 ^ 30) :
    limbs (2 ^ 30) 17 R ++ [W.u32 ((R / (2 ^ 30) ^ 17 : ℕ))] = limbs (2 ^ 30) 18 R := by
  have hu : W.u32 ((R / (2 ^ 30) ^ 17 : ℕ)) = R / (2 ^ 30) ^ 17 :=
    Arith.u32_natCast (hR.trans (by norm_num))
  rw [hu, show 18 = 17 + 1 from rfl, limbs_add]
  exact congrArg _ (congrArg (· :: []) (Nat.mod_eq_of_lt hR).symm)

/-- The long product is exact where no column wraps. -/
theorem bnMultiplyLong_eq {k x : Bignum256} (hc : ∀ i, column k x i ≤ 2 ^ 64 - 2 ^ 34)
    (hlt : k.nat * x.nat < (2 ^ 30) ^ 18) :
    bnMultiplyLong W k x = limbs (2 ^ 30) 18 (k.nat * x.nat) := by
  have htop : k.nat * x.nat / (2 ^ 30) ^ 17 < 2 ^ 30 := by
    rwa [Nat.div_lt_iff_lt_mul (by norm_num), ← pow_succ']
  rw [bnMultiplyLong, bnMultiplyLongLoop_eq hc (by norm_num), value_column, zero_add,
    List.length_range, limbs_snoc htop]

theorem bnMultiplyLong_ofNat (ha : a < (2 ^ 30) ^ 9) (hb : b < (2 ^ 30) ^ 9) :
    bnMultiplyLong W (ofNat a) (ofNat b) = limbs (2 ^ 30) 18 (a * b) := by
  rw [bnMultiplyLong_eq column_ofNat_le, nat_ofNat ha, nat_ofNat hb]
  rw [nat_ofNat ha, nat_ofNat hb]
  exact (Nat.mul_lt_mul'' ha hb).trans_eq (by norm_num)

/-! ## The long product of words -/

/-- Columns added up from a carry on, every sum cut to 64 bits. -/
def wrappedSum : ℕ → List ℕ → ℕ
  | temp, [] => temp
  | temp, c :: cs =>
    (temp + c) % 2 ^ 64 % 2 ^ 30 + 2 ^ 30 * wrappedSum ((temp + c) % 2 ^ 64 / 2 ^ 30) cs

/-- What `bn_multiply_long` makes of numbers with limbs of any 32 bits. -/
def wrappedProduct (k x : Bignum256) : ℕ := wrappedSum 0 ((List.range 17).map (column k x))

theorem foldl_machine {f : ℕ → ℕ} : ∀ {js : List ℕ} {temp : ℕ}, temp < 2 ^ 64 →
    js.foldl (fun temp j => machine.u64 (temp + f j : ℕ)) temp = (temp + (js.map f).sum) % 2 ^ 64
  | [], temp, h => by rw [List.foldl_nil, List.map_nil, List.sum_nil, add_zero, Nat.mod_eq_of_lt h]
  | j :: js, temp, h => by
    have hu : machine.u64 (temp + f j : ℕ) = (temp + f j) % 2 ^ 64 := by
      simp only [machine]
      omega
    rw [List.foldl_cons, hu, foldl_machine (Nat.mod_lt _ (by norm_num)), List.map_cons,
      List.sum_cons, Nat.mod_add_mod, add_assoc]

theorem mulColumn_machine {k x : Bignum256} {i temp : ℕ} (h : temp < 2 ^ 64) :
    mulColumn machine k x i temp = (temp + column k x i) % 2 ^ 64 := by
  rw [mulColumn, column, ← foldl_machine h]
  simp only [Nat.cast_add, Nat.cast_mul]

theorem bnMultiplyLongLoop_machine {k x : Bignum256} : ∀ {is : List ℕ} {temp : ℕ}, temp < 2 ^ 64 →
    bnMultiplyLongLoop machine k x temp is =
      limbs (2 ^ 30) is.length (wrappedSum temp (is.map (column k x))) ++
        [machine.u32 ((wrappedSum temp (is.map (column k x)) / (2 ^ 30) ^ is.length : ℕ))]
  | [], temp, _ => by simp [bnMultiplyLongLoop, wrappedSum]
  | i :: is, temp, h => by
    have hlt : (temp + column k x i) % 2 ^ 64 < 2 ^ 64 := Nat.mod_lt _ (by norm_num)
    have hnext : (temp + column k x i) % 2 ^ 64 / 2 ^ 30 < 2 ^ 64 :=
      (Nat.div_le_self _ _).trans_lt hlt
    have hdigit : (temp + column k x i) % 2 ^ 64 % 2 ^ 30 < 2 ^ 30 := Nat.mod_lt _ (by norm_num)
    simp only [bnMultiplyLongLoop, mulColumn_machine h, Nat.shiftRight_eq_div_pow,
      bnMultiplyLongLoop_machine hnext, List.length_cons, List.map_cons, wrappedSum, limbs,
      List.cons_append]
    rw [show 0x3FFFFFFF = 2 ^ 30 - 1 by norm_num, Nat.and_two_pow_sub_one_eq_mod,
      Nat.add_mul_mod_self_left, Nat.mod_mod, Nat.add_mul_div_left _ _ (by norm_num : 0 < 2 ^ 30),
      Nat.div_eq_of_lt hdigit, zero_add, pow_succ' (2 ^ 30) is.length, ← Nat.div_div_eq_div_mul,
      Nat.add_mul_div_left _ _ (by norm_num : 0 < 2 ^ 30), Nat.div_eq_of_lt hdigit, zero_add]

/-- The last carry comes from the last column. -/
theorem wrappedSum_concat_div (c : ℕ) : ∀ (cs : List ℕ) {temp : ℕ}, temp < 2 ^ 34 →
    wrappedSum temp (cs ++ [c]) / (2 ^ 30) ^ (cs.length + 1) ≤ (2 ^ 34 + c) / 2 ^ 30
  | [], temp, h => by
    simp only [List.nil_append, wrappedSum, List.length_nil, zero_add, pow_one]
    omega
  | c' :: cs, temp, _ => by
    have hlt : (temp + c') % 2 ^ 64 / 2 ^ 30 < 2 ^ 34 := by omega
    have hdigit : (temp + c') % 2 ^ 64 % 2 ^ 30 < 2 ^ 30 := Nat.mod_lt _ (by norm_num)
    rw [List.cons_append, wrappedSum, List.length_cons, pow_succ' (2 ^ 30) (cs.length + 1),
      ← Nat.div_div_eq_div_mul, Nat.add_mul_div_left _ _ (by norm_num : 0 < 2 ^ 30),
      Nat.div_eq_of_lt hdigit, zero_add]
    exact wrappedSum_concat_div c cs hlt

/-- A number below `2 ^ 256` and words: only 16 and 32 bits meet in the top column. -/
theorem wrappedProduct_top (ha : a < 2 ^ 256) {w : Words} :
    wrappedProduct (ofNat a) (ofWords w) / (2 ^ 30) ^ 17 < 2 ^ 30 := by
  have hk : (ofNat a).limb 8 < 2 ^ 16 := by
    rw [limb_ofNat_eight (ha.trans (by norm_num))]
    omega
  have hcolumn : column (ofNat a) (ofWords w) 16 ≤ 2 ^ 48 := by
    have hprod := Nat.mul_le_mul hk.le (limb_ofWords_lt (w := w) (i := 8)).le
    simpa [column] using hprod
  have htop := wrappedSum_concat_div (column (ofNat a) (ofWords w) 16)
    ((List.range 16).map (column (ofNat a) (ofWords w))) (by norm_num : 0 < 2 ^ 34)
  rw [List.length_map, List.length_range] at htop
  rw [wrappedProduct, List.range_succ, List.map_append, List.map_singleton]
  omega

/-- The long product on the machine, of a number below `2 ^ 256` and any words. -/
theorem bnMultiplyLong_words (ha : a < 2 ^ 256) {w : Words} :
    bnMultiplyLong machine (ofNat a) (ofWords w) =
      limbs (2 ^ 30) 18 (wrappedProduct (ofNat a) (ofWords w)) := by
  rw [bnMultiplyLong, bnMultiplyLongLoop_machine (by norm_num), List.length_range,
    ← wrappedProduct, limbs_snoc (wrappedProduct_top ha)]

/-! ## The reduction -/

/-- The bits of `res` from `2 ^ (30 i + 16)` on. -/
theorem coef_eq {i : ℕ} (hi : i ≤ 16) (hR : R / (2 ^ 30) ^ i < 2 ^ 31 * 2 ^ 16) :
    W.u32 ((limbs (2 ^ 30) 18 R).getD i 0 >>> 16 +
      (limbs (2 ^ 30) 18 R).getD (i + 1) 0 <<< 14 : ℕ) = R / (2 ^ 30) ^ i / 2 ^ 16 := by
  rw [getD_limbs (by omega), getD_limbs (by omega), pow_succ (2 ^ 30) i, ← Nat.div_div_eq_div_mul]
  generalize R / (2 ^ 30) ^ i = Q at hR ⊢
  have hu := W.u32_eq (Q / 2 ^ 16 : ℕ) (by omega) (by omega)
  rw [show (Q % 2 ^ 30) >>> 16 + (Q / 2 ^ 30 % 2 ^ 30) <<< 14 = Q / 2 ^ 16 by
    rw [Nat.shiftRight_eq_div_pow, Nat.shiftLeft_eq]; omega]
  exact_mod_cast hu

theorem sum_offset : valueZ (2 ^ 30) ((List.range 10).map offset) = 2 ^ 31 * (2 ^ 30) ^ 10 := by
  norm_num [offset, List.range_succ]

theorem limb_eq_getD {j : ℕ} (hm : m < (2 ^ 30) ^ 9) (hj : j < 10) :
    (ofNat m).limb j = (limbs (2 ^ 30) 10 m).getD j 0 := by
  rw [getD_limbs hj]
  rcases Nat.lt_or_ge j 9 with h | h
  · rw [limb_ofNat h, pow_mul]
  · obtain rfl : j = 9 := by omega
    rw [limb_of_le h, Nat.div_eq_of_lt hm, Nat.zero_mod]

/-- The ten limbs that a step rewrites hold the difference. -/
theorem ripple_step {M coef : ℕ} (hM : M < (2 ^ 30) ^ 10) (hm : m < (2 ^ 30) ^ 9)
    (hc : coef < 2 ^ 31) (hle : m * coef ≤ M) :
    (ripple 30 W.u64 0 ((List.range 10).map fun j =>
      offset j + (limbs (2 ^ 30) 10 M).getD j 0 - (ofNat m).limb j * coef)).1 =
      limbs (2 ^ 30) 10 (M - m * coef) := by
  have hentry : ∀ e ∈ (List.range 10).map (fun j =>
      offset j + ((limbs (2 ^ 30) 10 M).getD j 0 : ℕ) - ((ofNat m).limb j : ℤ) * coef),
      0 ≤ e ∧ e ≤ 2 ^ 64 - 2 ^ (64 - 30) := by
    intro e he
    obtain ⟨j, hj, rfl⟩ := List.mem_map.1 he
    have hM30 : (limbs (2 ^ 30) 10 M).getD j 0 < 2 ^ 30 := by
      rw [getD_limbs (List.mem_range.1 hj)]
      exact Nat.mod_lt _ (by norm_num)
    have hmul : (ofNat m).limb j * coef ≤ (2 ^ 30 - 1) * (2 ^ 31 - 1) :=
      Nat.mul_le_mul (Nat.le_sub_one_of_lt limb_ofNat_lt) (Nat.le_sub_one_of_lt hc)
    rw [← Nat.cast_mul]
    generalize (ofNat m).limb j * coef = c at hmul
    simp only [offset]
    split <;> omega
  have hsum : valueZ (2 ^ 30) ((List.range 10).map fun j =>
      offset j + ((limbs (2 ^ 30) 10 M).getD j 0 : ℕ) - ((ofNat m).limb j : ℤ) * coef) =
      2 ^ 31 * (2 ^ 30) ^ 10 + M - m * coef := by
    have hmz : valueZ (2 ^ 30) ((List.range 10).map fun j => ((ofNat m).limb j : ℤ)) = m := by
      rw [← valueZ_limbs (B := 2 ^ 30) (k := 10) (hm.trans (by norm_num))]
      refine congrArg _ (List.map_congr_left fun j hj => ?_)
      rw [limb_eq_getD hm (List.mem_range.1 hj)]
    rw [valueZ_map_sub, valueZ_map_add, valueZ_map_mul_right, sum_offset, valueZ_limbs hM, hmz]
  rw [ripple_eq (by norm_num) W.u64_eq (by norm_num) hentry, hsum]
  simp only [List.length_map, List.length_range]
  refine limbs_congr (by norm_num) ?_
  rw [Nat.cast_zero, zero_add, ← Nat.cast_mul]
  generalize m * coef = c at hle
  omega

/-- Rewriting limbs `k` to `k + 9` of `R` changes `R / (2 ^ 30) ^ k`. -/
theorem limbs_splice {k R' : ℕ} (hk : k ≤ 8) (hmod : R' % (2 ^ 30) ^ k = R % (2 ^ 30) ^ k)
    (hR : R / (2 ^ 30) ^ k < (2 ^ 30) ^ 10) (hR' : R' / (2 ^ 30) ^ k < (2 ^ 30) ^ 10) :
    (limbs (2 ^ 30) 18 R).take k ++ limbs (2 ^ 30) 10 (R' / (2 ^ 30) ^ k) ++
      (limbs (2 ^ 30) 18 R).drop (k + 10) = limbs (2 ^ 30) 18 R' := by
  obtain ⟨j, hj⟩ := Nat.exists_eq_add_of_le hk
  have h18 : 18 = k + 10 + j := by omega
  rw [h18, drop_limbs, show k + 10 + j = k + (10 + j) by omega, take_limbs, limbs_add, limbs_add,
    limbs_congr (by norm_num) hmod, pow_add, ← Nat.div_div_eq_div_mul, Nat.div_eq_of_lt hR,
    Nat.div_eq_of_lt hR', List.append_assoc]

/-- The multiple that step `k` takes off. -/
theorem stepCoef_eq {k : ℕ} (hk : k ≤ 8) (hM : R / (2 ^ 30) ^ k < 2 ^ 31 * 2 ^ 256) :
    W.u32 ((limbs (2 ^ 30) 18 R).getD (8 + k) 0 >>> 16 +
      (limbs (2 ^ 30) 18 R).getD (8 + k + 1) 0 <<< 14 : ℕ) = R / (2 ^ 30) ^ k / 2 ^ 256 := by
  have hpow : (2 ^ 30) ^ (8 + k) * 2 ^ 16 = (2 ^ 30) ^ k * 2 ^ 256 := by
    rw [pow_add, mul_comm, ← mul_assoc, mul_comm]
    norm_num
  rw [coef_eq (by omega), Nat.div_div_eq_div_mul, hpow, Nat.div_div_eq_div_mul]
  rw [pow_add, mul_comm ((2 ^ 30) ^ 8), ← Nat.div_div_eq_div_mul]
  generalize R / (2 ^ 30) ^ k = M at hM ⊢
  omega

/-- A step of the reduction loop on the limbs of `R`. -/
theorem bnMultiplyReduceStep_eq {k : ℕ} (hk : k ≤ 8) (hm : m ≤ 2 ^ 256)
    (hR : R < (2 ^ 30) ^ k * 2 ^ 30 * (2 * 2 ^ 256)) :
    bnMultiplyReduceStep W (limbs (2 ^ 30) 18 R) (ofNat m) (8 + k) =
      limbs (2 ^ 30) 18 (reduceStep m (2 ^ 256) ((2 ^ 30) ^ k) R) := by
  have hK : 0 < (2 ^ 30) ^ k := by positivity
  have hM : R / (2 ^ 30) ^ k < 2 ^ 31 * 2 ^ 256 := by
    rw [Nat.div_lt_iff_lt_mul hK]
    exact hR.trans_eq (by ring)
  have hlimb : ∀ j < 10, (limbs (2 ^ 30) 18 R).getD (8 + k - 8 + j) 0 =
      (limbs (2 ^ 30) 10 (R / (2 ^ 30) ^ k)).getD j 0 := by
    intro j hj
    rw [getD_limbs (by omega), getD_limbs hj, Nat.add_sub_cancel_left, pow_add,
      ← Nat.div_div_eq_div_mul]
  have hentries : (List.range 10).map (fun j =>
      offset j + ((limbs (2 ^ 30) 18 R).getD (8 + k - 8 + j) 0 : ℕ) - ((ofNat m).limb j : ℤ) *
        (R / (2 ^ 30) ^ k / 2 ^ 256 : ℕ)) = (List.range 10).map (fun j =>
      offset j + ((limbs (2 ^ 30) 10 (R / (2 ^ 30) ^ k)).getD j 0 : ℕ) - ((ofNat m).limb j : ℤ) *
        (R / (2 ^ 30) ^ k / 2 ^ 256 : ℕ)) :=
    List.map_congr_left fun j hj => by rw [hlimb j (List.mem_range.1 hj)]
  have hq : R / (2 ^ 30) ^ k / 2 ^ 256 < 2 ^ 31 := by omega
  have hle : m * (R / (2 ^ 30) ^ k / 2 ^ 256) ≤ R / (2 ^ 30) ^ k :=
    (Nat.mul_le_mul_right _ hm).trans (Nat.mul_div_le _ _)
  have hM' : R / (2 ^ 30) ^ k < (2 ^ 30) ^ 10 := hM.trans (by norm_num)
  have hlow := reduceStep_low (K := (2 ^ 30) ^ k) (R := R) (Nat.add_sub_cancel' hm)
  have hhigh := reduceStep_high (R := R) (Nat.add_sub_cancel' hm) hK
  rw [bnMultiplyReduceStep]
  simp only [stepCoef_eq hk hM]
  rw [hentries, ripple_step hM' (hm.trans_lt (by norm_num)) hq hle, ← hhigh,
    Nat.add_sub_cancel_left, show 8 + k + 2 = k + 10 by omega]
  exact limbs_splice hk hlow hM' (by omega)

theorem reduce_nine_lt (hm : m ≤ 2 ^ 256) (hm' : 2 ^ 256 - 2 ^ 224 ≤ m)
    (hR : R < (2 ^ 30) ^ 9 * (2 * 2 ^ 256)) :
    reduce m (2 ^ 256) (2 ^ 30) 9 R < 2 ^ 256 + 2 * 2 ^ 30 * (2 ^ 256 - m) :=
  reduce_lt (Nat.add_sub_cancel' hm) (by norm_num) (by omega) (by norm_num) hR

theorem reduce_nine_mod (hm : m ≤ 2 ^ 256) : reduce m (2 ^ 256) (2 ^ 30) 9 R % m = R % m :=
  reduce_mod (Nat.add_sub_cancel' hm)

/-! ## The assertions -/

theorem foldl_of_foldlM {α β : Type} {step : α → β → α} {checked : α → β → Option α}
    (h : ∀ a b a', checked a b = some a' → step a b = a') : ∀ {bs : List β} {a a' : α},
    bs.foldlM checked a = some a' → bs.foldl step a = a'
  | [], _, _, hrun => Option.some.inj hrun
  | b :: bs, a, a', hrun => by
    obtain ⟨next, hnext, hrest⟩ := Option.bind_eq_some_iff.1 hrun
    rw [List.foldl_cons, h a b next hnext]
    exact foldl_of_foldlM h hrest

/-- Where no assertion fails, `bnMultiply` is `bn_multiply`. -/
theorem bnMultiply_of_checked {k x prime r : Bignum256}
    (h : bnMultiplyChecked W k x prime = some r) : bnMultiply W k x prime = r := by
  obtain ⟨res, hres, rfl⟩ := Option.map_eq_some_iff.1 h
  have hstep : ∀ res i res', bnMultiplyReduceChecked W prime res i = some res' →
      bnMultiplyReduceStep W res prime i = res' := by
    intro res i res' hchecked
    simp only [bnMultiplyReduceChecked] at hchecked
    split at hchecked
    · split at hchecked
      · exact Option.some.inj hchecked
      · cases hchecked
    · cases hchecked
  rw [bnMultiply, bnMultiplyReduce, foldl_of_foldlM hstep hres]

/-- A step in range satisfies its assertions: what it leaves is below `2 ^ (30 k)`
    times `2 · 2 ^ 256`, so that limb `k + 9` is zero. -/
theorem bnMultiplyReduceChecked_eq {k : ℕ} (hk : k ≤ 8) (hm : m ≤ 2 ^ 256)
    (hm' : 2 ^ 256 - 2 ^ 224 ≤ m) (hR : R < (2 ^ 30) ^ k * 2 ^ 30 * (2 * 2 ^ 256)) :
    bnMultiplyReduceChecked W (ofNat m) (limbs (2 ^ 30) 18 R) (8 + k) =
      some (limbs (2 ^ 30) 18 (reduceStep m (2 ^ 256) ((2 ^ 30) ^ k) R)) := by
  have hK : 0 < (2 ^ 30) ^ k := by positivity
  have hM : R / (2 ^ 30) ^ k < 2 ^ 31 * 2 ^ 256 := by
    rw [Nat.div_lt_iff_lt_mul hK]
    exact hR.trans_eq (by ring)
  have hlt := reduceStep_lt (K := (2 ^ 30) ^ k) (B := 2 ^ 30) (T := 2 ^ 256)
    (Nat.add_sub_cancel' hm) hK (by positivity) hR
  have hclear : (limbs (2 ^ 30) 18 (reduceStep m (2 ^ 256) ((2 ^ 30) ^ k) R)).getD (8 + k + 1) 0 =
      0 := by
    rw [getD_limbs (by omega), Nat.div_eq_of_lt, Nat.zero_mod]
    refine hlt.trans_le ?_
    rw [show 8 + k + 1 = k + 9 by omega, pow_add]
    exact Nat.mul_le_mul_left _ (by omega)
  have hcoef : R / (2 ^ 30) ^ k / 2 ^ 256 < 0x80000000 := by omega
  simp only [bnMultiplyReduceChecked, stepCoef_eq hk hM, bnMultiplyReduceStep_eq hk hm hR,
    if_pos hcoef, if_pos hclear]

/-- The loop with its assertions, on what `bn_multiply` documents as its range. -/
theorem foldlM_reduceChecked (hm : m ≤ 2 ^ 256) (hm' : 2 ^ 256 - 2 ^ 224 ≤ m) : ∀ {k R : ℕ}, k ≤ 9 →
    R < (2 ^ 30) ^ k * (2 * 2 ^ 256) →
    (List.range' 8 k).reverse.foldlM (bnMultiplyReduceChecked W (ofNat m))
      (limbs (2 ^ 30) 18 R) = some (limbs (2 ^ 30) 18 (reduce m (2 ^ 256) (2 ^ 30) k R))
  | 0, R, _, _ => rfl
  | k + 1, R, hk, hR => by
    have hlt := reduceStep_lt (K := (2 ^ 30) ^ k) (B := 2 ^ 30) (T := 2 ^ 256)
      (Nat.add_sub_cancel' hm) (by positivity) (by positivity) (by rwa [← pow_succ])
    have hstep := bnMultiplyReduceChecked_eq (W := W) (k := k) (by omega) hm hm'
      (by rwa [← pow_succ])
    have hrest := foldlM_reduceChecked hm hm' (k := k) (by omega)
      (hlt.trans_le (Nat.mul_le_mul_left _ (by omega)))
    rw [List.range'_concat, List.reverse_append, List.reverse_singleton, List.singleton_append,
      List.foldlM_cons, one_mul, hstep, reduce_succ]
    exact hrest

/-- `bn_multiply` on a long product in range: no assertion fails. -/
theorem bnMultiplyChecked_of_long {k x : Bignum256} (hm : m ≤ 2 ^ 256)
    (hm' : 2 ^ 256 - 2 ^ 224 ≤ m) (hlong : bnMultiplyLong W k x = limbs (2 ^ 30) 18 R)
    (hR : R < (2 ^ 30) ^ 9 * (2 * 2 ^ 256)) :
    bnMultiplyChecked W k x (ofNat m) = some (ofNat (reduce m (2 ^ 256) (2 ^ 30) 9 R)) := by
  rw [bnMultiplyChecked, hlong, foldlM_reduceChecked hm hm' le_rfl hR]
  refine congrArg some (ext_limb fun i hi => ?_)
  rw [limb_ofFn hi, getD_limbs (by omega), limb_ofNat hi, pow_mul]

/-- On numbers in range the assertions hold. -/
theorem bnMultiplyChecked_ofNat (ha : a < (2 ^ 30) ^ 9) (hb : b < (2 ^ 30) ^ 9) (hm : m ≤ 2 ^ 256)
    (hm' : 2 ^ 256 - 2 ^ 224 ≤ m) (hab : a * b < (2 ^ 30) ^ 9 * (2 * 2 ^ 256)) :
    bnMultiplyChecked W (ofNat a) (ofNat b) (ofNat m) =
      some (ofNat (reduce m (2 ^ 256) (2 ^ 30) 9 (a * b))) :=
  bnMultiplyChecked_of_long hm hm' (bnMultiplyLong_ofNat ha hb) hab

/-- `bn_multiply` is the partial reduction of the product. -/
theorem bnMultiply_ofNat (ha : a < (2 ^ 30) ^ 9) (hb : b < (2 ^ 30) ^ 9) (hm : m ≤ 2 ^ 256)
    (hm' : 2 ^ 256 - 2 ^ 224 ≤ m) (hab : a * b < (2 ^ 30) ^ 9 * (2 * 2 ^ 256)) :
    bnMultiply W (ofNat a) (ofNat b) (ofNat m) =
      ofNat (reduce m (2 ^ 256) (2 ^ 30) 9 (a * b)) :=
  bnMultiply_of_checked (bnMultiplyChecked_ofNat ha hb hm hm' hab)

/-- Beyond the range the first step fails: `coef` is too large for its assertion, or
    it wraps and leaves something above the number. -/
theorem bnMultiplyReduceChecked_none (hm : m ≤ 2 ^ 256) (hR : (2 ^ 30) ^ 9 * (2 * 2 ^ 256) ≤ R)
    (hR' : R < (2 ^ 30) ^ 18) :
    bnMultiplyReduceChecked machine (ofNat m) (limbs (2 ^ 30) 18 R) 16 = none := by
  have hM : R / (2 ^ 30) ^ 8 < (2 ^ 30) ^ 10 := by omega
  have hcoef : machine.u32 (((limbs (2 ^ 30) 18 R).getD 16 0 >>> 16 +
      (limbs (2 ^ 30) 18 R).getD 17 0 <<< 14 : ℕ)) = R / (2 ^ 30) ^ 8 / 2 ^ 256 % 2 ^ 32 := by
    rw [getD_limbs (by norm_num), getD_limbs (by norm_num), Nat.shiftRight_eq_div_pow,
      Nat.shiftLeft_eq]
    simp only [machine]
    omega
  simp only [bnMultiplyReduceChecked, Nat.reduceAdd, hcoef]
  by_cases hlt : R / (2 ^ 30) ^ 8 / 2 ^ 256 % 2 ^ 32 < 0x80000000
  swap
  · rw [if_neg hlt]
  have hstep : bnMultiplyReduceStep machine (limbs (2 ^ 30) 18 R) (ofNat m) 16 =
      (limbs (2 ^ 30) 18 R).take 8 ++ limbs (2 ^ 30) 10
        (R / (2 ^ 30) ^ 8 - m * (R / (2 ^ 30) ^ 8 / 2 ^ 256 % 2 ^ 32)) := by
    have hle : m * (R / (2 ^ 30) ^ 8 / 2 ^ 256 % 2 ^ 32) ≤ R / (2 ^ 30) ^ 8 :=
      (Nat.mul_le_mul hm (Nat.mod_le _ _)).trans (Nat.mul_div_le _ _)
    have hentries : (List.range 10).map (fun j =>
        offset j + ((limbs (2 ^ 30) 18 R).getD (8 + j) 0 : ℕ) - ((ofNat m).limb j : ℤ) *
          (R / (2 ^ 30) ^ 8 / 2 ^ 256 % 2 ^ 32 : ℕ)) = (List.range 10).map (fun j =>
        offset j + ((limbs (2 ^ 30) 10 (R / (2 ^ 30) ^ 8)).getD j 0 : ℕ) - ((ofNat m).limb j : ℤ) *
          (R / (2 ^ 30) ^ 8 / 2 ^ 256 % 2 ^ 32 : ℕ)) := by
      refine List.map_congr_left fun j hj => ?_
      have hj := List.mem_range.1 hj
      rw [getD_limbs (by omega), getD_limbs hj, pow_add, ← Nat.div_div_eq_div_mul]
    have hdrop : (limbs (2 ^ 30) 18 R).drop 18 = [] :=
      List.drop_eq_nil_of_le (by rw [length_limbs])
    simp only [bnMultiplyReduceStep, Nat.reduceAdd, Nat.reduceSub, hcoef]
    rw [hentries, ripple_step hM (hm.trans_lt (by norm_num)) (by omega) hle, hdrop, List.append_nil]
  have hleft : ((limbs (2 ^ 30) 18 R).take 8 ++ limbs (2 ^ 30) 10
      (R / (2 ^ 30) ^ 8 - m * (R / (2 ^ 30) ^ 8 / 2 ^ 256 % 2 ^ 32))).getD 17 0 ≠ 0 := by
    rw [show (18 : ℕ) = 8 + 10 from rfl, take_limbs, List.getD_append_right _ _ _ _
      (by rw [length_limbs]; norm_num), length_limbs, getD_limbs (by norm_num)]
    have hmul : m * (R / (2 ^ 30) ^ 8 / 2 ^ 256 % 2 ^ 32) ≤
        2 ^ 256 * (R / (2 ^ 30) ^ 8 / 2 ^ 256 % 2 ^ 32) := Nat.mul_le_mul_right _ hm
    generalize m * (R / (2 ^ 30) ^ 8 / 2 ^ 256 % 2 ^ 32) = c at hmul
    omega
  rw [if_pos hlt, hstep, if_neg hleft]

theorem bnMultiplyChecked_none {k x : Bignum256} (hm : m ≤ 2 ^ 256)
    (hlong : bnMultiplyLong machine k x = limbs (2 ^ 30) 18 R)
    (hR : (2 ^ 30) ^ 9 * (2 * 2 ^ 256) ≤ R) (hR' : R < (2 ^ 30) ^ 18) :
    bnMultiplyChecked machine k x (ofNat m) = none := by
  rw [bnMultiplyChecked, hlong, show (List.range' 8 9).reverse = 16 :: (List.range' 8 8).reverse
    from rfl, List.foldlM_cons, bnMultiplyReduceChecked_none hm hR hR']
  rfl

end CotMta.Trezor
