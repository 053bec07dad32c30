/-
  `point_multiply` and `scalar_multiply` compute multiples.

  Both write the scalar in odd signed digits to the base 16 (`SignedDigits`):
  one from the top, by four doublings a digit, the other from the bottom, over a
  table of multiples.  The coordinates stand for the partial sum up to its sign,
  which is the sign of the last digit; no partial sum is a multiple of the
  group's order, so that the formulas for addition never meet their exception.
-/
import CotMta.Lib.SignedDigits
import CotMta.Trezor.JacobianSpec

namespace CotMta.Trezor.Ecdsa

open Limbs Bignum256 CurvePoint Secp256k1 ShortWeierstrass SignedDigits

variable {W : Arith} {a b i k : ℕ} {P Q : E.Point} {bn_inverse : Bignum256 → Bignum256}

/-! ## The multiplier -/

/-- What the digits are read from: an odd number congruent to `k + 2 ^ 256`. -/
def multiplier (k : ℕ) : ℕ := 2 ^ 256 + k - if k % 2 = 1 then 0 else n

theorem n_odd : n % 2 = 1 := by norm_num [n]

theorem multiplier_odd : multiplier k % 2 = 1 := by
  have hle := n_le
  have hodd := n_odd
  rw [multiplier]
  split <;> omega

theorem multiplier_lt (hk : k < n) : multiplier k < 2 * 16 ^ 64 := by
  have hle := n_le
  rw [multiplier]
  split <;> omega

theorem multiplier_sub : (multiplier k : ℤ) - 16 ^ 64 = k - if k % 2 = 1 then 0 else (n : ℤ) := by
  have hle := n_le
  rw [multiplier]
  split <;> omega

/-- What the scalar is lessened by: the order, if it is even. -/
def evenOrder (k : ℕ) : ℕ := if k % 2 = 1 then 0 else n

theorem evenOrder_le : evenOrder k ≤ n := by
  rw [evenOrder]
  split <;> omega

theorem evenOrder_lt : evenOrder k < (2 ^ 30) ^ 9 := evenOrder_le.trans_lt (by norm_num [n])

/-- The mask leaves the order or nothing. -/
theorem order_and_mask (k j : ℕ) :
    order.limb j &&& word (((ofNat k).limb 0 &&& 1 : ℕ) - 1) = (ofNat (evenOrder k)).limb j := by
  have hpar : (ofNat k).limb 0 % 2 = k % 2 := by
    rw [limb_ofNat (by norm_num)]
    omega
  rw [word_and_one_sub_one, hpar, order_eq, evenOrder, and_mask (limb_ofNat_lt.trans (by norm_num))]
  rcases Nat.mod_two_eq_zero_or_one k with h | h <;> rw [h]
  · rfl
  · rw [if_pos rfl, if_neg (by decide)]
    rcases Nat.lt_or_ge j 9 with hj | hj
    · rw [limb_ofNat hj, Nat.zero_div, Nat.zero_mod]
    · rw [limb_of_le hj]

/-- What the carry loop adds to `temp` for limb `j`; the last limb is a step of it as
    well. -/
def multiplierEntry (k j : ℕ) : ℤ :=
  (if j < 8 then 0x3FFFFFFF else 0xFFFF) + (ofNat k).limb j - (ofNat (evenOrder k)).limb j

theorem multiplierEntry_bounds : ∀ j < 9,
    0 ≤ multiplierEntry k j ∧ multiplierEntry k j ≤ 2 ^ 32 - 2 ^ (32 - 30) := by
  intro j hj
  have h1 := limb_ofNat_lt (v := k) (i := j)
  have h2 := limb_ofNat_lt (v := evenOrder k) (i := j)
  have h3 : 8 ≤ j → (ofNat (evenOrder k)).limb j ≤ 0xFFFF := by
    intro h8
    obtain rfl : j = 8 := by omega
    have hle := evenOrder_le (k := k)
    rw [limb_ofNat_eight evenOrder_lt]
    simp only [n] at hle
    omega
  simp only [multiplierEntry]
  split <;> omega

theorem carry_multiplierEntry (hk : k < n) :
    Bignum256.carry W.u32 1 (multiplierEntry k) = ofNat (multiplier k) := by
  refine carry_eq (by norm_num) W.u32_eq (by norm_num) multiplierEntry_bounds ?_
  have hconst : sumZ (fun j => if j < 8 then 0x3FFFFFFF else 0xFFFF) = 2 ^ 256 - 1 := by
    norm_num [sumZ, List.range_succ]
  have hsum : sumZ (multiplierEntry k) = 2 ^ 256 - 1 + k - evenOrder k := by
    rw [← hconst, ← sumZ_limb (hk.trans (by norm_num [n])), ← sumZ_limb evenOrder_lt, ← sumZ_add,
      ← sumZ_sub]
    rfl
  have hle := evenOrder_le (k := k)
  rw [hsum, multiplier, ← evenOrder]
  simp only [n] at hle
  omega

/-- The top limb is not cut, and need not be. -/
theorem oddMultiplier_top (hk : k < n) {temp : ℕ} (htemp : temp < 2 ^ (32 - 30)) :
    W.u32 (temp + 0xFFFF + (ofNat k).limb 8 - (ofNat (evenOrder k)).limb 8) =
      W.u32 (temp + multiplierEntry k 8) &&& (2 ^ 30 - 1) := by
  have hlimb : (ofNat k).limb 8 < 2 ^ 16 := by
    rw [limb_ofNat_eight (hk.trans (by norm_num [n]))]
    simp only [n] at hk
    omega
  have hbound := multiplierEntry_bounds (k := k) 8 (by norm_num)
  have hentry : multiplierEntry k 8 =
      0xFFFF + (ofNat k).limb 8 - (ofNat (evenOrder k)).limb 8 := rfl
  have hsame : W.u32 (temp + 0xFFFF + (ofNat k).limb 8 - (ofNat (evenOrder k)).limb 8) =
      W.u32 (temp + multiplierEntry k 8) := by
    rw [hentry]
    exact congrArg W.u32 (by ring)
  have hval : ((W.u32 (temp + multiplierEntry k 8) : ℕ) : ℤ) = temp + multiplierEntry k 8 :=
    W.u32_eq _ (by omega) (by omega)
  rw [hsame, Nat.and_two_pow_sub_one_eq_mod, Nat.mod_eq_of_lt]
  omega

theorem oddMultiplier_ofNat (hk : k < n) : oddMultiplier W (ofNat k) = ofNat (multiplier k) := by
  have hall : ∀ x ∈ (List.range 8).map (multiplierEntry k), 0 ≤ x ∧ x ≤ 2 ^ 32 - 2 ^ (32 - 30) := by
    intro x hx
    obtain ⟨j, hj, rfl⟩ := List.mem_map.1 hx
    exact multiplierEntry_bounds j ((List.mem_range.1 hj).trans (by norm_num))
  have hlt := ripple_snd_lt (s := 30) (by norm_num) W.u32_eq (t := 1) (by norm_num) hall
  have hlist : (List.range 8).map (fun j => 0x3FFFFFFF + ((ofNat k).limb j : ℤ) -
      ((ofNat (evenOrder k)).limb j : ℕ)) = (List.range 8).map (multiplierEntry k) := by
    refine List.map_congr_left fun j hj => ?_
    simp only [multiplierEntry, if_pos (List.mem_range.1 hj)]
  have hnine : (List.range 9).map (multiplierEntry k) =
      (List.range 8).map (multiplierEntry k) ++ [multiplierEntry k 8] := by
    rw [List.range_succ, List.map_append, List.map_cons, List.map_nil]
  rw [← carry_multiplierEntry hk]
  refine Bignum256.ext ?_
  simp only [oddMultiplier, order_and_mask, Bignum256.carry]
  rw [hlist, hnine, ripple_append]
  exact congrArg (_ ++ [·]) (oddMultiplier_top hk hlt)

/-! ## Digits -/

/-- Digit `i` of `a` is negative. -/
def negative (a i : ℕ) : Bool := a / 16 ^ (i + 1) % 2 == 0

theorem sign_eq_negative : sign 16 a i = if negative a i then -1 else 1 := by
  rw [sign, negative]
  rcases Nat.mod_two_eq_zero_or_one (a / 16 ^ (i + 1)) with h | h <;> rw [h] <;> rfl

theorem sixteen_even : Even 16 := by decide

theorem index_lt_eight : index 16 a i < 8 := index_lt sixteen_even (by norm_num)

/-- The bits of a window, decoded. -/
theorem signedDigit_eq : ∀ bits < 32, signedDigit bits =
    (mask (bits / 16 == 0), (if bits / 16 = 1 then bits % 16 else 15 - bits % 16) / 2) := by
  decide

theorem signedDigit_window : signedDigit (a / 16 ^ i % 32) = (mask (negative a i), index 16 a i) := by
  have hdiv : a / 16 ^ i % 32 / 16 = a / 16 ^ (i + 1) % 2 := by
    rw [pow_succ, ← Nat.div_div_eq_div_mul]
    omega
  have hmod : a / 16 ^ i % 32 % 16 = a / 16 ^ i % 16 := by omega
  rw [signedDigit_eq _ (Nat.mod_lt _ (by norm_num)), hdiv, hmod, negative, index]

/-! ## The window -/

/-- The window ends at digit `i` of `a`. -/
structure Window.At (a i : ℕ) (w : Window) : Prop where
  abits : w.abits = (ofNat a).limb w.aptr
  position : 30 * (w.aptr : ℤ) + w.ashift = 4 * i
  nonneg : 0 ≤ w.ashift
  lt : w.ashift < 30
  aptr : w.aptr ≤ 8

theorem Window.at_start (ha : a < 2 * 16 ^ 64) :
    Window.At a 63 ⟨8, (ofNat a).limb 8, 12⟩ ∧ (ofNat a).limb 8 >>> 12 = a / 16 ^ 63 % 32 := by
  refine ⟨⟨rfl, by norm_num, by norm_num, by norm_num, le_rfl⟩, ?_⟩
  rw [limb_ofNat_eight (ha.trans (by norm_num)), Nat.shiftRight_eq_div_pow]
  omega

/-- Five bits inside a limb. -/
theorem limb_bits {s : ℕ} (hi : i < 9) (hs : s ≤ 25) :
    ((ofNat a).limb i >>> s) &&& 31 = a / 2 ^ (30 * i + s) % 32 := by
  have h30 : 2 ^ 30 = 2 ^ s * 2 ^ (30 - s) := by rw [← pow_add, Nat.add_sub_cancel' (by omega)]
  have hdvd : 32 ∣ 2 ^ (30 - s) := by
    have : 2 ^ 5 ∣ 2 ^ (30 - s) := Nat.pow_dvd_pow 2 (by omega)
    exact this
  rw [show 31 = 2 ^ 5 - 1 by rfl, Nat.and_two_pow_sub_one_eq_mod, limb_ofNat hi,
    Nat.shiftRight_eq_div_pow, h30, Nat.mod_mul_right_div_self, Nat.mod_mod_of_dvd _ hdvd,
    Nat.div_div_eq_div_mul, ← pow_add]

/-- Five bits across a limb's boundary. -/
theorem limb_bits_across {t : ℕ} (hi : i < 8) (ht0 : 0 < t) (ht : t ≤ 4) :
    (W.u32 (((ofNat a).limb (i + 1) <<< t : ℕ)) ||| (ofNat a).limb i >>> (30 - t)) &&& 31 =
      a / 2 ^ (30 * i + (30 - t)) % 32 := by
  have hlow : (ofNat a).limb i >>> (30 - t) < 2 ^ t := by
    rw [Nat.shiftRight_eq_div_pow, Nat.div_lt_iff_lt_mul (by positivity), ← pow_add,
      Nat.add_sub_cancel' (by omega)]
    exact limb_ofNat_lt
  have hu := W.u32_mod ((ofNat a).limb (i + 1) <<< t)
  have hu5 : W.u32 (((ofNat a).limb (i + 1) <<< t : ℕ)) % 2 ^ 5 =
      2 ^ t * (ofNat a).limb (i + 1) % 2 ^ 5 := by
    rw [Nat.shiftLeft_eq, mul_comm] at hu
    rw [Nat.shiftLeft_eq, mul_comm]
    omega
  rw [show 31 = 2 ^ 5 - 1 by rfl, Nat.and_two_pow_sub_one_eq_mod, Nat.or_mod_two_pow, hu5,
    ← Nat.or_mod_two_pow, or_eq_add hlow, limb_ofNat (by omega), limb_ofNat (by omega),
    Nat.shiftRight_eq_div_pow, mul_add_one, pow_add, pow_add, ← Nat.div_div_eq_div_mul,
    ← Nat.div_div_eq_div_mul]
  generalize a / 2 ^ (30 * i) = v
  interval_cases t <;> omega

theorem Window.At.next {w : Window} (h : Window.At a (i + 1) w) :
    Window.At a i (w.next W (ofNat a)).1 ∧ (w.next W (ofNat a)).2 = a / 16 ^ i % 32 := by
  obtain ⟨aptr, abits, ashift⟩ := w
  obtain ⟨habits, hpos, hnonneg, hlt, haptr⟩ := h
  simp only at habits hpos hnonneg hlt haptr
  subst habits
  push_cast at hpos
  have h16 : ∀ {e : ℕ}, e = 4 * i → a / 16 ^ i = a / 2 ^ e := by
    rintro e rfl
    rw [pow_mul]
    norm_num
  unfold Window.next
  simp only
  by_cases hneg : ashift - 4 < 0
  · rw [if_pos hneg]
    obtain ⟨j, rfl⟩ : ∃ j, aptr = j + 1 := ⟨aptr - 1, by omega⟩
    have hshift : (ashift - 4 + 30).toNat = 30 - (-(ashift - 4)).toNat := by omega
    refine ⟨⟨by simp, ?_, ?_, ?_, ?_⟩, ?_⟩
    · simp only [Nat.add_sub_cancel]
      omega
    · simp only
      omega
    · simp only
      omega
    · simp only
      omega
    · simp only [Nat.add_sub_cancel, hshift]
      rw [limb_bits_across (by omega) (by omega) (by omega), h16]
      omega
  · rw [if_neg hneg]
    refine ⟨⟨rfl, ?_, ?_, ?_, haptr⟩, ?_⟩
    · simp only
      omega
    · simp only
      omega
    · simp only
      omega
    · simp only
      rw [limb_bits (by omega) (by omega), h16]
      omega

/-! ## Multiples -/

theorem zsmul_ne_zero_of_lt {z : ℤ} (hP : P ≠ 0) (h0 : z ≠ 0) (hz : |z| < (n : ℤ)) : z • P ≠ 0 := by
  rw [Ne, ← addOrderOf_dvd_iff_zsmul_eq_zero, addOrderOf_point hP]
  intro hdvd
  exact h0 (Int.eq_zero_of_abs_lt_dvd hdvd hz)

/-- The scalar, or what is left of it after the order, is a multiplier as good as it. -/
theorem multiplier_zsmul : ((multiplier k : ℤ) - 16 ^ 64) • P = k • P := by
  rw [multiplier_sub]
  split
  · rw [sub_zero, natCast_zsmul]
  · rw [sub_smul, natCast_zsmul, natCast_zsmul, n_nsmul, sub_zero]

theorem multiplier_sub_abs_lt (h0 : 0 < k) (hk : k < n) : |(multiplier k : ℤ) - 16 ^ 64| < (n : ℤ) := by
  rw [multiplier_sub, abs_lt]
  split <;> omega

/-- The entries of the table that lie above `m • P`. -/
theorem pmultLoop_getD (hinv : InvertsPrime bn_inverse) (hP : P ≠ 0) : ∀ {rounds m j : ℕ},
    j < rounds → 0 < m → m + 2 * rounds < n →
    (pmultLoop W bn_inverse (ofPoint (2 • P)) rounds (ofPoint (m • P))).getD j pointSetInfinity =
      ofPoint ((m + 2 * (j + 1)) • P)
  | rounds + 1, m, j, hj, h0, hlt => by
    have hadd : pointAdd W bn_inverse (ofPoint (m • P)) (ofPoint (2 • P)) =
        ofPoint ((m + 2) • P) := by
      rw [pointAdd_ofPoint hinv (nsmul_ne_zero hP h0 (by omega))
        (nsmul_ne_zero hP (by norm_num) (by omega)), ← add_nsmul]
    simp only [pmultLoop, hadd]
    cases j with
    | zero => rfl
    | succ j =>
      rw [List.getD_cons_succ, pmultLoop_getD hinv hP (by omega) (by omega) (by omega)]
      congr 2
      omega

theorem pmult_getD (hinv : InvertsPrime bn_inverse) (hP : P ≠ 0) (hi : i < 8) :
    (pmult W bn_inverse (ofPoint P)).getD i pointSetInfinity = ofPoint ((2 * (i : ℤ) + 1) • P) := by
  have hcast : (2 * (i : ℤ) + 1) • P = (2 * i + 1) • P := by
    rw [← natCast_zsmul]
    norm_cast
  rw [pmult, pointDouble_ofPoint hinv hP, ← two_nsmul, hcast]
  cases i with
  | zero => rw [List.getD_cons_zero, mul_zero, zero_add, one_nsmul]
  | succ i =>
    have h := pmultLoop_getD (W := W) (m := 1) hinv hP (show i < 7 by omega)
      (by norm_num) (by norm_num [n])
    rw [one_nsmul] at h
    rw [List.getD_cons_succ, h]
    congr 2
    omega

theorem pointJacobianDouble_four {jp : JacobianCurvePoint} (h : Reps jp P) :
    Reps (pointJacobianDouble W (pointJacobianDouble W (pointJacobianDouble W
      (pointJacobianDouble W jp)))) ((16 : ℤ) • P) := by
  have h4 := pointJacobianDouble_reps (W := W) (pointJacobianDouble_reps (W := W)
    (pointJacobianDouble_reps (W := W) (pointJacobianDouble_reps (W := W) h)))
  have hsum : P + P + (P + P) + (P + P + (P + P)) +
      (P + P + (P + P) + (P + P + (P + P))) = (16 : ℤ) • P := by abel
  rwa [hsum] at h4

/-- The negation that makes the signs of two digits agree. -/
theorem ite_neg_zsmul {c d : Bool} {z : ℤ} :
    (if c ^^ d then -(((if c then -1 else 1) * z) • P) else ((if c then -1 else 1) * z) • P) =
      ((if d then -1 else 1) * z) • P := by
  cases c <;> cases d <;> simp

/-! ## From the top -/

section
variable {table : List CurvePoint}

theorem upper_lt_order (ha : a < 2 * 16 ^ 64) (h0 : |(a : ℤ) - 16 ^ 64| < (n : ℤ)) (hodd : a % 2 = 1)
    (hi : i ≤ 64) : |upper 16 64 a i| < (n : ℤ) := by
  rcases Nat.eq_zero_or_pos i with rfl | hpos
  · rw [upper_zero hodd]
    exact h0
  · refine (upper_abs_lt (by norm_num) ha hi).trans_le ?_
    refine (pow_le_pow_right₀ (by norm_num) (show 64 - i ≤ 63 by omega)).trans ?_
    norm_num [n]

theorem upper_ne_zero (hi : i < 64) : upper 16 64 a i ≠ 0 := by
  intro h
  have hodd := upper_odd (m := 64) (a := a) sixteen_even hi
  rw [h] at hodd
  exact absurd hodd (by decide)

/-- **One round**: the partial sum up to the sign of its last digit. -/
theorem pointMultiply_step {jp : JacobianCurvePoint} (ha : a < 2 * 16 ^ 64)
    (h0 : |(a : ℤ) - 16 ^ 64| < (n : ℤ)) (hodd : a % 2 = 1) (hP : P ≠ 0) (hi : i + 1 < 64)
    (h : Reps jp ((sign 16 a (i + 1) * upper 16 64 a (i + 1)) • P)) :
    ∃ z, conditionalNegate W (mask (negative a (i + 1) ^^ negative a i)) (pointJacobianDouble W
        (pointJacobianDouble W (pointJacobianDouble W (pointJacobianDouble W jp)))).z prime =
          some z ∧
      Reps (pointJacobianAdd W (ofPoint ((2 * (index 16 a i : ℤ) + 1) • P))
        { pointJacobianDouble W (pointJacobianDouble W (pointJacobianDouble W
          (pointJacobianDouble W jp))) with z := z }) ((sign 16 a i * upper 16 64 a i) • P) := by
  obtain ⟨z, hz, hneg⟩ := (pointJacobianDouble_four (W := W) h).negate_z (W := W)
    (c := negative a (i + 1) ^^ negative a i)
  refine ⟨z, hz, ?_⟩
  have hscaled : (16 : ℤ) • (sign 16 a (i + 1) * upper 16 64 a (i + 1)) • P =
      (sign 16 a (i + 1) * (16 * upper 16 64 a (i + 1))) • P := by
    rw [smul_smul]
    congr 1
    ring
  rw [hscaled, sign_eq_negative, ite_neg_zsmul, ← sign_eq_negative] at hneg
  have hsum : (2 * (index 16 a i : ℤ) + 1) • P +
      (sign 16 a i * (16 * upper 16 64 a (i + 1))) • P = (sign 16 a i * upper 16 64 a i) • P := by
    rw [← add_zsmul, sign_mul_upper sixteen_even (by norm_num) (by omega : i < 64)]
    rfl
  have hidx := index_lt_eight (a := a) (i := i)
  have hdigit : (2 * (index 16 a i : ℤ) + 1) • P ≠ 0 := by
    refine zsmul_ne_zero_of_lt hP (by omega) ?_
    rw [abs_of_pos (by omega)]
    have : (16 : ℤ) < n := by norm_num [n]
    omega
  have hne : (sign 16 a i * upper 16 64 a i) • P ≠ 0 := by
    refine zsmul_ne_zero_of_lt hP ?_ ?_
    · refine mul_ne_zero ?_ (upper_ne_zero (by omega))
      rcases sign_eq (B := 16) (a := a) (i := i) with h | h <;> rw [h] <;> decide
    · rw [abs_mul, abs_sign, one_mul]
      exact upper_lt_order ha h0 hodd (by omega)
  have hadd := pointJacobianAdd_reps (W := W) hdigit hneg (by rwa [hsum])
  rwa [hsum] at hadd

/-- **The loop.** -/
theorem pointMultiplyLoop_reps (ha : a < 2 * 16 ^ 64) (h0 : |(a : ℤ) - 16 ^ 64| < (n : ℤ))
    (hodd : a % 2 = 1) (hP : P ≠ 0)
    (htable : ∀ i < 8, table.getD i pointSetInfinity = ofPoint ((2 * (i : ℤ) + 1) • P)) :
    ∀ {i : ℕ} {w : Window} {jp : JacobianCurvePoint}, i < 64 → Window.At a i w →
      Reps jp ((sign 16 a i * upper 16 64 a i) • P) →
      ∃ jp', pointMultiplyLoop W (ofNat a) table i w (mask (negative a i)) jp =
          some (mask (negative a 0), jp') ∧
        Reps jp' ((sign 16 a 0 * upper 16 64 a 0) • P)
  | 0, _, jp, _, _, h => ⟨jp, rfl, h⟩
  | i + 1, w, jp, hi, hw, h => by
    obtain ⟨hat, hbits⟩ := hw.next (W := W)
    obtain ⟨z, hz, hadd⟩ := pointMultiply_step (W := W) ha h0 hodd hP hi h
    obtain ⟨jp', hloop, hjp'⟩ := pointMultiplyLoop_reps ha h0 hodd hP htable (by omega) hat hadd
    refine ⟨jp', ?_, hjp'⟩
    rw [pointMultiplyLoop]
    simp only [hbits, signedDigit_window, mask_xor, hz, htable _ index_lt_eight,
      Option.bind_eq_bind, Option.bind_some]
    exact hloop

end

/-! ## The random factor -/

theorem exists_ofNat {z : Bignum256} (h : ∀ i < 9, z.limb i < 2 ^ 30) :
    ∃ v < (2 ^ 30) ^ 9, z = ofNat v := by
  have hall : ∀ x ∈ z.val, x < 2 ^ 30 := by
    intro x hx
    obtain ⟨i, hi, rfl⟩ := List.getElem_of_mem hx
    have hlt := h i (by rwa [z.length_val] at hi)
    rwa [limb, List.getD_eq_getElem _ _ hi] at hlt
  have hlen := value_lt hall
  rw [z.length_val] at hlen
  refine ⟨value (2 ^ 30) z.val, hlen, Bignum256.ext ?_⟩
  have hlimbs := limbs_value hall
  rw [z.length_val] at hlimbs
  exact hlimbs.symm

theorem generateKRandom_lt {draws : List Bignum256} {z : Bignum256}
    (h : generateKRandom prime draws = some z) : ∃ v, z = ofNat v ∧ 0 < v ∧ v < p := by
  rw [generateKRandom, Option.map_eq_some_iff] at h
  obtain ⟨⟨z, rest⟩, h, rfl⟩ := h
  obtain ⟨haccept, before, heq, -⟩ := Rejection.firstAccepted_eq_some.1 h
  have hmem : z ∈ draws.map maskWords := by
    rw [heq]
    exact List.mem_append_right _ List.mem_cons_self
  obtain ⟨words, -, rfl⟩ := List.mem_map.1 hmem
  obtain ⟨v, hv, hmask⟩ := exists_ofNat (z := maskWords words) fun i hi => by
    rw [maskWords, limb_ofFn hi]
    split <;> exact Nat.and_lt_two_pow _ (by norm_num)
  rw [hmask, prime_eq, bnIsZero_ofNat hv, bnIsLess_ofNat hv p_lt_limbs] at haccept
  simp only [Bool.not_or, Bool.not_not, Bool.and_eq_true, Bool.not_eq_true', decide_eq_false_iff_not,
    decide_eq_true_eq] at haccept
  exact ⟨v, hmask, Nat.pos_of_ne_zero haccept.1, haccept.2⟩

/-! ## `point_multiply` -/

theorem isNonZero_ofNat (hk : k < (2 ^ 30) ^ 9) : isNonZero (ofNat k) = decide (k ≠ 0) := by
  have h := bnIsZero_ofNat hk
  rw [bnIsZero] at h
  rw [isNonZero, bne, h, decide_not]

/-- The checks before the digits: an assertion, and the special case of zero. -/
theorem multiplier_checks (hk : k < (2 ^ 30) ^ 9) :
    (!bnIsLess (ofNat k) order || (oddMultiplier W (ofNat k)).limb 0 &&& 1 == 0) =
      decide (n ≤ k) := by
  rw [order_eq, bnIsLess_ofNat hk (by norm_num [n])]
  by_cases h : k < n
  · have hodd := multiplier_odd (k := k)
    have hlow : multiplier k % 2 ^ 30 % 2 = 1 := by omega
    rw [oddMultiplier_ofNat h, limb_ofNat (by norm_num), Nat.and_one_is_mod, mul_zero, pow_zero,
      Nat.div_one, hlow, decide_eq_true h, decide_eq_false (not_le.2 h)]
    rfl
  · rw [decide_eq_false h, decide_eq_true (not_lt.1 h)]
    rfl

/-- **`point_multiply` multiplies**: it returns for a scalar below the order, as soon
    as a random factor is accepted, and the factor does not matter. -/
theorem pointMultiply_ofPoint {draws : List Bignum256} (hinv : InvertsPrime bn_inverse) (hP : P ≠ 0)
    (hk : k < (2 ^ 30) ^ 9) :
    pointMultiply W bn_inverse draws (ofNat k) (ofPoint P) =
      if k < n ∧ (k = 0 ∨ (generateKRandom prime draws).isSome) then some (ofPoint (k • P))
      else none := by
  simp only [pointMultiply, multiplier_checks hk, isNonZero_ofNat hk]
  rcases Nat.lt_or_ge k n with hkn | hkn
  swap
  · simp only [decide_eq_true hkn, if_true, not_lt.2 hkn, false_and, if_false]
  rcases Nat.eq_zero_or_pos k with rfl | hpos
  · rw [zero_nsmul]
    simp only [decide_eq_false (not_le.2 hkn), Bool.false_eq_true, if_false, ne_eq, not_true,
      decide_false, Bool.not_false, if_true, hkn, true_or, and_self]
    rfl
  have hnz : decide (k ≠ 0) = true := decide_eq_true hpos.ne'
  simp only [decide_eq_false (not_le.2 hkn), hnz, hkn, true_and, Bool.not_true, Bool.false_eq_true,
    if_false, hpos.ne', false_or]
  cases hz : generateKRandom prime draws with
  | none => rfl
  | some z =>
    obtain ⟨v, rfl, hv0, hv⟩ := generateKRandom_lt hz
    have hodd := multiplier_odd (k := k)
    have hlt := multiplier_lt hkn
    have habs := multiplier_sub_abs_lt hpos hkn
    obtain ⟨hat, hbits⟩ := Window.at_start hlt
    have htable := fun i hi => pmult_getD (W := W) hinv hP (i := i) hi
    -- the first digit
    have hidx := index_lt_eight (a := multiplier k) (i := 63)
    have hfirst : (2 * (index 16 (multiplier k) 63 : ℤ) + 1) • P =
        (sign 16 (multiplier k) 63 * upper 16 64 (multiplier k) 63) • P := by
      rw [sign_mul_upper sixteen_even (by norm_num) (by norm_num), upper_self hlt, mul_zero,
        mul_zero, add_zero]
    have hdigit : (2 * (index 16 (multiplier k) 63 : ℤ) + 1) • P ≠ 0 := by
      refine zsmul_ne_zero_of_lt hP (by omega) ?_
      rw [abs_of_pos (by omega)]
      have : (16 : ℤ) < n := by norm_num [n]
      omega
    have hstart := curveToJacobian_reps (W := W) hdigit hv0 hv
    rw [hfirst] at hstart
    obtain ⟨jp, hloop, hjp⟩ := pointMultiplyLoop_reps (W := W) hlt habs hodd hP htable (by norm_num)
      hat hstart
    -- the sign of the whole sum
    obtain ⟨z, hz', hlast⟩ := hjp.negate_z (W := W) (c := negative (multiplier k) 0)
    have hsum : (if negative (multiplier k) 0 then
        -((sign 16 (multiplier k) 0 * upper 16 64 (multiplier k) 0) • P)
        else (sign 16 (multiplier k) 0 * upper 16 64 (multiplier k) 0) • P) = k • P := by
      have hneg := ite_neg_zsmul (c := negative (multiplier k) 0) (d := false) (P := P)
        (z := upper 16 64 (multiplier k) 0)
      rw [Bool.xor_false, ← sign_eq_negative, upper_zero hodd] at hneg
      rw [← multiplier_zsmul, upper_zero hodd, hneg, if_neg Bool.false_ne_true, one_mul]
      rfl
    rw [hsum] at hlast
    rw [← hfirst, ← htable _ hidx] at hloop
    have hres := jacobianToCurve_reps (W := W) hinv hlast
    simp only [oddMultiplier_ofNat hkn, hbits, signedDigit_window, hloop, hz', Option.isSome_some,
      Option.bind_eq_bind, Option.bind_some, if_true]
    exact congrArg some hres

/-! ## From the bottom -/

section
variable {cp : ℕ → ℕ → CurvePoint}

theorem shiftFour_ofNat (ha : a < (2 ^ 30) ^ 9) : shiftFour W (ofNat a) = ofNat (a / 16) := by
  refine ext_limb fun i hi => ?_
  rw [shiftFour, limb_ofFn hi, limb_ofNat hi, limb_ofNat hi, Nat.div_right_comm]
  split
  · next h8 =>
    have hmask : ∀ x, x &&& 0xF = x % 16 := fun x => Nat.and_two_pow_sub_one_eq_mod x 4
    rw [limb_ofNat (by omega), mul_add_one, pow_add, ← Nat.div_div_eq_div_mul]
    generalize a / 2 ^ (30 * i) = v
    have hu : W.u32 (((v / 2 ^ 30 % 2 ^ 30 &&& 0xF) <<< 26 : ℕ)) = 2 ^ 26 * (v / 2 ^ 30 % 16) := by
      rw [hmask, Nat.shiftLeft_eq, Arith.u32_natCast (by omega)]
      omega
    rw [hu, Nat.lor_comm, Nat.shiftRight_eq_div_pow, or_eq_add (by omega)]
    omega
  · next h8 =>
    obtain rfl : i = 8 := by omega
    rw [Nat.shiftRight_eq_div_pow]
    omega

/-- The last five bits: the digit's index, and whether its sign changes. -/
theorem lowDigit_bits : ∀ bits < 32,
    ((bits ^^^ word ((bits >>> 4 : ℕ) - 1)) &&& 15) >>> 1 =
      (if bits / 16 = 1 then bits % 16 else 15 - bits % 16) / 2 ∧
    word ((((bits ^^^ word ((bits >>> 4 : ℕ) - 1)) &&& 15) &&& 1 : ℕ) - 1) =
      mask ((bits % 2 == 0) ^^ (bits / 16 == 0)) := by
  decide

theorem lowDigit_window :
    lowDigit (ofNat (a / 16 ^ i)) >>> 1 = index 16 a i ∧
      word ((lowDigit (ofNat (a / 16 ^ i)) &&& 1 : ℕ) - 1) =
        mask ((a / 16 ^ i % 2 == 0) ^^ negative a i) := by
  have hlow : (ofNat (a / 16 ^ i)).limb 0 &&& 31 = a / 16 ^ i % 32 := by
    rw [limb_ofNat (by norm_num), show 31 = 2 ^ 5 - 1 by rfl, Nat.and_two_pow_sub_one_eq_mod]
    omega
  have hdiv : a / 16 ^ i % 32 / 16 = a / 16 ^ (i + 1) % 2 := by
    rw [pow_succ, ← Nat.div_div_eq_div_mul]
    omega
  have hmod : a / 16 ^ i % 32 % 16 = a / 16 ^ i % 16 := by omega
  have hpar : a / 16 ^ i % 32 % 2 = a / 16 ^ i % 2 := by omega
  have hbits := lowDigit_bits (a / 16 ^ i % 32) (Nat.mod_lt _ (by norm_num))
  rw [hdiv, hmod, hpar] at hbits
  rw [lowDigit, hlow]
  exact hbits

theorem lower_lt_order (ha : a < 2 * 16 ^ 64) (h0 : |(a : ℤ) - 16 ^ 64| < (n : ℤ))
    (hodd : a % 2 = 1) (hpos : 0 < i) (hi : i ≤ 64) : |lower 16 a i| < (n : ℤ) := by
  rcases hi.lt_or_eq with hlt | rfl
  · refine (lower_abs_lt (by norm_num) hodd hpos sixteen_even).trans_le ?_
    refine (pow_le_pow_right₀ (by norm_num) (show i ≤ 63 by omega)).trans ?_
    norm_num [n]
  · rw [lower_top hodd ha]
    exact h0

theorem lower_ne_zero (hodd : a % 2 = 1) (hpos : 0 < i) : lower 16 a i ≠ 0 := by
  intro h
  have hlow := lower_odd (i := i) sixteen_even hodd hpos
  rw [h] at hlow
  exact absurd hlow (by decide)

theorem digit_ne_zero (hP : P ≠ 0) (hi : i < 64) :
    ((2 * (index 16 a i : ℤ) + 1) * 16 ^ i) • P ≠ 0 := by
  have hidx := index_lt_eight (a := a) (i := i)
  have hpow : (16 : ℤ) ^ i ≤ 16 ^ 63 := pow_le_pow_right₀ (by norm_num) (by omega)
  have hpos : (0 : ℤ) < 16 ^ i := by positivity
  refine zsmul_ne_zero_of_lt hP (mul_ne_zero (by omega) hpos.ne') ?_
  rw [abs_of_pos (mul_pos (by omega) hpos)]
  calc (2 * (index 16 a i : ℤ) + 1) * 16 ^ i ≤ 15 * 16 ^ 63 :=
        mul_le_mul (by omega) hpow hpos.le (by norm_num)
    _ < n := by norm_num [n]

/-- **The loop**, from digit `i` on. -/
theorem scalarMultiplyLoop_reps (ha : a < 2 * 16 ^ 64) (h0 : |(a : ℤ) - 16 ^ 64| < (n : ℤ))
    (hodd : a % 2 = 1) (hP : P ≠ 0)
    (hcp : ∀ i < 64, ∀ j < 8, cp i j = ofPoint (((2 * (j : ℤ) + 1) * 16 ^ i) • P)) :
    ∀ {rounds i : ℕ} {jp : JacobianCurvePoint}, i + rounds = 63 →
      Reps jp ((sign 16 a i * lower 16 a (i + 1)) • P) →
      ∃ jp', scalarMultiplyLoop W cp rounds (i + 1) (ofNat (a / 16 ^ i)) jp =
          some (ofNat (a / 16 ^ 63), jp') ∧
        Reps jp' ((sign 16 a 63 * lower 16 a 64) • P)
  | 0, i, jp, hi, h => by
    obtain rfl : i = 63 := by omega
    exact ⟨jp, rfl, h⟩
  | rounds + 1, i, jp, hi, h => by
    have hshift : shiftFour W (ofNat (a / 16 ^ i)) = ofNat (a / 16 ^ (i + 1)) := by
      rw [shiftFour_ofNat, Nat.div_div_eq_div_mul, ← pow_succ]
      exact (Nat.div_le_self _ _).trans_lt (ha.trans (by norm_num))
    obtain ⟨hindex, hsign⟩ := lowDigit_window (a := a) (i := i + 1)
    change _ = mask (negative a i ^^ negative a (i + 1)) at hsign
    obtain ⟨y, hy, hneg⟩ := h.negate_y (W := W) (c := negative a i ^^ negative a (i + 1))
    rw [sign_eq_negative, ite_neg_zsmul, ← sign_eq_negative] at hneg
    have hsum : ((2 * (index 16 a (i + 1) : ℤ) + 1) * 16 ^ (i + 1)) • P +
        (sign 16 a (i + 1) * lower 16 a (i + 1)) • P =
          (sign 16 a (i + 1) * lower 16 a (i + 1 + 1)) • P := by
      rw [← add_zsmul, sign_mul_lower sixteen_even (by norm_num)]
      rfl
    have hne : (sign 16 a (i + 1) * lower 16 a (i + 1 + 1)) • P ≠ 0 := by
      refine zsmul_ne_zero_of_lt hP ?_ ?_
      · refine mul_ne_zero ?_ (lower_ne_zero hodd (by omega))
        rcases sign_eq (B := 16) (a := a) (i := i + 1) with h | h <;> rw [h] <;> decide
      · rw [abs_mul, abs_sign, one_mul]
        exact lower_lt_order ha h0 hodd (by omega) (by omega)
    have hadd := pointJacobianAdd_reps (W := W) (digit_ne_zero (a := a) (i := i + 1) hP (by omega))
      hneg (by rwa [hsum])
    rw [hsum] at hadd
    have hleft : i + 1 + rounds = 63 := by omega
    obtain ⟨jp', hloop, hjp'⟩ := scalarMultiplyLoop_reps ha h0 hodd hP hcp hleft hadd
    refine ⟨jp', ?_, hjp'⟩
    rw [scalarMultiplyLoop]
    simp only [hshift, hindex, hsign, hy, hcp (i + 1) (by omega) _ index_lt_eight,
      Option.bind_eq_bind, Option.bind_some]
    exact hloop

/-- **`scalar_multiply` multiplies** the point whose multiples are in the table. -/
theorem scalarMultiply_ofNat {draws : List Bignum256} (hinv : InvertsPrime bn_inverse) (hP : P ≠ 0)
    (hcp : ∀ i < 64, ∀ j < 8, cp i j = ofPoint (((2 * (j : ℤ) + 1) * 16 ^ i) • P))
    (hk : k < (2 ^ 30) ^ 9) :
    scalarMultiply W bn_inverse cp draws (ofNat k) =
      if k < n ∧ (k = 0 ∨ (generateKRandom prime draws).isSome) then some (ofPoint (k • P))
      else none := by
  simp only [scalarMultiply, multiplier_checks hk, isNonZero_ofNat hk]
  rcases Nat.lt_or_ge k n with hkn | hkn
  swap
  · simp only [decide_eq_true hkn, if_true, not_lt.2 hkn, false_and, if_false]
  rcases Nat.eq_zero_or_pos k with rfl | hpos
  · rw [zero_nsmul]
    simp only [decide_eq_false (not_le.2 hkn), Bool.false_eq_true, if_false, ne_eq, not_true,
      decide_false, Bool.not_false, if_true, hkn, true_or, and_self]
    rfl
  have hnz : decide (k ≠ 0) = true := decide_eq_true hpos.ne'
  simp only [decide_eq_false (not_le.2 hkn), hnz, hkn, true_and, Bool.not_true, Bool.false_eq_true,
    if_false, hpos.ne', false_or]
  cases hz : generateKRandom prime draws with
  | none => rfl
  | some z =>
    obtain ⟨v, rfl, hv0, hv⟩ := generateKRandom_lt hz
    have hodd := multiplier_odd (k := k)
    have hlt := multiplier_lt hkn
    have habs := multiplier_sub_abs_lt hpos hkn
    -- the first digit
    obtain ⟨hindex, -⟩ := lowDigit_window (a := multiplier k) (i := 0)
    rw [pow_zero, Nat.div_one] at hindex
    have hfirst : ((2 * (index 16 (multiplier k) 0 : ℤ) + 1) * 16 ^ 0) • P =
        (sign 16 (multiplier k) 0 * lower 16 (multiplier k) (0 + 1)) • P := by
      rw [sign_mul_lower sixteen_even (by norm_num), lower_zero, mul_zero, add_zero]
      rfl
    have hstart := curveToJacobian_reps (W := W) (digit_ne_zero (a := multiplier k) (i := 0) hP
      (by norm_num)) hv0 hv
    rw [hfirst] at hstart
    obtain ⟨jp, hloop, hjp⟩ := scalarMultiplyLoop_reps (W := W) hlt habs hodd hP hcp
      (zero_add 63) hstart
    rw [pow_zero, Nat.div_one, ← hfirst, ← hcp 0 (by norm_num) _ index_lt_eight] at hloop
    -- the sign of the whole sum
    have hbit : word ((((ofNat (multiplier k / 16 ^ 63)).limb 0 >>> 4 &&& 1 : ℕ) : ℤ) - 1) =
        mask (negative (multiplier k) 63) := by
      rw [word_and_one_sub_one, limb_ofNat (by norm_num), Nat.shiftRight_eq_div_pow, negative]
      congr 2
      omega
    obtain ⟨y, hy, hlast⟩ := hjp.negate_y (W := W) (c := negative (multiplier k) 63)
    have hsum : (if negative (multiplier k) 63 then
        -((sign 16 (multiplier k) 63 * lower 16 (multiplier k) 64) • P)
        else (sign 16 (multiplier k) 63 * lower 16 (multiplier k) 64) • P) = k • P := by
      have hneg := ite_neg_zsmul (c := negative (multiplier k) 63) (d := false) (P := P)
        (z := lower 16 (multiplier k) 64)
      rw [Bool.xor_false, ← sign_eq_negative, lower_top hodd hlt] at hneg
      rw [← multiplier_zsmul, lower_top hodd hlt, hneg, if_neg Bool.false_ne_true, one_mul]
      rfl
    rw [hsum] at hlast
    have hres := jacobianToCurve_reps (W := W) hinv hlast
    simp only [oddMultiplier_ofNat hkn, hindex, hloop, hbit, hy, Option.isSome_some,
      Option.bind_eq_bind, Option.bind_some, if_true]
    exact congrArg some hres

end

end CotMta.Trezor.Ecdsa
