/-
  What the functions on Jacobian coordinates compute.

  `Reps jp P` says that the coordinates are partly reduced and stand for the
  group element `P`: each operation of `ecdsa.c` keeps the ranges and computes
  in the group.  Addition has an exception, opposite points; `pointJacobianAdd_neg`
  is what it does there.
-/
import CotMta.Lib.Jacobian
import CotMta.Trezor.Jacobian
import CotMta.Trezor.PointAdd

namespace CotMta.Trezor.Ecdsa

open Limbs Bignum256 CurvePoint Secp256k1 ShortWeierstrass

variable {W : Arith} {a b m : ℕ} {P Q : E.Point} {jp : JacobianCurvePoint}
  {bn_inverse : Bignum256 → Bignum256}

/-! ## Arithmetic -/

theorem four_p_lt : 4 * p < (2 ^ 30) ^ 9 := by norm_num [p]

theorem bnFastMod_prime (ha : a < (2 ^ 30) ^ 9) :
    ∃ c, bnFastMod W (ofNat a) prime = ofNat c ∧ c < 2 * p ∧ (c : Fp) = a := by
  have hle : p * (a / 2 ^ 256) ≤ a := by
    refine (Nat.mul_le_mul_right _ p_le).trans ?_
    omega
  refine ⟨a - p * (a / 2 ^ 256), ?_, ?_, ?_⟩
  · rw [prime_eq, bnFastMod_ofNat ha p_le]
  · simp only [p] at *
    omega
  · rw [Nat.cast_sub hle, Nat.cast_mul, ZMod.natCast_self, zero_mul, sub_zero]

/-- A positive multiple of the prime is normalized to the prime. -/
theorem bnIsEqual_bnFastMod (h0 : 0 < a) (ha : a < 4 * p) :
    bnIsEqual (bnFastMod W (ofNat a) prime) prime = decide ((a : Fp) = 0) := by
  have hfast : bnFastMod W (ofNat a) prime = ofNat (a - p * (a / 2 ^ 256)) := by
    rw [prime_eq, bnFastMod_ofNat (ha.trans four_p_lt) p_le]
  have hlt : a - p * (a / 2 ^ 256) < (2 ^ 30) ^ 9 :=
    (Nat.sub_le _ _).trans_lt (ha.trans four_p_lt)
  have hmul : a - p * (a / 2 ^ 256) = p ↔ a % p = 0 := by
    simp only [p] at *
    omega
  rw [hfast, prime_eq, bnIsEqual_ofNat hlt p_lt_limbs, decide_eq_decide, hmul,
    ZMod.natCast_eq_zero_iff, Nat.dvd_iff_mod_eq_zero]

theorem bnSubtractmod_le (ha : a < 4 * p) (hb : b < 2 * p) :
    ∃ c, bnSubtractmod W (ofNat a) (ofNat b) prime = ofNat c ∧ c = a + 2 * p - b ∧
      (c : Fp) = (a : Fp) - b := by
  refine ⟨difference a b, ?_, difference_of_le ha (by omega), difference_cast ha (by omega)⟩
  exact bnSubtractmod_prime (ha.trans four_p_lt) (hb.trans two_p_lt)

theorem bnMultHalf_prime (ha : a < 4 * p) :
    ∃ c, bnMultHalf W (ofNat a) prime = ofNat c ∧ c < 3 * p ∧ 2 * (c : Fp) = a := by
  have heven : (a + p * (a % 2)) % 2 = 0 := by
    have hodd := p_odd
    rcases Nat.mod_two_eq_zero_or_one a with h | h <;> rw [h] <;> omega
  have hle : p * (a % 2) ≤ p * 1 := Nat.mul_le_mul_left p (by omega)
  refine ⟨(a + p * (a % 2)) / 2, ?_, by omega, ?_⟩
  · rw [prime_eq]
    exact bnMultHalf_ofNat (ha.trans four_p_lt) p_lt_limbs
  · have hdouble : 2 * ((a + p * (a % 2)) / 2) = a + p * (a % 2) := by omega
    have hcast : ((2 * ((a + p * (a % 2)) / 2) : ℕ) : Fp) = ((a + p * (a % 2) : ℕ) : Fp) :=
      congrArg Nat.cast hdouble
    rwa [Nat.cast_mul, Nat.cast_two, Nat.cast_add, Nat.cast_mul, ZMod.natCast_self, zero_mul,
      add_zero] at hcast

theorem bnMultK_zero (ha : a < (2 ^ 30) ^ 9) : bnMultK W (ofNat a) 0 prime = ofNat 0 := by
  rw [prime_eq, bnMultK_ofNat ha (by norm_num) p_le]
  exact congrArg ofNat (by simp)

theorem bnCmov_ofNat {c : Bool} : bnCmov c (ofNat a) (ofNat b) = ofNat (if c then a else b) := by
  have h32 : ∀ {v i}, (ofNat v).limb i < 2 ^ 32 := limb_ofNat_lt.trans (by norm_num)
  rw [bnCmov_eq (fun _ => h32) fun _ => h32]
  cases c <;> rfl

theorem lt_room_of_le (h : a < 7 * p) : a < room := h.trans (by norm_num [p, room])

/-! ## Coordinates -/

/-- The coordinates are partly reduced and stand for `P`. -/
inductive Reps : JacobianCurvePoint → E.Point → Prop
  | mk {X Y Z : ℕ} {P : E.Point} (hX : X < 2 * p) (hY : Y < 2 * p) (hZ : Z < 2 * p)
    (h : IsJac P (X : Fp) Y Z) : Reps ⟨ofNat X, ofNat Y, ofNat Z⟩ P

theorem Reps.ne_zero (h : Reps jp P) : P ≠ 0 := by
  obtain ⟨-, -, -, h⟩ := h
  exact h.ne_zero

theorem bnMultiply_le (ha : a < 7 * p) (hb : b < 7 * p) :
    ∃ c, bnMultiply W (ofNat a) (ofNat b) prime = ofNat c ∧ c < 2 * p ∧ (c : Fp) = (a : Fp) * b :=
  bnMultiply_prime (lt_room_of_le ha) (lt_room_of_le hb)

/-- Whatever the factor is, the coordinates stand for the point. -/
theorem curveToJacobian_reps {z : ℕ} (hP : P ≠ 0) (h0 : 0 < z) (hz : z < p) :
    Reps (curveToJacobian W (ofPoint P) (ofNat z)) P := by
  obtain ⟨x, y, hat⟩ := exists_atNat hP
  have hx := hat.x_lt
  have hy := hat.y_lt
  obtain ⟨z2, hz2, hz2lt, hz2cast⟩ := bnMultiply_le (W := W) (a := z) (b := z) (by omega) (by omega)
  obtain ⟨z3, hz3, hz3lt, hz3cast⟩ := bnMultiply_le (W := W) (a := z) (b := z2) (by omega)
    (by omega)
  obtain ⟨X, hX, hXlt, hXcast⟩ := bnMultiply_le (W := W) (a := x) (b := z2) (by omega) (by omega)
  obtain ⟨Y, hY, hYlt, hYcast⟩ := bnMultiply_le (W := W) (a := y) (b := z3) (by omega) (by omega)
  have hjac := hat.isAt.isJac (natCast_ne_zero h0 hz)
  rw [ofPoint_of_atNat hat]
  simp only [curveToJacobian, hz2, hz3, hX, hY]
  refine ⟨hXlt, hYlt, by omega, ?_⟩
  convert hjac using 1
  · rw [hXcast, hz2cast]
    ring
  · rw [hYcast, hz3cast, hz2cast]
    ring

theorem jacobianToCurve_reps (hinv : InvertsPrime bn_inverse) (h : Reps jp P) :
    jacobianToCurve W bn_inverse jp = ofPoint P := by
  obtain ⟨hXlt, hYlt, hZlt, hZ0, hat⟩ := h
  rename_i X Y Z
  have hilt : ((Z : Fp)⁻¹).val < p := ZMod.val_lt _
  have hinverse : bn_inverse (ofNat Z) = ofNat ((Z : Fp)⁻¹).val :=
    hinv Z (hZlt.trans two_p_lt) hZ0
  generalize hi : ((Z : Fp)⁻¹).val = i at hilt hinverse
  have hicast : (i : Fp) = (Z : Fp)⁻¹ := by rw [← hi, ZMod.natCast_zmod_val]
  obtain ⟨i2, hi2, hi2lt, hi2cast⟩ := bnMultiply_le (W := W) (a := i) (b := i) (by omega) (by omega)
  obtain ⟨i3, hi3, hi3lt, hi3cast⟩ := bnMultiply_le (W := W) (a := i2) (b := i) (by omega)
    (by omega)
  obtain ⟨x, hx, hxlt, hxcast⟩ := bnMultiply_le (W := W) (a := X) (b := i2) (by omega) (by omega)
  obtain ⟨y, hy, hylt, hycast⟩ := bnMultiply_le (W := W) (a := Y) (b := i3) (by omega) (by omega)
  simp only [jacobianToCurve, hinverse, hi2, hi3, hx, hy, bnMod_prime hxlt, bnMod_prime hylt]
  refine (ofPoint_of_atNat ⟨Nat.mod_lt _ p_pos, Nat.mod_lt _ p_pos, ?_⟩).symm
  rw [ZMod.natCast_mod, ZMod.natCast_mod]
  convert hat using 1
  · rw [hxcast, hi2cast, hicast]
    field_simp
  · rw [hycast, hi3cast, hi2cast, hicast]
    field_simp

/-! ## Signs -/

/-- A mask picks a point or its opposite. -/
theorem conditionalNegate_prime {c : Bool} (ha : a < 2 * p) (h0 : (a : Fp) ≠ 0) :
    ∃ v, conditionalNegate W (mask c) (ofNat a) prime = some (ofNat v) ∧
      v < 2 * p ∧ (v : Fp) = if c then -(a : Fp) else a := by
  have hp : p < 2 ^ 256 := by norm_num [p]
  have hpos : 0 < a := by
    rcases Nat.eq_zero_or_pos a with rfl | h
    · exact absurd Nat.cast_zero h0
    · exact h
  refine ⟨if c then 2 * p - a else a, ?_, ?_, ?_⟩
  · rw [prime_eq]
    exact conditionalNegate_ofNat hp ha
  · split <;> omega
  · cases c
    · rfl
    · simp only [if_true]
      rw [Nat.cast_sub ha.le, Nat.cast_mul, ZMod.natCast_self, mul_zero, zero_sub]

theorem Reps.negate_z {c : Bool} (h : Reps jp P) :
    ∃ z, conditionalNegate W (mask c) jp.z prime = some z ∧
      Reps { jp with z := z } (if c then -P else P) := by
  obtain ⟨hX, hY, hZ, hjac⟩ := h
  obtain ⟨v, hv, hvlt, hvcast⟩ := conditionalNegate_prime (W := W) (c := c) hZ hjac.1
  refine ⟨ofNat v, hv, hX, hY, hvlt, ?_⟩
  rw [hvcast]
  cases c
  · exact hjac
  · exact hjac.neg_right

theorem ne_zero_of_isJac {X Y Z : Fp} (h : IsJac P X Y Z) : Y ≠ 0 := by
  have h0 := ne_zero_of_sq_eq h.2.equation
  rintro rfl
  exact h0 (zero_div _)

theorem Reps.negate_y {c : Bool} (h : Reps jp P) :
    ∃ y, conditionalNegate W (mask c) jp.y prime = some y ∧
      Reps { jp with y := y } (if c then -P else P) := by
  obtain ⟨hX, hY, hZ, hjac⟩ := h
  obtain ⟨v, hv, hvlt, hvcast⟩ := conditionalNegate_prime (W := W) (c := c) hY (ne_zero_of_isJac hjac)
  refine ⟨ofNat v, hv, hX, hvlt, hZ, ?_⟩
  rw [hvcast]
  cases c
  · exact hjac
  · exact hjac.neg_middle

/-! ## Doubling -/

theorem pointJacobianDouble_reps (h : Reps jp P) : Reps (pointJacobianDouble W jp) (P + P) := by
  obtain ⟨hX, hY, hZ, hjac⟩ := h
  rename_i X Y Z
  -- `m = 3 x² / 2`
  obtain ⟨xx, hxx, hxxlt, hxxcast⟩ := bnMultiply_le (W := W) (a := X) (b := X) (by omega) (by omega)
  obtain ⟨x3, hx3, hx3lt, hx3cast⟩ := bnMultK_prime (W := W) hxxlt (Or.inr rfl)
  obtain ⟨zz, hzz, hzzlt, -⟩ := bnMultiply_le (W := W) (a := Z) (b := Z) (by omega) (by omega)
  obtain ⟨z4, hz4, hz4lt, -⟩ := bnMultiply_le (W := W) (a := zz) (b := zz) (by omega) (by omega)
  obtain ⟨d, hd, hdeq, hdcast⟩ := bnSubtractmod_le (W := W) (a := x3) (b := 0) (by omega)
    (by omega)
  obtain ⟨m, hm, hmlt, hmcast⟩ := bnMultHalf_prime (W := W) (a := d) (by omega)
  obtain ⟨msq, hmsq, hmsqlt, hmsqcast⟩ := bnMultiply_le (W := W) (a := m) (b := m) (by omega)
    (by omega)
  obtain ⟨yy, hyy, hyylt, hyycast⟩ := bnMultiply_le (W := W) (a := Y) (b := Y) (by omega) (by omega)
  obtain ⟨s, hs, hslt, hscast⟩ := bnMultiply_le (W := W) (a := yy) (b := X) (by omega) (by omega)
  obtain ⟨z', hz', hz'lt, hz'cast⟩ := bnMultiply_le (W := W) (a := Y) (b := Z) (by omega)
    (by omega)
  -- `x3 = m² - 2 x y²`
  obtain ⟨t, ht, htlt, htcast⟩ := bnFastMod_prime (W := W) (a := 2 * s)
    ((show 2 * s < 4 * p by omega).trans four_p_lt)
  obtain ⟨u, hu, hueq, hucast⟩ := bnSubtractmod_le (W := W) (a := msq) (b := t) (by omega)
    (by omega)
  obtain ⟨x', hx', hx'lt, hx'cast⟩ := bnFastMod_prime (W := W) (a := u)
    ((show u < 4 * p by omega).trans four_p_lt)
  -- `y3 = m (x y² - x3) - y⁴`
  obtain ⟨v, hv, hveq, hvcast⟩ := bnSubtractmod_le (W := W) (a := s) (b := x') (by omega)
    (by omega)
  obtain ⟨w, hw, hwlt, hwcast⟩ := bnMultiply_le (W := W) (a := m) (b := v) (by omega) (by omega)
  obtain ⟨y4, hy4, hy4lt, hy4cast⟩ := bnMultiply_le (W := W) (a := yy) (b := yy) (by omega)
    (by omega)
  obtain ⟨e, he, heeq, hecast⟩ := bnSubtractmod_le (W := W) (a := w) (b := y4) (by omega)
    (by omega)
  obtain ⟨y', hy', hy'lt, hy'cast⟩ := bnFastMod_prime (W := W) (a := e)
    ((show e < 4 * p by omega).trans four_p_lt)
  simp only [pointJacobianDouble, hxx, hx3, hzz, hz4, bnMultK_zero (hz4lt.trans two_p_lt), hd, hm,
    hmsq, hyy, hs, hz', bnLshift_ofNat, ht, hu, hx', hv, hw, hy4, he, hy']
  refine ⟨hx'lt, hy'lt, hz'lt, ?_⟩
  have hslope : 2 * (m : Fp) = 3 * (X : Fp) ^ 2 := by
    rw [hmcast, hdcast, hx3cast, hxxcast]
    push_cast
    ring
  convert hjac.double two_ne_zero (ne_zero_of_isJac hjac) hslope using 1
  · rw [hx'cast, hucast, htcast, hmsqcast, Nat.cast_mul, hscast, hyycast]
    push_cast
    ring
  · rw [hy'cast, hecast, hwcast, hvcast, hx'cast, hucast, htcast, hmsqcast, Nat.cast_mul, hy4cast,
      hscast, hyycast]
    push_cast
    ring

/-! ## Addition -/

section
variable (W)

/-- The first half of `point_jacobian_add`, up to the choice of the line: `r`, `h`, `xz`
    and `yz`. -/
def addLine (p1 : CurvePoint) (p2 : JacobianCurvePoint) :
    Bignum256 × Bignum256 × Bignum256 × Bignum256 :=
  let xz := bnMultiply W p2.z p2.z prime
  let yz := bnMultiply W xz p2.z prime
  let xz := bnMultiply W p1.x xz prime
  let h := bnSubtractmod W xz p2.x prime
  let h := bnFastMod W h prime
  let xz := bnAdd W xz p2.x
  let is_doubling := bnIsEqual h prime
  let yz := bnMultiply W p1.y yz prime
  let r := bnSubtractmod W yz p2.y prime
  let yz := bnAdd W yz p2.y
  let r2 := bnMultiply W p2.x p2.x prime
  let r2 := bnMultK W r2 3 prime
  (bnCmov is_doubling r2 r, bnCmov is_doubling yz h, xz, yz)

/-- The second half: the third point on the line. -/
def addPoint (r h xz yz z : Bignum256) : JacobianCurvePoint :=
  let hsqx := bnMultiply W h h prime
  let hcby := bnMultiply W hsqx h prime
  let hsqx := bnMultiply W xz hsqx prime
  let hcby := bnMultiply W yz hcby prime
  let z := bnMultiply W h z prime
  let x := bnMultiply W r r prime
  let x := bnSubtractmod W x hsqx prime
  let x := bnFastMod W x prime
  let y := bnSubtractmod W hsqx x prime
  let y := bnSubtractmod W y x prime
  let y := bnMultiply W r y prime
  let y := bnSubtractmod W y hcby prime
  let y := bnMultHalf W y prime
  let y := bnFastMod W y prime
  ⟨x, y, z⟩

theorem pointJacobianAdd_halves (p1 : CurvePoint) (p2 : JacobianCurvePoint) :
    pointJacobianAdd W p1 p2 =
      let (r, h, xz, yz) := addLine W p1 p2
      addPoint W r h xz yz p2.z :=
  rfl

end

/-- The chord, or the tangent where the difference of the abscissas is zero. -/
theorem line_of_choice {x y X Y Z d r r2 sum : Fp} (hd : d = x * Z ^ 2 - X)
    (hr : r = y * Z ^ 3 - Y) (hr2 : r2 = 3 * X ^ 2) (hsum : sum = y * Z ^ 3 + Y) :
    Line x y X Y Z (if d = 0 then r2 else r) (if d = 0 then sum else d) := by
  subst hd hr hr2 hsum
  split
  · next hzero => exact .tangent hzero
  · next hzero => exact .chord hzero

section
variable {x y X Y Z : ℕ}

theorem addLine_eq (hx : x < p) (hy : y < p) (hX : X < 2 * p) (hY : Y < 2 * p) (hZ : Z < 2 * p) :
    ∃ r h xz yz : ℕ, addLine W ⟨ofNat x, ofNat y⟩ ⟨ofNat X, ofNat Y, ofNat Z⟩ =
        (ofNat r, ofNat h, ofNat xz, ofNat yz) ∧
      r < 4 * p ∧ h < 4 * p ∧ xz < 4 * p ∧ yz < 4 * p ∧ Line (x : Fp) y X Y Z r h ∧
      (xz : Fp) = x * Z ^ 2 + X ∧ (yz : Fp) = y * Z ^ 3 + Y := by
  obtain ⟨zz, hzz, hzzlt, hzzcast⟩ := bnMultiply_le (W := W) (a := Z) (b := Z) (by omega) (by omega)
  obtain ⟨z3, hz3, hz3lt, hz3cast⟩ := bnMultiply_le (W := W) (a := zz) (b := Z) (by omega)
    (by omega)
  obtain ⟨x1, hx1, hx1lt, hx1cast⟩ := bnMultiply_le (W := W) (a := x) (b := zz) (by omega)
    (by omega)
  obtain ⟨d, hd, hdeq, hdcast⟩ := bnSubtractmod_le (W := W) (a := x1) (b := X) (by omega) hX
  obtain ⟨h, hh, hhlt, hhcast⟩ := bnFastMod_prime (W := W) (a := d)
    ((show d < 4 * p by omega).trans four_p_lt)
  have hdoubling := bnIsEqual_bnFastMod (W := W) (a := d) (by omega) (by omega)
  rw [hh] at hdoubling
  have hxsum : bnAdd W (ofNat x1) (ofNat X) = ofNat (x1 + X) :=
    bnAdd_ofNat (hx1lt.trans two_p_lt) (hX.trans two_p_lt)
  obtain ⟨y1, hy1, hy1lt, hy1cast⟩ := bnMultiply_le (W := W) (a := y) (b := z3) (by omega)
    (by omega)
  obtain ⟨r, hr, hreq, hrcast⟩ := bnSubtractmod_le (W := W) (a := y1) (b := Y) (by omega) hY
  have hysum : bnAdd W (ofNat y1) (ofNat Y) = ofNat (y1 + Y) :=
    bnAdd_ofNat (hy1lt.trans two_p_lt) (hY.trans two_p_lt)
  obtain ⟨xx, hxx, hxxlt, hxxcast⟩ := bnMultiply_le (W := W) (a := X) (b := X) (by omega) (by omega)
  obtain ⟨r2, hr2, hr2lt, hr2cast⟩ := bnMultK_prime (W := W) hxxlt (Or.inr rfl)
  have hx1' : (x1 : Fp) = x * Z ^ 2 := by rw [hx1cast, hzzcast, pow_two]
  have hy1' : (y1 : Fp) = y * Z ^ 3 := by
    rw [hy1cast, hz3cast, hzzcast]
    ring
  have hxz : ((x1 + X : ℕ) : Fp) = x * Z ^ 2 + X := by rw [Nat.cast_add, hx1']
  have hyz : ((y1 + Y : ℕ) : Fp) = y * Z ^ 3 + Y := by rw [Nat.cast_add, hy1']
  have hline : Line (x : Fp) y X Y Z (if (h : Fp) = 0 then (r2 : Fp) else r)
      (if (h : Fp) = 0 then ((y1 + Y : ℕ) : Fp) else h) := by
    refine line_of_choice ?_ ?_ ?_ hyz
    · rw [hhcast, hdcast, hx1']
    · rw [hrcast, hy1']
    · rw [hr2cast, hxxcast, pow_two]
      push_cast
      rfl
  rw [← hhcast] at hdoubling
  refine ⟨if (h : Fp) = 0 then r2 else r, if (h : Fp) = 0 then y1 + Y else h, x1 + X, y1 + Y, ?_, ?_,
    ?_, by omega, by omega, ?_, hxz, hyz⟩
  · simp only [addLine, hzz, hz3, hx1, hd, hh, hdoubling, hxsum, hy1, hr, hysum, hxx, hr2,
      bnCmov_ofNat, decide_eq_true_eq]
  · split <;> omega
  · split <;> omega
  · rw [apply_ite (Nat.cast : ℕ → Fp), apply_ite (Nat.cast : ℕ → Fp)]
    exact hline

theorem addPoint_eq {r h xz yz : ℕ} (hr : r < 4 * p) (hh : h < 4 * p) (hxz : xz < 4 * p)
    (hyz : yz < 4 * p) (hZ : Z < 2 * p) :
    ∃ X' Y' Z', addPoint W (ofNat r) (ofNat h) (ofNat xz) (ofNat yz) (ofNat Z) =
        ⟨ofNat X', ofNat Y', ofNat Z'⟩ ∧ X' < 2 * p ∧ Y' < 2 * p ∧ Z' < 2 * p ∧
      (Z' : Fp) = h * Z ∧ (X' : Fp) = (r : Fp) ^ 2 - (h : Fp) ^ 2 * xz ∧
      2 * (Y' : Fp) = r * ((h : Fp) ^ 2 * xz - 2 * ((r : Fp) ^ 2 - (h : Fp) ^ 2 * xz)) -
        (h : Fp) ^ 3 * yz := by
  obtain ⟨hsq, hhsq, hsqlt, hsqcast⟩ := bnMultiply_le (W := W) (a := h) (b := h) (by omega)
    (by omega)
  obtain ⟨hcb, hhcb, hcblt, hcbcast⟩ := bnMultiply_le (W := W) (a := hsq) (b := h) (by omega)
    (by omega)
  obtain ⟨hx2, hhx2, hx2lt, hx2cast⟩ := bnMultiply_le (W := W) (a := xz) (b := hsq) (by omega)
    (by omega)
  obtain ⟨hy2, hhy2, hy2lt, hy2cast⟩ := bnMultiply_le (W := W) (a := yz) (b := hcb) (by omega)
    (by omega)
  obtain ⟨Z', hZ', hZ'lt, hZ'cast⟩ := bnMultiply_le (W := W) (a := h) (b := Z) (by omega)
    (by omega)
  -- the abscissa
  obtain ⟨rr, hrr, hrrlt, hrrcast⟩ := bnMultiply_le (W := W) (a := r) (b := r) (by omega)
    (by omega)
  obtain ⟨t, ht, hteq, htcast⟩ := bnSubtractmod_le (W := W) (a := rr) (b := hx2) (by omega) hx2lt
  obtain ⟨X', hX', hX'lt, hX'cast⟩ := bnFastMod_prime (W := W) (a := t)
    ((show t < 4 * p by omega).trans four_p_lt)
  -- the ordinate
  obtain ⟨u, hu, hueq, hucast⟩ := bnSubtractmod_le (W := W) (a := hx2) (b := X') (by omega) hX'lt
  obtain ⟨v, hv, hveq, hvcast⟩ := bnSubtractmod_le (W := W) (a := u) (b := X') (by omega) hX'lt
  obtain ⟨w, hw, hwlt, hwcast⟩ := bnMultiply_le (W := W) (a := r) (b := v) (by omega) (by omega)
  obtain ⟨e, he, heeq, hecast⟩ := bnSubtractmod_le (W := W) (a := w) (b := hy2) (by omega) hy2lt
  obtain ⟨f, hf, hflt, hfcast⟩ := bnMultHalf_prime (W := W) (a := e) (by omega)
  obtain ⟨Y', hY', hY'lt, hY'cast⟩ := bnFastMod_prime (W := W) (a := f)
    ((show f < 4 * p by omega).trans four_p_lt)
  have hX'eq : (X' : Fp) = (r : Fp) ^ 2 - (h : Fp) ^ 2 * xz := by
    rw [hX'cast, htcast, hrrcast, hx2cast, hsqcast]
    ring
  refine ⟨X', Y', Z', ?_, hX'lt, hY'lt, hZ'lt, hZ'cast, hX'eq, ?_⟩
  · simp only [addPoint, hhsq, hhcb, hhx2, hhy2, hZ', hrr, ht, hX', hu, hv, hw, he, hf, hY']
  · rw [hY'cast, hfcast, hecast, hwcast, hvcast, hucast, hX'eq, hx2cast, hy2cast, hcbcast, hsqcast]
    ring

/-- What `point_jacobian_add` computes: the line it chooses, and the point on it. -/
theorem pointJacobianAdd_eq (hx : x < p) (hy : y < p) (hX : X < 2 * p) (hY : Y < 2 * p)
    (hZ : Z < 2 * p) :
    ∃ (r h : Fp) (X' Y' Z' : ℕ),
      pointJacobianAdd W ⟨ofNat x, ofNat y⟩ ⟨ofNat X, ofNat Y, ofNat Z⟩ =
        ⟨ofNat X', ofNat Y', ofNat Z'⟩ ∧ X' < 2 * p ∧ Y' < 2 * p ∧ Z' < 2 * p ∧
      Line (x : Fp) y X Y Z r h ∧ (Z' : Fp) = h * Z ∧
      (X' : Fp) = r ^ 2 - h ^ 2 * (x * Z ^ 2 + X) ∧
      2 * (Y' : Fp) = r * (h ^ 2 * (x * Z ^ 2 + X) - 2 * (r ^ 2 - h ^ 2 * (x * Z ^ 2 + X))) -
        h ^ 3 * (y * Z ^ 3 + Y) := by
  obtain ⟨r, h, xz, yz, heq, hr, hh, hxz, hyz, hline, hxzcast, hyzcast⟩ :=
    addLine_eq (W := W) hx hy hX hY hZ
  obtain ⟨X', Y', Z', hpoint, hX', hY', hZ', hZcast, hXcast, hYcast⟩ :=
    addPoint_eq (W := W) hr hh hxz hyz hZ
  refine ⟨r, h, X', Y', Z', ?_, hX', hY', hZ', hline, hZcast, ?_, ?_⟩
  · rw [pointJacobianAdd_halves, heq]
    exact hpoint
  · rw [hXcast, hxzcast]
  · rw [hYcast, hxzcast, hyzcast]

end

/-- **`point_jacobian_add` adds in the group**, doublings included. -/
theorem pointJacobianAdd_reps (hQ : Q ≠ 0) (h : Reps jp P) (hne : Q + P ≠ 0) :
    Reps (pointJacobianAdd W (ofPoint Q) jp) (Q + P) := by
  obtain ⟨x, y, hat⟩ := exists_atNat hQ
  obtain ⟨hX, hY, hZ, hjac⟩ := h
  obtain ⟨r, h, X', Y', Z', heq, hX', hY', hZ', hline, hZcast, hXcast, hYcast⟩ :=
    pointJacobianAdd_eq (W := W) hat.x_lt hat.y_lt hX hY hZ
  rw [ofPoint_of_atNat hat, heq]
  refine ⟨hX', hY', hZ', ?_⟩
  rw [hZcast, hXcast]
  exact hjac.add hat.isAt two_ne_zero hne hline hYcast

/-- Opposite points leave coordinates of no point: the factor is zero. -/
theorem pointJacobianAdd_neg (h : Reps jp P) :
    ∃ Z, (pointJacobianAdd W (ofPoint (-P)) jp).z = ofNat Z ∧ (Z : Fp) = 0 := by
  obtain ⟨x, y, hat⟩ := exists_atNat (neg_ne_zero.2 h.ne_zero)
  obtain ⟨hX, hY, hZ, hjac⟩ := h
  obtain ⟨r, h, X', Y', Z', heq, -, -, -, hline, hZcast, -, -⟩ :=
    pointJacobianAdd_eq (W := W) hat.x_lt hat.y_lt hX hY hZ
  rw [ofPoint_of_atNat hat, heq]
  exact ⟨Z', rfl, by rw [hZcast, hline.of_neg hjac hat.isAt, zero_mul]⟩

/-- **What `point_jacobian_add` returns for any two points**: coordinates of the sum,
    and for opposite points, which it does not tell apart, coordinates of none. -/
theorem pointJacobianAdd_cases (hQ : Q ≠ 0) (h : Reps jp P) :
    (Q + P ≠ 0 → Reps (pointJacobianAdd W (ofPoint Q) jp) (Q + P)) ∧
    (Q + P = 0 → ∃ Z, (pointJacobianAdd W (ofPoint Q) jp).z = ofNat Z ∧ (Z : Fp) = 0) := by
  refine ⟨pointJacobianAdd_reps hQ h, fun hzero => ?_⟩
  obtain rfl : Q = -P := eq_neg_of_add_eq_zero_left hzero
  exact pointJacobianAdd_neg h

/-- The generator twice, with the factor three. -/
theorem pointJacobianAdd_cases_double : ∃ jp, Reps jp G ∧
    Reps (pointJacobianAdd machine (ofPoint G) jp) (G + G) := by
  have h : Reps (curveToJacobian machine (ofPoint G) (ofNat 3)) G :=
    curveToJacobian_reps G_isAt.ne_zero (by norm_num) (by norm_num [p])
  have hdouble : G + G ≠ 0 := by
    rw [← two_nsmul]
    exact nsmul_ne_zero G_isAt.ne_zero (by norm_num) (by norm_num [n])
  exact ⟨_, h, (pointJacobianAdd_cases G_isAt.ne_zero h).1 hdouble⟩

end CotMta.Trezor.Ecdsa
