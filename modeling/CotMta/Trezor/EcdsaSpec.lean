/-
  The parser of `ecdsa.c` on the bytes of a point, and what the group operations
  are taken to do.

  `ofPoint P` is the `curve_point` of a group element, in reduced coordinates.
  On the 33 bytes of `P` the parser gives exactly `ofPoint P`: the power of
  `bn_sqrt` is a square root, the parity picks the ordinate, and the check of
  the curve's equation passes.
-/
import CotMta.Compressed
import CotMta.Trezor.Ecdsa

namespace CotMta.Trezor

open Limbs Bignum256 Secp256k1 ShortWeierstrass

variable {W : Arith} {a b x y : ℕ} {P Q : E.Point}

/-! ## The field prime as a modulus -/

theorem p_le : p ≤ 2 ^ 256 := by norm_num [p]
theorem le_p : 2 ^ 256 - 2 ^ 224 ≤ p := by norm_num [p]
theorem two_p_lt : 2 * p < (2 ^ 30) ^ 9 := by norm_num [p]

theorem bnMod_prime (ha : a < 2 * p) : bnMod W (ofNat a) prime = ofNat (a % p) := by
  rw [prime_eq]
  exact bnMod_eq two_p_lt ha

/-- A bound on every value that the functions below multiply. -/
def room : ℕ := 2 ^ 4 * 2 ^ 256

theorem lt_room (ha : a < 2 * p) : a < room := ha.trans (by norm_num [p, room])

/-- The factors need not be reduced. -/
theorem bnMultiply_prime (ha : a < room) (hb : b < room) :
    ∃ c, bnMultiply W (ofNat a) (ofNat b) prime = ofNat c ∧ c < 2 * p ∧
      (c : Fp) = (a : Fp) * b := by
  have hab : a * b < (2 ^ 30) ^ 9 * (2 * 2 ^ 256) :=
    (Nat.mul_lt_mul'' ha hb).trans_le (by norm_num [room])
  have hroom : room ≤ (2 ^ 30) ^ 9 := by norm_num [room]
  refine ⟨PartialReduction.reduce p (2 ^ 256) (2 ^ 30) 9 (a * b), ?_, ?_, ?_⟩
  · rw [prime_eq]
    exact bnMultiply_ofNat (ha.trans_le hroom) (hb.trans_le hroom) p_le le_p hab
  · exact (reduce_nine_lt p_le le_p hab).trans (by norm_num [p])
  · rw [← Nat.cast_mul, ZMod.natCast_eq_natCast_iff']
    exact reduce_nine_mod p_le

theorem bnAddmod_prime (ha : a < 2 * p) (hb : b < 2 * p) :
    ∃ c, bnAddmod W (ofNat a) (ofNat b) prime = ofNat c ∧ c < 2 * p ∧ (c : Fp) = (a : Fp) + b := by
  have hlt : a + b - p * ((a / 2 ^ 240 + b / 2 ^ 240) / 2 ^ 16) < 2 * p := by
    simp only [p] at *
    omega
  have hle : p * ((a / 2 ^ 240 + b / 2 ^ 240) / 2 ^ 16) ≤ a + b := by
    refine (Nat.mul_le_mul_right _ p_le).trans ?_
    omega
  refine ⟨_, ?_, hlt, ?_⟩
  · rw [prime_eq]
    exact bnAddmod_ofNat (ha.trans two_p_lt) (hb.trans two_p_lt) p_le
  · rw [Nat.cast_sub hle, Nat.cast_mul, ZMod.natCast_self, zero_mul, sub_zero, Nat.cast_add]

/-! ## The square root -/

theorem bnRshift_ofNat (ha : a < (2 ^ 30) ^ 9) : bnRshift (ofNat a) = ofNat (a / 2) := by
  refine ext_limb fun i hi => ?_
  rw [bnRshift, limb_ofFn hi, limb_ofNat hi, limb_ofNat hi, Nat.div_right_comm]
  have hnext : (if i < 8 then ((ofNat a).limb (i + 1) &&& 1) <<< 29 else 0) =
      2 ^ 29 * (a / 2 ^ (30 * i) / 2 ^ 30 % 2) := by
    split
    · rw [limb_ofNat (by omega), Nat.and_one_is_mod, Nat.shiftLeft_eq, mul_add, pow_add,
        ← Nat.div_div_eq_div_mul]
      omega
    · obtain rfl : i = 8 := by omega
      omega
  rw [hnext, Nat.shiftRight_one]
  generalize a / 2 ^ (30 * i) = v
  rw [Nat.lor_comm, ← Nat.two_pow_add_eq_or_of_lt (by omega)]
  omega

/-- One limb of the exponent. -/
theorem bnSqrtLimb_eq {i : ℕ} : ∀ {j limb x r : ℕ}, limb < 2 ^ j → x < room →
    r < 2 * p → ∃ x' r', bnSqrtLimb W prime i j limb (ofNat x) (ofNat r) = (ofNat x', ofNat r') ∧
      x' < room ∧ r' < 2 * p ∧ (r' : Fp) = r * (x : Fp) ^ limb ∧
      (i ≠ 8 → (x' : Fp) = (x : Fp) ^ 2 ^ j)
  | 0, limb, x, r, hlimb, hx, hr => by
    obtain rfl : limb = 0 := by omega
    exact ⟨x, r, rfl, hx, hr, by rw [pow_zero, mul_one], fun _ => by rw [pow_zero, pow_one]⟩
  | j + 1, limb, x, r, hlimb, hx, hr => by
    by_cases hbreak : i = 8 ∧ limb = 0
    · rw [bnSqrtLimb, if_pos hbreak]
      exact ⟨x, r, rfl, hx, hr, by rw [hbreak.2, pow_zero, mul_one], fun h => absurd hbreak.1 h⟩
    · rw [bnSqrtLimb, if_neg hbreak, Nat.and_one_is_mod, Nat.shiftRight_one]
      obtain ⟨s, hs, hslt, hscast⟩ := bnMultiply_prime (W := W) hx hx
      have hres : ∃ t, (if limb % 2 = 1 then bnMultiply W (ofNat x) (ofNat r) prime else ofNat r) =
          ofNat t ∧ t < 2 * p ∧ (t : Fp) = r * (x : Fp) ^ (limb % 2) := by
        rcases Nat.mod_two_eq_zero_or_one limb with h | h <;> rw [h]
        · exact ⟨r, rfl, hr, by rw [pow_zero, mul_one]⟩
        · obtain ⟨t, ht, htlt, htcast⟩ := bnMultiply_prime (W := W) hx (lt_room hr)
          exact ⟨t, ht, htlt, by rw [htcast, pow_one, mul_comm]⟩
      obtain ⟨t, ht, htlt, htcast⟩ := hres
      obtain ⟨x', r', heq, hx', hr', hrcast, hxcast⟩ :=
        bnSqrtLimb_eq (i := i) (j := j) (x := s) (r := t)
          (show limb / 2 < 2 ^ j by rw [pow_succ] at hlimb; omega) (lt_room hslt) htlt
      simp only [hs, ht]
      refine ⟨x', r', heq, hx', hr', ?_, fun hi => ?_⟩
      · rw [hrcast, htcast, hscast, ← pow_two, ← pow_mul, mul_assoc, ← pow_add, Nat.mod_add_div]
      · rw [hxcast hi, hscast, ← pow_two, ← pow_mul, pow_succ']

/-- The limbs of the exponent from `i` on. -/
theorem foldl_bnSqrtLimb {e : ℕ} : ∀ {k i x r : ℕ}, i + k = 9 → x < room →
    r < 2 * p → ∃ r', ((List.range' i k).foldl
      (fun r i => bnSqrtLimb W prime i 30 ((ofNat e).limb i) r.1 r.2) (ofNat x, ofNat r)).2 =
        ofNat r' ∧ r' < 2 * p ∧
      (r' : Fp) = r * (x : Fp) ^ value (2 ^ 30) ((List.range' i k).map (ofNat e).limb)
  | 0, i, x, r, _, _, hr => ⟨r, rfl, hr, by simp [value]⟩
  | k + 1, i, x, r, hi, hx, hr => by
    obtain ⟨x', r', heq, hx', hr', hrcast, hxcast⟩ :=
      bnSqrtLimb_eq (W := W) (i := i) (limb_ofNat_lt (v := e) (i := i)) hx hr
    obtain ⟨r'', hfold, hlt, hcast⟩ := foldl_bnSqrtLimb (e := e) (k := k) (i := i + 1)
      (by omega) hx' hr'
    refine ⟨r'', ?_, hlt, ?_⟩
    · rw [List.range'_succ, List.foldl_cons, heq]
      exact hfold
    · rw [List.range'_succ, List.map_cons, value, hcast, hrcast, pow_add, pow_mul, mul_assoc]
      rcases eq_or_ne i 8 with rfl | hne
      · -- no limb is left
        obtain rfl : k = 0 := by omega
        simp [value]
      · rw [hxcast hne]

theorem bnSqrt_prime (ha : a < room) :
    ∃ r, bnSqrt W (ofNat a) prime = ofNat r ∧ r < p ∧ (r : Fp) = (a : Fp) ^ ((p + 1) / 4) := by
  have hp : p + 1 < (2 ^ 30) ^ 9 := by norm_num [p]
  have hexp : bnRshift (bnRshift (bnAddi W prime 1)) = ofNat ((p + 1) / 4) := by
    rw [prime_eq, bnAddi_ofNat (by norm_num [p]) (by norm_num), bnRshift_ofNat hp,
      bnRshift_ofNat ((Nat.div_le_self _ _).trans_lt hp), Nat.div_div_eq_div_mul]
  have hone : bnOne = ofNat 1 := by decide
  have hvalue : value (2 ^ 30) ((List.range' 0 9).map (ofNat ((p + 1) / 4)).limb) = (p + 1) / 4 := by
    have h := map_getD_range (l := (ofNat ((p + 1) / 4)).val)
    rw [(ofNat _).length_val, List.range_eq_range'] at h
    unfold limb
    rw [h, ofNat, value_limbs_of_lt ((Nat.div_le_self _ _).trans_lt hp)]
  obtain ⟨r, hfold, hlt, hcast⟩ := foldl_bnSqrtLimb (W := W) (e := (p + 1) / 4) (k := 9) (i := 0)
    (x := a) (r := 1) rfl ha (by norm_num [p])
  refine ⟨r % p, ?_, Nat.mod_lt _ p_pos, ?_⟩
  · simp only [bnSqrt, hexp, hone, List.range_eq_range', hfold]
    exact bnMod_prime hlt
  · rw [ZMod.natCast_mod, hcast, hvalue, Nat.cast_one, one_mul]

/-! ## Points -/

namespace CurvePoint

/-- The reduced coordinates of a group element; infinity has two zeros. -/
def ofPoint (P : E.Point) : CurvePoint :=
  match coords P with
  | none => ⟨ofNat 0, ofNat 0⟩
  | some (x, y) => ⟨ofNat x.val, ofNat y.val⟩

end CurvePoint

open CurvePoint

theorem p_lt_limbs : p < (2 ^ 30) ^ 9 := by norm_num [p]

theorem ofPoint_of_atNat (h : AtNat P x y) : ofPoint P = ⟨ofNat x, ofNat y⟩ := by
  obtain ⟨hx, hy, hn, rfl⟩ := h
  simp only [ofPoint, coords, ZMod.val_natCast_of_lt hx, ZMod.val_natCast_of_lt hy]

/-- `(0, 0)` is not on the curve. -/
theorem pointIsInfinity_ofPoint : pointIsInfinity (ofPoint P) = decide (P = 0) := by
  rcases eq_or_ne P 0 with rfl | hP
  · rw [decide_eq_true rfl]
    rfl
  · obtain ⟨x, y, hat⟩ := exists_atNat hP
    have hy := hat.ordinate_ne_zero
    rw [ofPoint_of_atNat hat, pointIsInfinity, bnIsZero_ofNat (hat.y_lt.trans p_lt_limbs),
      decide_eq_false hy, Bool.and_false, decide_eq_false hP]

theorem bnIsOdd_ofNat : bnIsOdd (ofNat a) = decide (a % 2 = 1) := by
  have hpar : a % 2 ^ 30 % 2 = a % 2 := by omega
  rw [bnIsOdd, limb_ofNat (by norm_num), Nat.and_one_is_mod, mul_zero, pow_zero, Nat.div_one, hpar]
  rfl

theorem compressCoords_ofNat (hx : x < p) :
    compressCoords W ⟨ofNat x, ofNat y⟩ = compressedBytes x y := by
  refine Bytes.ext ?_
  simp only [compressedBytes, compressCoords, bnIsOdd_ofNat, bnWriteBe_ofNat (hx.trans_le p_le),
    decide_eq_true_eq]
  rfl

theorem compressCoords_ofPoint (hP : P ≠ 0) :
    compressed P = some (compressCoords W (ofPoint P)) := by
  obtain ⟨x, y, hat⟩ := exists_atNat hP
  rw [hat.compressed, ofPoint_of_atNat hat, compressCoords_ofNat hat.x_lt]

/-- The prefix has the parity of the ordinate in its low bit. -/
theorem prefix_parity :
    ((if y % 2 = 1 then 0x03 else 0x02 : UInt8) &&& 0x01).toNat = y % 2 := by
  rcases Nat.mod_two_eq_zero_or_one y with h | h <;> rw [h] <;> rfl

/-- The cube of an abscissa, with the coefficient zero of the curve subtracted on
    the way. -/
theorem bnCube_prime (hx : x < room) :
    ∃ x3, bnMultiply W (ofNat x) (bnSubi W (bnMultiply W (ofNat x) (ofNat x) prime) 0 prime)
        prime = ofNat x3 ∧
      x3 < 2 * p ∧ (x3 : Fp) = (x : Fp) ^ 3 := by
  obtain ⟨x2, hx2, hx2lt, hx2cast⟩ := bnMultiply_prime (W := W) hx hx
  have hsubi : bnSubi W (ofNat x2) 0 prime = ofNat (x2 + p) := by
    rw [prime_eq]
    exact bnSubi_zero (hx2lt.trans two_p_lt) p_lt_limbs
  obtain ⟨x3, hx3, hx3lt, hx3cast⟩ := bnMultiply_prime (W := W) (b := x2 + p) hx
    ((Nat.add_lt_add_right hx2lt p).trans (by norm_num [p, room]))
  refine ⟨x3, by rw [hx2, hsubi, hx3], hx3lt, ?_⟩
  push_cast at hx3cast
  rw [hx3cast, hx2cast, ZMod.natCast_self]
  ring

/-- The candidate is a power of `x ^ 3 + 7`, and one of it and its opposite has the
    parity that the prefix asks for. -/
theorem uncompressCoords_ofNat (odd : UInt8) (hx : x < room) :
    ∃ r < p, (r : Fp) = ((x : Fp) ^ 3 + 7) ^ ((p + 1) / 4) ∧
      uncompressCoords W odd (ofNat x) =
        ofNat (if (odd &&& 0x01).toNat = r % 2 then r else p - r) := by
  obtain ⟨x3, hx3, hx3lt, hx3cast⟩ := bnCube_prime (W := W) hx
  have hadd : bnAdd W (ofNat x3) curveB = ofNat (x3 + 7) := by
    rw [curveB_eq]
    exact bnAdd_ofNat (hx3lt.trans two_p_lt) (by norm_num)
  obtain ⟨r, hr, hrlt, hrcast⟩ := bnSqrt_prime (W := W)
    ((Nat.add_lt_add_right hx3lt 7).trans (by norm_num [p, room]))
  have hcube : ((x3 + 7 : ℕ) : Fp) = (x : Fp) ^ 3 + 7 := by
    push_cast
    rw [hx3cast]
  have hpar : (ofNat r).limb 0 &&& 1 = r % 2 := by
    rw [limb_ofNat (by norm_num), Nat.and_one_is_mod]
    omega
  have hneg : bnSubtract W prime (ofNat r) = ofNat (p - r) := by
    rw [prime_eq, bnSubtract_ofNat p_lt_limbs (hrlt.trans p_lt_limbs)]
    refine ofNat_congr ?_
    rw [Nat.add_sub_assoc hrlt.le, Nat.add_mod_left]
  refine ⟨r, hrlt, by rw [hrcast, hcube], ?_⟩
  simp only [uncompressCoords, hx3, hadd, hr, hneg, hpar]
  by_cases hodd : (odd &&& 0x01).toNat = r % 2
  · rw [if_neg (not_not.2 hodd), if_pos hodd]
  · rw [if_pos hodd, if_neg hodd]

theorem uncompressCoords_eq (h : AtNat P x y) :
    uncompressCoords W (if y % 2 = 1 then 0x03 else 0x02) (ofNat x) = ofNat y := by
  obtain ⟨r, hrlt, hrcast, hr⟩ := uncompressCoords_ofNat (W := W)
    (if y % 2 = 1 then 0x03 else 0x02) (h.x_lt.trans (by norm_num [p, room]))
  have hrsq : (r : Fp) ^ 2 = (y : Fp) ^ 2 := by
    rw [hrcast, ← h.isAt.equation, pow_root_sq]
  have hroot := root_by_parity hrlt h.y_lt h.y_ne_zero hrsq
  simp only [@eq_comm _ (r % 2)] at hroot
  rw [hr, prefix_parity, hroot]

/-- **The check of a public key** is the check of reduced coordinates and of the
    curve's equation. -/
theorem ecdsaValidatePubkey_ofNat (hx : x < room) (hy : y < room) :
    ecdsaValidatePubkey W ⟨ofNat x, ofNat y⟩ = true ↔
      x < p ∧ y < p ∧ (y : Fp) ^ 2 = (x : Fp) ^ 3 + 7 := by
  have hroom : room ≤ (2 ^ 30) ^ 9 := by norm_num [room]
  have hinf : pointIsInfinity ⟨ofNat x, ofNat y⟩ = decide (x = 0 ∧ y = 0) := by
    rw [pointIsInfinity, bnIsZero_ofNat (hx.trans_le hroom), bnIsZero_ofNat (hy.trans_le hroom),
      Bool.decide_and]
  have hless : ∀ {v}, v < room → bnIsLess (ofNat v) prime = decide (v < p) := by
    intro v hv
    rw [prime_eq, bnIsLess_ofNat (hv.trans_le hroom) p_lt_limbs]
  obtain ⟨y2, hy2, hy2lt, hy2cast⟩ := bnMultiply_prime (W := W) hy hy
  obtain ⟨x3, hx3, hx3lt, hx3cast⟩ := bnCube_prime (W := W) hx
  obtain ⟨rhs, hrhs, hrhslt, hrhscast⟩ := bnAddmod_prime (W := W) (b := 7) hx3lt
    (by norm_num [p])
  rw [← curveB_eq] at hrhs
  have heq : rhs % p = y2 % p ↔ (y : Fp) ^ 2 = (x : Fp) ^ 3 + 7 := by
    rw [← ZMod.natCast_eq_natCast_iff']
    push_cast at hrhscast
    rw [hrhscast, hx3cast, hy2cast, eq_comm, pow_two]
  have hbits : bnIsEqual (ofNat (rhs % p)) (ofNat (y2 % p)) = decide (rhs % p = y2 % p) :=
    bnIsEqual_ofNat ((Nat.mod_lt _ p_pos).trans p_lt_limbs)
      ((Nat.mod_lt _ p_pos).trans p_lt_limbs)
  simp only [ecdsaValidatePubkey, hinf, hless hx, hless hy, hy2, hx3, hrhs,
    bnMod_prime hrhslt, bnMod_prime hy2lt, hbits, heq, decide_eq_true_eq, Bool.or_eq_true,
    Bool.not_eq_true', decide_eq_false_iff_not]
  by_cases hzero : x = 0 ∧ y = 0
  · -- the origin is not on the curve
    rw [if_pos hzero]
    obtain ⟨rfl, rfl⟩ := hzero
    refine iff_of_false Bool.false_ne_true ?_
    rintro ⟨-, -, h⟩
    exact ne_zero_of_sq_eq h Nat.cast_zero
  · rw [if_neg hzero]
    by_cases hlt : x < p ∧ y < p
    · rw [if_neg fun h => h.elim (· hlt.1) (· hlt.2)]
      simp only [hlt.1, hlt.2, true_and, decide_eq_true_eq]
    · rw [if_pos (not_and_or.1 hlt)]
      refine iff_of_false Bool.false_ne_true ?_
      rintro ⟨h, h', -⟩
      exact hlt ⟨h, h'⟩

theorem ecdsaValidatePubkey_ofPoint (hP : P ≠ 0) : ecdsaValidatePubkey W (ofPoint P) = true := by
  obtain ⟨x, y, hat⟩ := exists_atNat hP
  rw [ofPoint_of_atNat hat, ecdsaValidatePubkey_ofNat (hat.x_lt.trans (by norm_num [p, room]))
    (hat.y_lt.trans (by norm_num [p, room]))]
  exact ⟨hat.x_lt, hat.y_lt, hat.isAt.equation⟩

/-! ## The parser -/

theorem readBytes_id {f : ℕ → UInt8} : ∀ {k o : ℕ},
    (Id.run (readBytes (fun i => pure (f i)) k o)).toList = (List.range' o k).map f
  | 0, _ => rfl
  | k + 1, o => by
    rw [List.range'_succ, List.map_cons, ← readBytes_id (k := k) (o := o + 1)]
    rfl

/-- The abscissa that the parser reads. -/
theorem readBytes_abscissa {bytes : Bytes 33} {f : ℕ → UInt8}
    (hf : ∀ i < 33, bytes.toList[i]? = some (f i)) :
    bnReadBe W (Id.run (readBytes (fun i => pure (f i)) 32 1)) = ofNat (abscissa bytes) := by
  rw [bnReadBe_eq, Bytes.nat, abscissa, readBytes_id]
  congr 2
  refine List.ext_getElem (by simp) fun i h1 h2 => ?_
  have hi : i < 32 := by simpa using h1
  have hbyte := hf (1 + i) (by omega)
  rw [List.getElem?_eq_getElem (by rw [bytes.length_toList]; omega)] at hbyte
  rw [List.getElem_map, List.getElem_range', one_mul, List.getElem_drop]
  exact (Option.some.inj hbyte).symm

/-- What the parser makes of a string with the prefix `0x02` or `0x03`. -/
theorem ecdsaReadPubkey_of_hasPrefix {bytes : Bytes 33} (hpre : HasPrefix bytes)
    {f : ℕ → UInt8} (hf : ∀ i < 33, bytes.toList[i]? = some (f i)) :
    Id.run (ecdsaReadPubkey W fun i => pure (f i)) =
      let x := ofNat (abscissa bytes)
      let pub : CurvePoint := ⟨x, uncompressCoords W (f 0) x⟩
      if ecdsaValidatePubkey W pub then some pub else none := by
  have hhead : f 0 = 0x02 ∨ f 0 = 0x03 := by
    rw [HasPrefix, List.head?_eq_getElem?, hf 0 (by omega)] at hpre
    simpa using hpre
  have hne : f 0 ≠ 0x04 := by
    rcases hhead with h | h <;> rw [h] <;> decide
  simp only [ecdsaReadPubkey, Id.run_bind, Id.run_pure, if_neg hne, if_pos hhead,
    readBytes_abscissa hf]

/-- **The parser on the bytes of a point.** -/
theorem ecdsaReadPubkey_compressed {bytes : Bytes 33} (h : compressed P = some bytes)
    {f : ℕ → UInt8} (hf : ∀ i < 33, bytes.toList[i]? = some (f i)) :
    Id.run (ecdsaReadPubkey W fun i => pure (f i)) = some (ofPoint P) := by
  have hP : P ≠ 0 := by
    rintro rfl
    cases h
  obtain ⟨x, y, hat, rfl⟩ := exists_of_compressed h
  have hhead : f 0 = if y % 2 = 1 then 0x03 else 0x02 := (Option.some.inj (hf 0 (by omega))).symm
  have hvalid := ecdsaValidatePubkey_ofPoint (W := W) hP
  rw [ofPoint_of_atNat hat] at hvalid ⊢
  rw [ecdsaReadPubkey_of_hasPrefix hasPrefix_compressedBytes hf,
    abscissa_compressedBytes (hat.x_lt.trans_le p_le)]
  simp only [hhead, uncompressCoords_eq hat]
  exact if_pos hvalid

/-- **The parser accepts only the bytes of points.** -/
theorem ecdsaReadPubkey_eq_some {bytes : Bytes 33} (hpre : HasPrefix bytes) {f : ℕ → UInt8}
    (hf : ∀ i < 33, bytes.toList[i]? = some (f i)) {cp : CurvePoint} :
    Id.run (ecdsaReadPubkey W fun i => pure (f i)) = some cp ↔
      ∃ P, compressed P = some bytes ∧ cp = ofPoint P := by
  constructor
  · intro h
    have hx : abscissa bytes < room := abscissa_lt.trans (by norm_num [room])
    have hroom : p < room := by norm_num [p, room]
    have hroot : ∃ y < room, uncompressCoords W (f 0) (ofNat (abscissa bytes)) = ofNat y := by
      obtain ⟨r, hr, -, hroot⟩ := uncompressCoords_ofNat (W := W) (f 0) hx
      exact ⟨_, by split <;> omega, hroot⟩
    obtain ⟨y, hy, hroot⟩ := hroot
    have h' := h
    rw [ecdsaReadPubkey_of_hasPrefix hpre hf] at h'
    simp only [hroot] at h'
    split at h'
    · next hvalid =>
      rw [ecdsaValidatePubkey_ofNat hx hy] at hvalid
      obtain ⟨hlt, -, heq⟩ := hvalid
      obtain ⟨P, hP⟩ := exists_compressed_iff.2 ⟨hpre, hlt, _, heq.symm.trans (pow_two _)⟩
      rw [ecdsaReadPubkey_compressed hP hf] at h
      exact ⟨P, hP, (Option.some.inj h).symm⟩
    · cases h'
  · rintro ⟨P, hP, rfl⟩
    exact ecdsaReadPubkey_compressed hP hf

/-! ## The group operations -/

/-- What trezor's group operations are taken to do: they compute in the group,
    on scalars in the range and on reduced coordinates. -/
structure GroupOps.Lawful (ops : GroupOps) : Prop where
  point_multiply : ∀ {k : ℕ} {P : E.Point}, 0 < k → k < n → P ≠ 0 →
    ops.point_multiply (ofNat k) (ofPoint P) = ofPoint (k • P)
  scalar_multiply : ∀ {k : ℕ}, 0 < k → k < n → ops.scalar_multiply (ofNat k) = ofPoint (k • G)
  point_add : ∀ {P Q : E.Point}, P ≠ 0 → Q ≠ 0 →
    ops.point_add (ofPoint P) (ofPoint Q) = ofPoint (P + Q)

/-- `ecdsa_get_public_key33` spells out what `compress_coords` does. -/
theorem ecdsaGetPublicKey33_eq {ops : GroupOps} {scalar : Bytes 32} :
    ecdsaGetPublicKey33 W ops scalar =
      compressCoords W (ops.scalar_multiply (bnReadBe W scalar)) := by
  refine Bytes.ext ?_
  simp only [ecdsaGetPublicKey33, compressCoords, bnIsOdd, Nat.and_one_is_mod, beq_iff_eq]
  rcases Nat.mod_two_eq_zero_or_one ((ops.scalar_multiply (bnReadBe W scalar)).y.limb 0)
    with h | h <;> rw [h] <;> rfl

end CotMta.Trezor
