/-
  The curve arithmetic of `CryptoOps` computes in the group of secp256k1.

  `Rep point P` says that an `AffinePoint` stands for the group element `P`.
  The public operations work on compressed points; on the bytes of `P` and `Q`
  they give the bytes of the group's result, and throw where it is the point at
  infinity (`encoding`).
-/
import CotMta.Compressed
import CotMta.Client.Inverse
import Mathlib.Data.ZMod.Coprime

namespace CotMta.Client.CryptoOps

open Secp256k1 ShortWeierstrass

/-! ## Arithmetic modulo `p` -/

theorem field_pos : 0 < field := by decide

/-- A reduced value, as a natural number. -/
theorem mod_field (e : ℤ) : ∃ k : ℕ, k < p ∧ mod e field = k ∧ (k : Fp) = (e : Fp) := by
  have hnonneg : 0 ≤ e % field := Int.emod_nonneg e field_pos.ne'
  have hlt : e % field < field := Int.emod_lt_of_pos e field_pos
  obtain ⟨k, hk⟩ := Int.eq_ofNat_of_zero_le hnonneg
  refine ⟨k, ?_, ?_, ?_⟩
  · rw [hk, field_eq] at hlt
    exact_mod_cast hlt
  · rw [mod_eq field_pos, hk]
  · have hcast : ((e % field : ℤ) : Fp) = (e : Fp) := by rw [field_eq, ZMod.intCast_mod]
    rw [← hcast, hk, Int.cast_natCast]

theorem mod_field_eq_zero {e : ℤ} : mod e field = 0 ↔ (e : Fp) = 0 := by
  rw [mod_eq field_pos, field_eq, ZMod.intCast_zmod_eq_zero_iff_dvd, Int.dvd_iff_emod_eq_zero]

theorem gcd_field {v : ℤ} : Int.gcd (v % field) field = 1 ↔ (v : Fp) ≠ 0 := by
  rw [Int.gcd_emod, field_eq, Ne, ZMod.eq_zero_iff_gcd_ne_one, not_not]

theorem modInverse_ok {v : ℤ} (hv : (v : Fp) ≠ 0) :
    ∃ w, modInverse v field = .ok w ∧ (w : Fp) * v = 1 := by
  obtain ⟨w, hw, hinv⟩ := modInverse_of_gcd (by decide) (gcd_field.2 hv)
  refine ⟨w, hw, ?_⟩
  have hmod := (ZMod.intCast_eq_intCast_iff _ _ p).2 hinv.modEq
  rw [mul_comm]
  exact_mod_cast hmod

theorem modInverse_zero {v : ℤ} (hv : (v : Fp) = 0) :
    modInverse v field = .error "mod inverse does not exist" :=
  modInverse_of_gcd_ne (by decide) fun hgcd => gcd_field.1 hgcd hv

/-- Square and multiply. -/
theorem modPowLoop_eq : ∀ {result : ℕ} {current : ℤ} {power : ℕ}, result < p →
    ∃ k : ℕ, k < p ∧ modPowLoop field result current power = k ∧
      (k : Fp) = result * (current : Fp) ^ power := by
  intro result current power hres
  induction power using Nat.strong_induction_on generalizing result current with
  | _ power ih =>
    rw [modPowLoop]
    rcases Nat.eq_zero_or_pos power with rfl | hpos
    · exact ⟨result, hres, if_neg (lt_irrefl 0), by rw [pow_zero, mul_one]⟩
    · rw [if_pos hpos, Nat.shiftRight_one]
      obtain ⟨square, -, hsq, hsqcast⟩ := mod_field (current * current)
      have hcur : ((mod (current * current) field : ℤ) : Fp) = (current : Fp) ^ 2 := by
        rw [hsq, Int.cast_natCast, hsqcast]
        push_cast
        ring
      have hhalf : power / 2 < power := Nat.div_lt_self hpos one_lt_two
      by_cases hodd : power &&& 1 ≠ 0
      · obtain ⟨r, hr, hmod, hcast⟩ := mod_field (result * current)
        obtain ⟨k, hk, heq, hval⟩ := @ih _ hhalf r (mod (current * current) field) hr
        refine ⟨k, hk, ?_, ?_⟩
        · simp only [if_pos hodd, hmod]
          exact heq
        · rw [Nat.and_one_is_mod] at hodd
          rw [hval, hcur, hcast, ← pow_mul]
          conv_rhs => rw [show power = 2 * (power / 2) + 1 by omega, pow_succ']
          push_cast
          ring
      · obtain ⟨k, hk, heq, hval⟩ := @ih _ hhalf result (mod (current * current) field) hres
        refine ⟨k, hk, ?_, ?_⟩
        · simp only [if_neg hodd]
          exact heq
        · rw [Nat.and_one_is_mod] at hodd
          rw [hval, hcur, ← pow_mul]
          conv_rhs => rw [show power = 2 * (power / 2) by omega]

theorem modPow_eq {base : ℤ} {exponent : ℕ} :
    ∃ k : ℕ, k < p ∧ modPow base exponent field = k ∧ (k : Fp) = (base : Fp) ^ exponent := by
  obtain ⟨b, -, hb, hcast⟩ := mod_field base
  obtain ⟨k, hk, heq, hval⟩ := @modPowLoop_eq 1 b exponent prime_p.one_lt
  refine ⟨k, hk, ?_, ?_⟩
  · rw [modPow, hb]
    exact heq
  · rw [hval, Nat.cast_one, one_mul, Int.cast_natCast, hcast]

/-! ## The group -/

/-- The point stands for the group element. -/
inductive Rep : AffinePoint → E.Point → Prop
  | infinity {x y : ℤ} : Rep ⟨true, x, y⟩ 0
  | affine {P : E.Point} {x y : ℕ} : AtNat P x y → Rep ⟨false, x, y⟩ P

variable {lhs rhs point : AffinePoint} {P Q : E.Point}

theorem rep_pointAtInfinity : Rep pointAtInfinity 0 := .infinity

theorem rep_generator : Rep generator G := .affine atNat_G

theorem negatePoint_affine {x : ℤ} {y : ℕ} (hy : y < p) (hy0 : y ≠ 0) :
    negatePoint ⟨false, x, y⟩ = ⟨false, x, ((p - y : ℕ) : ℤ)⟩ := by
  obtain ⟨k, hk, hmod, hcast⟩ := mod_field (-(y : ℤ))
  have hk' : k = p - y := by
    refine natCast_inj hk (by omega) ?_
    rw [hcast, neg_cast hy]
    push_cast
    rfl
  simp only [negatePoint, Bool.false_eq_true, if_false, hmod, hk']

theorem negatePoint_rep (h : Rep point P) : Rep (negatePoint point) (-P) := by
  cases h with
  | infinity =>
    rw [neg_zero]
    exact .infinity
  | @affine P x y h =>
    rw [negatePoint_affine h.y_lt h.ordinate_ne_zero]
    exact .affine h.neg

/-- The third point on a line of slope `l`, reflected, as `addPoints` computes
    it. -/
theorem third_point_rep {R : E.Point} {l : ℤ} {x x' y : ℕ}
    (h : IsAt R ((l : Fp) ^ 2 - x - x') ((l : Fp) * (x - ((l : Fp) ^ 2 - x - x')) - y)) :
    Rep ⟨false, mod (l * l - x - x') field,
      mod (l * (x - mod (l * l - x - x') field) - y) field⟩ R := by
  obtain ⟨x3, hx3, hmodx, hcastx⟩ := mod_field (l * l - x - x')
  obtain ⟨y3, hy3, hmody, hcasty⟩ := mod_field (l * (x - x3) - y)
  rw [hmodx, hmody]
  refine .affine ⟨hx3, hy3, ?_⟩
  have hx : (x3 : Fp) = (l : Fp) ^ 2 - x - x' := by
    rw [hcastx]
    push_cast
    ring
  have hy : (y3 : Fp) = (l : Fp) * (x - ((l : Fp) ^ 2 - x - x')) - y := by
    rw [hcasty]
    push_cast
    rw [hx]
  rw [hy, hx]
  exact h

/-! The cases of `addPoints` on two affine points; the abscissas need not be reduced. -/

section
variable {x y x' y' : ℕ}

theorem opposite_iff :
    mod ((y : ℤ) + y') field = 0 ↔ (y : Fp) + y' = 0 := by
  rw [mod_field_eq_zero]
  push_cast
  rfl

theorem addPoints_opposite (h : (y : Fp) + y' = 0) :
    addPoints ⟨false, x, y⟩ ⟨false, x, y'⟩ = .ok pointAtInfinity := by
  simp only [addPoints, Bool.false_eq_true, if_false, opposite_iff, true_and]
  exact if_pos h

theorem addPoints_tangent (h : IsAt P (x : Fp) (y : Fp)) :
    ∃ sum, addPoints ⟨false, x, y⟩ ⟨false, x, y⟩ = .ok sum ∧ Rep sum (P + P) := by
  have hy0 := y_ne_zero_of_isAt h
  have h2y : (2 : Fp) * y ≠ 0 := mul_ne_zero two_ne_zero hy0
  have hopp : ¬(y : Fp) + y = 0 := by rwa [← two_mul]
  have hzero : ¬(y : ℤ) = 0 := by
    intro h0
    exact hy0 (by rw [show y = 0 by exact_mod_cast h0, Nat.cast_zero])
  obtain ⟨w, hw, hinv⟩ := modInverse_ok (v := 2 * y) (by push_cast; exact h2y)
  obtain ⟨l, -, hmod, hl⟩ := mod_field (3 * x * x * w)
  have hslope : (l : Fp) * (2 * y) = 3 * (x : Fp) ^ 2 := by
    rw [hl]
    push_cast at hinv ⊢
    linear_combination 3 * (x : Fp) ^ 2 * hinv
  simp only [addPoints, Bool.false_eq_true, if_false, opposite_iff, true_and, if_true]
  rw [if_neg hopp, if_neg hzero, hw]
  simp only [bind, Except.bind, pure, Except.pure, hmod]
  exact ⟨_, rfl, third_point_rep (by exact_mod_cast h.add_self h2y hslope)⟩

/-- Abscissas that are congruent but not equal end in a division by zero. -/
theorem addPoints_congruent (y y' : ℕ) (hx : (x : Fp) = x') (hne : x ≠ x') :
    addPoints ⟨false, x, y⟩ ⟨false, x', y'⟩ = .error "mod inverse does not exist" := by
  have hne' : (x : ℤ) ≠ x' := by exact_mod_cast hne
  have hinv : modInverse ((x' : ℤ) - x) field = .error "mod inverse does not exist" := by
    refine modInverse_zero ?_
    push_cast
    rw [hx, sub_self]
  simp only [addPoints, Bool.false_eq_true, if_false]
  rw [if_neg fun h => hne' h.1, if_neg fun h => hne' h.1, if_neg fun h => hne' h.1, hinv]
  rfl

theorem addPoints_chord (h : IsAt P (x : Fp) (y : Fp)) (h' : IsAt Q (x' : Fp) (y' : Fp))
    (hx : (x : Fp) ≠ x') :
    ∃ sum, addPoints ⟨false, x, y⟩ ⟨false, x', y'⟩ = .ok sum ∧ Rep sum (P + Q) := by
  have hne : (x : ℤ) ≠ x' := by
    intro heq
    exact hx (congrArg _ (by exact_mod_cast heq))
  obtain ⟨w, hw, hinv⟩ := modInverse_ok (v := x' - x) (by
    push_cast
    exact sub_ne_zero.2 hx.symm)
  obtain ⟨l, -, hmod, hl⟩ := mod_field ((y' - y) * w)
  have hslope : (l : Fp) * ((x' : Fp) - x) = y' - y := by
    rw [hl]
    push_cast at hinv ⊢
    linear_combination ((y' : Fp) - y) * hinv
  simp only [addPoints, Bool.false_eq_true, if_false]
  rw [if_neg fun h => hne h.1, if_neg fun h => hne h.1, if_neg fun h => hne h.1, hw]
  simp only [bind, Except.bind, pure, Except.pure, hmod]
  exact ⟨_, rfl, third_point_rep (by exact_mod_cast h.add_of_ne h' hx hslope)⟩

end

/-- **`addPoints` is the addition of the group.** -/
theorem addPoints_rep (hP : Rep lhs P) (hQ : Rep rhs Q) :
    ∃ sum, addPoints lhs rhs = .ok sum ∧ Rep sum (P + Q) := by
  cases hP with
  | infinity => exact ⟨rhs, rfl, by rwa [zero_add]⟩
  | @affine P x y hP =>
    cases hQ with
    | infinity => exact ⟨_, rfl, by rw [add_zero]; exact .affine hP⟩
    | @affine Q x' y' hQ =>
      by_cases hx : (x : Fp) = x'
      · obtain rfl := natCast_inj hP.x_lt hQ.x_lt hx
        rcases hP.isAt.eq_or_eq_neg hQ.isAt with rfl | rfl
        · obtain ⟨-, rfl⟩ := hP.unique hQ
          exact addPoints_tangent hP.isAt
        · refine ⟨_, addPoints_opposite ?_, ?_⟩
          · rw [(hP.unique hQ.neg).2, neg_cast hQ.y_lt, neg_add_cancel]
          · rw [neg_add_cancel]
            exact .infinity
      · exact addPoints_chord hP.isAt hQ.isAt hx

theorem scalarMultiplyLoop_pos {k : ℕ} (hk : 0 < k) :
    scalarMultiplyLoop lhs rhs k =
      (if k % 2 ≠ 0 then addPoints lhs rhs else pure lhs) >>= fun result =>
        (if k / 2 > 0 then addPoints rhs rhs else pure rhs) >>= fun addend =>
          scalarMultiplyLoop result addend (k / 2) := by
  rw [scalarMultiplyLoop, if_pos hk, Nat.shiftRight_one, Nat.and_one_is_mod]
  split <;> split <;> rfl

/-- Double and add: the loop adds `k` times the addend. -/
theorem scalarMultiplyLoop_rep {k : ℕ} (hP : Rep lhs P) (hQ : Rep rhs Q) :
    ∃ product, scalarMultiplyLoop lhs rhs k = .ok product ∧ Rep product (P + k • Q) := by
  induction k using Nat.strong_induction_on generalizing lhs rhs P Q with
  | _ k ih =>
    rcases Nat.eq_zero_or_pos k with rfl | hpos
    · rw [scalarMultiplyLoop]
      exact ⟨lhs, if_neg (lt_irrefl 0), by rwa [zero_nsmul, add_zero]⟩
    · rw [scalarMultiplyLoop_pos hpos]
      have hhalf : k / 2 < k := Nat.div_lt_self hpos one_lt_two
      have hresult : ∃ r, (if k % 2 ≠ 0 then addPoints lhs rhs else pure lhs) = .ok r ∧
          Rep r (P + (k % 2) • Q) := by
        rcases Nat.mod_two_eq_zero_or_one k with hodd | hodd <;> rw [hodd]
        · exact ⟨lhs, rfl, by rwa [zero_nsmul, add_zero]⟩
        · rw [one_nsmul]
          exact addPoints_rep hP hQ
      obtain ⟨r, hr, hrep⟩ := hresult
      rw [hr]
      -- the last doubling is skipped
      by_cases hlast : k / 2 > 0
      · rw [if_pos hlast]
        obtain ⟨double, hdouble, hdrep⟩ := addPoints_rep hQ hQ
        obtain ⟨product, hprod, hprep⟩ := ih _ hhalf hrep hdrep
        refine ⟨product, ?_, ?_⟩
        · simp only [hdouble, bind, Except.bind]
          exact hprod
        · have hk : P + k • Q = P + (k % 2) • Q + (k / 2) • (Q + Q) := by
            rw [← two_nsmul, smul_smul, add_assoc, ← add_nsmul]
            congr 2
            omega
          rwa [hk]
      · rw [if_neg hlast]
        obtain ⟨product, hprod, hprep⟩ := ih _ hhalf hrep hQ
        refine ⟨product, ?_, ?_⟩
        · simp only [bind, Except.bind, pure, Except.pure]
          exact hprod
        · obtain rfl : k = 1 := by omega
          simpa using hprep

theorem scalarMultiply_rep {k : ℕ} (h0 : 0 < k) (hk : k < n) (hP : Rep point P) :
    ∃ product, scalarMultiply k point = .ok product ∧ Rep product (k • P) := by
  have hrange : ¬((k : ℤ) ≤ 0 ∨ (k : ℤ) ≥ order) := by
    rw [order_eq]
    omega
  rw [scalarMultiply, if_neg hrange, Int.toNat_natCast]
  obtain ⟨product, hprod, hrep⟩ := scalarMultiplyLoop_rep (k := k) rep_pointAtInfinity hP
  rw [zero_add] at hrep
  exact ⟨product, hprod, hrep⟩

/-! ## Compressed points -/

/-- What a public operation gives for the group element `P`. -/
def encoding (P : E.Point) : Throws Uint8Array :=
  match compressed P with
  | none => .error "cannot encode point at infinity"
  | some bytes => .ok bytes.toList

theorem encoding_some {bytes : Bytes 33} (h : compressed P = some bytes) :
    encoding P = .ok bytes.toList := by
  rw [encoding, h]

theorem encodeCompressedPoint_rep (h : Rep point P) :
    encodeCompressedPoint point = encoding P := by
  cases h with
  | infinity => rfl
  | @affine P x y h =>
    have hpar : ((y : ℤ) % 2 = 1) = (y % 2 = 1) := by
      rw [eq_iff_iff]
      omega
    rw [encoding_some h.compressed]
    simp only [encodeCompressedPoint, Bool.false_eq_true, if_false, bigIntToBytes_natCast,
      compressedBytes, hpar]

theorem head?_toList {bytes : Bytes 33} :
    bytes.toList.head? = some (bytes.toList.getD 0 0) := by
  rw [List.head?_eq_getElem?, List.getD_eq_getElem?_getD, List.getElem?_eq_getElem (by simp)]
  rfl

/-- With a prefix the candidate's square decides, and of the candidate and its
    opposite the prefix picks one. -/
theorem decodeCompressedPoint_eq {bytes : Bytes 33} (hpre : HasPrefix bytes) :
    ∃ r < p, (r : Fp) = ((abscissa bytes : Fp) ^ 3 + 7) ^ ((p + 1) / 4) ∧
      decodeCompressedPoint bytes.toList =
        if (r : Fp) ^ 2 = (abscissa bytes : Fp) ^ 3 + 7 then
          .ok ⟨false, abscissa bytes,
            (if r % 2 = 1 ↔ bytes.toList.head? = some 0x03 then r else p - r : ℕ)⟩
        else .error "invalid compressed point" := by
  have hx : bytesToBigInt (bytes.toList.drop 1) = (abscissa bytes : ℤ) := bytesToBigInt_eq
  generalize abscissa bytes = x at hx ⊢
  obtain ⟨rhs, hrhs, hmod, hrhscast⟩ := mod_field ((x : ℤ) * x * x + 7)
  have hcube : (rhs : Fp) = (x : Fp) ^ 3 + 7 := by
    rw [hrhscast]
    push_cast
    ring
  obtain ⟨r, hr, hpow, hrcast⟩ := @modPow_eq rhs ((p + 1) / 4)
  have hexp : ((field + 1).tdiv 4).toNat = (p + 1) / 4 := by decide
  have hcheck : mod ((r : ℤ) * r) field = rhs ↔ (r : Fp) ^ 2 = (x : Fp) ^ 3 + 7 := by
    obtain ⟨k, hk, hkmod, hkcast⟩ := mod_field ((r : ℤ) * r)
    have hkcast' : (k : Fp) = (r : Fp) ^ 2 := by
      rw [hkcast]
      push_cast
      ring
    rw [hkmod, Nat.cast_inj, ← hcube, ← hkcast']
    exact ⟨fun h => by rw [h], natCast_inj hk hrhs⟩
  have hchoice : (if decide ((r : ℤ) % 2 = 1) = decide (bytes.toList.getD 0 0 = 0x03)
      then (r : ℤ) else field - r) =
        (if r % 2 = 1 ↔ bytes.toList.head? = some 0x03 then r else p - r : ℕ) := by
    have hfield : field - r = ((p - r : ℕ) : ℤ) := by
      rw [field_eq, Nat.cast_sub hr.le]
    have hodd : (r : ℤ) % 2 = 1 ↔ r % 2 = 1 := by omega
    rw [hfield, ← Nat.cast_ite, head?_toList]
    simp only [decide_eq_decide, hodd, Option.some.injEq]
  have hpre' : ¬(bytes.toList.getD 0 0 ≠ 0x02 ∧ bytes.toList.getD 0 0 ≠ 0x03) := by
    rw [HasPrefix, head?_toList] at hpre
    simp only [Option.some.injEq] at hpre
    rintro ⟨h2, h3⟩
    exact hpre.elim h2 h3
  refine ⟨r, hr, by rw [hrcast, Int.cast_natCast, hcube], ?_⟩
  simp only [decodeCompressedPoint, Bytes.length_toList, ne_eq, not_true_eq_false, if_false,
    if_neg hpre', hx, hmod, hexp, hpow, hcheck, hchoice, ite_not]

/-- The string of a decoded point has the prefix `0x02` or `0x03`. -/
theorem hasPrefix_of_decode {bytes : Bytes 33} {point : AffinePoint}
    (h : decodeCompressedPoint bytes.toList = .ok point) : HasPrefix bytes := by
  by_contra hpre
  rw [HasPrefix, head?_toList] at hpre
  simp only [Option.some.injEq, not_or] at hpre
  simp only [decodeCompressedPoint, Bytes.length_toList, ne_eq, not_true_eq_false, if_false] at h
  rw [if_pos hpre] at h
  cases h

theorem decodeCompressedPoint_of_ordinate {bytes : Bytes 33} {y : ℕ} (hy : y < p)
    (hsq : (y : Fp) ^ 2 = (abscissa bytes : Fp) ^ 3 + 7)
    (hbytes : compressedBytes (abscissa bytes) y = bytes) :
    decodeCompressedPoint bytes.toList = .ok ⟨false, abscissa bytes, y⟩ := by
  have hpre : HasPrefix bytes := hbytes ▸ hasPrefix_compressedBytes
  obtain ⟨r, hr, hrcast, heq⟩ := decodeCompressedPoint_eq hpre
  have hrsq : (r : Fp) ^ 2 = (y : Fp) ^ 2 := by rw [hrcast, ← hsq, pow_root_sq]
  have hpar : (r % 2 = 1 ↔ bytes.toList.head? = some 0x03) ↔ r % 2 = y % 2 := by
    have hhead : bytes.toList.head? = some (if y % 2 = 1 then 0x03 else 0x02) := by
      rw [← hbytes]
      rfl
    rw [hhead]
    rcases Nat.mod_two_eq_zero_or_one y with h | h <;>
      rcases Nat.mod_two_eq_zero_or_one r with h' | h' <;> simp [h, h']
  rw [heq, if_pos (hrsq.trans hsq)]
  simp only [hpar, root_by_parity hr hy (ne_zero_of_sq_eq hsq) hrsq]

/-- **Which strings are decoded, and to what:** the announced abscissa, and the
    ordinate with the parity of the prefix. -/
theorem decodeCompressedPoint_eq_ok {bytes : Bytes 33} {point : AffinePoint} :
    decodeCompressedPoint bytes.toList = .ok point ↔
      ∃ y < p, (y : Fp) ^ 2 = (abscissa bytes : Fp) ^ 3 + 7 ∧
        compressedBytes (abscissa bytes) y = bytes ∧ point = ⟨false, abscissa bytes, y⟩ := by
  constructor
  · intro h
    have hpre := hasPrefix_of_decode h
    obtain ⟨r, -, -, heq⟩ := decodeCompressedPoint_eq hpre
    have hsquare : IsSquare ((abscissa bytes : Fp) ^ 3 + 7) := by
      by_contra hnot
      rw [heq, if_neg fun hsq => hnot ⟨r, by rw [← hsq, pow_two]⟩] at h
      cases h
    obtain ⟨y, hy, hsq, hbytes⟩ := exists_ordinate hpre hsquare
    cases (decodeCompressedPoint_of_ordinate hy hsq hbytes).symm.trans h
    exact ⟨y, hy, hsq, hbytes, rfl⟩
  · rintro ⟨y, hy, hsq, hbytes, rfl⟩
    exact decodeCompressedPoint_of_ordinate hy hsq hbytes

/-- **Decoding undoes the encoding.** -/
theorem decodeCompressedPoint_rep {bytes : Bytes 33} (h : compressed P = some bytes) :
    ∃ point, decodeCompressedPoint bytes.toList = .ok point ∧ Rep point P ∧
      bigIntToBytes point.x 32 = bytes.toList.drop 1 := by
  obtain ⟨x, y, hat, rfl⟩ := exists_of_compressed h
  have habs : abscissa (compressedBytes x y) = x :=
    abscissa_compressedBytes (hat.x_lt.trans (by norm_num [p]))
  refine ⟨⟨false, x, y⟩, decodeCompressedPoint_eq_ok.2 ?_, .affine hat, ?_⟩
  · exact ⟨y, hat.y_lt, by rw [habs, hat.isAt.equation], by rw [habs], by rw [habs]⟩
  · rw [bigIntToBytes_natCast]
    rfl

/-! ## Public operations -/

section
variable {scalar : Bytes 32} {a b : Bytes 33}

/-- The scalars that `generateRandomScalar` may return. -/
theorem isRandomScalar_iff {scalar : Bytes 32} :
    isRandomScalar scalar.toList = true ↔ ValidScalar scalar := by
  have hbig : bytesToBigInt scalar.toList = scalar.nat := bytesToBigInt_eq
  rw [isRandomScalar, Bytes.length_toList, hbig, order_eq, ValidScalar, Nat.pos_iff_ne_zero]
  simp only [Bool.and_eq_true, beq_self_eq_true, bne_iff_ne, decide_eq_true_eq, true_and, ne_eq,
    Nat.cast_eq_zero, Nat.cast_lt]

theorem scalarMultiplyG_eq (h : ValidScalar scalar) :
    scalarMultiplyG scalar.toList = encoding (scalar.nat • G) := by
  obtain ⟨product, hprod, hrep⟩ := scalarMultiply_rep h.1 h.2 rep_generator
  rw [scalarMultiplyG, bytesToBigInt_eq, ← Bytes.nat, hprod]
  exact encodeCompressedPoint_rep hrep

theorem scalarMultiplyPoint_eq (h : ValidScalar scalar) (hP : compressed P = some a) :
    scalarMultiplyPoint scalar.toList a.toList = encoding (scalar.nat • P) := by
  obtain ⟨point, hdec, hrepP, -⟩ := decodeCompressedPoint_rep hP
  obtain ⟨product, hprod, hrep⟩ := scalarMultiply_rep h.1 h.2 hrepP
  rw [scalarMultiplyPoint, hdec, bytesToBigInt_eq, ← Bytes.nat]
  simp only [bind, Except.bind, hprod]
  exact encodeCompressedPoint_rep hrep

theorem pointAdd_eq (hP : compressed P = some a) (hQ : compressed Q = some b) :
    pointAdd a.toList b.toList = encoding (P + Q) := by
  obtain ⟨left, hleft, hrepP, -⟩ := decodeCompressedPoint_rep hP
  obtain ⟨right, hright, hrepQ, -⟩ := decodeCompressedPoint_rep hQ
  obtain ⟨sum, hsum, hrep⟩ := addPoints_rep hrepP hrepQ
  rw [pointAdd, hleft, hright]
  simp only [bind, Except.bind, hsum]
  exact encodeCompressedPoint_rep hrep

theorem pointSubtract_eq (hP : compressed P = some a) (hQ : compressed Q = some b) :
    pointSubtract a.toList b.toList = encoding (P - Q) := by
  obtain ⟨left, hleft, hrepP, -⟩ := decodeCompressedPoint_rep hP
  obtain ⟨right, hright, hrepQ, -⟩ := decodeCompressedPoint_rep hQ
  obtain ⟨sum, hsum, hrep⟩ := addPoints_rep hrepP (negatePoint_rep hrepQ)
  rw [pointSubtract, hleft, hright]
  simp only [bind, Except.bind, hsum]
  rw [sub_eq_add_neg]
  exact encodeCompressedPoint_rep hrep

theorem getXCoordinate_eq (hP : compressed P = some a) :
    getXCoordinate a.toList = .ok (a.toList.drop 1) := by
  obtain ⟨point, hdec, -, hx⟩ := decodeCompressedPoint_rep hP
  rw [getXCoordinate, hdec, ← hx]
  rfl

end

end CotMta.Client.CryptoOps
