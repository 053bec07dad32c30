/-
  `point_subtract` next to `point_add` of the negated point.

  The first hands the ordinate `3 p - y'` to `point_add`.  On one abscissa this is
  never the ordinate of the other point, so the double of a point comes out as
  infinity.  On two abscissas the borrows of `bn_subtractmod` add `2 ^ 270`: the
  first to the slope, the second to the ordinate.  `Unharmed` says when the bytes
  are right all the same.
-/
import CotMta.Server.Curve
import CotMta.Trezor.PointAdd

namespace CotMta.Server

open Trezor Bignum256 Secp256k1 CurvePoint ShortWeierstrass PartialReduction Ecdsa

variable {P Q D : E.Point} {x y x' y' x₃ y₃ X e R : ℕ}

/-! ## What the borrows do -/

/-- `2 ^ 270` modulo `p`. -/
def lost : ℕ := 2 ^ 14 * (2 ^ 32 + 977)

theorem lost_cast : (((2 ^ 30) ^ 9 : ℕ) : Fp) = lost :=
  (ZMod.natCast_eq_natCast_iff' _ _ _).2 (by norm_num [p, lost])

theorem lost_lt : lost < p := by norm_num [p, lost]

/-- The slope of the chord, as `point_subtract` gets it. -/
def chordSlope (x y x' y' : ℕ) : ℕ := lambdaVal x' (3 * p - y') x y

/-- Half of all pairs borrow here. -/
theorem chordSlope_cast (hy : y < p) (hy' : y' < p) :
    (chordSlope x y x' y' : Fp) =
      ((x : Fp) - x')⁻¹ * (y + y' + if y + y' < p then (lost : Fp) else 0) := by
  have hdiff : (difference y (3 * p - y') : Fp) =
      y + y' + if y + y' < p then (lost : Fp) else 0 := by
    split
    · next hlt =>
      have hsum : (2 ^ 30) ^ 9 + y + 2 * p - (3 * p - y') = (2 ^ 30) ^ 9 - p + (y + y') := by
        simp only [p] at *
        omega
      rw [difference_of_lt (by omega), hsum, Nat.cast_add,
        Nat.cast_sub (by norm_num [p]), lost_cast, ZMod.natCast_self]
      push_cast
      ring
    · next hge =>
      rw [difference_cast (by omega) (by omega), Nat.cast_sub (by omega), Nat.cast_mul,
        ZMod.natCast_self]
      ring
  rw [chordSlope, lambdaVal, product_cast, Nat.cast_mul, ZMod.natCast_zmod_val, hdiff]

/-- The last subtraction borrows. -/
def Borrows (y' e R : ℕ) : Prop := y' ≤ e ∧ ¬FallsShort p (2 ^ 256 - p) (2 ^ 30) R

instance : Decidable (Borrows y' e R) := inferInstanceAs (Decidable (_ ∧ _))

/-- The last subtraction, which should give `e`. -/
theorem ordinate_eq (hy' : y' < p) (he : e < p) (hR : (R : Fp) = e - y') :
    difference (product R) (3 * p - y') % p = if Borrows y' e R then (e + lost) % p else e := by
  have hmod : R % p = if y' ≤ e then e - y' else e + p - y' := by
    have hcast : (R : Fp) = ((if y' ≤ e then e - y' else e + p - y' : ℕ) : Fp) := by
      split
      · next hle => rw [hR, Nat.cast_sub hle]
      · next hlt => rw [hR, Nat.cast_sub (by omega), Nat.cast_add, ZMod.natCast_self, add_zero]
    rw [(ZMod.natCast_eq_natCast_iff' _ _ _).1 hcast]
    refine Nat.mod_eq_of_lt ?_
    split <;> omega
  rw [product, hmod]
  by_cases hle : y' ≤ e <;> by_cases hshort : FallsShort p (2 ^ 256 - p) (2 ^ 30) R
  · rw [if_pos hle, if_pos hshort, if_neg fun h => h.2 hshort,
      difference_of_le (by omega) (by omega), show e - y' + p + 2 * p - (3 * p - y') = e by omega,
      Nat.mod_eq_of_lt he]
  · have hsum : (2 ^ 30) ^ 9 + (e - y' + 0) + 2 * p - (3 * p - y') = (2 ^ 30) ^ 9 - p + e := by
      simp only [p] at *
      omega
    rw [if_pos hle, if_neg hshort, if_pos ⟨hle, hshort⟩, difference_of_lt (by omega), hsum,
      ← ZMod.natCast_eq_natCast_iff', Nat.cast_add, Nat.cast_add,
      Nat.cast_sub (by norm_num [p]), lost_cast, ZMod.natCast_self]
    ring
  · rw [if_neg hle, if_pos hshort, if_neg fun h => hle h.1,
      difference_of_le (by omega) (by omega),
      show e + p - y' + p + 2 * p - (3 * p - y') = e + p by omega, Nat.add_mod_right,
      Nat.mod_eq_of_lt he]
  · rw [if_neg hle, if_neg hshort, if_neg fun h => hle h.1,
      difference_of_le (by omega) (by omega),
      show e + p - y' + 0 + 2 * p - (3 * p - y') = e by omega, Nat.mod_eq_of_lt he]

/-- The borrow takes the ordinate past `p`. -/
def Wraps (y' e R : ℕ) : Prop := Borrows y' e R ∧ p ≤ e + lost

instance : Decidable (Wraps y' e R) := inferInstanceAs (Decidable (_ ∧ _))

/-- What is lost is even: only a wrap changes the prefix. -/
theorem parity_iff (y' R : ℕ) (he : e < p) :
    (if Borrows y' e R then (e + lost) % p else e) % 2 = e % 2 ↔ ¬Wraps y' e R := by
  have hlost := lost_lt
  have hodd := p_odd
  have heven : lost % 2 = 0 := by norm_num [lost]
  by_cases hborrow : Borrows y' e R
  · rw [if_pos hborrow, Wraps, and_iff_right hborrow, not_le]
    rcases Nat.lt_or_ge (e + lost) p with hlt | hge
    · rw [Nat.mod_eq_of_lt hlt]
      omega
    · have hmod : (e + lost) % p = e + lost - p := by
        rw [Nat.mod_eq_sub_mod hge, Nat.mod_eq_of_lt (by omega)]
      rw [hmod]
      omega
  · rw [if_neg hborrow, Wraps]
    exact ⟨fun _ h => hborrow h.1, fun _ => rfl⟩

/-! ## The third point of the chord -/

/-- The coordinates of `P - Q`, by the slope of the chord. -/
theorem coords_of_sub (h : AtNat P x y) (h' : AtNat Q x' y') (h₃ : AtNat (P - Q) x₃ y₃)
    (hne : x ≠ x') :
    (x₃ : Fp) = (((x : Fp) - x')⁻¹ * (y + y')) ^ 2 - x' - x ∧
      (y₃ : Fp) = ((x : Fp) - x')⁻¹ * (y + y') * (x' - x₃) + y' := by
  have hx : (x' : Fp) ≠ x := fun heq => hne (natCast_inj h'.x_lt h.x_lt heq).symm
  have hd0 : (x : Fp) - x' ≠ 0 := sub_ne_zero.2 hx.symm
  have hslope : ((x : Fp) - x')⁻¹ * (y + y') * (x - x') = y - -y' := by
    rw [mul_right_comm, inv_mul_cancel₀ hd0, one_mul, sub_neg_eq_add]
  have hsum := h'.isAt.neg.add_of_ne h.isAt hx hslope
  rw [neg_add_eq_sub] at hsum
  obtain ⟨hx₃, hy₃⟩ := h₃.isAt.unique hsum
  exact ⟨hx₃, by rw [hy₃, ← hx₃, sub_neg_eq_add]⟩

/-- Adding what is lost leaves a square only if it gives the opposite. -/
theorem sq_add_lost_iff (hlt : y + y' < p) :
    ((y : Fp) + y' + lost) ^ 2 = (y + y') ^ 2 ↔ y + y' + lost / 2 = p := by
  have hlost := lost_lt
  have hpos : 0 < lost / 2 := by norm_num [lost]
  have heven : lost % 2 = 0 := by norm_num [lost]
  have hlost0 : (lost : Fp) ≠ 0 := by
    rw [Ne, ZMod.natCast_eq_zero_iff]
    exact Nat.not_dvd_of_pos_of_lt (by norm_num [lost]) lost_lt
  have hfactor : ((y : Fp) + y' + lost) ^ 2 - (y + y') ^ 2 =
      lost * ((2 * (y + y' + lost / 2) : ℕ) : Fp) := by
    have hhalf : 2 * (y + y' + lost / 2) = 2 * (y + y') + lost := by omega
    rw [hhalf]
    push_cast
    ring
  rw [← sub_eq_zero, hfactor, mul_eq_zero, or_iff_right hlost0, Nat.cast_mul, Nat.cast_two,
    mul_eq_zero, or_iff_right Secp256k1.two_ne_zero, ZMod.natCast_eq_zero_iff]
  constructor
  · rintro ⟨k, hk⟩
    obtain rfl : k = 1 := by
      rcases Nat.lt_or_ge k 2 with hk2 | hk2
      · interval_cases k <;> omega
      · have := Nat.mul_le_mul_left p hk2
        omega
    rw [hk, mul_one]
  · intro heq
    rw [heq]

/-- A wrong slope gives the right abscissa only if it is the opposite one. -/
theorem abscissa_iff (h : AtNat P x y) (h' : AtNat Q x' y') (h₃ : AtNat (P - Q) x₃ y₃)
    (hne : x ≠ x') (hX : X < p) (hXcast : (X : Fp) = (chordSlope x y x' y' : Fp) ^ 2 - x' - x) :
    X = x₃ ↔ p ≤ y + y' ∨ y + y' + lost / 2 = p := by
  have hx : (x : Fp) ≠ x' := fun heq => hne (natCast_inj h.x_lt h'.x_lt heq)
  have hs0 : ((x : Fp) - x')⁻¹ ≠ 0 := inv_ne_zero (sub_ne_zero.2 hx)
  have hiff : X = x₃ ↔ (X : Fp) = x₃ := ⟨congrArg _, natCast_inj hX h₃.x_lt⟩
  rw [hiff, hXcast, (coords_of_sub h h' h₃ hne).1, sub_left_inj, sub_left_inj,
    chordSlope_cast h.y_lt h'.y_lt, mul_pow, mul_pow, mul_right_inj' (pow_ne_zero 2 hs0)]
  split
  · next hlt => rw [sq_add_lost_iff hlt, or_iff_right (not_le.2 hlt)]
  · next hge =>
    rw [add_zero]
    exact iff_of_true rfl (Or.inl (not_lt.1 hge))

/-- The product that the last ordinate is computed from. -/
def lineProduct (x y x' y' x₃ : ℕ) : ℕ := chordSlope x y x' y' * (x' + 2 * p - x₃)

theorem lineProduct_cast (hx₃ : x₃ < p) :
    (lineProduct x y x' y' x₃ : Fp) = chordSlope x y x' y' * ((x' : Fp) - x₃) := by
  rw [lineProduct, Nat.cast_mul, Nat.cast_sub (by omega), Nat.cast_add, Nat.cast_mul,
    ZMod.natCast_self, mul_zero, add_zero]

/-- The ordinate that the code ends with at the abscissa of `P - Q`. -/
def codeOrdinate (x y x' y' x₃ : ℕ) : ℕ :=
  difference (product (lineProduct x y x' y' x₃)) (3 * p - y') % p

/-- The slope is right, and so is the ordinate up to the last borrow. -/
theorem parity_of_right_slope (h : AtNat P x y) (h' : AtNat Q x' y') (h₃ : AtNat (P - Q) x₃ y₃)
    (hne : x ≠ x') (hle : p ≤ y + y') :
    codeOrdinate x y x' y' x₃ % 2 = y₃ % 2 ↔ ¬Wraps y' y₃ (lineProduct x y x' y' x₃) := by
  have hprod : (lineProduct x y x' y' x₃ : Fp) = y₃ - y' := by
    rw [lineProduct_cast h₃.x_lt, chordSlope_cast h.y_lt h'.y_lt, if_neg (by omega), add_zero,
      (coords_of_sub h h' h₃ hne).2, add_sub_cancel_right]
  rw [codeOrdinate, ordinate_eq h'.y_lt h₃.y_lt hprod]
  exact parity_iff y' _ h₃.y_lt

/-- The parity of `y₃` reflected in `y'`, modulo the odd `p`. -/
theorem reflected_parity (hy : y' < p) (hy₃ : y₃ < p) :
    (2 * y' + p - y₃) % p % 2 = y₃ % 2 ↔ y₃ ≤ 2 * y' ∧ 2 * y' < y₃ + p := by
  have hodd := p_odd
  rcases Nat.lt_or_ge (2 * y' + p - y₃) p with hlt | hge
  · rw [Nat.mod_eq_of_lt hlt]
    omega
  · rcases Nat.lt_or_ge (2 * y' + p - y₃ - p) p with hlt' | hge'
    · have hmod : (2 * y' + p - y₃) % p = 2 * y' + p - y₃ - p := by
        rw [Nat.mod_eq_sub_mod hge, Nat.mod_eq_of_lt hlt']
      rw [hmod]
      omega
    · have hmod : (2 * y' + p - y₃) % p = 2 * y' + p - y₃ - p - p := by
        rw [Nat.mod_eq_sub_mod hge, Nat.mod_eq_sub_mod hge', Nat.mod_eq_of_lt (by omega)]
      rw [hmod]
      omega

/-- The slope has the wrong sign, and the ordinate is that of `y₃` reflected in
    `y'`. -/
theorem parity_of_opposite_slope (h : AtNat P x y) (h' : AtNat Q x' y')
    (h₃ : AtNat (P - Q) x₃ y₃) (hne : x ≠ x') (heq : y + y' + lost / 2 = p) :
    codeOrdinate x y x' y' x₃ % 2 = y₃ % 2 ↔ ((y₃ ≤ 2 * y' ∧ 2 * y' < y₃ + p) ↔
      ¬Wraps y' ((2 * y' + p - y₃) % p) (lineProduct x y x' y' x₃)) := by
  have hy := h'.y_lt
  have hy₃ := h₃.y_lt
  have hhalf : (lost / 2 + lost / 2 : ℕ) = lost := by norm_num [lost]
  have hpos : 0 < lost / 2 := by norm_num [lost]
  have hzero : (y : Fp) + y' + (lost / 2 : ℕ) = 0 := by
    rw [← Nat.cast_add, ← Nat.cast_add, heq, ZMod.natCast_self]
  have hlost : (lost : Fp) = (lost / 2 : ℕ) + (lost / 2 : ℕ) := by rw [← Nat.cast_add, hhalf]
  have hsub : y₃ ≤ 2 * y' + p := by omega
  have hprod : (lineProduct x y x' y' x₃ : Fp) = ((2 * y' + p - y₃) % p : ℕ) - (y' : Fp) := by
    rw [lineProduct_cast h₃.x_lt, chordSlope_cast h.y_lt h'.y_lt, if_pos (by omega),
      ZMod.natCast_mod, Nat.cast_sub hsub, Nat.cast_add, ZMod.natCast_self,
      (coords_of_sub h h' h₃ hne).2, hlost]
    push_cast
    linear_combination 2 * ((x : Fp) - x')⁻¹ * ((x' : Fp) - x₃) * hzero
  have hparity := parity_iff y' (lineProduct x y x' y' x₃)
    (Nat.mod_lt (2 * y' + p - y₃) p_pos)
  rw [codeOrdinate, ordinate_eq h'.y_lt (Nat.mod_lt _ p_pos) hprod, ← reflected_parity hy hy₃,
    ← hparity]
  omega

/-- **When the bytes are right.**  No borrow in the slope, and none in the ordinate
    that shows in the prefix; or the borrow has turned the slope into its opposite
    and the prefix comes out right by chance. -/
def Unharmed (x y x' y' x₃ y₃ : ℕ) : Prop :=
  x ≠ x' ∧ (p ≤ y + y' ∧ ¬Wraps y' y₃ (lineProduct x y x' y' x₃) ∨
    y + y' + lost / 2 = p ∧ ((y₃ ≤ 2 * y' ∧ 2 * y' < y₃ + p) ↔
      ¬Wraps y' ((2 * y' + p - y₃) % p) (lineProduct x y x' y' x₃)))

theorem unharmed_iff (h : AtNat P x y) (h' : AtNat Q x' y') (h₃ : AtNat (P - Q) x₃ y₃)
    (hne : x ≠ x') : Unharmed x y x' y' x₃ y₃ ↔
      (p ≤ y + y' ∨ y + y' + lost / 2 = p) ∧ codeOrdinate x y x' y' x₃ % 2 = y₃ % 2 := by
  rw [Unharmed, and_iff_right hne, or_and_right]
  refine or_congr ?_ ?_
  · exact and_congr_right fun hle => (parity_of_right_slope h h' h₃ hne hle).symm
  · exact and_congr_right fun heq => (parity_of_opposite_slope h h' h₃ hne heq).symm

/-! ## The operations on bytes -/

namespace CryptoOps

variable {a b : Point} {ops : GroupOps} {bn_inverse : Bignum256 → Bignum256}
  {behind behind' : ℕ → UInt8}

/-- The bytes of a result are right if its abscissa is and the parity of its
    ordinate. -/
theorem encode_eq_iff {Y : ℕ} (h : AtNat D x y) (hX : X < p) :
    (if pointIsInfinity ⟨ofNat X, ofNat Y⟩ then none
      else some (encodePoint ⟨ofNat X, ofNat Y⟩)) = compressed D ↔ X = x ∧ Y % 2 = y % 2 := by
  rw [h.compressed, encodePoint, compressCoords_ofNat hX]
  constructor
  · intro heq
    split at heq
    · cases heq
    · exact compressedBytes_injective hX h.x_lt (Option.some.inj heq)
  · rintro ⟨rfl, hpar⟩
    have hfinite : pointIsInfinity ⟨ofNat X, ofNat Y⟩ = false := by
      rw [pointIsInfinity, bnIsZero_ofNat (hX.trans p_lt_limbs),
        decide_eq_false h.abscissa_ne_zero, Bool.false_and]
    rw [hfinite, compressedBytes_congr hpar]
    rfl

theorem pointSubtract_eq (h : AtNat P x y) (h' : AtNat Q x' y') (ha : compressed P = some a)
    (hb : compressed Q = some b) :
    pointSubtract (ops.withPointAdd bn_inverse) ⟨a, behind⟩ ⟨b, behind'⟩ =
      let left := Ecdsa.pointAdd machine bn_inverse ⟨ofNat x', ofNat (3 * p - y')⟩
        ⟨ofNat x, ofNat y⟩
      if pointIsInfinity left then none else some (encodePoint left) := by
  have hy := h'.y_lt
  have hsum : p + 2 * p - y' = 3 * p - y' := by omega
  have hneg : bnSubtractmod machine prime (ofNat y') prime = ofNat (3 * p - y') := by
    rw [← hsum, ← difference_of_le (by omega) (by omega),
      ← bnSubtractmod_prime p_lt_limbs (hy.trans p_lt_limbs), prime_eq]
  rw [pointSubtract, decodePoint_eq ha, decodePoint_eq hb, ofPoint_of_atNat h, ofPoint_of_atNat h']
  simp only [Option.bind_eq_bind, Option.bind_some, hneg]
  rfl

theorem negated_lt_limbs (h : AtNat Q x y) : 3 * p - y < (2 ^ 30) ^ 9 := by
  have hy := h.y_lt
  simp only [p] at *
  omega

/-- On one abscissa the difference is always infinity. -/
theorem pointSubtract_vertical (h : AtNat P x y) (h' : AtNat Q x y') (ha : compressed P = some a)
    (hb : compressed Q = some b) :
    pointSubtract (ops.withPointAdd bn_inverse) ⟨a, behind⟩ ⟨b, behind'⟩ = none := by
  have hy := h.y_lt
  have hy' := h'.y_lt
  rw [pointSubtract_eq h h' ha hb, pointAdd_vertical (negated_lt_limbs h') (hy.trans p_lt_limbs) (by omega)
    h.ordinate_ne_zero (by omega)]
  rfl

theorem pointSubtract_chord (hinv : InvertsPrime bn_inverse) (h : AtNat P x y)
    (h' : AtNat Q x' y') (h₃ : AtNat (P - Q) x₃ y₃) (ha : compressed P = some a)
    (hb : compressed Q = some b) (hne : x ≠ x') :
    pointSubtract (ops.withPointAdd bn_inverse) ⟨a, behind⟩ ⟨b, behind'⟩ = compressed (P - Q) ↔
      Unharmed x y x' y' x₃ y₃ := by
  have hy' := h'.y_lt
  have hlimbs := negated_lt_limbs h'
  obtain ⟨sum, hsumlt, hsum, hadd⟩ := pointAdd_chord (W := machine) hinv h'.x_lt h.x_lt hlimbs
    (h.y_lt.trans p_lt_limbs) (by omega) h.ordinate_ne_zero hne.symm
  obtain ⟨X, hX, hXcast, hthird⟩ := thirdPoint_eq (W := machine) (l := chordSlope x y x' y')
    product_lt hsumlt h'.x_lt hlimbs
  have hXcast' : (X : Fp) = (chordSlope x y x' y' : Fp) ^ 2 - x' - x := by
    rw [hXcast, hsum, sub_sub]
  have habs := abscissa_iff h h' h₃ hne hX hXcast'
  rw [pointSubtract_eq h h' ha hb, hadd, ← chordSlope, hthird, unharmed_iff h h' h₃ hne, ← habs]
  refine (encode_eq_iff h₃ hX).trans (and_congr_right ?_)
  rintro rfl
  rfl

/-! ## The negated point -/

theorem pointNegate_eq (hb : compressed Q = some b) : pointNegate b = compressed (-Q) := by
  obtain ⟨x, y, hat, rfl⟩ := exists_of_compressed hb
  have hodd := p_odd
  have hy := hat.y_lt
  rw [hat.neg.compressed, pointNegate]
  rcases Nat.mod_two_eq_zero_or_one y with hpar | hpar
  · have hpar' : (p - y) % 2 = 1 := by omega
    simp [compressedBytes, hpar, hpar']
  · have hpar' : (p - y) % 2 = 0 := by omega
    simp [compressedBytes, hpar, hpar']

theorem pointNegate_of_hasPrefix (hpre : HasPrefix b) :
    ∃ negated, pointNegate b = some negated ∧ HasPrefix negated ∧
      abscissa negated = abscissa b := by
  have hguard : ¬(b.toList.head? ≠ some 0x02 ∧ b.toList.head? ≠ some 0x03) := by
    rintro ⟨h2, h3⟩
    exact hpre.elim h2 h3
  refine ⟨_, if_neg hguard, ?_, rfl⟩
  by_cases h2 : b.toList.head? = some 0x02
  · exact Or.inr (by simp [h2])
  · exact Or.inl (by simp [h2])

/-- A string is a point if its negation is. -/
theorem pointAdd_pointNegate_of_invalid {ops : GroupOps} (ha : HasPrefix a) (hb : HasPrefix b)
    (h : (∀ P, compressed P ≠ some a) ∨ ∀ Q, compressed Q ≠ some b) (behind'' : ℕ → UInt8) :
    (pointNegate b).bind (fun negated => pointAdd ops ⟨a, behind⟩ ⟨negated, behind''⟩) = none := by
  obtain ⟨negated, hnegated, hpre, habs⟩ := pointNegate_of_hasPrefix hb
  rw [hnegated, Option.bind_some, pointAdd]
  rcases h with h | h
  · rw [(decodePoint_eq_none ha).2 h]
    rfl
  · have hnone : ∀ Q, compressed Q ≠ some negated := by
      intro Q hQ
      obtain ⟨-, hon⟩ := exists_compressed_iff.1 ⟨Q, hQ⟩
      rw [habs] at hon
      obtain ⟨Q', hQ'⟩ := exists_compressed_iff.2 ⟨hb, hon⟩
      exact h Q' hQ'
    rw [(decodePoint_eq_none hpre).2 hnone]
    cases decodePoint ⟨a, behind⟩ with
    | none => rfl
    | some left => rfl

theorem pointSubtract_of_invalid (ops : GroupOps) (behind behind' : ℕ → UInt8)
    (ha : HasPrefix a) (hb : HasPrefix b)
    (h : (∀ P, compressed P ≠ some a) ∨ ∀ Q, compressed Q ≠ some b) :
    pointSubtract ops ⟨a, behind⟩ ⟨b, behind'⟩ = none := by
  rw [pointSubtract]
  rcases h with h | h
  · rw [(decodePoint_eq_none ha).2 h]
    rfl
  · rw [(decodePoint_eq_none hb).2 h]
    cases decodePoint ⟨a, behind⟩ with
    | none => rfl
    | some left => rfl

/-- The addition of the negated point is right. -/
theorem pointAdd_pointNegate (ops : GroupOps) (behind : ℕ → UInt8)
    (hadd : ∀ {P Q : E.Point}, P ≠ 0 → Q ≠ 0 →
      ops.point_add (ofPoint P) (ofPoint Q) = ofPoint (P + Q))
    (ha : compressed P = some a) (hb : compressed Q = some b) (behind'' : ℕ → UInt8) :
    (pointNegate b).bind (fun negated => pointAdd ops ⟨a, behind⟩ ⟨negated, behind''⟩) =
      compressed (P - Q) := by
  obtain ⟨negated, hneg⟩ := exists_compressed (neg_ne_zero.2 (compressed_ne_zero hb))
  rw [pointNegate_eq hb, hneg, Option.bind_some, sub_eq_add_neg]
  exact pointAdd_of_add hadd ha hneg behind behind''

end CryptoOps

end CotMta.Server
