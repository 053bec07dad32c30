/-
  Points of secp256k1 by natural coordinates below `p`, and as 33 bytes: the
  parity of the ordinate and the abscissa.

  Both programs compute the ordinate of a received point as the power
  `(p + 1) / 4` of its square and pick the root by its parity; `root_by_parity`
  says that this gives back the ordinate.
-/
import CotMta.Secp256k1
import CotMta.Lib.Bytes

namespace CotMta.Secp256k1

open ShortWeierstrass WeierstrassCurve WeierstrassCurve.Affine

variable {P Q : E.Point} {x y x' y' : ℕ}

theorem p_pos : 0 < p := prime_p.pos
theorem p_odd : p % 2 = 1 := by decide
theorem p_lt : p < 256 ^ 32 := by decide

/-! ## Reduced coordinates -/

/-- `P` is the affine point `(x, y)`, in reduced coordinates. -/
structure AtNat (P : E.Point) (x y : ℕ) : Prop where
  x_lt : x < p
  y_lt : y < p
  isAt : IsAt P (x : Fp) (y : Fp)

theorem natCast_inj {a b : ℕ} (ha : a < p) (hb : b < p) (h : (a : Fp) = b) : a = b := by
  rw [ZMod.natCast_eq_natCast_iff', Nat.mod_eq_of_lt ha, Nat.mod_eq_of_lt hb] at h
  exact h

theorem exists_atNat (hP : P ≠ 0) : ∃ x y, AtNat P x y := by
  obtain ⟨x, y, h⟩ := exists_isAt hP
  refine ⟨x.val, y.val, ZMod.val_lt x, ZMod.val_lt y, ?_⟩
  rwa [ZMod.natCast_zmod_val, ZMod.natCast_zmod_val]

theorem AtNat.ne_zero (h : AtNat P x y) : P ≠ 0 := h.isAt.ne_zero

theorem AtNat.unique (h : AtNat P x y) (h' : AtNat P x' y') : x = x' ∧ y = y' := by
  obtain ⟨hx, hy⟩ := h.isAt.unique h'.isAt
  exact ⟨natCast_inj h.x_lt h'.x_lt hx, natCast_inj h.y_lt h'.y_lt hy⟩

theorem y_ne_zero_of_isAt {x y : Fp} (h : IsAt P x y) : y ≠ 0 := ne_zero_of_sq_eq h.equation

theorem AtNat.y_ne_zero (h : AtNat P x y) : (y : Fp) ≠ 0 := y_ne_zero_of_isAt h.isAt

theorem AtNat.ordinate_ne_zero (h : AtNat P x y) : y ≠ 0 := by
  rintro rfl
  exact h.y_ne_zero Nat.cast_zero

/-- There is no point of order three. -/
theorem AtNat.abscissa_ne_zero (h : AtNat P x y) : x ≠ 0 := by
  rintro rfl
  have hat := h.isAt
  rw [Nat.cast_zero] at hat
  have htangent : IsAt (P + P) 0 (-(y : Fp)) := by
    have hadd := hat.add_self (l := 0) (mul_ne_zero two_ne_zero h.y_ne_zero) (by ring)
    simpa using hadd
  have hthree : 3 • P = 0 := by
    rw [succ_nsmul, two_nsmul, htangent.ext hat.neg, neg_add_cancel]
  exact nsmul_ne_zero h.ne_zero (by norm_num) (by norm_num [n]) hthree

theorem neg_cast (hy : y < p) : ((p - y : ℕ) : Fp) = -(y : Fp) := by
  rw [Nat.cast_sub hy.le, ZMod.natCast_self, zero_sub]

theorem AtNat.neg (h : AtNat P x y) : AtNat (-P) x (p - y) := by
  have hy := h.ordinate_ne_zero
  have hpos := p_pos
  refine ⟨h.x_lt, by omega, ?_⟩
  rw [neg_cast h.y_lt]
  exact h.isAt.neg

theorem atNat_G : AtNat G Gx Gy := ⟨by decide, by decide, G_isAt⟩

/-! ## Square roots -/

theorem pow_root_sq (y : Fp) : ((y ^ 2) ^ ((p + 1) / 4)) ^ 2 = y ^ 2 := by
  rcases eq_or_ne y 0 with rfl | hy
  · rw [zero_pow (by decide), zero_pow (by decide), zero_pow (by decide)]
  · calc ((y ^ 2) ^ ((p + 1) / 4)) ^ 2
        = y ^ (2 * ((p + 1) / 4) * 2) := by rw [← pow_mul, ← pow_mul, mul_assoc]
      _ = y ^ (p - 1 + 2) := by rw [show 2 * ((p + 1) / 4) * 2 = p - 1 + 2 by decide]
      _ = y ^ 2 := by rw [pow_add, ZMod.pow_card_sub_one_eq_one hy, one_mul]

/-- Of the two square roots of `y ^ 2`, the one with the parity of `y`. -/
theorem root_by_parity {r : ℕ} (hr : r < p) (hy : y < p) (hy0 : (y : Fp) ≠ 0)
    (h : (r : Fp) ^ 2 = (y : Fp) ^ 2) : (if r % 2 = y % 2 then r else p - r) = y := by
  have hodd := p_odd
  have hpos : 0 < y := by
    rcases Nat.eq_zero_or_pos y with rfl | hpos
    · exact absurd Nat.cast_zero hy0
    · exact hpos
  rcases sq_eq_sq_iff_eq_or_eq_neg.1 h with h | h
  · obtain rfl := natCast_inj hr hy h
    rw [if_pos rfl]
  · rw [← neg_cast hy] at h
    obtain rfl := natCast_inj hr (by omega) h
    rw [if_neg (by omega)]
    omega

/-! ## Compressed points -/

/-- The prefix and the abscissa. -/
def compressedBytes (x y : ℕ) : Bytes 33 :=
  ⟨(if y % 2 = 1 then 0x03 else 0x02) :: natBe 32 x, congrArg (· + 1) length_natBe⟩

/-- The 33 bytes of a point; the point at infinity has none. -/
def compressed (P : E.Point) : Option (Bytes 33) :=
  (coords P).map fun c => compressedBytes c.1.val c.2.val

@[simp] theorem compressed_zero : compressed 0 = none := rfl

theorem AtNat.compressed (h : AtNat P x y) : compressed P = some (compressedBytes x y) := by
  obtain ⟨hx, hy, hn, rfl⟩ := h
  simp only [Secp256k1.compressed, coords, Option.map_some, ZMod.val_natCast_of_lt hx,
    ZMod.val_natCast_of_lt hy]

theorem exists_of_compressed {bs : Bytes 33} (h : compressed P = some bs) :
    ∃ x y, AtNat P x y ∧ bs = compressedBytes x y := by
  have hP : P ≠ 0 := by
    rintro rfl
    cases h
  obtain ⟨x, y, hat⟩ := exists_atNat hP
  rw [hat.compressed] at h
  exact ⟨x, y, hat, (Option.some.inj h).symm⟩

theorem exists_compressed (hP : P ≠ 0) : ∃ bs, compressed P = some bs := by
  obtain ⟨x, y, hat⟩ := exists_atNat hP
  exact ⟨_, hat.compressed⟩

theorem compressed_eq_none : compressed P = none ↔ P = 0 := by
  constructor
  · intro h
    by_contra hP
    obtain ⟨bs, hbs⟩ := exists_compressed hP
    rw [h] at hbs
    cases hbs
  · rintro rfl
    rfl

/-- Of the ordinate only the parity counts. -/
theorem compressedBytes_congr (h : y % 2 = y' % 2) :
    compressedBytes x y = compressedBytes x y' := by
  rw [compressedBytes]
  simp only [h]
  rfl

theorem compressedBytes_injective (hx : x < p) (hx' : x' < p)
    (h : compressedBytes x y = compressedBytes x' y') : x = x' ∧ y % 2 = y' % 2 := by
  have hlist := congrArg Bytes.toList h
  simp only [compressedBytes, List.cons.injEq] at hlist
  obtain ⟨hhead, htail⟩ := hlist
  have hnat := congrArg beNat htail
  rw [beNat_natBe (hx.trans p_lt), beNat_natBe (hx'.trans p_lt)] at hnat
  refine ⟨hnat, ?_⟩
  rcases Nat.mod_two_eq_zero_or_one y with h0 | h0 <;>
    rcases Nat.mod_two_eq_zero_or_one y' with h1 | h1 <;> rw [h0, h1] at hhead ⊢ <;>
    exact absurd hhead (by decide)

/-- **A point is determined by its bytes.** -/
theorem compressed_injective (h : compressed P = compressed Q) : P = Q := by
  rcases eq_or_ne P 0 with rfl | hP
  · exact (compressed_eq_none.1 h.symm).symm
  · obtain ⟨bs, hbs⟩ := exists_compressed hP
    obtain ⟨x, y, hat, rfl⟩ := exists_of_compressed hbs
    obtain ⟨x', y', hat', hbytes⟩ := exists_of_compressed (h ▸ hbs)
    obtain ⟨rfl, hpar⟩ := compressedBytes_injective hat.x_lt hat'.x_lt hbytes
    rcases hat.isAt.eq_or_eq_neg hat'.isAt with heq | heq
    · exact heq
    · -- opposite points have ordinates of different parity
      have hneg := heq ▸ hat
      obtain ⟨-, hy⟩ := hneg.unique hat'.neg
      have hodd := p_odd
      have hlt := hat'.y_lt
      omega

/-! ## The strings that are points -/

/-- The prefix of a compressed point. -/
def HasPrefix (bytes : Bytes 33) : Prop :=
  bytes.toList.head? = some 0x02 ∨ bytes.toList.head? = some 0x03

instance {bytes : Bytes 33} : Decidable (HasPrefix bytes) :=
  inferInstanceAs (Decidable (_ ∨ _))

/-- The abscissa that the string announces; it need not be reduced. -/
def abscissa (bytes : Bytes 33) : ℕ := beNat (bytes.toList.drop 1)

variable {bytes : Bytes 33}

theorem abscissa_lt : abscissa bytes < 2 ^ 256 := by
  have h := beNat_lt (l := bytes.toList.drop 1)
  rw [List.length_drop, bytes.length_toList] at h
  exact h.trans_eq (by norm_num)

theorem abscissa_compressedBytes (hx : x < 2 ^ 256) : abscissa (compressedBytes x y) = x :=
  beNat_natBe (hx.trans_eq (by norm_num))

theorem hasPrefix_compressedBytes : HasPrefix (compressedBytes x y) := by
  rcases Nat.mod_two_eq_zero_or_one y with h | h
  · exact Or.inl (by simp [compressedBytes, h])
  · exact Or.inr (by simp [compressedBytes, h])

theorem compressedBytes_abscissa
    (h : bytes.toList.head? = some (if y % 2 = 1 then 0x03 else 0x02)) :
    compressedBytes (abscissa bytes) y = bytes := by
  have htail := natBe_beNat (l := bytes.toList.drop 1)
  rw [List.length_drop, bytes.length_toList] at htail
  refine Bytes.ext ?_
  simp only [compressedBytes, abscissa]
  refine (congrArg _ htail).trans ?_
  obtain ⟨list, hlen⟩ := bytes
  cases list with
  | nil => cases hlen
  | cons b tail =>
    cases h
    rfl

theorem exists_atNat_of_equation (hx : x < p) (hy : y < p) (h : (y : Fp) ^ 2 = (x : Fp) ^ 3 + 7) :
    ∃ P, AtNat P x y :=
  ⟨.some _ _ ((equation_iff_nonsingular_of_Δ_ne_zero Δ_ne_zero).1 (equation_short.2 h)),
    hx, hy, _, rfl⟩

/-- Of the two roots of `x ^ 3 + 7` the prefix picks one. -/
theorem exists_ordinate (hpre : HasPrefix bytes)
    (h : IsSquare ((abscissa bytes : Fp) ^ 3 + 7)) :
    ∃ y < p, (y : Fp) ^ 2 = (abscissa bytes : Fp) ^ 3 + 7 ∧
      compressedBytes (abscissa bytes) y = bytes := by
  obtain ⟨r, hr⟩ := h
  have hlt := ZMod.val_lt r
  have hsq : (r.val : Fp) ^ 2 = (abscissa bytes : Fp) ^ 3 + 7 := by
    rw [ZMod.natCast_zmod_val, hr, pow_two]
  have hpos : 0 < r.val := by
    refine Nat.pos_of_ne_zero fun h0 => ne_zero_of_sq_eq hsq ?_
    rw [h0, Nat.cast_zero]
  have hneg : ((p - r.val : ℕ) : Fp) ^ 2 = (abscissa bytes : Fp) ^ 3 + 7 := by
    rw [neg_cast hlt, neg_sq, hsq]
  have hodd := p_odd
  rcases Nat.mod_two_eq_zero_or_one r.val with hpar | hpar <;> rcases hpre with hhead | hhead
  · exact ⟨_, hlt, hsq, compressedBytes_abscissa (by rw [hhead, if_neg (by omega)])⟩
  · exact ⟨_, by omega, hneg, compressedBytes_abscissa (by rw [hhead, if_pos (by omega)])⟩
  · exact ⟨_, by omega, hneg, compressedBytes_abscissa (by rw [hhead, if_neg (by omega)])⟩
  · exact ⟨_, hlt, hsq, compressedBytes_abscissa (by rw [hhead, if_pos (by omega)])⟩

/-- **Which strings are points.** -/
theorem exists_compressed_iff : (∃ P, compressed P = some bytes) ↔
    HasPrefix bytes ∧ abscissa bytes < p ∧ IsSquare ((abscissa bytes : Fp) ^ 3 + 7) := by
  constructor
  · rintro ⟨P, hP⟩
    obtain ⟨x, y, hat, rfl⟩ := exists_of_compressed hP
    rw [abscissa_compressedBytes (hat.x_lt.trans (by norm_num [p]))]
    refine ⟨hasPrefix_compressedBytes, hat.x_lt, (y : Fp), ?_⟩
    rw [← hat.isAt.equation, pow_two]
  · rintro ⟨hpre, hlt, hsq⟩
    obtain ⟨y, hy, heq, hbytes⟩ := exists_ordinate hpre hsq
    obtain ⟨P, hP⟩ := exists_atNat_of_equation hlt hy heq
    exact ⟨P, by rw [hP.compressed, hbytes]⟩

/-- The key that both sides derive from a group element: the hash of its
    abscissa. -/
def sharedKey (sha256 : List UInt8 → Bytes 32) (point : Bytes 33) : Bytes 32 :=
  sha256 (point.toList.drop 1)

/-! ## Scalars -/

/-- A scalar in `[1, n - 1]`. -/
def ValidScalar (scalar : Bytes 32) : Prop := 0 < scalar.nat ∧ scalar.nat < n

instance {scalar : Bytes 32} : Decidable (ValidScalar scalar) :=
  inferInstanceAs (Decidable (_ ∧ _))

namespace ValidScalar
variable {a b : Bytes 32}

theorem nsmul_ne_zero (ha : ValidScalar a) (hP : P ≠ 0) : a.nat • P ≠ 0 :=
  Secp256k1.nsmul_ne_zero hP ha.1 ha.2

theorem exists_compressed (ha : ValidScalar a) (hP : P ≠ 0) :
    ∃ bs, compressed (a.nat • P) = some bs := Secp256k1.exists_compressed (ha.nsmul_ne_zero hP)

theorem nsmul_inj (ha : ValidScalar a) (hb : ValidScalar b) :
    a.nat • G = b.nat • G ↔ a = b := by
  rw [nsmul_eq_nsmul_iff G_isAt.ne_zero, Nat.ModEq, Nat.mod_eq_of_lt ha.2, Nat.mod_eq_of_lt hb.2,
    Bytes.nat_inj]

theorem add_eq_zero (ha : ValidScalar a) (hb : ValidScalar b) :
    b.nat • G + a.nat • G = 0 ↔ a.nat + b.nat = n := by
  have hsum : b.nat • G + a.nat • G = (a.nat + b.nat) • G := by rw [add_nsmul, add_comm]
  rw [hsum, ← addOrderOf_dvd_iff_nsmul_eq_zero, addOrderOf_G]
  obtain ⟨ha0, han⟩ := ha
  obtain ⟨hb0, hbn⟩ := hb
  constructor
  · rintro ⟨k, hk⟩
    have hk2 : k < 2 := by
      by_contra hge
      have := Nat.mul_le_mul_left n (not_lt.1 hge)
      omega
    interval_cases k <;> omega
  · intro h
    rw [h]

end ValidScalar

/-- Every point but infinity has exactly one scalar. -/
theorem existsUnique_validScalar (hP : P ≠ 0) :
    ∃! b : Bytes 32, ValidScalar b ∧ b.nat • G = P := by
  obtain ⟨k, hk, rfl⟩ := exists_nsmul_G P
  have hpos : 0 < k := by
    refine Nat.pos_of_ne_zero ?_
    rintro rfl
    exact hP (zero_nsmul G)
  have hnat : (Bytes.ofNat 32 k).nat = k := Bytes.nat_ofNat (hk.trans (by norm_num [n]))
  have hvalid : ValidScalar (Bytes.ofNat 32 k) := by
    rw [ValidScalar, hnat]
    exact ⟨hpos, hk⟩
  refine ⟨Bytes.ofNat 32 k, ⟨hvalid, by rw [hnat]⟩, ?_⟩
  rintro b ⟨hb, heq⟩
  refine (hb.nsmul_inj hvalid).1 ?_
  rw [heq, hnat]

end CotMta.Secp256k1
