/-
  Subtraction of points: `point_subtract` of the server against its own addition
  of the negated point, and against the client.
-/
import CotMta.Server.Subtraction
import CotMta.Session.GroupOps
import CotMta.Session.Points

namespace CotMta.Session

open Trezor Bignum256 Secp256k1 Ecdsa Server.CryptoOps Limbs

variable {P Q : E.Point} {a b : Bytes 33} {ops : GroupOps}
  {bn_inverse : Bignum256 → Bignum256} {behind behind' : ℕ → UInt8}

/-! ## The client -/

/-- The pairs of strings that the client subtracts.  An abscissa need not be
    reduced, but two numbers for one abscissa have no chord. -/
structure ClientSubtracts (a b : Bytes 33) : Prop where
  lhs : IsSquare ((abscissa a : Fp) ^ 3 + 7)
  rhs : IsSquare ((abscissa b : Fp) ^ 3 + 7)
  ne : a ≠ b
  abscissas : (abscissa a : Fp) = abscissa b → abscissa a = abscissa b

section
open Client Client.CryptoOps

/-- What the client decodes a string of a point to, its abscissa not reduced. -/
theorem exists_decoded (ha : HasPrefix a) (h : IsSquare ((abscissa a : Fp) ^ 3 + 7)) :
    ∃ P : E.Point, ∃ y < p, ShortWeierstrass.IsAt P (abscissa a : Fp) (y : Fp) ∧ y ≠ 0 ∧
      compressedBytes (abscissa a) y = a ∧
      decodeCompressedPoint a.toList = .ok ⟨false, abscissa a, y⟩ := by
  obtain ⟨y, hy, heq, hbytes⟩ := exists_ordinate ha h
  have hx : ((abscissa a % p : ℕ) : Fp) = abscissa a := ZMod.natCast_mod _ _
  obtain ⟨P, hP⟩ := exists_atNat_of_equation (Nat.mod_lt (abscissa a) p_pos) hy (by rw [hx, heq])
  refine ⟨P, y, hy, ?_, hP.ordinate_ne_zero, hbytes,
    decodeCompressedPoint_eq_ok.2 ⟨y, hy, heq, hbytes, rfl⟩⟩
  rw [← hx]
  exact hP.isAt

theorem encode_ne_zero {point : AffinePoint} (h : Rep point P) (hP : P ≠ 0) :
    ∃ bytes, encodeCompressedPoint point = .ok bytes := by
  obtain ⟨bytes, hbytes⟩ := exists_compressed hP
  exact ⟨bytes.toList, by rw [encodeCompressedPoint_rep h, encoding_some hbytes]⟩

theorem ClientSubtracts.of_pointSubtract (ha : HasPrefix a) (hb : HasPrefix b)
    {bytes : Uint8Array} (h : Client.CryptoOps.pointSubtract a.toList b.toList = .ok bytes) :
    ClientSubtracts a b := by
  obtain ⟨left, hleft, h⟩ := bind_eq_ok.1 h
  obtain ⟨right, hright, h⟩ := bind_eq_ok.1 h
  obtain ⟨sum, hsum, hencode⟩ := bind_eq_ok.1 h
  have hsqa := (client_accepts_iff ha).1 ⟨left, hleft⟩
  have hsqb := (client_accepts_iff hb).1 ⟨right, hright⟩
  obtain ⟨P, y, hy, hP, hy0, hbytes, hdec⟩ := exists_decoded ha hsqa
  obtain ⟨Q, y', hy', hQ, hy0', hbytes', hdec'⟩ := exists_decoded hb hsqb
  cases hleft.symm.trans hdec
  cases hright.symm.trans hdec'
  rw [negatePoint_affine hy' hy0'] at hsum
  refine ⟨hsqa, hsqb, ?_, ?_⟩
  · rintro rfl
    cases hdec.symm.trans hdec'
    have hopposite : (y : Fp) + (p - y : ℕ) = 0 := by rw [neg_cast hy, add_neg_cancel]
    rw [addPoints_opposite hopposite] at hsum
    cases hsum
    cases hencode
  · intro hx
    by_contra hne
    rw [addPoints_congruent _ _ hx hne] at hsum
    cases hsum

theorem ClientSubtracts.exists_ok (ha : HasPrefix a) (hb : HasPrefix b)
    (h : ClientSubtracts a b) :
    ∃ bytes, Client.CryptoOps.pointSubtract a.toList b.toList = .ok bytes := by
  obtain ⟨P, y, hy, hP, hy0, hbytes, hdec⟩ := exists_decoded ha h.lhs
  obtain ⟨Q, y', hy', hQ, hy0', hbytes', hdec'⟩ := exists_decoded hb h.rhs
  have hQneg := hQ.neg
  rw [← neg_cast hy'] at hQneg
  rw [Client.CryptoOps.pointSubtract, hdec, hdec']
  simp only [bind, Except.bind, negatePoint_affine hy' hy0']
  by_cases hx : (abscissa a : Fp) = abscissa b
  · rw [← h.abscissas hx] at hQ hQneg hbytes' ⊢
    -- the ordinates are opposite, or the strings would be equal
    have hopp : y = p - y' := by
      rcases hP.eq_or_eq_neg hQ with rfl | rfl
      · have hyy := natCast_inj hy hy' (hP.unique hQ).2
        rw [hyy] at hbytes
        exact absurd (hbytes.symm.trans hbytes') h.ne
      · exact natCast_inj hy (by omega) (hP.unique hQneg).2
    obtain ⟨sum, hsum, hrep⟩ := addPoints_tangent hP
    rw [← hopp, hsum]
    refine encode_ne_zero hrep ?_
    rw [← two_nsmul]
    exact nsmul_ne_zero hP.ne_zero (by norm_num) (by norm_num [n])
  · obtain ⟨sum, hsum, hrep⟩ := addPoints_chord hP hQneg hx
    rw [hsum]
    refine encode_ne_zero hrep fun hzero => hx ?_
    have hPQ : P = Q := by rwa [← sub_eq_add_neg, sub_eq_zero] at hzero
    exact (hP.unique (hPQ ▸ hQ)).1

theorem clientSubtracts_iff (ha : HasPrefix a) (hb : HasPrefix b) :
    (∃ bytes, Client.CryptoOps.pointSubtract a.toList b.toList = .ok bytes) ↔
      ClientSubtracts a b := by
  constructor
  · rintro ⟨bytes, h⟩
    exact .of_pointSubtract ha hb h
  · exact ClientSubtracts.exists_ok ha hb

end

/-! ## The server -/

/-- Subtracting is adding the negation. -/
structure Subtracts (ops : GroupOps) (a b : Bytes 33) (behind behind' : ℕ → UInt8) : Prop where
  adds_negation : ∀ behind'', pointSubtract ops ⟨a, behind⟩ ⟨b, behind'⟩ =
    (pointNegate b).bind fun negated => pointAdd ops ⟨a, behind⟩ ⟨negated, behind''⟩
  difference : ∀ P Q, compressed P = some a → compressed Q = some b →
    pointSubtract ops ⟨a, behind⟩ ⟨b, behind'⟩ = compressed (P - Q)
  eq_none : pointSubtract ops ⟨a, behind⟩ ⟨b, behind'⟩ = none ↔
    a = b ∨ (∀ P, compressed P ≠ some a) ∨ ∀ Q, compressed Q ≠ some b
  client : ∀ bytes, Client.CryptoOps.pointSubtract a.toList b.toList = .ok bytes ↔
    (pointSubtract ops ⟨a, behind⟩ ⟨b, behind'⟩).map Bytes.toList = some bytes

/-- The condition: the difference of two points, if not infinity, is `Unharmed`,
    and the client subtracts no abscissa that is not reduced. -/
structure Meets (a b : Bytes 33) : Prop where
  unharmed : ∀ {P Q : E.Point} {x y x' y' x₃ y₃ : ℕ}, compressed P = some a →
    compressed Q = some b → AtNat P x y → AtNat Q x' y' → AtNat (P - Q) x₃ y₃ →
      Server.Unharmed x y x' y' x₃ y₃
  reduced : ClientSubtracts a b → abscissa a < p ∧ abscissa b < p

/-- On two points the first law decides about the others. -/
theorem subtracts_of_points (hinv : InvertsPrime bn_inverse) (ha : compressed P = some a)
    (hb : compressed Q = some b) :
    Subtracts (ops.withPointAdd bn_inverse) a b behind behind' ↔
      pointSubtract (ops.withPointAdd bn_inverse) ⟨a, behind⟩ ⟨b, behind'⟩ =
        compressed (P - Q) := by
  have hadd := pointAdd_pointNegate (ops.withPointAdd bn_inverse) behind
    (pointAdd_ofPoint hinv) ha hb
  constructor
  · intro h
    rw [h.adds_negation behind', hadd]
  · intro h
    refine ⟨fun behind'' => by rw [hadd, h], ?_, ?_, ?_⟩
    · intro P' Q' hP' hQ'
      rw [h, compressed_injective (hP'.trans ha.symm), compressed_injective (hQ'.trans hb.symm)]
    · rw [h, compressed_eq_none, sub_eq_zero]
      constructor
      · rintro rfl
        exact Or.inl (Option.some.inj (ha.symm.trans hb))
      · rintro (rfl | hnone | hnone)
        · exact compressed_injective (ha.trans hb.symm)
        · exact absurd ha (hnone P)
        · exact absurd hb (hnone Q)
    · intro bytes
      rw [h, Client.CryptoOps.pointSubtract_eq ha hb, Client.CryptoOps.encoding]
      cases compressed (P - Q) with
      | none => simp
      | some difference => simp

/-- Without two points the server gives nothing. -/
theorem subtracts_of_invalid (ha : HasPrefix a) (hb : HasPrefix b)
    (h : (∀ P, compressed P ≠ some a) ∨ ∀ Q, compressed Q ≠ some b) :
    Subtracts ops a b behind behind' ↔ ¬ClientSubtracts a b := by
  have hnone := pointSubtract_of_invalid ops behind behind' ha hb h
  rw [← clientSubtracts_iff ha hb]
  constructor
  · rintro hsub ⟨bytes, hbytes⟩
    have hsome := (hsub.client bytes).1 hbytes
    rw [hnone] at hsome
    cases hsome
  · intro hclient
    refine ⟨fun behind'' => ?_, ?_, ?_, ?_⟩
    · rw [hnone, pointAdd_pointNegate_of_invalid ha hb h]
    · intro P Q hP hQ
      rcases h with h | h
      · exact absurd hP (h P)
      · exact absurd hQ (h Q)
    · exact iff_of_true hnone (Or.inr h)
    · intro bytes
      rw [hnone]
      exact iff_of_false (fun hbytes => hclient ⟨bytes, hbytes⟩) (fun h => nomatch h)

theorem Meets.refl (a : Bytes 33) : Meets a a where
  unharmed hP' hQ' _ _ h₃ := by
    refine absurd ?_ h₃.ne_zero
    rw [compressed_injective (hP'.trans hQ'.symm), sub_self]
  reduced h := absurd rfl h.ne

theorem meets_iff {x y x' y' x₃ y₃ : ℕ} (hP : compressed P = some a) (hQ : compressed Q = some b)
    (h : AtNat P x y) (h' : AtNat Q x' y') (h₃ : AtNat (P - Q) x₃ y₃) :
    Meets a b ↔ Server.Unharmed x y x' y' x₃ y₃ := by
  constructor
  · intro hmeets
    exact hmeets.unharmed hP hQ h h' h₃
  · intro hunharmed
    refine ⟨?_, fun _ => ⟨(exists_compressed_iff.1 ⟨P, hP⟩).2.1,
      (exists_compressed_iff.1 ⟨Q, hQ⟩).2.1⟩⟩
    intro P' Q' u v u' v' u₃ v₃ hP' hQ' hu hu' hu₃
    obtain rfl := compressed_injective (hP'.trans hP.symm)
    obtain rfl := compressed_injective (hQ'.trans hQ.symm)
    obtain ⟨rfl, rfl⟩ := hu.unique h
    obtain ⟨rfl, rfl⟩ := hu'.unique h'
    obtain ⟨rfl, rfl⟩ := hu₃.unique h₃
    exact hunharmed

/-- **When `point_subtract` subtracts.** -/
theorem subtracts_iff (hinv : InvertsPrime bn_inverse) (ha : HasPrefix a) (hb : HasPrefix b) :
    Subtracts (ops.withPointAdd bn_inverse) a b behind behind' ↔ Meets a b := by
  by_cases hvalid : (∃ P, compressed P = some a) ∧ ∃ Q, compressed Q = some b
  · obtain ⟨⟨P, hP⟩, Q, hQ⟩ := hvalid
    obtain ⟨x, y, h, -⟩ := exists_of_compressed hP
    obtain ⟨x', y', h', -⟩ := exists_of_compressed hQ
    rw [subtracts_of_points hinv hP hQ]
    rcases eq_or_ne P Q with rfl | hne
    · obtain rfl := Option.some.inj (hP.symm.trans hQ)
      rw [pointSubtract_vertical h h hP hP, sub_self]
      exact iff_of_true rfl (Meets.refl a)
    · obtain ⟨x₃, y₃, h₃⟩ := exists_atNat (sub_ne_zero.2 hne)
      rw [meets_iff hP hQ h h' h₃]
      rcases eq_or_ne x x' with rfl | hx
      · rw [pointSubtract_vertical h h' hP hQ, h₃.compressed]
        exact iff_of_false (fun heq => nomatch heq) fun hunharmed => hunharmed.1 rfl
      · exact pointSubtract_chord hinv h h' h₃ hP hQ hx
  · have hinvalid : (∀ P, compressed P ≠ some a) ∨ ∀ Q, compressed Q ≠ some b := by
      rw [not_and_or, not_exists, not_exists] at hvalid
      exact hvalid
    rw [subtracts_of_invalid ha hb hinvalid]
    constructor
    · intro hclient
      refine ⟨fun hP hQ => absurd ⟨⟨_, hP⟩, _, hQ⟩ hvalid, fun h => absurd h hclient⟩
    · intro hmeets hclient
      obtain ⟨hlt, hlt'⟩ := hmeets.reduced hclient
      exact hvalid ⟨exists_compressed_iff.2 ⟨ha, hlt, hclient.lhs⟩,
        exists_compressed_iff.2 ⟨hb, hlt', hclient.rhs⟩⟩

/-! ## The double of the generator -/

/-- An inverse as `bn_inverse` gives it. -/
def fieldInverse (x : Bignum256) : Bignum256 := ofNat ((value (2 ^ 30) x.val : Fp)⁻¹).val

theorem fieldInverse_inverts : InvertsPrime fieldInverse := by
  intro v hv _
  have hvalue : value (2 ^ 30) (ofNat v).val = v := value_limbs_of_lt hv
  rw [fieldInverse, hvalue]

/-- The slope of the tangent at the generator, and the coordinates of its double. -/
def tangentG : ℕ := 0xcb35b28428101a303eb9d1235992ac63f58857c2f631ee6936d3aebbeddcd1b1

/-- The abscissa of `2 G`. -/
def doubleGx : ℕ := 0xc6047f9441ed7d6d3045406e95c07cd85c778e4b8cef3ca7abac09b95c709ee5

/-- The ordinate of `2 G`. -/
def doubleGy : ℕ := 0x1ae168fea63dc339a3c58419466ceaeef7f632653266d0e1236431a950cfe52a

theorem atNat_doubleG : AtNat (G + G) doubleGx doubleGy := by
  have hslope : (tangentG : Fp) * (2 * Gy) = 3 * (Gx : Fp) ^ 2 := by
    have h : ((tangentG * (2 * Gy) : ℕ) : Fp) = ((3 * Gx ^ 2 : ℕ) : Fp) :=
      (ZMod.natCast_eq_natCast_iff' _ _ _).2 (by decide +kernel)
    exact_mod_cast h
  have hx : ((doubleGx + Gx + Gx : ℕ) : Fp) = ((tangentG ^ 2 : ℕ) : Fp) :=
    (ZMod.natCast_eq_natCast_iff' _ _ _).2 (by decide +kernel)
  have hy : ((doubleGy + Gy + tangentG * doubleGx : ℕ) : Fp) = ((tangentG * Gx : ℕ) : Fp) :=
    (ZMod.natCast_eq_natCast_iff' _ _ _).2 (by decide +kernel)
  have hdouble := G_isAt.add_self (mul_ne_zero Secp256k1.two_ne_zero atNat_G.y_ne_zero) hslope
  push_cast at hx hy
  have hX : (tangentG : Fp) ^ 2 - Gx - Gx = doubleGx := by linear_combination -hx
  rw [hX] at hdouble
  refine ⟨by decide, by decide, ?_⟩
  have hY : (tangentG : Fp) * (Gx - doubleGx) - Gy = doubleGy := by linear_combination -hy
  rwa [hY] at hdouble

/-- `-2 G` less `-G`: two large ordinates. -/
theorem subtracts_large : Subtracts (affineOps.withPointAdd fieldInverse)
    (compressedBytes doubleGx (p - doubleGy)) (compressedBytes Gx (p - Gy)) (fun _ => 0)
    (fun _ => 0) := by
  refine (subtracts_iff fieldInverse_inverts hasPrefix_compressedBytes
    hasPrefix_compressedBytes).2 ?_
  have hdiff : -(G + G) - -G = -G := by abel
  have h₃ : AtNat (-(G + G) - -G) Gx (p - Gy) := by
    rw [hdiff]
    exact atNat_G.neg
  refine (meets_iff atNat_doubleG.neg.compressed atNat_G.neg.compressed atNat_doubleG.neg
    atNat_G.neg h₃).2 ⟨by decide, Or.inl ⟨by decide, fun hwraps => ?_⟩⟩
  exact absurd hwraps.2 (by decide)

/-- `G` less `-G`, which comes out as infinity, and `2 G` less `G`. -/
theorem subtracts_fails :
    ¬Subtracts (affineOps.withPointAdd fieldInverse) (compressedBytes Gx Gy)
      (compressedBytes Gx (p - Gy)) (fun _ => 0) (fun _ => 0) ∧
    ¬Subtracts (affineOps.withPointAdd fieldInverse) (compressedBytes doubleGx doubleGy)
      (compressedBytes Gx Gy) (fun _ => 0) (fun _ => 0) := by
  constructor
  · intro h
    have hsub := h.difference G (-G) atNat_G.compressed atNat_G.neg.compressed
    rw [pointSubtract_vertical atNat_G atNat_G.neg atNat_G.compressed atNat_G.neg.compressed,
      sub_neg_eq_add, atNat_doubleG.compressed] at hsub
    cases hsub
  · intro h
    have h₃ : AtNat (G + G - G) Gx Gy := by
      rw [add_sub_cancel_right]
      exact atNat_G
    have hsub := h.difference (G + G) G atNat_doubleG.compressed atNat_G.compressed
    rw [pointSubtract_chord fieldInverse_inverts atNat_doubleG atNat_G h₃
      atNat_doubleG.compressed atNat_G.compressed (by decide)] at hsub
    rcases hsub.2 with hright | hopposite
    · exact absurd hright.1 (by decide)
    · exact absurd hopposite.1 (by decide)

end CotMta.Session
