/-
  The curve secp256k1: `y² = x³ + 7` over the integers modulo `p`, with the
  generator `G` of order `n`.

  Both `p` and `n` are proved prime by certificates, `n • G = 0` by running
  double-and-add, and the group is shown to have exactly `n` elements (`-7` is
  not a cube, so there is no point of order two): every point is a multiple of
  `G` (`exists_nsmul_G`), which is what the protocol's security rests on.
-/
import CotMta.Lib.Primality
import CotMta.Lib.JacobianMultiple

namespace CotMta.Secp256k1

open ShortWeierstrass WeierstrassCurve WeierstrassCurve.Affine

/-- The field prime. -/
def p : ℕ := 0xFFFFFFFFFFFFFFFFFFFFFFFFFFFFFFFFFFFFFFFFFFFFFFFFFFFFFFFEFFFFFC2F

/-- The group order. -/
def n : ℕ := 0xFFFFFFFFFFFFFFFFFFFFFFFFFFFFFFFEBAAEDCE6AF48A03BBFD25E8CD0364141

/-- The abscissa of the generator. -/
def Gx : ℕ := 55066263022277343669578718895168534326250603453777594175500187360389116729240

/-- The ordinate of the generator. -/
def Gy : ℕ := 32670510020758816978083085130507043184471273380659243275938904335757337482424

/-! ## Primality -/

/-- The small primes among the factors below. -/
def smallPrimes : List ℕ :=
  [2, 3, 5, 7, 11, 17, 19, 29, 31, 41, 53, 59, 97, 101, 103, 109, 113, 149, 239, 293, 461, 631,
    797, 971, 1373, 1627, 1871, 2011, 2621, 2657, 2731, 2861, 4051, 4423, 5323, 7723, 9349,
    13441, 16699, 20113, 24809, 28181]

/-- Each prime with a generator and the factors of its predecessor. -/
def certificate : List Primality.Test :=
  [⟨13331831, 13, [2, 5, 971, 1373]⟩,
   ⟨173378833005251801, 6, [2, 2, 2, 5, 5, 2621, 24809, 13331831]⟩,
   ⟨22149492674086928081353, 5, [2, 2, 2, 3, 5323, 173378833005251801]⟩,
   ⟨132896956044521568488119, 6, [2, 3, 22149492674086928081353]⟩,
   ⟨41201, 3, [2, 2, 2, 2, 5, 5, 103]⟩,
   ⟨96557, 2, [2, 2, 101, 239]⟩,
   ⟨1206781, 10, [2, 2, 3, 5, 20113]⟩,
   ⟨7240687, 3, [2, 3, 1206781]⟩,
   ⟨107590001, 3, [2, 2, 2, 2, 5, 5, 5, 5, 7, 29, 53]⟩,
   ⟨255515944373312847190720520512484175977, 3, [2, 2, 2, 7, 7, 11, 1627, 2657, 4423, 41201,
     96557, 7240687, 107590001]⟩,
   ⟨205115282021455665897114700593932402728804164701536103180137503955397371, 10, [2, 3, 5, 29,
     29, 31, 7723, 132896956044521568488119, 255515944373312847190720520512484175977]⟩,
   ⟨p, 3, [2, 3, 7, 13441,
     205115282021455665897114700593932402728804164701536103180137503955397371]⟩,
   ⟨85831, 3, [2, 3, 5, 2861]⟩,
   ⟨4681609, 23, [2, 2, 2, 3, 97, 2011]⟩,
   ⟨107361793816595537, 3, [2, 2, 2, 2, 16699, 85831, 4681609]⟩,
   ⟨120233, 3, [2, 2, 2, 7, 19, 113]⟩,
   ⟨44706919, 6, [2, 3, 797, 9349]⟩,
   ⟨174723607534414371449, 3, [2, 2, 2, 17, 59, 4051, 120233, 44706919]⟩,
   ⟨305873, 3, [2, 2, 2, 2, 7, 2731]⟩,
   ⟨545358713, 5, [2, 2, 2, 41, 59, 28181]⟩,
   ⟨1627771, 3, [2, 3, 5, 29, 1871]⟩,
   ⟨297159362677, 2, [2, 2, 3, 3, 11, 461, 1627771]⟩,
   ⟨29047611873442575647497758179, 2, [2, 293, 305873, 545358713, 297159362677]⟩,
   ⟨341948486974166000522343609283189, 2, [2, 2, 3, 3, 3, 109, 29047611873442575647497758179]⟩,
   ⟨n, 7, [2, 2, 2, 2, 2, 2, 3, 149, 631, 107361793816595537, 174723607534414371449,
     341948486974166000522343609283189]⟩]

theorem certificate_ok : Primality.certOk 256 smallPrimes certificate = true := by decide +kernel

theorem prime_of_smallPrimes : ∀ q ∈ smallPrimes, q.Prime := by
  simp only [smallPrimes, List.forall_mem_cons, List.not_mem_nil, false_implies, implies_true,
    and_true]
  norm_num

theorem prime_of_certificate {q : ℕ} (h : q ∈ certificate.map (·.p)) : q.Prime := by
  obtain ⟨t, ht, rfl⟩ := List.mem_map.1 h
  exact Primality.prime_of_certOk prime_of_smallPrimes certificate_ok t ht

theorem prime_p : p.Prime := prime_of_certificate (by simp [certificate])

theorem prime_n : n.Prime := prime_of_certificate (by simp [certificate])

instance : Fact p.Prime := ⟨prime_p⟩
instance : Fact n.Prime := ⟨prime_n⟩

/-! ## The group -/

/-- The base field. -/
abbrev Fp : Type := ZMod p

/-- The curve `y² = x³ + 7`. -/
abbrev E : Affine Fp := short 7

theorem natCast_ne_zero {k : ℕ} (h0 : 0 < k) (hk : k < p) : (k : Fp) ≠ 0 := by
  rw [Ne, ZMod.natCast_eq_zero_iff]
  exact Nat.not_dvd_of_pos_of_lt h0 hk

theorem two_ne_zero : (2 : Fp) ≠ 0 := by
  exact_mod_cast natCast_ne_zero (k := 2) (by decide) (by decide)

theorem Δ_ne_zero : E.Δ ≠ 0 := by
  have h : E.Δ = -((21168 : ℕ) : Fp) := by
    simp only [WeierstrassCurve.Δ, WeierstrassCurve.b₂, WeierstrassCurve.b₄, WeierstrassCurve.b₆,
      WeierstrassCurve.b₈]
    norm_num
  rw [h]
  exact neg_ne_zero.2 (natCast_ne_zero (by decide) (by decide))

theorem equation_G : ((Gy : ℕ) : Fp) ^ 2 = (Gx : Fp) ^ 3 + 7 := by
  have h : ((Gy ^ 2 : ℕ) : Fp) = ((Gx ^ 3 + 7 : ℕ) : Fp) :=
    (ZMod.natCast_eq_natCast_iff' _ _ _).2 (by decide +kernel)
  exact_mod_cast h

/-- The generator. -/
def G : E.Point :=
  .some (Gx : Fp) (Gy : Fp)
    ((equation_iff_nonsingular_of_Δ_ne_zero Δ_ne_zero).1 (equation_short.2 equation_G))

theorem G_isAt : IsAt G (Gx : Fp) (Gy : Fp) := ⟨_, rfl⟩

/-- The bits of `n - 1` below the leading one, most significant first. -/
def orderBits : List Bool := (List.range 255).reverse.map fun i => (n - 1).testBit i

/-- `(n - 1) • G`, as double-and-add computes it, is `-G`. -/
def orderCheck : Bool :=
  match multiple p Gx Gy orderBits ⟨Gx, Gy, 1⟩ with
  | none => false
  | some R => R.Z % p ≠ 0 && (R.X - Gx * R.Z ^ 2) % p = 0 && (R.Y + Gy * R.Z ^ 3) % p = 0

theorem orderCheck_ok : orderCheck = true := by decide +kernel

theorem bitsVal_orderBits : bitsVal orderBits 1 = n - 1 := by decide +kernel

theorem pred_nsmul_G : (n - 1) • G = -G := by
  have hG : IsAt G ((Gx : ℤ) : Fp) ((Gy : ℤ) : Fp) := by exact_mod_cast G_isAt
  have hrep : (⟨Gx, Gy, 1⟩ : Jac).Rep (1 • G) := by
    refine ⟨by simp, ?_⟩
    simpa using G_isAt
  have hok := orderCheck_ok
  unfold orderCheck at hok
  split at hok
  · cases hok
  · rename_i R hR
    simp only [ne_eq, decide_not, Bool.and_eq_true, Bool.not_eq_true', decide_eq_false_iff_not,
      decide_eq_true_eq, intCast_emod_eq_zero] at hok
    obtain ⟨⟨hZ, hX⟩, hY⟩ := hok
    push_cast at hX hY
    obtain ⟨-, hat⟩ := multiple_rep two_ne_zero hG orderBits hrep hR
    rw [bitsVal_orderBits] at hat
    have hx : (R.X : Fp) / R.Z ^ 2 = Gx := by
      rw [div_eq_iff (pow_ne_zero 2 hZ)]; linear_combination hX
    have hy : (R.Y : Fp) / R.Z ^ 3 = -Gy := by
      rw [div_eq_iff (pow_ne_zero 3 hZ)]; linear_combination hY
    rw [hx, hy] at hat
    exact hat.ext G_isAt.neg

theorem n_nsmul_G : n • G = 0 := by
  have h : n - 1 + 1 = n := Nat.sub_add_cancel prime_n.one_lt.le
  rw [← h, succ_nsmul, pred_nsmul_G, neg_add_cancel]

theorem addOrderOf_G : addOrderOf G = n := addOrderOf_eq_prime n_nsmul_G G_isAt.ne_zero

/-- `-7` is not a cube, by its power `(p - 1) / 3`. -/
theorem cube_ne (x : Fp) : x ^ 3 + 7 ≠ 0 := by
  intro h
  have hx : x ^ 3 = ((p - 7 : ℕ) : Fp) := by
    rw [Nat.cast_sub (by decide), ZMod.natCast_self]
    push_cast
    linear_combination h
  have hx0 : x ≠ 0 := by
    rintro rfl
    exact natCast_ne_zero (k := 7) (by decide) (by decide) (by push_cast; linear_combination h)
  have hpow : ((p - 7 : ℕ) : Fp) ^ ((p - 1) / 3) = 1 := by
    rw [← hx, ← pow_mul, show 3 * ((p - 1) / 3) = p - 1 by decide, ZMod.pow_card_sub_one_eq_one hx0]
  rw [Primality.zmod_pow_eq_one prime_p.one_lt,
    ← Primality.powMod_eq p 256 _ _ (by decide)] at hpow
  exact absurd hpow (by decide +kernel)

/-- On the curve no ordinate is zero: there is no point of order two. -/
theorem ne_zero_of_sq_eq {x y : Fp} (h : y ^ 2 = x ^ 3 + 7) : y ≠ 0 := by
  rintro rfl
  refine cube_ne x ?_
  rw [← h, zero_pow Nat.two_pos.ne']

theorem card_point : Nat.card E.Point = n :=
  card_point_of_order addOrderOf_G (by rw [ZMod.card]; decide) two_ne_zero cube_ne

/-- **Every point is a multiple of the generator.** -/
theorem exists_nsmul_G (P : E.Point) : ∃ k < n, k • G = P :=
  exists_nsmul_of_card addOrderOf_G card_point P

theorem n_nsmul (P : E.Point) : n • P = 0 := by
  obtain ⟨k, -, rfl⟩ := exists_nsmul_G P
  rw [nsmul_left_comm, n_nsmul_G, nsmul_zero]

/-- A nonzero point has order `n`. -/
theorem addOrderOf_point {P : E.Point} (hP : P ≠ 0) : addOrderOf P = n :=
  addOrderOf_eq_prime (n_nsmul P) hP

theorem nsmul_eq_nsmul_iff {P : E.Point} (hP : P ≠ 0) {j k : ℕ} :
    j • P = k • P ↔ j ≡ k [MOD n] := by
  rw [nsmul_eq_nsmul_iff_modEq, addOrderOf_point hP]

theorem nsmul_ne_zero {P : E.Point} (hP : P ≠ 0) {k : ℕ} (h0 : 0 < k) (hk : k < n) :
    k • P ≠ 0 := by
  rw [Ne, ← addOrderOf_dvd_iff_nsmul_eq_zero, addOrderOf_point hP]
  exact Nat.not_dvd_of_pos_of_lt h0 hk

end CotMta.Secp256k1
