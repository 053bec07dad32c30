/-
  Primality certificates.

  Lucas's test proves `p` prime from a witness `a` of order `p - 1` modulo `p`,
  given the prime factors of `p - 1`.  A certificate lists such tests, each
  using the primes established before it; `certOk` runs it, with modular
  powers by repeated squaring so that the kernel can evaluate a test of a
  256-bit prime, and `prime_of_certOk` is its soundness.
-/
import Mathlib.NumberTheory.LucasPrimality
import Mathlib.Data.List.Prime
import Mathlib.Tactic.NormNum.Prime
import Mathlib.Tactic.IntervalCases
import Mathlib.NumberTheory.PrimeCounting

namespace CotMta.Primality

/-- `a ^ e % m` by repeated squaring; `fuel` bounds the bits of `e`. -/
def powMod (m : ℕ) : (fuel a e : ℕ) → ℕ
  | 0, _, _ => 1 % m
  | fuel + 1, a, e =>
    if e % 2 = 1 then powMod m fuel (a * a % m) (e / 2) * a % m
    else powMod m fuel (a * a % m) (e / 2)

theorem powMod_eq (m : ℕ) : ∀ (fuel a e : ℕ), e < 2 ^ fuel → powMod m fuel a e = a ^ e % m
  | 0, a, e, h => by
    obtain rfl : e = 0 := by simpa using h
    rfl
  | fuel + 1, a, e, h => by
    have ih := powMod_eq m fuel (a * a % m) (e / 2) (by rw [pow_succ] at h; omega)
    have hsq : (a * a % m) ^ (e / 2) % m = a ^ (2 * (e / 2)) % m := by
      rw [← Nat.pow_mod, ← sq, ← pow_mul]
    unfold powMod
    split_ifs with hodd
    · have he : e = 2 * (e / 2) + 1 := by omega
      rw [ih, hsq, Nat.mod_mul_mod, ← pow_succ, ← he]
    · have he : e = 2 * (e / 2) := by omega
      rw [ih, hsq, ← he]

/-- One test of a certificate: the number, the witness, and the prime factors
    of the number minus one, with multiplicity. -/
structure Test where
  p : ℕ
  a : ℕ
  factors : List ℕ

/-- Lucas's test over the primes `known`; exponents have at most `bits` bits. -/
def Test.ok (bits : ℕ) (known : List ℕ) (t : Test) : Bool :=
  decide (1 < t.p) && decide (t.p < 2 ^ bits) && decide (t.factors.prod = t.p - 1) &&
    decide (powMod t.p bits t.a (t.p - 1) = 1) &&
    t.factors.all fun q => decide (q ∈ known) && decide (powMod t.p bits t.a ((t.p - 1) / q) ≠ 1)

/-- A certificate passes if each of its tests does, given the primes `known`
    and those of the tests before it. -/
def certOk (bits : ℕ) : (known : List ℕ) → List Test → Bool
  | _, [] => true
  | known, t :: ts => t.ok bits known && certOk bits (t.p :: known) ts

theorem zmod_pow_eq_one {p : ℕ} (hp : 1 < p) (a e : ℕ) : (a : ZMod p) ^ e = 1 ↔ a ^ e % p = 1 := by
  rw [← Nat.cast_pow, ← Nat.cast_one, ZMod.natCast_eq_natCast_iff', Nat.mod_eq_of_lt hp]

theorem Test.prime_of_ok {bits : ℕ} {known : List ℕ} {t : Test} (hk : ∀ q ∈ known, q.Prime)
    (h : t.ok bits known = true) : t.p.Prime := by
  simp only [Test.ok, Bool.and_eq_true, decide_eq_true_eq, List.all_eq_true] at h
  obtain ⟨⟨⟨⟨h1, hb⟩, hprod⟩, hone⟩, hall⟩ := h
  have hfuel : ∀ e, e ≤ t.p - 1 → e < 2 ^ bits := fun e he => by omega
  refine lucas_primality t.p (t.a : ZMod t.p) ?_ fun q hq hdvd => ?_
  · rw [zmod_pow_eq_one h1, ← powMod_eq _ _ _ _ (hfuel _ le_rfl), hone]
  · rw [← hprod] at hdvd
    obtain ⟨r, hr, hqr⟩ := (Prime.dvd_prod_iff hq.prime).1 hdvd
    obtain ⟨hrk, hne⟩ := hall r hr
    obtain rfl := (Nat.prime_dvd_prime_iff_eq hq (hk r hrk)).1 hqr
    rwa [ne_eq, zmod_pow_eq_one h1, ← powMod_eq _ _ _ _ (hfuel _ (Nat.div_le_self _ _))]

/-- **Every number of a passing certificate is prime.** -/
theorem prime_of_certOk {bits : ℕ} : ∀ {known : List ℕ} {ts : List Test},
    (∀ q ∈ known, q.Prime) → certOk bits known ts = true → ∀ t ∈ ts, t.p.Prime
  | _, [], _, _, t, ht => by simp at ht
  | known, t :: ts, hk, h, t', ht' => by
    simp only [certOk, Bool.and_eq_true] at h
    have hp := Test.prime_of_ok hk h.1
    have hk' : ∀ q ∈ t.p :: known, q.Prime := by
      intro q hq
      rcases List.mem_cons.1 hq with rfl | hq
      exacts [hp, hk q hq]
    rcases List.mem_cons.1 ht' with rfl | ht'
    · exact hp
    · exact prime_of_certOk hk' h.2 t' ht'

/-! ## The first primes -/

/-- Trial division, for numbers below `18 ^ 2`. -/
def trialDivision (q : ℕ) : Bool :=
  2 ≤ q && [2, 3, 5, 7, 11, 13, 17].all fun d => q == d || q % d != 0

theorem trialDivision_eq {q : ℕ} (hq : q < 18 ^ 2) : trialDivision q = decide q.Prime := by
  rw [Bool.eq_iff_iff, decide_eq_true_eq]
  simp only [trialDivision, Bool.and_eq_true, decide_eq_true_eq, List.all_eq_true,
    Bool.or_eq_true, beq_iff_eq, bne_iff_ne]
  constructor
  · rintro ⟨h2, hd⟩
    by_contra hp
    have hmin := Nat.minFac_prime (show q ≠ 1 by omega)
    have hlt : q.minFac < 18 := lt_of_pow_lt_pow_left₀ 2 (by norm_num)
      ((Nat.minFac_sq_le_self (by omega) hp).trans_lt hq)
    have hmem : q.minFac ∈ [2, 3, 5, 7, 11, 13, 17] := by
      generalize q.minFac = d at hmin hlt
      interval_cases d <;> first | decide | (exfalso; revert hmin; norm_num)
    rcases hd _ hmem with h | h
    · exact hp (h ▸ hmin)
    · exact h (Nat.mod_eq_zero_of_dvd q.minFac_dvd)
  · intro hp
    refine ⟨hp.two_le, fun d hd => or_iff_not_imp_left.2 fun hne hmod => ?_⟩
    rcases hp.eq_one_or_self_of_dvd d (Nat.dvd_of_mod_eq_zero hmod) with rfl | h
    · revert hd
      decide
    · exact hne h.symm

/-- A list of all numbers below a bound with a property has them in order. -/
theorem nth_filter_range {p : ℕ → Prop} [DecidablePred p] : ∀ {n i : ℕ},
    i < ((List.range n).filter p).length → Nat.nth p i = ((List.range n).filter p).getD i 0
  | 0, i, hi => absurd hi (Nat.not_lt_zero i)
  | n + 1, i, hi => by
    have hcount : ((List.range n).filter p).length = Nat.count p n := by
      rw [Nat.count_eq_card_filter_range]
      rfl
    rw [List.range_succ, List.filter_append] at hi ⊢
    rcases Nat.lt_or_ge i ((List.range n).filter p).length with hlt | hge
    · rw [List.getD_append _ _ _ _ hlt, nth_filter_range hlt]
    · by_cases hp : p n
      · have hsingle : [n].filter (p ·) = [n] := by simp [hp]
        rw [hsingle, List.length_append, List.length_singleton] at hi
        have hi' : i = Nat.count p n := by omega
        rw [hsingle, List.getD_append_right _ _ _ _ hge, hi', hcount, Nat.nth_count hp,
          Nat.sub_self]
        rfl
      · have hnil : [n].filter (p ·) = [] := by simp [hp]
        rw [hnil, List.append_nil] at hi
        exact absurd hi (not_lt.2 hge)

/-- The primes below 312. -/
def firstPrimes : List ℕ := (List.range 312).filter trialDivision

theorem nth_prime {i : ℕ} (hi : i < 64) : Nat.nth Nat.Prime i = firstPrimes.getD i 0 := by
  have hfilter : firstPrimes = (List.range 312).filter Nat.Prime :=
    List.filter_congr fun q hq =>
      trialDivision_eq ((List.mem_range.1 hq).trans (show 312 < 18 ^ 2 by norm_num))
  have hlen : firstPrimes.length = 64 := by decide +kernel
  rw [hfilter] at hlen ⊢
  exact nth_filter_range (hi.trans_eq hlen.symm)

end CotMta.Primality
