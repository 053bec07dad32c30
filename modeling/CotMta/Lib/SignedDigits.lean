/-
  Odd signed digits.

  Every digit of an odd number to an even base `B` can be made odd: where it is
  even it takes one more, and the digit below pays `B` for it.  `lead B a i` is
  what stands at position `i` and above afterwards; the digit itself is
  `sign B a i * (2 * index B a i + 1)`, read off the number's own digits, so
  that a program that multiplies by it needs a table of `B / 2` odd multiples
  and no zero digit.

  `upper` adds the digits up from the top, `lower` from the bottom; neither is
  ever zero on the way.
-/
import Mathlib.Tactic.Ring
import Mathlib.Tactic.Linarith
import Mathlib.Algebra.Ring.Int.Parity

namespace CotMta.SignedDigits

/-- The number from position `i` on, made odd. -/
def lead (B a i : ℕ) : ℕ := 2 * (a / B ^ i / 2) + 1

/-- The sign of digit `i`: the parity of what stands above it. -/
def sign (B a i : ℕ) : ℤ := if a / B ^ (i + 1) % 2 = 1 then 1 else -1

/-- Digit `i` is `2 * index + 1` in absolute value. -/
def index (B a i : ℕ) : ℕ :=
  (if a / B ^ (i + 1) % 2 = 1 then a / B ^ i % B else B - 1 - a / B ^ i % B) / 2

/-- The digits from `i` on, below position `m`. -/
def upper (B m a i : ℕ) : ℤ := lead B a i - (B : ℤ) ^ (m - i)

/-- The digits below position `i`. -/
def lower (B a i : ℕ) : ℤ := lead B a 0 - (B : ℤ) ^ i * lead B a i

variable {B a i m : ℕ}

theorem sign_eq : sign B a i = 1 ∨ sign B a i = -1 := by
  unfold sign
  split
  · exact Or.inl rfl
  · exact Or.inr rfl

@[simp] theorem sign_mul_sign : sign B a i * sign B a i = 1 := by
  rcases sign_eq (B := B) (a := a) (i := i) with h | h <;> rw [h] <;> rfl

@[simp] theorem abs_sign : |sign B a i| = 1 := by
  rcases sign_eq (B := B) (a := a) (i := i) with h | h <;> rw [h] <;> rfl

theorem index_lt (hB : Even B) (h0 : 0 < B) : index B a i < B / 2 := by
  obtain ⟨b, rfl⟩ := hB
  have he := Nat.mod_lt (a / (b + b) ^ i) h0
  unfold index
  split <;> omega

/-- **One digit.** -/
theorem lead_eq (hB : Even B) (h0 : 0 < B) :
    (lead B a i : ℤ) = B * lead B a (i + 1) + sign B a i * (2 * index B a i + 1) := by
  obtain ⟨b, rfl⟩ := hB
  have hdiv : a / (b + b) ^ (i + 1) = a / (b + b) ^ i / (b + b) := by
    rw [pow_succ, Nat.div_div_eq_div_mul]
  simp only [lead, sign, index, hdiv]
  generalize a / (b + b) ^ i = q
  have he := Nat.mod_lt q h0
  have hq := Nat.div_add_mod q (b + b)
  generalize q / (b + b) = t at hq ⊢
  generalize q % (b + b) = e at he hq ⊢
  -- the halves: `q / 2 = b * t + e / 2`, and `t` is odd or even
  have hhalf : q / 2 = b * t + e / 2 := by
    rw [← hq, ← two_mul, mul_assoc]
    omega
  rw [hhalf]
  have ht : t = 2 * (t / 2) + t % 2 := by omega
  generalize t / 2 = u at ht ⊢
  rcases Nat.mod_two_eq_zero_or_one t with h | h <;> rw [h] at ht ⊢ <;> subst ht
  · rw [if_neg Nat.zero_ne_one, if_neg Nat.zero_ne_one]
    have hneg : (e / 2 : ℕ) + ((b + b - 1 - e) / 2 : ℕ) + 1 = b := by omega
    generalize (b + b - 1 - e) / 2 = v at hneg ⊢
    generalize e / 2 = w at hneg ⊢
    subst hneg
    push_cast
    ring
  · rw [if_pos rfl, if_pos rfl]
    push_cast
    ring

theorem lead_of_lt (h : a < 2 * B ^ m) : lead B a m = 1 := by
  have : a / B ^ m < 2 := Nat.div_lt_of_lt_mul (by rwa [mul_comm])
  unfold lead
  omega

theorem lead_zero (h : a % 2 = 1) : lead B a 0 = a := by
  rw [lead, pow_zero, Nat.div_one]
  omega

/-! ## From the top -/

theorem upper_self (h : a < 2 * B ^ m) : upper B m a m = 0 := by
  rw [upper, lead_of_lt h, Nat.sub_self, pow_zero]
  rfl

theorem upper_zero (h : a % 2 = 1) : upper B m a 0 = a - (B : ℤ) ^ m := by
  rw [upper, lead_zero h, Nat.sub_zero]

/-- Horner's step. -/
theorem upper_eq (hB : Even B) (h0 : 0 < B) (hi : i < m) :
    upper B m a i = B * upper B m a (i + 1) + sign B a i * (2 * index B a i + 1) := by
  obtain ⟨j, rfl⟩ := Nat.exists_eq_add_of_lt hi
  have h1 : i + j + 1 - i = j + 1 := by omega
  have h2 : i + j + 1 - (i + 1) = j := by omega
  rw [upper, upper, lead_eq hB h0, h1, h2, pow_succ]
  ring

theorem sign_mul_upper (hB : Even B) (h0 : 0 < B) (hi : i < m) :
    sign B a i * upper B m a i =
      2 * index B a i + 1 + sign B a i * (B * upper B m a (i + 1)) := by
  rw [upper_eq hB h0 hi, mul_add, ← mul_assoc (sign B a i) (sign B a i), sign_mul_sign, one_mul,
    add_comm]

theorem upper_abs_lt (h0 : 0 < B) (h : a < 2 * B ^ m) (hi : i ≤ m) :
    |upper B m a i| < (B : ℤ) ^ (m - i) := by
  have hlt : a / B ^ i < 2 * B ^ (m - i) := by
    refine Nat.div_lt_of_lt_mul ?_
    rwa [mul_left_comm, ← pow_add, Nat.add_sub_cancel' hi]
  have hpos : 0 < B ^ (m - i) := Nat.pow_pos h0
  have hcast : ((B ^ (m - i) : ℕ) : ℤ) = (B : ℤ) ^ (m - i) := Nat.cast_pow _ _
  rw [upper, lead, abs_lt, ← hcast]
  omega

theorem upper_odd (hB : Even B) (hi : i < m) : Odd (upper B m a i) := by
  have hpow : Even ((B : ℤ) ^ (m - i)) :=
    ((Int.even_coe_nat B).2 hB).pow_of_ne_zero (Nat.sub_pos_of_lt hi).ne'
  refine Odd.sub_even ?_ hpow
  rw [lead]
  exact ⟨(a / B ^ i / 2 : ℕ), by push_cast; ring⟩

/-! ## From the bottom -/

theorem lower_zero : lower B a 0 = 0 := by
  rw [lower, pow_zero, one_mul, sub_self]

theorem lower_top (hodd : a % 2 = 1) (h : a < 2 * B ^ m) : lower B a m = a - (B : ℤ) ^ m := by
  rw [lower, lead_zero hodd, lead_of_lt h, Nat.cast_one, mul_one]

theorem lower_succ (hB : Even B) (h0 : 0 < B) :
    lower B a (i + 1) = lower B a i + (B : ℤ) ^ i * (sign B a i * (2 * index B a i + 1)) := by
  have h := lead_eq (a := a) (i := i) hB h0
  rw [lower, lower, h, pow_succ]
  ring

theorem sign_mul_lower (hB : Even B) (h0 : 0 < B) :
    sign B a i * lower B a (i + 1) =
      (2 * index B a i + 1) * (B : ℤ) ^ i + sign B a i * lower B a i := by
  rw [lower_succ hB h0, mul_add, mul_left_comm, ← mul_assoc (sign B a i) (sign B a i),
    sign_mul_sign, one_mul, add_comm, mul_comm]

theorem lower_abs_lt (h0 : 0 < B) (hodd : a % 2 = 1) (hi : 0 < i) (hB : Even B) :
    |lower B a i| < (B : ℤ) ^ i := by
  have hpos : 0 < B ^ i := Nat.pow_pos h0
  have hmod := Nat.div_add_mod a (B ^ i)
  have hlt := Nat.mod_lt a hpos
  have heven : Even (B ^ i) := hB.pow_of_ne_zero hi.ne'
  have hr : a % B ^ i % 2 = 1 := by
    rw [Nat.mod_mod_of_dvd _ heven.two_dvd, hodd]
  rw [lower, lead_zero hodd, lead, ← Nat.cast_pow]
  generalize B ^ i = K at *
  generalize a / K = t at *
  generalize a % K = r at *
  have ht : t = 2 * (t / 2) + t % 2 := by omega
  generalize t / 2 = u at ht ⊢
  rw [abs_lt]
  rcases Nat.mod_two_eq_zero_or_one t with h | h <;> rw [h] at ht <;> subst ht
  · have hcast : (a : ℤ) - K * ((2 * u + 1 : ℕ) : ℤ) = r - K := by
      rw [← hmod]
      push_cast
      ring
    rw [hcast]
    omega
  · have hcast : (a : ℤ) - K * ((2 * u + 1 : ℕ) : ℤ) = r := by
      rw [← hmod]
      push_cast
      ring
    rw [hcast]
    omega

theorem lower_odd (hB : Even B) (hodd : a % 2 = 1) (hi : 0 < i) : Odd (lower B a i) := by
  have hpow : Even ((B : ℤ) ^ i) := ((Int.even_coe_nat B).2 hB).pow_of_ne_zero hi.ne'
  refine Odd.sub_even ?_ (hpow.mul_right _)
  rw [lead_zero hodd]
  exact (Int.odd_coe_nat a).2 (Nat.odd_iff.2 hodd)

end CotMta.SignedDigits
