/-
  Numbers as lists of limbs, least significant first, and the carry loop of
  limb arithmetic.

  `limbs B k v` are the first `k` digits of `v` to the base `B`, `value B l` the
  number a list of (possibly negative, possibly too large) entries stands for.
  `ripple s wrap t es` adds the entries up with a running accumulator: each step
  stores the low `s` bits and shifts them out.  `wrap` says how the accumulator
  is stored; `ripple_fst` needs it to be faithful on the values that occur and
  then gives the exact digits of the sum.
-/
import Mathlib.Data.Nat.Digits.Defs
import Mathlib.Data.Nat.Bitwise
import Mathlib.Tactic.Ring
import Mathlib.Tactic.Linarith

namespace CotMta.Limbs

/-! ## Digits -/

/-- The first `k` digits of `v` to the base `B`. -/
def limbs (B : ℕ) : ℕ → ℕ → List ℕ
  | 0, _ => []
  | k + 1, v => v % B :: limbs B k (v / B)

/-- The number with the given entries. -/
def value (B : ℕ) : List ℕ → ℕ
  | [] => 0
  | a :: l => a + B * value B l

variable {B k v : ℕ} {l : List ℕ}

@[simp] theorem limbs_zero : limbs B 0 v = [] := rfl

@[simp] theorem length_limbs : ∀ {k v : ℕ}, (limbs B k v).length = k
  | 0, _ => rfl
  | _ + 1, _ => congrArg (· + 1) length_limbs

theorem value_limbs : ∀ {k v : ℕ}, value B (limbs B k v) = v % B ^ k
  | 0, v => by simp [limbs, value, Nat.mod_one]
  | k + 1, v => by
    simp only [limbs, value, value_limbs]
    rw [pow_succ', Nat.mod_mul]

theorem value_limbs_of_lt (h : v < B ^ k) : value B (limbs B k v) = v := by
  rw [value_limbs, Nat.mod_eq_of_lt h]

theorem lt_of_mem_limbs (hB : 0 < B) : ∀ {k v : ℕ}, ∀ a ∈ limbs B k v, a < B
  | 0, _, _, h => by simp [limbs] at h
  | _ + 1, _, a, h => by
    simp only [limbs, List.mem_cons] at h
    rcases h with rfl | h
    · exact Nat.mod_lt _ hB
    · exact lt_of_mem_limbs hB a h

theorem value_lt (h : ∀ a ∈ l, a < B) : value B l < B ^ l.length := by
  induction l with
  | nil => simp [value]
  | cons a l ih =>
    simp only [List.mem_cons, forall_eq_or_imp] at h
    have hl := ih h.2
    simp only [value, List.length_cons, pow_succ']
    calc a + B * value B l < B * (value B l + 1) := by rw [mul_add, mul_one]; omega
      _ ≤ B * B ^ l.length := Nat.mul_le_mul_left B hl

/-- Digits that are too large make the value only a little larger. -/
theorem value_add_le {t : ℕ} (h : ∀ a ∈ l, a + t ≤ B * t) : value B l + t ≤ B ^ l.length * t := by
  induction l with
  | nil => simp [value]
  | cons a l ih =>
    simp only [List.mem_cons, forall_eq_or_imp] at h
    have hl := ih h.2
    rw [value, List.length_cons, pow_succ']
    calc a + B * value B l + t ≤ B * (value B l + t) := by rw [mul_add]; omega
      _ ≤ B * (B ^ l.length * t) := Nat.mul_le_mul_left B hl
      _ = B * B ^ l.length * t := by ring

/-- A list of digits is determined by its length and its value. -/
theorem limbs_value (h : ∀ a ∈ l, a < B) : limbs B l.length (value B l) = l := by
  induction l with
  | nil => rfl
  | cons a l ih =>
    simp only [List.mem_cons, forall_eq_or_imp] at h
    have hB : 0 < B := by omega
    simp only [List.length_cons, limbs, value]
    rw [Nat.add_mul_mod_self_left, Nat.mod_eq_of_lt h.1, Nat.add_mul_div_left _ _ hB,
      Nat.div_eq_of_lt h.1, zero_add, ih h.2]

theorem limbs_injective {w : ℕ} (hv : v < B ^ k) (hw : w < B ^ k)
    (h : limbs B k v = limbs B k w) : v = w := by
  rw [← value_limbs_of_lt hv, ← value_limbs_of_lt hw, h]

/-- Digit `i` of `v`. -/
theorem getD_limbs : ∀ {k v i : ℕ}, i < k → (limbs B k v).getD i 0 = v / B ^ i % B
  | 0, _, _, h => absurd h (Nat.not_lt_zero _)
  | k + 1, v, 0, _ => by simp [limbs]
  | k + 1, v, i + 1, h => by
    simp only [limbs, List.getD_cons_succ]
    rw [getD_limbs (Nat.lt_of_succ_lt_succ h), pow_succ', Nat.div_div_eq_div_mul]

theorem map_getD_range : (List.range l.length).map (l.getD · 0) = l := by
  refine List.ext_getElem (by simp) fun i _ hi => ?_
  simp [List.getElem?_eq_getElem hi]

theorem limbs_mod (hB : 0 < B) : ∀ {k v : ℕ}, limbs B k (v % B ^ k) = limbs B k v
  | 0, _ => rfl
  | k + 1, v => by
    simp only [limbs]
    rw [pow_succ', Nat.mod_mul_right_mod, Nat.mod_mul_right_div_self, limbs_mod hB]

theorem limbs_congr (hB : 0 < B) {w : ℕ} (h : v % B ^ k = w % B ^ k) :
    limbs B k v = limbs B k w := by
  rw [← limbs_mod hB, h, limbs_mod hB]

theorem limbs_add {j : ℕ} : ∀ {k v : ℕ}, limbs B (k + j) v = limbs B k v ++ limbs B j (v / B ^ k)
  | 0, v => by simp
  | k + 1, v => by
    rw [Nat.add_right_comm]
    simp only [limbs, List.cons_append]
    rw [limbs_add, Nat.div_div_eq_div_mul, ← pow_succ']

theorem take_limbs {j : ℕ} : (limbs B (k + j) v).take k = limbs B k v := by
  rw [limbs_add, List.take_left' length_limbs]

theorem drop_limbs {j : ℕ} : (limbs B (k + j) v).drop k = limbs B j (v / B ^ k) := by
  rw [limbs_add, List.drop_left' length_limbs]

/-- Setting low bits that are clear is adding them. -/
theorem or_eq_add {a b k : ℕ} (h : b < 2 ^ k) : 2 ^ k * a ||| b = 2 ^ k * a + b :=
  (Nat.two_pow_add_eq_or_of_lt h a).symm

/-! ## Sums of signed entries -/

/-- The number that signed entries stand for. -/
def valueZ (B : ℕ) : List ℤ → ℤ
  | [] => 0
  | e :: es => e + B * valueZ B es

@[simp] theorem valueZ_nil : valueZ B [] = 0 := rfl

@[simp] theorem valueZ_cons {e : ℤ} {es : List ℤ} :
    valueZ B (e :: es) = e + B * valueZ B es := rfl

theorem valueZ_nonneg {es : List ℤ} (h : ∀ e ∈ es, 0 ≤ e) : 0 ≤ valueZ B es := by
  induction es with
  | nil => exact le_rfl
  | cons e es ih =>
    simp only [List.mem_cons, forall_eq_or_imp] at h
    have := mul_nonneg (Int.natCast_nonneg B) (ih h.2)
    simp only [valueZ_cons]
    linarith [h.1]

@[simp] theorem valueZ_natCast : valueZ B (l.map (fun a : ℕ => (a : ℤ))) = value B l := by
  induction l with
  | nil => rfl
  | cons a l ih => simp [value, ih]

theorem valueZ_limbs (h : v < B ^ k) :
    valueZ B ((List.range k).map fun i => (((limbs B k v).getD i 0 : ℕ) : ℤ)) = v := by
  have hl := map_getD_range (l := limbs B k v)
  rw [length_limbs] at hl
  conv_rhs => rw [← value_limbs_of_lt h, ← valueZ_natCast, ← hl, List.map_map]
  rfl

section
variable {ι : Type*} {is : List ι} {f g : ι → ℤ}

theorem valueZ_map_add :
    valueZ B (is.map fun i => f i + g i) = valueZ B (is.map f) + valueZ B (is.map g) := by
  induction is with
  | nil => rfl
  | cons i is ih => simp only [List.map_cons, valueZ_cons, ih]; ring

theorem valueZ_map_sub :
    valueZ B (is.map fun i => f i - g i) = valueZ B (is.map f) - valueZ B (is.map g) := by
  induction is with
  | nil => rfl
  | cons i is ih => simp only [List.map_cons, valueZ_cons, ih]; ring

theorem valueZ_map_mul_right {c : ℤ} :
    valueZ B (is.map fun i => f i * c) = valueZ B (is.map f) * c := by
  induction is with
  | nil => simp
  | cons i is ih => simp only [List.map_cons, valueZ_cons, ih]; ring

theorem valueZ_map_mul_left {c : ℤ} :
    valueZ B (is.map fun i => c * f i) = c * valueZ B (is.map f) := by
  simp only [mul_comm c, valueZ_map_mul_right]

end

/-! ## The carry loop -/

/-- Add up the entries, storing `s` bits at each position; the list of digits
    and the remaining carry. -/
def ripple (s : ℕ) (wrap : ℤ → ℕ) : ℕ → List ℤ → List ℕ × ℕ
  | t, [] => ([], t)
  | t, e :: es =>
    let t := wrap (t + e)
    let r := ripple s wrap (t >>> s) es
    ((t &&& (2 ^ s - 1)) :: r.1, r.2)

theorem length_ripple {s : ℕ} {wrap : ℤ → ℕ} : ∀ {t : ℕ} {es : List ℤ},
    (ripple s wrap t es).1.length = es.length
  | _, [] => rfl
  | _, _ :: _ => congrArg (· + 1) length_ripple

theorem ripple_append {s : ℕ} {wrap : ℤ → ℕ} {fs : List ℤ} : ∀ {t : ℕ} {es : List ℤ},
    ripple s wrap t (es ++ fs) = ((ripple s wrap t es).1 ++ (ripple s wrap (ripple s wrap t es).2 fs).1,
      (ripple s wrap (ripple s wrap t es).2 fs).2)
  | _, [] => rfl
  | _, _ :: _ => by
    simp only [List.cons_append, ripple, ripple_append]

/-- `ripple` computes the digits of the exact sum: no step of the accumulator
    leaves the range on which `wrap` is the identity. -/
theorem ripple_eq {s w : ℕ} (hsw : s ≤ w) {wrap : ℤ → ℕ}
    (hwrap : ∀ e : ℤ, 0 ≤ e → e < 2 ^ w → (wrap e : ℤ) = e) :
    ∀ {t : ℕ} {es : List ℤ}, t < 2 ^ (w - s) →
      (∀ e ∈ es, 0 ≤ e ∧ e ≤ 2 ^ w - 2 ^ (w - s)) →
      ripple s wrap t es =
        (limbs (2 ^ s) es.length (t + valueZ (2 ^ s) es).toNat,
          (t + valueZ (2 ^ s) es).toNat / (2 ^ s) ^ es.length)
  | t, [], _, _ => by simp [ripple]
  | t, e :: es, ht, hes => by
    simp only [List.mem_cons, forall_eq_or_imp] at hes
    obtain ⟨⟨he, he'⟩, hes⟩ := hes
    have hpow : (2 : ℤ) ^ w = 2 ^ (w - s) * 2 ^ s := by rw [← pow_add, Nat.sub_add_cancel hsw]
    have htz : (t : ℤ) < 2 ^ (w - s) := by exact_mod_cast ht
    have ht' : ((wrap (t + e) : ℕ) : ℤ) = t + e := hwrap _ (by omega) (by omega)
    have hc : wrap (t + e) >>> s < 2 ^ (w - s) := by
      rw [Nat.shiftRight_eq_div_pow, Nat.div_lt_iff_lt_mul (by positivity)]
      have : ((wrap (t + e) : ℕ) : ℤ) < 2 ^ (w - s) * 2 ^ s := by rw [ht', ← hpow]; omega
      exact_mod_cast this
    obtain ⟨V, hV⟩ := Int.eq_ofNat_of_zero_le (valueZ_nonneg (B := 2 ^ s) fun e he => (hes e he).1)
    -- the accumulator and the entries still to come add up to the whole sum
    have hsum : ((t : ℤ) + valueZ (2 ^ s) (e :: es)).toNat = wrap (t + e) + 2 ^ s * V := by
      generalize wrap (t + e) = u at ht' ⊢
      rw [valueZ_cons, ← add_assoc, ← ht', hV, ← Int.natCast_mul, ← Int.natCast_add,
        Int.toNat_natCast]
    have htail : (((wrap (t + e) >>> s : ℕ) : ℤ) + valueZ (2 ^ s) es).toNat =
        wrap (t + e) / 2 ^ s + V := by
      rw [Nat.shiftRight_eq_div_pow, hV, ← Int.natCast_add, Int.toNat_natCast]
    have h2 : 0 < 2 ^ s := by positivity
    simp only [ripple, ripple_eq hsw hwrap hc hes, htail, hsum, List.length_cons, limbs]
    rw [Nat.and_two_pow_sub_one_eq_mod, Nat.add_mul_mod_self_left, Nat.add_mul_div_left _ _ h2,
      pow_succ', ← Nat.div_div_eq_div_mul, Nat.add_mul_div_left _ _ h2]

/-- What is left over after any number of steps. -/
theorem ripple_snd_lt {s w : ℕ} (hsw : s ≤ w) {wrap : ℤ → ℕ}
    (hwrap : ∀ e : ℤ, 0 ≤ e → e < 2 ^ w → (wrap e : ℤ) = e) :
    ∀ {t : ℕ} {es : List ℤ}, t < 2 ^ (w - s) →
      (∀ e ∈ es, 0 ≤ e ∧ e ≤ 2 ^ w - 2 ^ (w - s)) → (ripple s wrap t es).2 < 2 ^ (w - s)
  | _, [], ht, _ => ht
  | t, e :: es, ht, hes => by
    simp only [List.forall_mem_cons] at hes
    obtain ⟨⟨he, he'⟩, hes⟩ := hes
    have htz : (t : ℤ) < 2 ^ (w - s) := by exact_mod_cast ht
    have hu : ((wrap (t + e) : ℕ) : ℤ) = t + e := hwrap _ (by omega) (by omega)
    have hlt : wrap (t + e) < 2 ^ (w - s) * 2 ^ s := by
      rw [← pow_add, Nat.sub_add_cancel hsw]
      have : ((wrap (t + e) : ℕ) : ℤ) < 2 ^ w := by omega
      exact_mod_cast this
    have hc : wrap (t + e) >>> s < 2 ^ (w - s) := by
      rwa [Nat.shiftRight_eq_div_pow, Nat.div_lt_iff_lt_mul (by positivity)]
    simp only [ripple]
    exact ripple_snd_lt hsw hwrap hc hes

end CotMta.Limbs
