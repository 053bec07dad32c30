/-
  The almost inverse of `x` modulo `m`, after Schroeppel.

  Two numbers `u` and `v` start as `m` and `x` and are halved and subtracted
  until they agree; two others, `s` and `r`, grow in turn.  `Almost` is the
  invariant: `s` and `r` are inverses of `x` up to the factors `v 2ᵏ` and
  `-u 2ᵏ`.  The sign `e` makes the two sides interchangeable, so that each step
  is one lemma whichever number it halves or subtracts from.
-/
import Mathlib.Data.ZMod.Basic
import Mathlib.Tactic.LinearCombination
import Mathlib.Tactic.Ring

namespace CotMta

/-- The invariant, for the pairs `(u, s)` and `(v, r)` after `k` halvings. -/
structure Almost (m x : ℕ) (e : ZMod m) (k u s v r : ℕ) : Prop where
  sum : u * s + v * r = m
  left : (x : ZMod m) * s = e * v * 2 ^ k
  right : (x : ZMod m) * r = -(e * u * 2 ^ k)
  coprime : u.Coprime v
  pos_u : 0 < u
  pos_v : 0 < v
  bound : u * v * 2 ^ k ≤ m * x

namespace Almost

variable {m x k u s v r j : ℕ} {e : ZMod m}

theorem start (hm : 0 < m) (hx : 0 < x) (h : m.Coprime x) : Almost m x 1 0 m 1 x 0 where
  sum := by rw [mul_one, mul_zero, add_zero]
  left := by rw [Nat.cast_one, mul_one, one_mul, pow_zero, mul_one]
  right := by rw [Nat.cast_zero, mul_zero, ZMod.natCast_self, mul_zero, zero_mul, neg_zero]
  coprime := h
  pos_u := hm
  pos_v := hx
  bound := by rw [pow_zero, mul_one]

theorem swap (h : Almost m x e k u s v r) : Almost m x (-e) k v r u s where
  sum := by rw [add_comm, h.sum]
  left := by rw [h.right, neg_mul, neg_mul]
  right := by rw [h.left, neg_mul, neg_mul, neg_neg]
  coprime := h.coprime.symm
  pos_u := h.pos_v
  pos_v := h.pos_u
  bound := by
    rw [mul_comm v]
    exact h.bound

/-- Dividing `v` by a power of two. -/
theorem halve (h : Almost m x e k u s (2 ^ j * v) r) : Almost m x e (k + j) u s v (2 ^ j * r) where
  sum := by
    rw [← h.sum]
    ring
  left := by
    rw [h.left]
    push_cast
    ring
  right := by
    have hr := h.right
    push_cast
    rw [pow_add]
    linear_combination 2 ^ j * hr
  coprime := h.coprime.coprime_dvd_right (Dvd.intro_left _ rfl)
  pos_u := h.pos_u
  pos_v := Nat.pos_of_mul_pos_left h.pos_v
  bound := by
    refine le_trans (le_of_eq ?_) h.bound
    ring

/-- Subtracting the smaller number from the larger. -/
theorem subtract (h : Almost m x e k u s v r) (hlt : u < v) :
    Almost m x e k u (s + r) (v - u) r where
  sum := by
    obtain ⟨d, rfl⟩ := Nat.exists_eq_add_of_lt hlt
    rw [← h.sum, add_assoc u d, Nat.add_sub_cancel_left]
    ring
  left := by
    rw [Nat.cast_add, mul_add, h.left, h.right, Nat.cast_sub hlt.le]
    ring
  right := h.right
  coprime := (Nat.coprime_sub_self_right hlt.le).2 h.coprime
  pos_u := h.pos_u
  pos_v := Nat.sub_pos_of_lt hlt
  bound := by
    refine le_trans ?_ h.bound
    exact Nat.mul_le_mul_right _ (Nat.mul_le_mul_left _ (Nat.sub_le v u))

theorem mul_le_left (h : Almost m x e k u s v r) : u * s ≤ m :=
  (Nat.le_add_right _ _).trans_eq h.sum

theorem mul_le_right (h : Almost m x e k u s v r) : v * r ≤ m :=
  (Nat.le_add_left _ _).trans_eq h.sum

/-- The number of halvings. -/
theorem two_pow_le (h : Almost m x e k u s v r) : 2 ^ k ≤ m * x :=
  (Nat.le_mul_of_pos_left _ (Nat.mul_pos h.pos_u h.pos_v)).trans h.bound

/-- Equal numbers are one: the greatest common divisor has not changed. -/
theorem eq_one (h : Almost m x e k u s u r) : u = 1 := (Nat.coprime_self u).1 h.coprime

end Almost

end CotMta
