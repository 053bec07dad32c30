/-
  The table of `scalar_multiply` is right.

  `tableCheck` goes through it without a division: along a row each entry is the
  one before plus twice the first, and a row begins with the sum of the first
  and the last entry of the row before (`16 = 15 + 1`).  The additions are those
  of `Jac`, modulo the prime.
-/
import CotMta.Trezor.MultiplySpec
import CotMta.Trezor.Table

namespace CotMta.Trezor

open Limbs Bignum256 CurvePoint Secp256k1 ShortWeierstrass

variable {i j : ℕ} {P Q : E.Point}

/-- The coordinates of an entry as numbers. -/
def entry (i j : ℕ) : ℕ × ℕ :=
  let words := (cpRows.getD i []).getD j ([], [])
  (value (2 ^ 30) words.1, value (2 ^ 30) words.2)

/-- The affine point `c` is the sum of `D` and the affine point `a`. -/
def chordCheck (D : Jac) (a c : ℕ × ℕ) : Bool :=
  let S := D.addAffine p a.1 a.2
  D.chord p a.1 != 0 && S.Z % p != 0 && (S.X - c.1 * S.Z ^ 2) % p == 0 &&
    (S.Y - c.2 * S.Z ^ 3) % p == 0

/-- The limbs of an entry are normalized and its coordinates reduced. -/
def formatCheck (i j : ℕ) : Bool :=
  let words := (cpRows.getD i []).getD j ([], [])
  words.1.length == 9 && words.2.length == 9 && words.1.all (· < 2 ^ 30) &&
    words.2.all (· < 2 ^ 30) && decide ((entry i j).1 < p) && decide ((entry i j).2 < p)

/-- The point that an entry stands for. -/
def affine (a : ℕ × ℕ) : Jac := ⟨a.1, a.2, 1⟩

/-- Each entry of a row is the one before and twice the first one. -/
def rowCheck (i : ℕ) : Bool :=
  (List.range 7).all fun j => chordCheck ((affine (entry i 0)).double p) (entry i j) (entry i (j + 1))

/-- The first entry is `G`, the rows are right, and each starts with the sum of the
    first and the last entry of the row before. -/
def tableCheck : Bool :=
  entry 0 0 == (Gx, Gy) &&
    (List.range 64).all (fun i => rowCheck i && (List.range 8).all (formatCheck i)) &&
    (List.range 63).all fun i => chordCheck (affine (entry i 0)) (entry i 7) (entry (i + 1) 0)

theorem tableCheck_ok : tableCheck = true := by decide +kernel

theorem affine_rep {a : ℕ × ℕ} (h : IsAt P (a.1 : Fp) a.2) : (affine a).Rep P := by
  refine ⟨by simp [affine], ?_⟩
  simpa [affine] using h

theorem isAt_of_chordCheck {D : Jac} {a c : ℕ × ℕ} (hD : D.Rep Q) (ha : IsAt P (a.1 : Fp) a.2)
    (h : chordCheck D a c = true) : IsAt (Q + P) (c.1 : Fp) c.2 := by
  simp only [chordCheck, Bool.and_eq_true, bne_iff_ne, beq_iff_eq] at h
  obtain ⟨⟨⟨hchord, hZ⟩, hX⟩, hY⟩ := h
  have hcast : IsAt P (((a.1 : ℕ) : ℤ) : Fp) ((a.2 : ℕ) : ℤ) := by exact_mod_cast ha
  have hsum := hD.addAffine hcast hchord
  rw [intCast_emod_eq_zero] at hX hY
  push_cast at hX hY
  obtain ⟨hZ0, hat⟩ := hsum
  have hx : ((D.addAffine p a.1 a.2).X : Fp) / (D.addAffine p a.1 a.2).Z ^ 2 = c.1 := by
    rw [div_eq_iff (pow_ne_zero 2 hZ0)]
    linear_combination hX
  have hy : ((D.addAffine p a.1 a.2).Y : Fp) / (D.addAffine p a.1 a.2).Z ^ 3 = c.2 := by
    rw [div_eq_iff (pow_ne_zero 3 hZ0)]
    linear_combination hY
  rwa [hx, hy] at hat

/-- Along a row. -/
theorem entry_isAt_of_row (hrow : rowCheck i = true) (h0 : IsAt P ((entry i 0).1 : Fp) (entry i 0).2) :
    ∀ {j : ℕ}, j < 8 → IsAt ((2 * j + 1) • P) ((entry i j).1 : Fp) (entry i j).2
  | 0, _ => by rwa [mul_zero, zero_add, one_nsmul]
  | j + 1, hj => by
    have hY : ((affine (entry i 0)).Y : Fp) ≠ 0 := by
      simpa [affine] using ne_zero_of_sq_eq h0.equation
    have hdouble := (affine_rep h0).double two_ne_zero hY
    have hcheck := List.all_eq_true.1 hrow j (List.mem_range.2 (by omega))
    have hsum := isAt_of_chordCheck hdouble (entry_isAt_of_row hrow h0 (by omega)) hcheck
    have hmul : P + P + (2 * j + 1) • P = (2 * (j + 1) + 1) • P := by
      rw [← two_nsmul, ← add_nsmul]
      congr 1
      omega
    rwa [hmul] at hsum

/-- **The entries are the multiples** that their place says. -/
theorem entry_isAt : ∀ {i j : ℕ}, i < 64 → j < 8 →
    IsAt ((2 * j + 1) • 16 ^ i • G) ((entry i j).1 : Fp) (entry i j).2 := by
  have hok := tableCheck_ok
  simp only [tableCheck, Bool.and_eq_true, beq_iff_eq, List.all_eq_true, List.mem_range] at hok
  obtain ⟨⟨hstart, hrows⟩, hnext⟩ := hok
  have hfirst : ∀ {i : ℕ}, i < 64 →
      IsAt (16 ^ i • G) ((entry i 0).1 : Fp) (entry i 0).2 := by
    intro i
    induction i with
    | zero =>
      intro _
      rw [pow_zero, one_nsmul, hstart]
      exact G_isAt
    | succ i ih =>
      intro hi
      have h0 := ih (by omega)
      have h7 := entry_isAt_of_row (hrows i (by omega)).1 h0 (j := 7) (by norm_num)
      have hsum := isAt_of_chordCheck (affine_rep h0) h7 (hnext i (by omega))
      have hmul : 16 ^ i • G + (2 * 7 + 1) • 16 ^ i • G = 16 ^ (i + 1) • G := by
        rw [← succ_nsmul', smul_smul, pow_succ']
      rwa [hmul] at hsum
  intro i j hi hj
  exact entry_isAt_of_row (hrows i hi).1 (hfirst hi) hj

theorem ofFn_getD {l : List ℕ} (hlen : l.length = 9) (hlt : ∀ x ∈ l, x < 2 ^ 30) :
    (Bignum256.ofFn fun k => l.getD k 0) = ofNat (value (2 ^ 30) l) := by
  have hmap := map_getD_range (l := l)
  rw [hlen] at hmap
  have hlimbs := limbs_value hlt
  rw [hlen] at hlimbs
  exact Bignum256.ext (hmap.trans hlimbs.symm)

/-- **The table of the source is right.** -/
theorem cp_eq (hi : i < 64) (hj : j < 8) : cp i j = ofPoint (((2 * (j : ℤ) + 1) * 16 ^ i) • G) := by
  have hok := tableCheck_ok
  simp only [tableCheck, Bool.and_eq_true, List.all_eq_true, List.mem_range] at hok
  have hformat := (hok.1.2 i hi).2 j hj
  simp only [formatCheck, Bool.and_eq_true, beq_iff_eq, List.all_eq_true, decide_eq_true_eq]
    at hformat
  obtain ⟨⟨⟨⟨⟨hxlen, hylen⟩, hxlt⟩, hylt⟩, hx⟩, hy⟩ := hformat
  have hmul : ((2 * (j : ℤ) + 1) * 16 ^ i) • G = (2 * j + 1) • 16 ^ i • G := by
    rw [smul_smul, ← natCast_zsmul]
    push_cast
    rfl
  rw [hmul, ofPoint_of_atNat ⟨hx, hy, entry_isAt hi hj⟩]
  simp only [cp, entry, ofFn_getD hxlen hxlt, ofFn_getD hylen hylt]

theorem cp_multiples :
    ∀ i < 64, ∀ j < 8, cp i j = ofPoint (((2 * (j : ℤ) + 1) * 16 ^ i) • G) :=
  fun _ hi _ hj => cp_eq hi hj

end CotMta.Trezor
