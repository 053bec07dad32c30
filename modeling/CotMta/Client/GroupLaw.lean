/-
  The point functions of `CryptoOps` on the points of the curve, in terms of the
  coordinates that the program has.

  `OnCurve` is the program's own notion of a point: the flag, or two reduced
  coordinates that satisfy the equation.  These are the values that stand for
  an element of the group (`Rep.onCurve`, `OnCurve.exists_rep`).
-/
import CotMta.Client.Curve

namespace CotMta.Client.CryptoOps

open Secp256k1 ShortWeierstrass

/-- Infinity, or reduced coordinates on the curve. -/
def OnCurve (point : AffinePoint) : Prop :=
  point.infinity = true ∨ (0 ≤ point.x ∧ point.x < field) ∧ (0 ≤ point.y ∧ point.y < field) ∧
    point.y ^ 2 ≡ point.x ^ 3 + 7 [ZMOD field]

/-- Equal, or both at infinity, where the coordinates say nothing. -/
def Same (lhs rhs : AffinePoint) : Prop :=
  lhs = rhs ∨ lhs.infinity = true ∧ rhs.infinity = true

variable {lhs rhs point : AffinePoint} {P Q : E.Point}

theorem modEq_iff {a b : ℤ} : a ≡ b [ZMOD field] ↔ (a : Fp) = b := by
  rw [field_eq, ← ZMod.intCast_eq_intCast_iff]

theorem Rep.onCurve (h : Rep point P) : OnCurve point := by
  cases h with
  | infinity => exact Or.inl rfl
  | @affine P x y h =>
    refine Or.inr ⟨⟨Int.natCast_nonneg x, ?_⟩, ⟨Int.natCast_nonneg y, ?_⟩, ?_⟩
    · rw [field_eq]
      exact Int.ofNat_lt.2 h.x_lt
    · rw [field_eq]
      exact Int.ofNat_lt.2 h.y_lt
    · rw [modEq_iff]
      push_cast
      exact h.isAt.equation

theorem OnCurve.exists_rep (h : OnCurve point) : ∃ P, Rep point P := by
  obtain ⟨infinity, x, y⟩ := point
  cases infinity with
  | true => exact ⟨0, .infinity⟩
  | false =>
    rcases h with h | ⟨⟨hx0, hx⟩, ⟨hy0, hy⟩, heq⟩
    · cases h
    · simp only at hx0 hx hy0 hy heq
      lift x to ℕ using hx0
      lift y to ℕ using hy0
      rw [field_eq, Nat.cast_lt] at hx hy
      rw [modEq_iff] at heq
      push_cast at heq
      obtain ⟨P, hP⟩ := exists_atNat_of_equation hx hy heq
      exact ⟨P, .affine hP⟩

theorem Rep.same (h : Rep lhs P) (h' : Rep rhs P) : Same lhs rhs := by
  cases h with
  | infinity =>
    cases h' with
    | infinity => exact Or.inr ⟨rfl, rfl⟩
    | affine hat => exact absurd rfl hat.ne_zero
  | affine hat =>
    cases h' with
    | infinity => exact absurd rfl hat.ne_zero
    | affine hat' =>
      obtain ⟨rfl, rfl⟩ := hat.unique hat'
      exact Or.inl rfl

theorem Rep.infinity_eq_false (h : Rep point P) : point.infinity = false ↔ P ≠ 0 := by
  cases h with
  | infinity => simp
  | affine hat => exact iff_of_true rfl hat.ne_zero

/-! ## Addition -/

/-- **`addPoints` is the law of the group**, and subtracting undoes it. -/
theorem addPoints_group_law (hl : OnCurve lhs) (hr : OnCurve rhs) :
    ∃ P Q sum, Rep lhs P ∧ Rep rhs Q ∧ addPoints lhs rhs = .ok sum ∧ OnCurve sum ∧
      Rep sum (P + Q) ∧ ∃ back, addPoints sum (negatePoint rhs) = .ok back ∧ Same back lhs := by
  obtain ⟨P, hP⟩ := hl.exists_rep
  obtain ⟨Q, hQ⟩ := hr.exists_rep
  obtain ⟨sum, hsum, hrep⟩ := addPoints_rep hP hQ
  obtain ⟨back, hback, hbackrep⟩ := addPoints_rep hrep (negatePoint_rep hQ)
  rw [add_neg_cancel_right] at hbackrep
  exact ⟨P, Q, sum, hP, hQ, hsum, hrep.onCurve, hrep, back, hback, hbackrep.same hP⟩

theorem addPoints_group_law_generator :
    ∃ P Q sum, Rep generator P ∧ Rep generator Q ∧ addPoints generator generator = .ok sum ∧
      OnCurve sum ∧ Rep sum (P + Q) ∧
      ∃ back, addPoints sum (negatePoint generator) = .ok back ∧ Same back generator :=
  addPoints_group_law rep_generator.onCurve rep_generator.onCurve

/-! ## Multiplication -/

theorem scalarMultiply_outside {k : ℤ} (h : ¬(1 ≤ k ∧ k ≤ order - 1)) :
    scalarMultiply k point = .error "scalar must be in range [1, n-1]" := by
  rw [scalarMultiply, if_pos (by omega)]

theorem scalarMultiply_inside {k : ℤ} (h : 1 ≤ k ∧ k ≤ order - 1) (hP : Rep point P) :
    ∃ product, scalarMultiply k point = .ok product ∧ Rep product (k.toNat • P) ∧
      (P ≠ 0 → product.infinity = false) := by
  obtain ⟨k, rfl⟩ := Int.eq_ofNat_of_zero_le (by omega : 0 ≤ k)
  rw [order_eq] at h
  obtain ⟨product, hprod, hrep⟩ := scalarMultiply_rep (k := k) (by omega) (by omega) hP
  refine ⟨product, hprod, hrep, fun hP0 => ?_⟩
  exact hrep.infinity_eq_false.2 (nsmul_ne_zero hP0 (by omega) (by omega))

/-- A product of an affine point can be encoded, if it can be computed. -/
theorem encode_scalarMultiply {k : ℤ} (h : OnCurve point) (haffine : point.infinity = false) :
    (scalarMultiply k point >>= encodeCompressedPoint) ≠
      .error "cannot encode point at infinity" := by
  obtain ⟨P, hP⟩ := h.exists_rep
  by_cases hk : 1 ≤ k ∧ k ≤ order - 1
  · obtain ⟨product, hprod, -, hfinite⟩ := scalarMultiply_inside hk hP
    simp only [hprod, bind, Except.bind, encodeCompressedPoint,
      hfinite (hP.infinity_eq_false.1 haffine)]
    simp
  · rw [scalarMultiply_outside hk]
    simp [bind, Except.bind]

/-- **`scalarMultiply` is the multiplication of the group.**  Every affine point
    has order `n`, so that no product is infinity. -/
theorem scalarMultiply_group (k : ℤ) (h : OnCurve point) (haffine : point.infinity = false) :
    ((∃ text, scalarMultiply k point = .error text) ↔ ¬(1 ≤ k ∧ k ≤ order - 1)) ∧
      (1 ≤ k ∧ k ≤ order - 1 → ∃ P product, Rep point P ∧ addOrderOf P = n ∧
        scalarMultiply k point = .ok product ∧ Rep product (k.toNat • P) ∧
        product.infinity = false) ∧
      (∀ scalar, scalarMultiplyG scalar ≠ .error "cannot encode point at infinity") ∧
      ∀ scalar bytes, decodeCompressedPoint bytes = .ok point →
        scalarMultiplyPoint scalar bytes ≠ .error "cannot encode point at infinity" := by
  obtain ⟨P, hP⟩ := h.exists_rep
  have hP0 := hP.infinity_eq_false.1 haffine
  refine ⟨⟨?_, fun hk => ⟨_, scalarMultiply_outside hk⟩⟩, ?_, ?_, ?_⟩
  · rintro ⟨text, htext⟩ hk
    obtain ⟨product, hprod, -⟩ := scalarMultiply_inside hk hP
    cases htext.symm.trans hprod
  · intro hk
    obtain ⟨product, hprod, hrep, hfinite⟩ := scalarMultiply_inside hk hP
    exact ⟨P, product, hP, addOrderOf_point hP0, hprod, hrep, hfinite hP0⟩
  · intro scalar
    exact encode_scalarMultiply rep_generator.onCurve rfl
  · intro scalar bytes hdec
    rw [scalarMultiplyPoint, hdec]
    exact encode_scalarMultiply h haffine

theorem scalarMultiply_group_two :
    ∃ P product, Rep generator P ∧ addOrderOf P = n ∧
      scalarMultiply 2 generator = .ok product ∧ Rep product ((2 : ℤ).toNat • P) ∧
      product.infinity = false :=
  (scalarMultiply_group 2 rep_generator.onCurve rfl).2.1 (by decide)

/-! ## Compressed encodings -/

theorem length_of_decode {bytes : Uint8Array} (h : decodeCompressedPoint bytes = .ok point) :
    bytes.length = 33 := by
  by_contra hlen
  rw [decodeCompressedPoint, if_pos hlen] at h
  cases h

/-- What is decoded is encoded to the same string, even from an abscissa that is
    not reduced. -/
theorem encode_of_decode {bytes : Uint8Array} (h : decodeCompressedPoint bytes = .ok point) :
    encodeCompressedPoint point = .ok bytes ∧ point.y ^ 2 ≡ point.x ^ 3 + 7 [ZMOD field] := by
  obtain ⟨bytes, rfl⟩ : ∃ b : Bytes 33, b.toList = bytes := ⟨⟨bytes, length_of_decode h⟩, rfl⟩
  obtain ⟨y, -, heq, hbytes, rfl⟩ := decodeCompressedPoint_eq_ok.1 h
  constructor
  · have hodd : (y : ℤ) % 2 = 1 ↔ y % 2 = 1 := by omega
    simp only [encodeCompressedPoint, Bool.false_eq_true, if_false, bigIntToBytes_natCast, hodd]
    exact congrArg (fun b : Bytes 33 => Except.ok b.toList) hbytes
  · rw [modEq_iff]
    push_cast
    exact heq

theorem decode_of_encode (h : OnCurve point) (haffine : point.infinity = false) :
    ∃ bytes, encodeCompressedPoint point = .ok bytes ∧ decodeCompressedPoint bytes = .ok point := by
  obtain ⟨P, hP⟩ := h.exists_rep
  obtain ⟨bytes, hbytes⟩ := exists_compressed (hP.infinity_eq_false.1 haffine)
  refine ⟨bytes.toList, by rw [encodeCompressedPoint_rep hP, encoding_some hbytes], ?_⟩
  obtain ⟨point', hdec, hrep, -⟩ := decodeCompressedPoint_rep hbytes
  rcases hrep.same hP with rfl | ⟨-, hinf⟩
  · exact hdec
  · cases haffine.symm.trans hinf

/-- The power is a square root of every square. -/
theorem modPow_sq {r s : ℤ} (h : s ^ 2 ≡ r [ZMOD field]) :
    modPow r ((field + 1).tdiv 4).toNat field ^ 2 ≡ r [ZMOD field] := by
  have hexp : ((field + 1).tdiv 4).toNat = (p + 1) / 4 := by decide
  obtain ⟨k, -, hk, hcast⟩ := @modPow_eq r ((p + 1) / 4)
  rw [modEq_iff] at h ⊢
  push_cast at h
  rw [hexp, hk, Int.cast_pow, Int.cast_natCast, hcast, ← h, pow_root_sq]

/-- A string whose abscissa is on no point throws. -/
theorem decode_of_nonresidue {bytes : Uint8Array}
    (h : ∀ s : ℤ, ¬s ^ 2 ≡ bytesToBigInt (bytes.drop 1) ^ 3 + 7 [ZMOD field]) :
    ∃ text, decodeCompressedPoint bytes = .error text := by
  cases hdec : decodeCompressedPoint bytes with
  | error text => exact ⟨text, rfl⟩
  | ok point =>
    obtain ⟨bytes, rfl⟩ : ∃ b : Bytes 33, b.toList = bytes := ⟨⟨bytes, length_of_decode hdec⟩, rfl⟩
    obtain ⟨y, -, heq, -⟩ := decodeCompressedPoint_eq_ok.1 hdec
    refine absurd ?_ (h y)
    rw [modEq_iff, bytesToBigInt_eq]
    push_cast
    exact heq

/-- **The compressed encoding is lossless.** -/
theorem compressed_lossless :
    (∀ point, OnCurve point → point.infinity = false →
      ∃ bytes, encodeCompressedPoint point = .ok bytes ∧
        decodeCompressedPoint bytes = .ok point) ∧
    (∀ bytes point, decodeCompressedPoint bytes = .ok point →
      encodeCompressedPoint point = .ok bytes ∧ point.y ^ 2 ≡ point.x ^ 3 + 7 [ZMOD field]) ∧
    (∀ r s : ℤ, s ^ 2 ≡ r [ZMOD field] →
      modPow r ((field + 1).tdiv 4).toNat field ^ 2 ≡ r [ZMOD field]) ∧
    ∀ bytes, (∀ s : ℤ, ¬s ^ 2 ≡ bytesToBigInt (bytes.drop 1) ^ 3 + 7 [ZMOD field]) →
      ∃ text, decodeCompressedPoint bytes = .error text :=
  ⟨fun _ => decode_of_encode, fun _ _ => encode_of_decode, fun _ _ => modPow_sq,
    fun _ => decode_of_nonresidue⟩

theorem compressed_lossless_generator :
    ∃ bytes, encodeCompressedPoint generator = .ok bytes ∧
      decodeCompressedPoint bytes = .ok generator :=
  compressed_lossless.1 generator rep_generator.onCurve rfl

end CotMta.Client.CryptoOps
