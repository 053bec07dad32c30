/-
  What the point operations of the server and `BobOT` compute, given that
  trezor's group operations compute in the group.
-/
import CotMta.Trezor.EcdsaSpec
import CotMta.Server.PointBytes

namespace CotMta.Server

open Trezor Secp256k1 CurvePoint

variable {P Q : E.Point} {scalar : Scalar} {a b : Point}

theorem compressed_ne_zero (h : compressed P = some a) : P ≠ 0 := by
  rintro rfl
  cases h

namespace CryptoOps

theorem isValidScalar_eq : isValidScalar scalar = decide (ValidScalar scalar) := by
  have hn : n < (2 ^ 30) ^ 9 := by norm_num [n]
  have hscalar : scalar.nat < (2 ^ 30) ^ 9 := scalar.nat_lt.trans_le (by norm_num)
  rw [isValidScalar, bnReadBe_eq, order_eq, bnIsZero_ofNat hscalar, bnIsLess_ofNat hscalar hn,
    Bool.eq_iff_iff]
  simp only [Bool.and_eq_true, Bool.not_eq_true', decide_eq_false_iff_not, decide_eq_true_eq]
  rw [ValidScalar, Nat.pos_iff_ne_zero]

theorem encodePoint_eq (hP : P ≠ 0) : compressed P = some (encodePoint (ofPoint P)) :=
  compressCoords_ofPoint hP

theorem decodePoint_eq (h : compressed P = some a) (behind : ℕ → UInt8) :
    decodePoint ⟨a, behind⟩ = some (ofPoint P) :=
  ecdsaReadPubkey_compressed h fun _ hi => byte_eq hi

/-- With the prefix `0x02` or `0x03`, exactly the bytes of points are accepted. -/
theorem decodePoint_eq_some (hpre : HasPrefix a) {behind : ℕ → UInt8} {cp : CurvePoint} :
    decodePoint ⟨a, behind⟩ = some cp ↔ ∃ P, compressed P = some a ∧ cp = ofPoint P :=
  ecdsaReadPubkey_eq_some hpre fun _ hi => byte_eq hi

theorem decodePoint_eq_none (hpre : HasPrefix a) {behind : ℕ → UInt8} :
    decodePoint ⟨a, behind⟩ = none ↔ ∀ P, compressed P ≠ some a := by
  constructor
  · intro h P hP
    rw [decodePoint_eq hP] at h
    cases h
  · intro h
    cases hdec : decodePoint ⟨a, behind⟩ with
    | none => rfl
    | some cp =>
      obtain ⟨P, hP, -⟩ := (decodePoint_eq_some hpre).1 hdec
      exact absurd hP (h P)

/-- An addition that is followed by the check for infinity. -/
theorem encode_unless_infinity :
    (if pointIsInfinity (ofPoint P) then none else some (encodePoint (ofPoint P))) =
      compressed P := by
  rw [pointIsInfinity_ofPoint]
  rcases eq_or_ne P 0 with rfl | hP
  · rfl
  · rw [decide_eq_false hP, encodePoint_eq hP]
    rfl

variable {ops : GroupOps}

/-- `point_add` is all that the addition needs to be lawful. -/
theorem pointAdd_of_add (hadd : ∀ {P Q : E.Point}, P ≠ 0 → Q ≠ 0 →
      ops.point_add (ofPoint P) (ofPoint Q) = ofPoint (P + Q))
    (hP : compressed P = some a) (hQ : compressed Q = some b) (behind behind' : ℕ → UInt8) :
    pointAdd ops ⟨a, behind⟩ ⟨b, behind'⟩ = compressed (P + Q) := by
  rw [pointAdd, decodePoint_eq hP, decodePoint_eq hQ]
  simp only [Option.bind_eq_bind, Option.bind_some,
    hadd (compressed_ne_zero hP) (compressed_ne_zero hQ)]
  exact encode_unless_infinity

variable (hops : ops.Lawful)
include hops

theorem scalarMultiplyG_eq (h : ValidScalar scalar) :
    scalarMultiplyG ops scalar = compressed (scalar.nat • G) := by
  rw [scalarMultiplyG, isValidScalar_eq, decide_eq_true h, ecdsaGetPublicKey33_eq, bnReadBe_eq,
    hops.scalar_multiply h.1 h.2, compressCoords_ofPoint (h.nsmul_ne_zero G_isAt.ne_zero)]
  rfl

theorem scalarMultiplyPoint_eq (h : ValidScalar scalar) (hP : compressed P = some a)
    (behind : ℕ → UInt8) :
    scalarMultiplyPoint ops scalar ⟨a, behind⟩ = compressed (scalar.nat • P) := by
  have hP0 := compressed_ne_zero hP
  rw [scalarMultiplyPoint, isValidScalar_eq, decide_eq_true h, decodePoint_eq hP,
    encodePoint_eq (h.nsmul_ne_zero hP0)]
  simp only [bnReadBe_eq, Option.bind_eq_bind, Option.bind_some, hops.point_multiply h.1 h.2 hP0]
  rfl

theorem pointAdd_eq (hP : compressed P = some a) (hQ : compressed Q = some b)
    (behind behind' : ℕ → UInt8) :
    pointAdd ops ⟨a, behind⟩ ⟨b, behind'⟩ = compressed (P + Q) :=
  pointAdd_of_add hops.point_add hP hQ behind behind'

omit hops in
theorem getXCoordinate_eq (hP : compressed P = some a) :
    ∃ x : Scalar, getXCoordinate a = some x ∧ x.toList = a.toList.drop 1 := by
  obtain ⟨x, y, -, rfl⟩ := exists_of_compressed hP
  refine ⟨⟨(compressedBytes x y).toList.drop 1, by simp⟩, if_neg ?_, rfl⟩
  simp only [compressedBytes, List.head?_cons, ne_eq, Option.some.injEq]
  split <;> simp

end CryptoOps

namespace BobOT

variable {ops : GroupOps} {sha256 : List UInt8 → Bytes 32}

open CryptoOps in
/-- **`process_init` on the point `P`:** the key comes from `b P`, the response
    is `b G` or `b G + P`. -/
theorem processInit_eq (hops : ops.Lawful) (bob : BobOT) (hb : ValidScalar bob.secret_b)
    (hP : compressed P = some a) {shared : Point}
    (hshared : compressed (bob.secret_b.nat • P) = some shared) (frame behind : ℕ → UInt8) :
    bob.processInit ops sha256 frame ⟨a, behind⟩ =
      ({ bob with decryption_key := some (sharedKey sha256 shared) },
        compressed (bob.secret_b.nat • G + if bob.choice_bit = 0 then 0 else P)) := by
  obtain ⟨b_g, hb_g⟩ := hb.exists_compressed G_isAt.ne_zero
  obtain ⟨x, hx, hxlist⟩ := getXCoordinate_eq hshared
  rw [processInit, scalarMultiplyPoint_eq hops hb hP, hshared]
  simp only [hx, scalarMultiplyG_eq hops hb, hb_g, deriveKey, hxlist, sharedKey]
  split
  · rw [add_zero, hb_g]
  · rw [pointAdd_eq hops hb_g hP]

end BobOT
end CotMta.Server
