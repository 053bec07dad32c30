/-
  What `AliceOT` computes, on the group elements behind the bytes.
-/
import CotMta.Client.Curve
import CotMta.Client.OtProtocol

namespace CotMta.Client.AliceOT

open Secp256k1 CryptoOps

variable {sha256 : List UInt8 → Bytes 32} {nonce pointB : Uint8Array} {m0 m1 ui a : Bytes 32}
  {A b : Bytes 33} {P : E.Point} {alice : AliceOT}

/-- The object on strings of the right lengths. -/
def ofBytes (m0 m1 ui a : Bytes 32) (A : Bytes 33) : AliceOT :=
  ⟨m0.toList, m1.toList, ui.toList, a.toList, A.toList⟩

theorem new_eq (m0 m1 ui : Bytes 32) (ha : ValidScalar a)
    (hA : compressed (a.nat • G) = some A) :
    AliceOT.new m0.toList m1.toList ui.toList a.toList = .ok (ofBytes m0 m1 ui a A) := by
  rw [AliceOT.new, scalarMultiplyG_eq ha, encoding_some hA]
  rfl

/-- The two arguments that `processResponse` passes to `deriveKey`. -/
def keyInputs (alice : AliceOT) (pointB : Uint8Array) : Throws (Uint8Array × Uint8Array) := do
  let x0 ← getXCoordinate (← scalarMultiplyPoint alice.a pointB)
  let bMinusA ← pointSubtract pointB alice.A
  let x1 ← getXCoordinate (← scalarMultiplyPoint alice.a bMinusA)
  pure (x0, x1)

theorem processResponse_keyInputs :
    processResponse sha256 nonce alice pointB = keyInputs alice pointB >>= fun x =>
      pure { encryptedM0 := xorEncrypt alice.m0 (deriveKey sha256 x.1)
             encryptedM1 := xorEncrypt alice.m1 (deriveKey sha256 x.2)
             nonce := nonce } := by
  simp only [processResponse, keyInputs, bind_assoc, pure_bind]

/-- On the bytes of a point nothing throws, but for Alice's own point. -/
theorem keyInputs_eq (m0 m1 ui : Bytes 32) (ha : ValidScalar a)
    (hA : compressed (a.nat • G) = some A)
    (hP : compressed P = some b) (hne : P ≠ a.nat • G) {s0 s1 : Bytes 33}
    (hs0 : compressed (a.nat • P) = some s0)
    (hs1 : compressed (a.nat • (P - a.nat • G)) = some s1) :
    keyInputs (ofBytes m0 m1 ui a A) b.toList = .ok (s0.toList.drop 1, s1.toList.drop 1) := by
  obtain ⟨d, hd⟩ := exists_compressed (sub_ne_zero.2 hne)
  have hmul0 := scalarMultiplyPoint_eq ha hP
  have hmul1 := scalarMultiplyPoint_eq ha hd
  have hsub := pointSubtract_eq hP hA
  rw [encoding_some hs0] at hmul0
  rw [encoding_some hs1] at hmul1
  rw [encoding_some hd] at hsub
  simp only [keyInputs, ofBytes, hmul0, hmul1, hsub, getXCoordinate_eq hs0, getXCoordinate_eq hs1,
    bind, Except.bind, pure, Except.pure]

/-- **`processResponse` on the point `P`:** the keys come from `a P` and
    `a (P - a G)`. -/
theorem processResponse_eq (ha : ValidScalar a) (hA : compressed (a.nat • G) = some A)
    (hP : compressed P = some b) (hne : P ≠ a.nat • G) {s0 s1 : Bytes 33}
    (hs0 : compressed (a.nat • P) = some s0)
    (hs1 : compressed (a.nat • (P - a.nat • G)) = some s1) :
    processResponse sha256 nonce (ofBytes m0 m1 ui a A) b.toList = .ok {
      encryptedM0 := (m0.xor (sharedKey sha256 s0)).toList
      encryptedM1 := (m1.xor (sharedKey sha256 s1)).toList
      nonce := nonce } := by
  rw [processResponse_keyInputs, keyInputs_eq m0 m1 ui ha hA hP hne hs0 hs1, ← xorEncrypt_eq,
    ← xorEncrypt_eq]
  rfl

/-- On its own point `a G` there is no second key. -/
theorem processResponse_own (ha : ValidScalar a) (hA : compressed (a.nat • G) = some A) :
    processResponse sha256 nonce (ofBytes m0 m1 ui a A) A.toList =
      .error "cannot encode point at infinity" := by
  obtain ⟨s0, hs0⟩ := ha.exists_compressed (ha.nsmul_ne_zero G_isAt.ne_zero)
  have hmul0 := scalarMultiplyPoint_eq ha hA
  have hsub := pointSubtract_eq hA hA
  rw [encoding_some hs0] at hmul0
  rw [sub_self] at hsub
  simp only [processResponse, ofBytes, hmul0, hsub, getXCoordinate_eq hs0, bind, Except.bind]
  rfl

end CotMta.Client.AliceOT
