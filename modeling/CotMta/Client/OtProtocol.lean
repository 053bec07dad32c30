/-
  `client/src/ot_protocol.ts`: the sender of the oblivious transfers and the
  computation of the additive shares.
-/
import CotMta.Client.CryptoOps

namespace CotMta.Client

open CryptoOps

/-- What the client sends first in a round. -/
structure OTInit where
  pointA : Uint8Array
  bitIndex : ℕ

/-- The ciphertexts of a round. -/
structure OTEncrypted where
  encryptedM0 : Uint8Array
  encryptedM1 : Uint8Array
  nonce : Uint8Array

/-- `AliceOT`: the two messages, the mask and the key pair `A = a G`. -/
structure AliceOT where
  m0 : Uint8Array
  m1 : Uint8Array
  ui : Uint8Array
  a : Uint8Array
  A : Uint8Array

namespace AliceOT

/-- The constructor, on the scalar that it draws. -/
def new (m0 m1 ui a : Uint8Array) : Throws AliceOT := do
  pure { m0 := m0, m1 := m1, ui := ui, a := a, A := ← scalarMultiplyG a }

/-- The message of a round, with the point `a G`. -/
def generateInit (alice : AliceOT) (bitIndex : ℕ) : OTInit where
  pointA := alice.A
  bitIndex := bitIndex

/-- `nonce` is the result of `randomBytes(12)`. -/
def processResponse (sha256 : List UInt8 → Bytes 32) (nonce : Uint8Array) (alice : AliceOT)
    (pointB : Uint8Array) : Throws OTEncrypted := do
  let k0 := deriveKey sha256 (← getXCoordinate (← scalarMultiplyPoint alice.a pointB))
  let bMinusA ← pointSubtract pointB alice.A
  let k1 := deriveKey sha256 (← getXCoordinate (← scalarMultiplyPoint alice.a bMinusA))
  pure {
    encryptedM0 := xorEncrypt alice.m0 k0
    encryptedM1 := xorEncrypt alice.m1 k1
    nonce := nonce }

end AliceOT

namespace MTAProtocol

/-- The loop of both share computations, from index `i` on. -/
def sumLoop : ℕ → ℤ → List Uint8Array → ℤ
  | _, sum, [] => sum
  | i, sum, value :: values =>
    sumLoop (i + 1) ((sum + bytesToBigInt value <<< i).tmod order) values

/-- The opposite of the weighted sum. -/
def computeAliceShare (uiValues : List Uint8Array) : Uint8Array :=
  let sum := sumLoop 0 0 uiValues
  bigIntToBytes ((order - sum).tmod order) 32

/-- The weighted sum. -/
def computeBobShare (mcValues : List Uint8Array) : Uint8Array :=
  bigIntToBytes (sumLoop 0 0 mcValues) 32

/-- Whether the additive shares add up to the product. -/
def verify (x y u v : Uint8Array) : Bool :=
  let xy := (bytesToBigInt x * bytesToBigInt y).tmod order
  let uv := (bytesToBigInt u + bytesToBigInt v).tmod order
  xy == uv

end MTAProtocol
end CotMta.Client
