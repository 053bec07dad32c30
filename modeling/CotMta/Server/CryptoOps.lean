/-
  `server/src/crypto_ops.cpp`: the operations on scalars, points and keys that
  the protocol uses.

  A point is passed by address, and the parser of `ecdsa.c` is not told how long
  the buffer is: a `Located` point has the bytes that follow it in memory with
  it.  SHA-256 and trezor's group operations are parameters.
-/
import CotMta.Server.ProtoCodec
import CotMta.Trezor.Ecdsa

namespace CotMta.Server

open Trezor

/-- A point and the bytes behind it. -/
structure Located where
  point : Point
  behind : ℕ → UInt8

/-- The byte at an index from the point's address. -/
def Located.byte (p : Located) (i : ℕ) : UInt8 :=
  if h : i < p.point.toList.length then p.point.toList[i] else p.behind (i - 33)

namespace CryptoOps

variable (ops : GroupOps)

/-- Neither zero nor from the order on. -/
def isValidScalar (scalar : Scalar) : Bool :=
  let value := bnReadBe machine scalar
  !bnIsZero value && bnIsLess value order

/-- `generate_random_scalar` on what `rd` returns in turn, with what is left of it:
    the low byte of each of 32 numbers, again until the scalar is valid. -/
def generateRandomScalar (rd : List (Fin (2 ^ 32))) : Option (Scalar × List (Fin (2 ^ 32))) :=
  if h : 32 ≤ rd.length then
    let out : Scalar := ⟨(rd.take 32).map fun r => UInt8.ofNat r, by simp [h]⟩
    if isValidScalar out then some (out, rd.drop 32) else generateRandomScalar (rd.drop 32)
  else none
termination_by rd.length

section
variable (W : Arith)

/-- The number that 32 bytes are, big-endian. -/
def scalarToBn (scalar : Scalar) : Bignum256 := bnReadBe W scalar

/-- The 32 low bytes of a number. -/
def bnToScalar (value : Bignum256) : Scalar := bnWriteBe W value

/-- The sum modulo the order. -/
def modAdd (lhs rhs : Scalar) : Scalar :=
  let sum := scalarToBn W lhs
  let other := scalarToBn W rhs
  let sum := bnAddmod W sum other order
  let sum := bnMod W sum order
  bnToScalar W sum

/-- The difference modulo the order.  The number that comes out of
    `bn_subtractmod` may need to be reduced twice. -/
def modSub (lhs rhs : Scalar) : Scalar :=
  let left := scalarToBn W lhs
  let right := scalarToBn W rhs
  let result := bnSubtractmod W left right order
  let result := bnMod W result order
  let result := bnMod W result order
  bnToScalar W result

/-- The product modulo the order. -/
def modMul (lhs rhs : Scalar) : Scalar :=
  let result := scalarToBn W lhs
  let factor := scalarToBn W rhs
  let result := bnMultiply W factor result order
  let result := bnMod W result order
  bnToScalar W result

/-- The opposite modulo the order; zero is returned as it is. -/
def modNegate (value : Scalar) : Scalar :=
  if value.toList.all fun byte => byte == 0 then value
  else
    let input := scalarToBn W value
    let result := bnSubtractmod W bnZero input order
    let result := bnMod W result order
    let result := bnMod W result order
    bnToScalar W result

end

/-- The point of 33 bytes.  The parser may read on behind them: it takes the length
    from the first byte. -/
def decodePoint (point : Located) : Option CurvePoint :=
  Id.run (ecdsaReadPubkey machine fun i => pure (point.byte i))

/-- The compressed encoding. -/
def encodePoint (point : CurvePoint) : Point := compressCoords machine point

/-- A multiple of the generator, encoded; `none` for an invalid scalar. -/
def scalarMultiplyG (scalar : Scalar) : Option Point :=
  if !isValidScalar scalar then none else some (ecdsaGetPublicKey33 machine ops scalar)

/-- A multiple of an encoded point. -/
def scalarMultiplyPoint (scalar : Scalar) (point : Located) : Option Point :=
  if !isValidScalar scalar then none
  else do
    let decoded ← decodePoint point
    let factor := bnReadBe machine scalar
    pure (encodePoint (ops.point_multiply factor decoded))

/-- The sum of encoded points; infinity has no encoding. -/
def pointAdd (lhs rhs : Located) : Option Point := do
  let left ← decodePoint lhs
  let right ← decodePoint rhs
  let right := ops.point_add left right
  if pointIsInfinity right then none else pure (encodePoint right)

/-- The other parity; nothing else is looked at but the prefix. -/
def pointNegate (point : Point) : Option Point :=
  if point.toList.head? ≠ some 0x02 ∧ point.toList.head? ≠ some 0x03 then none
  else some ⟨(if point.toList.head? = some 0x02 then 0x03 else 0x02) :: point.toList.drop 1,
    by simp⟩

/-- The difference of encoded points.  The ordinate of the opposite point is not
    reduced. -/
def pointSubtract (lhs rhs : Located) : Option Point := do
  let left ← decodePoint lhs
  let right ← decodePoint rhs
  let neg_y := bnSubtractmod machine prime right.y prime
  let left := ops.point_add ⟨right.x, neg_y⟩ left
  if pointIsInfinity left then none else pure (encodePoint left)

/-- The abscissa of an encoded point, which is not decoded. -/
def getXCoordinate (point : Point) : Option Scalar :=
  if point.toList.head? ≠ some 0x02 ∧ point.toList.head? ≠ some 0x03 then none
  else some ⟨point.toList.drop 1, by simp⟩

variable (sha256 : List UInt8 → Bytes 32)

/-- The hash of the bytes. -/
def deriveKey (bytes : List UInt8) : Scalar := sha256 bytes

/-- The bytes of the message, each with the one of the key at its place. -/
def xorEncrypt (message key : Scalar) : Scalar := message.xor key

end CryptoOps
end CotMta.Server
