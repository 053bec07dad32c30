/-
  `client/src/crypto_ops.ts`.

  A `Uint8Array` is a list of bytes, a `bigint` an integer; JavaScript's `%` and
  `/` truncate, so they are `Int.tmod` and `Int.tdiv`.  A thrown `Error` is
  `Except.error` with its message.  SHA-256 is a parameter, and so is the
  `toLowerCase` of strings.
-/
import CotMta.Client.JsString
import Mathlib.Data.Int.ModEq

namespace CotMta.Client

/-- A string of bytes. -/
abbrev Uint8Array := List UInt8

/-- A call that may throw. -/
abbrev Throws := Except String

namespace CryptoOps

/-- `AffinePoint`. -/
structure AffinePoint where
  infinity : Bool
  x : ℤ
  y : ℤ
deriving DecidableEq

/-- `ORDER`, the order of the group. -/
def order : ℤ := 0xFFFFFFFFFFFFFFFFFFFFFFFFFFFFFFFEBAAEDCE6AF48A03BBFD25E8CD0364141

/-- `FIELD`, the prime of the curve. -/
def field : ℤ := 0xFFFFFFFFFFFFFFFFFFFFFFFFFFFFFFFFFFFFFFFFFFFFFFFFFFFFFFFEFFFFFC2F

/-- `GENERATOR`. -/
def generator : AffinePoint where
  infinity := false
  x := 55066263022277343669578718895168534326250603453777594175500187360389116729240
  y := 32670510020758816978083085130507043184471273380659243275938904335757337482424

/-! ## Bytes -/

/-- The shifted value and the byte have no bit in common, so the value stays a
    natural number. -/
def bytesToBigInt (bytes : Uint8Array) : ℤ :=
  (bytes.foldl (fun value byte => value <<< 8 ||| byte.toNat) 0 : ℕ)

/-- The bytes at positions `i`, …, `length - 1`, filled from the end. -/
def bigIntToBytesLoop : ℕ → ℤ → Uint8Array → Uint8Array
  | 0, _, out => out
  | i + 1, remaining, out =>
    bigIntToBytesLoop i (remaining / 256) (UInt8.ofNat (remaining % 256).toNat :: out)

/-- The last `length` bytes of the value, big-endian. -/
def bigIntToBytes (value : ℤ) (length : ℕ) : Uint8Array := bigIntToBytesLoop length value []

/-- `generateRandomScalar` returns a 32-byte string with `0 < value < ORDER`. -/
def isRandomScalar (candidate : Uint8Array) : Bool :=
  candidate.length == 32 && bytesToBigInt candidate != 0 && bytesToBigInt candidate < order

/-- `generateRandomScalar` on what `randomBytes(32)` returns in turn, with what is left
    of it; it is called again until a candidate is in the range. -/
def generateRandomScalar : List Uint8Array → Option (Uint8Array × List Uint8Array)
  | [] => none
  | candidate :: draws =>
    let value := bytesToBigInt candidate
    if value ≠ 0 ∧ value < order then some (candidate, draws) else generateRandomScalar draws

/-- The hash of the input. -/
def deriveKey (sha256 : List UInt8 → Bytes 32) (input : Uint8Array) : Uint8Array :=
  (sha256 input).toList

/-- The bytes of the message, each with the one of the key at its place. -/
def xorEncrypt (message key : Uint8Array) : Uint8Array :=
  message.mapIdx fun i byte => byte ^^^ key.getD i 0

/-- The sum modulo the order. -/
def modAdd (lhs rhs : Uint8Array) : Uint8Array :=
  let value := (bytesToBigInt lhs + bytesToBigInt rhs).tmod order
  bigIntToBytes value 32

/-- `Buffer.from(bytes).toString('hex')`. -/
def toHex (bytes : Uint8Array) : JsString := JsString.bufferToString bytes

/-- A scalar from what the user gave: in any case, with or without a marker. -/
def scalarFromHex (toLowerCase : JsString → JsString) (hex : JsString) : Throws Uint8Array :=
  let normalized := (toLowerCase hex).dropMarker
  if !normalized.isHexText then .error "scalar must be hex encoded"
  else if normalized.length > 64 then .error "scalar must fit in 32 bytes"
  else
    -- the padding is the digit zero
    let padded := normalized.padStart 64 0x30
    let bytes := JsString.bufferFrom padded
    let value := bytesToBigInt bytes
    if value = 0 ∨ value ≥ order then .error "scalar must be in range [1, n-1]"
    else .ok bytes

/-! ## Arithmetic modulo a number -/

/-- The residue that is not negative, of a modulus that is positive. -/
def mod (value modulus : ℤ) : ℤ :=
  let reduced := value.tmod modulus
  if reduced ≥ 0 then reduced else reduced + modulus

/-- Square and multiply, over the bits of the exponent that are left. -/
def modPowLoop (modulus result current : ℤ) (power : ℕ) : ℤ :=
  if power > 0 then
    let result := if power &&& 1 ≠ 0 then mod (result * current) modulus else result
    modPowLoop modulus result (mod (current * current) modulus) (power >>> 1)
  else result
termination_by power
decreasing_by rw [Nat.shiftRight_eq_div_pow]; omega

/-- The exponent is never negative here: it is `(FIELD + 1n) / 4n`. -/
def modPow (base : ℤ) (exponent : ℕ) (modulus : ℤ) : ℤ :=
  modPowLoop modulus 1 (mod base modulus) exponent

/-- Euclid's loop; it ends with `newR` at zero. -/
def modInverseLoop (t newT r newR : ℤ) : ℤ × ℤ :=
  if _h : newR ≠ 0 then
    let quotient := r.tdiv newR
    modInverseLoop newT (t - quotient * newT) newR (r - quotient * newR)
  else (t, r)
termination_by newR.natAbs
decreasing_by
  rw [mul_comm, ← Int.tmod_def, Int.natAbs_tmod]
  exact Nat.mod_lt _ (Int.natAbs_pos.2 _h)

/-- The inverse, if the greatest common divisor is one. -/
def modInverse (value modulus : ℤ) : Throws ℤ :=
  let (t, r) := modInverseLoop 0 1 modulus (mod value modulus)
  if r ≠ 1 then .error "mod inverse does not exist"
  else .ok (if t < 0 then t + modulus else t)

/-! ## Points -/

/-- The opposite point. -/
def negatePoint (point : AffinePoint) : AffinePoint :=
  if point.infinity then point
  else { infinity := false, x := point.x, y := mod (-point.y) field }

/-- `{ infinity: true, x: 0n, y: 0n }`. -/
def pointAtInfinity : AffinePoint := { infinity := true, x := 0, y := 0 }

/-- The sum of two points, by chord and tangent. -/
def addPoints (lhs rhs : AffinePoint) : Throws AffinePoint :=
  if lhs.infinity then .ok rhs
  else if rhs.infinity then .ok lhs
  else if lhs.x = rhs.x ∧ mod (lhs.y + rhs.y) field = 0 then .ok pointAtInfinity
  else if lhs.x = rhs.x ∧ lhs.y = rhs.y ∧ lhs.y = 0 then .ok pointAtInfinity
  else do
    let lambda ←
      if lhs.x = rhs.x ∧ lhs.y = rhs.y then do
        pure (mod (3 * lhs.x * lhs.x * (← modInverse (2 * lhs.y) field)) field)
      else do
        pure (mod ((rhs.y - lhs.y) * (← modInverse (rhs.x - lhs.x) field)) field)
    let x3 := mod (lambda * lambda - lhs.x - rhs.x) field
    let y3 := mod (lambda * (lhs.x - x3) - lhs.y) field
    pure { infinity := false, x := x3, y := y3 }

/-- Double and add, over the bits of the scalar that are left. -/
def scalarMultiplyLoop (result addend : AffinePoint) (k : ℕ) : Throws AffinePoint :=
  if k > 0 then do
    let result ← if k &&& 1 ≠ 0 then addPoints result addend else pure result
    let addend ← if k >>> 1 > 0 then addPoints addend addend else pure addend
    scalarMultiplyLoop result addend (k >>> 1)
  else pure result
termination_by k
decreasing_by rw [Nat.shiftRight_eq_div_pow]; omega

/-- A multiple of a point, by a scalar in the range. -/
def scalarMultiply (scalar : ℤ) (point : AffinePoint) : Throws AffinePoint :=
  if scalar ≤ 0 ∨ scalar ≥ order then .error "scalar must be in range [1, n-1]"
  else scalarMultiplyLoop pointAtInfinity point scalar.toNat

/-- The point of an abscissa and the parity of its ordinate. -/
def decodeCompressedPoint (point : Uint8Array) : Throws AffinePoint :=
  if point.length ≠ 33 then .error "compressed secp256k1 point must be 33 bytes"
  else
    let prefixByte := point.getD 0 0
    if prefixByte ≠ 0x02 ∧ prefixByte ≠ 0x03 then .error "invalid compressed point prefix"
    else
      let x := bytesToBigInt (point.drop 1)
      let rhs := mod (x * x * x + 7) field
      let yCandidate := modPow rhs ((field + 1).tdiv 4).toNat field
      if mod (yCandidate * yCandidate) field ≠ rhs then .error "invalid compressed point"
      else
        let isOdd := yCandidate % 2 = 1
        let y := if decide isOdd = decide (prefixByte = 0x03) then yCandidate else field - yCandidate
        .ok { infinity := false, x := x, y := y }

/-- The abscissa behind the parity of the ordinate. -/
def encodeCompressedPoint (point : AffinePoint) : Throws Uint8Array :=
  if point.infinity then .error "cannot encode point at infinity"
  else .ok ((if point.y % 2 = 1 then 0x03 else 0x02) :: bigIntToBytes point.x 32)

/-! ## Public operations -/

/-- A multiple of the generator, encoded. -/
def scalarMultiplyG (scalar : Uint8Array) : Throws Uint8Array := do
  encodeCompressedPoint (← scalarMultiply (bytesToBigInt scalar) generator)

/-- A multiple of an encoded point. -/
def scalarMultiplyPoint (scalar point : Uint8Array) : Throws Uint8Array := do
  let decoded ← decodeCompressedPoint point
  encodeCompressedPoint (← scalarMultiply (bytesToBigInt scalar) decoded)

/-- The sum of encoded points. -/
def pointAdd (lhs rhs : Uint8Array) : Throws Uint8Array := do
  encodeCompressedPoint
    (← addPoints (← decodeCompressedPoint lhs) (← decodeCompressedPoint rhs))

/-- The difference of encoded points. -/
def pointSubtract (lhs rhs : Uint8Array) : Throws Uint8Array := do
  encodeCompressedPoint
    (← addPoints (← decodeCompressedPoint lhs) (negatePoint (← decodeCompressedPoint rhs)))

/-- The abscissa of an encoded point. -/
def getXCoordinate (point : Uint8Array) : Throws Uint8Array := do
  pure (bigIntToBytes (← decodeCompressedPoint point).x 32)

end CryptoOps
end CotMta.Client
