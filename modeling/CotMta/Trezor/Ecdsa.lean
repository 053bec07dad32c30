/-
  `ecdsa.c`: points, their encodings and the parser of public keys.

  `ecdsa_read_pubkey` takes a pointer.  It is stated over a function `read` that
  gives the byte at an index in some monad: `Option` for a read that may miss
  the buffer, `Id` for a memory that has a byte at every index.

  The group operations are parameters (`GroupOps`); `pointAdd` is the code of
  one of them, over the long `bn_inverse` of `bignum.c`.
-/
import CotMta.Trezor.Curve

namespace CotMta.Trezor

/-- `curve_point`. -/
@[ext] structure CurvePoint where
  x : Bignum256
  y : Bignum256
deriving DecidableEq

/-- The group operations of the curve: `point_add` gives the new `cp2`. -/
structure GroupOps where
  point_multiply : Bignum256 → CurvePoint → CurvePoint
  scalar_multiply : Bignum256 → CurvePoint
  point_add : CurvePoint → CurvePoint → CurvePoint

variable (W : Arith)

/-- Infinity has no coordinates, here two zeros. -/
def pointIsInfinity (p : CurvePoint) : Bool := bnIsZero p.x && bnIsZero p.y

/-! ## Addition -/

namespace Ecdsa

/-- The point at infinity. -/
def pointSetInfinity : CurvePoint := ⟨bnZero, bnZero⟩

/-- Equal coordinates. -/
def pointIsEqual (p q : CurvePoint) : Bool := bnIsEqual p.x q.x && bnIsEqual p.y q.y

/-- Equal abscissas and different ordinates, the first one not zero. -/
def pointIsNegativeOf (p q : CurvePoint) : Bool :=
  if !bnIsEqual p.x q.x then false
  else if bnIsZero p.y then false
  else !bnIsEqual p.y q.y

/-- The lines in which `point_add` and `point_double` agree: the third point on
    the line of slope `lambda` through `cp`, reflected.  The two abscissas of the
    line add up to `sum`. -/
def thirdPoint (lambda sum : Bignum256) (cp : CurvePoint) : CurvePoint :=
  let xr := bnMultiply W lambda lambda prime
  let xr := bnSubtractmod W xr sum prime
  let xr := bnMod W (bnFastMod W xr prime) prime
  let yr := bnSubtractmod W cp.x xr prime
  let yr := bnMultiply W lambda yr prime
  let yr := bnSubtractmod W yr cp.y prime
  let yr := bnMod W (bnFastMod W yr prime) prime
  ⟨xr, yr⟩

variable (bn_inverse : Bignum256 → Bignum256)

/-- `-curve->a` is zero. -/
def pointDouble (cp : CurvePoint) : CurvePoint :=
  if pointIsInfinity cp then cp
  else if bnIsZero cp.y then pointSetInfinity
  else
    let lambda := bnMultK W cp.y 2 prime
    let lambda := bn_inverse lambda
    let xr := bnMultiply W cp.x cp.x prime
    let xr := bnMultK W xr 3 prime
    let xr := bnSubi W xr 0 prime
    let lambda := bnMultiply W xr lambda prime
    thirdPoint W lambda (bnLshift cp.x) cp

/-- The new `cp2`. -/
def pointAdd (cp1 cp2 : CurvePoint) : CurvePoint :=
  if pointIsInfinity cp1 then cp2
  else if pointIsInfinity cp2 then cp1
  else if pointIsEqual cp1 cp2 then pointDouble W bn_inverse cp2
  else if pointIsNegativeOf cp1 cp2 then pointSetInfinity
  else
    let inv := bnSubtractmod W cp2.x cp1.x prime
    let inv := bn_inverse inv
    let lambda := bnSubtractmod W cp2.y cp1.y prime
    let lambda := bnMultiply W inv lambda prime
    thirdPoint W lambda (bnAddmod W cp1.x cp2.x prime) cp1

end Ecdsa

/-- The operations with the code of `point_add`. -/
def GroupOps.withPointAdd (ops : GroupOps) (bn_inverse : Bignum256 → Bignum256) : GroupOps :=
  { ops with point_add := Ecdsa.pointAdd machine bn_inverse }

/-! ## Encodings -/

/-- The abscissa behind the parity of the ordinate. -/
def compressCoords (cp : CurvePoint) : Bytes 33 :=
  ⟨(if bnIsOdd cp.y then 0x03 else 0x02) :: (bnWriteBe W cp.x).toList, by simp⟩

/-- `curve->a` is zero. -/
def uncompressCoords (odd : UInt8) (x : Bignum256) : Bignum256 :=
  let y := bnMultiply W x x prime
  let y := bnSubi W y 0 prime
  let y := bnMultiply W x y prime
  let y := bnAdd W y curveB
  let y := bnSqrt W y prime
  if (odd &&& 0x01).toNat ≠ y.limb 0 &&& 1 then bnSubtract W prime y else y

/-- Reduced coordinates, not infinity, that satisfy the equation. -/
def ecdsaValidatePubkey (pub : CurvePoint) : Bool :=
  if pointIsInfinity pub then false
  else if !bnIsLess pub.x prime || !bnIsLess pub.y prime then false
  else
    let y_2 := bnMod W (bnMultiply W pub.y pub.y prime) prime
    let x3_ax_b := bnMultiply W pub.x pub.x prime
    let x3_ax_b := bnSubi W x3_ax_b 0 prime
    let x3_ax_b := bnMultiply W pub.x x3_ax_b prime
    let x3_ax_b := bnMod W (bnAddmod W x3_ax_b curveB prime) prime
    bnIsEqual x3_ax_b y_2

section
variable {m : Type → Type} [Monad m]

/-- The bytes from index `o` on. -/
def readBytes (read : ℕ → m UInt8) : (n o : ℕ) → m (Bytes n)
  | 0, _ => pure ⟨[], rfl⟩
  | n + 1, o => do
    let byte ← read o
    let bytes ← readBytes read n (o + 1)
    pure ⟨byte :: bytes.toList, by simp⟩

/-- `none` is the result `0`. -/
def ecdsaReadPubkey (read : ℕ → m UInt8) : m (Option CurvePoint) := do
  let head ← read 0
  if head = 0x04 then
    let x ← readBytes read 32 1
    let y ← readBytes read 32 33
    let pub : CurvePoint := ⟨bnReadBe W x, bnReadBe W y⟩
    pure (if ecdsaValidatePubkey W pub then some pub else none)
  else if head = 0x02 ∨ head = 0x03 then
    let x ← readBytes read 32 1
    let pub : CurvePoint := ⟨bnReadBe W x, uncompressCoords W head (bnReadBe W x)⟩
    pure (if ecdsaValidatePubkey W pub then some pub else none)
  else pure none

end

/-- A multiple of the generator, compressed. -/
def ecdsaGetPublicKey33 (ops : GroupOps) (priv_key : Bytes 32) : Bytes 33 :=
  let R := ops.scalar_multiply (bnReadBe W priv_key)
  ⟨UInt8.ofNat (0x02 ||| R.y.limb 0 &&& 0x01) :: (bnWriteBe W R.x).toList, by simp⟩

end CotMta.Trezor
