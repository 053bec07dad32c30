/-
  `ecdsa.c`: points in Jacobian coordinates and the two multiplications.

  The random factor of `curve_to_jacobian` comes from `generate_k_random`, which
  reads nine words at a time: `draws` are the groups of nine that `random32`
  gives.  The multiplications are `none` where an assertion fails or where the
  draws end before one of them is accepted.

  The table `curve->cp` is a function of its two indices; `Table` has its
  numbers.
-/
import CotMta.Lib.Rejection
import CotMta.Trezor.Ecdsa

namespace CotMta.Trezor.Ecdsa

open Limbs Rejection

/-- `jacobian_curve_point`. -/
@[ext] structure JacobianCurvePoint where
  x : Bignum256
  y : Bignum256
  z : Bignum256
deriving DecidableEq

/-- The number in nine random words. -/
def maskWords (words : Bignum256) : Bignum256 :=
  .ofFn fun i => words.limb i &&& if i < 8 then 0x3FFFFFFF else 0xFFFF

/-- The first number drawn that is neither zero nor from `prime` on. -/
def generateKRandom (prime : Bignum256) (draws : List Bignum256) : Option Bignum256 :=
  (firstAccepted (fun k => !(bnIsZero k || !bnIsLess k prime)) (draws.map maskWords)).map Prod.fst

variable (W : Arith)

/-! ## Coordinates -/

/-- The lines of `curve_to_jacobian` after the draw of `z`. -/
def curveToJacobian (p : CurvePoint) (z : Bignum256) : JacobianCurvePoint :=
  let x := bnMultiply W z z prime
  let y := bnMultiply W z x prime
  ⟨bnMultiply W p.x x prime, bnMultiply W p.y y prime, z⟩

/-- `x / z^2` and `y / z^3`. -/
def jacobianToCurve (bn_inverse : Bignum256 → Bignum256) (jp : JacobianCurvePoint) : CurvePoint :=
  let y := bn_inverse jp.z
  let x := bnMultiply W y y prime
  let y := bnMultiply W x y prime
  let x := bnMultiply W jp.x x prime
  let y := bnMultiply W jp.y y prime
  ⟨bnMod W x prime, bnMod W y prime⟩

/-! ## Addition and doubling -/

/-- The new `p2`; the branches on `a != 0` are not taken. -/
def pointJacobianAdd (p1 : CurvePoint) (p2 : JacobianCurvePoint) : JacobianCurvePoint :=
  let xz := bnMultiply W p2.z p2.z prime
  let yz := bnMultiply W xz p2.z prime
  let xz := bnMultiply W p1.x xz prime
  let h := bnSubtractmod W xz p2.x prime
  let h := bnFastMod W h prime
  let xz := bnAdd W xz p2.x
  let is_doubling := bnIsEqual h prime
  let yz := bnMultiply W p1.y yz prime
  let r := bnSubtractmod W yz p2.y prime
  let yz := bnAdd W yz p2.y
  let r2 := bnMultiply W p2.x p2.x prime
  let r2 := bnMultK W r2 3 prime
  let r := bnCmov is_doubling r2 r
  let h := bnCmov is_doubling yz h
  let hsqx := bnMultiply W h h prime
  let hcby := bnMultiply W hsqx h prime
  let hsqx := bnMultiply W xz hsqx prime
  let hcby := bnMultiply W yz hcby prime
  let z := bnMultiply W h p2.z prime
  let x := bnMultiply W r r prime
  let x := bnSubtractmod W x hsqx prime
  let x := bnFastMod W x prime
  let y := bnSubtractmod W hsqx x prime
  let y := bnSubtractmod W y x prime
  let y := bnMultiply W r y prime
  let y := bnSubtractmod W y hcby prime
  let y := bnMultHalf W y prime
  let y := bnFastMod W y prime
  ⟨x, y, z⟩

/-- `-curve->a` is zero. -/
def pointJacobianDouble (p : JacobianCurvePoint) : JacobianCurvePoint :=
  let m := bnMultiply W p.x p.x prime
  let m := bnMultK W m 3 prime
  let az4 := bnMultiply W p.z p.z prime
  let az4 := bnMultiply W az4 az4 prime
  let az4 := bnMultK W az4 0 prime
  let m := bnSubtractmod W m az4 prime
  let m := bnMultHalf W m prime
  let msq := bnMultiply W m m prime
  let ysq := bnMultiply W p.y p.y prime
  let xysq := bnMultiply W ysq p.x prime
  let z := bnMultiply W p.y p.z prime
  let x := bnLshift xysq
  let x := bnFastMod W x prime
  let x := bnSubtractmod W msq x prime
  let x := bnFastMod W x prime
  let y := bnSubtractmod W xysq x prime
  let y := bnMultiply W m y prime
  let ysq := bnMultiply W ysq ysq prime
  let y := bnSubtractmod W y ysq prime
  let y := bnFastMod W y prime
  ⟨x, y, z⟩

/-! ## Multiplication -/

/-- The lines with which both multiplications begin: `a` is `k` plus `2 ^ 256`,
    less the order if `k` is even.  The last limb is not cut to 30 bits. -/
def oddMultiplier (k : Bignum256) : Bignum256 :=
  let is_even := word ((k.limb 0 &&& 1 : ℕ) - 1)
  let sum := ripple 30 W.u32 1 ((List.range 8).map fun j =>
    0x3FFFFFFF + (k.limb j : ℤ) - (order.limb j &&& is_even : ℕ))
  ⟨sum.1 ++ [W.u32 (sum.2 + 0xFFFF + k.limb 8 - (order.limb 8 &&& is_even : ℕ))],
    by simp [sum, length_ripple]⟩

/-- Some limb is not zero. -/
def isNonZero (k : Bignum256) : Bool :=
  (List.range 9).foldl (fun result i => result ||| k.limb i) 0 != 0

variable (bn_inverse : Bignum256 → Bignum256)

/-- The entries after `last`; `two` stays in `pmult[7]` until the last round. -/
def pmultLoop (two : CurvePoint) : ℕ → CurvePoint → List CurvePoint
  | 0, _ => []
  | i + 1, last =>
    let next := pointAdd W bn_inverse last two
    next :: pmultLoop two i next

/-- The table `pmult` of `p`, `3 p`, …, `15 p`. -/
def pmult (p : CurvePoint) : List CurvePoint :=
  p :: pmultLoop W bn_inverse (pointDouble W bn_inverse p) 7 p

/-- Where `point_multiply` reads its multiplier: `aptr` as an index, `abits` and
    `ashift`. -/
structure Window where
  aptr : ℕ
  abits : ℕ
  ashift : ℤ

/-- The window four bits further down, and its bits. -/
def Window.next (a : Bignum256) (w : Window) : Window × ℕ :=
  let ashift := w.ashift - 4
  if ashift < 0 then
    let bits := W.u32 ((w.abits <<< (-ashift).toNat : ℕ))
    let abits := a.limb (w.aptr - 1)
    let ashift := ashift + 30
    (⟨w.aptr - 1, abits, ashift⟩, (bits ||| abits >>> ashift.toNat) &&& 31)
  else (⟨w.aptr, w.abits, ashift⟩, (w.abits >>> ashift.toNat) &&& 31)

/-- The sign of five bits, as a mask, and the table's index. -/
def signedDigit (bits : ℕ) : ℕ × ℕ :=
  let sign := word ((bits >>> 4 : ℕ) - 1)
  (sign, ((bits ^^^ sign) &&& 15) >>> 1)

/-- The rounds `i - 1`, …, `0`. -/
def pointMultiplyLoop (a : Bignum256) (table : List CurvePoint) :
    ℕ → Window → ℕ → JacobianCurvePoint → Option (ℕ × JacobianCurvePoint)
  | 0, _, sign, jres => some (sign, jres)
  | i + 1, window, sign, jres => do
    let jres := pointJacobianDouble W jres
    let jres := pointJacobianDouble W jres
    let jres := pointJacobianDouble W jres
    let jres := pointJacobianDouble W jres
    let (window, bits) := window.next W a
    let (nsign, index) := signedDigit bits
    let z ← conditionalNegate W (sign ^^^ nsign) jres.z prime
    let jres := pointJacobianAdd W (table.getD index pointSetInfinity) { jres with z := z }
    pointMultiplyLoop a table i window nsign jres

/-- `k * p`. -/
def pointMultiply (draws : List Bignum256) (k : Bignum256) (p : CurvePoint) :
    Option CurvePoint := do
  let a := oddMultiplier W k
  if !bnIsLess k order || a.limb 0 &&& 1 == 0 then none
  else if !isNonZero k then some pointSetInfinity
  else
    let table := pmult W bn_inverse p
    let window : Window := ⟨8, a.limb 8, 12⟩
    let (sign, index) := signedDigit (window.abits >>> 12)
    let z ← generateKRandom prime draws
    let jres := curveToJacobian W (table.getD index pointSetInfinity) z
    let (sign, jres) ← pointMultiplyLoop W a table 63 window sign jres
    let z ← conditionalNegate W sign jres.z prime
    pure (jacobianToCurve W bn_inverse { jres with z := z })

/-- A shift by four places. -/
def shiftFour (a : Bignum256) : Bignum256 :=
  .ofFn fun j => if j < 8 then a.limb j >>> 4 ||| W.u32 (((a.limb (j + 1) &&& 0xF) <<< 26 : ℕ))
    else a.limb j >>> 4

/-- The index in the table of the last five bits; bit 0 of the digit is the bit that
    stands above them, negated. -/
def lowDigit (a : Bignum256) : ℕ :=
  let lowbits := a.limb 0 &&& 31
  (lowbits ^^^ word ((lowbits >>> 4 : ℕ) - 1)) &&& 15

/-- The rounds `i`, …, `63`, of which `rounds` are left. -/
def scalarMultiplyLoop (cp : ℕ → ℕ → CurvePoint) :
    (rounds i : ℕ) → Bignum256 → JacobianCurvePoint → Option (Bignum256 × JacobianCurvePoint)
  | 0, _, a, jres => some (a, jres)
  | rounds + 1, i, a, jres => do
    let a := shiftFour W a
    let lowbits := lowDigit a
    let y ← conditionalNegate W (word ((lowbits &&& 1 : ℕ) - 1)) jres.y prime
    let jres := pointJacobianAdd W (cp i (lowbits >>> 1)) { jres with y := y }
    scalarMultiplyLoop cp rounds (i + 1) a jres

/-- `k * G`, over the table `cp`. -/
def scalarMultiply (cp : ℕ → ℕ → CurvePoint) (draws : List Bignum256) (k : Bignum256) :
    Option CurvePoint := do
  let a := oddMultiplier W k
  if !bnIsLess k order || a.limb 0 &&& 1 == 0 then none
  else if !isNonZero k then some pointSetInfinity
  else
    let z ← generateKRandom prime draws
    let jres := curveToJacobian W (cp 0 (lowDigit a >>> 1)) z
    let (a, jres) ← scalarMultiplyLoop W cp 63 1 a jres
    let y ← conditionalNegate W (word ((a.limb 0 >>> 4 &&& 1 : ℕ) - 1)) jres.y prime
    pure (jacobianToCurve W bn_inverse { jres with y := y })

end CotMta.Trezor.Ecdsa
