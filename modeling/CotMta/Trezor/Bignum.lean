/-
  trezor-crypto's big numbers (`bignum.c`): nine limbs of 30 bits, the functions
  that the server calls.

  The C code computes in `uint32_t` and `uint64_t`.  Every stored expression
  goes through an `Arith`, which says what storing it does: `machine` cuts to
  the word, `exact` keeps the number as it is.  Both are the identity on values
  that fit (this is a field of `Arith`), so a result proved for every `Arith`
  holds of the machine and says at the same time that nothing wraps.
  `BignumSpec` gives each function a closed form on the natural numbers.
-/
import CotMta.Lib.Bytes

namespace CotMta.Trezor

open Limbs

/-! ## Machine words -/

/-- How the value of an unsigned 32-bit or 64-bit expression is stored. -/
structure Arith where
  u32 : ℤ → ℕ
  u64 : ℤ → ℕ
  u32_eq : ∀ e : ℤ, 0 ≤ e → e < 2 ^ 32 → (u32 e : ℤ) = e
  u64_eq : ∀ e : ℤ, 0 ≤ e → e < 2 ^ 64 → (u64 e : ℤ) = e
  /-- the low bits survive even when a shift pushes the high ones out -/
  u32_mod : ∀ a : ℕ, u32 a % 2 ^ 32 = a % 2 ^ 32

/-- The arithmetic of the C code. -/
def machine : Arith where
  u32 e := (e % 2 ^ 32).toNat
  u64 e := (e % 2 ^ 64).toNat
  u32_eq e h h' := by rw [Int.emod_eq_of_lt h h', Int.toNat_of_nonneg h]
  u64_eq e h h' := by rw [Int.emod_eq_of_lt h h', Int.toNat_of_nonneg h]
  u32_mod a := by omega

/-- The same expressions over unbounded integers. -/
def exact : Arith where
  u32 := Int.toNat
  u64 := Int.toNat
  u32_eq e h _ := Int.toNat_of_nonneg h
  u64_eq e h _ := Int.toNat_of_nonneg h
  u32_mod a := by simp

/-! ## The number type -/

/-- `bignum256`. -/
@[ext] structure Bignum256 where
  val : List ℕ
  length_val : val.length = 9
deriving DecidableEq

namespace Bignum256

/-- `a->val[i]`. -/
def limb (a : Bignum256) (i : ℕ) : ℕ := a.val.getD i 0

/-- The nine limbs `f 0`, …, `f 8`. -/
def ofFn (f : ℕ → ℕ) : Bignum256 := ⟨(List.range 9).map f, by simp⟩

/-- The loop `for i < 9: temp += e i; val[i] = temp & 0x3FFFFFFF; temp >>= 30`,
    with `temp` stored by `wrap`. -/
def carry (wrap : ℤ → ℕ) (temp : ℕ) (e : ℕ → ℤ) : Bignum256 :=
  ⟨(ripple 30 wrap temp ((List.range 9).map e)).1, by simp [List.range_succ, ripple]⟩

end Bignum256

/-- Nine words of memory, whatever they are: a `bignum256` before anything is
    stored in it. -/
abbrev Words := Fin 9 → UInt32

/-- The number whose limbs are the words; nothing says that they have 30 bits. -/
def Bignum256.ofWords (w : Words) : Bignum256 := .ofFn fun i => (w (Fin.ofNat 9 i)).toNat

/-- What `*b` is after `bn_copy(a, b)`: the number `a`, whatever `b` was. -/
def bnCopy (a _b : Bignum256) : Bignum256 := a

/-- A control word: a mask or a sign, which wraps around on purpose. -/
def word (e : ℤ) : ℕ := machine.u32 e

variable (W : Arith)

/-! ## Reading and writing -/

/-- `read_be(data + o)`. -/
def readBe (data : List UInt8) (o : ℕ) : ℕ :=
  (data.getD o 0).toNat <<< 24 ||| (data.getD (o + 1) 0).toNat <<< 16 |||
    (data.getD (o + 2) 0).toNat <<< 8 ||| (data.getD (o + 3) 0).toNat

/-- `write_be`; storing into a `uint8_t` keeps the low byte. -/
def writeBe (x : ℕ) : List UInt8 :=
  [UInt8.ofNat (x >>> 24), UInt8.ofNat (x >>> 16), UInt8.ofNat (x >>> 8), UInt8.ofNat x]

/-- The loop of `bn_read_be` from round `i` on, over the words still to read. -/
def bnReadBeLoop : ℕ → ℕ → List ℕ → List ℕ
  | _, temp, [] => [temp]
  | i, temp, limb :: words =>
    ((temp ||| W.u32 ((limb <<< (2 * i) : ℕ))) &&& 0x3FFFFFFF) ::
      bnReadBeLoop (i + 1) (limb >>> (30 - 2 * i)) words

theorem length_bnReadBeLoop : ∀ {i temp : ℕ} {words : List ℕ},
    (bnReadBeLoop W i temp words).length = words.length + 1
  | _, _, [] => rfl
  | _, _, _ :: _ => congrArg (· + 1) length_bnReadBeLoop

/-- The number of 32 bytes, the first one on top. -/
def bnReadBe (in_number : Bytes 32) : Bignum256 :=
  ⟨bnReadBeLoop W 0 0 ((List.range 8).map fun i => readBe in_number.toList ((7 - i) * 4)),
    by simp [length_bnReadBeLoop]⟩

/-- The loop of `bn_write_be` from round `i` on, over the limbs still to write. -/
def bnWriteBeLoop : ℕ → ℕ → List ℕ → List UInt8
  | _, _, [] => []
  | i, temp, limb :: limbs =>
    writeBe (W.u32 ((temp <<< (16 + 2 * i) : ℕ)) ||| limb >>> (14 - 2 * i)) ++
      bnWriteBeLoop (i + 1) limb limbs

theorem length_bnWriteBeLoop : ∀ {i temp : ℕ} {limbs : List ℕ},
    (bnWriteBeLoop W i temp limbs).length = 4 * limbs.length
  | _, _, [] => rfl
  | _, _, _ :: _ => by
    simp only [bnWriteBeLoop, List.length_append, length_bnWriteBeLoop, List.length_cons, writeBe,
      List.length_nil]
    omega

/-- The low 32 bytes of a number, from the top. -/
def bnWriteBe (in_number : Bignum256) : Bytes 32 :=
  ⟨bnWriteBeLoop W 0 (in_number.limb 8) ((List.range 8).map fun i => in_number.limb (7 - i)),
    by simp [length_bnWriteBeLoop]⟩

/-! ## Constants and comparisons -/

/-- `bn_zero`. -/
def bnZero : Bignum256 := .ofFn fun _ => 0

/-- `bn_one`. -/
def bnOne : Bignum256 := .ofFn fun i => if i = 0 then 1 else 0

/-- The lowest bit of the lowest limb. -/
def bnIsOdd (a : Bignum256) : Bool := a.limb 0 &&& 1 == 1

/-- All limbs are zero. -/
def bnIsZero (a : Bignum256) : Bool :=
  (List.range 9).foldl (fun result i => result ||| a.limb i) 0 == 0

/-- Nine one-bit shifts: both accumulators stay below `2⁹`. -/
def bnIsLess (a b : Bignum256) : Bool :=
  let res := (List.range 9).reverse.foldl
    (fun res i => ((res.1 <<< 1) ||| (decide (a.limb i < b.limb i)).toNat,
      (res.2 <<< 1) ||| (decide (a.limb i > b.limb i)).toNat)) (0, 0)
  decide (res.1 > res.2)

/-- All limbs are equal. -/
def bnIsEqual (a b : Bignum256) : Bool :=
  (List.range 9).foldl (fun result i => result ||| (a.limb i ^^^ b.limb i)) 0 == 0

/-- The masks are `(uint32_t)-cond` and its complement; the source asserts that `cond`
    is 0 or 1, which a `Bool` is. -/
def bnCmov (cond : Bool) (truecase falsecase : Bignum256) : Bignum256 :=
  let tmask := if cond then 0xFFFFFFFF else 0
  let fmask := 0xFFFFFFFF - tmask
  .ofFn fun i => (truecase.limb i &&& tmask) ||| (falsecase.limb i &&& fmask)

/-- The limb expression has no carry: every limb takes its neighbour's low bit. -/
def bnRshift (a : Bignum256) : Bignum256 :=
  .ofFn fun i => (a.limb i >>> 1) ||| (if i < 8 then (a.limb (i + 1) &&& 1) <<< 29 else 0)

/-- Every limb takes its neighbour's high bit; the loop runs from the top, so
    that the neighbour is still the old one. -/
def bnLshift (a : Bignum256) : Bignum256 :=
  .ofFn fun i => ((a.limb i <<< 1) &&& 0x3FFFFFFF) |||
    (if 0 < i then (a.limb (i - 1) &&& 0x20000000) >>> 29 else 0)

/-! ## Addition and subtraction -/

/-- `a + b`, not reduced. -/
def bnAdd (a b : Bignum256) : Bignum256 :=
  .carry W.u32 0 fun i => a.limb i + b.limb i

/-- `a + b` for a word `b`. -/
def bnAddi (a : Bignum256) (b : ℕ) : Bignum256 :=
  .carry W.u32 b fun i => a.limb i

/-- `a + prime - b`.  The source asserts `b <= prime->val[0]`; all its callers here
    have `b` zero. -/
def bnSubi (a : Bignum256) (b : ℕ) (prime : Bignum256) : Bignum256 :=
  bnAdd W (.ofFn fun i => if i = 0 then W.u32 (a.limb 0 - b) else a.limb i) prime

/-- `a - b`, which must not be negative. -/
def bnSubtract (a b : Bignum256) : Bignum256 :=
  .carry W.u32 1 fun i => 0x3FFFFFFF + a.limb i - b.limb i

/-- `a + 2 prime - b`, not reduced. -/
def bnSubtractmod (a b prime : Bignum256) : Bignum256 :=
  .carry W.u32 1 fun i => 0x3FFFFFFF + a.limb i + 2 * prime.limb i - b.limb i

/-- `x`, or `x - prime` if that is not negative. -/
def bnMod (x prime : Bignum256) : Bignum256 :=
  let flag := bnIsLess x prime
  let temp := bnSubtract W x prime
  bnCmov flag x temp

/-- The constant that each step of the reductions adds, so that the difference
    stays positive. -/
def offset (j : ℕ) : ℤ := if j = 0 then 0x2000000000000000 else 0x1FFFFFFF80000000

/-- `x` less the multiple of `prime` that its bits from `2 ^ 256` on count. -/
def bnFastMod (x prime : Bignum256) : Bignum256 :=
  let coef := x.limb 8 >>> 16
  .carry W.u64 0 fun j => offset j + x.limb j - prime.limb j * coef

/-- `a + b`, partly reduced. -/
def bnAddmod (a b prime : Bignum256) : Bignum256 :=
  bnFastMod W (.ofFn fun i => W.u32 (a.limb i + b.limb i)) prime

/-- `k x` for a small `k`, partly reduced. -/
def bnMultK (x : Bignum256) (k : ℕ) (prime : Bignum256) : Bignum256 :=
  bnFastMod W (.ofFn fun i => W.u32 ((k * x.limb i : ℕ))) prime

/-- The loop of `bn_mult_half`, over the limbs of `tmp2` still to do. -/
def bnMultHalfLoop : ℕ → List ℕ → List ℕ
  | tmp1, [] => [tmp1]
  | tmp1, tmp2 :: l =>
    let tmp1 := W.u32 ((tmp1 + (tmp2 &&& 1) <<< 29 : ℕ))
    (tmp1 &&& 0x3FFFFFFF) :: bnMultHalfLoop (W.u32 ((tmp1 >>> 30 + tmp2 >>> 1 : ℕ))) l

theorem length_bnMultHalfLoop : ∀ {tmp1 : ℕ} {l : List ℕ},
    (bnMultHalfLoop W tmp1 l).length = l.length + 1
  | _, [] => rfl
  | _, _ :: _ => congrArg (· + 1) length_bnMultHalfLoop

/-- Half of `x` or of `x + prime`, whichever is even. -/
def bnMultHalf (x prime : Bignum256) : Bignum256 :=
  let xodd := word (-(x.limb 0 &&& 1 : ℕ))
  let tmp2 (j : ℕ) := W.u32 ((x.limb j + (prime.limb j &&& xodd) : ℕ))
  ⟨bnMultHalfLoop W (tmp2 0 >>> 1) ((List.range 8).map fun j => tmp2 (j + 1)),
    by simp [length_bnMultHalfLoop]⟩

/-- Negation modulo `prime` if `cond` is all ones; `none` where an assertion fails. -/
def conditionalNegate (cond : ℕ) (a prime : Bignum256) : Option Bignum256 :=
  if a.limb 8 < 0x20000 then
    let neg := Bignum256.carry W.u32 1 fun j => 0x3FFFFFFF + 2 * prime.limb j - a.limb j
    let a : Bignum256 := .ofFn fun j =>
      (neg.limb j &&& cond) ||| (a.limb j &&& (0xFFFFFFFF - cond))
    if a.limb 8 < 0x20000 then some a else none
  else none

/-! ## Multiplication -/

/-- The inner loop `temp += k->val[j] * (uint64_t)x->val[i - j]`, over the `j`
    of column `i`. -/
def mulColumn (k x : Bignum256) (i temp : ℕ) : ℕ :=
  (List.range' (i - 8) (min i 8 + 1 - (i - 8))).foldl
    (fun temp j => W.u64 (temp + k.limb j * x.limb (i - j))) temp

/-- The columns still to do; what remains goes into the last limb. -/
def bnMultiplyLongLoop (k x : Bignum256) : ℕ → List ℕ → List ℕ
  | temp, [] => [W.u32 temp]
  | temp, i :: is =>
    let temp := mulColumn W k x i temp
    (temp &&& 0x3FFFFFFF) :: bnMultiplyLongLoop k x (temp >>> 30) is

/-- `bn_multiply_long`: the 18 limbs of the product. -/
def bnMultiplyLong (k x : Bignum256) : List ℕ := bnMultiplyLongLoop W k x 0 (List.range 17)

/-- `bn_multiply_reduce_step`: `prime` times `coef` is taken off the limbs from
    `i - 8` on.  The assertion on `i` holds in all steps. -/
def bnMultiplyReduceStep (res : List ℕ) (prime : Bignum256) (i : ℕ) : List ℕ :=
  let coef := W.u32 (res.getD i 0 >>> 16 + res.getD (i + 1) 0 <<< 14 : ℕ)
  let entry (j : ℕ) : ℤ := offset j + res.getD (i - 8 + j) 0 - prime.limb j * coef
  res.take (i - 8) ++ (ripple 30 W.u64 0 ((List.range 10).map entry)).1 ++ res.drop (i + 2)

/-- The steps `i = 16, …, 8`; `prime.limb 9` does not exist and counts as zero in
    the unrolled last addition of each step. -/
def bnMultiplyReduce (res : List ℕ) (prime : Bignum256) : Bignum256 :=
  let res := ((List.range' 8 9).reverse).foldl (fun res i => bnMultiplyReduceStep W res prime i) res
  .ofFn fun i => res.getD i 0

/-- `bn_multiply` where its assertions hold. -/
def bnMultiply (k x prime : Bignum256) : Bignum256 :=
  bnMultiplyReduce W (bnMultiplyLong W k x) prime

/-- Step `i` with its assertions: `none` where `coef` is too large, or where the
    limb that the step is there to clear is not zero. -/
def bnMultiplyReduceChecked (prime : Bignum256) (res : List ℕ) (i : ℕ) : Option (List ℕ) :=
  let coef := W.u32 (res.getD i 0 >>> 16 + res.getD (i + 1) 0 <<< 14 : ℕ)
  if coef < 0x80000000 then
    let res := bnMultiplyReduceStep W res prime i
    if res.getD (i + 1) 0 = 0 then some res else none
  else none

/-- `bn_multiply`, or `none` where an assertion fails and the program ends.  Callers that
    keep in range use `bnMultiply`: what is proved of it rests on the assertions
    (`bnMultiply_of_checked`). -/
def bnMultiplyChecked (k x prime : Bignum256) : Option Bignum256 :=
  (((List.range' 8 9).reverse).foldlM (bnMultiplyReduceChecked W prime)
    (bnMultiplyLong W k x)).map fun res => .ofFn fun i => res.getD i 0

/-! ## Square root -/

/-- The inner loop of `bn_sqrt` on limb `i`: `j` rounds left. -/
def bnSqrtLimb (prime : Bignum256) (i : ℕ) :
    ℕ → ℕ → Bignum256 → Bignum256 → Bignum256 × Bignum256
  | 0, _, x, res => (x, res)
  | j + 1, limb, x, res =>
    if i = 8 ∧ limb = 0 then (x, res)
    else
      let res := if limb &&& 1 = 1 then bnMultiply W x res prime else res
      bnSqrtLimb prime i j (limb >>> 1) (bnMultiply W x x prime) res

/-- `bn_sqrt`: the power `(prime + 1) / 4`, over the limbs of the exponent. -/
def bnSqrt (x prime : Bignum256) : Bignum256 :=
  let p := bnRshift (bnRshift (bnAddi W prime 1))
  let r := (List.range 9).foldl (fun r i => bnSqrtLimb W prime i 30 (p.limb i) r.1 r.2) (x, bnOne)
  bnMod W r.2 prime

end CotMta.Trezor
