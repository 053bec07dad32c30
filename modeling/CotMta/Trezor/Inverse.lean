/-
  `bn_inverse` of `bignum.c` (with `USE_INVERSE_FAST`): inversion modulo an odd
  number.

  The nine words of a register are kept as the limbs of a `Bignum256` are.  A
  loop in place that reads `a[i]` and `a[i + 1]` before it writes `a[i]` is the
  function of the old words that it computes.  The result is `none` where an
  assertion fails, where a word outside a register is read, or where the rounds
  given to a loop do not suffice.
-/
import CotMta.Trezor.Curve

namespace CotMta.Trezor

open Limbs Bignum256

/-! ## Words of 32 bits -/

/-- The loop from limbs to words, over the limbs still to read. -/
def toWordsLoop : ℕ → ℕ → List ℕ → List ℕ
  | _, _, [] => []
  | i, temp32, limb :: limbs =>
    (temp32 ||| word ((limb <<< (30 - 2 * i) : ℕ))) ::
      toWordsLoop (i + 1) (limb >>> (2 + 2 * i)) limbs

/-- The eight words of a number. -/
def toWords (x : Bignum256) : List ℕ :=
  toWordsLoop 0 (x.limb 0) ((List.range 8).map fun i => x.limb (i + 1))

/-- The loop from words to limbs, over the words still to read. -/
def fromWordsLoop : ℕ → ℕ → List ℕ → List ℕ
  | _, temp32, [] => [temp32]
  | i, temp32, a :: as =>
    ((word ((a <<< (2 * i) : ℕ)) &&& 0x3FFFFFFF) ||| temp32) ::
      fromWordsLoop (i + 1) (a >>> (30 - 2 * i)) as

/-- The number of eight words. -/
def fromWords (as : List ℕ) : Bignum256 :=
  .ofFn fun i => (fromWordsLoop 0 0 as).getD i 0

/-! ## The registers -/

/-- `struct combo`: the first `len1` words and, from the end on, the others. -/
structure Combo where
  a : Bignum256
  len1 : ℕ
deriving DecidableEq

/-- Adjusting the length; `a[-1]` is not read. -/
def adjustLength (a : Bignum256) : ℕ → Option ℕ
  | 0 => none
  | len1 + 1 => if a.limb len1 = 0 then adjustLength a len1 else some (len1 + 1)

/-- Shifting the first part right by a word and the second part left. -/
def Combo.shiftWord (c : Combo) : Combo where
  a := .ofFn fun i => if i < 8 then c.a.limb (i + 1) else 0
  len1 := c.len1 - 1

/-- The shifts by whole words, with `k`. -/
def Combo.shiftWords : ℕ → Combo → ℕ → Option (Combo × ℕ)
  | 0, _, _ => none
  | rounds + 1, c, k =>
    if c.a.limb 0 = 0 then c.shiftWord.shiftWords rounds (k + 32) else some (c, k)

/-- The zero bits of `a[0]`, up to 32. -/
def zeroBits (a0 : ℕ) : ℕ := (List.range 32).findIdx fun j => a0 &&& 1 <<< j != 0

/-- Shifting the first part right by `j` bits and the second part left; the top word
    of the first part changes sides if nothing is left of it. -/
def Combo.shiftBits (j : ℕ) (c : Combo) : Combo :=
  let top := c.a.limb (c.len1 - 1) >>> j
  let len1 := if top = 0 then c.len1 - 1 else c.len1
  let old (i : ℕ) := if i + 1 = c.len1 then top else c.a.limb i
  { a := .ofFn fun i =>
      if i + 1 < c.len1 then c.a.limb i >>> j ||| word ((c.a.limb (i + 1) <<< (32 - j) : ℕ))
      else if i < len1 then top
      else word ((old i <<< j : ℕ)) ||| if i < 8 then c.a.limb (i + 1) >>> (32 - j) else 0
    len1 := len1 }

/-- The first `i` words of both, from the top: `1`, `0` or `-1`. -/
def compareWords (us vr : Bignum256) : ℕ → ℤ
  | 0 => 0
  | i + 1 =>
    if us.limb i = vr.limb i then compareWords us vr i
    else if us.limb i > vr.limb i then 1 else -1

/-- `cmp`. -/
def Combo.compare (us vr : Combo) : ℤ :=
  if us.len1 = vr.len1 then compareWords us.a vr.a us.len1 else (us.len1 : ℤ) - vr.len1

variable (W : Arith)

/-- The new `even`: its first part less that of `odd`. -/
def Combo.subtractFirst (odd even : Combo) : Combo :=
  let diff := (ripple 32 W.u64 1
    (((List.range odd.len1).map fun i => 0xFFFFFFFF + (even.a.limb i : ℤ) - odd.a.limb i) ++
      (List.range' odd.len1 (even.len1 - odd.len1)).map fun i =>
        0xFFFFFFFF + (even.a.limb i : ℤ))).1
  { even with a := .ofFn fun i =>
      if i < max odd.len1 even.len1 then diff.getD i 0 else even.a.limb i }

/-- The new `odd`: its second part plus that of `even`; the sum is by distance from
    the end. -/
def Combo.addSecond (odd even : Combo) : Combo :=
  let sum := (ripple 32 W.u64 0
    (((List.range (9 - even.len1)).map fun i =>
        (odd.a.limb (8 - i) : ℤ) + even.a.limb (8 - i)) ++
      (List.range' (9 - even.len1) (even.len1 - odd.len1)).map fun i =>
        (odd.a.limb (8 - i) : ℤ))).1
  { odd with a := .ofFn fun i =>
      if i < min odd.len1 even.len1 then odd.a.limb i else sum.getD (8 - i) 0 }

/-! ## The main loop -/

/-- `odd` and `even` of the registers, or the registers of `odd` and `even`:
    `evenIsVr` says where `even` points. -/
def arrange (evenIsVr : Bool) (a b : Combo) : Combo × Combo := if evenIsVr then (a, b) else (b, a)

/-- The first part is odd. -/
def Combo.odd0 (c : Combo) : Bool := c.a.limb 0 &&& 1 == 1

/-- The second part is odd. -/
def Combo.odd8 (c : Combo) : Bool := c.a.limb 8 &&& 1 == 1

/-- The reduction of `even` and of `k` at the head of each round. -/
def reduceEven (even : Combo) (k : ℕ) : Option (Combo × ℕ) := do
  let len1 ← adjustLength even.a even.len1
  let (even, k) ← Combo.shiftWords 9 { even with len1 := len1 } k
  let j := zeroBits (even.a.limb 0)
  pure (if j > 0 then (even.shiftBits j, k + j) else (even, k))

/-- A round up to the comparison: the new `us`, `vr` and `k`. -/
def reduceRound (us vr : Combo) (evenIsVr : Bool) (k : ℕ) : Option (Combo × Combo × ℕ) := do
  let (odd, even) := arrange evenIsVr us vr
  if !(odd.odd0 && odd.odd8) then none
  else
    let (even, k) ← reduceEven even k
    if !(odd.odd0 && odd.odd8 && even.odd0 && !even.odd8) then none
    else
      let (us, vr) := arrange evenIsVr odd even
      pure (us, vr, k)

/-- The rest of a round: the new `us` and `vr`, and where `even` points then. -/
def subtractRound (us vr : Combo) (cmp : ℤ) : Option (Combo × Combo × Bool) :=
  let evenIsVr := !decide (cmp > 0)
  let (odd, even) := arrange evenIsVr us vr
  let even := Combo.subtractFirst W odd even
  let odd := Combo.addSecond W odd even
  if !(odd.odd0 && odd.odd8 && !even.odd0) then none
  else
    let (us, vr) := arrange evenIsVr odd even
    some (us, vr, evenIsVr)

/-- The last `us`, and `k`. -/
def inverseLoop : ℕ → Combo → Combo → Bool → ℕ → Option (Combo × ℕ)
  | 0, _, _, _, _ => none
  | rounds + 1, us, vr, evenIsVr, k => do
    let (us, vr, k) ← reduceRound us vr evenIsVr k
    let cmp := us.compare vr
    if cmp = 0 then some (us, k)
    else
      let (us, vr, evenIsVr) ← subtractRound W us vr cmp
      inverseLoop rounds us vr evenIsVr k

/-! ## The division by the power of two -/

/-- The loop that ends with `-prime⁻¹` modulo `2 ^ 32`. -/
def negInverseLoop : ℕ → ℕ → ℕ → Option ℕ
  | 0, _, _ => none
  | rounds + 1, amone, inverse =>
    if amone = 0 then some inverse
    else
      let amone := word ((amone * amone : ℕ))
      negInverseLoop rounds amone (word ((inverse * (amone + 1) : ℕ)))

/-- The words `s[0]`, …, `s[7]`, least significant first, divided by `2 ^ 32`. -/
def divideWord (pp : List ℕ) (inverse : ℕ) (s : List ℕ) : Option (List ℕ) :=
  let factor := word ((inverse * s.getD 0 0 : ℕ))
  let temp := W.u64 ((s.getD 0 0 + pp.getD 0 0 * factor : ℕ))
  if temp &&& 0xFFFFFFFF != 0 then none
  else
    let res := ripple 32 W.u64 (temp >>> 32) ((List.range 7).map fun i =>
      ((s.getD (i + 1) 0 + pp.getD (i + 1) 0 * factor : ℕ) : ℤ))
    some (res.1 ++ [res.2 &&& 0xFFFFFFFF])

/-- The words divided by `2 ^ k`, for `k < 32`. -/
def divideBits (pp : List ℕ) (inverse : ℕ) (s : List ℕ) (k : ℕ) : Option (List ℕ) :=
  let mask := 1 <<< k - 1
  let factor := word ((inverse * s.getD 0 0 : ℕ)) &&& mask
  let temp := W.u64 ((s.getD 0 0 + pp.getD 0 0 * factor : ℕ)) >>> k
  if word ((s.getD 0 0 + pp.getD 0 0 * factor : ℕ)) &&& mask != 0 then none
  else
    let res := ripple 32 W.u64 temp ((List.range 7).map fun i =>
      (((s.getD (i + 1) 0 + pp.getD (i + 1) 0 * factor) <<< (32 - k) : ℕ) : ℤ))
    some (res.1 ++ [res.2 &&& 0xFFFFFFFF])

/-- Both divisions: by words as long as `k` is at least 32, and by the bits left. -/
def dividePow (pp : List ℕ) (inverse : ℕ) (s : List ℕ) (k : ℕ) : Option (List ℕ) :=
  if 32 ≤ k then do
    let s ← divideWord W pp inverse s
    dividePow pp inverse s (k - 32)
  else if 0 < k then divideBits W pp inverse s k
  else some s
termination_by k

/-- The new `x`, with that many rounds for the main loop. -/
def bnInverse (rounds : ℕ) (x prime : Bignum256) : Option Bignum256 := do
  let x := bnMod W (bnFastMod W x prime) prime
  let pp := toWords prime
  let vr := toWords x
  let us : Combo := ⟨.ofFn fun i => if i < 8 then pp.getD i 0 else 1, 8⟩
  let vr : Combo := ⟨.ofFn fun i => if i < 8 then vr.getD i 0 else 0, 8⟩
  let (us, k) ← inverseLoop W rounds us vr true 0
  if pp.getD 0 0 &&& 1 == 0 then none
  else
    let inverse ← negInverseLoop 6 (word ((pp.getD 0 0 : ℤ) - 1)) (word ((pp.getD 0 0 : ℤ) - 2))
    let s ← dividePow W pp inverse ((List.range 8).map fun i => us.a.limb (8 - i)) k
    pure (fromWords s)

end CotMta.Trezor
