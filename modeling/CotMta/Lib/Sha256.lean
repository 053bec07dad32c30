/-
  SHA-256 as FIPS 180-4 defines it: the words and functions of section 4, the
  padding of section 5 and the computation of section 6.  The constants are
  given by what they are, the first bits of roots of primes.
-/
import CotMta.Lib.Bytes
import CotMta.Lib.MerkleDamgard
import Mathlib.Data.Nat.NthRoot.Defs
import Mathlib.Data.Nat.Nth
import Mathlib.Data.Nat.Prime.Defs

namespace CotMta.Sha256

open MerkleDamgard

/-- A word of 32 bits. -/
abbrev Word : Type := BitVec 32

/-- A hash value, or the working variables. -/
structure Vars where
  (a b c d e f g h : Word)
deriving DecidableEq

/-- The words in order. -/
def Vars.toList (v : Vars) : List Word := [v.a, v.b, v.c, v.d, v.e, v.f, v.g, v.h]

theorem Vars.toList_injective {v w : Vars} (h : v.toList = w.toList) : v = w := by
  cases v
  cases w
  simpa [toList] using h

/-- The sum, word by word. -/
def Vars.add (v w : Vars) : Vars :=
  ⟨v.a + w.a, v.b + w.b, v.c + w.c, v.d + w.d, v.e + w.e, v.f + w.f, v.g + w.g, v.h + w.h⟩

/-! ## Functions and constants -/

/-- The bits of `y` where `x` has ones, of `z` elsewhere. -/
def ch (x y z : Word) : Word := (x &&& y) ^^^ (~~~x &&& z)

/-- The bits that two of the three words agree on. -/
def maj (x y z : Word) : Word := (x &&& y) ^^^ (x &&& z) ^^^ (y &&& z)

/-- The first function of the rounds. -/
def bigSigma0 (x : Word) : Word := x.rotateRight 2 ^^^ x.rotateRight 13 ^^^ x.rotateRight 22

/-- The second function of the rounds. -/
def bigSigma1 (x : Word) : Word := x.rotateRight 6 ^^^ x.rotateRight 11 ^^^ x.rotateRight 25

/-- The first function of the schedule. -/
def smallSigma0 (x : Word) : Word := x.rotateRight 7 ^^^ x.rotateRight 18 ^^^ x >>> 3

/-- The second function of the schedule. -/
def smallSigma1 (x : Word) : Word := x.rotateRight 17 ^^^ x.rotateRight 19 ^^^ x >>> 10

/-- The first 32 bits of the fractional part of the `e`-th root of `q`. -/
def rootWord (e q : ℕ) : Word := .ofNat 32 (Nat.nthRoot e (q * 2 ^ (32 * e)))

/-- The constant of round `t`. -/
noncomputable def K (t : ℕ) : Word := rootWord 3 (Nat.nth Nat.Prime t)

/-- The initial hash value. -/
noncomputable def initial : Vars :=
  let H (t : ℕ) := rootWord 2 (Nat.nth Nat.Prime t)
  ⟨H 0, H 1, H 2, H 3, H 4, H 5, H 6, H 7⟩

/-! ## The computation -/

/-- Word `t` of the message schedule of a block. -/
def schedule (block : List UInt8) (t : ℕ) : Word :=
  if t < 16 then .ofNat 32 (beNat ((block.drop (4 * t)).take 4))
  else smallSigma1 (schedule block (t - 2)) + schedule block (t - 7) +
    smallSigma0 (schedule block (t - 15)) + schedule block (t - 16)

/-- A round on the working variables. -/
def round (k w : Word) (v : Vars) : Vars :=
  let t1 := v.h + bigSigma1 v.e + ch v.e v.f v.g + k + w
  let t2 := bigSigma0 v.a + maj v.a v.b v.c
  ⟨t1 + t2, v.a, v.b, v.c, v.d + t1, v.e, v.f, v.g⟩

/-- The working variables after that many rounds. -/
noncomputable def rounds (block : List UInt8) (h : Vars) : ℕ → Vars
  | 0 => h
  | t + 1 => round (K t) (schedule block t) (rounds block h t)

/-- The hash value after a block. -/
noncomputable def compress (h : Vars) (block : List UInt8) : Vars := h.add (rounds block h 64)

/-- What is put behind a message of that many bytes. -/
def padding (len : ℕ) : List UInt8 :=
  0x80 :: (List.replicate ((119 - len % 64) % 64) 0 ++ natBe 8 (8 * len))

/-- The bytes of a hash value. -/
def Vars.digest (v : Vars) : Bytes 32 :=
  ⟨v.toList.flatMap fun w => natBe 4 w.toNat, by simp [Vars.toList]⟩

/-- The hash of a message. -/
noncomputable def sha256 (message : List UInt8) : Bytes 32 :=
  (chain compress 64 initial (message ++ padding message.length)).digest

end CotMta.Sha256
