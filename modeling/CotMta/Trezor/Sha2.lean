/-
  SHA-256 of `sha2.c`, on a little-endian host.

  The buffer of a context is its 64 bytes in memory.  `sha256_Transform` is both
  the loop that is compiled and the one under `SHA2_UNROLL_TRANSFORM`, where the
  variables are not moved but change their names.
-/
import CotMta.Lib.Sha256

namespace CotMta.Trezor.Sha2

open Sha256 (Word Vars)

/-! ## Constants and functions -/

/-- The round constants. -/
def K256 : List Word := [
  0x428a2f98, 0x71374491, 0xb5c0fbcf, 0xe9b5dba5, 0x3956c25b, 0x59f111f1, 0x923f82a4, 0xab1c5ed5,
  0xd807aa98, 0x12835b01, 0x243185be, 0x550c7dc3, 0x72be5d74, 0x80deb1fe, 0x9bdc06a7, 0xc19bf174,
  0xe49b69c1, 0xefbe4786, 0x0fc19dc6, 0x240ca1cc, 0x2de92c6f, 0x4a7484aa, 0x5cb0a9dc, 0x76f988da,
  0x983e5152, 0xa831c66d, 0xb00327c8, 0xbf597fc7, 0xc6e00bf3, 0xd5a79147, 0x06ca6351, 0x14292967,
  0x27b70a85, 0x2e1b2138, 0x4d2c6dfc, 0x53380d13, 0x650a7354, 0x766a0abb, 0x81c2c92e, 0x92722c85,
  0xa2bfe8a1, 0xa81a664b, 0xc24b8b70, 0xc76c51a3, 0xd192e819, 0xd6990624, 0xf40e3585, 0x106aa070,
  0x19a4c116, 0x1e376c08, 0x2748774c, 0x34b0bcb5, 0x391c0cb3, 0x4ed8aa4a, 0x5b9cca4f, 0x682e6ff3,
  0x748f82ee, 0x78a5636f, 0x84c87814, 0x8cc70208, 0x90befffa, 0xa4506ceb, 0xbef9a3f7, 0xc67178f2]

/-- The state before the first block. -/
def sha256_initial_hash_value : Vars :=
  ⟨0x6a09e667, 0xbb67ae85, 0x3c6ef372, 0xa54ff53a,
    0x510e527f, 0x9b05688c, 0x1f83d9ab, 0x5be0cd19⟩

/-- `ROTR32`. -/
def rotr32 (b : ℕ) (x : Word) : Word := x >>> b ||| x <<< (32 - b)

/-- The bits of `y` where `x` has ones, of `z` elsewhere. -/
def Ch (x y z : Word) : Word := (x &&& y) ^^^ (~~~x &&& z)

/-- The bits that two of the three words agree on. -/
def Maj (x y z : Word) : Word := (x &&& y) ^^^ (x &&& z) ^^^ (y &&& z)

/-- `Sigma0_256` of the rounds. -/
def Sigma0_256 (x : Word) : Word := rotr32 2 x ^^^ rotr32 13 x ^^^ rotr32 22 x

/-- `Sigma1_256` of the rounds. -/
def Sigma1_256 (x : Word) : Word := rotr32 6 x ^^^ rotr32 11 x ^^^ rotr32 25 x

/-- `sigma0_256` of the message schedule. -/
def sigma0_256 (x : Word) : Word := rotr32 7 x ^^^ rotr32 18 x ^^^ x >>> 3

/-- `sigma1_256` of the message schedule. -/
def sigma1_256 (x : Word) : Word := rotr32 17 x ^^^ rotr32 19 x ^^^ x >>> 10

/-- `REVERSE32`: the bytes of a word in the other order. -/
def reverse32 (w : Word) : Word :=
  let tmp := w >>> 16 ||| w <<< 16
  (tmp &&& 0xff00ff00) >>> 8 ||| (tmp &&& 0x00ff00ff) <<< 8

/-! ## `sha256_Transform` -/

/-- The compression function on `a`, …, `h`. -/
def applyRound (k w : Word) (v : Vars) : Vars :=
  let T1 := v.h + Sigma1_256 v.e + Ch v.e v.f v.g + k + w
  let T2 := Sigma0_256 v.a + Maj v.a v.b v.c
  { h := v.g, g := v.f, f := v.e, e := v.d + T1, d := v.c, c := v.b, b := v.a, a := T1 + T2 }

/-- `W256[j] = *data++`, with the value assigned. -/
def copyWord (data W256 : List Word) (j : ℕ) : List Word × Word :=
  let w := data.getD j 0
  (W256.set j w, w)

/-- `W256[j&0x0f] += s1 + W256[(j+9)&0x0f] + s0`, with the value assigned. -/
def expandWord (W256 : List Word) (j : ℕ) : List Word × Word :=
  let s0 := W256.getD ((j + 1) &&& 0x0f) 0
  let s0 := sigma0_256 s0
  let s1 := W256.getD ((j + 14) &&& 0x0f) 0
  let s1 := sigma1_256 s1
  let w := W256.getD (j &&& 0x0f) 0 + (s1 + W256.getD ((j + 9) &&& 0x0f) 0 + s0)
  (W256.set (j &&& 0x0f) w, w)

section
variable (assign : List Word → ℕ → List Word × Word) (s : Vars × List Word) (j : ℕ)

/-- A pass of a loop, over the variables and `W256`. -/
def pass : Vars × List Word :=
  let (W256, w) := assign s.2 j
  (applyRound (K256.getD j 0) w s.1, W256)

/-- The new `state_out`.  Nothing is read of `W256` as it is found. -/
def sha256Transform (state_in : Vars) (data : List Word) : Vars :=
  let s := (List.range 16).foldl (pass (copyWord data)) (state_in, List.replicate 16 0)
  let s := (List.range' 16 48).foldl (pass expandWord) s
  state_in.add s.1

/-- `ROUND256` and `ROUND256_0_TO_15`: the new `d` and `h`. -/
def round256 (a b c d e f g h k w : Word) : Word × Word :=
  let T1 := h + Sigma1_256 e + Ch e f g + k + w
  (d + T1, T1 + Sigma0_256 a + Maj a b c)

/-- The eight rounds in the body of an unrolled loop. -/
def unrolledPass : Vars × List Word :=
  let ⟨a, b, c, d, e, f, g, h⟩ := s.1
  let (W256, w) := assign s.2 j
  let (d, h) := round256 a b c d e f g h (K256.getD j 0) w
  let (W256, w) := assign W256 (j + 1)
  let (c, g) := round256 h a b c d e f g (K256.getD (j + 1) 0) w
  let (W256, w) := assign W256 (j + 2)
  let (b, f) := round256 g h a b c d e f (K256.getD (j + 2) 0) w
  let (W256, w) := assign W256 (j + 3)
  let (a, e) := round256 f g h a b c d e (K256.getD (j + 3) 0) w
  let (W256, w) := assign W256 (j + 4)
  let (h, d) := round256 e f g h a b c d (K256.getD (j + 4) 0) w
  let (W256, w) := assign W256 (j + 5)
  let (g, c) := round256 d e f g h a b c (K256.getD (j + 5) 0) w
  let (W256, w) := assign W256 (j + 6)
  let (f, b) := round256 c d e f g h a b (K256.getD (j + 6) 0) w
  let (W256, w) := assign W256 (j + 7)
  let (e, a) := round256 b c d e f g h a (K256.getD (j + 7) 0) w
  (⟨a, b, c, d, e, f, g, h⟩, W256)

/-- The new `state_out` under `SHA2_UNROLL_TRANSFORM`. -/
def sha256TransformUnrolled (state_in : Vars) (data : List Word) : Vars :=
  let s := (List.range' 0 2 8).foldl (unrolledPass (copyWord data)) (state_in, List.replicate 16 0)
  let s := (List.range' 16 6 8).foldl (unrolledPass expandWord) s
  state_in.add s.1

end

/-! ## The context -/

/-- The state, the number of bits read, and the bytes of the current block. -/
structure SHA256_CTX where
  state : Vars
  bitcount : BitVec 64
  buffer : List UInt8

/-- The bytes `s` are put at a position. -/
def memcpy (d : List UInt8) (pos : ℕ) (s : List UInt8) : List UInt8 :=
  d.take pos ++ (s ++ d.drop (pos + s.length))

/-- Zeros are put at a position. -/
def memzero (d : List UInt8) (pos len : ℕ) : List UInt8 := memcpy d pos (List.replicate len 0)

/-- `sha256_Init`. -/
def sha256Init : SHA256_CTX where
  state := sha256_initial_hash_value
  bitcount := 0
  buffer := List.replicate 64 0

/-- `buffer[j]` as a word. -/
def load32 (buffer : List UInt8) (j : ℕ) : Word :=
  let byte (i : ℕ) := (buffer.getD (4 * j + i) 0).toBitVec
  byte 3 ++ byte 2 ++ byte 1 ++ byte 0

/-- The bytes of a word as they lie in memory. -/
def le32 (w : Word) : List UInt8 :=
  let byte (i : ℕ) : UInt8 := ⟨(w >>> (8 * i)).setWidth 8⟩
  [byte 0, byte 1, byte 2, byte 3]

/-- A word is stored at `buffer[j]`. -/
def store32 (buffer : List UInt8) (j : ℕ) (w : Word) : List UInt8 := memcpy buffer (4 * j) (le32 w)

/-- The byte order of the first words is reversed. -/
def reverseWords (count : ℕ) (buffer : List UInt8) : List UInt8 :=
  (List.range count).foldl (fun buffer j => store32 buffer j (reverse32 (load32 buffer j))) buffer

/-- The buffer as 16 words. -/
def words (buffer : List UInt8) : List Word := (List.range 16).map (load32 buffer)

/-- A full buffer is put in the host's byte order and transformed. -/
def processBuffer (context : SHA256_CTX) : SHA256_CTX :=
  let buffer := reverseWords 16 context.buffer
  { context with
    state := sha256Transform context.state (words buffer)
    buffer := buffer }

/-- The bytes of the buffer that are taken. -/
def usedspace (context : SHA256_CTX) : ℕ := (context.bitcount >>> 3).toNat % 64

/-- The complete blocks of the data, and the leftovers. -/
def updateBlocks (context : SHA256_CTX) (data : List UInt8) : SHA256_CTX :=
  if 64 ≤ data.length then
    let context := processBuffer { context with buffer := memcpy context.buffer 0 (data.take 64) }
    updateBlocks { context with bitcount := context.bitcount + 64 <<< 3 } (data.drop 64)
  else if 0 < data.length then
    { context with
      buffer := memcpy context.buffer 0 data
      bitcount := context.bitcount + BitVec.ofNat 64 data.length <<< 3 }
  else context
termination_by data.length

/-- `sha256_Update`: the buffer is filled up first. -/
def sha256Update (context : SHA256_CTX) (data : List UInt8) : SHA256_CTX :=
  if data.length = 0 then context
  else
    let usedspace := usedspace context
    if usedspace > 0 then
      let freespace := 64 - usedspace
      if data.length ≥ freespace then
        let context := processBuffer { context with
          buffer := memcpy context.buffer usedspace (data.take freespace)
          bitcount := context.bitcount + BitVec.ofNat 64 (freespace <<< 3) }
        updateBlocks context (data.drop freespace)
      else
        { context with
          buffer := memcpy context.buffer usedspace data
          bitcount := context.bitcount + BitVec.ofNat 64 data.length <<< 3 }
    else updateBlocks context data

/-- The digest; the context is cleared. -/
def sha256Final (context : SHA256_CTX) : List UInt8 :=
  let usedspace := usedspace context
  let context := { context with buffer := memcpy context.buffer usedspace [0x80] }
  let usedspace := usedspace + 1
  let (context, usedspace) :=
    if usedspace > 56 then
      (processBuffer { context with buffer := memzero context.buffer usedspace (64 - usedspace) }, 0)
    else (context, usedspace)
  let buffer := memzero context.buffer usedspace (56 - usedspace)
  let buffer := reverseWords 14 buffer
  let buffer := store32 buffer 14 ((context.bitcount >>> 32).setWidth 32)
  let buffer := store32 buffer 15 ((context.bitcount &&& 0xffffffff).setWidth 32)
  let state := sha256Transform context.state (words buffer)
  state.toList.flatMap fun w => le32 (reverse32 w)

/-- `sha256_Raw`: the digest of the data in one piece. -/
def sha256Raw (data : List UInt8) : List UInt8 := sha256Final (sha256Update sha256Init data)

end CotMta.Trezor.Sha2
