/-
  `server/src/ot_protocol.cpp`: the receiver of one oblivious transfer, and the
  additive shares.

  `bn_copy(a, b)` copies `a` to `b`.  The class `MTA` calls it with a local that
  was never set as `a` (`term`, `bn_xy`, `bn_uv`) and the number just read as `b`,
  so what it computes with are the words that happen to be in that memory.  They
  are parameters here.  `bn_multiply` on them may fail an assertion, which ends
  the program: `none`.

  A `std::array<Scalar, 256>` is the list of its entries; the loops run over the
  entries in order and are stated for lists of any length.  As in the big-number
  library, `W` is the arithmetic that the limbs are computed in.
-/
import CotMta.Server.CryptoOps
import CotMta.Trezor.Curve

namespace CotMta.Server

open Trezor CryptoOps

/-! ## `BobOT` -/

/-- The object of one transfer; the key is missing until `process_init` sets it. -/
structure BobOT where
  choice_bit : UInt8
  secret_b : Scalar
  decryption_key : Option Scalar

namespace BobOT

/-- The constructor, on the scalar that it draws. -/
def new (choice_bit : UInt8) (secret_b : Scalar) : BobOT := ⟨choice_bit, secret_b, none⟩

variable (ops : GroupOps) (sha256 : List UInt8 → Bytes 32)

/-- The object after the call and the result.  `frame` are the bytes behind
    `*b_g` in the frame of the call. -/
def processInit (frame : ℕ → UInt8) (bob : BobOT) (a_point : Located) : BobOT × Option Point :=
  match scalarMultiplyPoint ops bob.secret_b a_point with
  | none => (bob, none)
  | some shared =>
    match getXCoordinate shared with
    | none => (bob, none)
    | some x =>
      let bob := { bob with decryption_key := some (deriveKey sha256 x.toList) }
      match scalarMultiplyG ops bob.secret_b with
      | none => (bob, none)
      | some b_g =>
        if bob.choice_bit = 0 then (bob, some b_g)
        else (bob, pointAdd ops ⟨b_g, frame⟩ a_point)

/-- The selected ciphertext under the key, if there is one. -/
def decryptMessage (bob : BobOT) (encrypted : OTEncryptedPayload) : Option Scalar :=
  match bob.decryption_key with
  | none => none
  | some key =>
    let selected := if bob.choice_bit = 0 then encrypted.encrypted_m0 else encrypted.encrypted_m1
    some (xorEncrypt selected key)

end BobOT

/-! ## `MTA` -/

namespace MTA

variable (W : Arith)

/-- The numbers that the share loops carry from one round to the next. -/
structure ShareState where
  sum : Bignum256
  two_pow_i : Bignum256
  term : Bignum256

/-- Before the loop; `term` is declared, but not set. -/
def shareInit (term : Words) : ShareState := ⟨bnZero, bnOne, .ofWords term⟩

/-- One round of the loops of `compute_alice_share` and `compute_bob_share`.  The
    copy overwrites the entry, which is not looked at again. -/
def shareStep (s : ShareState) (entry : Scalar) : Option ShareState := do
  let _ui_bn := bnCopy s.term (bnReadBe W entry)
  let term ← bnMultiplyChecked W s.two_pow_i s.term order
  some ⟨bnAddmod W s.sum term order, bnAddmod W s.two_pow_i s.two_pow_i order, term⟩

/-- The loop over the entries. -/
def shareLoop (term : Words) (entries : List Scalar) : Option ShareState :=
  entries.foldlM (shareStep W) (shareInit term)

/-- `n - sum`, or rather `2 n - sum`, before the two calls of `bn_mod`. -/
def negatedSum (sum : Bignum256) : Bignum256 := bnSubtractmod W bnZero sum order

/-- `compute_alice_share`, on the words where `term` lies. -/
def computeAliceShare (term : Words) (ui_values : List Scalar) : Option Scalar := do
  let s ← shareLoop W term ui_values
  if bnIsZero s.sum then some (Bytes.ofNat 32 0)
  else some (bnWriteBe W (bnMod W (bnMod W (negatedSum W s.sum) order) order))

/-- `compute_bob_share`.  The parameter `y` is ignored, as in the source. -/
def computeBobShare (term : Words) (_y : Scalar) (mc_values : List Scalar) : Option Scalar := do
  let s ← shareLoop W term mc_values
  some (bnWriteBe W (bnMod W s.sum order))

/-- `verify_mta`, on the words where `bn_xy` and `bn_uv` lie.  The copies overwrite
    `bn_x` and `bn_u`. -/
def verifyMta (bn_xy bn_uv : Words) (x y u v : Scalar) : Option Bool := do
  let bn_x := bnReadBe W x
  let bn_y := bnReadBe W y
  let bn_u := bnReadBe W u
  let bn_v := bnReadBe W v
  let _bn_x := bnCopy (.ofWords bn_xy) bn_x
  let bn_xy ← bnMultiplyChecked W bn_y (.ofWords bn_xy) order
  let _bn_u := bnCopy (.ofWords bn_uv) bn_u
  let bn_uv := bnAddmod W (.ofWords bn_uv) bn_v order
  some (bnIsEqual bn_xy bn_uv)

end MTA
end CotMta.Server
