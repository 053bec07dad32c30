/-
  `server/src/server.cpp`: one session of `ServerApp::run`, from the accepted
  connection on.

  The frames are those of `read_framed` and `write_framed`; a thrown
  `runtime_error` ends the program, and so does a failed assertion.  What the
  random generator gives, `y` and Bob's secrets, are parameters, and so is what
  the program reads of memory that it never set.
-/
import CotMta.Lib.Process
import CotMta.Messages
import CotMta.Server.OtProtocol

namespace CotMta.Server

open Trezor ProtoCodec

/-- The programs of a session. -/
abbrev Session (α : Type) := Proc Frame Message α

/-- `get_bit`: bit `bit_index` of the big-endian number. -/
def getBit (scalar : Scalar) (bit_index : ℕ) : UInt8 :=
  let byte := scalar.toList.getD (32 - 1 - bit_index / 8) 0
  UInt8.ofNat ((byte.toNat >>> (bit_index % 8)) &&& 0x01)

/-- The memory that a session reads and has not set: in each round the bytes behind
    `init.point_a` and behind `*b_g`, then the words of `term` in
    `compute_bob_share` and of `bn_xy` and `bn_uv` in `verify_mta`. -/
structure Memory where
  behind : ℕ → ℕ → UInt8
  frame : ℕ → ℕ → UInt8
  term : Words
  bn_xy : Words
  bn_uv : Words

/-- Memory full of zeros. -/
def Memory.zero : Memory := ⟨fun _ _ => 0, fun _ _ => 0, fun _ => 0, fun _ => 0, fun _ => 0⟩

/-- What the server prints: its additive share, and the verification. -/
structure ServerOutput where
  v : Scalar
  verification : Option Bool
deriving DecidableEq

namespace ServerApp

/-- A decoder that reports failure, as a call that throws. -/
def orThrow {α : Type} (text : String) (decode : Frame → Option α) (frame : Frame) :
    Except String α :=
  match decode frame with
  | some value => .ok value
  | none => .error text

/-- The first frame. -/
def readSessionConfig : Session SessionConfigMessage :=
  .receive (orThrow "failed to decode SessionConfig" decodeSessionConfig)
    fun m => .sessionConfig m.debug_reveal

/-- The frame that opens a round. -/
def readOtInit : Session OTInitMessage :=
  .receive (orThrow "failed to decode OTInit" decodeOtInit)
    fun m => .otInit m.point_a.toList m.bit_index.toNat

/-- The frame with the ciphertexts of a round. -/
def readOtEncrypted : Session OTEncryptedPayload :=
  .receive (orThrow "failed to decode OTEncrypted" decodeOtEncrypted)
    fun m => .otEncrypted m.encrypted_m0.toList m.encrypted_m1.toList m.nonce.toList

/-- The client's shares, in a debug session. -/
def readDebugRevealRequest : Session DebugRevealRequestMessage :=
  .receive (orThrow "failed to decode DebugRevealRequest" decodeDebugRevealRequest)
    fun m => .debugRevealRequest m.multiplicative_share_x.toList m.additive_share_u.toList

/-- The reply of a round. -/
def writeOtResponse (m : OTResponseMessage) : Session Unit :=
  .send (.otResponse m.point_b.toList) (encodeOtResponse m)

/-- The additive share. -/
def writeScalar (m : ScalarMessage) : Session Unit :=
  .send (.mtaShare m.value.toList) (encodeScalar m)

/-- The share `y` and the verification, in a debug session. -/
def writeDebugRevealResponse (m : DebugRevealResponseMessage) : Session Unit :=
  .send (.debugRevealResponse m.multiplicative_share_y.toList m.verified)
    (encodeDebugRevealResponse m)

variable (ops : GroupOps) (sha256 : List UInt8 → Bytes 32) (mem : Memory) (y : Scalar)
  (secret : ℕ → Scalar)

/-- The body of the loop: the entry `mc_values[bit_idx]`. -/
def round (bit_idx : ℕ) : Session Scalar := do
  let init ← readOtInit
  if init.bit_index.toNat ≠ bit_idx then .throw "unexpected bit index from client"
  else
    let bob := BobOT.new (getBit y bit_idx) (secret bit_idx)
    match bob.processInit ops sha256 (mem.frame bit_idx) ⟨init.point_a, mem.behind bit_idx⟩ with
    | (_, none) => .throw "failed to process OT init"
    | (bob, some b) => do
      writeOtResponse ⟨b⟩
      let encrypted ← readOtEncrypted
      match bob.decryptMessage encrypted with
      | none => .throw "failed to decrypt OT payload"
      | some value => pure value

/-- The loop from `bit_idx` on, with `count` rounds to go. -/
def rounds : (count bit_idx : ℕ) → List Scalar → Session (List Scalar)
  | 0, _, mc_values => pure mc_values
  | count + 1, bit_idx, mc_values => do
    let value ← round ops sha256 mem y secret bit_idx
    rounds count (bit_idx + 1) (mc_values ++ [value])

/-- A call with a failed assertion ends the program, as an uncaught error does. -/
def orAbort {α : Type} : Option α → Session α
  | some value => pure value
  | none => .throw "assertion failed"

/-- After the loop. -/
def finish (session_config : SessionConfigMessage) (mc_values : List Scalar) :
    Session ServerOutput := do
  let v ← orAbort (MTA.computeBobShare machine mem.term y mc_values)
  writeScalar ⟨v⟩
  if session_config.debug_reveal then do
    let debug_request ← readDebugRevealRequest
    let verified ← orAbort (MTA.verifyMta machine mem.bn_xy mem.bn_uv
      debug_request.multiplicative_share_x y debug_request.additive_share_u v)
    writeDebugRevealResponse ⟨y, verified⟩
    pure ⟨v, some verified⟩
  else pure ⟨v, none⟩

/-- `ServerApp::run`. -/
def run : Session ServerOutput := do
  let session_config ← readSessionConfig
  let mc_values ← rounds ops sha256 mem y secret 256 0 []
  finish mem y session_config mc_values

end ServerApp
end CotMta.Server
