/-
  `client/src/client.ts`: the local demo and the network demo.

  The random scalars and nonces are parameters, given by round.  The network
  demo starts on the connected socket; what `protobufjs` encodes and decodes is
  a parameter.
-/
import CotMta.Lib.Process
import CotMta.Messages

namespace CotMta.Client

open CryptoOps

/-- A session of the client. -/
abbrev Session (α : Type) := Proc Frame Message α

/-- `getBit`: the bits are counted from the last byte. -/
def getBit (bytes : Uint8Array) (bitIndex : ℕ) : UInt8 :=
  -- an index before the start gives `undefined`, which counts as zero
  let byte := if bitIndex / 8 < bytes.length then bytes.getD (bytes.length - 1 - bitIndex / 8) 0 else 0
  UInt8.ofNat ((byte.toNat >>> (bitIndex % 8)) &&& 1)

/-- The options that the demos look at. -/
structure CliOptions where
  debugReveal : Bool
  x : Option Uint8Array
  y : Option Uint8Array

/-- What the demos draw at random: the shares if the options leave them out, and
    in each round the mask `m0`, Alice's scalar, Bob's scalar (local demo) and
    the nonce. -/
structure Draws where
  x : Uint8Array
  y : Uint8Array
  m0 : ℕ → Uint8Array
  a : ℕ → Uint8Array
  b : ℕ → Uint8Array
  nonce : ℕ → Uint8Array

/-- What the demos print. -/
structure DemoOutput where
  x : Uint8Array
  y : Option Uint8Array
  u : Uint8Array
  v : Uint8Array
  verification : String
deriving DecidableEq

section
variable (sha256 : List UInt8 → Bytes 32) (draws : Draws)

/-! ## The local demo -/

/-- One round: `alice.ui` and `mc`. -/
def localRound (x y : Uint8Array) (i : ℕ) : Throws (Uint8Array × Uint8Array) := do
  let m0 := draws.m0 i
  let m1 := modAdd m0 x
  let alice ← AliceOT.new m0 m1 m0 (draws.a i)
  let b := draws.b i
  let A := (alice.generateInit i).pointA
  let choiceBit := getBit y i
  let bG ← scalarMultiplyG b
  let B ← if choiceBit = 0 then pure bG else pointAdd bG A
  let encrypted ← alice.processResponse sha256 (draws.nonce i) B
  let shared ← scalarMultiplyPoint b A
  let key := deriveKey sha256 (← getXCoordinate shared)
  let selected := if choiceBit = 0 then encrypted.encryptedM0 else encrypted.encryptedM1
  let mc := xorEncrypt selected key
  pure (alice.ui, mc)

/-- The loop from `i` on, with `count` rounds to go. -/
def localRounds (x y : Uint8Array) :
    (count i : ℕ) → List Uint8Array → List Uint8Array → Throws (List Uint8Array × List Uint8Array)
  | 0, _, uiValues, mcValues => pure (uiValues, mcValues)
  | count + 1, i, uiValues, mcValues => do
    let (ui, mc) ← localRound sha256 draws x y i
    localRounds x y count (i + 1) (uiValues ++ [ui]) (mcValues ++ [mc])

/-- `runLocalDemo`: both sides in one process. -/
def runLocalDemo (options : CliOptions) : Throws DemoOutput := do
  let x := options.x.getD draws.x
  let y := options.y.getD draws.y
  let (uiValues, mcValues) ← localRounds sha256 draws x y 256 0 [] []
  let u := MTAProtocol.computeAliceShare uiValues
  let v := MTAProtocol.computeBobShare mcValues
  pure {
    x := x
    y := some y
    u := u
    v := v
    verification := if MTAProtocol.verify x y u v then "ok" else "failed" }

/-! ## The network demo -/

/-- A call that may throw, in a program. -/
def attempt {α : Type} : Throws α → Session α
  | .ok value => .done value
  | .error message => .throw message

variable (proto : ProtoTypes)

/-- One round, with `alice.ui` as its result. -/
def networkRound (x : Uint8Array) (i : ℕ) : Session Uint8Array := do
  let m0 := draws.m0 i
  let m1 := modAdd m0 x
  let alice ← attempt (AliceOT.new m0 m1 m0 (draws.a i))
  let init := alice.generateInit i
  .send (.otInit init.pointA init.bitIndex) (proto.encodeOTInit init)
  let pointB ← .receive proto.decodeOTResponse .otResponse
  let encrypted ← attempt (alice.processResponse sha256 (draws.nonce i) pointB)
  .send (.otEncrypted encrypted.encryptedM0 encrypted.encryptedM1 encrypted.nonce)
    (proto.encodeOTEncrypted encrypted)
  pure alice.ui

/-- The loop from `i` on, with `count` rounds to go. -/
def networkRounds (x : Uint8Array) : (count i : ℕ) → List Uint8Array → Session (List Uint8Array)
  | 0, _, uiValues => pure uiValues
  | count + 1, i, uiValues => do
    let ui ← networkRound sha256 draws proto x i
    networkRounds x count (i + 1) (uiValues ++ [ui])

/-- After the loop. -/
def networkFinish (debugReveal : Bool) (x : Uint8Array) (uiValues : List Uint8Array) :
    Session DemoOutput := do
  let v ← .receive proto.decodeMTAShare .mtaShare
  let u := MTAProtocol.computeAliceShare uiValues
  if debugReveal then do
    .send (.debugRevealRequest x u) (proto.encodeDebugRevealRequest x u)
    let (y, verified) ← .receive proto.decodeDebugRevealResponse
      fun response => .debugRevealResponse response.1 response.2
    pure { x := x, y := some y, u := u, v := v, verification := if verified then "ok" else "failed" }
  else
    pure {
      x := x
      y := none
      u := u
      v := v
      verification := "unavailable in network mode without revealing Bob's secret y" }

/-- `runNetworkDemo` on an open connection. -/
def runNetworkDemo (options : CliOptions) : Session DemoOutput :=
  if options.y.isSome then
    .throw "network mode does not accept --y; Bob generates y on the server side"
  else do
    let x := options.x.getD draws.x
    .send (.sessionConfig options.debugReveal) (proto.encodeSessionConfig options.debugReveal)
    let uiValues ← networkRounds sha256 draws proto x 256 0 []
    networkFinish proto options.debugReveal x uiValues

end
end CotMta.Client
