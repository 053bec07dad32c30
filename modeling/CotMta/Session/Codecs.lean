/-
  The messages between the two sides: what one encodes, the other decodes.

  The client's `protobufjs` writes defaults and the server's nanopb leaves them
  out; the server reads both.
-/
import CotMta.Server.Codec
import CotMta.Server.ServerApp

namespace CotMta.Session

open Client Server Server.ProtoCodec Nanopb

variable {proto : ProtoTypes}

/-- No encoder of the server but that of `OTEncrypted` fails. -/
structure EncodersSucceed : Prop where
  sessionConfig : ∀ m, Fits sessionConfigFields sessionConfigSize m
  otInit : ∀ m, Fits otInitFields otInitSize m
  otResponse : ∀ m, Fits otResponseFields otResponseSize m
  scalar : ∀ m, Fits mtaShareFields mtaShareSize m
  debugRevealResponse : ∀ m, Fits debugRevealResponseFields debugRevealResponseSize m

/-- The server reads what it wrote itself. -/
structure DecodersInvert : Prop where
  sessionConfig : ∀ m, decodeSessionConfig (encodeSessionConfig m) = some m
  otInit : ∀ m, decodeOtInit (encodeOtInit m) = some m
  scalar : ∀ m, decodeScalar (encodeScalar m) = some m

/-- The server reads what the client wrote, for every value of the fields. -/
structure Understood (proto : ProtoTypes) : Prop where
  sessionConfig : ∀ debugReveal,
    decodeSessionConfig (proto.encodeSessionConfig debugReveal) = some ⟨debugReveal⟩
  otInit : ∀ (pointA : Point) (bitIndex : UInt32),
    decodeOtInit (proto.encodeOTInit ⟨pointA.toList, bitIndex.toNat⟩) = some ⟨pointA, bitIndex⟩
  otEncrypted : ∀ (m0 m1 : Scalar) (nonce : Bytes 12),
    decodeOtEncrypted (proto.encodeOTEncrypted ⟨m0.toList, m1.toList, nonce.toList⟩) =
      some ⟨m0, m1, nonce⟩
  debugRevealRequest : ∀ x u : Scalar,
    decodeDebugRevealRequest (proto.encodeDebugRevealRequest x.toList u.toList) = some ⟨x, u⟩

theorem encodersSucceed : EncodersSucceed where
  sessionConfig := fits short_sessionConfig size_sessionConfig.le
  otInit := fits short_otInit size_otInit.le
  otResponse := fits short_otResponse size_otResponse.le
  scalar := fits short_mtaShare size_mtaShare.le
  debugRevealResponse := fits short_debugRevealResponse size_debugRevealResponse.le

theorem decodersInvert : DecodersInvert where
  sessionConfig := decode_encodeSessionConfig
  otInit := decode_encodeOtInit
  scalar := decode_encodeScalar

theorem understood (hproto : proto.Lawful) : Understood proto where
  sessionConfig debugReveal := by
    rw [hproto.encodeSessionConfig, decodeSessionConfig_eq]
  otInit pointA bitIndex := by
    rw [hproto.encodeOTInit _ bitIndex.toNat_lt, decodeOtInit_eq]
  otEncrypted m0 m1 nonce := by
    rw [hproto.encodeOTEncrypted, decodeOtEncrypted_eq ⟨m0, m1, nonce⟩]
  debugRevealRequest x u := by
    rw [hproto.encodeDebugRevealRequest, decodeDebugRevealRequest_eq ⟨x, u⟩]

/-- **The codecs.**  Nothing the server encodes is lost, and it reads the messages
    of the client as they were sent. -/
theorem codecs_lossless (hproto : proto.Lawful) :
    EncodersSucceed ∧ DecodersInvert ∧ Understood proto :=
  ⟨encodersSucceed, decodersInvert, understood hproto⟩

theorem codecs_lossless_wireTypes : EncodersSucceed ∧ DecodersInvert ∧ Understood wireTypes :=
  codecs_lossless wireTypes_lawful

/-! ## The frames of a session -/

section
variable (hproto : proto.Lawful)
include hproto

theorem decode_sessionConfig (debugReveal : Bool) :
    ServerApp.orThrow "failed to decode SessionConfig" ProtoCodec.decodeSessionConfig
      (proto.encodeSessionConfig debugReveal) = .ok ⟨debugReveal⟩ := by
  rw [ServerApp.orThrow, (understood hproto).sessionConfig]

theorem decode_otInit (A : Point) {i : ℕ} (hi : i < 2 ^ 32) :
    ServerApp.orThrow "failed to decode OTInit" ProtoCodec.decodeOtInit
      (proto.encodeOTInit ⟨A.toList, i⟩) = .ok ⟨A, UInt32.ofNat i⟩ := by
  have hinit := (understood hproto).otInit A (UInt32.ofNat i)
  rw [UInt32.toNat_ofNat_of_lt' hi] at hinit
  rw [ServerApp.orThrow, hinit]

theorem decode_otResponse (B : Point) :
    proto.decodeOTResponse (ProtoCodec.encodeOtResponse ⟨B⟩) = .ok B.toList := by
  rw [ProtoCodec.encodeOtResponse_eq, hproto.decodeOTResponse _ (by simp)]

theorem decode_otEncrypted (e0 e1 : Scalar) (nonce : Bytes 12) :
    ServerApp.orThrow "failed to decode OTEncrypted" ProtoCodec.decodeOtEncrypted
      (proto.encodeOTEncrypted ⟨e0.toList, e1.toList, nonce.toList⟩) = .ok ⟨e0, e1, nonce⟩ := by
  rw [ServerApp.orThrow, (understood hproto).otEncrypted]

theorem decode_mtaShare (v : Scalar) :
    proto.decodeMTAShare (ProtoCodec.encodeScalar ⟨v⟩) = .ok v.toList := by
  rw [ProtoCodec.encodeScalar_eq, hproto.decodeMTAShare _ (by simp)]

theorem decode_debugRevealRequest (x u : Scalar) :
    ServerApp.orThrow "failed to decode DebugRevealRequest" ProtoCodec.decodeDebugRevealRequest
      (proto.encodeDebugRevealRequest x.toList u.toList) = .ok ⟨x, u⟩ := by
  rw [ServerApp.orThrow, (understood hproto).debugRevealRequest]

theorem decode_debugRevealResponse (y : Scalar) (verified : Bool) :
    proto.decodeDebugRevealResponse (ProtoCodec.encodeDebugRevealResponse ⟨y, verified⟩) =
      .ok (y.toList, verified) := by
  rw [ProtoCodec.encodeDebugRevealResponse_eq, hproto.decodeDebugRevealResponse _ _ (by simp)]

end

end CotMta.Session
