/-
  `server/src/cot.pb.h` and `server/src/proto_codec.cpp`.

  A message of `proto_codec.h` and the nanopb structure it is copied to and from
  have the same fields and are one structure here.
-/
import CotMta.Nanopb.Decode

namespace CotMta.Server

open Nanopb

/-- `std::array<uint8_t, 32>`. -/
abbrev Scalar := Bytes 32

/-- `std::array<uint8_t, 33>`. -/
abbrev Point := Bytes 33

/-- What the client asks for at the start. -/
structure SessionConfigMessage where
  debug_reveal : Bool

/-- A round's first message, of the client. -/
structure OTInitMessage where
  point_a : Point
  bit_index : UInt32

/-- The server's reply to it. -/
structure OTResponseMessage where
  point_b : Point

/-- The two ciphertexts, of which the server can open one. -/
structure OTEncryptedPayload where
  encrypted_m0 : Scalar
  encrypted_m1 : Scalar
  nonce : Bytes 12
deriving DecidableEq

/-- `MTAShare`: an additive share. -/
structure ScalarMessage where
  value : Scalar

/-- The client's shares, for the server's check. -/
structure DebugRevealRequestMessage where
  multiplicative_share_x : Scalar
  additive_share_u : Scalar

/-- The share of the server and the result of its check. -/
structure DebugRevealResponseMessage where
  multiplicative_share_y : Scalar
  verified : Bool

namespace ProtoCodec

/-! ## `X_FIELDLIST` -/

/-- `cot_SessionConfig_FIELDLIST`. -/
def sessionConfigFields : List (PbField SessionConfigMessage) :=
  [⟨1, .bool, (·.debug_reveal), fun m v => { m with debug_reveal := v }⟩]

/-- `cot_OTInit_FIELDLIST`. -/
def otInitFields : List (PbField OTInitMessage) :=
  [⟨1, .fixedLengthBytes 33, (·.point_a), fun m v => { m with point_a := v }⟩,
    ⟨2, .uvarint32, (·.bit_index), fun m v => { m with bit_index := v }⟩]

/-- `cot_OTResponse_FIELDLIST`. -/
def otResponseFields : List (PbField OTResponseMessage) :=
  [⟨1, .fixedLengthBytes 33, (·.point_b), fun m v => { m with point_b := v }⟩]

/-- `cot_OTEncrypted_FIELDLIST`. -/
def otEncryptedFields : List (PbField OTEncryptedPayload) :=
  [⟨1, .fixedLengthBytes 32, (·.encrypted_m0), fun m v => { m with encrypted_m0 := v }⟩,
    ⟨2, .fixedLengthBytes 32, (·.encrypted_m1), fun m v => { m with encrypted_m1 := v }⟩,
    ⟨3, .fixedLengthBytes 12, (·.nonce), fun m v => { m with nonce := v }⟩]

/-- `cot_MTAShare_FIELDLIST`. -/
def mtaShareFields : List (PbField ScalarMessage) :=
  [⟨1, .fixedLengthBytes 32, (·.value), fun m v => { m with value := v }⟩]

/-- `cot_DebugRevealRequest_FIELDLIST`. -/
def debugRevealRequestFields : List (PbField DebugRevealRequestMessage) :=
  [⟨1, .fixedLengthBytes 32, (·.multiplicative_share_x),
      fun m v => { m with multiplicative_share_x := v }⟩,
    ⟨2, .fixedLengthBytes 32, (·.additive_share_u), fun m v => { m with additive_share_u := v }⟩]

/-- `cot_DebugRevealResponse_FIELDLIST`. -/
def debugRevealResponseFields : List (PbField DebugRevealResponseMessage) :=
  [⟨1, .fixedLengthBytes 32, (·.multiplicative_share_y),
      fun m v => { m with multiplicative_share_y := v }⟩,
    ⟨2, .bool, (·.verified), fun m v => { m with verified := v }⟩]

/-! ## `X_size` -/

/-- `cot_SessionConfig_size`. -/
def sessionConfigSize : ℕ := 2

/-- `cot_OTInit_size`. -/
def otInitSize : ℕ := 41

/-- `cot_OTResponse_size`. -/
def otResponseSize : ℕ := 35

/-- `cot_OTEncrypted_size`; the fields can take 82 bytes. -/
def otEncryptedSize : ℕ := 80

/-- `cot_MTAShare_size`. -/
def mtaShareSize : ℕ := 34

/-- `cot_DebugRevealResponse_size`. -/
def debugRevealResponseSize : ℕ := 36

/-! ## Encoders -/

variable {M : Type}

/-- The body that the encoders share: the bytes written to a buffer of the given
    size, or the empty vector when `pb_encode` fails. -/
def encode (fields : List (PbField M)) (size : ℕ) (message : M) : List UInt8 :=
  match pbEncode (pbOstreamFromBuffer size) fields message with
  | none => []
  | some stream => stream.written

/-- `encode_session_config`. -/
def encodeSessionConfig : SessionConfigMessage → List UInt8 :=
  encode sessionConfigFields sessionConfigSize

/-- `encode_ot_init`. -/
def encodeOtInit : OTInitMessage → List UInt8 := encode otInitFields otInitSize

/-- `encode_ot_response`. -/
def encodeOtResponse : OTResponseMessage → List UInt8 := encode otResponseFields otResponseSize

/-- `encode_ot_encrypted`, whose buffer has `cot_OTEncrypted_size` bytes. -/
def encodeOtEncrypted : OTEncryptedPayload → List UInt8 := encode otEncryptedFields otEncryptedSize

/-- `encode_scalar`. -/
def encodeScalar : ScalarMessage → List UInt8 := encode mtaShareFields mtaShareSize

/-- `encode_debug_reveal_response`. -/
def encodeDebugRevealResponse : DebugRevealResponseMessage → List UInt8 :=
  encode debugRevealResponseFields debugRevealResponseSize

/-! ## Decoders

From `X_init_default`; `none` is the result `false`, which leaves `out` as it is. -/

/-- An array that is initialised with zeros. -/
def zeros (n : ℕ) : Bytes n := Bytes.ofNat n 0

/-- `decode_session_config`. -/
def decodeSessionConfig (bytes : List UInt8) : Option SessionConfigMessage :=
  pbDecode sessionConfigFields ⟨false⟩ bytes

/-- `decode_ot_init`. -/
def decodeOtInit (bytes : List UInt8) : Option OTInitMessage :=
  pbDecode otInitFields ⟨zeros 33, 0⟩ bytes

/-- `decode_ot_encrypted`. -/
def decodeOtEncrypted (bytes : List UInt8) : Option OTEncryptedPayload :=
  pbDecode otEncryptedFields ⟨zeros 32, zeros 32, zeros 12⟩ bytes

/-- `decode_scalar`. -/
def decodeScalar (bytes : List UInt8) : Option ScalarMessage :=
  pbDecode mtaShareFields ⟨zeros 32⟩ bytes

/-- `decode_debug_reveal_request`. -/
def decodeDebugRevealRequest (bytes : List UInt8) : Option DebugRevealRequestMessage :=
  pbDecode debugRevealRequestFields ⟨zeros 32, zeros 32⟩ bytes

end ProtoCodec
end CotMta.Server
