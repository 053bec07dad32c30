/-
  `proto/cot.proto`: the messages of a session, as both sides see them, and what
  the client relies on in `protobufjs`.

  The server's codec is modelled (`Server/ProtoCodec.lean`), the client's is a
  parameter: `ProtoTypes` are the functions, `ProtoTypes.Lawful` their behaviour,
  and `wireTypes` is an implementation of this part.
-/
import CotMta.Client.OtProtocol
import CotMta.Nanopb.Wire

namespace CotMta

/-- The bytes of a message, without its length header. -/
abbrev Frame := List UInt8

/-- A message with its contents, for what a frame was meant as. -/
inductive Message where
  | sessionConfig (debug_reveal : Bool)
  | otInit (point_a : List UInt8) (bit_index : Nat)
  | otResponse (point_b : List UInt8)
  | otEncrypted (encrypted_m0 encrypted_m1 nonce : List UInt8)
  | mtaShare (additive_share : List UInt8)
  | debugRevealRequest (multiplicative_share_x additive_share_u : List UInt8)
  | debugRevealResponse (multiplicative_share_y : List UInt8) (verified : Bool)
deriving DecidableEq

namespace Client

open Nanopb

/-- The message types of `protobufjs`: what encoding, decoding and `toObject`
    give.  An absent field decodes to the empty array or to `false`. -/
structure ProtoTypes where
  encodeSessionConfig : Bool → Uint8Array
  encodeOTInit : OTInit → Uint8Array
  encodeOTEncrypted : OTEncrypted → Uint8Array
  encodeDebugRevealRequest : Uint8Array → Uint8Array → Uint8Array
  decodeOTResponse : Uint8Array → Throws Uint8Array
  decodeMTAShare : Uint8Array → Throws Uint8Array
  decodeDebugRevealResponse : Uint8Array → Throws (Uint8Array × Bool)

/-- What the client relies on: encoding writes the fields that are set, in the order
    of their tags, also when they have the default value, and decoding reads back a
    field on the wire. -/
structure ProtoTypes.Lawful (proto : ProtoTypes) : Prop where
  encodeSessionConfig : ∀ debugReveal : Bool,
    proto.encodeSessionConfig debugReveal = varintField 1 (if debugReveal then 1 else 0)
  encodeOTInit : ∀ init : OTInit, init.bitIndex < 2 ^ 32 →
    proto.encodeOTInit init = bytesField 1 init.pointA ++ varintField 2 init.bitIndex
  encodeOTEncrypted : ∀ encrypted : OTEncrypted,
    proto.encodeOTEncrypted encrypted = bytesField 1 encrypted.encryptedM0 ++
      bytesField 2 encrypted.encryptedM1 ++ bytesField 3 encrypted.nonce
  encodeDebugRevealRequest : ∀ x u : Uint8Array,
    proto.encodeDebugRevealRequest x u = bytesField 1 x ++ bytesField 2 u
  decodeOTResponse : ∀ pointB : Uint8Array, pointB.length < 2 ^ 32 →
    proto.decodeOTResponse (bytesField 1 pointB) = .ok pointB
  decodeMTAShare : ∀ additiveShare : Uint8Array, additiveShare.length < 2 ^ 32 →
    proto.decodeMTAShare (bytesField 1 additiveShare) = .ok additiveShare
  decodeDebugRevealResponse : ∀ (y : Uint8Array) (verified : Bool), y.length < 2 ^ 32 →
    proto.decodeDebugRevealResponse (bytesField 1 y ++ if verified then varintField 2 1 else []) =
      .ok (y, verified)

/-! ## An implementation -/

/-- The first field of a message, of the type `bytes`, and the bytes after it. -/
def readBytesField (frame : Uint8Array) : Throws (Uint8Array × Uint8Array) :=
  match (do
    let (_, rest) ← pbDecodeVarint32 frame
    pbDecodeVarint32 rest) with
  | none => .error "index out of range"
  | some (length, rest) => .ok (rest.take length, rest.drop length)

/-- The types, as far as the session needs them. -/
def wireTypes : ProtoTypes where
  encodeSessionConfig debugReveal := varintField 1 (if debugReveal then 1 else 0)
  encodeOTInit init := bytesField 1 init.pointA ++ varintField 2 init.bitIndex
  encodeOTEncrypted encrypted := bytesField 1 encrypted.encryptedM0 ++
    bytesField 2 encrypted.encryptedM1 ++ bytesField 3 encrypted.nonce
  encodeDebugRevealRequest x u := bytesField 1 x ++ bytesField 2 u
  decodeOTResponse frame := (readBytesField frame).map (·.1)
  decodeMTAShare frame := (readBytesField frame).map (·.1)
  decodeDebugRevealResponse frame := (readBytesField frame).map fun r => (r.1, r.2 != [])

theorem readBytesField_eq {value rest : Uint8Array} (h : value.length < 2 ^ 32) :
    readBytesField (bytesField 1 value ++ rest) = .ok (value, rest) := by
  simp only [readBytesField, bytesField, List.append_assoc]
  rw [pbDecodeVarint32_varint (by norm_num)]
  simp only [Option.bind_eq_bind, Option.bind_some]
  rw [pbDecodeVarint32_varint h]
  simp

theorem readBytesField_end {value : Uint8Array} (h : value.length < 2 ^ 32) :
    readBytesField (bytesField 1 value) = .ok (value, []) := by
  rw [← List.append_nil (bytesField 1 value), readBytesField_eq h]

theorem wireTypes_lawful : wireTypes.Lawful where
  encodeSessionConfig _ := rfl
  encodeOTInit _ _ := rfl
  encodeOTEncrypted _ := rfl
  encodeDebugRevealRequest _ _ := rfl
  decodeOTResponse pointB h := by
    simp only [wireTypes, readBytesField_end h, Except.map]
  decodeMTAShare additiveShare h := by
    simp only [wireTypes, readBytesField_end h, Except.map]
  decodeDebugRevealResponse y verified h := by
    simp only [wireTypes, readBytesField_eq h, Except.map]
    cases verified with
    | false => rfl
    | true => simp [varintField, varint_ne_nil]

end Client
end CotMta
