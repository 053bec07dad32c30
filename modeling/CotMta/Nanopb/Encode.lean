/-
  nanopb's encoder (`pb_encode.c`), for the messages that the protocol uses:
  proto3 messages whose fields are singular and static, of type `bool`, `uint32`
  or `bytes` of a fixed length.

  A `pb_msgdesc_t` is the list of the fields in tag order; a field's pointer into
  the message structure is the pair of functions that read and write it.
-/
import CotMta.Lib.Bytes

namespace CotMta.Nanopb

/-- `PB_LTYPE`, with the size of the data. -/
inductive LType where
  | bool
  | uvarint32
  | fixedLengthBytes (size : ℕ)
deriving DecidableEq

/-- The C type of the data. -/
abbrev LType.Data : LType → Type
  | .bool => Bool
  | .uvarint32 => UInt32
  | .fixedLengthBytes size => Bytes size

/-- `pb_field_iter_t` on a field of the structure `M`. -/
structure PbField (M : Type) where
  tag : ℕ
  ltype : LType
  get : M → ltype.Data
  set : M → ltype.Data → M

/-- `pb_wire_type_t`. -/
def wtVarint : ℕ := 0

/-- Eight bytes. -/
def wt64bit : ℕ := 1

/-- A length and as many bytes. -/
def wtString : ℕ := 2

/-- Four bytes. -/
def wt32bit : ℕ := 5

/-! ## Output streams -/

/-- `pb_ostream_t` over a buffer: its size and what has been written to it. -/
structure OStream where
  max_size : ℕ
  written : List UInt8

/-- A buffer that nothing has been written to. -/
def pbOstreamFromBuffer (bufsize : ℕ) : OStream := ⟨bufsize, []⟩

/-- Fails with "stream full"; the sums stay far below the range of `size_t`. -/
def pbWrite (stream : OStream) (buf : List UInt8) : Option OStream :=
  if buf.length > 0 ∧ stream.written.length + buf.length > stream.max_size then none
  else some { stream with written := stream.written ++ buf }

/-! ## Varints -/

/-- The loop over the low word, with `i` places left before the high word: the
    stored bytes and the pending one. -/
def varintLow (high : ℕ) : ℕ → ℕ → ℕ → List ℕ × ℕ
  | 0, _, byte => ([], byte)
  | i + 1, low, byte =>
    if low ≠ 0 ∨ high ≠ 0 then
      let r := varintLow high i (low >>> 7) (low &&& 0x7F)
      ((byte ||| 0x80) :: r.1, r.2)
    else ([], byte)

/-- The loop over the rest of the high word. -/
def varintHigh (high byte : ℕ) : List ℕ × ℕ :=
  if high ≠ 0 then
    let r := varintHigh (high >>> 7) (high &&& 0x7F)
    ((byte ||| 0x80) :: r.1, r.2)
  else ([], byte)
termination_by high
decreasing_by rw [Nat.shiftRight_eq_div_pow]; omega

/-- `pb_encode_varint_32`: groups of seven bits, the lowest first. -/
def pbEncodeVarint32 (stream : OStream) (low high : ℕ) : Option OStream :=
  let r := varintLow high 4 (low >>> 7) (low &&& 0x7F)
  let h := if high ≠ 0 then varintHigh (high >>> 3) (r.2 ||| (high &&& 0x07) <<< 4) else ([], r.2)
  pbWrite stream ((r.1 ++ h.1 ++ [h.2]).map UInt8.ofNat)

/-- A value below 128 takes the short way. -/
def pbEncodeVarint (stream : OStream) (value : ℕ) : Option OStream :=
  if value ≤ 0x7F then pbWrite stream [UInt8.ofNat value]
  else pbEncodeVarint32 stream (value % 2 ^ 32) (value >>> 32)

/-! ## Fields -/

/-- The field number above the three bits of the wire type. -/
def pbEncodeTag (stream : OStream) (wiretype field_number : ℕ) : Option OStream :=
  pbEncodeVarint stream (field_number <<< 3 ||| wiretype)

/-- The wire type that `pb_encode_tag_for_field` chooses. -/
def LType.wireType : LType → ℕ
  | .bool | .uvarint32 => wtVarint
  | .fixedLengthBytes _ => wtString

/-- The length and the bytes. -/
def pbEncodeString (stream : OStream) (buffer : List UInt8) : Option OStream := do
  pbWrite (← pbEncodeVarint stream buffer.length) buffer

/-- A fixed-length field only counts as empty when its length is zero. -/
def pbCheckProto3DefaultValue : (ltype : LType) → ltype.Data → Bool
  | .bool, value => value == false
  | .uvarint32, value => value == 0
  | .fixedLengthBytes size, _ => size == 0

/-- `pb_enc_bool`, `pb_enc_varint`, `pb_enc_fixed_length_bytes`. -/
def pbEncData (stream : OStream) : (ltype : LType) → ltype.Data → Option OStream
  | .bool, value => pbEncodeVarint stream (if value then 1 else 0)
  | .uvarint32, value => pbEncodeVarint stream value.toNat
  | .fixedLengthBytes _, value => pbEncodeString stream value.toList

/-- The tag and the data. -/
def encodeBasicField (stream : OStream) (tag : ℕ) (ltype : LType) (value : ltype.Data) :
    Option OStream := do
  pbEncData (← pbEncodeTag stream ltype.wireType tag) ltype value

variable {M : Type}

/-- A field with its default value is left out. -/
def encodeField (msg : M) (stream : OStream) (field : PbField M) : Option OStream :=
  if pbCheckProto3DefaultValue field.ltype (field.get msg) then some stream
  else encodeBasicField stream field.tag field.ltype (field.get msg)

/-- The fields in the order of their tags. -/
def pbEncode (stream : OStream) (fields : List (PbField M)) (msg : M) : Option OStream :=
  fields.foldlM (encodeField msg) stream

end CotMta.Nanopb
