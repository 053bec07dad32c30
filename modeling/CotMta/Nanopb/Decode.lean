/-
  nanopb's decoder (`pb_decode.c`) on the same messages.

  A stream over a buffer is the list of the bytes left.  `none` is a failed
  call; the structure it may have written to is not looked at afterwards.
-/
import CotMta.Nanopb.Encode

namespace CotMta.Nanopb

/-! ## Reading -/

/-- The next bytes, if there are as many. -/
def pbRead (stream : List UInt8) (count : ℕ) : Option (List UInt8 × List UInt8) :=
  if stream.length < count then none else some (stream.take count, stream.drop count)

/-- The "varint overflow" error.  Beyond 32 bits only zeros or the extension of
    a sign may follow. -/
def varint32Overflow (bitpos result : ℕ) (byte : UInt8) : Prop :=
  let sign_extension : UInt8 := if bitpos < 63 then 0xFF else 0x01
  let valid_extension := byte &&& 0x7F = 0x00 ∨ result >>> 31 ≠ 0 ∧ byte = sign_extension
  if bitpos ≥ 32 then bitpos ≥ 64 ∨ ¬valid_extension
  else bitpos = 28 ∧ byte &&& 0x70 ≠ 0 ∧ byte &&& 0x78 ≠ 0x78

instance {bitpos result : ℕ} {byte : UInt8} : Decidable (varint32Overflow bitpos result byte) :=
  inferInstanceAs (Decidable (ite _ _ _))

/-- The bits that a byte of a 32-bit varint adds. -/
def varint32Add (bitpos result : ℕ) (byte : UInt8) : ℕ :=
  if bitpos ≥ 32 then result
  else if bitpos = 28 then result ||| (byte &&& 0x0F).toNat <<< bitpos
  else result ||| (byte &&& 0x7F).toNat <<< bitpos

/-- The bytes after the first of a 32-bit varint. -/
def varint32Loop (bitpos result : ℕ) : List UInt8 → Option (ℕ × List UInt8)
  | [] => none
  | byte :: rest =>
    if varint32Overflow bitpos result byte then none
    else if byte &&& 0x80 ≠ 0 then
      varint32Loop (bitpos + 7) (varint32Add bitpos result byte) rest
    else some (varint32Add bitpos result byte, rest)

/-- A varint of 32 bits; the extension of a sign is dropped. -/
def pbDecodeVarint32 : List UInt8 → Option (ℕ × List UInt8)
  | [] => none
  | byte :: rest =>
    if byte &&& 0x80 = 0 then some (byte.toNat, rest)
    else varint32Loop 7 (byte &&& 0x7F).toNat rest

/-- `pb_decode_varint`, from bit `bitpos` on. -/
def varint64Loop (bitpos result : ℕ) : List UInt8 → Option (ℕ × List UInt8)
  | [] => none
  | byte :: rest =>
    if bitpos ≥ 63 ∧ byte &&& 0xFE ≠ 0 then none
    else
      let result := result ||| (byte &&& 0x7F).toNat <<< bitpos
      if byte &&& 0x80 ≠ 0 then varint64Loop (bitpos + 7) result rest else some (result, rest)

/-- A varint of 64 bits. -/
def pbDecodeVarint (stream : List UInt8) : Option (ℕ × List UInt8) := varint64Loop 0 0 stream

/-- Up to the first byte without the continuation bit. -/
def pbSkipVarint : List UInt8 → Option (List UInt8)
  | [] => none
  | byte :: rest => if byte &&& 0x80 ≠ 0 then pbSkipVarint rest else some rest

/-- A length and as many bytes. -/
def pbSkipString (stream : List UInt8) : Option (List UInt8) := do
  let (length, stream) ← pbDecodeVarint32 stream
  let (_, stream) ← pbRead stream length
  pure stream

/-- The data of a field that the message does not have. -/
def pbSkipField (stream : List UInt8) (wire_type : ℕ) : Option (List UInt8) :=
  if wire_type = wtVarint then pbSkipVarint stream
  else if wire_type = wt64bit then (pbRead stream 8).map (·.2)
  else if wire_type = wtString then pbSkipString stream
  else if wire_type = wt32bit then (pbRead stream 4).map (·.2)
  else none

/-! ## Fields -/

/-- `PB_SIZE_MAX`. -/
def pbSizeMax : ℕ := 65535

/-- `pb_dec_bool`, `pb_dec_varint`, `pb_dec_fixed_length_bytes`. -/
def pbDecData (stream : List UInt8) : (ltype : LType) → Option (ltype.Data × List UInt8)
  | .bool => do
    let (value, stream) ← pbDecodeVarint32 stream
    pure (value ≠ 0, stream)
  | .uvarint32 => do
    let (value, stream) ← pbDecodeVarint stream
    if value % 2 ^ 32 ≠ value then none else pure (UInt32.ofNat value, stream)
  | .fixedLengthBytes data_size => do
    let (size, stream) ← pbDecodeVarint32 stream
    if size > pbSizeMax then none
    else if size = 0 then pure (Bytes.ofNat data_size 0, stream)
    else if size ≠ data_size then none
    else
      if h : stream.length < data_size then none
      else pure (⟨stream.take data_size, List.length_take_of_le (Nat.not_lt.1 h)⟩,
        stream.drop data_size)

/-- The data, if the wire type fits. -/
def decodeBasicField (stream : List UInt8) (wire_type : ℕ) (ltype : LType) :
    Option (ltype.Data × List UInt8) :=
  if wire_type ≠ ltype.wireType then none else pbDecData stream ltype

variable {M : Type}

/-- One round of the loop of `pb_decode_inner`: a tag and its field. -/
def pbDecodeField (fields : List (PbField M)) (msg : M) (stream : List UInt8) :
    Option (M × List UInt8) := do
  let (temp, stream) ← pbDecodeVarint32 stream
  let tag := temp >>> 3
  let wire_type := temp &&& 7
  if tag = 0 then none
  else
    match fields.find? (·.tag = tag) with
    | none => do pure (msg, ← pbSkipField stream wire_type)
    | some field => do
      let (value, stream) ← decodeBasicField stream wire_type field.ltype
      pure (field.set msg value, stream)

/-! ## What is read is gone -/

theorem pbRead_length {stream : List UInt8} {count : ℕ} {r : List UInt8 × List UInt8}
    (h : pbRead stream count = some r) : r.2.length ≤ stream.length := by
  unfold pbRead at h
  split at h
  · cases h
  · cases h
    simp

theorem varint32Loop_length : ∀ {stream : List UInt8} {bitpos result : ℕ} {r : ℕ × List UInt8},
    varint32Loop bitpos result stream = some r → r.2.length < stream.length
  | [], _, _, _, h => by cases h
  | byte :: rest, bitpos, result, r, h => by
    simp only [varint32Loop] at h
    split at h
    · cases h
    · split at h
      · exact (varint32Loop_length h).trans (Nat.lt_succ_self _)
      · cases h
        exact Nat.lt_succ_self _

theorem pbDecodeVarint32_length {stream : List UInt8} {r : ℕ × List UInt8}
    (h : pbDecodeVarint32 stream = some r) : r.2.length < stream.length := by
  cases stream with
  | nil => cases h
  | cons byte rest =>
    simp only [pbDecodeVarint32] at h
    split at h
    · cases h
      exact Nat.lt_succ_self _
    · exact (varint32Loop_length h).trans (Nat.lt_succ_self _)

theorem varint64Loop_length : ∀ {stream : List UInt8} {bitpos result : ℕ} {r : ℕ × List UInt8},
    varint64Loop bitpos result stream = some r → r.2.length < stream.length
  | [], _, _, _, h => by cases h
  | byte :: rest, bitpos, result, r, h => by
    simp only [varint64Loop] at h
    split at h
    · cases h
    · split at h
      · exact (varint64Loop_length h).trans (Nat.lt_succ_self _)
      · cases h
        exact Nat.lt_succ_self _

theorem pbSkipVarint_length : ∀ {stream r : List UInt8},
    pbSkipVarint stream = some r → r.length < stream.length
  | [], _, h => by cases h
  | byte :: rest, r, h => by
    simp only [pbSkipVarint] at h
    split at h
    · exact (pbSkipVarint_length h).trans (Nat.lt_succ_self _)
    · cases h
      exact Nat.lt_succ_self _

theorem pbSkipField_length {stream r : List UInt8} {wire_type : ℕ}
    (h : pbSkipField stream wire_type = some r) : r.length ≤ stream.length := by
  unfold pbSkipField at h
  split at h
  · exact (pbSkipVarint_length h).le
  split at h
  · obtain ⟨q, hq, rfl⟩ := Option.map_eq_some_iff.1 h
    exact pbRead_length hq
  split at h
  · simp only [pbSkipString, Option.bind_eq_bind, Option.bind_eq_some_iff, Option.pure_def,
      Option.some.injEq] at h
    obtain ⟨q, hq, q', hq', rfl⟩ := h
    exact (pbRead_length hq').trans (pbDecodeVarint32_length hq).le
  split at h
  · obtain ⟨q, hq, rfl⟩ := Option.map_eq_some_iff.1 h
    exact pbRead_length hq
  · cases h

theorem pbDecData_length {stream : List UInt8} : ∀ {ltype : LType} {r : ltype.Data × List UInt8},
    pbDecData stream ltype = some r → r.2.length ≤ stream.length
  | .bool, r, h => by
    simp only [pbDecData, Option.bind_eq_bind, Option.bind_eq_some_iff, Option.pure_def,
      Option.some.injEq] at h
    obtain ⟨q, hq, rfl⟩ := h
    exact (pbDecodeVarint32_length hq).le
  | .uvarint32, r, h => by
    simp only [pbDecData, Option.bind_eq_bind, Option.bind_eq_some_iff] at h
    obtain ⟨q, hq, h⟩ := h
    split at h
    · cases h
    · cases h
      exact (varint64Loop_length hq).le
  | .fixedLengthBytes data_size, r, h => by
    simp only [pbDecData, Option.bind_eq_bind, Option.bind_eq_some_iff] at h
    obtain ⟨q, hq, h⟩ := h
    have hlt := (pbDecodeVarint32_length hq).le
    split at h
    · cases h
    split at h
    · cases h
      exact hlt
    split at h
    · cases h
    split at h
    · cases h
    · cases h
      simp only [List.length_drop]
      omega

theorem pbDecodeField_length {fields : List (PbField M)} {msg : M} {stream : List UInt8}
    {r : M × List UInt8} (h : pbDecodeField fields msg stream = some r) :
    r.2.length < stream.length := by
  simp only [pbDecodeField, Option.bind_eq_bind, Option.bind_eq_some_iff] at h
  obtain ⟨q, hq, h⟩ := h
  have hlt := pbDecodeVarint32_length hq
  split at h
  · cases h
  split at h
  · simp only [Option.bind_eq_some_iff, Option.pure_def, Option.some.injEq] at h
    obtain ⟨q', hq', rfl⟩ := h
    exact (pbSkipField_length hq').trans_lt hlt
  · simp only [Option.bind_eq_some_iff, Option.pure_def, Option.some.injEq, decodeBasicField] at h
    obtain ⟨q', hq', rfl⟩ := h
    split at hq'
    · cases hq'
    · exact (pbDecData_length hq').trans_lt hlt

/-! ## The decoder -/

/-- The loop of `pb_decode_inner`, which ends when no byte is left. -/
def pbDecode (fields : List (PbField M)) (msg : M) (stream : List UInt8) : Option M :=
  if stream = [] then some msg
  else
    match _h : pbDecodeField fields msg stream with
    | none => none
    | some (msg, stream) => pbDecode fields msg stream
termination_by stream.length
decreasing_by exact pbDecodeField_length _h

end CotMta.Nanopb
