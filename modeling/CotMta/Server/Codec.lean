/-
  What the message codecs of the server write and read.

  Every encoder writes the wire form of its message if that fits the buffer of
  `X_size` bytes and returns the empty vector otherwise (`encode_eq`).  For
  `OTEncrypted` it never fits: the three fixed-length fields take 82 bytes, the
  constant is 80.
-/
import CotMta.Nanopb.Merge
import CotMta.Server.ProtoCodec

namespace CotMta.Server.ProtoCodec

open Nanopb

variable {M : Type}

theorem encode_eq {fields : List (PbField M)} (h : SmallFields fields) (size : ℕ) (m : M) :
    encode fields size m = if (wire fields m).length ≤ size then wire fields m else [] := by
  by_cases hle : (wire fields m).length ≤ size
  · rw [encode, pbEncode_fits h hle, if_pos hle]
  · rw [encode, pbEncode_eq h, pbWrite, pbOstreamFromBuffer, List.length_nil, Nat.zero_add,
      if_pos ⟨by omega, Nat.lt_of_not_le hle⟩, if_neg hle]

theorem length_bytesField {tag : ℕ} {value : List UInt8} (ht : tag < 16)
    (hv : value.length < 128) : (bytesField tag value).length = value.length + 2 := by
  rw [bytesField, varint_of_lt (by omega), varint_of_lt hv]
  simp only [List.length_append, List.length_singleton]
  omega

theorem length_varintField {tag value : ℕ} (ht : tag < 16) (hv : value < 128) :
    (varintField tag value).length = 2 := by
  rw [varintField, varint_of_lt (by omega), varint_of_lt hv]
  rfl

/-- A field that is stored and then followed by more. -/
theorem pbDecode_bytesField {fields : List (PbField M)} {m : M} {tag size : ℕ}
    (get : M → Bytes size) {set : M → Bytes size → M} {value : Bytes size} {rest : List UInt8}
    (hfind : fields.find? (·.tag = tag) = some ⟨tag, .fixedLengthBytes size, get, set⟩)
    (hpos : 0 < tag) (ht : tag < 2 ^ 29) (hs : 0 < size ∧ size ≤ pbSizeMax) :
    pbDecode fields m (bytesField tag value.toList ++ rest) = pbDecode fields (set m value) rest := by
  rw [← record_fixedLengthBytes ht]
  exact pbDecode_record (f := ⟨tag, .fixedLengthBytes size, get, set⟩) hfind hpos ht hs

/-! ## The sizes of the buffers -/

/-- The most that a field takes when its tag and its length are a byte each. -/
def maxLength : LType → ℕ
  | .bool => 2
  | .uvarint32 => 6
  | .fixedLengthBytes size => size + 2

/-- Tags below 16 and lengths below 128 take one byte. -/
def ShortFields (fields : List (PbField M)) : Prop :=
  ∀ f ∈ fields, f.tag < 16 ∧ f.ltype.Small ∧ maxLength f.ltype < 130

theorem ShortFields.small {fields : List (PbField M)} (h : ShortFields fields) :
    SmallFields fields := by
  intro f hf
  obtain ⟨ht, hs, -⟩ := h f hf
  exact ⟨by omega, hs⟩

theorem length_record_le {tag : ℕ} (ht : tag < 16) : ∀ {ltype : LType} {value : ltype.Data},
    maxLength ltype < 130 → (record tag ltype value).length ≤ maxLength ltype
  | .bool, value, _ => by
    rw [record_bool (by omega), length_varintField ht (by split <;> norm_num), maxLength]
  | .uvarint32, value, _ => by
    have hlt : value.toNat < 128 ^ (4 + 1) := lt_trans value.toNat_lt (by norm_num)
    have hlen := length_varint_le 4 value.toNat hlt
    rw [record_uvarint32 (by omega), varintField, varint_of_lt (by omega), List.length_append,
      List.length_singleton, maxLength]
    omega
  | .fixedLengthBytes size, value, h => by
    rw [maxLength] at h
    have hsize : value.toList.length < 128 := by
      rw [value.length_toList]
      omega
    rw [record_fixedLengthBytes (by omega), length_bytesField ht hsize, value.length_toList,
      maxLength]

theorem length_wire_le {fields : List (PbField M)} {m : M} (h : ShortFields fields) :
    (wire fields m).length ≤ (fields.map (maxLength ·.ltype)).sum := by
  induction fields with
  | nil => exact le_rfl
  | cons f fields ih =>
    obtain ⟨ht, -, hs⟩ := h f (List.mem_cons_self ..)
    have ih' := ih fun g hg => h g (List.mem_cons_of_mem _ hg)
    rw [wire] at ih' ⊢
    rw [List.flatMap_cons, List.length_append, List.map_cons, List.sum_cons]
    refine Nat.add_le_add ?_ ih'
    split
    · exact Nat.zero_le _
    · exact length_record_le ht hs

/-- The encoder does not take its failure path. -/
def Fits (fields : List (PbField M)) (size : ℕ) (m : M) : Prop :=
  pbEncode (pbOstreamFromBuffer size) fields m ≠ none

theorem fits {fields : List (PbField M)} {size : ℕ} (h : ShortFields fields)
    (hsize : (fields.map (maxLength ·.ltype)).sum ≤ size) (m : M) : Fits fields size m := by
  rw [Fits, pbEncode_fits h.small ((length_wire_le h).trans hsize)]
  exact Option.some_ne_none _

theorem encode_eq_wire {fields : List (PbField M)} {size : ℕ} (h : ShortFields fields)
    (hsize : (fields.map (maxLength ·.ltype)).sum ≤ size) (m : M) :
    encode fields size m = wire fields m := by
  rw [encode_eq h.small, if_pos ((length_wire_le h).trans hsize)]

theorem short_sessionConfig : ShortFields sessionConfigFields := by
  simp [ShortFields, sessionConfigFields, LType.Small, maxLength]

theorem size_sessionConfig :
    (sessionConfigFields.map (maxLength ·.ltype)).sum = sessionConfigSize := rfl

theorem short_otInit : ShortFields otInitFields := by
  simp [ShortFields, otInitFields, LType.Small, maxLength, pbSizeMax]

theorem size_otInit : (otInitFields.map (maxLength ·.ltype)).sum = otInitSize := rfl

theorem short_otResponse : ShortFields otResponseFields := by
  simp [ShortFields, otResponseFields, LType.Small, maxLength, pbSizeMax]

theorem size_otResponse : (otResponseFields.map (maxLength ·.ltype)).sum = otResponseSize := rfl

theorem short_mtaShare : ShortFields mtaShareFields := by
  simp [ShortFields, mtaShareFields, LType.Small, maxLength, pbSizeMax]

theorem size_mtaShare : (mtaShareFields.map (maxLength ·.ltype)).sum = mtaShareSize := rfl

theorem short_debugRevealResponse : ShortFields debugRevealResponseFields := by
  simp [ShortFields, debugRevealResponseFields, LType.Small, maxLength, pbSizeMax]

theorem size_debugRevealResponse :
    (debugRevealResponseFields.map (maxLength ·.ltype)).sum = debugRevealResponseSize := rfl

/-! ## What the server sends -/

theorem encodeOtResponse_eq (m : OTResponseMessage) :
    encodeOtResponse m = bytesField 1 m.point_b.toList := by
  rw [encodeOtResponse, encode_eq_wire short_otResponse size_otResponse.le,
    ← record_fixedLengthBytes (by norm_num)]
  exact List.append_nil _

theorem encodeScalar_eq (m : ScalarMessage) : encodeScalar m = bytesField 1 m.value.toList := by
  rw [encodeScalar, encode_eq_wire short_mtaShare size_mtaShare.le,
    ← record_fixedLengthBytes (by norm_num)]
  exact List.append_nil _

/-- The flag is left out when it is false. -/
theorem encodeDebugRevealResponse_eq (m : DebugRevealResponseMessage) :
    encodeDebugRevealResponse m = bytesField 1 m.multiplicative_share_y.toList ++
      if m.verified then varintField 2 1 else [] := by
  obtain ⟨y, verified⟩ := m
  rw [encodeDebugRevealResponse,
    encode_eq_wire short_debugRevealResponse size_debugRevealResponse.le,
    ← record_fixedLengthBytes (by norm_num)]
  cases verified with
  | false => rfl
  | true =>
    have hflag : record 2 .bool true = varintField 2 1 := record_bool (by norm_num)
    rw [if_pos rfl, ← hflag, ← List.append_nil (record 2 _ _)]
    rfl

/-! ## What the server receives -/

theorem decodeSessionConfig_eq (debug_reveal : Bool) :
    decodeSessionConfig (varintField 1 (if debug_reveal then 1 else 0)) = some ⟨debug_reveal⟩ := by
  rw [decodeSessionConfig, ← record_bool (by norm_num), ← List.append_nil (record _ _ _),
    pbDecode_record (f := ⟨1, .bool, (·.debug_reveal), fun m v => { m with debug_reveal := v }⟩) rfl
      (by norm_num) (by norm_num) trivial, pbDecode_nil]

theorem decodeOtInit_eq (point_a : Point) (bit_index : UInt32) :
    decodeOtInit (bytesField 1 point_a.toList ++ varintField 2 bit_index.toNat) =
      some ⟨point_a, bit_index⟩ := by
  rw [decodeOtInit, pbDecode_bytesField (·.point_a) rfl (by norm_num) (by norm_num)
      (by norm_num [pbSizeMax]), ← record_uvarint32 (by norm_num), ← List.append_nil (record _ _ _),
    pbDecode_record (f := ⟨2, .uvarint32, (·.bit_index), fun m v => { m with bit_index := v }⟩) rfl
      (by norm_num) (by norm_num) trivial, pbDecode_nil]

theorem decodeOtEncrypted_eq (m : OTEncryptedPayload) :
    decodeOtEncrypted (bytesField 1 m.encrypted_m0.toList ++ bytesField 2 m.encrypted_m1.toList ++
      bytesField 3 m.nonce.toList) = some m := by
  rw [decodeOtEncrypted, List.append_assoc,
    pbDecode_bytesField (·.encrypted_m0) rfl (by norm_num) (by norm_num)
      (by norm_num [pbSizeMax]),
    pbDecode_bytesField (·.encrypted_m1) rfl (by norm_num) (by norm_num)
      (by norm_num [pbSizeMax]), ← List.append_nil (bytesField 3 _),
    pbDecode_bytesField (·.nonce) rfl (by norm_num) (by norm_num)
      (by norm_num [pbSizeMax]), pbDecode_nil]

theorem decodeDebugRevealRequest_eq (m : DebugRevealRequestMessage) :
    decodeDebugRevealRequest (bytesField 1 m.multiplicative_share_x.toList ++
      bytesField 2 m.additive_share_u.toList) = some m := by
  rw [decodeDebugRevealRequest,
    pbDecode_bytesField (·.multiplicative_share_x) rfl (by norm_num) (by norm_num)
      (by norm_num [pbSizeMax]), ← List.append_nil (bytesField 2 _),
    pbDecode_bytesField (·.additive_share_u) rfl (by norm_num) (by norm_num)
      (by norm_num [pbSizeMax]), pbDecode_nil]

/-! ## Round trips

A field that is left out is at its default in `X_init_default` too. -/

theorem decode_encodeSessionConfig (m : SessionConfigMessage) :
    decodeSessionConfig (encodeSessionConfig m) = some m := by
  rw [encodeSessionConfig, encode_eq_wire short_sessionConfig size_sessionConfig.le,
    decodeSessionConfig, pbDecode_wire short_sessionConfig.small (by simp [sessionConfigFields])]
  obtain ⟨debug_reveal⟩ := m
  cases debug_reveal with
  | false => rfl
  | true => rfl

theorem decode_encodeOtInit (m : OTInitMessage) : decodeOtInit (encodeOtInit m) = some m := by
  rw [encodeOtInit, encode_eq_wire short_otInit size_otInit.le, decodeOtInit,
    pbDecode_wire short_otInit.small (by simp [otInitFields])]
  obtain ⟨point_a, bit_index⟩ := m
  by_cases hzero : bit_index = 0
  · rw [hzero]
    rfl
  · simp [setFields, otInitFields, pbCheckProto3DefaultValue, hzero]

theorem decode_encodeScalar (m : ScalarMessage) : decodeScalar (encodeScalar m) = some m := by
  rw [encodeScalar, encode_eq_wire short_mtaShare size_mtaShare.le, decodeScalar,
    pbDecode_wire short_mtaShare.small (by simp [mtaShareFields])]
  rfl

/-! ## Messages put together -/

/-- An index of zero is not written, so it leaves the index before it. -/
def mergeOtInit (acc m : OTInitMessage) : OTInitMessage :=
  ⟨m.point_a, if m.bit_index = 0 then acc.bit_index else m.bit_index⟩

theorem setFields_otInit (m acc : OTInitMessage) :
    setFields otInitFields m acc = mergeOtInit acc m := by
  by_cases hzero : m.bit_index = 0
  · simp [setFields, otInitFields, pbCheckProto3DefaultValue, mergeOtInit, hzero]
  · simp [setFields, otInitFields, pbCheckProto3DefaultValue, mergeOtInit, hzero]

theorem setFields_sessionConfig (m acc : SessionConfigMessage) :
    setFields sessionConfigFields m acc = ⟨acc.debug_reveal || m.debug_reveal⟩ := by
  obtain ⟨debug_reveal⟩ := m
  cases debug_reveal with
  | false => exact congrArg SessionConfigMessage.mk (Bool.or_false _).symm
  | true => exact congrArg SessionConfigMessage.mk (Bool.or_true _).symm

theorem foldl_sessionConfig : ∀ (sent : List SessionConfigMessage) (acc : SessionConfigMessage),
    sent.foldl (fun acc m => setFields sessionConfigFields m acc) acc =
      ⟨acc.debug_reveal || sent.any (·.debug_reveal)⟩
  | [], acc => congrArg SessionConfigMessage.mk (Bool.or_false _).symm
  | m :: sent, acc => by
    rw [List.foldl_cons, foldl_sessionConfig, setFields_sessionConfig, List.any_cons, Bool.or_assoc]

theorem foldl_mtaShare : ∀ (sent : List ScalarMessage) (acc : ScalarMessage),
    sent.foldl (fun acc m => setFields mtaShareFields m acc) acc = sent.getLastD acc
  | [], _ => rfl
  | m :: sent, acc => by
    rw [List.foldl_cons, foldl_mtaShare, List.getLastD_cons]
    rfl

/-- **Encodings one after the other are merged**: of a point or a share the last
    counts, a flag is set if one of them sets it, and of the indices the last one
    but zero is taken, also when a later message has the index zero. -/
theorem decodes_merge :
    (∀ sent : List OTInitMessage, decodeOtInit (sent.flatMap encodeOtInit) =
      some (sent.foldl mergeOtInit ⟨zeros 33, 0⟩)) ∧
    (∀ sent : List SessionConfigMessage, decodeSessionConfig (sent.flatMap encodeSessionConfig) =
      some ⟨sent.any (·.debug_reveal)⟩) ∧
    ∀ sent : List ScalarMessage, decodeScalar (sent.flatMap encodeScalar) =
      some (sent.getLastD ⟨zeros 32⟩) := by
  refine ⟨fun sent => ?_, fun sent => ?_, fun sent => ?_⟩
  · have hencode : encodeOtInit = wire otInitFields :=
      funext fun m => encode_eq_wire short_otInit size_otInit.le m
    rw [hencode, decodeOtInit, pbDecode_wires short_otInit.small (by simp [otInitFields])]
    simp only [setFields_otInit]
  · have hencode : encodeSessionConfig = wire sessionConfigFields :=
      funext fun m => encode_eq_wire short_sessionConfig size_sessionConfig.le m
    rw [hencode, decodeSessionConfig,
      pbDecode_wires short_sessionConfig.small (by simp [sessionConfigFields]),
      foldl_sessionConfig, Bool.false_or]
  · have hencode : encodeScalar = wire mtaShareFields :=
      funext fun m => encode_eq_wire short_mtaShare size_mtaShare.le m
    rw [hencode, decodeScalar, pbDecode_wires short_mtaShare.small (by simp [mtaShareFields]),
      foldl_mtaShare]

/-! ## OTEncrypted -/

theorem small_otEncrypted : SmallFields otEncryptedFields := by
  simp [SmallFields, otEncryptedFields, LType.Small, pbSizeMax]

theorem length_wire_otEncrypted (m : OTEncryptedPayload) :
    (wire otEncryptedFields m).length = 82 := by
  have hwire : wire otEncryptedFields m = record 1 (.fixedLengthBytes 32) m.encrypted_m0 ++
      (record 2 (.fixedLengthBytes 32) m.encrypted_m1 ++
        (record 3 (.fixedLengthBytes 12) m.nonce ++ [])) := rfl
  simp [hwire, record_fixedLengthBytes, length_bytesField]

theorem encodeOtEncrypted_eq (m : OTEncryptedPayload) : encodeOtEncrypted m = [] := by
  rw [encodeOtEncrypted, encode_eq small_otEncrypted, length_wire_otEncrypted, otEncryptedSize]
  rfl

/-- **`encode_ot_encrypted` always fails**, with the silent empty vector, and so
    never has a result that decodes to the payload. -/
theorem encodeOtEncrypted_fails (m : OTEncryptedPayload) :
    ¬(encodeOtEncrypted m ≠ [] ∧ decodeOtEncrypted (encodeOtEncrypted m) = some m) :=
  fun h => h.1 (encodeOtEncrypted_eq m)

/-- A payload that comes out as the all-zero one. -/
theorem encodeOtEncrypted_loses_payload :
    ¬∀ m : OTEncryptedPayload,
      encodeOtEncrypted m ≠ [] ∧ decodeOtEncrypted (encodeOtEncrypted m) = some m := by
  intro h
  have h' := (h ⟨.ofNat 32 1, .ofNat 32 2, .ofNat 12 3⟩).1
  revert h'
  decide +kernel

end CotMta.Server.ProtoCodec
