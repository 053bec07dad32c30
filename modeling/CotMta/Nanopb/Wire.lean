/-
  What nanopb writes and reads.

  The encoder writes the records of the fields that are not at their default, in
  tag order, and fails exactly when they do not fit (`pbEncode_eq`).  The decoder
  takes a record off the front of its stream and sets the field
  (`pbDecode_record`), so from what was encoded it sets the fields that were not
  at their default (`pbDecode_wire`).
-/
import CotMta.Lib.Records
import CotMta.Nanopb.Decode

namespace CotMta.Nanopb

variable {M : Type} {s : OStream} {v w : ℕ}

/-! ## Writing -/

/-- Two writes are one: the stream only fails when it is full. -/
theorem pbWrite_bind {a b : List UInt8} :
    (pbWrite s a).bind (pbWrite · b) = pbWrite s (a ++ b) := by
  simp only [pbWrite, List.length_append]
  by_cases ha : a.length > 0 ∧ s.written.length + a.length > s.max_size
  · rw [if_pos ha, if_pos (by omega)]
    rfl
  · rw [if_neg ha]
    simp only [Option.bind_some, List.length_append, List.append_assoc]
    by_cases hb : b.length > 0 ∧ s.written.length + a.length + b.length > s.max_size
    · rw [if_pos hb, if_pos (by omega)]
    · rw [if_neg hb, if_neg (by omega)]

theorem pbWrite_nil : pbWrite s [] = some s := by simp [pbWrite]

/-- The low-word loop with no high word, on a value of at most `i + 1` groups. -/
theorem varintLow_eq : ∀ (i low byte : ℕ), byte < 128 → byte + 128 * low < 128 ^ (i + 1) →
    ((varintLow 0 i low byte).1 ++ [(varintLow 0 i low byte).2]).map UInt8.ofNat =
      varint (byte + 128 * low)
  | 0, low, byte, hb, h => by
    obtain rfl : low = 0 := by omega
    simp [varintLow, varint_of_lt hb]
  | i + 1, low, byte, hb, h => by
    by_cases h0 : low = 0
    · simp [varintLow, h0, varint_of_lt hb]
    · have hor : byte ||| 0x80 = byte + 128 := by
        rw [Nat.or_comm]
        exact (Nat.two_pow_add_eq_or_of_lt (i := 7) hb 1).symm.trans (add_comm _ _)
      have hlow : low % 128 + 128 * (low / 128) = low := Nat.mod_add_div low 128
      have ih := varintLow_eq i (low / 128) (low % 128)
        (Nat.mod_lt _ (by norm_num)) (by rw [hlow]; rw [pow_succ] at h; omega)
      rw [hlow] at ih
      simp only [varintLow, h0, ne_eq, not_false_eq_true, true_or, if_true, hor,
        Nat.shiftRight_eq_div_pow, show (0x7F : ℕ) = 2 ^ 7 - 1 by norm_num,
        Nat.and_two_pow_sub_one_eq_mod, List.cons_append, List.map_cons]
      rw [varint_of_ge (by omega), show (byte + 128 * low) % 128 = byte by omega,
        show (byte + 128 * low) / 128 = low by omega, ← ih]

theorem pbEncodeVarint_eq (h : v < 2 ^ 32) : pbEncodeVarint s v = pbWrite s (varint v) := by
  unfold pbEncodeVarint
  split
  · next hle => rw [varint_of_lt (by omega)]
  · have hhigh : v >>> 32 = 0 := by
      rw [Nat.shiftRight_eq_div_pow]
      omega
    have hv : v % 128 + 128 * (v / 128) = v := Nat.mod_add_div v 128
    have hlow := varintLow_eq 4 (v / 128) (v % 128)
      (Nat.mod_lt _ (by norm_num)) (by rw [hv]; omega)
    rw [hv] at hlow
    simp only [pbEncodeVarint32, hhigh, Nat.mod_eq_of_lt h, ne_eq, not_true, if_false,
      Nat.shiftRight_eq_div_pow, show (0x7F : ℕ) = 2 ^ 7 - 1 by norm_num,
      Nat.and_two_pow_sub_one_eq_mod, List.append_nil]
    rw [← hlow]

/-- The payload of a field. -/
def payload : (ltype : LType) → ltype.Data → List UInt8
  | .bool, value => varint (if value then 1 else 0)
  | .uvarint32, value => varint value.toNat
  | .fixedLengthBytes size, value => varint size ++ value.toList

/-- A field on the wire: its tag with the wire type, and its payload. -/
def record (tag : ℕ) (ltype : LType) (value : ltype.Data) : List UInt8 :=
  varint (tag <<< 3 ||| ltype.wireType) ++ payload ltype value

/-- The limits that keep lengths and tags in 32 bits, and in `pb_size_t`. -/
def LType.Small : LType → Prop
  | .fixedLengthBytes size => 0 < size ∧ size ≤ pbSizeMax
  | _ => True

theorem pbEncData_eq : ∀ {ltype : LType} {value : ltype.Data}, ltype.Small →
    pbEncData s ltype value = pbWrite s (payload ltype value)
  | .bool, value, _ => by
    rw [pbEncData, payload, pbEncodeVarint_eq (by split <;> norm_num)]
  | .uvarint32, value, _ => pbEncodeVarint_eq value.toNat_lt
  | .fixedLengthBytes size, value, h => by
    have hlt : size < 2 ^ 32 := h.2.trans_lt (by norm_num [pbSizeMax])
    simp only [pbEncData, pbEncodeString, payload, value.length_toList, pbEncodeVarint_eq hlt]
    exact pbWrite_bind

theorem tag_lt {tag : ℕ} (ltype : LType) (h : tag < 2 ^ 29) :
    tag <<< 3 ||| ltype.wireType = 8 * tag + ltype.wireType ∧
      8 * tag + ltype.wireType < 2 ^ 32 := by
  have hw : ltype.wireType < 2 ^ 3 := by
    cases ltype <;> norm_num [LType.wireType, wtVarint, wtString]
  rw [Nat.shiftLeft_eq, mul_comm]
  exact ⟨(Nat.two_pow_add_eq_or_of_lt hw tag).symm, by omega⟩

theorem record_fixedLengthBytes {tag size : ℕ} {value : Bytes size} (ht : tag < 2 ^ 29) :
    record tag (.fixedLengthBytes size) value = bytesField tag value.toList := by
  rw [record, (tag_lt _ ht).1, bytesField, payload, value.length_toList, List.append_assoc]
  rfl

theorem record_uvarint32 {tag : ℕ} {value : UInt32} (ht : tag < 2 ^ 29) :
    record tag .uvarint32 value = varintField tag value.toNat := by
  rw [record, (tag_lt _ ht).1]
  rfl

theorem record_bool {tag : ℕ} {value : Bool} (ht : tag < 2 ^ 29) :
    record tag .bool value = varintField tag (if value then 1 else 0) := by
  rw [record, (tag_lt _ ht).1]
  rfl

theorem encodeBasicField_eq {tag : ℕ} {ltype : LType} {value : ltype.Data} (ht : tag < 2 ^ 29)
    (h : ltype.Small) :
    encodeBasicField s tag ltype value = pbWrite s (record tag ltype value) := by
  obtain ⟨hor, hlt⟩ := tag_lt ltype ht
  simp only [encodeBasicField, pbEncodeTag, record]
  rw [hor, pbEncodeVarint_eq hlt, ← pbWrite_bind]
  exact congrArg _ (funext fun _ => pbEncData_eq h)

/-- The limits of a message's fields. -/
def SmallFields (fields : List (PbField M)) : Prop :=
  ∀ f ∈ fields, f.tag < 2 ^ 29 ∧ f.ltype.Small

/-- A message on the wire. -/
def wire (fields : List (PbField M)) (msg : M) : List UInt8 :=
  fields.flatMap fun f =>
    if pbCheckProto3DefaultValue f.ltype (f.get msg) then [] else record f.tag f.ltype (f.get msg)

theorem pbEncode_eq {fields : List (PbField M)} {msg : M} (h : SmallFields fields) :
    pbEncode s fields msg = pbWrite s (wire fields msg) := by
  induction fields generalizing s with
  | nil => exact pbWrite_nil.symm
  | cons f fields ih =>
    have hf := h f (List.mem_cons_self ..)
    have hfields : SmallFields fields := fun g hg => h g (List.mem_cons_of_mem _ hg)
    have hfield : encodeField msg s f = pbWrite s
        (if pbCheckProto3DefaultValue f.ltype (f.get msg) then []
          else record f.tag f.ltype (f.get msg)) := by
      unfold encodeField
      split
      · exact pbWrite_nil.symm
      · exact encodeBasicField_eq hf.1 hf.2
    rw [pbEncode, List.foldlM_cons, hfield, wire, List.flatMap_cons, ← pbWrite_bind]
    exact congrArg _ (funext fun _ => ih hfields)

/-- The wire form that fits the buffer is what the encoder leaves in it. -/
theorem pbEncode_fits {fields : List (PbField M)} {msg : M} {size : ℕ} (h : SmallFields fields)
    (hfit : (wire fields msg).length ≤ size) :
    pbEncode (pbOstreamFromBuffer size) fields msg = some ⟨size, wire fields msg⟩ := by
  rw [pbEncode_eq h, pbWrite, pbOstreamFromBuffer, List.length_nil, Nat.zero_add,
    if_neg fun hfull => Nat.not_lt.2 hfit hfull.2, List.nil_append]

/-! ## Reading -/

theorem varint_ne_nil : varint v ≠ [] := by
  rw [varint]
  split <;> simp

/-- A group above the bits of `result`. -/
theorem or_shiftLeft {i result k : ℕ} (hr : result < 2 ^ (7 * i)) :
    result ||| k <<< (7 * i) = result + 2 ^ (7 * i) * k := by
  rw [Nat.shiftLeft_eq, mul_comm, Nat.or_comm, ← Nat.two_pow_add_eq_or_of_lt hr, add_comm]

theorem group_add (i result v : ℕ) :
    result + 2 ^ (7 * i) * (v % 128) + 2 ^ (7 * (i + 1)) * (v / 128) =
      result + 2 ^ (7 * i) * v := by
  conv_rhs => rw [← Nat.mod_add_div v 128]
  rw [mul_add 7 i 1, pow_add]
  ring

theorem group_add_lt {i result : ℕ} (hr : result < 2 ^ (7 * i)) :
    result + 2 ^ (7 * i) * (v % 128) < 2 ^ (7 * (i + 1)) := by
  have hgroup := Nat.mul_le_mul_left (2 ^ (7 * i))
    (Nat.le_sub_one_of_lt (Nat.mod_lt v (show 0 < 128 by norm_num)))
  rw [mul_add 7 i 1, pow_add]
  omega

/-- Above bit 28 there is no room for two groups. -/
theorem lt_four {i result : ℕ} (hi : i ≤ 4) (hv : 128 ≤ v)
    (h : result + 2 ^ (7 * i) * v < 2 ^ 32) : i < 4 := by
  by_contra h4
  obtain rfl : i = 4 := by omega
  omega

/-- The groups of `v` from bit `bitpos` on; four are below bit 28, and the fifth
    has at most four bits. -/
theorem varint32Loop_varint {rest : List UInt8} : ∀ (i result v : ℕ), 0 < i → i ≤ 4 →
    result < 2 ^ (7 * i) → result + 2 ^ (7 * i) * v < 2 ^ 32 →
    varint32Loop (7 * i) result (varint v ++ rest) = some (result + 2 ^ (7 * i) * v, rest)
  | i, result, v, hi, hi4, hr, h => by
    have hadd := fun k => or_shiftLeft (k := k) hr
    by_cases hv : v < 128
    · obtain ⟨hlast, hbits⟩ := group_last v hv
      rw [varint_of_lt hv, List.singleton_append, varint32Loop]
      have hpow : i = 4 ∨ 7 * i < 28 := by omega
      rcases hpow with rfl | hlt
      · obtain ⟨hnib, hnibs⟩ := group_nibble v (by omega)
        simp [varint32Overflow, varint32Add, hnib, hnibs, hlast, hadd]
      · simp [varint32Overflow, varint32Add, hlast, hbits, hadd, show ¬32 ≤ 7 * i by omega,
          show 7 * i ≠ 28 by omega]
    · obtain ⟨hcont, hbits⟩ := group_cont (v % 128) (Nat.mod_lt _ (by norm_num))
      have hlt : i < 4 := lt_four hi4 (by omega) h
      have hsum := group_add i result v
      have ih : varint32Loop (7 * (i + 1)) _ (varint (v / 128) ++ rest) = _ :=
        varint32Loop_varint (i + 1) _ (v / 128) (Nat.succ_pos i) hlt (group_add_lt hr)
          (by rwa [hsum])
      rw [varint_of_ge (by omega), List.cons_append, varint32Loop, ← hsum, ← ih]
      generalize UInt8.ofNat (v % 128 + 128) = byte at hcont hbits ⊢
      simp [varint32Overflow, varint32Add, hcont, hbits, hadd, show ¬32 ≤ 7 * i by omega,
        show 7 * i ≠ 28 by omega, mul_add]
termination_by i => 4 - i

theorem pbDecodeVarint32_varint {rest : List UInt8} (h : v < 2 ^ 32) :
    pbDecodeVarint32 (varint v ++ rest) = some (v, rest) := by
  by_cases hv : v < 128
  · obtain ⟨hlast, hbits⟩ := group_last v hv
    simp [varint_of_lt hv, pbDecodeVarint32, hlast, Nat.mod_eq_of_lt (show v < 256 by omega)]
  · obtain ⟨hcont, hbits⟩ := group_cont (v % 128) (Nat.mod_lt _ (by norm_num))
    have hloop : varint32Loop (7 * 1) _ (varint (v / 128) ++ rest) = _ :=
      varint32Loop_varint 1 (v % 128) (v / 128) one_pos (by norm_num) (Nat.mod_lt _ (by norm_num))
        (by omega)
    rw [varint_of_ge (by omega), List.cons_append, pbDecodeVarint32, if_neg hcont, hbits]
    rw [mul_one] at hloop
    rw [hloop, show v % 128 + 2 ^ 7 * (v / 128) = v by omega]

theorem varint64Loop_varint {rest : List UInt8} : ∀ (i result v : ℕ), i ≤ 4 →
    result < 2 ^ (7 * i) → result + 2 ^ (7 * i) * v < 2 ^ 32 →
    varint64Loop (7 * i) result (varint v ++ rest) = some (result + 2 ^ (7 * i) * v, rest)
  | i, result, v, hi, hr, h => by
    have hadd := fun k => or_shiftLeft (k := k) hr
    by_cases hv : v < 128
    · obtain ⟨hlast, hbits⟩ := group_last v hv
      rw [varint_of_lt hv, List.singleton_append, varint64Loop]
      simp [hlast, hbits, hadd, show ¬63 ≤ 7 * i by omega]
    · obtain ⟨hcont, hbits⟩ := group_cont (v % 128) (Nat.mod_lt _ (by norm_num))
      have hlt : i < 4 := lt_four hi (by omega) h
      have hsum := group_add i result v
      have ih : varint64Loop (7 * (i + 1)) _ (varint (v / 128) ++ rest) = _ :=
        varint64Loop_varint (i + 1) _ (v / 128) hlt (group_add_lt hr) (by rwa [hsum])
      rw [varint_of_ge (by omega), List.cons_append, varint64Loop, ← hsum, ← ih]
      generalize UInt8.ofNat (v % 128 + 128) = byte at hcont hbits ⊢
      simp [hcont, hbits, hadd, show ¬63 ≤ 7 * i by omega, mul_add]
termination_by i => 4 - i

theorem pbDecodeVarint_varint {rest : List UInt8} (h : v < 2 ^ 32) :
    pbDecodeVarint (varint v ++ rest) = some (v, rest) := by
  have hloop : varint64Loop (7 * 0) 0 (varint v ++ rest) = _ :=
    varint64Loop_varint 0 0 v (by norm_num) (by norm_num) (by simpa using h)
  simpa [pbDecodeVarint] using hloop

theorem pbDecData_payload {rest : List UInt8} : ∀ {ltype : LType} {value : ltype.Data},
    ltype.Small → pbDecData (payload ltype value ++ rest) ltype = some (value, rest)
  | .bool, value, _ => by
    simp only [pbDecData, payload]
    rw [pbDecodeVarint32_varint (by split <;> norm_num)]
    cases value <;> rfl
  | .uvarint32, value, _ => by
    have hlt : value.toNat < 2 ^ 32 := value.toNat_lt
    simp only [pbDecData, payload]
    rw [pbDecodeVarint_varint hlt]
    simp only [Option.bind_eq_bind, Option.bind_some, Nat.mod_eq_of_lt hlt, ne_eq, not_true,
      if_false, UInt32.ofNat_toNat]
    rfl
  | .fixedLengthBytes size, value, h => by
    have hlt : size < 2 ^ 32 := h.2.trans_lt (by norm_num [pbSizeMax])
    have htake : (value.toList ++ rest).take size = value.toList :=
      List.take_left' value.length_toList
    have hdrop : (value.toList ++ rest).drop size = rest := List.drop_left' value.length_toList
    simp only [pbDecData, payload, List.append_assoc]
    rw [pbDecodeVarint32_varint hlt]
    simp only [Option.bind_eq_bind, Option.bind_some, Nat.not_lt.2 h.2, h.1.ne', ne_eq,
      not_true, if_false, List.length_append, value.length_toList, htake, hdrop,
      Nat.not_lt.2 (Nat.le_add_right _ _), dif_neg, not_false_eq_true]
    rfl

/-- A record at the front of the stream sets its field. -/
theorem pbDecodeField_record {fields : List (PbField M)} {msg : M} {f : PbField M}
    {value : f.ltype.Data} {rest : List UInt8} (hfind : fields.find? (·.tag = f.tag) = some f)
    (hpos : 0 < f.tag) (ht : f.tag < 2 ^ 29) (h : f.ltype.Small) :
    pbDecodeField fields msg (record f.tag f.ltype value ++ rest) =
      some (f.set msg value, rest) := by
  obtain ⟨hor, hlt⟩ := tag_lt f.ltype ht
  have hw : f.ltype.wireType < 8 := by
    cases f.ltype <;> norm_num [LType.wireType, wtVarint, wtString]
  have htag : (8 * f.tag + f.ltype.wireType) >>> 3 = f.tag := by
    rw [Nat.shiftRight_eq_div_pow]
    omega
  have hwire : (8 * f.tag + f.ltype.wireType) &&& 7 = f.ltype.wireType := by
    rw [show (7 : ℕ) = 2 ^ 3 - 1 by norm_num, Nat.and_two_pow_sub_one_eq_mod]
    omega
  simp only [pbDecodeField, record, List.append_assoc]
  rw [hor, pbDecodeVarint32_varint hlt]
  simp only [Option.bind_eq_bind, Option.bind_some, htag, hpos.ne', if_false, hfind, hwire,
    decodeBasicField, ne_eq, not_true, pbDecData_payload h]
  rfl

theorem pbDecode_nil {fields : List (PbField M)} {msg : M} : pbDecode fields msg [] = some msg := by
  rw [pbDecode, if_pos rfl]

/-- A field that is taken off. -/
theorem pbDecode_field {fields : List (PbField M)} {msg msg' : M} {stream rest : List UInt8}
    (hfield : pbDecodeField fields msg stream = some (msg', rest)) :
    pbDecode fields msg stream = pbDecode fields msg' rest := by
  have hne : stream ≠ [] := by
    rintro rfl
    cases hfield
  rw [pbDecode, if_neg hne]
  split
  · next hnone => rw [hnone] at hfield; cases hfield
  · next msg'' stream' hsome =>
    rw [hsome] at hfield
    cases hfield
    rfl

theorem pbDecode_record {fields : List (PbField M)} {msg : M} {f : PbField M}
    {value : f.ltype.Data} {rest : List UInt8} (hfind : fields.find? (·.tag = f.tag) = some f)
    (hpos : 0 < f.tag) (ht : f.tag < 2 ^ 29) (h : f.ltype.Small) :
    pbDecode fields msg (record f.tag f.ltype value ++ rest) =
      pbDecode fields (f.set msg value) rest :=
  pbDecode_field (pbDecodeField_record hfind hpos ht h)

/-- `acc` with the fields of `msg` that are not at their default. -/
def setFields (fields : List (PbField M)) (msg acc : M) : M :=
  fields.foldl (fun acc f =>
    if pbCheckProto3DefaultValue f.ltype (f.get msg) then acc else f.set acc (f.get msg)) acc

/-- What was left out by the encoder stays as it was in the decoder's message. -/
theorem pbDecode_wire {fields sent : List (PbField M)} {msg acc : M} (hsmall : SmallFields sent)
    (hfind : ∀ f ∈ sent, 0 < f.tag ∧ fields.find? (·.tag = f.tag) = some f) :
    pbDecode fields acc (wire sent msg) = some (setFields sent msg acc) := by
  induction sent generalizing acc with
  | nil => exact pbDecode_nil
  | cons f sent ih =>
    have hf := hsmall f (List.mem_cons_self ..)
    obtain ⟨hpos, hfirst⟩ := hfind f (List.mem_cons_self ..)
    have hsent : SmallFields sent := fun g hg => hsmall g (List.mem_cons_of_mem _ hg)
    have ih' : ∀ acc, pbDecode fields acc (wire sent msg) = some (setFields sent msg acc) :=
      fun _ => ih hsent fun g hg => hfind g (List.mem_cons_of_mem _ hg)
    rw [wire, List.flatMap_cons, setFields, List.foldl_cons]
    split
    · exact ih' acc
    · rw [pbDecode_record hfirst hpos hf.1 hf.2]
      exact ih' _

end CotMta.Nanopb
