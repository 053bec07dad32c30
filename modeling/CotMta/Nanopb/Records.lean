/-
  What nanopb's decoder accepts, record by record.

  `pb_decode` on a string that it accepts is a fold over the records of the
  string: a record of a field sets the field, the others change nothing
  (`pbDecode_records`).  What a field of fixed length then holds is decided by
  its last record (`foldlM_field`).
-/
import CotMta.Lib.Records
import CotMta.Nanopb.Wire

namespace CotMta.Nanopb

variable {M : Type} {s rest : List UInt8} {v w : ℕ}

/-! ## Varints -/

theorem pbSkipVarint_eq : ∀ {s rest : List UInt8}, pbSkipVarint s = some rest →
    ∃ v, takeVarint s = some (v, rest)
  | byte :: s, rest, h => by
    simp only [pbSkipVarint, ne_eq, last_iff] at h
    split at h
    · next hcont =>
      obtain ⟨v, hv⟩ := pbSkipVarint_eq h
      exact ⟨_, takeVarint_group hcont hv⟩
    · next hlast =>
      cases h
      exact ⟨_, takeVarint_last (not_not.1 hlast)⟩

theorem varint64Loop_eq : ∀ {s : List UInt8} {i result : ℕ}, result < 2 ^ (7 * i) →
    varint64Loop (7 * i) result s = some (w, rest) →
    ∃ v, takeVarint s = some (v, rest) ∧ w = result + 2 ^ (7 * i) * v
  | byte :: s, i, result, hr, h => by
    simp only [varint64Loop, ne_eq, last_iff, or_shiftLeft hr, group_toNat] at h
    split at h
    · cases h
    split at h
    · next hcont =>
      obtain ⟨v, hv, hw⟩ := varint64Loop_eq (i := i + 1) (group_add_lt hr) h
      refine ⟨_, takeVarint_group hcont hv, hw.trans ?_⟩
      rw [mul_add 7 i 1, pow_add]
      ring
    · next hlast =>
      have hlast := not_not.1 hlast
      cases h
      exact ⟨_, takeVarint_last hlast, by rw [Nat.mod_eq_of_lt hlast]⟩

theorem pbDecodeVarint_eq (h : pbDecodeVarint s = some (w, rest)) :
    takeVarint s = some (w, rest) := by
  obtain ⟨v, hv, hw⟩ := varint64Loop_eq (i := 0) (by norm_num) h
  rw [hv, hw]
  norm_num

/-- Beyond bit 32 only the bytes count, not what is in them. -/
theorem varint32Loop_high : ∀ {s : List UInt8} {bitpos result : ℕ}, 32 ≤ bitpos →
    varint32Loop bitpos result s = some (w, rest) →
    (∃ v, takeVarint s = some (v, rest)) ∧ w = result
  | byte :: s, bitpos, result, hpos, h => by
    simp only [varint32Loop, varint32Add, if_pos hpos, ne_eq, last_iff] at h
    split at h
    · cases h
    split at h
    · next hcont =>
      obtain ⟨⟨v, hv⟩, hw⟩ := varint32Loop_high (hpos.trans (Nat.le_add_right _ 7)) h
      exact ⟨⟨_, takeVarint_group hcont hv⟩, hw⟩
    · next hlast =>
      cases h
      exact ⟨⟨_, takeVarint_last (not_not.1 hlast)⟩, rfl⟩

/-- Four groups are below bit 28; of the fifth the low four bits are kept. -/
theorem varint32Loop_eq : ∀ {s : List UInt8} {i result : ℕ}, i ≤ 4 → result < 2 ^ (7 * i) →
    varint32Loop (7 * i) result s = some (w, rest) →
    ∃ v, takeVarint s = some (v, rest) ∧ w = (result + 2 ^ (7 * i) * v) % 2 ^ 32
  | byte :: s, i, result, hi, hr, h => by
    have hlow : ¬32 ≤ 7 * i := by omega
    simp only [varint32Loop, varint32Add, ge_iff_le, if_neg hlow, ne_eq, last_iff, or_shiftLeft hr,
      group_toNat, nibble_toNat] at h
    split at h
    · cases h
    rcases Nat.lt_or_ge i 4 with hlt | hge
    · have hadd := group_add_lt (v := byte.toNat) hr
      rw [if_neg (show ¬7 * i = 28 by omega)] at h
      split at h
      · next hcont =>
        obtain ⟨v, hv, hw⟩ := varint32Loop_eq (i := i + 1) hlt hadd h
        refine ⟨_, takeVarint_group hcont hv, hw.trans (congrArg (· % 2 ^ 32) ?_)⟩
        rw [mul_add 7 i 1, pow_add]
        ring
      · next hlast =>
        have hlast := not_not.1 hlast
        have hpow : 2 ^ (7 * (i + 1)) ≤ 2 ^ 32 := Nat.pow_le_pow_right (by norm_num) (by omega)
        cases h
        rw [Nat.mod_eq_of_lt hlast] at hadd ⊢
        exact ⟨_, takeVarint_last hlast, (Nat.mod_eq_of_lt (hadd.trans_le hpow)).symm⟩
    · obtain rfl : i = 4 := le_antisymm hi hge
      rw [if_pos rfl] at h
      split at h
      · next hcont =>
        obtain ⟨⟨v, hv⟩, hw⟩ := varint32Loop_high (by norm_num) h
        exact ⟨_, takeVarint_group hcont hv, by omega⟩
      · next hlast =>
        have hlast := not_not.1 hlast
        cases h
        exact ⟨_, takeVarint_last hlast, by omega⟩

theorem pbDecodeVarint32_eq (h : pbDecodeVarint32 s = some (w, rest)) :
    ∃ v, takeVarint s = some (v, rest) ∧ w = v % 2 ^ 32 := by
  cases s with
  | nil => cases h
  | cons byte s =>
    simp only [pbDecodeVarint32, last_iff, group_toNat] at h
    split at h
    · next hlast =>
      cases h
      exact ⟨_, takeVarint_last hlast, (Nat.mod_eq_of_lt (by omega)).symm⟩
    · next hcont =>
      obtain ⟨v, hv, hw⟩ :=
        varint32Loop_eq (i := 1) (by norm_num) (Nat.mod_lt _ (by norm_num)) h
      exact ⟨_, takeVarint_group hcont hv, hw.trans (by norm_num)⟩

/-! ## Payloads -/

theorem pbRead_eq {k : ℕ} : pbRead s k = takeBytes k s := rfl

theorem takePayload_varint (h : takeVarint s = some (v, rest)) :
    takePayload s wtVarint = some (.varint v, rest) := by
  rw [wtVarint, takePayload, h]
  rfl

theorem takePayload_len {bytes s' : List UInt8} (h : takeVarint s = some (v, s'))
    (hbytes : takeBytes (v % 2 ^ 32) s' = some (bytes, rest)) :
    takePayload s wtString = some (.len bytes, rest) := by
  simp only [wtString, takePayload, h, Option.bind_eq_bind, Option.bind_some, hbytes]
  rfl

theorem pbSkipString_eq (h : pbSkipString s = some rest) :
    ∃ payload, takePayload s wtString = some (payload, rest) := by
  simp only [pbSkipString, Option.bind_eq_bind, Option.bind_eq_some_iff, Option.pure_def,
    Option.some.injEq, pbRead_eq] at h
  obtain ⟨⟨length, s'⟩, hlength, ⟨bytes, _⟩, hbytes, rfl⟩ := h
  obtain ⟨v, hv, rfl⟩ := pbDecodeVarint32_eq hlength
  exact ⟨.len bytes, takePayload_len hv hbytes⟩

theorem pbSkipField_eq {wire_type : ℕ} (h : pbSkipField s wire_type = some rest) :
    ∃ payload, takePayload s wire_type = some (payload, rest) := by
  simp only [pbSkipField, pbRead_eq] at h
  split at h
  · next hw =>
    obtain ⟨v, hv⟩ := pbSkipVarint_eq h
    exact ⟨.varint v, hw ▸ takePayload_varint hv⟩
  split at h
  · next hw =>
    obtain ⟨⟨bytes, _⟩, hbytes, rfl⟩ := Option.map_eq_some_iff.1 h
    exact ⟨.i64 bytes, by rw [hw, wt64bit, takePayload, hbytes]; rfl⟩
  split at h
  · next hw => exact hw ▸ pbSkipString_eq h
  split at h
  · next hw =>
    obtain ⟨⟨bytes, _⟩, hbytes, rfl⟩ := Option.map_eq_some_iff.1 h
    exact ⟨.i32 bytes, by rw [hw, wt32bit, takePayload, hbytes]; rfl⟩
  · cases h

/-- The value that a payload gives a field. -/
def readPayload : (ltype : LType) → Payload → Option ltype.Data
  | .bool, .varint value => some (value % 2 ^ 32 ≠ 0)
  | .uvarint32, .varint value => if value < 2 ^ 32 then some (UInt32.ofNat value) else none
  | .fixedLengthBytes size, .len bytes =>
    -- the empty payload stands for zeros
    if bytes = [] then some (Bytes.ofNat size 0) else Bytes.ofList? size bytes
  | _, _ => none

theorem readPayload_nil {size : ℕ} :
    readPayload (.fixedLengthBytes size) (.len []) = some (Bytes.ofNat size 0) := by
  rw [readPayload, if_pos rfl]

theorem readPayload_bytes {size : ℕ} {bytes : List UInt8} (hlen : bytes.length = size)
    (hne : bytes ≠ []) : readPayload (.fixedLengthBytes size) (.len bytes) = some ⟨bytes, hlen⟩ := by
  rw [readPayload, if_neg hne, Bytes.ofList?, dif_pos hlen]

theorem pbDecFixedLengthBytes_eq {size : ℕ} {value : Bytes size}
    (h : pbDecData s (.fixedLengthBytes size) = some (value, rest)) :
    ∃ payload, takePayload s wtString = some (payload, rest) ∧
      readPayload (.fixedLengthBytes size) payload = some value := by
  simp only [pbDecData, Option.bind_eq_bind, Option.bind_eq_some_iff, Option.pure_def] at h
  obtain ⟨⟨length, s'⟩, hlength, h⟩ := h
  obtain ⟨v, hv, rfl⟩ := pbDecodeVarint32_eq hlength
  simp only at h
  split at h
  · cases h
  split at h
  · next hzero =>
    cases h
    exact ⟨.len [], takePayload_len hv (by rw [hzero]; rfl), readPayload_nil⟩
  split at h
  · cases h
  · next hpos hsize =>
    have hsize : v % 2 ^ 32 = size := not_not.1 hsize
    split at h
    · cases h
    · next hle =>
      cases h
      have hlen : (s'.take size).length = size := List.length_take_of_le (Nat.not_lt.1 hle)
      have hne : s'.take size ≠ [] := List.ne_nil_of_length_pos (by omega)
      exact ⟨.len (s'.take size), takePayload_len hv (by rw [hsize, takeBytes, if_neg hle]),
        readPayload_bytes hlen hne⟩

theorem pbDecData_eq : ∀ {ltype : LType} {value : ltype.Data},
    pbDecData s ltype = some (value, rest) →
    ∃ payload, takePayload s ltype.wireType = some (payload, rest) ∧
      readPayload ltype payload = some value
  | .bool, value, h => by
    simp only [pbDecData, Option.bind_eq_bind, Option.bind_eq_some_iff, Option.pure_def] at h
    obtain ⟨⟨w, _⟩, hw, h⟩ := h
    cases h
    obtain ⟨v, hv, rfl⟩ := pbDecodeVarint32_eq hw
    exact ⟨.varint v, takePayload_varint hv, rfl⟩
  | .uvarint32, value, h => by
    simp only [pbDecData, Option.bind_eq_bind, Option.bind_eq_some_iff, Option.pure_def] at h
    obtain ⟨⟨v, _⟩, hv, h⟩ := h
    split at h
    · cases h
    · next hlt =>
      cases h
      have hmod : v % 2 ^ 32 = v := not_not.1 hlt
      exact ⟨.varint v, takePayload_varint (pbDecodeVarint_eq hv), if_pos (by omega)⟩
  | .fixedLengthBytes _, _, h => pbDecFixedLengthBytes_eq h

/-! ## The decoder -/

variable {fields : List (PbField M)} {msg msg' : M}

/-- What a record does to the message.  A tag that is not of a field is skipped. -/
def applyRecord (fields : List (PbField M)) (msg : M) (r : Record) : Option M :=
  match fields.find? (·.tag = r.tag) with
  | none => some msg
  | some field => (readPayload field.ltype r.payload).map (field.set msg)

theorem pbDecodeField_eq (h : pbDecodeField fields msg s = some (msg', rest)) :
    ∃ r, takeRecord s = some (r, rest) ∧ applyRecord fields msg r = some msg' := by
  simp only [pbDecodeField, Option.bind_eq_bind, Option.bind_eq_some_iff] at h
  obtain ⟨⟨temp, s'⟩, hkey, h⟩ := h
  obtain ⟨key, hv, rfl⟩ := pbDecodeVarint32_eq hkey
  have htag : (key % 2 ^ 32) >>> 3 = key % 2 ^ 32 / 8 := Nat.shiftRight_eq_div_pow _ 3
  have hwire : key % 2 ^ 32 &&& 7 = key % 2 ^ 32 % 8 := Nat.and_two_pow_sub_one_eq_mod _ 3
  rw [htag, hwire] at h
  have hrecord : ∀ {payload}, takePayload s' (key % 2 ^ 32 % 8) = some (payload, rest) →
      takeRecord s = some (⟨key % 2 ^ 32 / 8, payload⟩, rest) := by
    intro payload hpayload
    simp only [takeRecord, hv, Option.bind_eq_bind, Option.bind_some, hpayload]
    rfl
  split at h
  · cases h
  split at h
  · next hnone =>
    simp only [Option.bind_eq_some_iff, Option.pure_def, Option.some.injEq] at h
    obtain ⟨_, hskip, h⟩ := h
    cases h
    obtain ⟨payload, hpayload⟩ := pbSkipField_eq hskip
    exact ⟨_, hrecord hpayload, by simp only [applyRecord, hnone]⟩
  · next field hfield =>
    simp only [Option.bind_eq_some_iff, Option.pure_def, Option.some.injEq,
      decodeBasicField] at h
    obtain ⟨⟨value, _⟩, hvalue, h⟩ := h
    cases h
    split at hvalue
    · cases hvalue
    · next htype =>
      obtain ⟨payload, hpayload, hread⟩ := pbDecData_eq hvalue
      rw [← not_not.1 htype] at hpayload
      exact ⟨_, hrecord hpayload, by simp only [applyRecord, hfield, hread, Option.map_some]⟩

/-- **A string that nanopb decodes is made of records, and the message is what
    they leave, one after the other.** -/
theorem pbDecode_records (h : pbDecode fields msg s = some msg') :
    ∃ rs, Records s rs ∧ rs.foldlM (applyRecord fields) msg = some msg' := by
  fun_induction pbDecode fields msg s with
  | case1 msg =>
    cases h
    exact ⟨[], .nil, rfl⟩
  | case2 => cases h
  | case3 msg s _ msg₁ s₁ hfield ih =>
    obtain ⟨r, hr, happly⟩ := pbDecodeField_eq hfield
    obtain ⟨rs, hrs, hfold⟩ := ih h
    refine ⟨r :: rs, .cons hr hrs, ?_⟩
    rw [List.foldlM_cons, happly]
    exact hfold

/-! ## Fields of fixed length -/

/-- The bytes that a payload leaves in a field of a length. -/
def stored (size : ℕ) (bytes : List UInt8) : List UInt8 :=
  if bytes = [] then (Bytes.ofNat size 0).toList else bytes

/-- The records of a tag have payloads that a field of a length takes. -/
def Fitting (rs : List Record) (tag size : ℕ) : Prop :=
  ∀ r ∈ rs, r.tag = tag → ∃ bytes, r.payload = .len bytes ∧ (bytes.length = size ∨ bytes = [])

/-- The value is what the records of a tag leave in a field that was zero. -/
def LeftBy (rs : List Record) (tag : ℕ) {size : ℕ} (value : Bytes size) : Prop :=
  Fitting rs tag size ∧ value.toList = stored size (lastBytes tag rs)

/-- A field that the message has once, apart from its other fields. -/
structure IsField (fields : List (PbField M)) (tag size : ℕ) (get : M → Bytes size)
    (set : M → Bytes size → M) : Prop where
  find : fields.find? (·.tag = tag) = some ⟨tag, .fixedLengthBytes size, get, set⟩
  get_set : ∀ msg value, get (set msg value) = value
  get_other : ∀ field ∈ fields, field.tag ≠ tag → ∀ msg value, get (field.set msg value) = get msg

variable {rs : List Record} {r : Record} {tag size : ℕ} {get : M → Bytes size}
  {set : M → Bytes size → M}

theorem applyRecord_eq_tag (hfield : IsField fields tag size get set) (htag : r.tag = tag)
    (h : applyRecord fields msg r = some msg') :
    ∃ bytes, r.payload = .len bytes ∧ (bytes.length = size ∨ bytes = []) ∧
      (get msg').toList = stored size bytes := by
  simp only [applyRecord, htag, hfield.find] at h
  obtain ⟨value, hvalue, rfl⟩ := Option.map_eq_some_iff.1 h
  rw [hfield.get_set]
  cases hpayload : r.payload with
  | len bytes =>
    rw [hpayload, readPayload] at hvalue
    refine ⟨bytes, rfl, ?_⟩
    rw [stored]
    split at hvalue
    · next hnil =>
      cases hvalue
      exact ⟨.inr hnil, (if_pos hnil).symm⟩
    · next hne =>
      rw [Bytes.ofList?] at hvalue
      split at hvalue
      · next hlen =>
        cases hvalue
        exact ⟨.inl hlen, (if_neg hne).symm⟩
      · cases hvalue
  | varint | i64 | i32 =>
    rw [hpayload] at hvalue
    cases hvalue

theorem applyRecord_of_ne (hfield : IsField fields tag size get set) (htag : r.tag ≠ tag)
    (h : applyRecord fields msg r = some msg') : get msg' = get msg := by
  simp only [applyRecord] at h
  split at h
  · cases h
    rfl
  · next field hfind =>
    obtain ⟨value, -, rfl⟩ := Option.map_eq_some_iff.1 h
    have hfieldTag : field.tag = r.tag := by simpa using List.find?_some hfind
    exact hfield.get_other field (List.mem_of_find?_eq_some hfind) (hfieldTag ▸ htag) msg value

/-- The last record of a tag decides what its field holds, whatever it held. -/
theorem foldlM_field (hfield : IsField fields tag size get set)
    (h : rs.foldlM (applyRecord fields) msg = some msg') :
    Fitting rs tag size ∧ (get msg').toList =
      ((lastRecord tag rs).map (stored size ·.payload.bytes)).getD (get msg).toList := by
  induction rs generalizing msg with
  | nil =>
    cases h
    exact ⟨fun r hr => absurd hr List.not_mem_nil, rfl⟩
  | cons r rs ih =>
    rw [List.foldlM_cons] at h
    obtain ⟨msg₁, hfirst, hrest⟩ := Option.bind_eq_some_iff.1 h
    obtain ⟨hfitting, hlast⟩ := ih hrest
    rw [Fitting, List.forall_mem_cons, lastRecord_cons]
    by_cases htag : r.tag = tag
    · obtain ⟨bytes, hpayload, hlen, hbytes⟩ := applyRecord_eq_tag hfield htag hfirst
      refine ⟨⟨fun _ => ⟨bytes, hpayload, hlen⟩, hfitting⟩, ?_⟩
      rw [if_pos htag, hlast, hbytes]
      cases lastRecord tag rs with
      | none => simp [hpayload, Payload.bytes]
      | some => rfl
    · rw [if_neg htag, hlast, applyRecord_of_ne hfield htag hfirst]
      exact ⟨⟨fun h => absurd h htag, hfitting⟩, rfl⟩

theorem leftBy_of_zero (hfield : IsField fields tag size get set)
    (hzero : get msg = .ofNat size 0) (h : rs.foldlM (applyRecord fields) msg = some msg') :
    LeftBy rs tag (get msg') := by
  obtain ⟨hfitting, hlast⟩ := foldlM_field hfield h
  refine ⟨hfitting, ?_⟩
  rw [hlast, hzero, lastBytes]
  cases lastRecord tag rs with
  | none => simp [stored]
  | some => rfl

end CotMta.Nanopb
