/-
  nanopb's decoder on strings that are put together.

  No reader of `pb_decode.c` looks behind the bytes that it takes.  So decoding a
  string and more is decoding the string and then the rest into the same message:
  later fields win, and what an encoder leaves out keeps its earlier value.
-/
import CotMta.Nanopb.Wire

namespace CotMta.Nanopb

variable {M : Type} {s rest : List UInt8}

/-! ## The readers -/

theorem pbRead_append {count : ℕ} {bytes : List UInt8} (t : List UInt8)
    (h : pbRead s count = some (bytes, rest)) : pbRead (s ++ t) count = some (bytes, rest ++ t) := by
  unfold pbRead at h ⊢
  split at h
  · cases h
  next hlen =>
    cases h
    have hle := Nat.not_lt.1 hlen
    rw [if_neg (by rw [List.length_append]; omega), List.take_append_of_le_length hle,
      List.drop_append_of_le_length hle]

theorem varint32Loop_append (t : List UInt8) : ∀ {s rest : List UInt8} {bitpos result v : ℕ},
    varint32Loop bitpos result s = some (v, rest) →
    varint32Loop bitpos result (s ++ t) = some (v, rest ++ t)
  | [], _, _, _, _, h => by cases h
  | byte :: s, rest, bitpos, result, v, h => by
    simp only [List.cons_append, varint32Loop] at h ⊢
    split at h
    · cases h
    next hfits =>
      rw [if_neg hfits]
      split at h
      next hcont =>
        rw [if_pos hcont]
        exact varint32Loop_append t h
      next hlast =>
        cases h
        rw [if_neg hlast]

theorem varint64Loop_append (t : List UInt8) : ∀ {s rest : List UInt8} {bitpos result v : ℕ},
    varint64Loop bitpos result s = some (v, rest) →
    varint64Loop bitpos result (s ++ t) = some (v, rest ++ t)
  | [], _, _, _, _, h => by cases h
  | byte :: s, rest, bitpos, result, v, h => by
    simp only [List.cons_append, varint64Loop] at h ⊢
    split at h
    · cases h
    next hfits =>
      rw [if_neg hfits]
      split at h
      next hcont =>
        rw [if_pos hcont]
        exact varint64Loop_append t h
      next hlast =>
        cases h
        rw [if_neg hlast]

theorem pbDecodeVarint32_append {v : ℕ} (t : List UInt8)
    (h : pbDecodeVarint32 s = some (v, rest)) : pbDecodeVarint32 (s ++ t) = some (v, rest ++ t) := by
  cases s with
  | nil => cases h
  | cons byte s =>
    simp only [List.cons_append, pbDecodeVarint32] at h ⊢
    split at h
    next hlast =>
      cases h
      rw [if_pos hlast]
    next hcont =>
      rw [if_neg hcont]
      exact varint32Loop_append t h

theorem pbSkipVarint_append (t : List UInt8) : ∀ {s rest : List UInt8},
    pbSkipVarint s = some rest → pbSkipVarint (s ++ t) = some (rest ++ t)
  | [], _, h => by cases h
  | byte :: s, rest, h => by
    simp only [List.cons_append, pbSkipVarint] at h ⊢
    split at h
    next hcont =>
      rw [if_pos hcont]
      exact pbSkipVarint_append t h
    next hlast =>
      cases h
      rw [if_neg hlast]

theorem pbSkipString_append (t : List UInt8) (h : pbSkipString s = some rest) :
    pbSkipString (s ++ t) = some (rest ++ t) := by
  simp only [pbSkipString, Option.bind_eq_bind, Option.bind_eq_some_iff, Option.pure_def,
    Option.some.injEq] at h
  obtain ⟨⟨length, s'⟩, hlength, ⟨bytes, rest'⟩, hbytes, rfl⟩ := h
  simp only [pbSkipString, pbDecodeVarint32_append t hlength, pbRead_append t hbytes,
    Option.bind_eq_bind, Option.bind_some, Option.pure_def]

theorem pbSkipField_append {wire_type : ℕ} (t : List UInt8)
    (h : pbSkipField s wire_type = some rest) :
    pbSkipField (s ++ t) wire_type = some (rest ++ t) := by
  have hread : ∀ count, (pbRead s count).map (·.2) = some rest →
      (pbRead (s ++ t) count).map (·.2) = some (rest ++ t) := by
    intro count h
    obtain ⟨⟨bytes, rest'⟩, hbytes, rfl⟩ := Option.map_eq_some_iff.1 h
    rw [pbRead_append t hbytes]
    rfl
  unfold pbSkipField at h ⊢
  split at h
  next hvarint => exact (if_pos hvarint).trans (pbSkipVarint_append t h)
  next hvarint =>
    rw [if_neg hvarint]
    split at h
    next h64 => exact (if_pos h64).trans (hread 8 h)
    next h64 =>
      rw [if_neg h64]
      split at h
      next hstring => exact (if_pos hstring).trans (pbSkipString_append t h)
      next hstring =>
        rw [if_neg hstring]
        split at h
        next h32 => exact (if_pos h32).trans (hread 4 h)
        next => cases h

/-! ## Fields -/

theorem pbDecData_append (t : List UInt8) : ∀ {ltype : LType} {value : ltype.Data},
    pbDecData s ltype = some (value, rest) → pbDecData (s ++ t) ltype = some (value, rest ++ t)
  | .bool, value, h => by
    simp only [pbDecData, Option.bind_eq_bind, Option.bind_eq_some_iff, Option.pure_def] at h
    obtain ⟨⟨v, s'⟩, hv, h⟩ := h
    cases h
    simp only [pbDecData, pbDecodeVarint32_append t hv, Option.bind_eq_bind, Option.bind_some,
      Option.pure_def]
  | .uvarint32, value, h => by
    simp only [pbDecData, Option.bind_eq_bind, Option.bind_eq_some_iff] at h
    obtain ⟨⟨v, s'⟩, hv, h⟩ := h
    have hv' : pbDecodeVarint (s ++ t) = some (v, s' ++ t) := varint64Loop_append t hv
    simp only [pbDecData, hv', Option.bind_eq_bind, Option.bind_some]
    split at h
    · cases h
    next hfits =>
      cases h
      rw [if_neg hfits]
      rfl
  | .fixedLengthBytes size, value, h => by
    simp only [pbDecData, Option.bind_eq_bind, Option.bind_eq_some_iff] at h
    obtain ⟨⟨v, s'⟩, hv, h⟩ := h
    simp only [pbDecData, pbDecodeVarint32_append t hv, Option.bind_eq_bind, Option.bind_some]
    split at h
    · cases h
    next hmax =>
      rw [if_neg hmax]
      split at h
      next hzero =>
        cases h
        exact if_pos hzero
      next hzero =>
        rw [if_neg hzero]
        split at h
        · cases h
        next hsize =>
          rw [if_neg hsize]
          split at h
          · cases h
          next hlen =>
            cases h
            have hle : size ≤ s'.length := Nat.not_lt.1 hlen
            rw [dif_neg (by rw [List.length_append]; omega)]
            simp only [List.take_append_of_le_length hle, List.drop_append_of_le_length hle]
            rfl

theorem pbDecodeField_append {fields : List (PbField M)} {msg msg' : M} (t : List UInt8)
    (h : pbDecodeField fields msg s = some (msg', rest)) :
    pbDecodeField fields msg (s ++ t) = some (msg', rest ++ t) := by
  simp only [pbDecodeField, Option.bind_eq_bind, Option.bind_eq_some_iff] at h
  obtain ⟨⟨temp, s'⟩, htemp, h⟩ := h
  simp only [pbDecodeField, pbDecodeVarint32_append t htemp, Option.bind_eq_bind, Option.bind_some]
  split at h
  · cases h
  next hzero =>
    rw [if_neg hzero]
    split at h
    next hfind =>
      obtain ⟨rest', hskip, h⟩ := Option.bind_eq_some_iff.1 h
      cases h
      simp only [hfind, pbSkipField_append t hskip, Option.bind_some, Option.pure_def]
    next field hfind =>
      obtain ⟨⟨value, rest'⟩, hvalue, h⟩ := Option.bind_eq_some_iff.1 h
      cases h
      unfold decodeBasicField at hvalue
      split at hvalue
      · cases hvalue
      next hwire =>
        simp only [hfind, decodeBasicField, if_neg hwire, pbDecData_append t hvalue,
          Option.bind_some, Option.pure_def]

/-! ## Messages -/

/-- **What follows is decoded into the message that was read before it.** -/
theorem pbDecode_append {fields : List (PbField M)} (t : List UInt8) (msg msg' : M)
    (s : List UInt8) : pbDecode fields msg s = some msg' →
      pbDecode fields msg (s ++ t) = pbDecode fields msg' t := by
  induction msg, s using pbDecode.induct fields with
  | case1 msg =>
    intro h
    rw [pbDecode_nil] at h
    cases h
    rfl
  | case2 msg s hne hnone =>
    intro h
    rw [pbDecode, if_neg hne] at h
    split at h
    · cases h
    next hsome => cases hnone.symm.trans hsome
  | case3 msg s hne msg₁ rest hfield ih =>
    intro h
    rw [pbDecode_field hfield] at h
    rw [pbDecode_field (pbDecodeField_append t hfield)]
    exact ih h

/-- Messages one after the other. -/
theorem pbDecode_wires {fields : List (PbField M)} (hsmall : SmallFields fields)
    (hfind : ∀ f ∈ fields, 0 < f.tag ∧ fields.find? (·.tag = f.tag) = some f) :
    ∀ (sent : List M) (acc : M), pbDecode fields acc (sent.flatMap (wire fields)) =
      some (sent.foldl (fun acc msg => setFields fields msg acc) acc)
  | [], _ => pbDecode_nil
  | msg :: sent, acc => by
    rw [List.flatMap_cons, pbDecode_append _ _ _ _ (pbDecode_wire hsmall hfind), List.foldl_cons]
    exact pbDecode_wires hsmall hfind sent _

end CotMta.Nanopb
