/-
  Scalars in hex.

  `Spells s v` is the grammar of the inputs, a relation on the text as typed.
  Any `toLowerCase` brings a spelling to the lower-case digits that the checks
  of `scalarFromHex` want, and nothing else to them.
-/
import CotMta.Client.Arith

namespace CotMta.Client

open Secp256k1

namespace JsString

variable {u : UInt16} {s l : JsString} {d v : ℕ} {ds : List ℕ}

/-! ## Digits -/

theorem unhex_lt (h : unhex u = some d) : d < 16 := by
  simp only [unhex, UInt16.le_iff_toNat_le, UInt16.reduceToNat] at h
  grind

theorem lt_of_unhex (h : unhex u = some d) : u < 0x80 := by
  simp only [unhex] at h
  grind

theorem toNat_lowerAscii (h : 0x41 ≤ u ∧ u ≤ 0x5A) : (lowerAscii u).toNat = u.toNat + 0x20 := by
  have hle : u.toNat ≤ 0x5A := UInt16.le_iff_toNat_le.1 h.2
  rw [lowerAscii, if_pos h, UInt16.toNat_add]
  exact Nat.mod_eq_of_lt (by simp; omega)

theorem unhex_lowerAscii : unhex (lowerAscii u) = unhex u := by
  by_cases h : 0x41 ≤ u ∧ u ≤ 0x5A
  · have hlower := toNat_lowerAscii h
    simp only [unhex, UInt16.le_iff_toNat_le, UInt16.reduceToNat] at h hlower ⊢
    grind
  · rw [lowerAscii, if_neg h]

theorem isHexDigit_lowerAscii : isHexDigit (lowerAscii u) = (unhex u).isSome := by
  simp only [unhex, isHexDigit, lowerAscii]
  grind

theorem lowerAscii_eq_zero : lowerAscii u = 0x30 ↔ u = 0x30 := by
  simp only [lowerAscii]
  grind

theorem lowerAscii_eq_x : lowerAscii u = 0x78 ↔ u = 0x78 ∨ u = 0x58 := by
  simp only [lowerAscii]
  grind

/-! ## Numbers -/

/-- The digits of `s`, in either case, are those of `v`. -/
def HexNumber (s : JsString) (v : ℕ) : Prop :=
  ∃ ds, List.Forall₂ (fun u d => unhex u = some d) s ds ∧ v = Nat.ofDigits 16 ds.reverse

/-- Nothing, `0x` or `0X`. -/
def markers : List JsString := [[], [0x30, 0x78], [0x30, 0x58]]

/-- `s` is a spelling of `v`: one to 64 digits behind a marker. -/
def Spells (s : JsString) (v : ℕ) : Prop :=
  ∃ marker digits, s = marker ++ digits ∧ marker ∈ markers ∧
    1 ≤ digits.length ∧ digits.length ≤ 64 ∧ HexNumber digits v

theorem ofDigits_cons_reverse : Nat.ofDigits 16 (d :: ds).reverse =
    d * 16 ^ ds.length + Nat.ofDigits 16 ds.reverse := by
  rw [List.reverse_cons, Nat.ofDigits_append, Nat.ofDigits_singleton, List.length_reverse]
  ring

@[simp] theorem hexNumber_nil : HexNumber [] v ↔ v = 0 := by simp [HexNumber]

theorem hexNumber_cons : HexNumber (u :: s) v ↔
    ∃ d w, unhex u = some d ∧ HexNumber s w ∧ v = d * 16 ^ s.length + w := by
  constructor
  · rintro ⟨_, hds, rfl⟩
    cases hds with
    | @cons _ d _ ds hu hds =>
      exact ⟨d, _, hu, ⟨ds, hds, rfl⟩, by rw [ofDigits_cons_reverse, hds.length_eq]⟩
  · rintro ⟨d, _, hu, ⟨ds, hds, rfl⟩, rfl⟩
    exact ⟨d :: ds, .cons hu hds, by rw [ofDigits_cons_reverse, hds.length_eq]⟩

theorem hexNumber_lower : HexNumber (s.map lowerAscii) v ↔ HexNumber s v := by
  simp only [HexNumber, List.forall₂_map_left_iff, unhex_lowerAscii]

theorem exists_hexNumber : ∀ {s : JsString}, (∃ v, HexNumber s v) ↔ ∀ u ∈ s, (unhex u).isSome
  | [] => by simp
  | u :: s => by
    rw [List.forall_mem_cons, ← exists_hexNumber, Option.isSome_iff_exists]
    constructor
    · rintro ⟨v, h⟩
      obtain ⟨d, w, hu, hw, -⟩ := hexNumber_cons.1 h
      exact ⟨⟨d, hu⟩, w, hw⟩
    · rintro ⟨⟨d, hu⟩, w, hw⟩
      exact ⟨_, hexNumber_cons.2 ⟨d, w, hu, hw, rfl⟩⟩

/-- Zeros in front do not change the number. -/
theorem HexNumber.padStart (h : HexNumber s v) {length : ℕ} :
    HexNumber (padStart s length 0x30) v := by
  rw [JsString.padStart]
  induction length - s.length with
  | zero => exact h
  | succ k ih => exact hexNumber_cons.2 ⟨0, v, by decide, ih, by rw [zero_mul, zero_add]⟩

/-- An even number of digits is a byte string of half the length. -/
theorem bufferFrom_eq : ∀ {k v : ℕ} {s : JsString}, s.length = 2 * k → HexNumber s v →
    (bufferFrom s).length = k ∧ beNat (bufferFrom s) = v
  | 0, v, s, hs, h => by
    rw [List.length_eq_zero_iff.1 hs, hexNumber_nil] at h
    rw [List.length_eq_zero_iff.1 hs, h]
    exact ⟨rfl, rfl⟩
  | k + 1, v, high :: low :: s, hs, h => by
    obtain ⟨a, _, ha, htail, rfl⟩ := hexNumber_cons.1 h
    obtain ⟨b, w, hb, hw, rfl⟩ := hexNumber_cons.1 htail
    have hlength : s.length = 2 * k := by simpa [Nat.mul_add] using hs
    obtain ⟨hbytes, hvalue⟩ := bufferFrom_eq hlength hw
    have hpair : (UInt8.ofNat (16 * a + b)).toNat = 16 * a + b := by
      have := unhex_lt ha
      have := unhex_lt hb
      exact UInt8.toNat_ofNat_of_lt' (show 16 * a + b < 256 by omega)
    simp only [bufferFrom, ha, hb, List.length_cons, hbytes, beNat_cons, hvalue, hlength, hpair,
      true_and, pow_succ, pow_mul]
    ring

/-! ## Lower case -/

/-- Only ASCII lowers to ASCII, the letters `i` and `k` apart. -/
theorem Lowers.eq_map_of_mem (h : Lowers s l) (hl : ∀ u ∈ l, u < 0x80 ∧ u ≠ 0x69 ∧ u ≠ 0x6B) :
    l = s.map lowerAscii := by
  induction h with
  | nil => rfl
  | ascii _ _ ih => rw [List.map_cons, ih fun u hu => hl u (.tail _ hu)]
  | @beyond run piece _ _ _ _ hpiece hunits _ _ =>
    obtain ⟨u, hu⟩ := List.exists_mem_of_ne_nil piece hpiece
    have hplain := hl u (List.mem_append_left _ hu)
    rcases hunits u hu with h | h | h
    · exact absurd hplain.1 (UInt16.not_lt.2 h)
    · exact absurd h hplain.2.1
    · exact absurd h hplain.2.2

theorem Lowers.eq_map_of_ascii (h : Lowers s l) (hs : ∀ u ∈ s, u < 0x80) :
    l = s.map lowerAscii := by
  induction h with
  | nil => rfl
  | ascii _ _ ih => rw [List.map_cons, ih fun u hu => hs u (.tail _ hu)]
  | @beyond run piece _ _ hrun hunits _ _ _ _ =>
    obtain ⟨u, hu⟩ := List.exists_mem_of_ne_nil run hrun
    exact absurd (hs u (List.mem_append_left _ hu)) (UInt16.not_lt.2 (hunits u hu))

/-- An engine may leave what is not ASCII as it is. -/
theorem lowers_map : ∀ s, Lowers s (s.map lowerAscii)
  | [] => .nil
  | u :: s => by
    by_cases hu : u < 0x80
    · exact .ascii hu (lowers_map s)
    · have hsame : lowerAscii u = u := by
        rw [lowerAscii, if_neg]
        grind
      rw [List.map_cons, hsame]
      have hu := UInt16.not_lt.1 hu
      exact .beyond (List.cons_ne_nil u []) (by simpa using hu) (List.cons_ne_nil u [])
        (by simp [hu]) (lowers_map s)

theorem isSome_of_isHexDigit (h : isHexDigit u) : (unhex u).isSome := by
  rw [← isHexDigit_lowerAscii, lowerAscii, if_neg, h]
  simp only [isHexDigit] at h
  grind

theorem isHexText_iff : isHexText s ↔ s ≠ [] ∧ ∀ u ∈ s, isHexDigit u := by
  simp [isHexText]

/-- A hex digit is not one of the units that text beyond ASCII lowers to. -/
theorem plain_of_isHexDigit (h : isHexDigit u) : u < 0x80 ∧ u ≠ 0x69 ∧ u ≠ 0x6B := by
  simp only [isHexDigit] at h
  grind

/-! ## Markers -/

theorem mem_markers {marker : JsString} :
    marker ∈ markers ↔ marker.map lowerAscii ∈ [[], [0x30, 0x78]] := by
  simp only [markers, List.mem_cons, List.not_mem_nil, or_false, List.map_eq_nil_iff,
    List.map_eq_cons_iff, lowerAscii_eq_zero, lowerAscii_eq_x]
  constructor
  · rintro (rfl | rfl | rfl) <;> simp
  · rintro (rfl | ⟨a, _, rfl, rfl, b, _, rfl, hb, rfl⟩)
    · exact .inl rfl
    · rcases hb with rfl | rfl
      · exact .inr (.inl rfl)
      · exact .inr (.inr rfl)

theorem lt_of_mem_markers {marker : JsString} (h : marker ∈ markers) : ∀ u ∈ marker, u < 0x80 := by
  simp only [markers, List.mem_cons, List.not_mem_nil, or_false] at h
  rcases h with rfl | rfl | rfl <;> simp

theorem plain_of_mem_lowered {marker : JsString} (h : marker ∈ [[], [0x30, 0x78]]) :
    ∀ u ∈ marker, u < 0x80 ∧ u ≠ 0x69 ∧ u ≠ 0x6B := by
  simp only [List.mem_cons, List.not_mem_nil, or_false] at h
  rcases h with rfl | rfl <;> simp

theorem dropMarker_append {marker digits : JsString} (hmarker : marker ∈ [[], [0x30, 0x78]])
    (hdigits : ∀ u ∈ digits, isHexDigit u) : (marker ++ digits).dropMarker = digits := by
  simp only [List.mem_cons, List.not_mem_nil, or_false] at hmarker
  rcases hmarker with rfl | rfl
  · refine if_neg fun htake => ?_
    rw [List.nil_append] at htake
    have hx : 0x78 ∈ digits.take 2 := by simp [htake]
    exact absurd (hdigits _ (List.mem_of_mem_take hx)) (by decide)
  · rfl

theorem exists_marker (l : JsString) :
    ∃ marker ∈ [[], [0x30, 0x78]], l = marker ++ l.dropMarker := by
  by_cases h : l.take 2 = [0x30, 0x78]
  · refine ⟨[0x30, 0x78], by simp, ?_⟩
    rw [dropMarker, if_pos h, ← h, List.take_append_drop]
  · exact ⟨[], by simp, by rw [dropMarker, if_neg h, List.nil_append]⟩

theorem isHexText_lower {digits : JsString} (hpos : 1 ≤ digits.length)
    (hdigits : ∀ u ∈ digits, (unhex u).isSome) : isHexText (digits.map lowerAscii) := by
  refine isHexText_iff.2 ⟨List.ne_nil_of_length_pos (by rwa [List.length_map]), ?_⟩
  intro _ hu
  obtain ⟨w, hw, rfl⟩ := List.mem_map.1 hu
  exact isHexDigit_lowerAscii.trans (hdigits w hw)

/-- A spelling is ASCII, and lower case keeps its marker apart from its digits. -/
theorem dropMarker_spelling {marker digits : JsString} (h : Lowers (marker ++ digits) l)
    (hmarker : marker ∈ markers) (hpos : 1 ≤ digits.length)
    (hdigits : ∀ u ∈ digits, (unhex u).isSome) : l.dropMarker = digits.map lowerAscii := by
  have hascii : ∀ u ∈ marker ++ digits, u < 0x80 := by
    intro u hu
    rcases List.mem_append.1 hu with hu | hu
    · exact lt_of_mem_markers hmarker u hu
    · obtain ⟨d, hd⟩ := Option.isSome_iff_exists.1 (hdigits u hu)
      exact lt_of_unhex hd
  rw [h.eq_map_of_ascii hascii, List.map_append, dropMarker_append (mem_markers.1 hmarker)
    (isHexText_iff.1 (isHexText_lower hpos hdigits)).2]

/-- What lowers to hex digits behind a marker is a marker and digits. -/
theorem exists_spelling (h : Lowers s l) (hdigits : ∀ u ∈ l.dropMarker, isHexDigit u) :
    ∃ marker digits, s = marker ++ digits ∧ marker ∈ markers ∧
      digits.map lowerAscii = l.dropMarker := by
  obtain ⟨lowered, hlowered, hl⟩ := exists_marker l
  have hplain : ∀ u ∈ l, u < 0x80 ∧ u ≠ 0x69 ∧ u ≠ 0x6B := by
    intro u hu
    rw [hl] at hu
    rcases List.mem_append.1 hu with hu | hu
    · exact plain_of_mem_lowered hlowered u hu
    · exact plain_of_isHexDigit (hdigits u hu)
  obtain ⟨marker, digits, rfl, rfl, hmap⟩ :=
    List.map_eq_append_iff.1 ((h.eq_map_of_mem hplain).symm.trans hl)
  exact ⟨marker, digits, rfl, mem_markers.2 hlowered, hmap⟩

/-- A lower-cased text passes the checks of `scalarFromHex` exactly when the text
    is a spelling, and then its digits are those of the number. -/
theorem spells_iff (h : Lowers s l) : Spells s v ↔
    isHexText l.dropMarker ∧ l.dropMarker.length ≤ 64 ∧ HexNumber l.dropMarker v := by
  constructor
  · rintro ⟨marker, digits, rfl, hmarker, hpos, hle, hnumber⟩
    have hdigits : ∀ u ∈ digits, (unhex u).isSome := exists_hexNumber.1 ⟨v, hnumber⟩
    rw [dropMarker_spelling h hmarker hpos hdigits, hexNumber_lower, List.length_map]
    exact ⟨isHexText_lower hpos hdigits, hle, hnumber⟩
  · rintro ⟨htext, hle, hnumber⟩
    obtain ⟨hne, hdigits⟩ := isHexText_iff.1 htext
    obtain ⟨marker, digits, hs, hmarker, hmap⟩ := exists_spelling h hdigits
    rw [← hmap] at hne hle hnumber
    rw [List.length_map] at hle
    refine ⟨marker, digits, hs, hmarker, ?_, hle, hexNumber_lower.1 hnumber⟩
    exact List.length_pos_iff.2 fun hnil => hne (by rw [hnil, List.map_nil])

/-! ## The digits of a byte string -/

theorem unhex_hexDigit (h : d < 16) : unhex (hexDigit d) = some d :=
  (by decide : ∀ d < 16, unhex (hexDigit d) = some d) d h

@[simp] theorem bufferToString_cons {byte : UInt8} {bytes : List UInt8} :
    bufferToString (byte :: bytes) = hexDigit (byte.toNat / 16) ::
      hexDigit (byte.toNat % 16) :: bufferToString bytes := rfl

theorem length_bufferToString {bytes : List UInt8} :
    (bufferToString bytes).length = 2 * bytes.length := by
  induction bytes with
  | nil => rfl
  | cons byte bytes ih =>
    rw [bufferToString_cons, List.length_cons, List.length_cons, ih, List.length_cons]
    ring

theorem hexNumber_bufferToString : ∀ {bytes : List UInt8},
    HexNumber (bufferToString bytes) (beNat bytes)
  | [] => hexNumber_nil.2 rfl
  | byte :: bytes => by
    have hbyte := byte.toNat_lt
    have hlow : HexNumber (hexDigit (byte.toNat % 16) :: bufferToString bytes)
        (byte.toNat % 16 * 16 ^ (bufferToString bytes).length + beNat bytes) :=
      hexNumber_cons.2 ⟨_, _, unhex_hexDigit (by omega), hexNumber_bufferToString, rfl⟩
    refine bufferToString_cons ▸ hexNumber_cons.2 ⟨_, _, unhex_hexDigit (by omega), hlow, ?_⟩
    rw [beNat_cons, List.length_cons, length_bufferToString, pow_succ, pow_mul]
    nth_rewrite 1 [← Nat.div_add_mod byte.toNat 16]
    ring

end JsString

namespace CryptoOps

open JsString

variable {toLowerCase : JsString → JsString} {s : JsString} {v : ℕ}

/-- A spelling is read as its number, which must be in range. -/
theorem scalarFromHex_of_spells (hlower : Lowers s (toLowerCase s)) (h : Spells s v) :
    scalarFromHex toLowerCase s =
      if 1 ≤ v ∧ v < n then .ok (natBe 32 v) else .error "scalar must be in range [1, n-1]" := by
  obtain ⟨htext, hle, hnumber⟩ := (spells_iff hlower).1 h
  have hlength : ((toLowerCase s).dropMarker.padStart 64 0x30).length = 2 * 32 := by
    rw [padStart, List.length_append, List.length_replicate]
    omega
  obtain ⟨hbytes, hvalue⟩ := bufferFrom_eq hlength hnumber.padStart
  have hbuffer : bufferFrom ((toLowerCase s).dropMarker.padStart 64 0x30) = natBe 32 v := by
    rw [← hvalue, ← hbytes, natBe_beNat]
  have hrange : ((v : ℤ) = 0 ∨ (v : ℤ) ≥ order) ↔ ¬ (1 ≤ v ∧ v < n) := by
    rw [order_eq]
    omega
  have hv : bytesToBigInt (natBe 32 v) = v := by
    rw [← hbuffer, bytesToBigInt_eq, hvalue]
  simp only [scalarFromHex, htext, Bool.not_true, Bool.false_eq_true, if_false,
    not_lt.2 hle, hbuffer, hv, hrange, ite_not]

theorem spells_of_scalarFromHex {bytes : Uint8Array} (hlower : Lowers s (toLowerCase s))
    (h : scalarFromHex toLowerCase s = .ok bytes) : ∃ v, Spells s v := by
  simp only [scalarFromHex] at h
  by_cases htext : (toLowerCase s).dropMarker.isHexText
  · by_cases hle : (toLowerCase s).dropMarker.length ≤ 64
    · obtain ⟨v, hv⟩ := exists_hexNumber.2 fun u hu => isSome_of_isHexDigit ((isHexText_iff.1 htext).2 u hu)
      exact ⟨v, (spells_iff hlower).2 ⟨htext, hle, hv⟩⟩
    · simp [htext, not_le.1 hle] at h
  · simp [htext] at h

theorem scalarFromHex_eq_ok {bytes : Uint8Array} (hlower : Lowers s (toLowerCase s))
    (h : Spells s v) :
    scalarFromHex toLowerCase s = .ok bytes ↔ (1 ≤ v ∧ v < n) ∧ natBe 32 v = bytes := by
  rw [scalarFromHex_of_spells hlower h]
  by_cases hrange : 1 ≤ v ∧ v < n
  · rw [if_pos hrange, and_iff_right hrange, Except.ok.injEq]
  · simp [hrange]

theorem spells_toHex {b : Uint8Array} (hb : b.length = 32) : Spells (toHex b) (beNat b) := by
  have hlength : (toHex b).length = 64 := by rw [toHex, length_bufferToString, hb]
  exact ⟨[], toHex b, rfl, by simp [markers], by omega, hlength.le, hexNumber_bufferToString⟩

/-- **`scalarFromHex` accepts the spellings of the numbers from 1 to `n - 1` and
    nothing else**, gives the 32 bytes of the number and reads back `toHex`. -/
theorem scalarFromHex_spec (toLowerCase : JsString → JsString)
    (hlower : ∀ s, Lowers s (toLowerCase s)) :
    (∀ s, (∃ bytes, scalarFromHex toLowerCase s = .ok bytes) ↔
        ∃ v : ℕ, Spells s v ∧ 1 ≤ v ∧ (v : ℤ) < order) ∧
      (∀ (s : JsString) (bytes : Uint8Array) (v : ℕ),
        scalarFromHex toLowerCase s = .ok bytes → Spells s v →
          bytes.length = 32 ∧ bytesToBigInt bytes = v ∧ bigIntToBytes v 32 = bytes) ∧
      ∀ b : Uint8Array, b.length = 32 → 1 ≤ bytesToBigInt b → bytesToBigInt b < order →
        scalarFromHex toLowerCase (toHex b) = .ok b := by
  simp only [order_eq, Nat.cast_lt]
  refine ⟨fun s => ⟨?_, ?_⟩, ?_, ?_⟩
  · rintro ⟨bytes, h⟩
    obtain ⟨v, hv⟩ := spells_of_scalarFromHex (hlower s) h
    obtain ⟨hrange, -⟩ := (scalarFromHex_eq_ok (hlower s) hv).1 h
    exact ⟨v, hv, hrange⟩
  · rintro ⟨v, hv, hrange⟩
    exact ⟨_, (scalarFromHex_eq_ok (hlower s) hv).2 ⟨hrange, rfl⟩⟩
  · intro s bytes v h hv
    obtain ⟨⟨-, hlt⟩, rfl⟩ := (scalarFromHex_eq_ok (hlower s) hv).1 h
    have hfits : v < 256 ^ 32 := hlt.trans (by norm_num [n])
    rw [bytesToBigInt_eq, bigIntToBytes_natCast, beNat_natBe hfits]
    exact ⟨length_natBe, rfl, rfl⟩
  · intro b hb hpos hlt
    rw [bytesToBigInt_eq] at hpos hlt
    refine (scalarFromHex_eq_ok (hlower _) (spells_toHex hb)).2 ⟨?_, ?_⟩
    · exact ⟨by exact_mod_cast hpos, Nat.cast_lt.1 hlt⟩
    · rw [← hb, natBe_beNat]

/-- `0X1f`, and one in full, where nothing beyond ASCII changes. -/
theorem scalarFromHex_ascii :
    (∃ bytes, scalarFromHex (List.map lowerAscii) [0x30, 0x58, 0x31, 0x66] = .ok bytes) ∧
      scalarFromHex (List.map lowerAscii) (toHex (natBe 32 1)) = .ok (natBe 32 1) := by
  have h := scalarFromHex_spec (List.map lowerAscii) lowers_map
  refine ⟨(h.1 _).2 ⟨31, ⟨[0x30, 0x58], [0x31, 0x66], rfl, by decide, by decide, by decide,
    [1, 15], .cons (by decide) (.cons (by decide) .nil), by decide⟩, by decide, by decide⟩, ?_⟩
  exact h.2.2 _ length_natBe (by decide +kernel) (by decide +kernel)

end CryptoOps
end CotMta.Client
