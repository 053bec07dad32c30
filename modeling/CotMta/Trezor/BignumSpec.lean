/-
  What the functions of `Bignum` compute, for every `Arith`.

  `ofNat v` is the normalized number of value `v`.  Each lemma rewrites one
  function applied to such numbers to `ofNat` of a closed expression (or to the
  closed expression itself), under the range that the comments of `bignum.c`
  ask of its arguments; callers never unfold the limbs.
-/
import CotMta.Trezor.Bignum

namespace CotMta.Trezor

open Limbs

namespace Bignum256

/-- The normalized number of value `v` (modulo `2 ^ 270`). -/
def ofNat (v : ℕ) : Bignum256 := ⟨limbs (2 ^ 30) 9 v, length_limbs⟩

variable {v w i : ℕ} {a : Bignum256}

theorem limb_ofNat (h : i < 9) : (ofNat v).limb i = v / 2 ^ (30 * i) % 2 ^ 30 := by
  rw [limb, ofNat, getD_limbs h, ← pow_mul]

theorem limb_of_le (h : 9 ≤ i) : a.limb i = 0 := by
  rw [limb, List.getD_eq_default _ _ (by rw [a.length_val]; exact h)]

theorem limb_ofNat_lt : (ofNat v).limb i < 2 ^ 30 := by
  rcases Nat.lt_or_ge i 9 with h | h
  · rw [limb_ofNat h]; exact Nat.mod_lt _ (by norm_num)
  · rw [limb_of_le h]; norm_num

/-- The top limb carries what is above `2 ^ 240`. -/
theorem limb_ofNat_eight (h : v < (2 ^ 30) ^ 9) : (ofNat v).limb 8 = v / 2 ^ 240 := by
  rw [limb_ofNat (by norm_num), Nat.mod_eq_of_lt (by omega)]

theorem ofNat_congr (h : v % (2 ^ 30) ^ 9 = w % (2 ^ 30) ^ 9) : ofNat v = ofNat w := by
  exact Bignum256.ext (limbs_congr (by norm_num) h)

theorem ofNat_injective (hv : v < (2 ^ 30) ^ 9) (hw : w < (2 ^ 30) ^ 9) (h : ofNat v = ofNat w) :
    v = w := by
  exact limbs_injective hv hw (congrArg val h)

theorem ext_limb {b : Bignum256} (h : ∀ i < 9, a.limb i = b.limb i) : a = b := by
  refine Bignum256.ext ?_
  have ha := map_getD_range (l := a.val)
  have hb := map_getD_range (l := b.val)
  rw [a.length_val] at ha
  rw [b.length_val] at hb
  rw [← ha, ← hb]
  exact List.map_congr_left fun i hi => h i (List.mem_range.1 hi)

@[simp] theorem limb_ofFn {f : ℕ → ℕ} (h : i < 9) : (ofFn f).limb i = f i := by
  simp [limb, ofFn, h]

/-- The number that the limbs stand for, normalized or not. -/
def nat (a : Bignum256) : ℕ := value (2 ^ 30) a.val

theorem value_limb : value (2 ^ 30) ((List.range 9).map a.limb) = a.nat := by
  have hl := map_getD_range (l := a.val)
  rw [a.length_val] at hl
  exact congrArg (value (2 ^ 30)) hl

theorem nat_ofNat (h : v < (2 ^ 30) ^ 9) : (ofNat v).nat = v := value_limbs_of_lt h

/-- A number with limbs of 30 bits is the normalized number of its value. -/
theorem ofNat_nat (h : ∀ i < 9, a.limb i < 2 ^ 30) : ofNat a.nat = a := by
  refine Bignum256.ext ?_
  have hl := limbs_value (B := 2 ^ 30) (l := a.val) fun b hb => by
    obtain ⟨i, hi, rfl⟩ := List.getElem_of_mem hb
    rw [← List.getD_eq_getElem _ 0 hi]
    exact h i (by rwa [a.length_val] at hi)
  rwa [a.length_val] at hl

theorem limb_ofWords_lt {w : Words} : (ofWords w).limb i < 2 ^ 32 := by
  rcases Nat.lt_or_ge i 9 with h | h
  · rw [ofWords, limb_ofFn h]
    exact UInt32.toNat_lt _
  · rw [limb_of_le h]
    norm_num

/-- Words stand for at most about `4 · 2 ^ 270`. -/
theorem nat_ofWords_lt {w : Words} : (ofWords w).nat < (2 ^ 30) ^ 9 * 5 := by
  have h := value_add_le (B := 2 ^ 30) (l := (List.range 9).map (ofWords w).limb) (t := 5)
    fun a ha => by
      obtain ⟨i, -, rfl⟩ := List.mem_map.1 ha
      have := limb_ofWords_lt (w := w) (i := i)
      omega
  rw [value_limb, List.length_map, List.length_range] at h
  omega

/-! ## Limb sums -/

/-- `∑ f i · 2 ^ (30 i)` over the nine limbs. -/
def sumZ (f : ℕ → ℤ) : ℤ := valueZ (2 ^ 30) ((List.range 9).map f)

theorem sumZ_add {f g : ℕ → ℤ} : sumZ (fun i => f i + g i) = sumZ f + sumZ g := valueZ_map_add
theorem sumZ_sub {f g : ℕ → ℤ} : sumZ (fun i => f i - g i) = sumZ f - sumZ g := valueZ_map_sub
theorem sumZ_mul_right {f : ℕ → ℤ} {c : ℤ} : sumZ (fun i => f i * c) = sumZ f * c :=
  valueZ_map_mul_right
theorem sumZ_mul_left {f : ℕ → ℤ} {c : ℤ} : sumZ (fun i => c * f i) = c * sumZ f :=
  valueZ_map_mul_left

theorem sumZ_nat : sumZ (fun i => (a.limb i : ℤ)) = a.nat := by
  rw [← value_limb, ← valueZ_natCast, List.map_map]
  rfl

theorem sumZ_limb (h : v < (2 ^ 30) ^ 9) : sumZ (fun i => ((ofNat v).limb i : ℤ)) = v := by
  rw [sumZ_nat, nat_ofNat h]

theorem sumZ_mask : sumZ (fun _ => 0x3FFFFFFF) = (2 ^ 30) ^ 9 - 1 := by
  norm_num [sumZ, List.range_succ]

/-- Nine steps of `offset` add up to a multiple of `2 ^ 270`. -/
theorem sumZ_offset : sumZ offset = 2 ^ 31 * (2 ^ 30) ^ 9 := by
  norm_num [sumZ, offset, List.range_succ]

theorem carry_eq {s : ℕ} (hs : 30 ≤ s) {wrap : ℤ → ℕ}
    (hwrap : ∀ e : ℤ, 0 ≤ e → e < 2 ^ s → (wrap e : ℤ) = e) {t : ℕ} {e : ℕ → ℤ}
    (ht : t < 2 ^ (s - 30)) (he : ∀ i < 9, 0 ≤ e i ∧ e i ≤ 2 ^ s - 2 ^ (s - 30))
    (hv : (t + sumZ e) % (2 ^ 30) ^ 9 = v % (2 ^ 30) ^ 9) : carry wrap t e = ofNat v := by
  have hall : ∀ x ∈ (List.range 9).map e, 0 ≤ x ∧ x ≤ 2 ^ s - 2 ^ (s - 30) := by
    intro x hx
    obtain ⟨i, hi, rfl⟩ := List.mem_map.1 hx
    exact he i (List.mem_range.1 hi)
  have hnn : 0 ≤ sumZ e := valueZ_nonneg fun x hx => (hall x hx).1
  refine Bignum256.ext ?_
  simp only [carry, ofNat, ripple_eq hs hwrap ht hall, List.length_map, List.length_range]
  refine limbs_congr (by norm_num) ?_
  have := Int.toNat_of_nonneg (show 0 ≤ (t : ℤ) + sumZ e by omega)
  simp only [sumZ] at this hv
  omega

end Bignum256

open Bignum256

variable {W : Arith} {a b m x v : ℕ}

/-! ## Reading and writing -/

theorem readBe_eq {data : List UInt8} {o : ℕ} :
    readBe data o = (data.getD o 0).toNat * 2 ^ 24 + (data.getD (o + 1) 0).toNat * 2 ^ 16 +
      (data.getD (o + 2) 0).toNat * 2 ^ 8 + (data.getD (o + 3) 0).toNat := by
  have hlt (i : ℕ) : (data.getD i 0).toNat < 2 ^ 8 := (data.getD i 0).toNat_lt
  simp only [readBe, Nat.shiftLeft_eq]
  generalize (data.getD o 0).toNat = b₀
  generalize h₁ : (data.getD (o + 1) 0).toNat = b₁
  generalize h₂ : (data.getD (o + 2) 0).toNat = b₂
  generalize h₃ : (data.getD (o + 3) 0).toNat = b₃
  have h₁ := h₁ ▸ hlt (o + 1)
  have h₂ := h₂ ▸ hlt (o + 2)
  have h₃ := h₃ ▸ hlt (o + 3)
  rw [mul_comm b₀, or_eq_add (by omega),
    show 2 ^ 24 * b₀ + b₁ * 2 ^ 16 = 2 ^ 16 * (b₀ * 2 ^ 8 + b₁) by ring, or_eq_add (by omega),
    show 2 ^ 16 * (b₀ * 2 ^ 8 + b₁) + b₂ * 2 ^ 8 = 2 ^ 8 * (b₀ * 2 ^ 16 + b₁ * 2 ^ 8 + b₂) by ring,
    or_eq_add (by omega)]

theorem readBe_lt {data : List UInt8} {o : ℕ} : readBe data o < 2 ^ 32 := by
  have hlt (i : ℕ) : (data.getD i 0).toNat < 2 ^ 8 := (data.getD i 0).toNat_lt
  have h₀ := hlt o
  have h₁ := hlt (o + 1)
  have h₂ := hlt (o + 2)
  have h₃ := hlt (o + 3)
  rw [readBe_eq]
  omega

theorem readBe_cons {b₀ b₁ b₂ b₃ : UInt8} {l : List UInt8} :
    readBe (b₀ :: b₁ :: b₂ :: b₃ :: l) 0 = beNat [b₀, b₁, b₂, b₃] := by
  rw [readBe_eq]
  simp only [beNat, value, List.reverse_cons, List.reverse_nil, List.nil_append, List.cons_append,
    List.map_cons, List.map_nil, List.getD_cons_zero, List.getD_cons_succ]
  ring

theorem readBe_cons_add {b₀ b₁ b₂ b₃ : UInt8} {l : List UInt8} {o : ℕ} :
    readBe (b₀ :: b₁ :: b₂ :: b₃ :: l) (o + 4) = readBe l o := rfl

/-- The words that `bn_read_be` reads, least significant first. -/
theorem value_words : ∀ {k : ℕ} {data : List UInt8}, data.length = 4 * k →
    value (2 ^ 32) ((List.range k).map fun i => readBe data ((k - 1 - i) * 4)) = beNat data
  | 0, data, h => by rw [List.length_eq_zero_iff.1 h]; rfl
  | k + 1, b₀ :: b₁ :: b₂ :: b₃ :: l, h => by
    have hl : l.length = 4 * k := by simp only [List.length_cons] at h; omega
    have hmap : (List.range k).map (fun i => readBe (b₀ :: b₁ :: b₂ :: b₃ :: l) ((k - i) * 4)) =
        (List.range k).map fun i => readBe l ((k - 1 - i) * 4) := by
      refine List.map_congr_left fun i hi => ?_
      have hi := List.mem_range.1 hi
      rw [show (k - i) * 4 = (k - 1 - i) * 4 + 4 by omega, readBe_cons_add]
    rw [List.range_succ, List.map_append, value_append]
    simp only [Nat.add_sub_cancel, List.map_cons, List.map_nil, Nat.sub_self, Nat.zero_mul, value,
      List.length_map, List.length_range]
    rw [hmap, value_words hl, readBe_cons, ← List.singleton_append (l := b₁ :: b₂ :: b₃ :: l),
      show [b₀] ++ (b₁ :: b₂ :: b₃ :: l) = [b₀, b₁, b₂, b₃] ++ l by rfl, beNat_append, hl,
      show (256 : ℕ) = 2 ^ 8 by rfl, ← pow_mul, ← pow_mul]
    ring_nf

/-- The low 30 bits of the accumulator, whatever the shift pushed out. -/
theorem or_shiftLeft_mask {i temp limb : ℕ} (h : temp < 2 ^ (2 * i)) :
    (temp ||| W.u32 ((limb <<< (2 * i) : ℕ))) &&& 0x3FFFFFFF =
      (temp + 2 ^ (2 * i) * limb) % 2 ^ 30 := by
  have hu := W.u32_mod (limb <<< (2 * i))
  have hu' : W.u32 ((limb <<< (2 * i) : ℕ)) % 2 ^ 30 = 2 ^ (2 * i) * limb % 2 ^ 30 := by
    rw [Nat.shiftLeft_eq, mul_comm] at hu
    rw [Nat.shiftLeft_eq, mul_comm]
    omega
  rw [show 0x3FFFFFFF = 2 ^ 30 - 1 by norm_num, Nat.and_two_pow_sub_one_eq_mod,
    Nat.or_mod_two_pow, hu', ← Nat.or_mod_two_pow, Nat.or_comm, or_eq_add h, add_comm]

theorem bnReadBeLoop_eq : ∀ {i temp : ℕ} {words : List ℕ}, i + words.length = 8 →
    temp < 2 ^ (2 * i) → (∀ w ∈ words, w < 2 ^ 32) →
    bnReadBeLoop W i temp words =
      limbs (2 ^ 30) (words.length + 1) (temp + 2 ^ (2 * i) * value (2 ^ 32) words)
  | i, temp, [], hi, ht, _ => by
    have : temp < 2 ^ 30 := ht.trans (Nat.pow_lt_pow_right (by norm_num) (by simp at hi; omega))
    simp only [bnReadBeLoop, List.length_nil, limbs, value, mul_zero, add_zero,
      Nat.mod_eq_of_lt this]
  | i, temp, limb :: words, hi, ht, hw => by
    simp only [List.forall_mem_cons] at hw
    have hi7 : i ≤ 7 := by simp only [List.length_cons] at hi; omega
    have h2 : 0 < 2 ^ (2 * i) := by positivity
    have hdiv : (temp + 2 ^ (2 * i) * limb) / 2 ^ 30 = limb >>> (30 - 2 * i) := by
      rw [show 2 ^ 30 = 2 ^ (2 * i) * 2 ^ (30 - 2 * i) by rw [← pow_add]; congr 1; omega,
        ← Nat.div_div_eq_div_mul, Nat.add_mul_div_left _ _ h2, Nat.div_eq_of_lt ht, zero_add,
        Nat.shiftRight_eq_div_pow]
    -- the words not yet read lie above the 30 bits stored now
    have hsplit : temp + 2 ^ (2 * i) * (limb + 2 ^ 32 * value (2 ^ 32) words) =
        temp + 2 ^ (2 * i) * limb + 2 ^ 30 * (2 ^ (2 * (i + 1)) * value (2 ^ 32) words) := by
      rw [mul_add 2 i 1, pow_add]
      ring
    have hlt : limb >>> (30 - 2 * i) < 2 ^ (2 * (i + 1)) := by
      rw [Nat.shiftRight_eq_div_pow, Nat.div_lt_iff_lt_mul (by positivity), ← pow_add]
      exact hw.1.trans_eq (congrArg _ (by omega))
    rw [bnReadBeLoop, or_shiftLeft_mask ht, value, List.length_cons, limbs, hsplit,
      Nat.add_mul_mod_self_left, Nat.add_mul_div_left _ _ (by norm_num), hdiv,
      bnReadBeLoop_eq (by simp only [List.length_cons] at hi; omega) hlt hw.2]

theorem bnReadBe_eq {b : Bytes 32} : bnReadBe W b = ofNat b.nat := by
  refine Bignum256.ext ?_
  have hv := value_words (k := 8) b.length_toList
  simp only [bnReadBe, ofNat]
  rw [bnReadBeLoop_eq (by simp) (by norm_num) fun w hw => ?_, Bytes.nat, ← hv]
  · simp
  · obtain ⟨i, -, rfl⟩ := List.mem_map.1 hw
    exact readBe_lt

theorem writeBe_eq {x : ℕ} : writeBe x = natBe 4 x := by
  have hmod (y : ℕ) : UInt8.ofNat (y % 256) = UInt8.ofNat y := UInt8.toNat_inj.1 (by simp)
  simp only [writeBe, natBe, limbs, List.map_cons, List.map_nil, List.reverse_cons,
    List.reverse_nil, List.nil_append, List.cons_append, Nat.shiftRight_eq_div_pow,
    Nat.div_div_eq_div_mul, hmod]

/-- The word of one round of `bn_write_be`: the old limb above the new one. -/
theorem natBe_word {k top limb : ℕ} (hk : k ≤ 7) (h : limb < 2 ^ 30) :
    natBe 4 (W.u32 ((top <<< (30 - 2 * k) : ℕ)) ||| limb >>> (2 * k)) =
      natBe 4 (2 ^ (30 - 2 * k) * top + limb / 2 ^ (2 * k)) := by
  have hlow : limb / 2 ^ (2 * k) < 2 ^ (30 - 2 * k) := by
    rw [Nat.div_lt_iff_lt_mul (by positivity), ← pow_add]
    exact h.trans_eq (congrArg _ (by omega))
  have hu := W.u32_mod (top <<< (30 - 2 * k))
  refine natBe_congr ?_
  rw [show 256 ^ 4 = 2 ^ 32 by norm_num, Nat.or_mod_two_pow, hu, ← Nat.or_mod_two_pow,
    Nat.shiftLeft_eq, mul_comm, Nat.shiftRight_eq_div_pow, or_eq_add hlow]

/-- The loop writes `32 k` bits of the value whose limbs it still has to read. -/
theorem bnWriteBeLoop_eq : ∀ {k top u : ℕ}, k ≤ 8 → u < (2 ^ 30) ^ k →
    bnWriteBeLoop W (8 - k) top (limbs (2 ^ 30) k u).reverse =
      natBe (4 * k) ((2 ^ 30) ^ k * top + u)
  | 0, _, _, _, _ => rfl
  | k + 1, top, u, hk, hu => by
    have hK : 0 < (2 ^ 30) ^ k := by positivity
    have hlimb : u / (2 ^ 30) ^ k < 2 ^ 30 := by
      rw [Nat.div_lt_iff_lt_mul hK, ← pow_succ']
      exact hu
    have hpow : (2 ^ 30) ^ (k + 1) = 256 ^ (4 * k) * 2 ^ (30 - 2 * k) := by
      rw [show 256 = 2 ^ 8 by norm_num, ← pow_mul, ← pow_mul, ← pow_add]
      congr 1
      omega
    have hdiv : u / (2 ^ 30) ^ k / 2 ^ (2 * k) = u / 256 ^ (4 * k) := by
      rw [Nat.div_div_eq_div_mul, show 256 = 2 ^ 8 by norm_num, ← pow_mul, ← pow_mul, ← pow_add]
      congr 2
      omega
    have hmod : limbs (2 ^ 30) k u = limbs (2 ^ 30) k (u % (2 ^ 30) ^ k) :=
      (limbs_mod (by norm_num)).symm
    rw [limbs_add, List.reverse_append, limbs, limbs_zero, Nat.mod_eq_of_lt hlimb, hmod]
    simp only [List.reverse_singleton, List.singleton_append, bnWriteBeLoop]
    rw [show 8 - (k + 1) + 1 = 8 - k by omega, show 16 + 2 * (8 - (k + 1)) = 30 - 2 * k by omega,
      show 14 - 2 * (8 - (k + 1)) = 2 * k by omega,
      bnWriteBeLoop_eq (by omega) (Nat.mod_lt _ hK), writeBe_eq, Nat.div_add_mod,
      natBe_word (by omega) hlimb, hdiv, hpow, mul_assoc, mul_add_one 4 k, natBe_add,
      Nat.mul_add_div (by positivity)]
    congr 1
    exact natBe_congr (Nat.mul_add_mod _ _ _).symm

theorem bnWriteBe_ofNat (h : v < 2 ^ 256) : bnWriteBe W (ofNat v) = Bytes.ofNat 32 v := by
  have hlt : v % (2 ^ 30) ^ 8 < (2 ^ 30) ^ 8 := Nat.mod_lt _ (by norm_num)
  have hlimbs : (List.range 8).map (fun i => (ofNat v).limb (7 - i)) =
      (limbs (2 ^ 30) 8 (v % (2 ^ 30) ^ 8)).reverse := by
    rw [limbs_mod (by norm_num)]
    rfl
  refine Bytes.ext ?_
  simp only [bnWriteBe, Bytes.ofNat]
  rw [hlimbs, show (0 : ℕ) = 8 - 8 from rfl, bnWriteBeLoop_eq le_rfl hlt,
    limb_ofNat_eight (h.trans (by norm_num)), ← pow_mul, Nat.div_add_mod]

/-! ## Comparisons -/

theorem foldl_or_eq_zero {ι : Type*} {f : ι → ℕ} : ∀ {is : List ι} {r : ℕ},
    is.foldl (fun r i => r ||| f i) r = 0 ↔ r = 0 ∧ ∀ i ∈ is, f i = 0
  | [], r => by simp
  | i :: is, r => by
    rw [List.foldl_cons, foldl_or_eq_zero, Nat.or_eq_zero_iff]
    simp only [List.forall_mem_cons, and_assoc]

theorem bnIsZero_ofNat (h : v < (2 ^ 30) ^ 9) : bnIsZero (ofNat v) = decide (v = 0) := by
  rw [bnIsZero, Bool.eq_iff_iff, beq_iff_eq, foldl_or_eq_zero, decide_eq_true_iff]
  constructor
  · rintro ⟨-, h0⟩
    refine ofNat_injective h (by norm_num) (ext_limb fun i hi => ?_)
    rw [h0 i (List.mem_range.2 hi), limb_ofNat hi, Nat.zero_div, Nat.zero_mod]
  · rintro rfl
    exact ⟨rfl, fun i hi => by simp [limb_ofNat (List.mem_range.1 hi)]⟩

theorem bnIsEqual_eq {a b : Bignum256} : bnIsEqual a b = decide (a = b) := by
  rw [bnIsEqual, Bool.eq_iff_iff, beq_iff_eq, foldl_or_eq_zero, decide_eq_true_iff]
  simp only [Nat.xor_eq_zero_iff, true_and]
  exact ⟨fun h => ext_limb fun i hi => h i (List.mem_range.2 hi), fun h i _ => by rw [h]⟩

theorem bnIsEqual_ofNat (ha : a < (2 ^ 30) ^ 9) (hb : b < (2 ^ 30) ^ 9) :
    bnIsEqual (ofNat a) (ofNat b) = decide (a = b) := by
  rw [bnIsEqual_eq]
  exact decide_eq_decide.2 ⟨ofNat_injective ha hb, congrArg ofNat⟩

theorem shiftLeft_or_toNat {r : ℕ} {c : Bool} : (r <<< 1) ||| c.toNat = 2 * r + c.toNat := by
  rw [Nat.shiftLeft_eq, mul_comm, pow_one]
  exact (Nat.two_pow_add_eq_or_of_lt (i := 1) (by cases c <;> decide) r).symm

/-- The two accumulators compare as the numbers do, most significant limb first. -/
theorem foldl_less : ∀ {k r s : ℕ}, k ≤ 9 →
    let res := (List.range k).reverse.foldl
      (fun res i => ((res.1 <<< 1) ||| (decide ((ofNat a).limb i < (ofNat b).limb i)).toNat,
        (res.2 <<< 1) ||| (decide ((ofNat a).limb i > (ofNat b).limb i)).toNat)) (r, s)
    (res.1 > res.2 ↔ r > s ∨ r = s ∧ a % (2 ^ 30) ^ k < b % (2 ^ 30) ^ k)
  | 0, r, s, _ => by simp [Nat.mod_one]
  | k + 1, r, s, hk => by
    simp only [List.range_succ, List.reverse_append, List.reverse_singleton, List.singleton_append,
      List.foldl_cons]
    refine (foldl_less (Nat.le_of_succ_le hk)).trans ?_
    have hmod (v : ℕ) : v % (2 ^ 30) ^ (k + 1) =
        v % (2 ^ 30) ^ k + (2 ^ 30) ^ k * (v / (2 ^ 30) ^ k % 2 ^ 30) := Nat.mod_pow_succ
    simp only [shiftLeft_or_toNat, hmod, limb_ofNat (Nat.lt_of_succ_le hk), pow_mul]
    have ha := Nat.mod_lt a (show 0 < (2 ^ 30) ^ k by positivity)
    have hb := Nat.mod_lt b (show 0 < (2 ^ 30) ^ k by positivity)
    generalize a / (2 ^ 30) ^ k % 2 ^ 30 = p
    generalize b / (2 ^ 30) ^ k % 2 ^ 30 = q
    generalize a % (2 ^ 30) ^ k = u at ha ⊢
    generalize b % (2 ^ 30) ^ k = v at hb ⊢
    generalize (2 ^ 30) ^ k = K at ha hb ⊢
    have hlimb : ∀ {i j}, i < j → K * i + K ≤ K * j := fun h =>
      (Nat.mul_succ _ _).symm.trans_le (Nat.mul_le_mul_left K h)
    rcases lt_trichotomy p q with h | rfl | h
    · have := hlimb h
      simp only [h, decide_true, Bool.toNat_true, not_lt_of_gt h, gt_iff_lt, decide_false,
        Bool.toNat_false]
      omega
    · simp only [lt_irrefl, gt_iff_lt, decide_false, Bool.toNat_false]
      omega
    · have := hlimb h
      simp only [h, decide_true, Bool.toNat_true, not_lt_of_gt h, gt_iff_lt, decide_false,
        Bool.toNat_false]
      omega

theorem bnIsLess_ofNat (ha : a < (2 ^ 30) ^ 9) (hb : b < (2 ^ 30) ^ 9) :
    bnIsLess (ofNat a) (ofNat b) = decide (a < b) := by
  refine decide_eq_decide.2 ((foldl_less le_rfl).trans ?_)
  rw [Nat.mod_eq_of_lt ha, Nat.mod_eq_of_lt hb]
  simp

theorem bnCmov_eq {c : Bool} {a b : Bignum256} (ha : ∀ i, a.limb i < 2 ^ 32)
    (hb : ∀ i, b.limb i < 2 ^ 32) : bnCmov c a b = if c then a else b := by
  have hmask : ∀ {k : ℕ}, k < 2 ^ 32 → k &&& 0xFFFFFFFF = k := fun {k} h =>
    (Nat.and_two_pow_sub_one_eq_mod k 32).trans (Nat.mod_eq_of_lt h)
  refine ext_limb fun i hi => ?_
  cases c
  · simp [bnCmov, limb_ofFn hi, hmask (hb i)]
  · simp [bnCmov, limb_ofFn hi, hmask (ha i)]

/-! ## Addition and subtraction -/

theorem bnAdd_ofNat (ha : a < (2 ^ 30) ^ 9) (hb : b < (2 ^ 30) ^ 9) :
    bnAdd W (ofNat a) (ofNat b) = ofNat (a + b) := by
  refine carry_eq (by norm_num) W.u32_eq (by norm_num) (fun i _ => ?_) ?_
  · have := limb_ofNat_lt (v := a) (i := i)
    have := limb_ofNat_lt (v := b) (i := i)
    omega
  · rw [sumZ_add, sumZ_limb ha, sumZ_limb hb]
    simp

theorem bnAddi_ofNat (ha : a < (2 ^ 30) ^ 9) (hb : b < 4) :
    bnAddi W (ofNat a) b = ofNat (a + b) := by
  refine carry_eq (by norm_num) W.u32_eq hb (fun i _ => ?_) ?_
  · have := limb_ofNat_lt (v := a) (i := i)
    omega
  · rw [sumZ_limb ha, add_comm]
    simp

theorem bnSubi_zero (ha : a < (2 ^ 30) ^ 9) (hm : m < (2 ^ 30) ^ 9) :
    bnSubi W (ofNat a) 0 (ofNat m) = ofNat (a + m) := by
  rw [← bnAdd_ofNat (W := W) ha hm, bnSubi]
  congr 1
  refine ext_limb fun i hi => ?_
  rw [limb_ofFn hi]
  split
  · next h =>
    subst h
    have h0 := limb_ofNat_lt (v := a) (i := 0)
    have := W.u32_eq ((ofNat a).limb 0) (by omega) (by omega)
    simpa using this
  · rfl

theorem bnSubtract_ofNat (ha : a < (2 ^ 30) ^ 9) (hb : b < (2 ^ 30) ^ 9) :
    bnSubtract W (ofNat a) (ofNat b) = ofNat ((2 ^ 30) ^ 9 + a - b) := by
  refine carry_eq (by norm_num) W.u32_eq (by norm_num) (fun i _ => ?_) ?_
  · have := limb_ofNat_lt (v := a) (i := i)
    have := limb_ofNat_lt (v := b) (i := i)
    omega
  · rw [sumZ_sub, sumZ_add, sumZ_mask, sumZ_limb ha, sumZ_limb hb]
    omega

/-- What exceeds `a + 2 m` is borrowed from beyond the top limb. -/
theorem bnSubtractmod_eq (ha : a < (2 ^ 30) ^ 9) (hb : b < (2 ^ 30) ^ 9) (hm : m < (2 ^ 30) ^ 9) :
    bnSubtractmod W (ofNat a) (ofNat b) (ofNat m) = ofNat ((2 ^ 30) ^ 9 + a + 2 * m - b) := by
  refine carry_eq (by norm_num) W.u32_eq (by norm_num) (fun i _ => ?_) ?_
  · have := limb_ofNat_lt (v := a) (i := i)
    have := limb_ofNat_lt (v := b) (i := i)
    have := limb_ofNat_lt (v := m) (i := i)
    omega
  · rw [sumZ_sub, sumZ_add, sumZ_add, sumZ_mul_left, sumZ_mask, sumZ_limb ha, sumZ_limb hb,
      sumZ_limb hm]
    omega

theorem bnSubtractmod_ofNat (ha : a < (2 ^ 30) ^ 9) (hb : b < (2 ^ 30) ^ 9)
    (hm : m < (2 ^ 30) ^ 9) (hle : b ≤ a + 2 * m) :
    bnSubtractmod W (ofNat a) (ofNat b) (ofNat m) = ofNat (a + 2 * m - b) := by
  rw [bnSubtractmod_eq ha hb hm]
  exact ofNat_congr (by omega)

theorem bnMod_ofNat (hx : x < (2 ^ 30) ^ 9) (hm : m < (2 ^ 30) ^ 9) :
    bnMod W (ofNat x) (ofNat m) = ofNat (if x < m then x else x - m) := by
  have hlt : ∀ {v i : ℕ}, (ofNat v).limb i < 2 ^ 32 := limb_ofNat_lt.trans (by norm_num)
  rw [bnMod, bnSubtract_ofNat hx hm, bnCmov_eq (fun _ => hlt) (fun _ => hlt),
    bnIsLess_ofNat hx hm]
  by_cases h : x < m
  · simp only [h, decide_true, if_true]
  · simp only [h, decide_false, Bool.false_eq_true, if_false]
    exact ofNat_congr (by omega)

/-! ## Masks -/

theorem Arith.u32_natCast (h : a < 2 ^ 32) : W.u32 (a : ℕ) = a := by
  exact_mod_cast W.u32_eq a (by omega) (by exact_mod_cast h)

theorem and_ones (h : a < 2 ^ 32) : a &&& 0xFFFFFFFF = a :=
  (Nat.and_two_pow_sub_one_eq_mod a 32).trans (Nat.mod_eq_of_lt h)

/-- All ones for `true`. -/
def mask (c : Bool) : ℕ := if c then 0xFFFFFFFF else 0

@[simp] theorem mask_xor {c d : Bool} : mask c ^^^ mask d = mask (c ^^ d) := by
  cases c <;> cases d <;> rfl

theorem and_mask {c : Bool} (h : a < 2 ^ 32) : a &&& mask c = if c then a else 0 := by
  cases c
  · exact Nat.and_zero a
  · exact and_ones h

theorem and_not_mask {c : Bool} (h : a < 2 ^ 32) :
    a &&& (0xFFFFFFFF - mask c) = if c then 0 else a := by
  cases c
  · exact and_ones h
  · exact Nat.and_zero a

theorem word_neg_and_one : word (-(a &&& 1 : ℕ)) = mask (a % 2 == 1) := by
  rw [Nat.and_one_is_mod]
  rcases Nat.mod_two_eq_zero_or_one a with h | h <;> rw [h] <;> rfl

theorem word_and_one_sub_one : word ((a &&& 1 : ℕ) - 1) = mask (a % 2 == 0) := by
  rw [Nat.and_one_is_mod]
  rcases Nat.mod_two_eq_zero_or_one a with h | h <;> rw [h] <;> rfl

/-- `conditional_negate` on a partly reduced number, with its two assertions. -/
theorem conditionalNegate_ofNat {c : Bool} (hm : m < 2 ^ 256) (ha : a < 2 * m) :
    conditionalNegate W (mask c) (ofNat a) (ofNat m) =
      some (ofNat (if c then 2 * m - a else a)) := by
  have hlimb : ∀ {v : ℕ}, v ≤ 2 * m → (ofNat v).limb 8 < 0x20000 := by
    intro v hv
    rw [limb_ofNat_eight (hv.trans_lt (by omega))]
    omega
  have hneg : Bignum256.carry W.u32 1
      (fun j => 0x3FFFFFFF + 2 * (ofNat m).limb j - (ofNat a).limb j) = ofNat (2 * m - a) := by
    refine carry_eq (by norm_num) W.u32_eq (by norm_num) (fun i _ => ?_) ?_
    · have := limb_ofNat_lt (v := a) (i := i)
      have := limb_ofNat_lt (v := m) (i := i)
      omega
    · rw [sumZ_sub, sumZ_add, sumZ_mul_left, sumZ_mask, sumZ_limb (by omega), sumZ_limb (by omega)]
      omega
  have hsel : (ofFn fun j => ((ofNat (2 * m - a)).limb j &&& mask c) |||
      ((ofNat a).limb j &&& (0xFFFFFFFF - mask c))) = ofNat (if c then 2 * m - a else a) := by
    refine ext_limb fun i hi => ?_
    have h32 : ∀ {v}, (ofNat v).limb i < 2 ^ 32 := limb_ofNat_lt.trans (by norm_num)
    rw [limb_ofFn hi, and_mask h32, and_not_mask h32]
    cases c
    · exact Nat.zero_or _
    · exact Nat.or_zero _
  rw [conditionalNegate, if_pos (hlimb ha.le)]
  simp only [hneg, hsel]
  exact if_pos (hlimb (by split <;> omega))

/-! ## Halving -/

theorem bnMultHalfLoop_eq : ∀ {t : ℕ} {l : List ℕ}, t ≤ 2 ^ 30 → (∀ x ∈ l, x < 2 ^ 31) →
    t + 2 ^ 29 * value (2 ^ 30) l < (2 ^ 30) ^ (l.length + 1) →
    bnMultHalfLoop W t l = limbs (2 ^ 30) (l.length + 1) (t + 2 ^ 29 * value (2 ^ 30) l)
  | t, [], _, _, h => by
    simp only [value, mul_zero, add_zero, List.length_nil, zero_add, pow_one] at h ⊢
    rw [bnMultHalfLoop, limbs, limbs_zero, Nat.mod_eq_of_lt h]
  | t, x :: l, ht, hl, h => by
    simp only [List.forall_mem_cons] at hl
    obtain ⟨hx, hl⟩ := hl
    -- the accumulator with the low bit of the next limb
    have hu : W.u32 ((t + (x &&& 1) <<< 29 : ℕ)) = t + 2 ^ 29 * (x % 2) := by
      rw [Nat.and_one_is_mod, Nat.shiftLeft_eq, mul_comm]
      exact Arith.u32_natCast (by omega)
    have hnext : W.u32 (((t + 2 ^ 29 * (x % 2)) >>> 30 + x >>> 1 : ℕ)) =
        (t + 2 ^ 29 * (x % 2)) / 2 ^ 30 + x / 2 := by
      rw [Nat.shiftRight_eq_div_pow, Nat.shiftRight_one]
      exact Arith.u32_natCast (by omega)
    have hsum : t + 2 ^ 29 * value (2 ^ 30) (x :: l) = t + 2 ^ 29 * (x % 2) +
        2 ^ 30 * (x / 2 + 2 ^ 29 * value (2 ^ 30) l) := by
      rw [value]
      omega
    have hdiv : (t + 2 ^ 29 * value (2 ^ 30) (x :: l)) / 2 ^ 30 =
        (t + 2 ^ 29 * (x % 2)) / 2 ^ 30 + x / 2 + 2 ^ 29 * value (2 ^ 30) l := by
      rw [hsum, Nat.add_mul_div_left _ _ (by norm_num), add_assoc]
    have hlt : (t + 2 ^ 29 * (x % 2)) / 2 ^ 30 + x / 2 + 2 ^ 29 * value (2 ^ 30) l <
        (2 ^ 30) ^ (l.length + 1) := by
      rw [← hdiv]
      refine Nat.div_lt_of_lt_mul ?_
      rwa [← pow_succ']
    have hlimbs : ∀ {S}, limbs (2 ^ 30) ((x :: l).length + 1) S =
        S % 2 ^ 30 :: limbs (2 ^ 30) (l.length + 1) (S / 2 ^ 30) := rfl
    simp only [bnMultHalfLoop]
    rw [hu, hnext, bnMultHalfLoop_eq (by omega) hl hlt, hlimbs, hdiv, hsum,
      Nat.add_mul_mod_self_left, ← Nat.and_two_pow_sub_one_eq_mod]

theorem value_tail {B k : ℕ} {f : ℕ → ℕ} :
    f 0 + B * value B ((List.range k).map fun j => f (j + 1)) =
      value B ((List.range (k + 1)).map f) := by
  rw [List.range_succ_eq_map, List.map_cons, List.map_map]
  rfl

/-- Half of `x` or of `x + m`, whichever is even. -/
theorem bnMultHalf_ofNat (ha : a < (2 ^ 30) ^ 9) (hm : m < (2 ^ 30) ^ 9) :
    bnMultHalf W (ofNat a) (ofNat m) = ofNat ((a + m * (a % 2)) / 2) := by
  have hpar : (ofNat a).limb 0 % 2 = a % 2 := by
    rw [limb_ofNat (by norm_num)]
    omega
  have hadd : ∀ j, W.u32 (((ofNat a).limb j + ((ofNat m).limb j &&&
      word (-((ofNat a).limb 0 &&& 1 : ℕ))) : ℕ)) =
        (ofNat a).limb j + (ofNat m).limb j * (a % 2) := by
    intro j
    have h1 := limb_ofNat_lt (v := a) (i := j)
    have h2 := limb_ofNat_lt (v := m) (i := j)
    rw [word_neg_and_one, hpar, and_mask (by omega)]
    rcases Nat.mod_two_eq_zero_or_one a with h | h <;> rw [h]
    · exact Arith.u32_natCast (by simp; omega)
    · rw [mul_one]
      exact Arith.u32_natCast (by simp; omega)
  have hbound : ∀ j, (ofNat a).limb j + (ofNat m).limb j * (a % 2) < 2 ^ 31 := by
    intro j
    have h1 := limb_ofNat_lt (v := a) (i := j)
    have h2 := limb_ofNat_lt (v := m) (i := j)
    rcases Nat.mod_two_eq_zero_or_one a with h | h <;> rw [h] <;> omega
  have hsum : value (2 ^ 30) ((List.range 9).map fun i =>
      (ofNat a).limb i + (ofNat m).limb i * (a % 2)) = a + m * (a % 2) := by
    have h : sumZ (fun i => ((ofNat a).limb i : ℤ) + (ofNat m).limb i * (a % 2 : ℕ)) =
        a + m * (a % 2 : ℕ) := by rw [sumZ_add, sumZ_mul_right, sumZ_limb ha, sumZ_limb hm]
    rw [← Nat.cast_inj (R := ℤ), Nat.cast_add, Nat.cast_mul, ← h, ← valueZ_natCast, List.map_map]
    refine congrArg (valueZ _) (List.map_congr_left fun i _ => ?_)
    rw [Function.comp_apply, Nat.cast_add, Nat.cast_mul]
  have hsplit := (value_tail (B := 2 ^ 30) (k := 8)
    (f := fun i => (ofNat a).limb i + (ofNat m).limb i * (a % 2))).trans hsum
  have hlt : a + m * (a % 2) < 2 * (2 ^ 30) ^ 9 := by
    have := Nat.mul_le_mul_left m (show a % 2 ≤ 1 by omega)
    omega
  have hb0 := hbound 0
  refine Bignum256.ext ?_
  simp only [bnMultHalf, hadd]
  have hmem : ∀ x ∈ (List.range 8).map (fun j =>
      (ofNat a).limb (j + 1) + (ofNat m).limb (j + 1) * (a % 2)), x < 2 ^ 31 := by
    intro x hx
    obtain ⟨j, -, rfl⟩ := List.mem_map.1 hx
    exact hbound _
  have hlength : ((List.range 8).map (fun j =>
      (ofNat a).limb (j + 1) + (ofNat m).limb (j + 1) * (a % 2))).length = 8 := by
    rw [List.length_map, List.length_range]
  generalize (List.range 8).map (fun j =>
    (ofNat a).limb (j + 1) + (ofNat m).limb (j + 1) * (a % 2)) = l at hsplit hmem hlength ⊢
  generalize (ofNat a).limb 0 + (ofNat m).limb 0 * (a % 2) = s at hsplit hb0 ⊢
  have hhalf : s >>> 1 + 2 ^ 29 * value (2 ^ 30) l = (a + m * (a % 2)) / 2 := by
    rw [Nat.shiftRight_one, ← hsplit]
    omega
  rw [bnMultHalfLoop_eq (by omega) hmem (by rw [hhalf, hlength]; omega), hhalf, hlength]
  rfl

/-! ## Partial reduction -/

/-- One subtraction of the multiple of `m` that the top bits ask for. -/
theorem bnFastMod_eq {x : Bignum256} (hx : ∀ i < 9, x.limb i < 2 ^ 32) (hm : m < (2 ^ 30) ^ 9)
    (hv : sumZ (fun i => (x.limb i : ℤ)) - m * (x.limb 8 >>> 16 : ℕ) = v) :
    bnFastMod W x (ofNat m) = ofNat v := by
  have hc : x.limb 8 >>> 16 < 2 ^ 16 := by
    have := hx 8 (by norm_num)
    rw [Nat.shiftRight_eq_div_pow]
    omega
  refine carry_eq (by norm_num) W.u64_eq (by norm_num) (fun i hi => ?_) ?_
  · have hxi := hx i hi
    have hmul : (ofNat m).limb i * (x.limb 8 >>> 16) ≤ 2 ^ 30 * 2 ^ 16 :=
      Nat.mul_le_mul limb_ofNat_lt.le hc.le
    rw [← Nat.cast_mul]
    generalize (ofNat m).limb i * (x.limb 8 >>> 16) = c at hmul
    simp only [offset]
    split <;> omega
  · rw [sumZ_sub, sumZ_add, sumZ_mul_right, sumZ_offset, sumZ_limb hm]
    omega

theorem bnAddmod_ofNat (ha : a < (2 ^ 30) ^ 9) (hb : b < (2 ^ 30) ^ 9) (hm : m ≤ 2 ^ 256) :
    bnAddmod W (ofNat a) (ofNat b) (ofNat m) =
      ofNat (a + b - m * ((a / 2 ^ 240 + b / 2 ^ 240) / 2 ^ 16)) := by
  have hlimb : ∀ i < 9, (ofFn fun i => W.u32 ((ofNat a).limb i + (ofNat b).limb i)).limb i =
      (ofNat a).limb i + (ofNat b).limb i := by
    intro i hi
    have h1 := limb_ofNat_lt (v := a) (i := i)
    have h2 := limb_ofNat_lt (v := b) (i := i)
    have := W.u32_eq ((ofNat a).limb i + (ofNat b).limb i) (by omega) (by omega)
    rw [limb_ofFn hi]
    exact_mod_cast this
  refine bnFastMod_eq (fun i hi => ?_) (by omega) ?_
  · have h1 := limb_ofNat_lt (v := a) (i := i)
    have h2 := limb_ofNat_lt (v := b) (i := i)
    rw [hlimb i hi]
    omega
  · rw [hlimb 8 (by norm_num), limb_ofNat_eight ha, limb_ofNat_eight hb,
      Nat.shiftRight_eq_div_pow]
    have hsum : sumZ (fun i =>
        ((ofFn fun i => W.u32 ((ofNat a).limb i + (ofNat b).limb i)).limb i : ℤ)) = a + b := by
      rw [← sumZ_limb ha, ← sumZ_limb hb, ← sumZ_add]
      refine congrArg (valueZ _) (List.map_congr_left fun i hi => ?_)
      rw [hlimb i (List.mem_range.1 hi), Nat.cast_add]
    have hle : m * ((a / 2 ^ 240 + b / 2 ^ 240) / 2 ^ 16) ≤ a + b := by
      refine (Nat.mul_le_mul_right _ hm).trans ?_
      omega
    rw [hsum, Nat.cast_sub hle]
    push_cast
    rfl

theorem bnFastMod_ofNat (ha : a < (2 ^ 30) ^ 9) (hm : m ≤ 2 ^ 256) :
    bnFastMod W (ofNat a) (ofNat m) = ofNat (a - m * (a / 2 ^ 256)) := by
  refine bnFastMod_eq (fun i _ => limb_ofNat_lt.trans (by norm_num)) (by omega) ?_
  have hcoef : a / 2 ^ 240 / 2 ^ 16 = a / 2 ^ 256 := by
    rw [Nat.div_div_eq_div_mul, ← pow_add]
  have hle : m * (a / 2 ^ 256) ≤ a := by
    refine (Nat.mul_le_mul_right _ hm).trans ?_
    omega
  rw [sumZ_limb ha, limb_ofNat_eight ha, Nat.shiftRight_eq_div_pow, hcoef, Nat.cast_sub hle,
    Nat.cast_mul]

/-- The limbs are multiplied before the reduction and may exceed 30 bits. -/
theorem bnMultK_ofNat {k : ℕ} (ha : a < (2 ^ 30) ^ 9) (hk : k ≤ 4) (hm : m ≤ 2 ^ 256) :
    bnMultK W (ofNat a) k (ofNat m) = ofNat (k * a - m * (k * (a / 2 ^ 240) / 2 ^ 16)) := by
  have hlt : ∀ i, k * (ofNat a).limb i < 2 ^ 32 := by
    intro i
    have h := limb_ofNat_lt (v := a) (i := i)
    calc k * (ofNat a).limb i ≤ 4 * (ofNat a).limb i := Nat.mul_le_mul_right _ hk
      _ < 2 ^ 32 := by omega
  have hlimb : ∀ i < 9, (ofFn fun i => W.u32 ((k * (ofNat a).limb i : ℕ))).limb i =
      k * (ofNat a).limb i := by
    intro i hi
    have := W.u32_eq (k * (ofNat a).limb i : ℕ) (by omega) (by exact_mod_cast hlt i)
    rw [limb_ofFn hi]
    exact_mod_cast this
  refine bnFastMod_eq (fun i hi => ?_) (by omega) ?_
  · rw [hlimb i hi]
    exact hlt i
  · have hsum : sumZ (fun i =>
        ((ofFn fun i => W.u32 ((k * (ofNat a).limb i : ℕ))).limb i : ℤ)) = k * a := by
      rw [← sumZ_limb ha, ← sumZ_mul_left]
      refine congrArg (valueZ _) (List.map_congr_left fun i hi => ?_)
      rw [hlimb i (List.mem_range.1 hi), Nat.cast_mul]
    have hle : m * (k * (a / 2 ^ 240) / 2 ^ 16) ≤ k * a := by
      refine (Nat.mul_le_mul_right _ hm).trans ?_
      have h240 : k * (a / 2 ^ 240) * 2 ^ 240 ≤ k * a := by
        rw [mul_assoc]
        exact Nat.mul_le_mul_left _ (Nat.div_mul_le_self _ _)
      omega
    rw [hlimb 8 (by norm_num), limb_ofNat_eight ha, Nat.shiftRight_eq_div_pow, hsum,
      Nat.cast_sub hle]
    push_cast
    rfl

theorem bnLshift_ofNat : bnLshift (ofNat a) = ofNat (2 * a) := by
  refine ext_limb fun i hi => ?_
  rw [bnLshift, limb_ofFn hi, limb_ofNat hi, limb_ofNat hi, Nat.shiftLeft_eq, pow_one,
    show (0x3FFFFFFF : ℕ) = 2 ^ 30 - 1 by norm_num, Nat.and_two_pow_sub_one_eq_mod]
  cases i with
  | zero =>
    simp
    omega
  | succ i =>
    have hdouble : 2 * a / 2 ^ (30 * (i + 1)) = a / 2 ^ (30 * i) / 2 ^ 29 := by
      rw [Nat.div_div_eq_div_mul, ← pow_add, show 30 * (i + 1) = 30 * i + 29 + 1 by ring, pow_succ',
        Nat.mul_div_mul_left _ _ (by norm_num)]
    have hlimb : a / 2 ^ (30 * (i + 1)) = a / 2 ^ (30 * i) / 2 ^ 30 := by
      rw [mul_add_one, Nat.div_div_eq_div_mul, ← pow_add]
    have hbit : ((ofNat a).limb i &&& 0x20000000) >>> 29 = a / 2 ^ (30 * i) / 2 ^ 29 % 2 := by
      rw [Nat.shiftRight_and_distrib, limb_ofNat (by omega), Nat.shiftRight_eq_div_pow,
        show 0x20000000 >>> 29 = 1 by rfl, Nat.and_one_is_mod]
      omega
    rw [if_pos i.succ_pos, Nat.add_sub_cancel, hbit, hdouble, hlimb]
    generalize a / 2 ^ (30 * i) = w
    have hhigh : w / 2 ^ 30 % 2 ^ 30 * 2 % 2 ^ 30 = 2 ^ 1 * (w / 2 ^ 30 % 2 ^ 29) := by omega
    rw [hhigh, ← Nat.two_pow_add_eq_or_of_lt (by omega)]
    omega

end CotMta.Trezor
