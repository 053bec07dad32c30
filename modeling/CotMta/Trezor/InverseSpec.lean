/-
  What `bn_inverse` computes.

  `Holds c u s` says that a register holds `u` in its first words and `s` in the
  others; it is `Tight` if the first part has no leading zero.  Each operation
  on registers is the operation on numbers of `Almost`, and the divisions at the
  end remove the power of two: the result is the inverse, below the modulus.
-/
import CotMta.Lib.AlmostInverse
import CotMta.Trezor.Inverse
import CotMta.Trezor.PointAdd

namespace CotMta.Trezor

open Limbs Bignum256

variable {W : Arith} {a b i j k m u v s r x : ℕ} {a' : Bignum256} {c d : Combo}

/-! ## Words -/

theorem word_natCast : word (a : ℕ) = a % 2 ^ 32 := by
  change ((a : ℤ) % 2 ^ 32).toNat = a % 2 ^ 32
  omega

/-- One word of a number shifted right by `j` bits. -/
theorem shift_word (hj : j ≤ 32) :
    (x % 2 ^ 32) >>> j ||| word ((x / 2 ^ 32 % 2 ^ 32) <<< (32 - j) : ℕ) = x / 2 ^ j % 2 ^ 32 := by
  have hpow : 2 ^ 32 = 2 ^ (32 - j) * 2 ^ j := by rw [← pow_add, Nat.sub_add_cancel hj]
  have hlow : x % 2 ^ 32 / 2 ^ j = x / 2 ^ j % 2 ^ (32 - j) := by
    rw [hpow, Nat.mod_mul_left_div_self]
  have hhigh : word ((x / 2 ^ 32 % 2 ^ 32) <<< (32 - j) : ℕ) =
      2 ^ (32 - j) * (x / 2 ^ 32 % 2 ^ j) := by
    have hmod := Nat.mul_mod_mul_left (2 ^ (32 - j)) (x / 2 ^ 32 % 2 ^ 32) (2 ^ j)
    rw [← hpow] at hmod
    rw [word_natCast, Nat.shiftLeft_eq, mul_comm, hmod, Nat.mod_mod_of_dvd]
    exact Nat.pow_dvd_pow 2 hj
  have hword := Nat.mod_mul (x := x / 2 ^ j) (a := 2 ^ (32 - j)) (b := 2 ^ j)
  rw [← hpow, Nat.div_div_eq_div_mul, mul_comm (2 ^ j), ← hpow] at hword
  rw [Nat.shiftRight_eq_div_pow, hhigh, Nat.lor_comm, hlow,
    or_eq_add (Nat.mod_lt _ (by positivity)), hword, add_comm]

/-- The word that a limb completes. -/
theorem or_word {t limb e : ℕ} (ht : t < 2 ^ e) (he : e ≤ 32) :
    t ||| word ((limb <<< e : ℕ)) = (t + 2 ^ e * limb) % 2 ^ 32 := by
  have hpow : 2 ^ 32 = 2 ^ e * 2 ^ (32 - e) := by rw [← pow_add, Nat.add_sub_cancel' he]
  have hmod := Nat.mul_mod_mul_left (2 ^ e) limb (2 ^ (32 - e))
  have hword := Nat.mod_mul (x := t + 2 ^ e * limb) (a := 2 ^ e) (b := 2 ^ (32 - e))
  rw [← hpow] at hmod
  rw [← hpow, Nat.add_mul_mod_self_left, Nat.mod_eq_of_lt ht,
    Nat.add_mul_div_left _ _ (by positivity), Nat.div_eq_of_lt ht, zero_add] at hword
  rw [word_natCast, Nat.shiftLeft_eq, mul_comm limb, hmod, Nat.lor_comm, or_eq_add ht, hword,
    add_comm]

theorem toWordsLoop_eq : ∀ {i t : ℕ} {l : List ℕ}, i + l.length = 8 → (∀ x ∈ l, x < 2 ^ 30) →
    t < 2 ^ (30 - 2 * i) →
    toWordsLoop i t l = limbs (2 ^ 32) l.length (t + 2 ^ (30 - 2 * i) * value (2 ^ 30) l)
  | _, _, [], _, _, _ => rfl
  | i, t, limb :: l, hi, hl, ht => by
    simp only [List.forall_mem_cons] at hl
    obtain ⟨hlimb, hl⟩ := hl
    rw [List.length_cons] at hi
    obtain ⟨e, he⟩ : ∃ e, 30 - 2 * i = e + 2 := ⟨28 - 2 * i, by omega⟩
    have hnext : 30 - 2 * (i + 1) = e := by omega
    have hshift : 2 + 2 * i = 32 - (e + 2) := by omega
    rw [he] at ht ⊢
    -- the limb's low bits complete the word, its high bits begin the next one
    have hsplit : t + 2 ^ (e + 2) * value (2 ^ 30) (limb :: l) =
        t + 2 ^ (e + 2) * limb + 2 ^ 32 * (2 ^ e * value (2 ^ 30) l) := by
      rw [value, pow_add]
      ring
    have hhigh : (t + 2 ^ (e + 2) * limb) / 2 ^ 32 = limb >>> (32 - (e + 2)) := by
      have hpow : 2 ^ 32 = 2 ^ (e + 2) * 2 ^ (32 - (e + 2)) := by
        rw [← pow_add, Nat.add_sub_cancel' (by omega)]
      rw [hpow, ← Nat.div_div_eq_div_mul, Nat.add_mul_div_left _ _ (by positivity),
        Nat.div_eq_of_lt ht, zero_add, Nat.shiftRight_eq_div_pow]
    have hlt : limb >>> (32 - (e + 2)) < 2 ^ e := by
      rw [Nat.shiftRight_eq_div_pow, Nat.div_lt_iff_lt_mul (by positivity), ← pow_add]
      exact hlimb.trans_eq (congrArg _ (by omega))
    rw [toWordsLoop, he, or_word ht (by omega), hshift,
      toWordsLoop_eq (by omega) hl (by rwa [hnext]), hnext, List.length_cons, limbs, hsplit,
      Nat.add_mul_mod_self_left, Nat.add_mul_div_left _ _ (by norm_num), hhigh]

theorem toWords_ofNat (hv : v < 2 ^ 256) : toWords (ofNat v) = limbs (2 ^ 32) 8 v := by
  have hmem : ∀ x ∈ (List.range 8).map (fun i => (ofNat v).limb (i + 1)), x < 2 ^ 30 := by
    intro x hx
    obtain ⟨i, -, rfl⟩ := List.mem_map.1 hx
    exact limb_ofNat_lt
  have htail := value_tail (B := 2 ^ 30) (k := 8) (f := (ofNat v).limb)
  have hmap := map_getD_range (l := (ofNat v).val)
  rw [(ofNat v).length_val] at hmap
  have hvalue : value (2 ^ 30) ((List.range 9).map (ofNat v).limb) = v := by
    have h : (List.range 9).map (ofNat v).limb = (ofNat v).val := hmap
    rw [h, ofNat, value_limbs_of_lt (hv.trans (by norm_num))]
  rw [toWords, toWordsLoop_eq (by simp) hmem limb_ofNat_lt, List.length_map, List.length_range,
    mul_zero, Nat.sub_zero, htail, hvalue]

theorem fromWordsLoop_eq : ∀ {i t : ℕ} {l : List ℕ}, i + l.length = 8 → t < 2 ^ (2 * i) →
    (∀ x ∈ l, x < 2 ^ 32) → fromWordsLoop i t l = bnReadBeLoop machine i t l
  | _, _, [], _, _, _ => rfl
  | i, t, a :: l, hi, ht, hl => by
    simp only [List.forall_mem_cons] at hl
    rw [List.length_cons] at hi
    have ht30 : t < 2 ^ 30 := ht.trans (Nat.pow_lt_pow_right (by norm_num) (by omega))
    have hlow : t &&& 0x3FFFFFFF = t :=
      (Nat.and_two_pow_sub_one_eq_mod t 30).trans (Nat.mod_eq_of_lt ht30)
    have hnext : a >>> (30 - 2 * i) < 2 ^ (2 * (i + 1)) := by
      rw [Nat.shiftRight_eq_div_pow, Nat.div_lt_iff_lt_mul (by positivity), ← pow_add]
      exact hl.1.trans_eq (congrArg _ (by omega))
    rw [fromWordsLoop, bnReadBeLoop, fromWordsLoop_eq (by omega) hnext hl.2,
      Nat.and_or_distrib_right, hlow, Nat.lor_comm]
    rfl

theorem fromWords_limbs (hv : v < 2 ^ 256) : fromWords (limbs (2 ^ 32) 8 v) = ofNat v := by
  have hmem : ∀ x ∈ limbs (2 ^ 32) 8 v, x < 2 ^ 32 := lt_of_mem_limbs (by norm_num)
  have hloop : fromWordsLoop 0 0 (limbs (2 ^ 32) 8 v) = limbs (2 ^ 30) 9 v := by
    have hlen : 0 + (limbs (2 ^ 32) 8 v).length = 8 := by rw [length_limbs]
    rw [fromWordsLoop_eq hlen (by norm_num) hmem, bnReadBeLoop_eq hlen (by norm_num) hmem,
      value_limbs_of_lt (hv.trans_eq (by norm_num)), length_limbs]
    simp
  refine ext_limb fun i hi => ?_
  rw [fromWords, limb_ofFn hi, hloop, limb, ofNat]

/-! ## The registers -/

/-- The base of the words. -/
def radix : ℕ := 2 ^ 32

theorem radix_pos : 0 < radix := by norm_num [radix]
theorem radix_pow_pos : 0 < radix ^ i := Nat.pow_pos radix_pos
theorem radix_pow_eight : radix ^ 8 = 2 ^ 256 := by norm_num [radix]

/-- `c` holds `u` in its first `len1` words and `s` in the others, from the end. -/
structure Combo.Holds (c : Combo) (u s : ℕ) : Prop where
  len1 : c.len1 ≤ 8
  u_lt : u < radix ^ c.len1
  s_lt : s < radix ^ (9 - c.len1)
  first : ∀ i < c.len1, c.a.limb i = u / radix ^ i % radix
  second : ∀ i < 9 - c.len1, c.a.limb (8 - i) = s / radix ^ i % radix

/-- The first part has no leading zero. -/
structure Combo.Tight (c : Combo) (u s : ℕ) : Prop extends c.Holds u s where
  pos : 0 < c.len1
  le_u : radix ^ (c.len1 - 1) ≤ u

theorem Combo.Tight.u_pos (h : c.Tight u s) : 0 < u := radix_pow_pos.trans_le h.le_u

/-- There is room for any second part whose product with the first is small. -/
theorem Combo.lt_of_mul_le {len : ℕ} (hlen : 0 < len) (hlen8 : len ≤ 8)
    (hu : radix ^ (len - 1) ≤ u) (hm : m < 2 ^ 256) (h : u * s ≤ m) : s < radix ^ (9 - len) := by
  have hpow : radix ^ (len - 1) * radix ^ (9 - len) = 2 ^ 256 := by
    rw [← pow_add, show len - 1 + (9 - len) = 8 by omega, radix_pow_eight]
  by_contra hcon
  have hmul := Nat.mul_le_mul hu (not_lt.1 hcon)
  omega

theorem and_one_mod_radix : (a % radix &&& 1 == 1) = decide (a % 2 = 1) := by
  rw [Nat.and_one_is_mod, Nat.mod_mod_of_dvd _ (by norm_num [radix])]
  rfl

theorem Combo.Holds.odd0 (h : c.Holds u s) (hpos : 0 < c.len1) : c.odd0 = decide (u % 2 = 1) := by
  rw [Combo.odd0, h.first 0 hpos, pow_zero, Nat.div_one, and_one_mod_radix]

theorem Combo.Holds.odd8 (h : c.Holds u s) : c.odd8 = decide (s % 2 = 1) := by
  have hlen := h.len1
  have hsecond := h.second 0 (by omega)
  rw [pow_zero, Nat.div_one, Nat.sub_zero] at hsecond
  rw [Combo.odd8, hsecond, and_one_mod_radix]

/-! ## The reduction of `even` -/

theorem adjustLength_eq : ∀ {len : ℕ}, Combo.Holds ⟨a', len⟩ u s → 0 < u →
    ∃ len', adjustLength a' len = some len' ∧ Combo.Tight ⟨a', len'⟩ u s
  | 0, h, hu => by
    have hlt := h.u_lt
    simp only [pow_zero] at hlt
    omega
  | len + 1, h, hu => by
    have hlen : len + 1 ≤ 8 := h.len1
    have hult : u < radix ^ len * radix := by
      rw [← pow_succ]
      exact h.u_lt
    have htop : a'.limb len = u / radix ^ len := by
      have hfirst := h.first len (Nat.lt_succ_self len)
      rwa [Nat.mod_eq_of_lt (Nat.div_lt_of_lt_mul hult)] at hfirst
    rw [adjustLength, htop]
    by_cases hzero : u / radix ^ len = 0
    · -- the word that is dropped is the new top word of the second part
      have hult' : u < radix ^ len :=
        (Nat.div_eq_zero_iff.1 hzero).resolve_left radix_pow_pos.ne'
      have hs : s < radix ^ (8 - len) := by
        have hlt := h.s_lt
        rwa [show 9 - (len + 1) = 8 - len by omega] at hlt
      have hsecond : ∀ i < 9 - len, a'.limb (8 - i) = s / radix ^ i % radix := by
        intro i hi
        rcases Nat.lt_or_ge i (9 - (len + 1)) with hlt | hge
        · exact h.second i hlt
        · obtain rfl : i = 8 - len := by omega
          rw [show 8 - (8 - len) = len by omega, Nat.div_eq_of_lt hs, Nat.zero_mod]
          exact htop.trans hzero
      have hslt : s < radix ^ (9 - len) :=
        hs.trans_le (Nat.pow_le_pow_right radix_pos (by omega))
      rw [if_pos hzero]
      exact adjustLength_eq ⟨Nat.le_of_succ_le hlen, hult', hslt,
        fun i hi => h.first i (Nat.lt_succ_of_lt hi), hsecond⟩ hu
    · rw [if_neg hzero]
      refine ⟨len + 1, rfl, h, Nat.succ_pos len, ?_⟩
      exact (Nat.one_le_div_iff radix_pow_pos).1 (Nat.pos_of_ne_zero hzero)

/-- A shift by a word. -/
theorem Combo.Tight.shiftWord (h : c.Tight (radix * u) s) : c.shiftWord.Tight u (radix * s) := by
  have hlen := h.len1
  have hlt := h.u_lt
  have hle := h.le_u
  have hpos := h.u_pos
  have hslt := h.s_lt
  have hu : 0 < u := Nat.pos_of_mul_pos_left hpos
  obtain ⟨len, hlen2⟩ : ∃ len, c.len1 = len + 2 := by
    refine ⟨c.len1 - 2, ?_⟩
    have hpos := h.pos
    by_contra hcon
    obtain h1 : c.len1 = 1 := by omega
    rw [h1, pow_one] at hlt
    exact absurd hlt (not_lt.2 (Nat.le_mul_of_pos_right _ hu))
  have hnew : c.shiftWord.len1 = len + 1 := by
    rw [Combo.shiftWord, hlen2]
    rfl
  rw [hlen2] at hlt hle hslt
  refine ⟨⟨by omega, ?_, ?_, ?_, ?_⟩, by omega, ?_⟩
  · rw [hnew]
    rw [pow_succ'] at hlt
    exact Nat.lt_of_mul_lt_mul_left hlt
  · rw [hnew, show 9 - (len + 1) = 9 - (len + 2) + 1 by omega, pow_succ']
    exact Nat.mul_lt_mul_of_pos_left hslt radix_pos
  · intro i hi
    rw [hnew] at hi
    have hfirst := h.first (i + 1) (by omega)
    rw [Combo.shiftWord, limb_ofFn (by omega), if_pos (by omega), hfirst, pow_succ',
      Nat.mul_div_mul_left _ _ radix_pos]
  · intro i hi
    rw [hnew] at hi
    rw [Combo.shiftWord, limb_ofFn (by omega)]
    cases i with
    | zero => simp
    | succ i =>
      have hsecond := h.second i (by omega)
      rw [if_pos (by omega), show 8 - (i + 1) + 1 = 8 - i by omega, hsecond, pow_succ',
        Nat.mul_div_mul_left _ _ radix_pos]
  · rw [hnew, Nat.add_sub_cancel]
    rw [show len + 2 - 1 = len + 1 by omega, pow_succ'] at hle
    exact Nat.le_of_mul_le_mul_left hle radix_pos

/-- Only words that are zero are shifted out. -/
theorem Combo.Tight.shiftWords : ∀ {rounds : ℕ} {c : Combo} {u s k : ℕ}, c.Tight u s →
    c.len1 ≤ rounds → ∃ t u' c', c.shiftWords rounds k = some (c', k + 32 * t) ∧
      u = 2 ^ (32 * t) * u' ∧ u' % radix ≠ 0 ∧ c'.Tight u' (2 ^ (32 * t) * s)
  | 0, c, _, _, _, h, hr => by
    have hpos := h.pos
    omega
  | rounds + 1, c, u, s, k, h, hr => by
    have hlow := h.first 0 h.pos
    rw [pow_zero, Nat.div_one] at hlow
    rw [Combo.shiftWords, hlow]
    by_cases hzero : u % radix = 0
    · obtain ⟨u', rfl⟩ := Nat.dvd_of_mod_eq_zero hzero
      have hlen : c.shiftWord.len1 ≤ rounds := by
        have hpos := h.pos
        have hnew : c.shiftWord.len1 = c.len1 - 1 := rfl
        omega
      have hpow : ∀ {t : ℕ}, 2 ^ (32 * (t + 1)) = 2 ^ (32 * t) * radix := fun {t} => by
        rw [mul_add_one, pow_add]
        rfl
      obtain ⟨t, u'', c', heq, rfl, hne, hc'⟩ := h.shiftWord.shiftWords (k := k + 32) hlen
      refine ⟨t + 1, u'', c', ?_, ?_, hne, ?_⟩
      · rw [if_pos hzero, heq]
        exact congrArg (fun k => some (c', k)) (by ring)
      · rw [hpow]
        ring
      · rwa [hpow, mul_assoc]
    · refine ⟨0, u, c, if_neg hzero, ?_, hzero, ?_⟩
      · rw [mul_zero, pow_zero, one_mul]
      · rwa [mul_zero, pow_zero, one_mul]

/-- The number of zero bits below the lowest bit that is set. -/
theorem zeroBits_spec (h : u % radix ≠ 0) :
    zeroBits (u % radix) < 32 ∧ ∃ u', u = 2 ^ zeroBits (u % radix) * u' ∧ u' % 2 = 1 := by
  have hbit : ∀ j < 32, (u % radix &&& 1 <<< j != 0) = u.testBit j := by
    intro j hj
    rw [Nat.one_shiftLeft, Nat.and_two_pow, radix, Nat.testBit_mod_two_pow, decide_eq_true hj,
      Bool.true_and]
    cases u.testBit j <;> simp
  obtain ⟨i, hi⟩ := Nat.exists_testBit_of_ne_zero h
  rw [radix, Nat.testBit_mod_two_pow, Bool.and_eq_true, decide_eq_true_eq] at hi
  have hlt : zeroBits (u % radix) < 32 := by
    have hexists : ∃ j ∈ List.range 32, u % radix &&& 1 <<< j != 0 :=
      ⟨i, List.mem_range.2 hi.1, by rw [hbit i hi.1, hi.2]⟩
    exact (List.findIdx_lt_length_of_exists hexists).trans_eq List.length_range
  have hset : u.testBit (zeroBits (u % radix)) = true := by
    rw [← hbit _ hlt]
    have hlen : (List.range 32).findIdx (fun j => u % radix &&& 1 <<< j != 0) <
        (List.range 32).length := hlt.trans_eq List.length_range.symm
    have hget := List.findIdx_getElem (w := hlen)
    rwa [List.getElem_range] at hget
  have hclear : ∀ i < zeroBits (u % radix), u.testBit i = false := by
    intro i hi
    rw [← hbit i (hi.trans hlt)]
    have hnot := List.not_of_lt_findIdx hi
    rwa [List.getElem_range] at hnot
  refine ⟨hlt, u / 2 ^ zeroBits (u % radix), ?_, ?_⟩
  · refine (Nat.mul_div_cancel' (Nat.dvd_of_mod_eq_zero ?_)).symm
    refine Nat.zero_of_testBit_eq_false fun i => ?_
    rw [Nat.testBit_mod_two_pow]
    by_cases hi : i < zeroBits (u % radix)
    · rw [hclear i hi, Bool.and_false]
    · rw [decide_eq_false hi, Bool.false_and]
  · rwa [Nat.testBit_eq_decide_div_mod_eq, decide_eq_true_eq] at hset

theorem shift_radix (hj : j ≤ 32) :
    (x % radix) >>> j ||| word ((x / radix % radix) <<< (32 - j) : ℕ) = x / 2 ^ j % radix :=
  shift_word hj

section
variable {len : ℕ} (h : c.Tight (2 ^ j * u) s) (hlen : c.len1 = len + 1)
include h hlen

/-- What is left of the top word. -/
theorem Combo.Tight.shiftBits_top : c.a.limb len >>> j = u / radix ^ len := by
  have hult := h.u_lt
  rw [hlen] at hult
  have hdiv : 2 ^ j * u / radix ^ len < radix := by
    refine Nat.div_lt_of_lt_mul ?_
    rwa [← pow_succ]
  rw [h.first len (by omega), Nat.mod_eq_of_lt hdiv, Nat.shiftRight_eq_div_pow, Nat.div_right_comm,
    Nat.mul_div_cancel_left _ (Nat.two_pow_pos j)]

theorem Combo.Tight.shiftBits_len1 :
    (c.shiftBits j).len1 = if u / radix ^ len = 0 then len else len + 1 := by
  simp only [Combo.shiftBits, hlen, Nat.add_sub_cancel, h.shiftBits_top hlen]

theorem Combo.Tight.shiftBits_limb (hi : i < 9) : (c.shiftBits j).a.limb i =
    if i < len then c.a.limb i >>> j ||| word ((c.a.limb (i + 1) <<< (32 - j) : ℕ))
    else if i < (c.shiftBits j).len1 then u / radix ^ len
    else word (((if i = len then u / radix ^ len else c.a.limb i) <<< j : ℕ)) |||
      if i < 8 then c.a.limb (i + 1) >>> (32 - j) else 0 := by
  simp only [Combo.shiftBits, limb_ofFn hi, hlen, Nat.add_sub_cancel, h.shiftBits_top hlen,
    Nat.add_lt_add_iff_right, Nat.add_right_cancel_iff]

/-- The first part has no leading zero again. -/
theorem Combo.Tight.shiftBits_bounds (hj : j < 32) (hu : 0 < u) : 0 < (c.shiftBits j).len1 ∧
    radix ^ ((c.shiftBits j).len1 - 1) ≤ u ∧ u < radix ^ (c.shiftBits j).len1 := by
  have h2j : 0 < 2 ^ j := Nat.two_pow_pos j
  have hult := h.u_lt
  have hge := h.le_u
  rw [hlen] at hult hge
  rw [Nat.add_sub_cancel] at hge
  rw [h.shiftBits_len1 hlen]
  split
  · next hzero =>
    have hult' : u < radix ^ len :=
      (Nat.div_eq_zero_iff.1 hzero).resolve_left radix_pow_pos.ne'
    obtain ⟨l, rfl⟩ : ∃ l, len = l + 1 := by
      refine ⟨len - 1, ?_⟩
      rcases Nat.eq_zero_or_pos len with rfl | hl
      · rw [pow_zero] at hult'
        omega
      · omega
    refine ⟨Nat.succ_pos l, ?_, hult'⟩
    rw [Nat.add_sub_cancel]
    have hrad : 2 ^ j * radix ^ l ≤ radix ^ (l + 1) := by
      rw [pow_succ']
      exact Nat.mul_le_mul_right _ (Nat.pow_le_pow_right (by norm_num) hj.le)
    exact Nat.le_of_mul_le_mul_left (hrad.trans hge) h2j
  · next hzero =>
    refine ⟨Nat.succ_pos len, ?_, (Nat.le_mul_of_pos_left u h2j).trans_lt hult⟩
    rw [Nat.add_sub_cancel]
    exact (Nat.one_le_div_iff radix_pow_pos).1 (Nat.pos_of_ne_zero hzero)

theorem Combo.Tight.shiftBits_first (hj : j ≤ 32) (hi : i < (c.shiftBits j).len1) :
    (c.shiftBits j).a.limb i = u / radix ^ i % radix := by
  have hlen8 := h.len1
  have hult := h.u_lt
  rw [hlen] at hult hlen8
  have hnew : (c.shiftBits j).len1 ≤ len + 1 := by
    rw [h.shiftBits_len1 hlen]
    split <;> omega
  rw [h.shiftBits_limb hlen (by omega)]
  rcases Nat.lt_or_ge i len with hilen | hilen
  · rw [if_pos hilen, h.first i (by omega), h.first (i + 1) (by omega), pow_succ,
      ← Nat.div_div_eq_div_mul, shift_radix hj, Nat.div_right_comm,
      Nat.mul_div_cancel_left _ (Nat.two_pow_pos j)]
  · obtain rfl : i = len := by omega
    rw [if_neg (lt_irrefl i), if_pos hi, Nat.mod_eq_of_lt]
    refine Nat.div_lt_of_lt_mul ?_
    rw [← pow_succ]
    exact (Nat.le_mul_of_pos_left u (Nat.two_pow_pos j)).trans_lt hult

/-- The old word of the second part, also where the top word has changed sides. -/
theorem Combo.Tight.shiftBits_old (hi : i < 9 - (c.shiftBits j).len1) :
    (if 8 - i = len then u / radix ^ len else c.a.limb (8 - i)) = s / radix ^ i % radix := by
  have hlen8 := h.len1
  have hslt := h.s_lt
  rw [hlen] at hslt hlen8
  rw [h.shiftBits_len1 hlen] at hi
  split
  · next heq =>
    have hzero : u / radix ^ len = 0 := by
      by_contra hne
      rw [if_neg hne] at hi
      omega
    have hs0 : s / radix ^ i = 0 := by
      refine Nat.div_eq_of_lt (hslt.trans_eq ?_)
      congr 1
      omega
    rw [hzero, hs0, Nat.zero_mod]
  · refine h.second i ?_
    split at hi <;> omega

theorem Combo.Tight.shiftBits_second (hj : j ≤ 32) (hi : i < 9 - (c.shiftBits j).len1) :
    (c.shiftBits j).a.limb (8 - i) = 2 ^ j * s / radix ^ i % radix := by
  have hlen8 := h.len1
  rw [hlen] at hlen8
  have hge : len ≤ 8 - i := by
    rw [h.shiftBits_len1 hlen] at hi
    split at hi <;> omega
  rw [h.shiftBits_limb hlen (by omega), if_neg (by omega), if_neg (by omega),
    h.shiftBits_old hlen hi]
  cases i with
  | zero =>
    rw [if_neg (by omega), Nat.or_zero, word_natCast, pow_zero, Nat.div_one, Nat.div_one,
      Nat.shiftLeft_eq, mul_comm (2 ^ j)]
    exact Nat.mod_mul_mod _ _ _
  | succ i =>
    have hpow : radix = 2 ^ j * 2 ^ (32 - j) := by
      rw [← pow_add, Nat.add_sub_cancel' hj]
      rfl
    have hshift := shift_radix (x := s / radix ^ i) (Nat.sub_le 32 j)
    have hnext : 8 - (i + 1) + 1 = 8 - i := by omega
    have hdigit : 2 ^ j * s / radix ^ (i + 1) = s / radix ^ i / 2 ^ (32 - j) := by
      have hpow' : radix ^ (i + 1) = 2 ^ j * (radix ^ i * 2 ^ (32 - j)) := by
        rw [pow_succ, mul_left_comm, ← hpow]
      rw [hpow', Nat.mul_div_mul_left _ _ (Nat.two_pow_pos j), Nat.div_div_eq_div_mul]
    rw [Nat.sub_sub_self hj] at hshift
    rw [if_pos (by omega), hnext, h.second i (by omega), hdigit, ← hshift, Nat.lor_comm, pow_succ,
      ← Nat.div_div_eq_div_mul]

end

/-- A shift by bits. -/
theorem Combo.Tight.shiftBits (h : c.Tight (2 ^ j * u) s) (hj : j < 32) (hu : 0 < u)
    (hm : m < 2 ^ 256) (hle : u * (2 ^ j * s) ≤ m) : (c.shiftBits j).Tight u (2 ^ j * s) := by
  have hpos := h.pos
  have hlen8 := h.len1
  obtain ⟨len, hlen⟩ : ∃ len, c.len1 = len + 1 := ⟨c.len1 - 1, by omega⟩
  have hnew : (c.shiftBits j).len1 ≤ 8 := by
    rw [h.shiftBits_len1 hlen]
    split <;> omega
  obtain ⟨hpos', hge, hlt⟩ := h.shiftBits_bounds hlen hj hu
  refine ⟨⟨hnew, hlt, Combo.lt_of_mul_le hpos' hnew hge hm hle, ?_, ?_⟩, hpos', hge⟩
  · exact fun i => h.shiftBits_first hlen hj.le
  · exact fun i => h.shiftBits_second hlen hj.le

/-- **The reduction of `even`** divides by the power of two in it. -/
theorem reduceEven_eq (h : c.Holds u s) (hu : 0 < u) (hm : m < 2 ^ 256) (hle : u * s ≤ m) :
    ∃ J u' c', reduceEven c k = some (c', k + J) ∧ u = 2 ^ J * u' ∧ u' % 2 = 1 ∧
      c'.Tight u' (2 ^ J * s) := by
  have hc : Combo.Holds ⟨c.a, c.len1⟩ u s := h
  obtain ⟨len, hadjust, htight⟩ := adjustLength_eq hc hu
  have hlen : len ≤ 9 := htight.len1.trans (by norm_num)
  obtain ⟨t, u', c', hwords, rfl, hne, hc'⟩ := htight.shiftWords (k := k) hlen
  have hlow := hc'.first 0 hc'.pos
  rw [pow_zero, Nat.div_one] at hlow
  obtain ⟨hbits, u'', hu'', hodd⟩ := zeroBits_spec hne
  simp only [reduceEven, hadjust, hwords, Option.bind_eq_bind, Option.bind_some, hlow]
  generalize zeroBits (u' % radix) = j at hbits hu''
  subst hu''
  rcases Nat.eq_zero_or_pos j with rfl | hj
  · refine ⟨32 * t, u'', c', rfl, ?_, hodd, ?_⟩
    · rw [pow_zero, one_mul]
    · rwa [pow_zero, one_mul] at hc'
  · have hpos : 0 < u'' := Nat.pos_of_ne_zero (by rintro rfl; omega)
    have hpow : 2 ^ (32 * t + j) = 2 ^ j * 2 ^ (32 * t) := by rw [pow_add, mul_comm]
    have hle' : u'' * (2 ^ j * (2 ^ (32 * t) * s)) ≤ m := by
      refine le_trans (le_of_eq ?_) hle
      ring
    refine ⟨32 * t + j, u'', c'.shiftBits j, ?_, ?_, hodd, ?_⟩
    · rw [if_pos hj, add_assoc]
      rfl
    · rw [hpow]
      ring
    · rw [hpow, mul_assoc]
      exact hc'.shiftBits hbits hpos hm hle'

/-! ## The comparison -/

theorem compareWords_eq {us vr : Bignum256} : ∀ {len : ℕ},
    (∀ i < len, us.limb i = u / radix ^ i % radix) →
    (∀ i < len, vr.limb i = v / radix ^ i % radix) →
    (compareWords us vr len = 0 ↔ u % radix ^ len = v % radix ^ len) ∧
      (0 < compareWords us vr len ↔ v % radix ^ len < u % radix ^ len)
  | 0, _, _ => by simp [compareWords, Nat.mod_one]
  | len + 1, hus, hvr => by
    obtain ⟨hzero, hpos⟩ := compareWords_eq (fun i hi => hus i (Nat.lt_succ_of_lt hi))
      fun i hi => hvr i (Nat.lt_succ_of_lt hi)
    have hu := Nat.mod_lt u (radix_pow_pos (i := len))
    have hv := Nat.mod_lt v (radix_pow_pos (i := len))
    have hdigit : ∀ {x y : ℕ}, x < y → radix ^ len * x + radix ^ len ≤ radix ^ len * y :=
      fun h => (Nat.mul_succ _ _).symm.trans_le (Nat.mul_le_mul_left _ h)
    rw [compareWords, hus len (Nat.lt_succ_self len), hvr len (Nat.lt_succ_self len),
      Nat.mod_pow_succ, Nat.mod_pow_succ]
    generalize u / radix ^ len % radix = x
    generalize v / radix ^ len % radix = y
    generalize u % radix ^ len = p at hu hzero hpos ⊢
    generalize v % radix ^ len = q at hv hzero hpos ⊢
    rcases lt_trichotomy x y with h | rfl | h
    · have hxy := hdigit h
      rw [if_neg h.ne, if_neg (not_lt.2 h.le)]
      refine ⟨iff_of_false (by decide) ?_, iff_of_false (by decide) ?_⟩ <;> omega
    · rw [if_pos rfl, hzero, hpos]
      refine ⟨?_, ?_⟩ <;> omega
    · have hxy := hdigit h
      rw [if_neg h.ne', if_pos h]
      refine ⟨iff_of_false (by decide) ?_, iff_of_true (by decide) ?_⟩ <;> omega

theorem Combo.Tight.compare (hc : c.Tight u s) (hd : d.Tight v r) :
    (c.compare d = 0 ↔ u = v) ∧ (0 < c.compare d ↔ v < u) := by
  have hcpos := hc.pos
  have hdpos := hd.pos
  rw [Combo.compare]
  rcases lt_trichotomy c.len1 d.len1 with h | h | h
  · have hlt : u < v := hc.u_lt.trans_le
      ((Nat.pow_le_pow_right radix_pos (by omega)).trans hd.le_u)
    rw [if_neg h.ne]
    refine ⟨iff_of_false ?_ hlt.ne, iff_of_false ?_ hlt.not_gt⟩ <;> omega
  · have hwords := compareWords_eq hc.first (h ▸ hd.first)
    rw [if_pos h]
    rwa [Nat.mod_eq_of_lt hc.u_lt, Nat.mod_eq_of_lt (h ▸ hd.u_lt)] at hwords
  · have hlt : v < u := hd.u_lt.trans_le
      ((Nat.pow_le_pow_right radix_pos (by omega)).trans hc.le_u)
    rw [if_neg h.ne']
    refine ⟨iff_of_false ?_ hlt.ne', iff_of_true ?_ hlt⟩ <;> omega

/-- The number with fewer words is the smaller one. -/
theorem Combo.Tight.len1_le (hc : c.Tight u s) (hd : d.Tight v r) (h : u ≤ v) :
    c.len1 ≤ d.len1 := by
  have hcpos := hc.pos
  by_contra hcon
  have hlt : v < u := hd.u_lt.trans_le
    ((Nat.pow_le_pow_right radix_pos (by omega)).trans hc.le_u)
  omega

/-! ## The subtraction -/

/-- The two stretches of a loop. -/
theorem map_range_append {α : Type*} {f g h : ℕ → α} {p q : ℕ} (hpq : p ≤ q) (hf : ∀ i < p, f i = h i)
    (hg : ∀ i, p ≤ i → i < q → g i = h i) :
    (List.range p).map f ++ (List.range' p (q - p)).map g = (List.range q).map h := by
  have hsplit : List.range q = List.range p ++ List.range' p (q - p) := by
    have happend := List.range'_append_1 (s := 0) (m := p) (n := q - p)
    rw [zero_add, Nat.add_sub_cancel' hpq] at happend
    rw [List.range_eq_range', List.range_eq_range', happend]
  rw [hsplit, List.map_append]
  refine congrArg₂ (· ++ ·) (List.map_congr_left fun i hi => hf i (List.mem_range.1 hi))
    (List.map_congr_left fun i hi => ?_)
  have hmem := List.mem_range'_1.1 hi
  exact hg i hmem.1 (by omega)

/-- The sum of the digits of a number. -/
theorem valueZ_digits {len : ℕ} (hu : u < radix ^ len) :
    valueZ radix ((List.range len).map fun i => ((u / radix ^ i % radix : ℕ) : ℤ)) = u := by
  have hdigits := valueZ_limbs hu
  rw [← hdigits]
  refine congrArg (valueZ _) (List.map_congr_left fun i hi => ?_)
  rw [getD_limbs (List.mem_range.1 hi)]

theorem valueZ_ones {len : ℕ} :
    valueZ radix ((List.range len).map fun _ => (0xFFFFFFFF : ℤ)) = (radix : ℤ) ^ len - 1 := by
  induction len with
  | zero => rfl
  | succ len ih =>
    rw [List.range_succ_eq_map, List.map_cons, List.map_map, valueZ_cons]
    have hcomp : (fun _ : ℕ => (0xFFFFFFFF : ℤ)) ∘ Nat.succ = fun _ => 0xFFFFFFFF := rfl
    rw [hcomp, ih, pow_succ]
    have hradix : (radix : ℤ) = 0xFFFFFFFF + 1 := rfl
    rw [hradix]
    ring

theorem digit_lt : u / radix ^ i % radix < 2 ^ 32 := Nat.mod_lt _ radix_pos

/-- The first part of `even` less that of `odd`. -/
theorem Combo.subtractFirst_holds (hc : c.Holds u s) (hd : d.Holds v r) (hle : u ≤ v)
    (hlen : c.len1 ≤ d.len1) : (Combo.subtractFirst W c d).Holds (v - u) r := by
  have hentries : ((List.range c.len1).map fun i =>
      0xFFFFFFFF + (d.a.limb i : ℤ) - c.a.limb i) ++
      (List.range' c.len1 (d.len1 - c.len1)).map (fun i => 0xFFFFFFFF + (d.a.limb i : ℤ)) =
        (List.range d.len1).map fun i => 0xFFFFFFFF + ((v / radix ^ i % radix : ℕ) : ℤ) -
          (u / radix ^ i % radix : ℕ) := by
    refine map_range_append hlen (fun i hi => ?_) fun i hi hi' => ?_
    · rw [hc.first i hi, hd.first i (hi.trans_le hlen)]
    · have hzero : u / radix ^ i = 0 :=
        Nat.div_eq_of_lt (hc.u_lt.trans_le (Nat.pow_le_pow_right radix_pos hi))
      rw [hd.first i hi', hzero, Nat.zero_mod, Nat.cast_zero, sub_zero]
  have hbound : ∀ e ∈ (List.range d.len1).map (fun i => 0xFFFFFFFF +
      ((v / radix ^ i % radix : ℕ) : ℤ) - (u / radix ^ i % radix : ℕ)),
        0 ≤ e ∧ e ≤ 2 ^ 64 - 2 ^ (64 - 32) := by
    intro e he
    obtain ⟨i, -, rfl⟩ := List.mem_map.1 he
    have h1 := digit_lt (u := u) (i := i)
    have h2 := digit_lt (u := v) (i := i)
    omega
  have hu : u < radix ^ d.len1 := hc.u_lt.trans_le (Nat.pow_le_pow_right radix_pos hlen)
  have hvalue : ((1 : ℕ) : ℤ) + valueZ radix ((List.range d.len1).map fun i => 0xFFFFFFFF +
      ((v / radix ^ i % radix : ℕ) : ℤ) - (u / radix ^ i % radix : ℕ)) =
        ((v - u + radix ^ d.len1 : ℕ) : ℤ) := by
    rw [valueZ_map_sub, valueZ_map_add, valueZ_ones, valueZ_digits hd.u_lt, valueZ_digits hu]
    push_cast [Nat.cast_sub hle]
    ring
  have hripple := ripple_eq (s := 32) (by norm_num) W.u64_eq (t := 1) (by norm_num) hbound
  have hdiff : ∀ i < d.len1, (limbs radix d.len1 (v - u + radix ^ d.len1)).getD i 0 =
      (v - u) / radix ^ i % radix := by
    intro i hi
    rw [limbs_congr radix_pos (Nat.add_mod_right _ _), getD_limbs hi]
  refine ⟨hd.len1, (Nat.sub_le _ _).trans_lt hd.u_lt, hd.s_lt, fun i hi => ?_, fun i hi => ?_⟩
  · have hi' : i < d.len1 := hi
    have hd8 := hd.len1
    rw [Combo.subtractFirst, limb_ofFn (by omega), max_eq_right hlen, if_pos hi', hentries]
    change (ripple 32 W.u64 1 _).1.getD i 0 = _
    rw [hripple]
    simp only [List.length_map, List.length_range]
    change (limbs radix d.len1 _).getD i 0 = _
    have hnat : (((1 : ℕ) : ℤ) + valueZ (2 ^ 32) ((List.range d.len1).map fun i => 0xFFFFFFFF +
        ((v / radix ^ i % radix : ℕ) : ℤ) - (u / radix ^ i % radix : ℕ))).toNat =
          v - u + radix ^ d.len1 := by
      change (((1 : ℕ) : ℤ) + valueZ radix _).toNat = _
      rw [hvalue, Int.toNat_natCast]
    rw [hnat, hdiff i hi']
  · have hd8 := hd.len1
    have hi' : i < 9 - d.len1 := hi
    rw [Combo.subtractFirst, limb_ofFn (by omega), max_eq_right hlen, if_neg (by omega)]
    exact hd.second i hi'

/-- The second part of `odd` plus that of `even`. -/
theorem Combo.addSecond_holds (hc : c.Holds u s) (hd : d.Holds v r) (hlen : c.len1 ≤ d.len1)
    (hlt : s + r < radix ^ (9 - c.len1)) : (Combo.addSecond W c d).Holds u (s + r) := by
  have hd8 := hd.len1
  have hcount : d.len1 - c.len1 = 9 - c.len1 - (9 - d.len1) := by omega
  have hentries : ((List.range (9 - d.len1)).map fun i =>
      (c.a.limb (8 - i) : ℤ) + d.a.limb (8 - i)) ++
      (List.range' (9 - d.len1) (d.len1 - c.len1)).map (fun i => (c.a.limb (8 - i) : ℤ)) =
        (List.range (9 - c.len1)).map fun i => ((s / radix ^ i % radix : ℕ) : ℤ) +
          (r / radix ^ i % radix : ℕ) := by
    rw [hcount]
    refine map_range_append (by omega) (fun i hi => ?_) fun i hi hi' => ?_
    · rw [hc.second i (by omega), hd.second i hi]
    · have hzero : r / radix ^ i = 0 :=
        Nat.div_eq_of_lt (hd.s_lt.trans_le (Nat.pow_le_pow_right radix_pos hi))
      rw [hc.second i hi', hzero, Nat.zero_mod, Nat.cast_zero, add_zero]
  have hbound : ∀ e ∈ (List.range (9 - c.len1)).map (fun i => ((s / radix ^ i % radix : ℕ) : ℤ) +
      (r / radix ^ i % radix : ℕ)), 0 ≤ e ∧ e ≤ 2 ^ 64 - 2 ^ (64 - 32) := by
    intro e he
    obtain ⟨i, -, rfl⟩ := List.mem_map.1 he
    have h1 := digit_lt (u := s) (i := i)
    have h2 := digit_lt (u := r) (i := i)
    omega
  have hvalue : ((0 : ℕ) : ℤ) + valueZ radix ((List.range (9 - c.len1)).map fun i =>
      ((s / radix ^ i % radix : ℕ) : ℤ) + (r / radix ^ i % radix : ℕ)) = ((s + r : ℕ) : ℤ) := by
    rw [valueZ_map_add, valueZ_digits hc.s_lt,
      valueZ_digits (hd.s_lt.trans_le (Nat.pow_le_pow_right radix_pos (by omega)))]
    push_cast
    ring
  have hripple := ripple_eq (s := 32) (by norm_num) W.u64_eq (t := 0) (by norm_num) hbound
  refine ⟨hc.len1, hc.u_lt, hlt, fun i hi => ?_, fun i hi => ?_⟩
  · have hi' : i < c.len1 := hi
    rw [Combo.addSecond, limb_ofFn (by omega), min_eq_left hlen, if_pos hi']
    exact hc.first i hi'
  · have hi' : i < 9 - c.len1 := hi
    rw [Combo.addSecond, limb_ofFn (by omega), min_eq_left hlen, if_neg (by omega), hentries,
      show 8 - (8 - i) = i by omega]
    change (ripple 32 W.u64 0 _).1.getD i 0 = _
    rw [hripple]
    simp only [List.length_map, List.length_range]
    change (limbs radix (9 - c.len1) _).getD i 0 = _
    have hnat : (((0 : ℕ) : ℤ) + valueZ (2 ^ 32) ((List.range (9 - c.len1)).map fun i =>
        ((s / radix ^ i % radix : ℕ) : ℤ) + (r / radix ^ i % radix : ℕ))).toNat = s + r := by
      change (((0 : ℕ) : ℤ) + valueZ radix _).toNat = _
      rw [hvalue, Int.toNat_natCast]
    rw [hnat, getD_limbs hi']

/-! ## The main loop -/

/-- The registers between two rounds; the numbers are those of `odd` and `even`. -/
structure Between (m x : ℕ) (e : ZMod m) (k u s v r : ℕ) (odd even : Combo) : Prop where
  almost : Almost m x e k u s v r
  odd : odd.Tight u s
  even : even.Holds v r
  odd_u : u % 2 = 1
  odd_s : s % 2 = 1
  even_v : v % 2 = 0 ∨ r % 2 = 0

/-- The registers after the reduction of `even`. -/
structure Reduced (m x : ℕ) (e : ZMod m) (k u s v r : ℕ) (odd even : Combo) : Prop where
  almost : Almost m x e k u s v r
  odd : odd.Tight u s
  even : even.Tight v r
  odd_u : u % 2 = 1
  odd_v : v % 2 = 1
  sum : (s + r) % 2 = 1

theorem Reduced.swap {e : ZMod m} (h : Reduced m x e k u s v r c d) :
    Reduced m x (-e) k v r u s d c :=
  ⟨h.almost.swap, h.even, h.odd, h.odd_v, h.odd_u, by rw [add_comm, h.sum]⟩

theorem Between.reduce {e : ZMod m} (hm : m < 2 ^ 256) (h : Between m x e k u s v r c d) :
    ∃ J v' d', reduceEven d k = some (d', k + J) ∧ v = 2 ^ J * v' ∧
      Reduced m x e (k + J) u s v' (2 ^ J * r) c d' ∧ 2 ^ J * r % 2 = 0 := by
  obtain ⟨J, v', d', heq, rfl, hodd, hd'⟩ := reduceEven_eq (k := k) h.even h.almost.pos_v hm
    h.almost.mul_le_right
  have hr : 2 ^ J * r % 2 = 0 := by
    cases J with
    | zero =>
      have heven := h.even_v
      rw [pow_zero, one_mul] at heven ⊢
      omega
    | succ J =>
      rw [pow_succ', mul_assoc]
      omega
  refine ⟨J, v', d', heq, rfl, ⟨h.almost.halve, h.odd, hd', h.odd_u, hodd, ?_⟩, hr⟩
  have hs := h.odd_s
  omega

theorem Reduced.subtract {e : ZMod m} (hm : m < 2 ^ 256) (h : Reduced m x e k u s v r c d)
    (hlt : u < v) : Between m x e k u (s + r) (v - u) r
      (Combo.addSecond W c (Combo.subtractFirst W c d)) (Combo.subtractFirst W c d) := by
  have hlen := h.odd.len1_le h.even hlt.le
  have hsub := Combo.subtractFirst_holds (W := W) h.odd.toHolds h.even.toHolds hlt.le hlen
  have halmost := h.almost.subtract hlt
  have hroom := Combo.lt_of_mul_le h.odd.pos h.odd.len1 h.odd.le_u hm halmost.mul_le_left
  have hadd := Combo.addSecond_holds (W := W) h.odd.toHolds hsub hlen hroom
  have hu := h.odd_u
  have hv := h.odd_v
  exact ⟨halmost, ⟨hadd, h.odd.pos, h.odd.le_u⟩, hsub, hu, h.sum, Or.inl (by omega)⟩

@[simp] theorem arrange_arrange {b : Bool} :
    arrange b (arrange b c d).1 (arrange b c d).2 = (c, d) := by
  cases b <;> rfl

/-- The sign of `us` when `even` points to `vr` or not. -/
def side (m : ℕ) (evenIsVr : Bool) : ZMod m := if evenIsVr then 1 else -1

/-- The registers of the C code at the head of a round; `v` is the number of `even`. -/
def AtHead (m x k : ℕ) (us vr : Combo) (evenIsVr : Bool) (v : ℕ) : Prop :=
  ∃ u s r, Between m x (side m evenIsVr) k u s v r (arrange evenIsVr us vr).1
    (arrange evenIsVr us vr).2

theorem reduceRound_eq {us vr : Combo} {b : Bool} (hm : m < 2 ^ 256) (h : AtHead m x k us vr b v) :
    ∃ J us' vr' u s v' r, reduceRound us vr b k = some (us', vr', k + J) ∧ (v % 2 = 0 → 0 < J) ∧
      Reduced m x 1 (k + J) u s v' r us' vr' := by
  obtain ⟨u, s, r, h⟩ := h
  obtain ⟨J, v', d', heq, rfl, hred, hr⟩ := h.reduce hm
  have hodd0 : (arrange b us vr).1.odd0 = true := by
    rw [h.odd.odd0 h.odd.pos, decide_eq_true h.odd_u]
  have hodd8 : (arrange b us vr).1.odd8 = true := by
    rw [h.odd.odd8, decide_eq_true h.odd_s]
  have heven0 : d'.odd0 = true := by
    rw [hred.even.odd0 hred.even.pos, decide_eq_true hred.odd_v]
  have heven8 : d'.odd8 = false := by
    rw [hred.even.odd8, hr]
    rfl
  have hJ : 2 ^ J * v' % 2 = 0 → 0 < J := by
    intro hzero
    have hv' := hred.odd_v
    rcases Nat.eq_zero_or_pos J with rfl | hpos
    · rw [pow_zero, one_mul] at hzero
      omega
    · exact hpos
  have hround : reduceRound us vr b k = some ((arrange b (arrange b us vr).1 d').1,
      (arrange b (arrange b us vr).1 d').2, k + J) := by
    simp only [reduceRound, hodd0, hodd8, heq, heven0, heven8, Bool.and_self, Bool.not_true,
      Bool.not_false, Bool.false_eq_true, if_false, Option.bind_eq_bind, Option.bind_some]
    rfl
  cases b with
  | true => exact ⟨J, _, _, u, s, v', _, hround, hJ, hred⟩
  | false =>
    have hswap := hred.swap
    rw [side, if_neg Bool.false_ne_true, neg_neg] at hswap
    exact ⟨J, _, _, v', _, u, s, hround, hJ, hswap⟩

theorem subtractRound_eq {us vr : Combo} {cmp : ℤ} (hm : m < 2 ^ 256)
    (h : Reduced m x 1 k u s v r us vr) (hzero : cmp = 0 ↔ u = v) (hpos : 0 < cmp ↔ v < u)
    (hne : cmp ≠ 0) :
    ∃ us' vr' b v', subtractRound W us vr cmp = some (us', vr', b) ∧ AtHead m x k us' vr' b v' ∧
      v' % 2 = 0 := by
  -- the registers in the order of the comparison
  obtain ⟨b, hb⟩ : ∃ b, (!decide (cmp > 0)) = b := ⟨_, rfl⟩
  have hordered : ∃ u s v r, Reduced m x (side m b) k u s v r (arrange b us vr).1
      (arrange b us vr).2 ∧ u < v := by
    by_cases hcmp : 0 < cmp
    · obtain rfl : b = false := by rw [← hb, decide_eq_true hcmp, Bool.not_true]
      refine ⟨v, r, u, s, ?_, hpos.1 hcmp⟩
      rw [side, if_neg Bool.false_ne_true]
      exact h.swap
    · obtain rfl : b = true := by rw [← hb, decide_eq_false hcmp, Bool.not_false]
      refine ⟨u, s, v, r, h, ?_⟩
      have hne' : u ≠ v := fun heq => hne (hzero.2 heq)
      exact (not_lt.1 (mt hpos.2 hcmp)).lt_of_ne hne'
  obtain ⟨u', s', v', r', hred, hlt⟩ := hordered
  have hbetween := hred.subtract (W := W) hm hlt
  obtain ⟨even, heq⟩ : ∃ even, Combo.subtractFirst W (arrange b us vr).1 (arrange b us vr).2 =
    even := ⟨_, rfl⟩
  obtain ⟨odd, hoq⟩ : ∃ odd, Combo.addSecond W (arrange b us vr).1 even = odd := ⟨_, rfl⟩
  have hpos' : 0 < even.len1 := by
    rw [← heq]
    exact hred.even.pos
  rw [heq, hoq] at hbetween
  have hodd0 := hbetween.odd.odd0 hbetween.odd.pos
  have hodd8 := hbetween.odd.odd8
  have heven0 := hbetween.even.odd0 hpos'
  have hodd_u := hred.odd_u
  have hodd_v := hred.odd_v
  have heven : (v' - u') % 2 = 0 := by omega
  rw [decide_eq_true hbetween.odd_u] at hodd0
  rw [decide_eq_true hbetween.odd_s] at hodd8
  rw [decide_eq_false (by omega)] at heven0
  have hround : subtractRound W us vr cmp = some ((arrange b odd even).1, (arrange b odd even).2, b) := by
    simp only [subtractRound, hb, heq, hoq, hodd0, hodd8, heven0, Bool.and_self, Bool.not_true,
      Bool.not_false, Bool.false_eq_true, if_false]
  refine ⟨_, _, b, v' - u', hround, ⟨u', s' + r', r', ?_⟩, heven⟩
  rw [arrange_arrange]
  exact hbetween

/-- **The main loop** ends with the almost inverse: `512` rounds and one more are
    enough, since every round but the first halves. -/
theorem inverseLoop_eq (hm : m < 2 ^ 256) (hx : x < 2 ^ 256) :
    ∀ {rounds k v : ℕ} {us vr : Combo} {b : Bool}, AtHead m x k us vr b v →
      512 + v % 2 ≤ k + rounds →
      ∃ us' s k', inverseLoop W rounds us vr b k = some (us', k') ∧ us'.Holds 1 s ∧ us'.len1 = 1 ∧
        s ≤ m ∧ (x : ZMod m) * s = 2 ^ k'
  | 0, k, v, us, vr, b, hhead, hr => by
    obtain ⟨u, s, r, h⟩ := hhead
    have hpow := h.almost.two_pow_le
    have hmx : m * x ≤ 2 ^ 256 * x := Nat.mul_le_mul_right x hm.le
    have hk : 2 ^ 512 ≤ 2 ^ k := Nat.pow_le_pow_right (by norm_num) (by omega)
    omega
  | rounds + 1, k, v, us, vr, b, hhead, hr => by
    obtain ⟨J, us', vr', u, s, v', r, hreduce, hJ, hred⟩ := reduceRound_eq hm hhead
    obtain ⟨hzero, hpos⟩ := hred.odd.compare hred.even
    rw [inverseLoop]
    simp only [hreduce, Option.bind_eq_bind, Option.bind_some]
    by_cases hcmp : us'.compare vr' = 0
    · obtain rfl := hzero.1 hcmp
      obtain rfl := hred.almost.eq_one
      have hlen : us'.len1 = 1 := by
        have hlen_pos := hred.odd.pos
        have hle := hred.odd.le_u
        by_contra hne
        have hone : 1 < radix ^ (us'.len1 - 1) :=
          Nat.one_lt_pow (by omega) (by norm_num [radix])
        omega
      have hs := hred.almost.mul_le_left
      have hleft := hred.almost.left
      rw [one_mul] at hs
      rw [one_mul, Nat.cast_one, one_mul] at hleft
      exact ⟨us', s, k + J, if_pos hcmp, hred.odd.toHolds, hlen, hs, hleft⟩
    · obtain ⟨us'', vr'', b', v'', hsubtract, hnext, heven⟩ :=
        subtractRound_eq (W := W) hm hred hzero hpos hcmp
      rw [if_neg hcmp]
      simp only [hsubtract, Option.bind_some]
      refine inverseLoop_eq hm hx hnext ?_
      rcases Nat.mod_two_eq_zero_or_one v with hv | hv
      · have := hJ hv
        omega
      · omega

/-! ## The division by the power of two -/

theorem word_cast {e : ℤ} : ((word e : ℕ) : ZMod (2 ^ 32)) = e := by
  have hnn : 0 ≤ e % 2 ^ 32 := Int.emod_nonneg e (by norm_num)
  have hint : ((word e : ℕ) : ℤ) = e % 2 ^ 32 := Int.toNat_of_nonneg hnn
  rw [← Int.cast_natCast, hint]
  exact ZMod.intCast_mod e (2 ^ 32)

/-- Squaring doubles the power of two in `amone`, which is soon zero. -/
theorem negInverseLoop_eq : ∀ {rounds i amone inverse : ℕ}, i + rounds = 6 → i ≤ 5 →
    2 ^ 2 ^ i ∣ amone → amone < 2 ^ 32 →
    (a : ZMod (2 ^ 32)) * inverse = (amone : ZMod (2 ^ 32)) ^ 2 - 1 →
    ∃ inv, negInverseLoop rounds amone inverse = some inv ∧ (a : ZMod (2 ^ 32)) * inv = -1
  | 0, i, _, _, hi, hi5, _, _, _ => by omega
  | rounds + 1, i, amone, inverse, hi, hi5, hdvd, hlt, heq => by
    rw [negInverseLoop]
    by_cases hzero : amone = 0
    · refine ⟨inverse, if_pos hzero, ?_⟩
      rw [heq, hzero, Nat.cast_zero, zero_pow two_ne_zero, zero_sub]
    · rw [if_neg hzero]
      have hi4 : i + 1 ≤ 5 := by
        rcases Nat.lt_or_ge i 5 with h | h
        · exact h
        · obtain rfl : i = 5 := by omega
          exact absurd (Nat.eq_zero_of_dvd_of_lt hdvd hlt) hzero
      have hdvd' : 2 ^ 2 ^ (i + 1) ∣ word ((amone * amone : ℕ)) := by
        rw [word_natCast, Nat.dvd_mod_iff]
        · rw [pow_succ 2 i, pow_mul, pow_two]
          exact mul_dvd_mul hdvd hdvd
        · exact Nat.pow_dvd_pow 2 (Nat.pow_le_pow_right (by norm_num) hi4)
      refine negInverseLoop_eq (by omega) hi4 hdvd' ?_ ?_
      · rw [word_natCast]
        exact Nat.mod_lt _ (by norm_num)
      · rw [word_cast, word_cast]
        push_cast
        rw [word_cast]
        push_cast
        linear_combination ((amone : ZMod (2 ^ 32)) ^ 2 + 1) * heq

section
variable {factor t : ℕ}

/-- A word and a product with the factor fit. -/
theorem add_mul_factor_le (hfactor : factor < 2 ^ k) (ha : a < radix) (hb : b < radix) :
    a + b * factor ≤ (radix - 1) * 2 ^ k := by
  have hmul : b * factor ≤ (radix - 1) * (2 ^ k - 1) := Nat.mul_le_mul (by omega) (by omega)
  have hsucc : (radix - 1) * (2 ^ k - 1) + (radix - 1) = (radix - 1) * 2 ^ k := by
    rw [← Nat.mul_succ, Nat.succ_eq_add_one, Nat.sub_add_cancel (Nat.two_pow_pos k)]
  omega

/-- The first sum of the loop does not wrap. -/
theorem u64_add_mul_factor (hfactor : factor < 2 ^ 32) :
    W.u64 ((s % radix + m % radix * factor : ℕ)) = s % radix + m % radix * factor := by
  have hle := add_mul_factor_le hfactor (Nat.mod_lt s radix_pos) (Nat.mod_lt m radix_pos)
  have hmax : (radix - 1) * 2 ^ 32 < 2 ^ 64 := by norm_num [radix]
  exact_mod_cast W.u64_eq (s % radix + m % radix * factor : ℕ) (Int.natCast_nonneg _)
    (by exact_mod_cast hle.trans_lt hmax)

theorem two_pow_mul_radix (hk : k ≤ 32) : 2 ^ (32 - k) * 2 ^ k = radix := by
  rw [← pow_add, Nat.sub_add_cancel hk]
  rfl

/-- What the loop adds to `temp` for word `i + 1`. -/
def divideEntry (m s factor k i : ℕ) : ℕ :=
  (s / radix ^ (i + 1) % radix + m / radix ^ (i + 1) % radix * factor) <<< (32 - k)

theorem divideEntry_le (hk : k ≤ 32) (hfactor : factor < 2 ^ k) :
    (divideEntry m s factor k i : ℤ) ≤ 2 ^ 64 - 2 ^ (64 - 32) := by
  have hle := Nat.mul_le_mul_right (2 ^ (32 - k)) (add_mul_factor_le hfactor
    (Nat.mod_lt (s / radix ^ (i + 1)) radix_pos) (Nat.mod_lt (m / radix ^ (i + 1)) radix_pos))
  rw [mul_assoc, mul_comm (2 ^ k), two_pow_mul_radix hk, ← Nat.shiftLeft_eq] at hle
  have hradix : (radix - 1) * radix = 2 ^ 64 - 2 ^ 32 := by norm_num [radix]
  rw [hradix] at hle
  rw [divideEntry]
  generalize (_ <<< (32 - k) : ℕ) = y at hle ⊢
  omega

/-- The words from the second on. -/
theorem valueZ_high {y : ℕ} (hy : y < radix ^ 8) :
    valueZ radix ((List.range 7).map fun i => ((y / radix ^ (i + 1) % radix : ℕ) : ℤ)) =
      (y / radix : ℕ) := by
  have hlt : y / radix < radix ^ 7 := Nat.div_lt_of_lt_mul (by rwa [← pow_succ'])
  rw [← valueZ_digits hlt]
  refine congrArg (valueZ _) (List.map_congr_left fun i _ => ?_)
  rw [Nat.div_div_eq_div_mul, ← pow_succ']

theorem valueZ_divideEntry (hm : m < radix ^ 8) (hs : s < radix ^ 8) :
    valueZ radix ((List.range 7).map fun i => (divideEntry m s factor k i : ℤ)) =
      ((2 ^ (32 - k) * (s / radix + factor * (m / radix)) : ℕ) : ℤ) := by
  have hentry : ∀ i, (divideEntry m s factor k i : ℤ) = (2 ^ (32 - k) : ℤ) *
      (((s / radix ^ (i + 1) % radix : ℕ) : ℤ) + ((m / radix ^ (i + 1) % radix : ℕ) : ℤ) *
        factor) := by
    intro i
    rw [divideEntry, Nat.shiftLeft_eq]
    push_cast
    ring
  simp only [hentry]
  rw [valueZ_map_mul_left, valueZ_map_add, valueZ_map_mul_right, valueZ_high hs, valueZ_high hm]
  push_cast
  ring

/-- The quotient of the low word, and the others above it. -/
theorem divide_eq (hk : k ≤ 32) (ht : s % radix + m % radix * factor = 2 ^ k * t) :
    2 ^ k * (t + 2 ^ (32 - k) * (s / radix + factor * (m / radix))) = s + factor * m := by
  have hsdiv := Nat.div_add_mod s radix
  have hmdiv := Nat.div_add_mod m radix
  calc 2 ^ k * (t + 2 ^ (32 - k) * (s / radix + factor * (m / radix)))
      = 2 ^ k * t + 2 ^ (32 - k) * 2 ^ k * (s / radix + factor * (m / radix)) := by ring
    _ = s % radix + m % radix * factor + radix * (s / radix + factor * (m / radix)) := by
      rw [← ht, two_pow_mul_radix hk]
    _ = (radix * (s / radix) + s % radix) + factor * (radix * (m / radix) + m % radix) := by ring
    _ = s + factor * m := by rw [hsdiv, hmdiv]

/-- The words of `(s + factor * m) / 2 ^ k`, as the loops compute them. -/
theorem divide_ripple (hm : m < radix ^ 8) (hs : s ≤ m) (hk : k ≤ 32)
    (hfactor : factor < 2 ^ k) (hdvd : 2 ^ k ∣ s % radix + m % radix * factor) :
    ∃ s', (ripple 32 W.u64 ((s % radix + m % radix * factor) >>> k) ((List.range 7).map fun i =>
        (divideEntry m s factor k i : ℤ))).1 ++
      [(ripple 32 W.u64 ((s % radix + m % radix * factor) >>> k) ((List.range 7).map fun i =>
        (divideEntry m s factor k i : ℤ))).2 &&& 0xFFFFFFFF] = limbs radix 8 s' ∧
      2 ^ k * s' = s + factor * m := by
  have h2k : 0 < 2 ^ k := Nat.two_pow_pos k
  obtain ⟨t, ht⟩ := hdvd
  have htlt : t < 2 ^ (64 - 32) := by
    have hle := add_mul_factor_le hfactor (Nat.mod_lt s radix_pos) (Nat.mod_lt m radix_pos)
    rw [ht, mul_comm] at hle
    have hle' := Nat.le_of_mul_le_mul_right hle h2k
    have hradix : radix = 2 ^ (64 - 32) := rfl
    have hpos := radix_pos
    omega
  have hshift : (2 ^ k * t) >>> k = t := by
    rw [Nat.shiftRight_eq_div_pow, Nat.mul_div_cancel_left _ h2k]
  have hbound : ∀ e ∈ (List.range 7).map (fun i => (divideEntry m s factor k i : ℤ)),
      0 ≤ e ∧ e ≤ 2 ^ 64 - 2 ^ (64 - 32) := by
    intro e he
    obtain ⟨i, -, rfl⟩ := List.mem_map.1 he
    exact ⟨Int.natCast_nonneg _, divideEntry_le hk hfactor⟩
  have hripple := ripple_eq (s := 32) (by norm_num) W.u64_eq (t := t) htlt hbound
  have hnat : ((t : ℤ) + valueZ (2 ^ 32) ((List.range 7).map fun i =>
      (divideEntry m s factor k i : ℤ))).toNat =
        t + 2 ^ (32 - k) * (s / radix + factor * (m / radix)) := by
    change ((t : ℤ) + valueZ radix _).toNat = _
    rw [valueZ_divideEntry hm (hs.trans_lt hm), ← Nat.cast_add, Int.toNat_natCast]
  rw [hnat, List.length_map, List.length_range] at hripple
  refine ⟨t + 2 ^ (32 - k) * (s / radix + factor * (m / radix)), ?_, divide_eq hk ht⟩
  have hmask : ∀ y, y &&& 0xFFFFFFFF = y % radix := fun y => Nat.and_two_pow_sub_one_eq_mod y 32
  rw [ht, hshift, hripple, hmask]
  exact (limbs_add (B := radix) (k := 7) (j := 1)).symm

end

/-- The factor clears the low bits. -/
theorem two_pow_dvd_add {factor inverse : ℕ} (hinv : 2 ^ 32 ∣ m * inverse + 1) (hk : k ≤ 32)
    (hfactor : factor ≡ inverse * s [MOD 2 ^ k]) : 2 ^ k ∣ s + m * factor := by
  have hclear : (m * inverse + 1) * s ≡ 0 [MOD 2 ^ k] :=
    Nat.modEq_zero_iff_dvd.2 (((Nat.pow_dvd_pow 2 hk).trans hinv).mul_right s)
  refine Nat.modEq_zero_iff_dvd.1 (Nat.ModEq.trans ?_ hclear)
  have hmul := (hfactor.mul_left m).add_left s
  rwa [← mul_assoc, show s + m * inverse * s = (m * inverse + 1) * s by ring] at hmul

/-- The quotient is as small as the number, and congruent to its multiple. -/
theorem quotient_spec {factor s' : ℕ} (hs : s ≤ m) (hfactor : factor < 2 ^ k)
    (h : 2 ^ k * s' = s + factor * m) : s' ≤ m ∧ (2 : ZMod m) ^ k * s' = s := by
  constructor
  · refine Nat.le_of_mul_le_mul_left (c := 2 ^ k) ?_ (Nat.two_pow_pos k)
    calc 2 ^ k * s' = s + factor * m := h
      _ ≤ m + factor * m := Nat.add_le_add_right hs _
      _ = (factor + 1) * m := by ring
      _ ≤ 2 ^ k * m := Nat.mul_le_mul_right m hfactor
  · have hcast : ((2 ^ k * s' : ℕ) : ZMod m) = ((s + factor * m : ℕ) : ZMod m) := congrArg _ h
    push_cast at hcast
    rwa [ZMod.natCast_self, mul_zero, add_zero] at hcast

theorem getD_words (hi : i < 8) : (limbs (2 ^ 32) 8 u).getD i 0 = u / radix ^ i % radix :=
  getD_limbs hi

theorem getD_words_zero : (limbs (2 ^ 32) 8 u).getD 0 0 = u % radix := by
  rw [getD_words (by norm_num), pow_zero, Nat.div_one]

section
variable {inverse : ℕ}

theorem divideWord_eq (hm : m < 2 ^ 256) (hs : s ≤ m) (hinv : 2 ^ 32 ∣ m % radix * inverse + 1) :
    ∃ s', divideWord W (limbs (2 ^ 32) 8 m) inverse (limbs (2 ^ 32) 8 s) =
        some (limbs (2 ^ 32) 8 s') ∧ s' ≤ m ∧ (2 : ZMod m) ^ 32 * s' = s := by
  obtain ⟨factor, hfactor⟩ : ∃ factor, word ((inverse * (s % radix) : ℕ)) = factor := ⟨_, rfl⟩
  have hlt : factor < 2 ^ 32 := by
    rw [← hfactor, word_natCast]
    exact Nat.mod_lt _ (by norm_num)
  have hmod : factor ≡ inverse * (s % radix) [MOD 2 ^ 32] := by
    rw [← hfactor, word_natCast]
    exact Nat.mod_modEq _ _
  have hdvd := two_pow_dvd_add hinv le_rfl hmod
  obtain ⟨s', hlist, hquot⟩ := divide_ripple (W := W) (hm.trans_eq radix_pow_eight.symm) hs le_rfl hlt
    hdvd
  obtain ⟨hle, hcast⟩ := quotient_spec hs hlt hquot
  refine ⟨s', ?_, hle, hcast⟩
  have hu := u64_add_mul_factor (W := W) (s := s) (m := m) hlt
  have hzero : (s % radix + m % radix * factor) &&& 0xFFFFFFFF = 0 := by
    rw [Nat.and_two_pow_sub_one_eq_mod _ 32]
    exact Nat.mod_eq_zero_of_dvd hdvd
  have hentries : (List.range 7).map (fun i => (((limbs (2 ^ 32) 8 s).getD (i + 1) 0 +
      (limbs (2 ^ 32) 8 m).getD (i + 1) 0 * factor : ℕ) : ℤ)) = (List.range 7).map fun i =>
        (divideEntry m s factor 32 i : ℤ) := by
    refine List.map_congr_left fun i hi => ?_
    have hi := List.mem_range.1 hi
    rw [getD_words (by omega), getD_words (by omega), divideEntry, Nat.sub_self, Nat.shiftLeft_zero]
  simp only [divideWord, getD_words_zero, hfactor, hu, hzero, hentries]
  exact congrArg some hlist

theorem divideBits_eq (hm : m < 2 ^ 256) (hs : s ≤ m) (hinv : 2 ^ 32 ∣ m % radix * inverse + 1)
    (hk : k < 32) :
    ∃ s', divideBits W (limbs (2 ^ 32) 8 m) inverse (limbs (2 ^ 32) 8 s) k =
        some (limbs (2 ^ 32) 8 s') ∧ s' ≤ m ∧ (2 : ZMod m) ^ k * s' = s := by
  have hmask : ∀ y, y &&& (1 <<< k - 1) = y % 2 ^ k := fun y => by
    rw [Nat.one_shiftLeft, Nat.and_two_pow_sub_one_eq_mod]
  have hdvd32 : 2 ^ k ∣ 2 ^ 32 := Nat.pow_dvd_pow 2 hk.le
  obtain ⟨factor, hfactor⟩ : ∃ factor, word ((inverse * (s % radix) : ℕ)) % 2 ^ k = factor :=
    ⟨_, rfl⟩
  have hlt : factor < 2 ^ k := by
    rw [← hfactor]
    exact Nat.mod_lt _ (Nat.two_pow_pos k)
  have hmod : factor ≡ inverse * (s % radix) [MOD 2 ^ k] := by
    rw [← hfactor, word_natCast, Nat.mod_mod_of_dvd _ hdvd32]
    exact Nat.mod_modEq _ _
  have hdvd := two_pow_dvd_add hinv hk.le hmod
  obtain ⟨s', hlist, hquot⟩ := divide_ripple (W := W) (hm.trans_eq radix_pow_eight.symm) hs hk.le hlt
    hdvd
  obtain ⟨hle, hcast⟩ := quotient_spec hs hlt hquot
  refine ⟨s', ?_, hle, hcast⟩
  have hlt32 : factor < 2 ^ 32 := hlt.trans_le (Nat.pow_le_pow_right (by norm_num) hk.le)
  have hu := u64_add_mul_factor (W := W) (s := s) (m := m) hlt32
  have hzero : word ((s % radix + m % radix * factor : ℕ)) % 2 ^ k = 0 := by
    rw [word_natCast, Nat.mod_mod_of_dvd _ hdvd32]
    exact Nat.mod_eq_zero_of_dvd hdvd
  have hentries : (List.range 7).map (fun i => ((((limbs (2 ^ 32) 8 s).getD (i + 1) 0 +
      (limbs (2 ^ 32) 8 m).getD (i + 1) 0 * factor) <<< (32 - k) : ℕ) : ℤ)) =
        (List.range 7).map fun i => (divideEntry m s factor k i : ℤ) := by
    refine List.map_congr_left fun i hi => ?_
    have hi := List.mem_range.1 hi
    rw [getD_words (by omega), getD_words (by omega), divideEntry]
  simp only [divideBits, getD_words_zero, hmask, hfactor, hu, hzero, hentries]
  exact congrArg some hlist

/-- **The division by `2 ^ k`** modulo `m`. -/
theorem dividePow_eq (hm : m < 2 ^ 256) (hinv : 2 ^ 32 ∣ m % radix * inverse + 1) {k s : ℕ}
    (hs : s ≤ m) :
    ∃ s', dividePow W (limbs (2 ^ 32) 8 m) inverse (limbs (2 ^ 32) 8 s) k =
        some (limbs (2 ^ 32) 8 s') ∧ s' ≤ m ∧ (2 : ZMod m) ^ k * s' = s := by
  induction k using Nat.strong_induction_on generalizing s with
  | _ k ih =>
    rw [dividePow]
    by_cases hword : 32 ≤ k
    · obtain ⟨s₁, hdivide, hle, hcast⟩ := divideWord_eq (W := W) hm hs hinv
      obtain ⟨s', hrest, hle', hcast'⟩ := ih (k - 32) (by omega) hle
      refine ⟨s', ?_, hle', ?_⟩
      · rw [if_pos hword, hdivide]
        exact hrest
      · rw [← hcast, ← hcast', ← mul_assoc, ← pow_add, Nat.add_sub_cancel' hword]
    · rw [if_neg hword]
      by_cases hbits : 0 < k
      · rw [if_pos hbits]
        exact divideBits_eq hm hs hinv (not_le.1 hword)
      · obtain rfl : k = 0 := by omega
        exact ⟨s, if_neg hbits, hs, by rw [pow_zero, one_mul]⟩

end

/-! ## `bn_inverse` -/

/-- `bn_fast_mod` and `bn_mod` reduce any number. -/
theorem bnMod_bnFastMod_eq (hlow : 2 ^ 256 - 2 ^ 224 ≤ m) (hm : m < 2 ^ 256)
    (hv : v < (2 ^ 30) ^ 9) : bnMod W (bnFastMod W (ofNat v) (ofNat m)) (ofNat m) = ofNat (v % m) := by
  have hle : m * (v / 2 ^ 256) ≤ v := by
    refine (Nat.mul_le_mul_right _ hm.le).trans ?_
    omega
  have hlt : v - m * (v / 2 ^ 256) < 2 * m := by
    have hq : v / 2 ^ 256 ≤ 2 ^ 14 := by omega
    have hgap : (2 ^ 256 - m) * (v / 2 ^ 256) ≤ 2 ^ 224 * 2 ^ 14 := Nat.mul_le_mul (by omega) hq
    rw [Nat.sub_mul] at hgap
    omega
  rw [bnFastMod_ofNat hv hm.le, bnMod_eq (by omega) hlt, Nat.sub_mul_mod hle]

/-- The inverse of an odd word, negated. -/
theorem negInverseLoop_word {y : ℕ} (hy : y % 2 = 1) (hlt : y < 2 ^ 32) :
    ∃ inverse, negInverseLoop 6 (word ((y : ℤ) - 1)) (word ((y : ℤ) - 2)) = some inverse ∧
      2 ^ 32 ∣ y * inverse + 1 := by
  have hone : word ((y : ℤ) - 1) = y - 1 := by
    have hword : word ((y - 1 : ℕ) : ℤ) = y - 1 := by
      rw [word_natCast, Nat.mod_eq_of_lt]
      omega
    rwa [Nat.cast_sub (by omega), Nat.cast_one] at hword
  have hamone : 2 ^ 2 ^ 0 ∣ word ((y : ℤ) - 1) := by
    rw [hone]
    omega
  have hstart : (y : ZMod (2 ^ 32)) * word ((y : ℤ) - 2) =
      ((word ((y : ℤ) - 1) : ℕ) : ZMod (2 ^ 32)) ^ 2 - 1 := by
    rw [word_cast, word_cast]
    push_cast
    ring
  obtain ⟨inverse, hinverse, hneg⟩ := negInverseLoop_eq (zero_add 6) (by norm_num) hamone
    (by rw [hone]; omega) hstart
  refine ⟨inverse, hinverse, ?_⟩
  rw [← ZMod.natCast_eq_zero_iff]
  push_cast
  rw [hneg, neg_add_cancel]

/-- The words at the start. -/
theorem start_holds {t : ℕ} (hu : u < 2 ^ 256) (ht : t < 2 ^ 32) :
    Combo.Holds ⟨.ofFn fun i => if i < 8 then (limbs (2 ^ 32) 8 u).getD i 0 else t, 8⟩ u t := by
  refine ⟨le_rfl, hu.trans_eq radix_pow_eight.symm, ?_, fun i hi => ?_, fun i hi => ?_⟩
  · exact ht.trans_eq (by norm_num [radix])
  · have hi8 : i < 8 := hi
    simp only [limb_ofFn (show i < 9 by omega), if_pos hi8]
    exact getD_words hi8
  · obtain rfl : i = 0 := by
      have hi1 : i < 9 - 8 := hi
      omega
    simp only [Nat.sub_zero, limb_ofFn (show 8 < 9 by norm_num), lt_irrefl, if_false, pow_zero,
      Nat.div_one]
    exact (Nat.mod_eq_of_lt ht).symm

/-- **`bn_inverse` inverts** modulo an odd number close to `2 ^ 256`: no assertion
    fails, and the result is below the modulus. -/
theorem bnInverse_eq {rounds : ℕ} (hodd : m % 2 = 1) (hlow : 2 ^ 256 - 2 ^ 224 ≤ m)
    (hm : m < 2 ^ 256) (hv : v < (2 ^ 30) ^ 9) (hcop : v.Coprime m) (hrounds : 513 ≤ rounds) :
    ∃ w < m, bnInverse W rounds (ofNat v) (ofNat m) = some (ofNat w) ∧
      (v : ZMod m) * w = 1 := by
  have hm1 : 1 < m := lt_of_lt_of_le (by norm_num) hlow
  obtain ⟨x, hx⟩ : ∃ x, v % m = x := ⟨_, rfl⟩
  have hxm : x < m := hx ▸ Nat.mod_lt v (by omega)
  have hxcast : (v : ZMod m) = x := by rw [← hx, ZMod.natCast_mod]
  have hxcop : m.Coprime x := by
    rw [← hx, Nat.Coprime, Nat.gcd_comm, ← Nat.gcd_rec, Nat.gcd_comm]
    exact hcop
  have hxpos : 0 < x := by
    rcases Nat.eq_zero_or_pos x with rfl | h
    · rw [Nat.coprime_zero_right] at hxcop
      omega
    · exact h
  -- the registers at the start
  have hus := start_holds (t := 1) hm (by norm_num)
  have hvr := start_holds (t := 0) (hxm.trans hm) (by norm_num)
  have hhead : AtHead m x 0 ⟨.ofFn fun i => if i < 8 then (limbs (2 ^ 32) 8 m).getD i 0 else 1, 8⟩
      ⟨.ofFn fun i => if i < 8 then (limbs (2 ^ 32) 8 x).getD i 0 else 0, 8⟩ true x := by
    have hle : radix ^ (8 - 1) ≤ m := le_trans (by norm_num [radix]) hlow
    exact ⟨m, 1, 0, Almost.start (by omega) hxpos hxcop, ⟨hus, Nat.succ_pos 7, hle⟩, hvr, hodd, rfl,
      Or.inr rfl⟩
  obtain ⟨us', s, k, hloop, hholds, hlen, hs, hinv⟩ := inverseLoop_eq (W := W) hm (hxm.trans hm) hhead
    (show 512 + x % 2 ≤ 0 + rounds by omega)
  have hwords : (List.range 8).map (fun i => us'.a.limb (8 - i)) = limbs (2 ^ 32) 8 s := by
    have hlimbs := map_getD_range (l := limbs (2 ^ 32) 8 s)
    rw [length_limbs] at hlimbs
    rw [← hlimbs]
    refine List.map_congr_left fun i hi => ?_
    have hi := List.mem_range.1 hi
    rw [hholds.second i (by omega), getD_words hi]
  -- the inverse of the lowest word
  have hpp : (m % radix) % 2 = 1 := by
    rw [Nat.mod_mod_of_dvd _ (by norm_num [radix]), hodd]
  have hpplt := Nat.mod_lt m radix_pos
  obtain ⟨inverse, hinverse, hdvd⟩ := negInverseLoop_word hpp hpplt
  obtain ⟨w, hdivide, hwle, hw⟩ := dividePow_eq (W := W) (k := k) hm hdvd hs
  -- the power of two cancels
  have hunit : IsUnit ((2 : ZMod m) ^ k) := by
    refine IsUnit.pow k ?_
    have hcop2 : Nat.Coprime 2 m := (Nat.coprime_two_left).2 (Nat.odd_iff.2 hodd)
    exact_mod_cast (ZMod.isUnit_iff_coprime 2 m).2 hcop2
  have hprod : (v : ZMod m) * w = 1 := by
    refine hunit.mul_left_cancel ?_
    rw [mul_left_comm, hw, hxcast, hinv, mul_one]
  have hwlt : w < m := by
    refine lt_of_le_of_ne hwle ?_
    rintro rfl
    have : Fact (1 < w) := ⟨hm1⟩
    rw [ZMod.natCast_self, mul_zero] at hprod
    exact zero_ne_one hprod
  refine ⟨w, hwlt, ?_, hprod⟩
  have hbit : (m % radix &&& 1 == 0) = false := by
    rw [Nat.and_one_is_mod, hpp]
    rfl
  simp only [bnInverse, bnMod_bnFastMod_eq hlow hm hv, hx, toWords_ofNat hm,
    toWords_ofNat (hxm.trans hm), hloop, hwords, getD_words_zero, hbit, hinverse, hdivide,
    Option.bind_eq_bind, Option.bind_some, Bool.false_eq_true, if_false,
    fromWords_limbs (hwlt.trans hm)]
  rfl

end CotMta.Trezor
