/-
  `sha2.c` computes SHA-256.

  A context `Holds` a message if its state is that of the message's whole
  blocks, the rest of the message stands at the head of the buffer and the bit
  count is the message's.  `sha256_Update` appends to the message, whatever is
  left in the buffer behind, and `sha256_Final` pads it.
-/
import CotMta.Lib.Primality
import CotMta.Trezor.Sha2

namespace CotMta.Trezor.Sha2

open Sha256 MerkleDamgard Primality

variable {a b c d : BitVec 8} {w : Word} {i j k : ℕ} {l m buffer : List UInt8} {v : Vars}

/-! ## The bytes of a word -/

theorem getLsbD_bytes (hi : i < 32) : (a ++ b ++ c ++ d : Word).getLsbD i =
    if i < 8 then d.getLsbD i else if i < 16 then c.getLsbD (i - 8)
    else if i < 24 then b.getLsbD (i - 16) else a.getLsbD (i - 24) := by
  have hi1 : i - 8 - 8 = i - 16 := by omega
  have hi2 : i - 16 - 8 = i - 24 := by omega
  change (a ++ b ++ c ++ d).getLsbD i = _
  simp only [BitVec.getLsbD_append, hi1, hi2]
  split_ifs <;> first | rfl | omega

theorem getElem_bytes (hi : i < 32) : (a ++ b ++ c ++ d : Word)[i] =
    if i < 8 then d.getLsbD i else if i < 16 then c.getLsbD (i - 8)
    else if i < 24 then b.getLsbD (i - 16) else a.getLsbD (i - 24) := by
  rw [← BitVec.getLsbD_eq_getElem, getLsbD_bytes hi]

theorem exists_bytes (w : Word) : ∃ a b c d : BitVec 8, w = a ++ b ++ c ++ d := by
  refine ⟨w.extractLsb' 24 8, w.extractLsb' 16 8, w.extractLsb' 8 8, w.extractLsb' 0 8, ?_⟩
  refine BitVec.eq_of_getLsbD_eq fun i hi => ?_
  rw [getLsbD_bytes hi]
  interval_cases i <;> simp

theorem toNat_bytes : (a ++ b ++ c ++ d : Word).toNat = beNat [⟨a⟩, ⟨b⟩, ⟨c⟩, ⟨d⟩] := by
  simp only [BitVec.toNat_append, beNat_cons, beNat_nil, List.length_cons, List.length_nil]
  change _ = a.toNat * _ + (b.toNat * _ + (c.toNat * _ + (d.toNat * _ + 0)))
  rw [← Nat.shiftLeft_add_eq_or_of_lt b.isLt, ← Nat.shiftLeft_add_eq_or_of_lt c.isLt,
    ← Nat.shiftLeft_add_eq_or_of_lt d.isLt]
  simp only [Nat.shiftLeft_eq]
  omega

theorem reverse32_bytes : reverse32 (a ++ b ++ c ++ d) = d ++ c ++ b ++ a := by
  refine BitVec.eq_of_getLsbD_eq fun i hi => ?_
  rw [getLsbD_bytes hi]
  interval_cases i <;> simp [reverse32, getElem_bytes]

theorem le32_bytes : le32 (a ++ b ++ c ++ d) = [⟨d⟩, ⟨c⟩, ⟨b⟩, ⟨a⟩] := by
  have hbyte : ∀ x ∈ [(0, d), (1, c), (2, b), (3, a)],
      ((a ++ b ++ c ++ d : Word) >>> (8 * x.1)).setWidth 8 = x.2 := by
    intro x hx
    refine BitVec.eq_of_getLsbD_eq fun i hi => ?_
    fin_cases hx <;> interval_cases i <;> simp [getElem_bytes]
  simp only [List.forall_mem_cons] at hbyte
  obtain ⟨h0, h1, h2, h3, -⟩ := hbyte
  simp only [le32, h0, h1, h2, h3]

/-- The digest has the bytes of the words most significant first. -/
theorem le32_reverse32 (w : Word) : le32 (reverse32 w) = natBe 4 w.toNat := by
  obtain ⟨a, b, c, d, rfl⟩ := exists_bytes w
  rw [reverse32_bytes, le32_bytes, toNat_bytes]
  exact natBe_beNat.symm

@[simp] theorem length_le32 : (le32 w).length = 4 := rfl

/-! ## Memory -/

theorem length_memcpy {d s : List UInt8} {pos : ℕ} (h : pos + s.length ≤ d.length) :
    (memcpy d pos s).length = d.length := by
  simp only [memcpy, List.length_append, List.length_take, List.length_drop]
  omega

theorem getD_memcpy {d s : List UInt8} {pos : ℕ} (h : pos + s.length ≤ d.length) :
    (memcpy d pos s).getD i 0 =
      if i < pos then d.getD i 0 else if i < pos + s.length then s.getD (i - pos) 0
      else d.getD i 0 := by
  have htake : (d.take pos).length = pos := List.length_take_of_le (by omega)
  rw [memcpy]
  split_ifs with h1 h2
  · rw [List.getD_append _ _ _ _ (by omega)]
    simp [List.getD_eq_getElem?_getD, h1]
  · rw [List.getD_append_right _ _ _ _ (by omega), htake, List.getD_append _ _ _ _ (by omega)]
  · rw [List.getD_append_right _ _ _ _ (by omega), htake,
      List.getD_append_right _ _ _ _ (by omega)]
    have hsum : pos + s.length + (i - pos - s.length) = i := by omega
    simp [List.getD_eq_getElem?_getD, List.getElem?_drop, hsum]

theorem length_store32 (hj : 4 * j + 4 ≤ buffer.length) :
    (store32 buffer j w).length = buffer.length := length_memcpy hj

theorem load32_store32 (hj : 4 * j + 4 ≤ buffer.length) :
    load32 (store32 buffer j w) i = if i = j then w else load32 buffer i := by
  have hbyte : ∀ k < 4, (store32 buffer j w).getD (4 * i + k) 0 =
      if i = j then (le32 w).getD k 0 else buffer.getD (4 * i + k) 0 := by
    intro k hk
    rw [store32, getD_memcpy hj, length_le32]
    split_ifs with h1 h2 h3 h3
    · omega
    · rfl
    · rw [h3, Nat.add_sub_cancel_left]
    · omega
    · omega
    · rfl
  simp only [load32, hbyte 0 (by norm_num), hbyte 1 (by norm_num), hbyte 2 (by norm_num),
    hbyte 3 (by norm_num)]
  split
  · obtain ⟨a, b, c, d, rfl⟩ := exists_bytes w
    rw [le32_bytes]
    rfl
  · rfl

theorem take_four (h : k + 4 ≤ l.length) :
    (l.drop k).take 4 = [l.getD k 0, l.getD (k + 1) 0, l.getD (k + 2) 0, l.getD (k + 3) 0] := by
  have hget : ∀ i < l.length, l.drop i = l.getD i 0 :: l.drop (i + 1) := by
    intro i hi
    rw [List.drop_eq_getElem_cons hi, List.getD_eq_getElem l 0 hi]
  rw [hget k (by omega), hget (k + 1) (by omega), hget (k + 1 + 1) (by omega),
    hget (k + 1 + 1 + 1) (by omega)]
  rfl

/-- A word of the buffer with its bytes reversed. -/
theorem reverse32_load32 (h : 4 * i + 4 ≤ buffer.length) :
    reverse32 (load32 buffer i) = .ofNat 32 (beNat ((buffer.drop (4 * i)).take 4)) := by
  rw [load32, reverse32_bytes, take_four h]
  refine BitVec.eq_of_toNat_eq ?_
  rw [toNat_bytes, BitVec.toNat_ofNat]
  refine (Nat.mod_eq_of_lt (beNat_lt.trans_eq ?_)).symm
  norm_num

/-- The loop over the first words. -/
theorem reverseWords_spec (hb : buffer.length = 64) : ∀ {count : ℕ}, count ≤ 16 →
    (reverseWords count buffer).length = 64 ∧ ∀ i, load32 (reverseWords count buffer) i =
      if i < count then reverse32 (load32 buffer i) else load32 buffer i
  | 0, _ => ⟨hb, fun i => rfl⟩
  | count + 1, hc => by
    obtain ⟨hlen, hload⟩ := reverseWords_spec hb (show count ≤ 16 by omega)
    have hstep : reverseWords (count + 1) buffer =
        store32 (reverseWords count buffer) count
          (reverse32 (load32 (reverseWords count buffer) count)) := by
      rw [reverseWords, List.range_succ, List.foldl_append]
      rfl
    rw [hstep]
    refine ⟨(length_store32 (by omega)).trans hlen, fun i => ?_⟩
    rw [load32_store32 (by omega), hload, hload, if_neg (lt_irrefl count)]
    rcases lt_trichotomy i count with h | rfl | h
    · rw [if_neg h.ne, if_pos h, if_pos (by omega)]
    · rw [if_pos rfl, if_pos (by omega)]
    · rw [if_neg h.ne', if_neg (by omega), if_neg (by omega)]

/-! ## Constants and functions -/

theorem K256_eq (hi : i < 64) : K256.getD i 0 = K i := by
  have hroots : K256 = firstPrimes.map (rootWord 3) := by decide +kernel
  have hlen : firstPrimes.length = 64 := by decide +kernel
  rw [K, nth_prime hi, hroots, List.getD_eq_getElem _ _ (by rwa [List.length_map, hlen]),
    List.getElem_map, List.getD_eq_getElem]

theorem sha256_initial_hash_value_eq : sha256_initial_hash_value = initial := by
  have hroots : sha256_initial_hash_value.toList =
      (List.range 8).map fun i => rootWord 2 (firstPrimes.getD i 0) := by decide +kernel
  refine Vars.toList_injective (hroots.trans ?_)
  change _ = (List.range 8).map fun i => rootWord 2 (Nat.nth Nat.Prime i)
  refine List.map_congr_left fun i hi => ?_
  rw [nth_prime ((List.mem_range.1 hi).trans (by norm_num))]

theorem applyRound_eq (k w : Word) (v : Vars) : applyRound k w v = round k w v := rfl

/-! ## `sha256_Transform` -/

section
variable {data W256 : List Word} {block : List UInt8} {t : ℕ}

theorem getD_set {x : Word} (hi : i < W256.length) :
    (W256.set i x).getD j 0 = if i = j then x else W256.getD j 0 := by
  rw [List.getD_eq_getElem?_getD, List.getElem?_set, List.getD_eq_getElem?_getD, if_pos hi]
  split <;> rfl

/-- The first loop copies the block to `W256`. -/
theorem first_loop (hdata : ∀ t < 16, data.getD t 0 = schedule block t) : ∀ {t : ℕ}, t ≤ 16 →
    ∃ W256, (List.range t).foldl (pass (copyWord data)) (v, List.replicate 16 0) =
        (rounds block v t, W256) ∧
      W256.length = 16 ∧ ∀ u < t, W256.getD u 0 = schedule block u
  | 0, _ => ⟨List.replicate 16 0, rfl, rfl, fun u hu => absurd hu (Nat.not_lt_zero u)⟩
  | t + 1, ht => by
    obtain ⟨W256, hloop, hlen, hW⟩ := first_loop hdata (show t ≤ 16 by omega)
    refine ⟨W256.set t (data.getD t 0), ?_, by rwa [List.length_set], fun u hu => ?_⟩
    · rw [List.range_succ, List.foldl_append, hloop]
      simp only [List.foldl_cons, List.foldl_nil, pass, copyWord, applyRound_eq,
        K256_eq (show t < 64 by omega), hdata t (by omega), rounds]
    · rw [getD_set (by omega)]
      split
      · next h => rw [← h, hdata t (by omega)]
      · exact hW u (by omega)

/-- A pass of the second loop puts word `t + 16` in the place of word `t`. -/
theorem expandWord_eq (hW : ∀ u, t ≤ u → u < t + 16 →
    W256.getD (u % 16) 0 = schedule block u) :
    expandWord W256 (t + 16) = (W256.set (t % 16) (schedule block (t + 16)),
      schedule block (t + 16)) := by
  have hmask : ∀ x, x &&& 0x0f = x % 16 := fun x => Nat.and_two_pow_sub_one_eq_mod x 4
  have hword : schedule block (t + 16) = smallSigma1 (schedule block (t + 14)) +
      schedule block (t + 9) + smallSigma0 (schedule block (t + 1)) + schedule block t := by
    rw [schedule, if_neg (by omega)]
    rfl
  have h1 : (t + 16 + 1) % 16 = (t + 1) % 16 := by omega
  have h9 : (t + 16 + 9) % 16 = (t + 9) % 16 := by omega
  have h14 : (t + 16 + 14) % 16 = (t + 14) % 16 := by omega
  simp only [expandWord, hmask, h1, h9, h14, Nat.add_mod_right, hW t le_rfl (by omega),
    hW (t + 1) (by omega) (by omega), hW (t + 9) (by omega) (by omega),
    hW (t + 14) (by omega) (by omega)]
  have hsum : schedule block t + (sigma1_256 (schedule block (t + 14)) + schedule block (t + 9) +
      sigma0_256 (schedule block (t + 1))) = schedule block (t + 16) := by
    rw [hword, BitVec.add_comm]
    rfl
  rw [hsum]

theorem second_loop (hlen : W256.length = 16) (hW : ∀ u < 16, W256.getD u 0 = schedule block u) :
    ∀ {t : ℕ}, t ≤ 48 →
      ∃ W', (List.range' 16 t).foldl (pass expandWord) (rounds block v 16, W256) =
          (rounds block v (t + 16), W') ∧
        W'.length = 16 ∧ ∀ u, t ≤ u → u < t + 16 → W'.getD (u % 16) 0 = schedule block u
  | 0, _ => by
    refine ⟨W256, rfl, hlen, fun u _ hu => ?_⟩
    rw [Nat.mod_eq_of_lt (by omega), hW u (by omega)]
  | t + 1, ht => by
    obtain ⟨W', hloop, hlen', hW'⟩ := second_loop hlen hW (show t ≤ 48 by omega)
    refine ⟨W'.set (t % 16) (schedule block (t + 16)), ?_, by rwa [List.length_set],
      fun u htu hu => ?_⟩
    · rw [List.range'_concat, List.foldl_append, hloop]
      have hj : 16 + 1 * t = t + 16 := by omega
      have hround : rounds block v (t + 1 + 16) =
          round (K (t + 16)) (schedule block (t + 16)) (rounds block v (t + 16)) := by
        rw [Nat.add_right_comm, rounds]
      simp only [List.foldl_cons, List.foldl_nil, pass, hj, expandWord_eq hW', applyRound_eq,
        K256_eq (show t + 16 < 64 by omega), hround]
    · rw [getD_set (by omega)]
      split
      · next h =>
        congr 1
        omega
      · exact hW' u (by omega) (by omega)

/-- `sha256_Transform` compresses. -/
theorem sha256Transform_eq (hdata : ∀ t < 16, data.getD t 0 = schedule block t) :
    sha256Transform v data = compress v block := by
  obtain ⟨W256, hfirst, hlen, hW⟩ := first_loop (v := v) hdata le_rfl
  obtain ⟨W', hsecond, -, -⟩ := second_loop (v := v) hlen hW le_rfl
  simp only [sha256Transform, hfirst, hsecond, compress]

end

/-! ## The unrolled loops -/

section
variable {assign : List Word → ℕ → List Word × Word} {s : Vars × List Word}

theorem applyRound_round256 (k w a b c d e f g h : Word) :
    applyRound k w ⟨a, b, c, d, e, f, g, h⟩ =
      ⟨(round256 a b c d e f g h k w).2, a, b, c, (round256 a b c d e f g h k w).1, e, f, g⟩ := by
  simp only [applyRound, round256, BitVec.add_assoc]

/-- Eight rounds with the names changed are eight rounds with the variables moved. -/
theorem unrolledPass_eq : unrolledPass assign s j = (List.range' j 8).foldl (pass assign) s := by
  obtain ⟨⟨a, b, c, d, e, f, g, h⟩, W256⟩ := s
  simp only [unrolledPass, List.range', List.foldl_cons, List.foldl_nil, pass,
    applyRound_round256]

theorem unrolledLoop_eq : ∀ {count j : ℕ} {s : Vars × List Word},
    (List.range' j count 8).foldl (unrolledPass assign) s =
      (List.range' j (8 * count)).foldl (pass assign) s
  | 0, _, _ => rfl
  | count + 1, j, s => by
    have hsplit : List.range' j (8 * (count + 1)) =
        List.range' j 8 ++ List.range' (j + 8) (8 * count) := by
      rw [Nat.mul_succ, Nat.add_comm, List.range'_append_1]
    rw [List.range'_succ, List.foldl_cons, unrolledPass_eq, unrolledLoop_eq, hsplit,
      List.foldl_append]

/-- **Unrolling** the loops changes nothing. -/
theorem transform_unrolled (state_in : Vars) (data : List Word) :
    sha256TransformUnrolled state_in data = sha256Transform state_in data := by
  simp only [sha256TransformUnrolled, sha256Transform, unrolledLoop_eq, List.range_eq_range',
    Nat.reduceMul]

end

/-! ## Contexts -/

/-- The context has taken in the message `l`. -/
structure Holds (context : SHA256_CTX) (l : List UInt8) : Prop where
  state : context.state = chain compress 64 initial l
  bitcount : context.bitcount = BitVec.ofNat 64 (8 * l.length)
  length : context.buffer.length = 64
  buffer : context.buffer.take (l.length % 64) = rest 64 l

variable {context : SHA256_CTX} {data : List UInt8}

theorem sha256Init_holds : Holds sha256Init [] where
  state := by
    rw [chain_of_lt (by norm_num)]
    exact sha256_initial_hash_value_eq
  bitcount := rfl
  length := rfl
  buffer := by
    rw [rest_of_lt (by norm_num)]
    rfl

theorem getD_words (hi : i < 16) : (words buffer).getD i 0 = load32 buffer i := by
  rw [words, List.getD_eq_getElem _ _ (by simpa), List.getElem_map, List.getElem_range]

theorem processBuffer_eq : processBuffer context =
    ⟨sha256Transform context.state (words (reverseWords 16 context.buffer)), context.bitcount,
      reverseWords 16 context.buffer⟩ := rfl

/-- The transform of a full buffer. -/
theorem full_transform (hb : buffer.length = 64) :
    sha256Transform v (words (reverseWords 16 buffer)) = compress v buffer := by
  obtain ⟨-, hload⟩ := reverseWords_spec hb le_rfl
  refine sha256Transform_eq fun t ht => ?_
  rw [getD_words ht, hload, if_pos ht, reverse32_load32 (by omega), schedule, if_pos ht]

theorem processBuffer_length (hb : context.buffer.length = 64) :
    (processBuffer context).buffer.length = 64 := by
  rw [processBuffer_eq]
  exact (reverseWords_spec hb le_rfl).1

/-- The bit count may be raised before or after. -/
theorem processBuffer_bitcount {x : BitVec 64} :
    { processBuffer context with bitcount := (processBuffer context).bitcount + x } =
      processBuffer { context with bitcount := context.bitcount + x } := by
  rw [processBuffer_eq, processBuffer_eq]

theorem ofNat_shiftLeft {x : ℕ} : BitVec.ofNat 64 x <<< 3 = BitVec.ofNat 64 (8 * x) := by
  refine BitVec.eq_of_toNat_eq ?_
  rw [BitVec.toNat_shiftLeft, BitVec.toNat_ofNat, BitVec.toNat_ofNat, Nat.shiftLeft_eq]
  omega

theorem Holds.usedspace (h : Holds context l) : usedspace context = l.length % 64 := by
  rw [Sha2.usedspace, h.bitcount, BitVec.toNat_ushiftRight, BitVec.toNat_ofNat,
    Nat.shiftRight_eq_div_pow]
  omega

/-- The buffer is filled up and processed. -/
theorem Holds.fill (h : Holds context l) (hm : l.length % 64 + m.length = 64) :
    Holds (processBuffer { context with
      buffer := memcpy context.buffer (l.length % 64) m
      bitcount := context.bitcount + BitVec.ofNat 64 (8 * m.length) }) (l ++ m) := by
  have hlen : (memcpy context.buffer (l.length % 64) m).length = 64 :=
    (length_memcpy (by rw [h.length, hm])).trans h.length
  have hbuffer : memcpy context.buffer (l.length % 64) m = rest 64 l ++ m := by
    rw [memcpy, h.buffer, hm, ← h.length, List.drop_length, List.append_nil]
  have hfill : (rest 64 l ++ m).length = 64 := hbuffer ▸ hlen
  refine ⟨?_, ?_, processBuffer_length hlen, ?_⟩
  · rw [processBuffer_eq, full_transform hlen, chain_fill (by norm_num) hfill, hbuffer, h.state]
  · change context.bitcount + _ = _
    rw [h.bitcount, ← BitVec.ofNat_add, List.length_append, Nat.mul_add]
  · rw [rest_fill (by norm_num) hfill, List.length_append]
    have hmod : (l.length + m.length) % 64 = 0 := by omega
    rw [hmod, List.take_zero]

/-- The leftovers are saved. -/
theorem Holds.save (h : Holds context l) (hm : l.length % 64 + m.length < 64) :
    Holds { context with
      buffer := memcpy context.buffer (l.length % 64) m
      bitcount := context.bitcount + BitVec.ofNat 64 m.length <<< 3 } (l ++ m) := by
  have hrest : (rest 64 l ++ m).length < 64 := by
    rwa [List.length_append, length_rest (by norm_num)]
  have hmod : (l.length + m.length) % 64 = l.length % 64 + m.length := by omega
  refine ⟨?_, ?_, ?_, ?_⟩
  · rw [chain_append (by norm_num), chain_of_lt hrest, ← h.state]
  · change context.bitcount + _ = _
    rw [h.bitcount, ofNat_shiftLeft, ← BitVec.ofNat_add, List.length_append, Nat.mul_add]
  · exact (length_memcpy (by rw [h.length]; omega)).trans h.length
  · change (memcpy _ _ _).take _ = _
    rw [List.length_append, hmod, rest_append (by norm_num), rest_of_lt hrest, memcpy, h.buffer,
      ← List.append_assoc]
    refine List.take_left' ?_
    rw [List.length_append, length_rest (by norm_num)]

theorem updateBlocks_holds : ∀ {context : SHA256_CTX} {l data : List UInt8}, Holds context l →
    l.length % 64 = 0 → Holds (updateBlocks context data) (l ++ data) := by
  intro context l data
  induction context, data using updateBlocks.induct generalizing l with
  | case1 context data hle context' =>
    rename_i ih
    intro h h0
    have htake : (data.take 64).length = 64 := List.length_take_of_le hle
    have hfill := h.fill (m := data.take 64) (by omega)
    have hraised : { context' with bitcount := context'.bitcount + (64 <<< 3 : ℕ) } = processBuffer _ :=
      processBuffer_bitcount
    rw [h0, htake] at hfill
    have hnext := ih (hraised ▸ hfill) (by rw [List.length_append]; omega)
    rw [List.append_assoc, List.take_append_drop] at hnext
    rwa [updateBlocks, if_pos hle]
  | case2 context data hlt hpos =>
    intro h h0
    have hsave := h.save (m := data) (by omega)
    rw [h0] at hsave
    rwa [updateBlocks, if_neg hlt, if_pos hpos]
  | case3 context data hlt hpos =>
    intro h h0
    obtain rfl : data = [] := List.length_eq_zero_iff.1 (by omega)
    rwa [updateBlocks, if_neg hlt, if_neg hpos, List.append_nil]

/-- `sha256_Update` appends. -/
theorem Holds.update (h : Holds context l) : Holds (sha256Update context data) (l ++ data) := by
  rw [sha256Update]
  split
  · next h0 =>
    obtain rfl : data = [] := List.length_eq_zero_iff.1 h0
    rwa [List.append_nil]
  · simp only [h.usedspace]
    split_ifs with hused hfull
    · have htake : (data.take (64 - l.length % 64)).length = 64 - l.length % 64 :=
        List.length_take_of_le hfull
      have hfill := h.fill (m := data.take (64 - l.length % 64)) (by omega)
      rw [htake] at hfill
      have hblocks : Holds (updateBlocks _ (data.drop (64 - l.length % 64))) _ :=
        updateBlocks_holds hfill (by rw [List.length_append]; omega)
      rw [List.append_assoc, List.take_append_drop] at hblocks
      rwa [Nat.shiftLeft_eq, mul_comm]
    · exact h.save (by omega)
    · exact updateBlocks_holds h (by omega)

/-- Calls of `sha256_Update` one after the other. -/
theorem Holds.updates (h : Holds context l) : ∀ {chunks : List (List UInt8)},
    Holds (chunks.foldl sha256Update context) (l ++ chunks.flatten) := by
  intro chunks
  induction chunks generalizing context l with
  | nil => rwa [List.flatten_nil, List.append_nil]
  | cons data chunks ih =>
    rw [List.flatten_cons, ← List.append_assoc]
    exact ih h.update

/-! ## `sha256_Final` -/

theorem ofNat_beNat_natBe {x : ℕ} : BitVec.ofNat 32 (beNat (natBe 4 x)) = .ofNat 32 x := by
  rw [natBe_congr (Nat.mod_mod x (256 ^ 4)).symm, beNat_natBe (Nat.mod_lt _ (by norm_num))]
  refine BitVec.eq_of_toNat_eq ?_
  rw [BitVec.toNat_ofNat, BitVec.toNat_ofNat]
  exact Nat.mod_mod x (2 ^ 32)

theorem high_word {x : ℕ} : ((BitVec.ofNat 64 x >>> 32).setWidth 32 : Word) =
    .ofNat 32 (x / 256 ^ 4) := by
  refine BitVec.eq_of_toNat_eq ?_
  rw [BitVec.toNat_setWidth, BitVec.toNat_ushiftRight, BitVec.toNat_ofNat, BitVec.toNat_ofNat,
    Nat.shiftRight_eq_div_pow]
  omega

theorem low_word {x : ℕ} : ((BitVec.ofNat 64 x &&& 0xffffffff).setWidth 32 : Word) =
    .ofNat 32 x := by
  have hmask : (0xffffffff : BitVec 64).toNat = 2 ^ 32 - 1 := rfl
  refine BitVec.eq_of_toNat_eq ?_
  rw [BitVec.toNat_setWidth, BitVec.toNat_and, hmask, Nat.and_two_pow_sub_one_eq_mod,
    BitVec.toNat_ofNat, BitVec.toNat_ofNat]
  omega

/-- The words of the last block: 14 from the buffer and the length. -/
theorem last_block {x t : ℕ} (hb : buffer.length = 64) (ht : t < 16) :
    (words (store32 (store32 (reverseWords 14 buffer) 14 ((BitVec.ofNat 64 x >>> 32).setWidth 32))
      15 ((BitVec.ofNat 64 x &&& 0xffffffff).setWidth 32))).getD t 0 =
      schedule (buffer.take 56 ++ natBe 8 x) t := by
  obtain ⟨hlen, hload⟩ := reverseWords_spec hb (show 14 ≤ 16 by norm_num)
  have htake : (buffer.take 56).length = 56 := List.length_take_of_le (by omega)
  have hlength : natBe 8 x = natBe 4 (x / 256 ^ 4) ++ natBe 4 x :=
    natBe_add (j := 4) (k := 4)
  rw [getD_words ht, load32_store32 (by rw [length_store32 (by omega)]; omega),
    load32_store32 (by omega), hload, schedule, if_pos ht, high_word, low_word]
  rcases lt_trichotomy t 14 with h | rfl | h
  · rw [if_neg (by omega), if_neg h.ne, if_pos h, reverse32_load32 (by omega)]
    have hbytes : ((buffer.take 56 ++ natBe 8 x).drop (4 * t)).take 4 =
        (buffer.drop (4 * t)).take 4 := by
      rw [List.drop_append_of_le_length (by omega),
        List.take_append_of_le_length (by rw [List.length_drop]; omega), List.drop_take,
        List.take_take, min_eq_left (by omega)]
    rw [hbytes]
  · rw [if_neg (by norm_num), if_pos rfl, List.drop_left' htake, hlength,
      List.take_left' length_natBe, ofNat_beNat_natBe]
  · obtain rfl : t = 15 := by omega
    have hdrop : (buffer.take 56 ++ natBe 8 x).drop (4 * 15) = natBe 4 x := by
      rw [hlength, ← List.append_assoc]
      refine List.drop_left' ?_
      rw [List.length_append, htake, length_natBe]
    rw [if_pos rfl, hdrop, List.take_of_length_le (by rw [length_natBe]), ofNat_beNat_natBe]

/-- What is put behind the rest of a message. -/
theorem chain_padding {u : ℕ} (hu : l.length % 64 = u) :
    chain compress 64 initial (l ++ padding l.length) =
      if u + 1 ≤ 56 then
        compress (chain compress 64 initial l)
          (rest 64 l ++ [0x80] ++ List.replicate (55 - u) 0 ++ natBe 8 (8 * l.length))
      else
        compress (compress (chain compress 64 initial l)
            (rest 64 l ++ [0x80] ++ List.replicate (63 - u) 0))
          (List.replicate 56 0 ++ natBe 8 (8 * l.length)) := by
  have hrest : (rest 64 l).length = u := (length_rest (by norm_num)).trans hu
  have hlt : u < 64 := hu ▸ Nat.mod_lt _ (by norm_num)
  split
  · next h =>
    have hzeros : (119 - u) % 64 = 55 - u := by omega
    rw [chain_fill (by norm_num), padding, hu, hzeros]
    · simp only [List.append_assoc, List.cons_append, List.nil_append]
    · rw [List.length_append, hrest, padding, hu, hzeros]
      simp only [List.length_cons, List.length_append, List.length_replicate, length_natBe]
      omega
  · next h =>
    have hzeros : (119 - u) % 64 = (63 - u) + 56 := by omega
    have hsplit : padding l.length = ([0x80] ++ List.replicate (63 - u) 0) ++
        (List.replicate 56 0 ++ natBe 8 (8 * l.length)) := by
      rw [padding, hu, hzeros, List.replicate_add]
      simp only [List.append_assoc, List.cons_append, List.nil_append]
    have hfill : (rest 64 l ++ ([0x80] ++ List.replicate (63 - u) 0)).length = 64 := by
      simp only [List.length_append, hrest, List.length_singleton, List.length_replicate]
      omega
    have hlast : (List.replicate 56 (0 : UInt8) ++ natBe 8 (8 * l.length)).length = 64 := by
      rw [List.length_append, List.length_replicate, length_natBe]
    rw [hsplit, ← List.append_assoc l, chain_append (by norm_num),
      chain_fill (by norm_num) hfill, rest_fill (by norm_num) hfill, List.nil_append,
      ← List.append_nil (List.replicate 56 (0 : UInt8) ++ _), chain_block (by norm_num) hlast,
      chain_of_lt (by norm_num), List.append_nil, List.append_assoc (rest 64 l)]

theorem length_memzero {pos len : ℕ} (h : pos + len ≤ buffer.length) :
    (memzero buffer pos len).length = buffer.length :=
  length_memcpy (by rwa [List.length_replicate])

theorem take_memzero {pos len : ℕ} (h : pos + len ≤ buffer.length) :
    (memzero buffer pos len).take (pos + len) = buffer.take pos ++ List.replicate len 0 := by
  rw [memzero, memcpy, ← List.append_assoc]
  refine List.take_left' ?_
  rw [List.length_append, List.length_take_of_le (by omega), List.length_replicate]

/-- The transform of the last block. -/
theorem final_transform {x pos : ℕ} (hb : buffer.length = 64) (hpos : pos ≤ 56) :
    sha256Transform v (words (store32 (store32 (reverseWords 14 (memzero buffer pos (56 - pos))) 14
        ((BitVec.ofNat 64 x >>> 32).setWidth 32)) 15
        ((BitVec.ofNat 64 x &&& 0xffffffff).setWidth 32))) =
      compress v (buffer.take pos ++ List.replicate (56 - pos) 0 ++ natBe 8 x) := by
  have htake : (memzero buffer pos (56 - pos)).take (pos + (56 - pos)) =
      buffer.take pos ++ List.replicate (56 - pos) 0 := take_memzero (by omega)
  rw [Nat.add_sub_cancel' hpos] at htake
  rw [← htake]
  refine sha256Transform_eq fun t ht => last_block ?_ ht
  rw [length_memzero (by omega), hb]

/-- `sha256_Final` pads. -/
theorem Holds.final (h : Holds context l) : sha256Final context = (sha256 l).toList := by
  obtain ⟨u, hu⟩ : ∃ u, l.length % 64 = u := ⟨_, rfl⟩
  have hlt : u < 64 := hu ▸ Nat.mod_lt _ (by norm_num)
  have hused := h.usedspace
  obtain ⟨state, bitcount, buffer⟩ := context
  obtain ⟨rfl, rfl, hlen, hbuffer⟩ := h
  have hmark : (memcpy buffer u [0x80]).length = 64 :=
    (length_memcpy (by rw [hlen]; exact hlt)).trans hlen
  have htake : (memcpy buffer u [0x80]).take (u + 1) = rest 64 l ++ [0x80] := by
    rw [memcpy, ← List.append_assoc, ← hu, hbuffer]
    refine List.take_left' ?_
    rw [List.length_append, length_rest (by norm_num), List.length_singleton]
  have hdigest : ∀ state : Vars, (state.toList.flatMap fun w => le32 (reverse32 w)) =
      state.digest.toList := by
    intro state
    rw [Vars.digest]
    simp only [le32_reverse32]
  rw [sha256, chain_padding hu]
  simp only [sha256Final, hused, hu, hdigest]
  by_cases hone : u + 1 > 56
  · have hzero : (memzero (memcpy buffer u [0x80]) (u + 1) (64 - (u + 1))).length = 64 := by
      rw [length_memzero (by omega), hmark]
    have hblock : memzero (memcpy buffer u [0x80]) (u + 1) (64 - (u + 1)) =
        rest 64 l ++ [0x80] ++ List.replicate (63 - u) 0 := by
      have hend : u + 1 + (64 - (u + 1)) = 64 := by omega
      have hsub : 64 - (u + 1) = 63 - u := by omega
      have hwhole : (memzero (memcpy buffer u [0x80]) (u + 1) (64 - (u + 1))).take
          (u + 1 + (64 - (u + 1))) =
          (memcpy buffer u [0x80]).take (u + 1) ++ List.replicate (64 - (u + 1)) 0 :=
        take_memzero (by omega)
      rw [hend, List.take_of_length_le hzero.le, htake] at hwhole
      rw [hwhole, hsub]
    rw [if_pos hone, if_neg (by omega)]
    simp only [processBuffer_eq]
    rw [final_transform (reverseWords_spec hzero le_rfl).1 (Nat.zero_le 56),
      full_transform hzero, hblock]
    rfl
  · have hsub : 56 - (u + 1) = 55 - u := by omega
    rw [if_neg hone, if_pos (by omega)]
    simp only
    rw [final_transform hmark (by omega), htake, hsub]

/-! ## The hash -/

theorem sha256Raw_eq : sha256Raw data = (sha256 data).toList := by
  have h : Holds (sha256Update sha256Init data) ([] ++ data) := sha256Init_holds.update
  rw [sha256Raw, h.final, List.nil_append]

/-- What `sha256_Raw` writes to a digest of 32 bytes. -/
def sha256Digest (data : List UInt8) : Bytes 32 :=
  ⟨sha256Raw data, by rw [sha256Raw_eq, Bytes.length_toList]⟩

theorem sha256Digest_eq : sha256Digest = sha256 := funext fun _ => Bytes.ext sha256Raw_eq

/-- **Hashing in pieces**: however the data is cut, the digest is SHA-256 of it all. -/
theorem hash_chunks (chunks : List (List UInt8)) :
    sha256Final (chunks.foldl sha256Update sha256Init) = (sha256 chunks.flatten).toList := by
  have h : Holds (chunks.foldl sha256Update sha256Init) ([] ++ chunks.flatten) :=
    sha256Init_holds.updates
  rw [h.final, List.nil_append]

end CotMta.Trezor.Sha2
