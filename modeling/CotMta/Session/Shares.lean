/-
  The additive shares and their check, on both sides.

  The client's shares are weighted sums of the entries.  The server's copies go the
  wrong way, so its loops double and add up the words that lie where `term` does:
  the values stay below `2 n` (`loopVal_lt`) and are congruent to multiples of the
  words (`loopVal_mod`), and the last `bn_mod` makes them canonical.
  `sharesAgree_iff` says for which words the shares are the client's, and
  `checkExact_iff` the same of `verify_mta`, which compares such words.
-/
import CotMta.Client.Arith
import CotMta.Client.OtProtocol
import CotMta.Server.OtProtocol
import Mathlib.Algebra.BigOperators.Fin

namespace CotMta.Session

open Secp256k1 Trezor Trezor.Bignum256 Limbs PartialReduction Server Server.MTA
open Client (Uint8Array)
open Client.CryptoOps (bytesToBigInt_eq bigIntToBytes_natCast)

variable {W : Arith} {s : ℕ}

/-- `∑ 2 ^ i · wᵢ`. -/
def weightedSum (ws : List Scalar) : ℕ := value 2 (ws.map Bytes.nat)

theorem weightedSum_eq_sum (ws : List Scalar) :
    weightedSum ws = ∑ i : Fin ws.length, 2 ^ (i : ℕ) * ws[i].nat := by
  induction ws with
  | nil => rfl
  | cons w ws ih =>
    have hcons : weightedSum (w :: ws) = w.nat + 2 * weightedSum ws := rfl
    have hsum := Fin.sum_univ_succ fun i : Fin (ws.length + 1) => 2 ^ (i : ℕ) * (w :: ws)[i].nat
    have htail : ∀ i : Fin ws.length, 2 ^ (i.succ : ℕ) * (w :: ws)[i.succ].nat =
        2 * (2 ^ (i : ℕ) * ws[i].nat) := by
      intro i
      rw [Fin.val_succ, pow_succ', mul_assoc]
      rfl
    rw [hcons, ih]
    refine Eq.trans ?_ hsum.symm
    rw [Finset.sum_congr rfl fun i _ => htail i, ← Finset.mul_sum, Fin.val_zero, pow_zero, one_mul]
    rfl

/-! ## The loops of the server -/

/-- What the loops multiply the words of `term` by in `k` rounds: `term` is doubled
    once more often in every round. -/
def termWeights (k : ℕ) : ℕ := ∑ i ∈ Finset.range k, 2 ^ ((i + 1) * i / 2)

/-- A round of the share loops, on the values of `sum`, `two_pow_i` and `term`. -/
def stepVal (q : ℕ × ℕ × ℕ) : ℕ × ℕ × ℕ :=
  (addmodVal q.1 (mulVal (q.2.1 * q.2.2)), addmodVal q.2.1 q.2.1, mulVal (q.2.1 * q.2.2))

/-- The values before round `k`, on words of the value `g`. -/
def loopVal (g : ℕ) : ℕ → ℕ × ℕ × ℕ
  | 0 => (0, 1, g)
  | k + 1 => stepVal (loopVal g k)

/-- The range invariant of the loops; `term` is in range from the first round on. -/
theorem loopVal_lt {g : ℕ} (hg : ProductInRange g) : ∀ k, (loopVal g k).1 < 2 * n ∧
    (loopVal g k).2.1 < 2 * n ∧ (loopVal g (k + 1)).2.2 < 2 * n
  | 0 => by
    refine ⟨by norm_num [loopVal, n], by norm_num [loopVal, n], ?_⟩
    have hmul := hg.mulVal_lt
    rwa [← one_mul g] at hmul
  | k + 1 => by
    obtain ⟨hs, ht, hterm⟩ := loopVal_lt hg k
    have hpow := addmodVal_lt ht ht
    exact ⟨addmodVal_lt hs hterm, hpow, mulVal_lt hpow hterm⟩

/-- What the values are modulo the order. -/
theorem loopVal_mod {g : ℕ} : ∀ k, (loopVal g k).1 ≡ termWeights k * g [MOD n] ∧
    (loopVal g k).2.1 ≡ 2 ^ k [MOD n] ∧
    (loopVal g (k + 1)).2.2 ≡ 2 ^ ((k + 1) * k / 2) * g [MOD n]
  | 0 => by
    refine ⟨?_, rfl, ?_⟩
    · rw [termWeights, Finset.sum_range_zero, zero_mul]
      rfl
    · rw [mul_zero, Nat.zero_div, pow_zero]
      exact mulVal_mod
  | k + 1 => by
    obtain ⟨hs, ht, hterm⟩ := loopVal_mod (g := g) k
    have hpow : (loopVal g (k + 1)).2.1 ≡ 2 ^ (k + 1) [MOD n] := by
      rw [pow_succ, mul_two]
      exact Nat.ModEq.trans addmodVal_mod (ht.add ht)
    refine ⟨?_, hpow, ?_⟩
    · rw [termWeights, Finset.sum_range_succ, add_mul]
      exact Nat.ModEq.trans addmodVal_mod (hs.add hterm)
    · have htriangle : (k + 1 + 1) * (k + 1) / 2 = k + 1 + (k + 1) * k / 2 := by
        have h := Nat.triangle_succ (k + 1)
        rw [Nat.add_sub_cancel, Nat.add_sub_cancel] at h
        rw [h, add_comm]
      rw [htriangle, pow_add, mul_assoc]
      exact Nat.ModEq.trans mulVal_mod (hpow.mul hterm)

/-- `term` before round `k`: first the words, then partly reduced numbers. -/
def loopTerm (term : Words) : ℕ → Bignum256
  | 0 => .ofWords term
  | k + 1 => ofNat (loopVal (wordsVal term) (k + 1)).2.2

theorem bnMultiplyChecked_loopTerm (term : Words) : ∀ k,
    bnMultiplyChecked W (ofNat (loopVal (wordsVal term) k).2.1) (loopTerm term k) order =
      some (loopTerm term (k + 1))
  | 0 => by
    have h := bnMultiplyChecked_one (W := W) (w := term)
    rw [bnOne_eq, ← one_mul (wordsVal term)] at h
    exact h
  | k + 1 => bnMultiplyChecked_order (loopVal_lt wordsVal_lt (k + 1)).2.1
      (loopVal_lt wordsVal_lt k).2.2

/-- **The loop never fails,** whatever lies in memory and whatever arithmetic it is
    computed in, and it does not look at the entries. -/
theorem shareLoop_eq (term : Words) (ws : List Scalar) : shareLoop W term ws =
    some ⟨ofNat (loopVal (wordsVal term) ws.length).1,
      ofNat (loopVal (wordsVal term) ws.length).2.1, loopTerm term ws.length⟩ := by
  induction ws using List.reverseRecOn with
  | nil =>
    have hzero : bnZero = ofNat 0 := by decide +kernel
    rw [shareLoop, List.foldlM_nil, shareInit, hzero, bnOne_eq]
    rfl
  | append_singleton ws w ih =>
    obtain ⟨hs, ht, hterm⟩ := loopVal_lt (wordsVal_lt (w := term)) ws.length
    rw [shareLoop] at ih
    rw [shareLoop, List.foldlM_append, ih, List.length_append, List.length_singleton]
    have hsum : bnAddmod W (ofNat (loopVal (wordsVal term) ws.length).1)
        (loopTerm term (ws.length + 1)) order =
          ofNat (loopVal (wordsVal term) (ws.length + 1)).1 := bnAddmod_order hs hterm
    simp only [Option.bind_eq_bind, Option.bind_some, List.foldlM_cons, List.foldlM_nil, shareStep,
      bnMultiplyChecked_loopTerm, hsum, bnAddmod_order ht ht]
    rfl

theorem negatedSum_eq (hs : s < 2 * n) : negatedSum W (ofNat s) = ofNat (2 * n - s) := by
  have hz : bnZero = ofNat 0 := by decide +kernel
  rw [negatedSum, hz, Trezor.order_eq, bnSubtractmod_ofNat (by norm_num) (hs.trans two_n_lt)
    (by norm_num [n]) (by omega), zero_add]

/-- Bob's share: the words of `term` times a constant. -/
theorem computeBobShare_eq (term : Words) (y : Scalar) (ws : List Scalar) :
    computeBobShare W term y ws =
      some (Bytes.ofNat 32 (termWeights ws.length * wordsVal term % n)) := by
  obtain ⟨hs, -, -⟩ := loopVal_lt (wordsVal_lt (w := term)) ws.length
  have hmod : _ % n = _ % n := (loopVal_mod (g := wordsVal term) ws.length).1
  simp only [computeBobShare, shareLoop_eq, Option.bind_eq_bind, Option.bind_some]
  rw [bnMod_order hs, hmod, bnWriteBe_ofNat ((Nat.mod_lt _ n_pos).trans_le n_le)]

/-- The server's additive share: a multiple of the words where `term` lies. -/
def serverShare (term : Words) : Scalar := Bytes.ofNat 32 (termWeights 256 * wordsVal term % n)

theorem nat_serverShare {term : Words} :
    (serverShare term).nat = termWeights 256 * wordsVal term % n :=
  Bytes.nat_ofNat ((Nat.mod_lt _ n_pos).trans (by norm_num [n]))

/-- The server looks at nothing that it has decrypted. -/
theorem server_share (term : Words) (y : Scalar) {mc_values : List Scalar}
    (hlen : mc_values.length = 256) :
    computeBobShare machine term y mc_values = some (serverShare term) := by
  rw [computeBobShare_eq, hlen, serverShare]

theorem two_n_sub_mod (hs : s < 2 * n) : (2 * n - s) % n = (n - s % n) % n := by
  have hdm := Nat.mod_add_div s n
  have hr := Nat.mod_lt s n_pos
  have hq : s / n < 2 := (Nat.div_lt_iff_lt_mul n_pos).2 hs
  generalize s % n = r at hdm hr ⊢
  generalize s / n = q at hdm hq
  have hn := n_pos
  generalize n = m at *
  interval_cases q
  · rw [show 2 * m - s = m - r + m by omega, Nat.add_mod_right]
  · rw [show 2 * m - s = m - r by omega]

/-- Alice's share as the server computes it. -/
theorem computeAliceShare_eq (term : Words) (ws : List Scalar) :
    computeAliceShare W term ws =
      some (Bytes.ofNat 32 ((n - termWeights ws.length * wordsVal term % n) % n)) := by
  obtain ⟨hlt, -, -⟩ := loopVal_lt (wordsVal_lt (w := term)) ws.length
  have hmod : _ % n = _ % n := (loopVal_mod (g := wordsVal term) ws.length).1
  simp only [computeAliceShare, shareLoop_eq, Option.bind_eq_bind, Option.bind_some,
    bnIsZero_ofNat (hlt.trans two_n_lt)]
  rw [← hmod]
  generalize (loopVal (wordsVal term) ws.length).1 = s at hlt ⊢
  by_cases h0 : s = 0
  · simp [h0]
  · have hr : (2 * n - s) % n < n := Nat.mod_lt _ n_pos
    simp only [h0, decide_false, Bool.false_eq_true, if_false]
    rw [negatedSum_eq hlt, bnMod_order (by omega), bnMod_order (by omega), Nat.mod_mod,
      bnWriteBe_ofNat (hr.trans_le n_le), two_n_sub_mod hlt]

/-! ## The loops of the client -/

open Client.MTAProtocol (sumLoop)

theorem sumLoop_eq : ∀ (i s : ℕ) (ws : List Scalar),
    sumLoop i (s % n : ℕ) (ws.map Bytes.toList) = ((s + 2 ^ i * weightedSum ws) % n : ℕ)
  | i, s, [] => by simp [sumLoop, weightedSum, value]
  | i, s, w :: ws => by
    have hstep : (((s % n : ℕ) : ℤ) + Client.CryptoOps.bytesToBigInt w.toList <<< i).tmod
        Client.CryptoOps.order = ((s + 2 ^ i * w.nat) % n : ℕ) := by
      have hshift : Client.CryptoOps.bytesToBigInt w.toList <<< i = (2 ^ i * w.nat : ℕ) := by
        rw [bytesToBigInt_eq, Int.shiftLeft_eq, mul_comm]
        push_cast
        rfl
      rw [hshift, Client.CryptoOps.order_eq, ← Nat.cast_add, ← Int.ofNat_tmod, Nat.mod_add_mod]
    rw [List.map_cons, sumLoop, hstep, sumLoop_eq]
    congr 2
    simp only [weightedSum, List.map_cons, value]
    ring

theorem clientAliceShare_eq (ws : List Scalar) :
    Client.MTAProtocol.computeAliceShare (ws.map Bytes.toList) =
      natBe 32 ((n - weightedSum ws % n) % n) := by
  have h := sumLoop_eq 0 0 ws
  rw [Nat.zero_mod, zero_add, pow_zero, one_mul, Nat.cast_zero] at h
  rw [Client.MTAProtocol.computeAliceShare, h, Client.CryptoOps.order_eq,
    ← Nat.cast_sub (Nat.mod_lt _ n_pos).le, ← Int.ofNat_tmod, bigIntToBytes_natCast]

theorem clientBobShare_eq (ws : List Scalar) :
    Client.MTAProtocol.computeBobShare (ws.map Bytes.toList) =
      natBe 32 (weightedSum ws % n) := by
  have h := sumLoop_eq 0 0 ws
  rw [Nat.zero_mod, zero_add, pow_zero, one_mul, Nat.cast_zero] at h
  rw [Client.MTAProtocol.computeBobShare, h, bigIntToBytes_natCast]

/-! ## Both sides -/

/-- The ranges that the calls of a round and those behind the loop ask for:
    normalized numbers below `180 n` for `bn_multiply`, else partly reduced ones. -/
structure InRange (state : ShareState) : Prop where
  sum : PartlyReduced n state.sum
  two_pow_i : PartlyReduced n state.two_pow_i
  term : ∃ v < 180 * n, state.term = ofNat v
  product : ∃ product, bnMultiplyChecked machine state.two_pow_i state.term order = some product ∧
    PartlyReduced n product
  negated : bnIsZero state.sum = false → PartlyReduced n (negatedSum machine state.sum)

/-- The shares of the server are those of the client and the canonical encodings of
    `-∑ 2 ^ i wᵢ` and `∑ 2 ^ i wᵢ`; the numbers are always in range, and nowhere does
    wrapping change one of them. -/
structure SharesAgree (term : Words) (y : Scalar) (ws : List Scalar) : Prop where
  alice : ∃ u, computeAliceShare machine term ws = some u ∧
    u.toList = Client.MTAProtocol.computeAliceShare (ws.map Bytes.toList) ∧
    (u.nat : ℤ) = -(weightedSum ws : ℤ) % n
  bob : ∃ v, computeBobShare machine term y ws = some v ∧
    v.toList = Client.MTAProtocol.computeBobShare (ws.map Bytes.toList) ∧
    v.nat = weightedSum ws % n
  inRange : ∀ i ≤ ws.length, ∃ state, shareLoop machine term (ws.take i) = some state ∧
    InRange state
  unwrapped : ∀ i ≤ ws.length, ∃ state, shareLoop machine term (ws.take i) = some state ∧
    shareLoop exact term (ws.take i) = some state ∧
    negatedSum machine state.sum = negatedSum exact state.sum
  alice_unwrapped : computeAliceShare machine term ws = computeAliceShare exact term ws
  bob_unwrapped : computeBobShare machine term y ws = computeBobShare exact term y ws

/-- The words are a number that `bn_multiply` takes. -/
def WordsFit (w : Words) : Prop := (∀ i, (w i).toNat < 2 ^ 30) ∧ wordsVal w < 180 * n

instance {w : Words} : Decidable (WordsFit w) := inferInstanceAs (Decidable (_ ∧ _))

theorem wordsFit_iff {w : Words} : WordsFit w ↔ ∃ v < 180 * n, Bignum256.ofWords w = ofNat v := by
  have hlimb : ∀ i : Fin 9, (Bignum256.ofWords w).limb i = (w i).toNat := by
    intro i
    rw [Bignum256.ofWords, limb_ofFn i.isLt, Fin.ofNat_eq_cast, Fin.cast_val_eq_self]
  constructor
  · rintro ⟨hwords, hlt⟩
    refine ⟨wordsVal w, hlt, (ofNat_nat fun i hi => ?_).symm⟩
    rw [hlimb ⟨i, hi⟩]
    exact hwords ⟨i, hi⟩
  · rintro ⟨v, hv, heq⟩
    refine ⟨fun i => ?_, ?_⟩
    · rw [← hlimb, heq]
      exact limb_ofNat_lt
    · rwa [wordsVal, heq, nat_ofNat (hv.trans (by norm_num [n]))]

theorem inRange_iff {term : Words} {k : ℕ} :
    InRange ⟨ofNat (loopVal (wordsVal term) k).1, ofNat (loopVal (wordsVal term) k).2.1,
      loopTerm term k⟩ ↔ k = 0 → WordsFit term := by
  obtain ⟨hs, ht, hterm⟩ := loopVal_lt (wordsVal_lt (w := term)) k
  constructor
  · rintro h rfl
    exact wordsFit_iff.2 h.term
  · intro h
    refine ⟨⟨_, hs, rfl⟩, ⟨_, ht, rfl⟩, ?_, ⟨_, bnMultiplyChecked_loopTerm term k, _, hterm, rfl⟩,
      fun hzero => ?_⟩
    · cases k with
      | zero => exact wordsFit_iff.1 (h rfl)
      | succ k => exact ⟨_, (loopVal_lt wordsVal_lt k).2.2.trans (by norm_num [n]), rfl⟩
    · rw [bnIsZero_ofNat (hs.trans two_n_lt), decide_eq_false_iff_not] at hzero
      exact ⟨2 * n - (loopVal (wordsVal term) k).1, by omega, negatedSum_eq hs⟩

/-- **When the shares of the server are those of the client.**  The loops multiply
    the words where `term` lies instead of the entries, so these must be a number in
    range, and its multiple must be the sum. -/
theorem sharesAgree_iff (term : Words) (y : Scalar) (ws : List Scalar) (hlen : ws.length = 256) :
    SharesAgree term y ws ↔
      WordsFit term ∧ termWeights 256 * wordsVal term ≡ weightedSum ws [MOD n] := by
  have hlt (v : ℕ) : v % n < 256 ^ 32 := (Nat.mod_lt v n_pos).trans (by norm_num [n])
  have hbob : (Bytes.ofNat 32 (termWeights 256 * wordsVal term % n)).nat =
      termWeights 256 * wordsVal term % n := Bytes.nat_ofNat (hlt _)
  constructor
  · intro h
    constructor
    · obtain ⟨state, hstate, hrange⟩ := h.inRange 0 (Nat.zero_le _)
      rw [List.take_zero, shareLoop_eq, Option.some.injEq] at hstate
      rw [← hstate] at hrange
      exact inRange_iff.1 hrange rfl
    · obtain ⟨v, hv, -, hsum⟩ := h.bob
      rw [computeBobShare_eq, hlen, Option.some.injEq] at hv
      rw [← hv, hbob] at hsum
      exact hsum
  · rintro ⟨hfit, hsum⟩
    have hsum : termWeights 256 * wordsVal term % n = weightedSum ws % n := hsum
    refine ⟨⟨_, computeAliceShare_eq term ws, ?_, ?_⟩, ⟨_, computeBobShare_eq term y ws, ?_, ?_⟩,
      fun i _ => ⟨_, shareLoop_eq term _, inRange_iff.2 fun _ => hfit⟩,
      fun i _ => ⟨_, shareLoop_eq term _, shareLoop_eq term _, ?_⟩, ?_, ?_⟩
    · rw [hlen, hsum, clientAliceShare_eq, Bytes.ofNat]
    · have hr := (Nat.mod_lt (weightedSum ws) n_pos).le
      rw [hlen, hsum, Bytes.nat_ofNat (hlt _), Int.natCast_mod, Nat.cast_sub hr, Int.natCast_mod,
        Int.sub_emod_emod, sub_eq_neg_add, Int.add_emod_right]
    · rw [hlen, hsum, clientBobShare_eq, Bytes.ofNat]
    · rw [hlen, hbob, hsum]
    · obtain ⟨hs, -, -⟩ := loopVal_lt (wordsVal_lt (w := term)) (ws.take i).length
      rw [negatedSum_eq hs, negatedSum_eq hs]
    · rw [computeAliceShare_eq, computeAliceShare_eq]
    · rw [computeBobShare_eq, computeBobShare_eq]

/-- Zeros in memory, and entries that add up to zero. -/
theorem sharesAgree_zeros : SharesAgree (fun _ => 0) (.ofNat 32 5)
    (List.replicate 255 (.ofNat 32 0) ++ [.ofNat 32 n]) :=
  (sharesAgree_iff _ _ _ (by rw [List.length_append, List.length_replicate]; rfl)).2
    (by decide +kernel)

/-- Zeros in memory, and 256 entries that are one. -/
theorem shares_disagree :
    ¬∀ term y ws, ws.length = 256 → SharesAgree term y ws := by
  intro h
  obtain ⟨v, hv, -, hsum⟩ := (h (fun _ => 0) (.ofNat 32 5) (List.replicate 256 (.ofNat 32 1))
    List.length_replicate).bob
  rw [computeBobShare_eq] at hv
  rw [← Option.some.inj hv] at hsum
  revert hsum
  decide +kernel

/-! ## The check of the shares -/

/-- The product that `verify_mta` computes: `y` times the words where `bn_xy` lies. -/
def wordsProduct (bn_xy : Words) (y : Scalar) : ℕ :=
  wrappedProduct (ofNat y.nat) (.ofWords bn_xy)

/-- The assertions of the multiplication in `verify_mta` hold. -/
def CheckReturns (bn_xy : Words) (y : Scalar) : Prop := ProductInRange (wordsProduct bn_xy y)

instance {bn_xy : Words} {y : Scalar} : Decidable (CheckReturns bn_xy y) :=
  inferInstanceAs (Decidable (ProductInRange _))

/-- What the server compares, `y` times words with words plus `v`; the product may
    stay unreduced. -/
def CheckPasses (bn_xy bn_uv : Words) (y v : Scalar) : Prop :=
  wordsProduct bn_xy y % n +
      (if FallsShort n (2 ^ 256 - n) (2 ^ 30) (wordsProduct bn_xy y) then n else 0) =
    addWordsVal bn_uv v.nat

instance {bn_xy bn_uv : Words} {y v : Scalar} : Decidable (CheckPasses bn_xy bn_uv y v) :=
  inferInstanceAs (Decidable (_ = _))

/-- The check of the server looks at neither `x` nor `u`. -/
theorem verifyMta_eq (bn_xy bn_uv : Words) (x y u v : Scalar) :
    verifyMta machine bn_xy bn_uv x y u v =
      if CheckReturns bn_xy y then some (decide (CheckPasses bn_xy bn_uv y v)) else none := by
  have hmul := bnMultiplyChecked_words (w := bn_xy) y.nat_lt
  simp only [verifyMta, bnReadBe_eq, hmul]
  change (if CheckReturns bn_xy y then some (ofNat (mulVal (wordsProduct bn_xy y))) else
    none).bind _ = _
  split
  next hrange =>
    have hlt := hrange.mulVal_lt.trans two_n_lt
    rw [Option.bind_some, bnAddmod_words, bnIsEqual_ofNat hlt addWordsVal_lt, mulVal_eq hrange]
    rfl
  next => rfl

theorem clientVerify_eq {x y u v : Scalar} :
    Client.MTAProtocol.verify x.toList y.toList u.toList v.toList = true ↔
      x.nat * y.nat % n = (u.nat + v.nat) % n := by
  simp only [Client.MTAProtocol.verify, bytesToBigInt_eq, Client.CryptoOps.order_eq,
    ← Nat.cast_mul, ← Nat.cast_add, ← Int.ofNat_tmod, beq_iff_eq, Nat.cast_inj]
  rfl

/-- The check of the server returns, is exact, and agrees with the client's. -/
def CheckExact (bn_xy bn_uv : Words) (x y u v : Scalar) : Prop :=
  ∃ verified, verifyMta machine bn_xy bn_uv x y u v = some verified ∧
    (verified = true ↔ x.nat * y.nat % n = (u.nat + v.nat) % n) ∧
    verified = Client.MTAProtocol.verify x.toList y.toList u.toList v.toList

/-- **Where the check of the server is exact**: the product of the words is in range,
    and what is compared happens to be equal exactly for right shares. -/
theorem checkExact_iff (bn_xy bn_uv : Words) (x y u v : Scalar) :
    CheckExact bn_xy bn_uv x y u v ↔ CheckReturns bn_xy y ∧
      (CheckPasses bn_xy bn_uv y v ↔ x.nat * y.nat % n = (u.nat + v.nat) % n) := by
  have hclient : ∀ verified, verified =
      Client.MTAProtocol.verify x.toList y.toList u.toList v.toList ↔
        (verified = true ↔ x.nat * y.nat % n = (u.nat + v.nat) % n) := by
    intro verified
    rw [Bool.eq_iff_iff, clientVerify_eq]
  simp only [CheckExact, hclient, and_self, verifyMta_eq]
  by_cases hreturns : CheckReturns bn_xy y
  · simp [hreturns]
  · simp [hreturns]

/-- Zeros in memory: `2 · 3 = 1 + 5` is rejected. -/
theorem check_rejects_right_shares :
    ¬∀ bn_xy bn_uv x y u v, x.nat < n → y.nat < n → u.nat < n → v.nat < n →
      CheckExact bn_xy bn_uv x y u v := by
  intro h
  obtain ⟨verified, hverified, hexact, -⟩ := h (fun _ => 0) (fun _ => 0) (.ofNat 32 2)
    (.ofNat 32 3) (.ofNat 32 1) (.ofNat 32 5) (by decide +kernel) (by decide +kernel)
    (by decide +kernel) (by decide +kernel)
  have hfalse : verifyMta machine (fun _ => 0) (fun _ => 0) (.ofNat 32 2) (.ofNat 32 3)
      (.ofNat 32 1) (.ofNat 32 5) = some false := by decide +kernel
  rw [hfalse, Option.some.injEq] at hverified
  rw [← hverified] at hexact
  exact absurd (hexact.2 (by decide +kernel)) (by decide)

end CotMta.Session
