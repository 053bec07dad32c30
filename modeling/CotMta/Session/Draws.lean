/-
  The random scalars of both sides: what is drawn last before the loop ends, and
  every valid scalar equally often.
-/
import CotMta.Lib.Rejection
import CotMta.Client.Curve
import CotMta.Server.Curve

namespace CotMta.Session

open Secp256k1 Rejection

variable {N : ℕ} {v : Bytes 32}

/-! ## The loops -/

/-- The condition on which both loops end. -/
def accepts (s : Bytes 32) : Bool := decide (ValidScalar s)

theorem accepts_iff_valid {s : Bytes 32} : accepts s = true ↔ ValidScalar s := decide_eq_true_iff

theorem client_draws (draws : List (Bytes 32)) :
    Client.CryptoOps.generateRandomScalar (draws.map Bytes.toList) =
      (firstAccepted accepts draws).map
        fun r => (r.1.toList, r.2.map Bytes.toList) := by
  induction draws with
  | nil => rfl
  | cons s draws ih =>
    have hvalid : (Client.CryptoOps.bytesToBigInt s.toList ≠ 0 ∧
        Client.CryptoOps.bytesToBigInt s.toList < Client.CryptoOps.order) ↔ ValidScalar s := by
      rw [← Client.CryptoOps.isRandomScalar_iff, Client.CryptoOps.isRandomScalar]
      simp
    simp only [List.map_cons, Client.CryptoOps.generateRandomScalar, hvalid, firstAccepted]
    by_cases h : ValidScalar s
    · simp [accepts, h]
    · simpa [accepts, h] using ih

/-- The low bytes of 32 draws. -/
def lowBytes (block : Fin 32 → Fin (2 ^ 32)) : Bytes 32 :=
  ⟨List.ofFn fun i => UInt8.ofNat (block i), by simp⟩

theorem server_draws (blocks : List (Fin 32 → Fin (2 ^ 32))) :
    (Server.CryptoOps.generateRandomScalar (blocks.flatMap List.ofFn)).map Prod.fst =
      (firstAccepted accepts (blocks.map lowBytes)).map Prod.fst := by
  induction blocks with
  | nil =>
    rw [List.flatMap_nil, Server.CryptoOps.generateRandomScalar, dif_neg (by simp)]
    rfl
  | cons block blocks ih =>
    have hlen : (List.ofFn block).length = 32 := List.length_ofFn
    rw [List.flatMap_cons, Server.CryptoOps.generateRandomScalar,
      dif_pos (by rw [List.length_append]; omega)]
    have hlow : (⟨((List.ofFn block ++ blocks.flatMap List.ofFn).take 32).map
        fun r => UInt8.ofNat r, by simp⟩ : Bytes 32) = lowBytes block := by
      refine Bytes.ext ?_
      simp only [List.take_left' hlen, lowBytes]
      rfl
    simp only [List.map_cons, firstAccepted, hlow, List.drop_left' hlen,
      Server.CryptoOps.isValidScalar_eq]
    by_cases h : ValidScalar (lowBytes block)
    · simp [accepts, h]
    · simpa [accepts, h] using ih

/-! ## Counting -/

/-- There are `n - 1` valid scalars. -/
theorem card_valid : ({s | accepts s = true} : Finset (Bytes 32)).card = n - 1 := by
  rw [← Nat.sub_zero n, ← Nat.card_Ioo 0 n]
  refine Finset.card_bij (fun s _ => s.nat) ?_ ?_ ?_
  · intro s hs
    exact Finset.mem_Ioo.2 (accepts_iff_valid.1 (Finset.mem_filter.1 hs).2)
  · intro s _ t _ h
    exact Bytes.nat_injective h
  · intro k hk
    obtain ⟨h0, hk⟩ := Finset.mem_Ioo.1 hk
    have hnat : (Bytes.ofNat 32 k).nat = k := Bytes.nat_ofNat (hk.trans (by norm_num [n]))
    have hvalid : ValidScalar (Bytes.ofNat 32 k) := by
      rw [ValidScalar, hnat]
      exact ⟨h0, hk⟩
    exact ⟨Bytes.ofNat 32 k, Finset.mem_filter.2 ⟨Finset.mem_univ _, accepts_iff_valid.2 hvalid⟩, hnat⟩

theorem card_invalid :
    ({s | accepts s = false} : Finset (Bytes 32)).card = 2 ^ 256 - (n - 1) := by
  have h := card_accept_add_card_reject accepts
  rw [card_valid, Bytes.card_bytes] at h
  -- the sets are too large to be looked at
  generalize ({s | accepts s = false} : Finset (Bytes 32)).card = k at h ⊢
  have hpow : 256 ^ 32 = 2 ^ 256 := by norm_num
  omega

/-- Each byte is the low byte of as many draws. -/
theorem card_low_byte (x : UInt8) :
    ({r | UInt8.ofNat r = x} : Finset (Fin (2 ^ 32))).card = 2 ^ 24 := by
  have hx := x.toNat_lt
  have hlow : ∀ r : ℕ, UInt8.ofNat r = x ↔ r % 256 = x.toNat := by
    intro r
    rw [← UInt8.toNat_inj, UInt8.toNat_ofNat']
  have hcard : ({r | UInt8.ofNat r = x} : Finset (Fin (2 ^ 32))).card =
      (Finset.univ : Finset (Fin (2 ^ 24))).card := by
    refine Finset.card_bij' (fun r _ => (⟨r.val / 256, by omega⟩ : Fin (2 ^ 24)))
      (fun k _ => (⟨x.toNat + 256 * k.val, by omega⟩ : Fin (2 ^ 32))) ?_ ?_ ?_ ?_
    · exact fun _ _ => Finset.mem_univ _
    · intro k _
      refine Finset.mem_filter.2 ⟨Finset.mem_univ _, (hlow _).2 ?_⟩
      simp only
      omega
    · intro r hr
      have hr := (hlow _).1 (Finset.mem_filter.1 hr).2
      refine Fin.ext ?_
      simp only
      omega
    · intro k _
      refine Fin.ext ?_
      simp only
      omega
  rw [hcard, Finset.card_univ, Fintype.card_fin]

theorem card_lowBytes (s : Bytes 32) :
    ({block | lowBytes block = s} : Finset (Fin 32 → Fin (2 ^ 32))).card = (2 ^ 24) ^ 32 := by
  have hpi : ({block | lowBytes block = s} : Finset (Fin 32 → Fin (2 ^ 32))) =
      Fintype.piFinset fun i : Fin 32 =>
        {r : Fin (2 ^ 32) | UInt8.ofNat r = s.toList.get ⟨i, by rw [s.length_toList]; exact i.isLt⟩} := by
    ext block
    simp only [Finset.mem_filter, Finset.mem_univ, true_and, Fintype.mem_piFinset]
    constructor
    · rintro rfl i
      simp only [lowBytes, List.get_eq_getElem, List.getElem_ofFn]
    · intro h
      refine Bytes.ext (List.ext_getElem (by simp) fun i hi _ => ?_)
      rw [Bytes.length_toList] at hi
      simp only [lowBytes, List.getElem_ofFn]
      exact h ⟨i, hi⟩
  rw [hpi, Fintype.card_piFinset, Finset.prod_congr rfl fun i _ => card_low_byte _,
    Finset.prod_const, Finset.card_univ, Fintype.card_fin]

/-- The draws without a result. -/
theorem draws_none {N : ℕ} {w : Fin N → Bytes 32} :
    firstAccepted accepts (List.ofFn w) = none ↔ ∀ i, ¬ValidScalar (w i) := by
  rw [firstAccepted_eq_none, List.forall_mem_ofFn_iff]
  exact forall_congr' fun i => by rw [← accepts_iff_valid, Bool.not_eq_true]

/-- **Random scalars are uniform.**  Of all `N` draws of either side, each valid scalar
    is the result of equally many, and those without a result are the ones where every
    draw is one of the `2 ^ 256 - (n - 1)` others. -/
theorem draws_uniform (N : ℕ) (hv : ValidScalar v) :
    ((n - 1) * ({w | (Client.CryptoOps.generateRandomScalar
        ((List.ofFn w).map Bytes.toList)).map Prod.fst = some v.toList} :
          Finset (Fin N → Bytes 32)).card + (2 ^ 256 - (n - 1)) ^ N = (2 ^ 256) ^ N ∧
      ∀ w : Fin N → Bytes 32, Client.CryptoOps.generateRandomScalar
        ((List.ofFn w).map Bytes.toList) = none ↔ ∀ i, ¬ValidScalar (w i)) ∧
    (n - 1) * ({w | (Server.CryptoOps.generateRandomScalar
        ((List.ofFn w).flatMap List.ofFn)).map Prod.fst = some v} :
          Finset (Fin N → Fin 32 → Fin (2 ^ 32))).card +
        ((2 ^ 24) ^ 32 * (2 ^ 256 - (n - 1))) ^ N = ((2 ^ 32) ^ 32) ^ N ∧
      ∀ w : Fin N → Fin 32 → Fin (2 ^ 32), Server.CryptoOps.generateRandomScalar
        ((List.ofFn w).flatMap List.ofFn) = none ↔ ∀ i, ¬ValidScalar (lowBytes (w i)) := by
  have hcount := card_runs (accepts_iff_valid.2 hv) N
  rw [card_valid, card_invalid, Bytes.card_bytes] at hcount
  refine ⟨⟨?_, fun w => ?_⟩, ?_, fun w => ?_⟩
  · have hruns : ({w | (Client.CryptoOps.generateRandomScalar
        ((List.ofFn w).map Bytes.toList)).map Prod.fst = some v.toList} :
          Finset (Fin N → Bytes 32)) = runs accepts N v := by
      refine Finset.filter_congr fun w _ => ?_
      rw [client_draws, Option.map_map]
      cases firstAccepted accepts (List.ofFn w) with
      | none => simp
      | some r => simp [Bytes.ext_iff]
    rw [hruns]
    exact hcount
  · rw [client_draws, Option.map_eq_none_iff, draws_none]
  · have hruns : ({w | (firstAccepted accepts ((List.ofFn w).map lowBytes)).map Prod.fst = some v} :
        Finset (Fin N → Fin 32 → Fin (2 ^ 32))).card = ((2 ^ 24) ^ 32) ^ N * (runs accepts N v).card :=
      card_runs_map card_lowBytes N
    simp only [server_draws]
    rw [hruns, mul_pow, ← mul_assoc, mul_comm (n - 1), mul_assoc, ← mul_add, hcount, ← mul_pow]
    congr 1
  · rw [← Option.map_eq_none_iff (f := Prod.fst), server_draws, Option.map_eq_none_iff,
      List.map_ofFn, draws_none]
    rfl

/-- The scalar one, from two draws of each side; no scalar from zeros. -/
theorem draws_uniform_one :
    (n - 1) * ({w | (Client.CryptoOps.generateRandomScalar
        ((List.ofFn w).map Bytes.toList)).map Prod.fst = some (Bytes.ofNat 32 1).toList} :
          Finset (Fin 2 → Bytes 32)).card + (2 ^ 256 - (n - 1)) ^ 2 = (2 ^ 256) ^ 2 ∧
    Client.CryptoOps.generateRandomScalar ((List.ofFn fun _ : Fin 2 => Bytes.ofNat 32 0).map
      Bytes.toList) = none ∧
    (n - 1) * ({w | (Server.CryptoOps.generateRandomScalar
        ((List.ofFn w).flatMap List.ofFn)).map Prod.fst = some (Bytes.ofNat 32 1)} :
          Finset (Fin 2 → Fin 32 → Fin (2 ^ 32))).card +
        ((2 ^ 24) ^ 32 * (2 ^ 256 - (n - 1))) ^ 2 = ((2 ^ 32) ^ 32) ^ 2 := by
  have hzero : ¬ValidScalar (.ofNat 32 0) := by decide
  obtain ⟨⟨hclient, hnone⟩, hserver, -⟩ := draws_uniform 2 (v := .ofNat 32 1) (by decide)
  exact ⟨hclient, (hnone _).2 fun _ => hzero, hserver⟩

end CotMta.Session
