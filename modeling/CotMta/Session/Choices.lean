/-
  What the parties choose in a session, and the sums that the chosen messages
  add up to.

  Alice offers `Uᵢ` and `Uᵢ + x` in round `i`, Bob takes the one that bit `i` of
  `y` selects; the weighted sum of what he takes is that of the `Uᵢ` plus `x y`
  (`weightedSum_selected`).
-/
import CotMta.Client.Demo
import CotMta.Server.ServerApp
import CotMta.Session.Shares
import CotMta.Session.Transfer

namespace CotMta.Session

open Secp256k1 Limbs Client Server

/-! ## Bits -/

theorem getD_toList {k : ℕ} {b : Bytes k} {i : ℕ} (hi : i < k) :
    (b.toList.getD (k - 1 - i) 0).toNat = b.nat / 256 ^ i % 256 := by
  have hlist : b.toList = natBe k b.nat := by
    rw [← congrArg Bytes.toList (Bytes.ofNat_nat b)]
    rfl
  have hlen : k - 1 - i < (natBe k b.nat).length := by
    rw [length_natBe]
    omega
  rw [hlist, List.getD_eq_getElem _ _ hlen]
  simp only [natBe, List.getElem_reverse, List.length_map, length_limbs, List.getElem_map]
  have hidx : k - 1 - (k - 1 - i) = i := by omega
  have hlimb := getD_limbs (B := 256) (v := b.nat) hi
  rw [List.getD_eq_getElem _ _ (by rwa [length_limbs])] at hlimb
  simp only [hidx, hlimb, UInt8.toNat_ofNat', Nat.mod_mod]

theorem toNat_bit {byte : UInt8} {i : ℕ} :
    (UInt8.ofNat ((byte.toNat >>> i) &&& 1)).toNat = byte.toNat / 2 ^ i % 2 := by
  rw [Nat.shiftRight_eq_div_pow, Nat.and_one_is_mod, UInt8.toNat_ofNat']
  omega

/-- `get_bit` gives the bits of the number. -/
theorem toNat_getBit {y : Scalar} {i : ℕ} (hi : i < 256) :
    (Server.getBit y i).toNat = y.nat / 2 ^ i % 2 := by
  have hpow : (2 : ℕ) ^ i = 256 ^ (i / 8) * 2 ^ (i % 8) := by
    rw [show (256 : ℕ) = 2 ^ 8 by norm_num, ← pow_mul, ← pow_add, Nat.div_add_mod]
  rw [Server.getBit, toNat_bit, getD_toList (by omega), hpow,
    ← Nat.div_div_eq_div_mul]
  generalize y.nat / 256 ^ (i / 8) = v
  have h8 : i % 8 < 8 := Nat.mod_lt _ (by norm_num)
  generalize i % 8 = j at h8
  interval_cases j <;> omega

theorem value_bits (y : Scalar) :
    value 2 ((List.range 256).map fun i => (Server.getBit y i).toNat) = y.nat := by
  have hlt : y.nat < 2 ^ 256 := y.nat_lt
  have hbits : (List.range 256).map (fun i => (Server.getBit y i).toNat) = limbs 2 256 y.nat := by
    refine List.ext_getElem (by simp) fun i h1 h2 => ?_
    have hi : i < 256 := by simpa using h1
    rw [List.getElem_map, List.getElem_range, toNat_getBit hi, ← getD_limbs hi,
      List.getD_eq_getElem _ _ h2]
  rw [hbits, value_limbs_of_lt hlt]

theorem client_getBit {y : Scalar} {i : ℕ} (hi : i < 256) :
    Client.getBit y.toList i = Server.getBit y i := by
  simp only [Client.getBit, Server.getBit, Bytes.length_toList]
  rw [if_pos (by omega)]

/-! ## The choices -/

/-- What Alice is given and draws. -/
structure AliceChoices where
  /-- the option `--x` -/
  given : Option Scalar
  drawn : Scalar
  ui : ℕ → Scalar
  a : ℕ → Scalar
  nonce : ℕ → Bytes 12

namespace AliceChoices
variable (c : AliceChoices)

/-- Her multiplicative share. -/
def x : Scalar := c.given.getD c.drawn

/-- The second message of a round. -/
def m1 (i : ℕ) : Scalar := Bytes.ofNat 32 (((c.ui i).nat + c.x.nat) % n)

/-- What Bob gets in round `i`. -/
def selected (y : Scalar) (i : ℕ) : Scalar := if Server.getBit y i = 0 then c.ui i else c.m1 i

/-- What the client draws are scalars in the range. -/
structure Valid : Prop where
  x : ValidScalar c.x
  ui : ∀ i < 256, ValidScalar (c.ui i)
  a : ∀ i < 256, ValidScalar (c.a i)

/-- The draws of the demos, Bob's part (`y` and `b`) only counts in the local one. -/
def draws (y : Scalar) (b : ℕ → Scalar) : Draws where
  x := c.drawn.toList
  y := y.toList
  m0 i := (c.ui i).toList
  a i := (c.a i).toList
  b i := (b i).toList
  nonce i := (c.nonce i).toList

theorem x_eq : (c.given.map Bytes.toList).getD c.drawn.toList = c.x.toList := by
  rw [x]
  cases c.given <;> rfl

theorem modAdd_eq (i : ℕ) : CryptoOps.modAdd (c.ui i).toList c.x.toList = (c.m1 i).toList :=
  CryptoOps.modAdd_eq

end AliceChoices

/-- No round of the session is degenerate. -/
def NonDegenerate (c : AliceChoices) (y : Scalar) (b : ℕ → Scalar) : Prop :=
  ∀ i < 256, ¬Degenerate (Server.getBit y i) (c.a i) (b i)

/-- Small choices, for examples: the share `3`, and ones. -/
def smallChoices : AliceChoices where
  given := some (.ofNat 32 3)
  drawn := .ofNat 32 1
  ui _ := .ofNat 32 1
  a _ := .ofNat 32 1
  nonce _ := .ofNat 12 0

theorem smallChoices_valid : smallChoices.Valid := by
  have h : ValidScalar (.ofNat 32 1) := by decide
  exact ⟨by decide, fun _ _ => h, fun _ _ => h⟩

theorem smallChoices_nonDegenerate (y : Scalar) :
    NonDegenerate smallChoices y fun _ => .ofNat 32 2 := by
  have hne : Bytes.ofNat 32 1 ≠ Bytes.ofNat 32 2 := by decide
  have hsum : (Bytes.ofNat 32 1).nat + (Bytes.ofNat 32 2).nat ≠ n := by decide
  rintro i - (⟨-, h⟩ | ⟨-, h⟩)
  · exact hne h
  · exact hsum h

/-! ## The sums -/

variable {c : AliceChoices} {y : Scalar}

theorem selected_modEq {i : ℕ} (hi : i < 256) :
    (c.selected y i).nat ≡ (c.ui i).nat + (Server.getBit y i).toNat * c.x.nat [MOD n] := by
  have hbit := toNat_getBit (y := y) hi
  rw [AliceChoices.selected]
  rcases Nat.mod_two_eq_zero_or_one (y.nat / 2 ^ i) with h | h <;> rw [h] at hbit
  · rw [if_pos (UInt8.toNat_inj.1 hbit), hbit, zero_mul, add_zero]
  · have hne : Server.getBit y i ≠ 0 := by
      intro h0
      rw [h0] at hbit
      exact absurd hbit (by decide)
    have hlt : ((c.ui i).nat + c.x.nat) % n < 256 ^ 32 :=
      (Nat.mod_lt _ Trezor.n_pos).trans (by norm_num [n])
    rw [if_neg hne, hbit, one_mul, AliceChoices.m1, Bytes.nat_ofNat hlt]
    exact Nat.mod_modEq _ _

theorem weightedSum_modEq : ∀ is : List ℕ, (∀ i ∈ is, i < 256) →
    weightedSum (is.map (c.selected y)) ≡
      weightedSum (is.map c.ui) + c.x.nat * value 2 (is.map fun i => (Server.getBit y i).toNat)
        [MOD n]
  | [], _ => rfl
  | i :: is, h => by
    have htail := weightedSum_modEq is fun j hj => h j (List.mem_cons_of_mem _ hj)
    have hhead := selected_modEq (c := c) (y := y) (h i (List.mem_cons_self ..))
    simp only [weightedSum, List.map_cons, value] at htail ⊢
    calc _ ≡ _ [MOD n] := hhead.add (htail.mul_left 2)
      _ = _ := by ring

/-- **What Bob takes adds up to Alice's masks plus the product.** -/
theorem weightedSum_selected (c : AliceChoices) (y : Scalar) :
    weightedSum ((List.range 256).map (c.selected y)) ≡
      weightedSum ((List.range 256).map c.ui) + c.x.nat * y.nat [MOD n] := by
  have h := weightedSum_modEq (c := c) (y := y) (List.range 256) fun i hi => List.mem_range.1 hi
  rwa [value_bits] at h

end CotMta.Session
