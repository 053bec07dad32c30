/-
  The additive shares under random masks.

  Alice's masks are valid scalars, drawn uniformly.  The shares that the client
  computes are weighted sums of them, shifted by `x y` for Bob (whose part it plays
  in the local demo), so every share comes from as many masks as every other, but
  for one special share.
-/
import CotMta.Lib.MaskedSums
import CotMta.Session.Choices

namespace CotMta.Session

open Trezor Secp256k1 MaskedSums Client Server

/-! ## Masks modulo the order -/

theorem weightedSum_ofFn {m : ℕ} (g : Fin m → Scalar) :
    weightedSum (List.ofFn g) = ∑ i : Fin m, 2 ^ (i : ℕ) * (g i).nat := by
  rw [weightedSum_eq_sum]
  refine Fintype.sum_equiv (finCongr List.length_ofFn) _ _ fun i => ?_
  exact congrArg (fun w : Scalar => 2 ^ (i : ℕ) * w.nat) (List.getElem_ofFn _)

/-- Valid scalars are the numbers modulo `n` but zero. -/
theorem card_masks {m : ℕ} (w : Fin m → ZMod n) (s : ZMod n) :
    ({g | (∀ i, ValidScalar (g i)) ∧ ∑ i, w i * ((g i).nat : ZMod n) = s} :
      Finset (Fin m → Scalar)).card = (solutions w s).card := by
  have hval : ∀ a : ZMod n, (Bytes.ofNat 32 a.val).nat = a.val := fun a =>
    Bytes.nat_ofNat ((ZMod.val_lt a).trans (by norm_num [n]))
  have hcast : ∀ a : ZMod n, ((Bytes.ofNat 32 a.val).nat : ZMod n) = a := fun a => by
    rw [hval, ZMod.natCast_zmod_val]
  refine Finset.card_bij' (fun g _ i => ((g i).nat : ZMod n))
    (fun g _ i => Bytes.ofNat 32 (g i).val) ?_ ?_ ?_ ?_
  · intro g hg
    obtain ⟨hvalid, hsum⟩ := (Finset.mem_filter.1 hg).2
    refine mem_solutions.2 ⟨fun i => ?_, hsum⟩
    rw [Ne, ZMod.natCast_eq_zero_iff]
    exact Nat.not_dvd_of_pos_of_lt (hvalid i).1 (hvalid i).2
  · intro g hg
    obtain ⟨hne, hsum⟩ := mem_solutions.1 hg
    refine Finset.mem_filter.2 ⟨Finset.mem_univ _, fun i => ?_, ?_⟩
    · rw [ValidScalar, hval]
      exact ⟨Nat.pos_of_ne_zero fun h => hne i ((ZMod.val_eq_zero _).1 h), ZMod.val_lt _⟩
    · simp only [hcast, hsum]
  · intro g hg
    obtain ⟨hvalid, -⟩ := (Finset.mem_filter.1 hg).2
    funext i
    rw [ZMod.val_natCast_of_lt (hvalid i).2, Bytes.ofNat_nat]
  · intro g _
    funext i
    exact hcast (g i)

/-- The masks whose weighted sum is `s` modulo `n`. -/
theorem card_masks_sum (s : ZMod n) :
    (n : ℤ) * ({g | (∀ i, ValidScalar (g i)) ∧ (weightedSum (List.ofFn g) : ZMod n) = s} :
      Finset (Fin 256 → Scalar)).card = (n - 1) ^ 256 + if s = 0 then (n : ℤ) - 1 else -1 := by
  have htwo : (2 : ZMod n) ≠ 0 := by
    have h : ((2 : ℕ) : ZMod n) ≠ 0 := by
      rw [Ne, ZMod.natCast_eq_zero_iff]
      exact Nat.not_dvd_of_pos_of_lt (by norm_num) (by norm_num [n])
    exact_mod_cast h
  have hmasks := card_masks (fun i : Fin 256 => (2 : ZMod n) ^ (i : ℕ)) s
  have hcount := card_solutions (m := 256) (w := fun i : Fin 256 => (2 : ZMod n) ^ (i : ℕ)) s
    fun i => pow_ne_zero _ htwo
  rw [← hmasks, ZMod.card, excess, ZMod.card, Even.neg_one_pow (by decide), one_mul] at hcount
  rw [← hcount]
  refine congrArg (fun k : ℕ => (n : ℤ) * k) (congrArg Finset.card ?_)
  refine Finset.filter_congr fun g _ => and_congr_right fun _ => ?_
  rw [weightedSum_ofFn]
  push_cast
  exact Iff.rfl

/-! ## The shares -/

/-- Alice's choices with other masks. -/
def withMasks (c : AliceChoices) (g : Fin 256 → Scalar) : AliceChoices :=
  { c with ui := fun i => g (Fin.ofNat 256 i) }

theorem map_withMasks {c : AliceChoices} {g : Fin 256 → Scalar} :
    (List.range 256).map (withMasks c g).ui = List.ofFn g := by
  refine List.ext_getElem (by rw [List.length_map, List.length_range, List.length_ofFn])
    fun i hi _ => ?_
  rw [List.length_map, List.length_range] at hi
  rw [List.getElem_map, List.getElem_range, List.getElem_ofFn]
  exact congrArg g (Fin.ext (Nat.mod_eq_of_lt hi))

theorem ofNat_eq_iff {k : ℕ} (hk : k < n) {u : Scalar} : Bytes.ofNat 32 k = u ↔ k = u.nat := by
  constructor
  · rintro rfl
    exact (Bytes.nat_ofNat (hk.trans (by norm_num [n]))).symm
  · rintro rfl
    exact Bytes.ofNat_nat u

theorem eq_iff_cast {k l : ℕ} (hk : k < n) (hl : l < n) : k = l ↔ (k : ZMod n) = l := by
  rw [ZMod.natCast_eq_natCast_iff', Nat.mod_eq_of_lt hk, Nat.mod_eq_of_lt hl]

/-- The masks with the share `u` for Alice. -/
theorem aliceShare_eq_iff {ws : List Scalar} {u : Scalar} (hu : u.nat < n) :
    MTAProtocol.computeAliceShare (ws.map Bytes.toList) = u.toList ↔
      (weightedSum ws : ZMod n) = -(u.nat : ZMod n) := by
  have hbytes : MTAProtocol.computeAliceShare (ws.map Bytes.toList) = u.toList ↔
      Bytes.ofNat 32 ((n - weightedSum ws % n) % n) = u := by
    rw [clientAliceShare_eq, Bytes.ext_iff]
    rfl
  rw [hbytes, ofNat_eq_iff (Nat.mod_lt _ n_pos), eq_iff_cast (Nat.mod_lt _ n_pos) hu,
    ZMod.natCast_mod, Nat.cast_sub (Nat.mod_lt _ n_pos).le, ZMod.natCast_self, ZMod.natCast_mod,
    zero_sub, neg_eq_iff_eq_neg]

/-- The masks with the share `u` for Bob. -/
theorem bobShare_eq_iff {c : AliceChoices} {y u : Scalar} (hu : u.nat < n) :
    MTAProtocol.computeBobShare
        (((List.range 256).map (c.selected y)).map Bytes.toList) = u.toList ↔
      (weightedSum ((List.range 256).map c.ui) : ZMod n) = u.nat - (c.x.nat * y.nat : ℕ) := by
  have hsel := (ZMod.natCast_eq_natCast_iff _ _ _).2 (weightedSum_selected c y)
  have hbytes : MTAProtocol.computeBobShare
      (((List.range 256).map (c.selected y)).map Bytes.toList) = u.toList ↔
      Bytes.ofNat 32 (weightedSum ((List.range 256).map (c.selected y)) % n) = u := by
    rw [clientBobShare_eq, Bytes.ext_iff]
    rfl
  rw [hbytes, ofNat_eq_iff (Nat.mod_lt _ n_pos), eq_iff_cast (Nat.mod_lt _ n_pos) hu,
    ZMod.natCast_mod, hsel, Nat.cast_add, eq_sub_iff_add_eq]

/-- **The client's shares are as good as uniform.**  Every share of Alice but zero
    comes from equally many masks, and zero from one more; of the shares for Bob `x y`
    is the special one. -/
theorem shares_uniform (c : AliceChoices) (y u : Scalar) (hu : u.nat < n) :
    (n : ℤ) * ({g | (∀ i, ValidScalar (g i)) ∧
        MTAProtocol.computeAliceShare ((List.ofFn g).map Bytes.toList) = u.toList} :
      Finset (Fin 256 → Scalar)).card = (n - 1) ^ 256 + (if u.nat = 0 then (n : ℤ) - 1 else -1) ∧
    (n : ℤ) * ({g | (∀ i, ValidScalar (g i)) ∧ MTAProtocol.computeBobShare
        (((List.range 256).map ((withMasks c g).selected y)).map Bytes.toList) = u.toList} :
      Finset (Fin 256 → Scalar)).card =
        (n - 1) ^ 256 + if u.nat = c.x.nat * y.nat % n then (n : ℤ) - 1 else -1 := by
  have hx : ∀ g, (withMasks c g).x = c.x := fun _ => rfl
  constructor
  · have hzero : -(u.nat : ZMod n) = 0 ↔ u.nat = 0 := by
      rw [neg_eq_zero, eq_iff_cast hu n_pos, Nat.cast_zero]
    simp only [aliceShare_eq_iff hu]
    rw [card_masks_sum]
    simp only [hzero]
  · have hxy : (u.nat : ZMod n) - (c.x.nat * y.nat : ℕ) = 0 ↔ u.nat = c.x.nat * y.nat % n := by
      rw [sub_eq_zero, eq_iff_cast hu (Nat.mod_lt _ n_pos), ZMod.natCast_mod]
    simp only [bobShare_eq_iff hu, map_withMasks, hx]
    rw [card_masks_sum]
    simp only [hxy]

/-- The share fifteen, for the shares three and five the special one of Bob. -/
theorem shares_uniform_fifteen :
    (n : ℤ) * ({g | (∀ i, ValidScalar (g i)) ∧ MTAProtocol.computeAliceShare
        ((List.ofFn g).map Bytes.toList) = (Bytes.ofNat 32 15).toList} :
      Finset (Fin 256 → Scalar)).card = (n - 1) ^ 256 - 1 ∧
    (n : ℤ) * ({g | (∀ i, ValidScalar (g i)) ∧ MTAProtocol.computeBobShare
        (((List.range 256).map ((withMasks smallChoices g).selected (.ofNat 32 5))).map
          Bytes.toList) = (Bytes.ofNat 32 15).toList} :
      Finset (Fin 256 → Scalar)).card = (n - 1) ^ 256 + (n - 1) := by
  have hlt : (Bytes.ofNat 32 15).nat < n := by decide
  obtain ⟨halice, hbob⟩ := shares_uniform smallChoices (.ofNat 32 5) (.ofNat 32 15) hlt
  rw [if_neg (by decide)] at halice
  rw [if_pos (by decide +kernel)] at hbob
  exact ⟨halice, hbob⟩

end CotMta.Session
