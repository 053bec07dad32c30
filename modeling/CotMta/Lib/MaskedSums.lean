/-
  Weighted sums of masks that are not zero, over a finite field.

  The masks with a given sum are counted exactly: all sums but zero have equally
  many, and zero has one more or one less (`card_solutions`).
-/
import Mathlib.Algebra.BigOperators.Fin
import Mathlib.Algebra.Field.Basic
import Mathlib.Data.Fintype.BigOperators
import Mathlib.Tactic.Ring

namespace CotMta.MaskedSums

variable {F : Type*} [Field F] [Fintype F] [DecidableEq F] {m : ℕ}

/-- The masks without a zero that have a weighted sum. -/
def solutions (w : Fin m → F) (s : F) : Finset (Fin m → F) :=
  {g | (∀ i, g i ≠ 0) ∧ ∑ i, w i * g i = s}

theorem mem_solutions {w g : Fin m → F} {s : F} :
    g ∈ solutions w s ↔ (∀ i, g i ≠ 0) ∧ ∑ i, w i * g i = s := by
  rw [solutions, Finset.mem_filter, and_iff_right (Finset.mem_univ g)]

/-- The first mask decides what the others sum up to. -/
theorem card_solutions_succ (w : Fin (m + 1) → F) (s : F) :
    (solutions w s).card =
      ∑ a ∈ Finset.univ.erase 0, (solutions (fun i => w i.succ) (s - w 0 * a)).card := by
  have hfiber : ∀ a ∈ Finset.univ.erase (0 : F), ({g ∈ solutions w s | g 0 = a} : Finset _).card =
      (solutions (fun i => w i.succ) (s - w 0 * a)).card := by
    intro a ha
    have ha : a ≠ 0 := (Finset.mem_erase.1 ha).1
    refine Finset.card_bij' (fun g _ i => g i.succ) (fun g _ => Fin.cons a g) ?_ ?_ ?_ ?_
    · intro g hg
      obtain ⟨hsol, rfl⟩ := Finset.mem_filter.1 hg
      obtain ⟨hne, hsum⟩ := mem_solutions.1 hsol
      rw [Fin.sum_univ_succ] at hsum
      exact mem_solutions.2 ⟨fun i => hne i.succ, eq_sub_of_add_eq' hsum⟩
    · intro g hg
      obtain ⟨hne, hsum⟩ := mem_solutions.1 hg
      refine Finset.mem_filter.2 ⟨mem_solutions.2 ⟨Fin.cases ha hne, ?_⟩, rfl⟩
      rw [Fin.sum_univ_succ]
      simp only [Fin.cons_zero, Fin.cons_succ, hsum]
      exact add_sub_cancel _ _
    · intro g hg
      obtain ⟨-, rfl⟩ := Finset.mem_filter.1 hg
      exact Fin.cons_self_tail g
    · exact fun g _ => rfl
  rw [Finset.card_eq_sum_card_fiberwise (f := fun g => g 0) (t := Finset.univ.erase 0),
    Finset.sum_congr rfl hfiber]
  intro g hg
  exact Finset.mem_erase.2 ⟨(mem_solutions.1 hg).1 0, Finset.mem_univ _⟩

/-- By how much the sum `s` is special. -/
def excess (s : F) : ℤ := if s = 0 then Fintype.card F - 1 else -1

theorem sum_excess {c s : F} (hc : c ≠ 0) :
    ∑ a ∈ Finset.univ.erase 0, excess (s - c * a) = -excess s := by
  have hall : ∑ a : F, excess (s - c * a) = 0 := by
    have hone : ∀ a : F, excess (s - c * a) = (if a = s / c then (Fintype.card F : ℤ) else 0) - 1 := by
      intro a
      have hiff : s - c * a = 0 ↔ a = s / c := by
        rw [sub_eq_zero, eq_div_iff hc, mul_comm, eq_comm]
      by_cases h : a = s / c
      · rw [excess, if_pos (hiff.2 h), if_pos h]
      · rw [excess, if_neg (mt hiff.1 h), if_neg h, zero_sub]
    rw [Finset.sum_congr rfl fun a _ => hone a, Finset.sum_sub_distrib,
      Finset.sum_ite_eq' Finset.univ (s / c), if_pos (Finset.mem_univ _), Finset.sum_const,
      Finset.card_univ, nsmul_eq_mul, mul_one, sub_self]
  have hsplit := Finset.add_sum_erase Finset.univ (fun a => excess (s - c * a)) (Finset.mem_univ 0)
  rw [hall, mul_zero, sub_zero] at hsplit
  exact eq_neg_of_add_eq_zero_right hsplit

/-- **Every sum but zero comes from equally many masks.** -/
theorem card_solutions : ∀ {m : ℕ} {w : Fin m → F} (s : F), (∀ i, w i ≠ 0) →
    (Fintype.card F : ℤ) * (solutions w s).card =
      (Fintype.card F - 1) ^ m + (-1) ^ m * excess s
  | 0, w, s, _ => by
    by_cases hs : s = 0
    · have hall : solutions w s = Finset.univ := by
        refine Finset.filter_true_of_mem fun g _ => ⟨fun i => i.elim0, ?_⟩
        rw [hs, Finset.univ_eq_empty, Finset.sum_empty]
      have hone : (Finset.univ : Finset (Fin 0 → F)).card = 1 := Fintype.card_unique
      rw [hall, hone, excess, if_pos hs]
      ring
    · have hnone : solutions w s = ∅ := by
        refine Finset.filter_false_of_mem fun g _ h => hs ?_
        rw [← h.2, Finset.univ_eq_empty, Finset.sum_empty]
      rw [hnone, Finset.card_empty, excess, if_neg hs]
      ring
  | m + 1, w, s, hw => by
    have hcard : ((Finset.univ.erase (0 : F)).card : ℤ) = Fintype.card F - 1 := by
      rw [Finset.card_erase_of_mem (Finset.mem_univ 0), Finset.card_univ,
        Nat.cast_sub Fintype.card_pos, Nat.cast_one]
    rw [card_solutions_succ, Nat.cast_sum, Finset.mul_sum,
      Finset.sum_congr rfl fun a _ => card_solutions (s - w 0 * a) fun i => hw i.succ,
      Finset.sum_add_distrib, Finset.sum_const, nsmul_eq_mul, hcard, ← Finset.mul_sum,
      sum_excess (hw 0)]
    ring

end CotMta.MaskedSums
