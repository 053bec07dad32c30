/-
  Rejection sampling: draw until a value is accepted.

  `firstAccepted` is the loop on a list of draws; it has no result where the
  draws end first.  `card_runs` counts the lists of `N` draws that lead to a
  given accepted value: it is the same number for each of them, and what is
  left over are the lists of rejected values.
-/
import Mathlib.Data.Fintype.BigOperators
import Mathlib.Algebra.BigOperators.Fin
import Mathlib.Tactic.Ring

namespace CotMta.Rejection

variable {α β : Type*} {accept : α → Bool} {a v : α} {draws rest : List α}

/-- The first accepted draw, and the draws that follow it. -/
def firstAccepted (accept : α → Bool) : List α → Option (α × List α)
  | [] => none
  | a :: draws => if accept a then some (a, draws) else firstAccepted accept draws

theorem firstAccepted_cons_of_accept (h : accept a = true) :
    firstAccepted accept (a :: draws) = some (a, draws) := if_pos h

theorem firstAccepted_cons_of_reject (h : accept a = false) :
    firstAccepted accept (a :: draws) = firstAccepted accept draws :=
  if_neg (Bool.eq_false_iff.1 h)

/-- **The loop ends exactly at the first accepted draw.** -/
theorem firstAccepted_eq_some : ∀ {draws : List α}, firstAccepted accept draws = some (v, rest) ↔
    accept v = true ∧ ∃ before, draws = before ++ v :: rest ∧ ∀ a ∈ before, accept a = false
  | [] => by
    refine iff_of_false (Option.some_ne_none _).symm ?_
    rintro ⟨-, before, h, -⟩
    cases before <;> cases h
  | a :: draws => by
    cases h : accept a with
    | true =>
      rw [firstAccepted_cons_of_accept h, Option.some.injEq, Prod.mk.injEq]
      constructor
      · rintro ⟨rfl, rfl⟩
        exact ⟨h, [], rfl, by simp⟩
      · rintro ⟨-, before, heq, hbefore⟩
        cases before with
        | nil => exact ⟨(List.cons.inj heq).1, (List.cons.inj heq).2⟩
        | cons b before =>
          have hb := hbefore b List.mem_cons_self
          rw [← (List.cons.inj heq).1, h] at hb
          cases hb
    | false =>
      rw [firstAccepted_cons_of_reject h, firstAccepted_eq_some]
      refine and_congr_right fun hv => ?_
      constructor
      · rintro ⟨before, rfl, hbefore⟩
        exact ⟨a :: before, rfl, List.forall_mem_cons.2 ⟨h, hbefore⟩⟩
      · rintro ⟨before, heq, hbefore⟩
        cases before with
        | nil =>
          rw [(List.cons.inj heq).1, hv] at h
          cases h
        | cons b before =>
          exact ⟨before, (List.cons.inj heq).2, fun x hx => hbefore x (List.mem_cons_of_mem _ hx)⟩

theorem firstAccepted_eq_none : ∀ {draws : List α},
    firstAccepted accept draws = none ↔ ∀ a ∈ draws, accept a = false
  | [] => by simp [firstAccepted]
  | a :: draws => by
    cases h : accept a with
    | true => simp [firstAccepted, h]
    | false =>
      rw [firstAccepted_cons_of_reject h, firstAccepted_eq_none, List.forall_mem_cons]
      exact (and_iff_right h).symm

/-! ## Counting -/

section
variable [Fintype α] [DecidableEq α]

/-- The lists of `N` draws with the result `v`. -/
def runs (accept : α → Bool) (N : ℕ) (v : α) : Finset (Fin N → α) :=
  {w | (firstAccepted accept (List.ofFn w)).map Prod.fst = some v}

theorem card_runs_zero : (runs accept 0 v).card = 0 := by
  rw [Finset.card_eq_zero, runs, Finset.filter_eq_empty_iff]
  intro w _ h
  cases h

/-- A run that starts with `v` goes on at will, and one that starts with a rejected
    value as a shorter run. -/
theorem card_runs_succ {N : ℕ} (hv : accept v = true) :
    (runs accept (N + 1) v).card = Fintype.card α ^ N +
      ({a | accept a = false} : Finset α).card * (runs accept N v).card := by
  have hfiber : ∀ a : α, (∑ w : Fin N → α, if (firstAccepted accept
      (List.ofFn (Fin.cons a w : Fin (N + 1) → α))).map Prod.fst = some v then 1 else 0) =
        (if a = v then Fintype.card α ^ N else 0) +
          if accept a = false then (runs accept N v).card else 0 := by
    intro a
    simp only [List.ofFn_succ, Fin.cons_zero, Fin.cons_succ]
    cases h : accept a with
    | true =>
      simp only [firstAccepted_cons_of_accept h, Option.map_some, Option.some.injEq]
      by_cases hav : a = v
      · simp [hav]
      · simp [hav]
    | false =>
      have hav : a ≠ v := by
        rintro rfl
        rw [h] at hv
        cases hv
      simp only [firstAccepted_cons_of_reject h, if_neg hav, zero_add, if_true]
      rw [runs, Finset.card_filter]
  have hsplit : (runs accept (N + 1) v).card = ∑ a : α, ∑ w : Fin N → α,
      if (firstAccepted accept (List.ofFn (Fin.cons a w : Fin (N + 1) → α))).map Prod.fst = some v
        then 1 else 0 := by
    rw [runs, Finset.card_filter, ← Fintype.sum_prod_type']
    exact (Fintype.sum_equiv (Fin.consEquiv fun _ => α) _ _ fun _ => rfl).symm
  rw [hsplit, Finset.sum_congr rfl fun a _ => hfiber a, Finset.sum_add_distrib,
    Finset.sum_ite_eq' Finset.univ v, if_pos (Finset.mem_univ v), ← Finset.sum_filter,
    Finset.sum_const, smul_eq_mul]

omit [DecidableEq α] in
theorem card_accept_add_card_reject (accept : α → Bool) :
    ({a | accept a = true} : Finset α).card + ({a | accept a = false} : Finset α).card =
      Fintype.card α := by
  have h := Finset.card_filter_add_card_filter_not (s := (Finset.univ : Finset α))
    (fun a => accept a = true)
  simpa only [Bool.not_eq_true, Finset.card_univ] using h

/-- **Uniformity.**  Every accepted value is the result of the same number of runs:
    the runs that reject all draws apart, they divide all runs among them. -/
theorem card_runs (hv : accept v = true) : ∀ N : ℕ,
    ({a | accept a = true} : Finset α).card * (runs accept N v).card +
      ({a | accept a = false} : Finset α).card ^ N = Fintype.card α ^ N
  | 0 => by rw [card_runs_zero, mul_zero, zero_add, pow_zero, pow_zero]
  | N + 1 => by
    have htotal := card_accept_add_card_reject accept
    have ih := card_runs hv N
    rw [card_runs_succ hv, pow_succ, pow_succ]
    rw [← htotal] at ih ⊢
    rw [← ih]
    ring

/-- The same of runs of draws that are taken to values, equally many to each. -/
theorem card_runs_map {γ : Type*} [Fintype γ] {f : γ → α} {c : ℕ}
    (hf : ∀ a, ({x | f x = a} : Finset γ).card = c) (N : ℕ) :
    ({w | (firstAccepted accept ((List.ofFn w).map f)).map Prod.fst = some v} :
      Finset (Fin N → γ)).card = c ^ N * (runs accept N v).card := by
  classical
  have hfiber : ∀ u ∈ runs accept N v,
      ({w ∈ ({w | (firstAccepted accept ((List.ofFn w).map f)).map Prod.fst = some v} :
        Finset (Fin N → γ)) | f ∘ w = u}).card = c ^ N := by
    intro u hu
    have hpi : ({w ∈ ({w | (firstAccepted accept ((List.ofFn w).map f)).map Prod.fst = some v} :
        Finset (Fin N → γ)) | f ∘ w = u}) = Fintype.piFinset fun i => {x | f x = u i} := by
      ext w
      simp only [Finset.mem_filter, Finset.mem_univ, true_and, Fintype.mem_piFinset]
      constructor
      · rintro ⟨-, rfl⟩ i
        rfl
      · intro hw
        obtain rfl : f ∘ w = u := funext hw
        refine ⟨?_, rfl⟩
        rw [List.map_ofFn]
        exact (Finset.mem_filter.1 hu).2
    rw [hpi, Fintype.card_piFinset, Finset.prod_congr rfl fun i _ => hf (u i), Finset.prod_const,
      Finset.card_univ, Fintype.card_fin]
  rw [Finset.card_eq_sum_card_fiberwise (f := fun w => f ∘ w) (t := runs accept N v),
    Finset.sum_congr rfl hfiber, Finset.sum_const, smul_eq_mul, mul_comm]
  intro w hw
  have hw := (Finset.mem_filter.1 hw).2
  rw [List.map_ofFn] at hw
  exact Finset.mem_filter.2 ⟨Finset.mem_univ _, hw⟩

end

end CotMta.Rejection
