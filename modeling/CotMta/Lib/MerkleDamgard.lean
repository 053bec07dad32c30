/-
  Iterated hashing over blocks of `B` items: a compression function `f` takes a
  chaining value and a block to the next chaining value.

  `chain` compresses the whole blocks of a string and `rest` is what is left
  over.  A string that comes in pieces is hashed as one: the chaining value and
  the rest are all that later items need (`chain_append`, `rest_append`).
-/
import Mathlib.Data.List.Basic
import Mathlib.Data.Nat.ModEq
import Mathlib.Tactic.Ring

namespace CotMta.MerkleDamgard

variable {σ α : Type*} {f : σ → List α → σ} {B : ℕ} {h : σ} {l m : List α}

/-- The chaining value after the whole blocks of `l`. -/
def chain (f : σ → List α → σ) (B : ℕ) (h : σ) (l : List α) : σ :=
  if 0 < B ∧ B ≤ l.length then chain f B (f h (l.take B)) (l.drop B) else h
termination_by l.length

/-- The items after the last whole block. -/
def rest (B : ℕ) (l : List α) : List α := if 0 < B ∧ B ≤ l.length then rest B (l.drop B) else l
termination_by l.length

theorem chain_of_lt (hl : l.length < B) : chain f B h l = h := by
  rw [chain, if_neg (by omega)]

theorem rest_of_lt (hl : l.length < B) : rest B l = l := by
  rw [rest, if_neg (by omega)]

theorem chain_of_le (hB : 0 < B) (hl : B ≤ l.length) :
    chain f B h l = chain f B (f h (l.take B)) (l.drop B) := by
  rw [chain, if_pos ⟨hB, hl⟩]

theorem rest_of_le (hB : 0 < B) (hl : B ≤ l.length) : rest B l = rest B (l.drop B) := by
  rw [rest, if_pos ⟨hB, hl⟩]

theorem chain_block (hB : 0 < B) (hl : l.length = B) :
    chain f B h (l ++ m) = chain f B (f h l) m := by
  rw [chain_of_le hB (by rw [List.length_append]; omega), List.take_left' hl, List.drop_left' hl]

theorem rest_block (hB : 0 < B) (hl : l.length = B) : rest B (l ++ m) = rest B m := by
  rw [rest_of_le hB (by rw [List.length_append]; omega), List.drop_left' hl]

/-- **Hashing in two pieces.** -/
theorem chain_append (hB : 0 < B) : ∀ {h : σ} {l m : List α},
    chain f B h (l ++ m) = chain f B (chain f B h l) (rest B l ++ m) := by
  intro h l
  induction h, l using chain.induct f B with
  | case1 h l hl ih =>
    intro m
    have hle : B ≤ (l ++ m).length := by rw [List.length_append]; omega
    rw [chain_of_le hB hle, List.take_append_of_le_length hl.2, List.drop_append_of_le_length hl.2,
      ih, ← chain_of_le hB hl.2, ← rest_of_le hB hl.2]
  | case2 h l hl =>
    intro m
    rw [chain_of_lt (l := l) (by omega), rest_of_lt (by omega)]

theorem rest_append (hB : 0 < B) : ∀ {l m : List α}, rest B (l ++ m) = rest B (rest B l ++ m) := by
  intro l
  induction l using rest.induct B with
  | case1 l hl ih =>
    intro m
    have hle : B ≤ (l ++ m).length := by rw [List.length_append]; omega
    rw [rest_of_le hB hle, List.drop_append_of_le_length hl.2, ih, ← rest_of_le hB hl.2]
  | case2 l hl =>
    intro m
    rw [rest_of_lt (l := l) (by omega)]

theorem length_rest (hB : 0 < B) : ∀ {l : List α}, (rest B l).length = l.length % B := by
  intro l
  induction l using rest.induct B with
  | case1 l hl ih =>
    rw [rest_of_le hB hl.2, ih, List.length_drop, Nat.mod_eq_sub_mod hl.2]
  | case2 l hl =>
    rw [rest_of_lt (by omega), Nat.mod_eq_of_lt (by omega)]

/-- The items that fill up a block. -/
theorem chain_fill (hB : 0 < B) (hm : (rest B l ++ m).length = B) :
    chain f B h (l ++ m) = f (chain f B h l) (rest B l ++ m) := by
  rw [chain_append hB, ← List.append_nil (rest B l ++ m), chain_block hB hm, List.append_nil,
    chain_of_lt (by rwa [List.length_nil])]

theorem rest_fill (hB : 0 < B) (hm : (rest B l ++ m).length = B) : rest B (l ++ m) = [] := by
  rw [rest_append hB, ← List.append_nil (rest B l ++ m), rest_block hB hm,
    rest_of_lt (by rwa [List.length_nil])]

end CotMta.MerkleDamgard
