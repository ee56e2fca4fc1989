/-
# Capped reservoirs

A reservoir starts full. At every step it first loses what was spent at the step
before, is then refilled, and is capped; the cap and the refill may differ from
step to step. Unrolling the recursion, a demand can be met exactly when it fits,
together with everything spent since, under the cap of every earlier step plus
the refill since that step.

Partial sums of what is spent and refilled stand for windows of steps: what is
spent in `Finset.Ico j i` precedes step `i`, what is refilled in
`Finset.Ioc j i` arrives after step `j`.
-/

import Mathlib.Algebra.Order.BigOperators.Group.Finset
import Mathlib.Algebra.BigOperators.Intervals
import Mathlib.Order.Interval.Finset.Nat
import Mathlib.Tactic.Abel

namespace Foundation

variable {α : Type*} [AddCommGroup α] [LinearOrder α] [IsOrderedAddMonoid α]

/-- The level at a step, before anything is spent at it. -/
def level (cap refill spent : ℕ → α) : ℕ → α
  | 0 => cap 0
  | k + 1 => min (cap (k + 1)) (level cap refill spent k - spent k + refill (k + 1))

/-- A step moves to the demand what it spends and to the window what it adds. -/
private theorem window_succ_iff (cap refill spent : ℕ → α) {j i : ℕ} (hle : j ≤ i) (demand : α) :
    demand + spent i - refill (i + 1) + ∑ k ∈ Finset.Ico j i, spent k ≤
        cap j + ∑ k ∈ Finset.Ioc j i, refill k ↔
      demand + ∑ k ∈ Finset.Ico j (i + 1), spent k ≤
        cap j + ∑ k ∈ Finset.Ioc j (i + 1), refill k := by
  have hspent := Finset.sum_Ico_succ_top hle spent
  have hrefill := Finset.sum_Ioc_succ_top hle refill
  have hshift : demand + spent i - refill (i + 1) + ∑ k ∈ Finset.Ico j i, spent k =
      demand + (∑ k ∈ Finset.Ico j i, spent k + spent i) - refill (i + 1) := by abel
  rw [hspent, hrefill, hshift, sub_le_iff_le_add, add_assoc (cap j)]

/-- **A demand fits under the level exactly when it fits every window** that ends
at the step. -/
theorem le_level_iff (cap refill spent : ℕ → α) (i : ℕ) (demand : α) :
    demand ≤ level cap refill spent i ↔ ∀ j ≤ i,
      demand + ∑ k ∈ Finset.Ico j i, spent k ≤ cap j + ∑ k ∈ Finset.Ioc j i, refill k := by
  induction i generalizing demand with
  | zero => simp [level]
  | succ i ih =>
      -- one step back, the demand is what it was plus what is spent minus what arrives
      have hback : demand ≤ level cap refill spent i - spent i + refill (i + 1) ↔
          demand + spent i - refill (i + 1) ≤ level cap refill spent i := by
        rw [sub_add, le_sub_iff_add_le, add_sub_assoc]
      rw [level, le_min_iff, hback, ih]
      constructor
      · rintro ⟨hcap, hearlier⟩ j hj
        rcases Nat.lt_or_eq_of_le hj with hlt | rfl
        · have hle : j ≤ i := Nat.le_of_lt_succ hlt
          exact (window_succ_iff cap refill spent hle demand).mp (hearlier j hle)
        · simpa using hcap
      · intro hall
        constructor
        · simpa using hall (i + 1) le_rfl
        · intro j hle
          exact (window_succ_iff cap refill spent hle demand).mpr (hall j (Nat.le_succ_of_le hle))

/-- **No window is overdrawn**: where something is spent only within the level,
what a window spends fits under its first cap plus its refill. -/
theorem sum_spent_le (cap refill spent : ℕ → α) (hcap : ∀ k, 0 ≤ cap k)
    (hrefill : ∀ k, 0 ≤ refill k)
    (hspent : ∀ k, spent k ≤ 0 ∨ spent k ≤ level cap refill spent k) {j i : ℕ} (hle : j ≤ i) :
    ∑ k ∈ Finset.Ico j (i + 1), spent k ≤ cap j + ∑ k ∈ Finset.Ioc j i, refill k := by
  induction i, hle using Nat.le_induction with
  | base =>
      rcases hspent j with hnone | hfits
      · simpa using hnone.trans (hcap j)
      · have hwindow := (le_level_iff cap refill spent j (spent j)).mp hfits j le_rfl
        simpa using hwindow
  | succ i hle ih =>
      rcases hspent (i + 1) with hnone | hfits
      · -- nothing is spent at the last step, and its refill does no harm
        rw [Finset.sum_Ico_succ_top (Nat.le_succ_of_le hle),
          Finset.sum_Ioc_succ_top hle, ← add_assoc]
        exact add_le_add ih (hnone.trans (hrefill (i + 1)))
      · have hwindow := (le_level_iff cap refill spent (i + 1) (spent (i + 1))).mp hfits j
          (Nat.le_succ_of_le hle)
        rwa [Finset.sum_Ico_succ_top (Nat.le_succ_of_le hle), add_comm]

end Foundation
