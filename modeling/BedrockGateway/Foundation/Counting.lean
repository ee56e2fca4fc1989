/-
# Counting questions

`AtMost` bounds how many questions of a kind a program asks on any of its paths. The
bounds add up under sequencing and carry over to the trace of every thread. What
holds of every thread of a run holds of the whole log, since a log is made up of the
entries of its threads.
-/

import BedrockGateway.Foundation.Scheduler
import Mathlib.Data.List.Count

namespace Foundation

universe u v w x

namespace Program

variable {Q : Type u} {A : Q → Type v} {α β ε : Type v} {counted : Q → Bool}

/-- On every path, at most `n` of the questions count. -/
def AtMost (counted : Q → Bool) : Program Q A α → ℕ → Prop
  | .ret _, _ => True
  | .ask q resume, n =>
      if counted q = true then 0 < n ∧ ∀ answer, (resume answer).AtMost counted (n - 1)
      else ∀ answer, (resume answer).AtMost counted n

theorem AtMost.mono {p : Program Q A α} {m n : ℕ} (h : p.AtMost counted m) (hle : m ≤ n) :
    p.AtMost counted n := by
  induction p generalizing m n with
  | ret value => trivial
  | ask q resume ih =>
      unfold AtMost at h ⊢
      split at h
      · rename_i hcounted
        rw [if_pos hcounted]
        exact ⟨Nat.lt_of_lt_of_le h.1 hle, fun answer => ih answer (h.2 answer) (by omega)⟩
      · rename_i hfree
        rw [if_neg hfree]
        exact fun answer => ih answer (h answer) hle

/-- The bounds of two parts add up. -/
theorem AtMost.bind {p : Program Q A α} {f : α → Program Q A β} {m n : ℕ}
    (hp : p.AtMost counted m) (hf : ∀ value, (f value).AtMost counted n) :
    (p.bind f).AtMost counted (m + n) := by
  induction p generalizing m with
  | ret value => exact (hf value).mono (Nat.le_add_left n m)
  | ask q resume ih =>
      unfold AtMost at hp
      unfold Program.bind AtMost
      split at hp
      · rename_i hcounted
        rw [if_pos hcounted]
        refine ⟨Nat.add_pos_left hp.1 n, fun answer => ?_⟩
        have hrest := ih answer (hp.2 answer)
        exact hrest.mono (by omega)
      · rename_i hfree
        rw [if_neg hfree]
        exact fun answer => ih answer (hp answer)

/-- A program that asks only questions that do not count. -/
theorem AtMost.of_only {C : Q → Prop} {p : Program Q A α} (hp : p.Only C)
    (hfree : ∀ q, C q → counted q = false) : p.AtMost counted 0 := by
  induction p with
  | ret value => trivial
  | ask q resume ih =>
      unfold AtMost
      rw [if_neg (by simp [hfree q hp.1])]
      exact fun answer => ih answer (hp.2 answer)

/-- **What a bound says**: no path has more. -/
theorem AtMost.countP_le {p rest : Program Q A α} {trace : List (Event A)} {n : ℕ}
    (h : p.AtMost counted n) (hreaches : Reaches p trace rest) :
    trace.countP (fun event => counted event.query) ≤ n := by
  induction hreaches generalizing n with
  | refl => simp
  | @step q _ _ _ answer _ ih =>
      unfold AtMost at h
      rw [List.countP_cons]
      split at h
      · rename_i hcounted
        have hrest := ih (h.2 answer)
        rw [if_pos hcounted]
        omega
      · rename_i hfree
        have hrest := ih (h answer)
        rw [if_neg hfree]
        omega

end Program

namespace Fallible

open Program

variable {Q : Type u} {A : Q → Type v} {α β ε : Type v} {counted : Q → Bool}

theorem AtMost.bind {x : Fallible Q A ε α} {f : α → Fallible Q A ε β} {m n : ℕ}
    (hx : x.run.AtMost counted m) (hf : ∀ value, (f value).run.AtMost counted n) :
    (x >>= f).run.AtMost counted (m + n) := by
  rw [run_bind]
  refine Program.AtMost.bind hx fun outcome => ?_
  cases outcome with
  | ok value => exact hf value
  | error exn => trivial

theorem AtMost.attempt {x : Fallible Q A ε α} {n : ℕ} (hx : x.run.AtMost counted n) :
    (attempt x).run.AtMost counted n :=
  Program.AtMost.bind (n := 0) hx fun _ => trivial

/-- A question that does not count, then the rest. -/
theorem AtMost.call {q : Q} {f : A q → Fallible Q A ε β} {n : ℕ} (hfree : counted q = false)
    (hf : ∀ answer, (f answer).run.AtMost counted n) :
    (Fallible.ask q >>= f).run.AtMost counted n := by
  show Program.AtMost counted (.ask q fun answer => (f answer).run) n
  unfold Program.AtMost
  rw [if_neg (by simp [hfree])]
  exact hf

/-- A question that counts, then the rest. -/
theorem AtMost.count {q : Q} {f : A q → Fallible Q A ε β} {n : ℕ} (hcounted : counted q = true)
    (hf : ∀ answer, (f answer).run.AtMost counted n) :
    (Fallible.ask q >>= f).run.AtMost counted (n + 1) := by
  show Program.AtMost counted (.ask q fun answer => (f answer).run) (n + 1)
  unfold Program.AtMost
  rw [if_pos hcounted]
  exact ⟨Nat.succ_pos n, hf⟩

end Fallible

/-! ## In logs -/

section Logs

variable {Q : Type u} {A : Q → Type v} {σ : Type w} {J : Type x} {R : Type v}

/-- The entries of one thread with an event of a kind are the events of that kind in
its trace. -/
theorem countP_traceOf (p : Event A → Bool) (tid : ℕ) (log : List (Entry A σ J R)) :
    (traceOf tid log).countP p =
      (log.filter fun entry => entry.tid = tid).countP fun entry => entry.action.event?.any p := by
  induction log with
  | nil => rfl
  | cons entry log ih =>
      rw [← List.singleton_append, traceOf_append, List.countP_append, ih, List.filter_append,
        List.countP_append]
      congr 1
      by_cases htid : entry.tid = tid
      · cases haction : entry.action <;> simp [traceOf, actionsOf, htid, haction, Action.event?]
      · simp [traceOf, actionsOf, htid]

/-- **Group by group**: a bound that holds within every group of a list holds of the list. -/
theorem countP_le_of_groups {α : Type u} (group : α → ℕ) {heavy light : α → Bool} {n : ℕ}
    (log : List α)
    (h : ∀ g, (log.filter fun a => group a = g).countP heavy ≤
      n * (log.filter fun a => group a = g).countP light) :
    log.countP heavy ≤ n * log.countP light := by
  induction hlength : log.length using Nat.strongRecOn generalizing log with
  | ind length ih =>
      cases log with
      | nil => simp
      | cons head log =>
          -- Split off the group of the head; the others are fewer.
          let own : α → Bool := fun a => group a = group head
          have hothers : ((head :: log).filter fun a => !own a).length < length := by
            rw [← hlength, List.filter_cons_of_neg (by simp [own])]
            exact Nat.lt_succ_of_le (List.length_filter_le ..)
          have hrest := ih _ hothers _ (fun g => ?_) rfl
          · have hgroup := h (group head)
            rw [List.countP_eq_countP_filter_add (head :: log) heavy own,
              List.countP_eq_countP_filter_add (head :: log) light own, Nat.mul_add]
            exact Nat.add_le_add hgroup hrest
          · rw [List.filter_filter]
            by_cases hg : g = group head
            · have hnone : ((head :: log).filter fun a => decide (group a = g) && !own a) = [] := by
                rw [List.filter_eq_nil_iff]
                intro a _
                simp [own, hg]
              simp [hnone]
            · have hsame : ((head :: log).filter fun a => decide (group a = g) && !own a) =
                  (head :: log).filter fun a => group a = g := by
                refine List.filter_congr fun a _ => ?_
                by_cases ha : group a = g <;> simp [own, ha, hg]
              rw [hsame]
              exact h g

end Logs

end Foundation
