/-
# What a run costs

Every answered question has a price. `Spends` follows a program from an amount
spent so far and says of the amount and the state it ends with that they meet a
postcondition, provided the answers are as assumed. It is a recursion on the
program, so the price of a composite program is read off its parts.

Where no question gives up control the jobs of a machine run one after the other,
and an invariant of the amount and the state that every job restores holds after
every run.
-/

import BedrockGateway.Foundation.Scheduler
import Mathlib.Algebra.GroupWithZero.Nat

namespace Foundation.Machine

universe u v w x

variable {Q : Type u} {A : Q → Type v} {σ : Type w} {J : Type x} {R α β ε : Type v}

/-- The price of an entry: that of its event, if it has one. -/
def entryPrice (price : σ → Event A → ℕ) (entry : Entry A σ J R) : ℕ :=
  match entry.action with
  | .did event => price entry.before event
  | _ => 0

/-- What the entries of a log cost together. -/
def spent (price : σ → Event A → ℕ) (log : List (Entry A σ J R)) : ℕ :=
  (log.map (entryPrice price)).sum

theorem spent_append (price : σ → Event A → ℕ) (first second : List (Entry A σ J R)) :
    spent price (first ++ second) = spent price first + spent price second := by
  rw [spent, List.map_append, List.sum_append, spent, spent]

theorem spent_cons (price : σ → Event A → ℕ) (entry : Entry A σ J R)
    (log : List (Entry A σ J R)) :
    spent price (entry :: log) = entryPrice price entry + spent price log := by
  rw [spent, List.map_cons, List.sum_cons, spent]

/-- With the price one for some events and zero for the others, the cost counts them. -/
theorem spent_eq_countP {p : σ → Event A → Bool} {price : σ → Event A → ℕ}
    (hprice : ∀ s event, price s event = if p s event then 1 else 0)
    (log : List (Entry A σ J R)) :
    spent price log = log.countP fun entry =>
      entry.action.event?.any (p entry.before) := by
  induction log with
  | nil => rfl
  | cons entry log ih =>
      rw [spent_cons, ih, List.countP_cons, Nat.add_comm]
      congr 1
      unfold entryPrice
      cases entry.action with
      | did event => exact hprice entry.before event
      | _ => simp [Action.event?]

/-- Run from a state with an amount spent so far, and answered as assumed, the
program returns only a value, an amount and a state in `post`. -/
def Spends (M : Machine Q A σ J R) (price : σ → Event A → ℕ) (assumed : σ → Event A → Prop)
    (post : α → ℕ → σ → Prop) : Program Q A α → ℕ → σ → Prop
  | .ret value, n, s => post value n s
  | .ask q resume, n, s => ∀ s₀ answer s₁, M.passes s s₀ → M.sem s₀ q answer s₁ →
      assumed s₀ ⟨q, answer⟩ →
        Spends M price assumed post (resume answer) (n + price s₀ ⟨q, answer⟩) s₁

variable {M : Machine Q A σ J R} {price : σ → Event A → ℕ} {assumed : σ → Event A → Prop}
variable {n : ℕ} {s : σ}

theorem Spends.bind {p : Program Q A α} {f : α → Program Q A β} {post : β → ℕ → σ → Prop}
    (h : M.Spends price assumed (fun value n s => M.Spends price assumed post (f value) n s)
      p n s) :
    M.Spends price assumed post (p.bind f) n s := by
  induction p generalizing n s with
  | ret value => exact h
  | ask q resume ih =>
      intro s₀ answer s₁ time answered hassumed
      exact ih answer (h s₀ answer s₁ time answered hassumed)

theorem Spends.mono {p : Program Q A α} {post post' : α → ℕ → σ → Prop}
    (h : M.Spends price assumed post p n s)
    (himp : ∀ value n s, post value n s → post' value n s) :
    M.Spends price assumed post' p n s := by
  induction p generalizing n s with
  | ret value => exact himp value n s h
  | ask q resume ih =>
      intro s₀ answer s₁ time answered hassumed
      exact ih answer (h s₀ answer s₁ time answered hassumed)

/-- A question, then the rest. -/
theorem Spends.call {q : Q} {f : A q → Fallible Q A ε β} {post : Except ε β → ℕ → σ → Prop}
    (h : ∀ s₀ answer s₁, M.passes s s₀ → M.sem s₀ q answer s₁ → assumed s₀ ⟨q, answer⟩ →
      M.Spends price assumed post (f answer).run (n + price s₀ ⟨q, answer⟩) s₁) :
    M.Spends price assumed post (Fallible.ask q >>= f).run n s := h

/-- The same where questions are answered by programs. -/
theorem Spends.expand_call {Q' : Type u} {A' : Q' → Type v} {M : Machine Q' A' σ J R}
    {price : σ → Event A' → ℕ} {assumed : σ → Event A' → Prop}
    {g : (q : Q) → Program Q' A' (A q)} {q : Q} {f : A q → Fallible Q A ε β}
    {post : Except ε β → ℕ → σ → Prop}
    (h : M.Spends price assumed
      (fun answer n s => M.Spends price assumed post ((f answer).run.expand g) n s) (g q) n s) :
    M.Spends price assumed post ((Fallible.ask q >>= f).run.expand g) n s :=
  Spends.bind h

/-- A program all of whose questions keep an invariant of the amount and the state
keeps it. -/
theorem Spends.of_only {C : Q → Prop} {p : Program Q A α} {I : ℕ → σ → Prop} (hp : p.Only C)
    (htime : ∀ n s s₀, I n s → M.passes s s₀ → I n s₀)
    (hC : ∀ q, C q → ∀ n s answer s', I n s → M.sem s q answer s' → assumed s ⟨q, answer⟩ →
      I (n + price s ⟨q, answer⟩) s')
    (hI : I n s) : M.Spends price assumed (fun _ => I) p n s := by
  induction p generalizing n s with
  | ret value => exact hI
  | ask q resume ih =>
      intro s₀ answer s₁ time answered hassumed
      apply ih answer (hp.2 answer)
      exact hC q hp.1 n s₀ answer s₁ (htime n s s₀ hI time) answered hassumed

/-- A stretch that returns has spent what its program spends. -/
theorem Stretch.spends {tid : ℕ} {s s' : σ} {p : Program Q A R} {rest : Program Q A R}
    {entries : List (Entry A σ J R)} {I : ℕ → σ → Prop}
    (h : M.Stretch tid s p entries s' rest) (hyields : ∀ q, ¬ M.yields q)
    (htime : ∀ n s s₀, I n s → M.passes s s₀ → I n s₀)
    (hassumed : ∀ entry ∈ entries, ∀ event, entry.action = .did event →
      assumed entry.before event)
    (hp : M.Spends price assumed (fun _ => I) p n s) : I (n + spent price entries) s' := by
  induction h generalizing n with
  | finish time => exact htime _ _ _ hp time
  | suspend hy => exact absurd hy (hyields _)
  | step _ time answered _ ih =>
      rw [spent_cons, ← Nat.add_assoc]
      apply ih
      · intro entry hmem
        exact hassumed entry (List.mem_cons_of_mem _ hmem)
      · exact hp _ _ _ time answered (hassumed _ List.mem_cons_self _ rfl)

/-- **What runs cost**: an invariant of the amount spent and the state that time and
every job keep holds of the whole run. -/
theorem Reachable.spends {c : Config A σ J R} {I : ℕ → σ → Prop} (h : M.Reachable s c)
    (hyields : ∀ q, ¬ M.yields q) (htime : ∀ n s s₀, I n s → M.passes s s₀ → I n s₀)
    (hassumed : ∀ entry ∈ c.log, ∀ event, entry.action = .did event →
      assumed entry.before event)
    (hinit : I 0 s) (hjobs : ∀ job n s, I n s →
      M.Spends price assumed (fun _ => I) (M.program job) n s) :
    I (spent price c.log) c.state := by
  induction h with
  | init => exact hinit
  | @step c _ _ moved ih =>
      cases moved with
      | @spawn acting job s₀ s₁ entries rest fresh time run =>
          have hold := ih fun entry hmem => hassumed entry (List.mem_append_left _ hmem)
          have hstart := htime _ _ _ hold time
          have hend := run.spends hyields htime
            (fun entry hmem => hassumed entry (by simp [hmem])) (hjobs job _ _ hstart)
          rw [spent_append, spent_cons]
          simpa [entryPrice] using hend
      | resume suspended time answered run =>
          exact absurd (‹M.Reachable s c›.yields suspended) (hyields _)

end Foundation.Machine
