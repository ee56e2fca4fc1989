/-
# The circuit breaker

Every model has its own breaker record, created closed on first use. The three
operations that change a record are written on the record alone and lifted to
the table, so that what one model's calls do to another model's record (nothing)
is a fact about tables.
-/

import BedrockGateway.Foundation.Dict
import Mathlib.Data.Rat.Defs
import Mathlib.Algebra.Order.Ring.Rat

namespace BedrockGateway

open Foundation

/-- `BreakerState` -/
inductive BreakerState
  | /-- `CLOSED` -/
    closed
  | /-- `OPEN` -/
    opened
  | /-- `HALF_OPEN` -/
    halfOpen
  deriving DecidableEq

/-- The constructor arguments of `CircuitBreaker`. -/
structure BreakerConfig where
  failureThreshold : ℤ := 5
  resetTimeoutS : ℚ := 30

/-- `_ModelBreaker` -/
structure ModelBreaker where
  state : BreakerState := .closed
  consecutiveFailures : ℕ := 0
  openedAt : ℚ := 0
  deriving DecidableEq

namespace ModelBreaker

/-- The body of `allow` on one record. -/
def allow (cfg : BreakerConfig) (now : ℚ) (breaker : ModelBreaker) : Bool × ModelBreaker :=
  match breaker.state with
  | .opened =>
      if cfg.resetTimeoutS ≤ now - breaker.openedAt then
        (true, { breaker with state := .halfOpen })
      else (false, breaker)
  | _ => (true, breaker)

/-- The body of `record_success` on one record. -/
def recordSuccess (breaker : ModelBreaker) : ModelBreaker :=
  { breaker with state := .closed, consecutiveFailures := 0 }

/-- The body of `record_failure` on one record. -/
def recordFailure (cfg : BreakerConfig) (now : ℚ) (breaker : ModelBreaker) : ModelBreaker :=
  let breaker := { breaker with consecutiveFailures := breaker.consecutiveFailures + 1 }
  if breaker.state = .halfOpen ∨ cfg.failureThreshold ≤ breaker.consecutiveFailures then
    { breaker with state := .opened, openedAt := now }
  else breaker

/-- What `allow` can do: refuse an open breaker inside its timeout, turn it half
open after, and let everything else through untouched. -/
theorem allow_cases (cfg : BreakerConfig) (now : ℚ) (breaker : ModelBreaker) :
    (breaker.state = .opened ∧ now - breaker.openedAt < cfg.resetTimeoutS ∧
      breaker.allow cfg now = (false, breaker)) ∨
    (breaker.state = .opened ∧ cfg.resetTimeoutS ≤ now - breaker.openedAt ∧
      breaker.allow cfg now = (true, { breaker with state := .halfOpen })) ∨
    (breaker.state ≠ .opened ∧ breaker.allow cfg now = (true, breaker)) := by
  unfold allow
  cases hstate : breaker.state with
  | opened =>
      by_cases h : cfg.resetTimeoutS ≤ now - breaker.openedAt
      · exact .inr (.inl ⟨rfl, h, by simp [h]⟩)
      · exact .inl ⟨rfl, not_le.mp h, by simp [h]⟩
  | closed => exact .inr (.inr ⟨by simp, rfl⟩)
  | halfOpen => exact .inr (.inr ⟨by simp, rfl⟩)

/-- What `record_failure` can do: count and open, or only count. -/
theorem recordFailure_cases (cfg : BreakerConfig) (now : ℚ) (breaker : ModelBreaker) :
    ((breaker.state = .halfOpen ∨
        cfg.failureThreshold ≤ ((breaker.consecutiveFailures + 1 : ℕ) : ℤ)) ∧
      breaker.recordFailure cfg now =
        ⟨.opened, breaker.consecutiveFailures + 1, now⟩) ∨
    (breaker.state ≠ .halfOpen ∧
      ((breaker.consecutiveFailures + 1 : ℕ) : ℤ) < cfg.failureThreshold ∧
      breaker.recordFailure cfg now =
        { breaker with consecutiveFailures := breaker.consecutiveFailures + 1 }) := by
  simp only [recordFailure]
  split
  case isTrue h => exact .inl ⟨h, rfl⟩
  case isFalse h =>
    rw [not_or, not_le] at h
    exact .inr ⟨h.1, h.2, rfl⟩

end ModelBreaker

/-- `CircuitBreaker._breakers` -/
abbrev Breakers := Dict String ModelBreaker

namespace Breakers

/-- `CircuitBreaker._get`, less the insertion of a fresh record, which every
caller makes by storing the record back. -/
def record (breakers : Breakers) (modelId : String) : ModelBreaker :=
  (breakers.get? modelId).getD {}

/-- `CircuitBreaker.allow` -/
def allow (breakers : Breakers) (cfg : BreakerConfig) (now : ℚ) (modelId : String) :
    Bool × Breakers :=
  let (allowed, breaker) := (breakers.record modelId).allow cfg now
  (allowed, breakers.set modelId breaker)

/-- `CircuitBreaker.record_success` -/
def recordSuccess (breakers : Breakers) (modelId : String) : Breakers :=
  breakers.set modelId (breakers.record modelId).recordSuccess

/-- `CircuitBreaker.record_failure` -/
def recordFailure (breakers : Breakers) (cfg : BreakerConfig) (now : ℚ) (modelId : String) :
    Breakers :=
  breakers.set modelId ((breakers.record modelId).recordFailure cfg now)

/-- `CircuitBreaker.state_of` -/
def stateOf (breakers : Breakers) (modelId : String) : BreakerState × Breakers :=
  ((breakers.record modelId).state, breakers.set modelId (breakers.record modelId))

/-- Storing a record changes that model's record and no other. -/
theorem record_set (breakers : Breakers) (modelId other : String) (breaker : ModelBreaker) :
    record (breakers.set modelId breaker) other =
      if other = modelId then breaker else breakers.record other := by
  unfold record
  rw [Dict.get?_set]
  split <;> rfl

theorem record_allow (breakers : Breakers) (cfg : BreakerConfig) (now : ℚ)
    (modelId other : String) :
    (breakers.allow cfg now modelId).2.record other =
      if other = modelId then ((breakers.record modelId).allow cfg now).2
      else breakers.record other :=
  record_set ..

theorem record_recordSuccess (breakers : Breakers) (modelId other : String) :
    (breakers.recordSuccess modelId).record other =
      if other = modelId then (breakers.record modelId).recordSuccess
      else breakers.record other :=
  record_set ..

theorem record_recordFailure (breakers : Breakers) (cfg : BreakerConfig) (now : ℚ)
    (modelId other : String) :
    (breakers.recordFailure cfg now modelId).record other =
      if other = modelId then (breakers.record modelId).recordFailure cfg now
      else breakers.record other :=
  record_set ..

@[simp]
theorem record_empty (modelId : String) : record Dict.empty modelId = {} := rfl

end Breakers

end BedrockGateway
