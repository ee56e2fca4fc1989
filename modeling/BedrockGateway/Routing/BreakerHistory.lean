/-
# A breaker is a function of its model's history

The operations on the breaker table are run in sequence, each at its own time.
What a record holds afterwards is read off the sequence itself: the failures
since the last success, the time of the last failure, and whether a trial was
let through since. The operations on other models play no part.
-/

import BedrockGateway.Routing.CircuitBreaker
import Mathlib.Data.List.Induction

namespace BedrockGateway

open Foundation

/-- The operations of `CircuitBreaker`. -/
inductive BreakerCall
  | allow
  | recordSuccess
  | recordFailure
  | stateOf
  deriving DecidableEq

/-- One operation on one model at one time. -/
structure BreakerOp where
  time : ℚ
  modelId : String
  call : BreakerCall
  deriving DecidableEq

/-- What an operation returns. -/
inductive BreakerResult
  | allowed (value : Bool)
  | none
  | state (value : BreakerState)
  deriving DecidableEq

namespace Breakers

/-- Run one operation. -/
def perform (cfg : BreakerConfig) (breakers : Breakers) (op : BreakerOp) :
    BreakerResult × Breakers :=
  match op.call with
  | .allow =>
      let (value, breakers) := breakers.allow cfg op.time op.modelId
      (.allowed value, breakers)
  | .recordSuccess => (.none, breakers.recordSuccess op.modelId)
  | .recordFailure => (.none, breakers.recordFailure cfg op.time op.modelId)
  | .stateOf =>
      let (value, breakers) := breakers.stateOf op.modelId
      (.state value, breakers)

/-- Run a sequence of operations on a fresh breaker. -/
def performAll (cfg : BreakerConfig) (ops : List BreakerOp) : Breakers :=
  ops.foldl (fun breakers op => (breakers.perform cfg op).2) Dict.empty

/-- What the operations on one model returned, in order. -/
def resultsFor (cfg : BreakerConfig) (modelId : String) :
    Breakers → List BreakerOp → List BreakerResult
  | _, [] => []
  | breakers, op :: ops =>
      let (result, next) := breakers.perform cfg op
      if op.modelId = modelId then result :: resultsFor cfg modelId next ops
      else resultsFor cfg modelId next ops

end Breakers

/-! ## One record at a time -/

namespace ModelBreaker

/-- What an operation does to the record it is about. -/
def perform (cfg : BreakerConfig) (breaker : ModelBreaker) (op : BreakerOp) :
    BreakerResult × ModelBreaker :=
  match op.call with
  | .allow => (.allowed (breaker.allow cfg op.time).1, (breaker.allow cfg op.time).2)
  | .recordSuccess => (.none, breaker.recordSuccess)
  | .recordFailure => (.none, breaker.recordFailure cfg op.time)
  | .stateOf => (.state breaker.state, breaker)

end ModelBreaker

namespace Breakers

/-- An operation acts on the record of its own model and on no other. -/
theorem record_perform (cfg : BreakerConfig) (breakers : Breakers) (op : BreakerOp)
    (modelId : String) :
    (breakers.perform cfg op).2.record modelId =
      if modelId = op.modelId then ((breakers.record modelId).perform cfg op).2
      else breakers.record modelId := by
  by_cases h : modelId = op.modelId
  · subst h
    cases hcall : op.call <;>
      simp [perform, ModelBreaker.perform, hcall, allow, recordSuccess, recordFailure, stateOf,
        record_set]
  · cases hcall : op.call <;>
      simp [perform, hcall, allow, recordSuccess, recordFailure, stateOf, record_set, h]

/-- What an operation returns depends on the record of its own model only. -/
theorem perform_result (cfg : BreakerConfig) (breakers : Breakers) (op : BreakerOp) :
    (breakers.perform cfg op).1 = ((breakers.record op.modelId).perform cfg op).1 := by
  cases hcall : op.call <;> simp [perform, ModelBreaker.perform, hcall, allow, stateOf]

theorem performAll_append (cfg : BreakerConfig) (ops : List BreakerOp) (op : BreakerOp) :
    performAll cfg (ops ++ [op]) = ((performAll cfg ops).perform cfg op).2 := by
  simp [performAll]

/-- **Erasure.** The operations on other models leave no trace in a record. -/
theorem record_performAll_filter (cfg : BreakerConfig) (ops : List BreakerOp) (modelId : String) :
    (performAll cfg (ops.filter (·.modelId = modelId))).record modelId =
      (performAll cfg ops).record modelId := by
  induction ops using List.reverseRecOn with
  | nil => rfl
  | append_singleton ops op ih =>
      rw [performAll_append, record_perform, List.filter_append]
      by_cases h : op.modelId = modelId
      · rw [List.filter_cons_of_pos (by simpa using h), List.filter_nil, performAll_append,
          record_perform, if_pos h.symm, if_pos h.symm, ih]
      · rw [List.filter_cons_of_neg (by simpa using h), List.filter_nil, List.append_nil, ih,
          if_neg (Ne.symm h)]

/-- Tables that agree on a model's record answer its operations alike, whatever
else is mixed in. -/
theorem resultsFor_filter (cfg : BreakerConfig) (modelId : String) (ops : List BreakerOp)
    {breakers breakers' : Breakers} (h : breakers.record modelId = breakers'.record modelId) :
    resultsFor cfg modelId breakers (ops.filter (·.modelId = modelId)) =
      resultsFor cfg modelId breakers' ops := by
  induction ops generalizing breakers breakers' with
  | nil => rfl
  | cons op ops ih =>
      by_cases hop : op.modelId = modelId
      · subst hop
        rw [List.filter_cons_of_pos (by simp)]
        simp only [resultsFor, ↓reduceIte, perform_result, h]
        congr 1
        exact ih (by rw [record_perform, record_perform, if_pos rfl, if_pos rfl, h])
      · rw [List.filter_cons_of_neg (by simpa using hop)]
        simp only [resultsFor, if_neg hop]
        exact ih (by rw [record_perform, if_neg (Ne.symm hop), h])

end Breakers

/-! ## Reading a history -/

namespace BreakerOp

/-- The operation is this call on this model. -/
def is (op : BreakerOp) (modelId : String) (call : BreakerCall) : Bool :=
  op.modelId = modelId && op.call = call

end BreakerOp

/-- The failures recorded for a model since its last recorded success. -/
def failuresSinceSuccess (modelId : String) (ops : List BreakerOp) : ℕ :=
  (ops.reverse.takeWhile fun op => !op.is modelId .recordSuccess).countP
    fun op => op.is modelId .recordFailure

/-- The model's most recent failure. -/
def lastFailure (modelId : String) (ops : List BreakerOp) : Option BreakerOp :=
  ops.reverse.find? fun op => op.is modelId .recordFailure

/-- Some `allow` since the model's most recent failure ran at least the reset
timeout after it. -/
def TrialSinceFailure (cfg : BreakerConfig) (modelId : String) (ops : List BreakerOp) : Prop :=
  ∃ failure, lastFailure modelId ops = some failure ∧
    ∃ op ∈ ops.reverse.takeWhile fun op => !op.is modelId .recordFailure,
      op.is modelId .allow = true ∧ cfg.resetTimeoutS ≤ op.time - failure.time

/-- What a record says about the history of its model. -/
structure Describes (cfg : BreakerConfig) (modelId : String) (ops : List BreakerOp)
    (breaker : ModelBreaker) : Prop where
  failures : breaker.consecutiveFailures = failuresSinceSuccess modelId ops
  closed : breaker.state = .closed ↔ (failuresSinceSuccess modelId ops : ℤ) < cfg.failureThreshold
  openedAt : breaker.state ≠ .closed →
    ∃ failure, lastFailure modelId ops = some failure ∧ breaker.openedAt = failure.time
  halfOpen : breaker.state ≠ .closed →
    (breaker.state = .halfOpen ↔ TrialSinceFailure cfg modelId ops)

section Snoc

variable {modelId : String} {ops : List BreakerOp} {op : BreakerOp}

theorem failuresSinceSuccess_snoc :
    failuresSinceSuccess modelId (ops ++ [op]) =
      if op.is modelId .recordSuccess then 0
      else if op.is modelId .recordFailure then failuresSinceSuccess modelId ops + 1
      else failuresSinceSuccess modelId ops := by
  unfold failuresSinceSuccess
  rw [List.reverse_append, List.reverse_singleton, List.singleton_append, List.takeWhile_cons]
  by_cases hs : op.is modelId .recordSuccess = true
  · simp [hs]
  · by_cases hf : op.is modelId .recordFailure = true <;> simp [hs, hf]

theorem lastFailure_snoc :
    lastFailure modelId (ops ++ [op]) =
      if op.is modelId .recordFailure then some op else lastFailure modelId ops := by
  unfold lastFailure
  rw [List.reverse_append, List.reverse_singleton, List.singleton_append, List.find?_cons]
  cases op.is modelId .recordFailure <;> rfl

theorem trialSinceFailure_snoc {cfg : BreakerConfig} :
    TrialSinceFailure cfg modelId (ops ++ [op]) ↔
      op.is modelId .recordFailure = false ∧
        (TrialSinceFailure cfg modelId ops ∨
          ∃ failure, lastFailure modelId ops = some failure ∧ op.is modelId .allow = true ∧
            cfg.resetTimeoutS ≤ op.time - failure.time) := by
  unfold TrialSinceFailure
  rw [lastFailure_snoc, List.reverse_append, List.reverse_singleton, List.singleton_append,
    List.takeWhile_cons]
  by_cases hf : op.is modelId .recordFailure = true
  · simp [hf]
  · rw [Bool.not_eq_true] at hf
    simp only [hf, Bool.false_eq_true, ↓reduceIte, Bool.not_false, List.mem_cons, true_and]
    constructor
    · rintro ⟨failure, hlast, other, rfl | hmem, hallow, hle⟩
      · exact .inr ⟨failure, hlast, hallow, hle⟩
      · exact .inl ⟨failure, hlast, other, hmem, hallow, hle⟩
    · rintro (⟨failure, hlast, other, hmem, hallow, hle⟩ | ⟨failure, hlast, hallow, hle⟩)
      · exact ⟨failure, hlast, other, .inr hmem, hallow, hle⟩
      · exact ⟨failure, hlast, op, .inl rfl, hallow, hle⟩

end Snoc

/-! ## The step and the run -/

/-- A fresh record describes the empty history. -/
theorem Describes.fresh {cfg : BreakerConfig} (hthreshold : 1 ≤ cfg.failureThreshold)
    (modelId : String) : Describes cfg modelId [] {} where
  failures := rfl
  closed := by
    have hpos : 0 < cfg.failureThreshold := by omega
    simpa [failuresSinceSuccess] using hpos
  openedAt h := absurd rfl h
  halfOpen h := absurd rfl h

/-- An operation that is neither a success, a failure nor an `allow` of the model
changes nothing its record says. -/
theorem Describes.frame {cfg : BreakerConfig} {modelId : String} {ops : List BreakerOp}
    {op : BreakerOp} {breaker : ModelBreaker} (h : Describes cfg modelId ops breaker)
    (hsuccess : op.is modelId .recordSuccess = false)
    (hfailure : op.is modelId .recordFailure = false)
    (hallow : op.is modelId .allow = false) : Describes cfg modelId (ops ++ [op]) breaker := by
  refine ⟨?_, ?_, ?_, ?_⟩
  · simpa [failuresSinceSuccess_snoc, hsuccess, hfailure] using h.failures
  · simpa [failuresSinceSuccess_snoc, hsuccess, hfailure] using h.closed
  · simpa [lastFailure_snoc, hfailure] using h.openedAt
  · simpa [trialSinceFailure_snoc, hfailure, hallow] using h.halfOpen

theorem Describes.allow {cfg : BreakerConfig} {modelId : String} {ops : List BreakerOp}
    {breaker : ModelBreaker} (h : Describes cfg modelId ops breaker) (time : ℚ) :
    Describes cfg modelId (ops ++ [⟨time, modelId, .allow⟩]) (breaker.allow cfg time).2 := by
  have hcount : failuresSinceSuccess modelId (ops ++ [⟨time, modelId, .allow⟩]) =
      failuresSinceSuccess modelId ops := by simp [failuresSinceSuccess_snoc, BreakerOp.is]
  have hlast : lastFailure modelId (ops ++ [⟨time, modelId, .allow⟩]) =
      lastFailure modelId ops := by simp [lastFailure_snoc, BreakerOp.is]
  have htrial : TrialSinceFailure cfg modelId (ops ++ [⟨time, modelId, .allow⟩]) ↔
      TrialSinceFailure cfg modelId ops ∨ ∃ failure, lastFailure modelId ops = some failure ∧
        cfg.resetTimeoutS ≤ time - failure.time := by
    simp [trialSinceFailure_snoc, BreakerOp.is]
  rcases breaker.allow_cases cfg time with
    ⟨hopened, hearly, heq⟩ | ⟨hopened, hlate, heq⟩ | ⟨hopened, heq⟩
  · -- Refused: the timeout has not elapsed, so this call is no trial.
    have hne : breaker.state ≠ .closed := by simp [hopened]
    obtain ⟨failure, hfailure, htime⟩ := h.openedAt hne
    have hnone : ¬ TrialSinceFailure cfg modelId ops := by
      rw [← h.halfOpen hne, hopened]
      simp
    rw [heq]
    refine ⟨hcount ▸ h.failures, hcount ▸ h.closed, fun _ => ⟨failure, hlast ▸ hfailure, htime⟩,
      fun _ => ?_⟩
    rw [htrial, hopened]
    simp only [reduceCtorEq, hnone, false_or, false_iff, not_exists, not_and, not_le]
    intro other hother
    rw [hfailure, Option.some.injEq] at hother
    rwa [← hother, ← htime]
  · -- The trial itself.
    have hne : breaker.state ≠ .closed := by simp [hopened]
    obtain ⟨failure, hfailure, htime⟩ := h.openedAt hne
    have hcounted := h.closed.not.mp hne
    rw [heq]
    refine ⟨hcount ▸ h.failures, ?_, fun _ => ⟨failure, hlast ▸ hfailure, htime⟩, fun _ => ?_⟩
    · rw [hcount]
      simpa using hcounted
    · rw [htrial]
      simp only [true_iff]
      exact .inr ⟨failure, hfailure, htime ▸ hlate⟩
  · rw [heq]
    refine ⟨hcount ▸ h.failures, hcount ▸ h.closed, fun hne => hlast ▸ h.openedAt hne,
      fun hne => ?_⟩
    have hhalf : breaker.state = .halfOpen := by
      cases hstate : breaker.state with
      | closed => exact absurd hstate hne
      | opened => exact absurd hstate hopened
      | halfOpen => rfl
    rw [htrial, ← h.halfOpen hne]
    simp [hhalf]

theorem Describes.recordSuccess {cfg : BreakerConfig} (hthreshold : 1 ≤ cfg.failureThreshold)
    {modelId : String} {ops : List BreakerOp} (breaker : ModelBreaker) (time : ℚ) :
    Describes cfg modelId (ops ++ [⟨time, modelId, .recordSuccess⟩]) breaker.recordSuccess where
  failures := by simp [failuresSinceSuccess_snoc, BreakerOp.is, ModelBreaker.recordSuccess]
  closed := by
    have hpos : (0 : ℤ) < cfg.failureThreshold := by omega
    simpa [failuresSinceSuccess_snoc, BreakerOp.is, ModelBreaker.recordSuccess] using hpos
  openedAt h := absurd rfl h
  halfOpen h := absurd rfl h

theorem Describes.recordFailure {cfg : BreakerConfig} {modelId : String} {ops : List BreakerOp}
    {breaker : ModelBreaker} (h : Describes cfg modelId ops breaker) (time : ℚ) :
    Describes cfg modelId (ops ++ [⟨time, modelId, .recordFailure⟩])
      (breaker.recordFailure cfg time) := by
  have hcount : failuresSinceSuccess modelId (ops ++ [⟨time, modelId, .recordFailure⟩]) =
      failuresSinceSuccess modelId ops + 1 := by simp [failuresSinceSuccess_snoc, BreakerOp.is]
  have hlast : lastFailure modelId (ops ++ [⟨time, modelId, .recordFailure⟩]) =
      some ⟨time, modelId, .recordFailure⟩ := by simp [lastFailure_snoc, BreakerOp.is]
  rcases breaker.recordFailure_cases cfg time with ⟨hopens, heq⟩ | ⟨hnotHalf, hbelow, heq⟩
  · -- Opened, or reopened; a half-open breaker is past its threshold already.
    have hreached : cfg.failureThreshold ≤ ((failuresSinceSuccess modelId ops + 1 : ℕ) : ℤ) := by
      rcases hopens with hhalf | hle
      · have hpast := h.closed.not.mp (by simp [hhalf])
        push_cast
        omega
      · rwa [h.failures] at hle
    rw [heq]
    refine ⟨by rw [hcount, h.failures], ?_, fun _ => ⟨_, hlast, rfl⟩, fun _ => ?_⟩
    · rw [hcount]
      simpa using hreached
    · simp [trialSinceFailure_snoc, BreakerOp.is]
  · have hclosed : breaker.state = .closed := by
      rw [h.closed, ← h.failures]
      push_cast at hbelow
      omega
    rw [heq]
    refine ⟨by rw [hcount, h.failures], ?_, fun hne => absurd hclosed hne,
      fun hne => absurd hclosed hne⟩
    rw [hcount, ← h.failures]
    simpa [hclosed] using hbelow

/-- **The step.** -/
theorem Describes.perform {cfg : BreakerConfig} (hthreshold : 1 ≤ cfg.failureThreshold)
    {modelId : String} {ops : List BreakerOp} {breaker : ModelBreaker}
    (h : Describes cfg modelId ops breaker) {op : BreakerOp} (hop : op.modelId = modelId) :
    Describes cfg modelId (ops ++ [op]) (breaker.perform cfg op).2 := by
  obtain ⟨time, other, call⟩ := op
  subst hop
  cases call with
  | allow => exact h.allow time
  | recordSuccess => exact Describes.recordSuccess hthreshold breaker time
  | recordFailure => exact h.recordFailure time
  | stateOf =>
      exact h.frame (by simp [BreakerOp.is]) (by simp [BreakerOp.is]) (by simp [BreakerOp.is])

/-- **The run.** After any sequence of operations every record describes the
history of its model. -/
theorem describes_performAll {cfg : BreakerConfig} (hthreshold : 1 ≤ cfg.failureThreshold)
    (ops : List BreakerOp) (modelId : String) :
    Describes cfg modelId ops ((Breakers.performAll cfg ops).record modelId) := by
  induction ops using List.reverseRecOn with
  | nil => exact Describes.fresh hthreshold modelId
  | append_singleton ops op ih =>
      rw [Breakers.performAll_append, Breakers.record_perform]
      by_cases hop : modelId = op.modelId
      · rw [if_pos hop]
        exact ih.perform hthreshold hop.symm
      · rw [if_neg hop]
        refine ih.frame ?_ ?_ ?_ <;> simp [BreakerOp.is, Ne.symm hop]

/-- `allow` refuses exactly when the record is open and its last failure is more
recent than the timeout. -/
theorem allow_eq_false_iff {cfg : BreakerConfig} {modelId : String} {ops : List BreakerOp}
    {breakers : Breakers} (h : Describes cfg modelId ops (breakers.record modelId)) (now : ℚ) :
    (breakers.allow cfg now modelId).1 = false ↔
      (breakers.record modelId).state = .opened ∧
        ∃ failure, lastFailure modelId ops = some failure ∧
          now - failure.time < cfg.resetTimeoutS := by
  show ((breakers.record modelId).allow cfg now).1 = false ↔ _
  rcases (breakers.record modelId).allow_cases cfg now with
    ⟨hopened, hearly, heq⟩ | ⟨hopened, hlate, heq⟩ | ⟨hopened, heq⟩
  · obtain ⟨failure, hfailure, htime⟩ := h.openedAt (by simp [hopened])
    rw [heq]
    simp only [true_iff]
    exact ⟨hopened, failure, hfailure, htime ▸ hearly⟩
  · obtain ⟨failure, hfailure, htime⟩ := h.openedAt (by simp [hopened])
    rw [heq]
    simp only [Bool.true_eq_false, false_iff, not_and, not_exists]
    intro _ other hother
    rw [hfailure, Option.some.injEq] at hother
    rw [← hother, ← htime]
    exact not_lt.mpr hlate
  · rw [heq]
    simp [hopened]

/-- The breaker of every model is exactly a function of that model's own history. -/
theorem breaker_is_history {cfg : BreakerConfig} (hthreshold : 1 ≤ cfg.failureThreshold)
    (ops : List BreakerOp) (modelId : String) :
    let breakers := Breakers.performAll cfg ops
    let breaker := breakers.record modelId
    breaker.consecutiveFailures = failuresSinceSuccess modelId ops ∧
    (breaker.state = .closed ↔
      (failuresSinceSuccess modelId ops : ℤ) < cfg.failureThreshold) ∧
    (breaker.state ≠ .closed → ∃ failure, lastFailure modelId ops = some failure ∧
      breaker.openedAt = failure.time) ∧
    (breaker.state ≠ .closed →
      (breaker.state = .halfOpen ↔ TrialSinceFailure cfg modelId ops)) ∧
    (∀ now, (breakers.allow cfg now modelId).1 = false ↔
      breaker.state = .opened ∧ ∃ failure, lastFailure modelId ops = some failure ∧
        now - failure.time < cfg.resetTimeoutS) ∧
    (Breakers.performAll cfg (ops.filter (·.modelId = modelId))).record modelId = breaker ∧
    Breakers.resultsFor cfg modelId Dict.empty (ops.filter (·.modelId = modelId)) =
      Breakers.resultsFor cfg modelId Dict.empty ops := by
  intro breakers breaker
  have h := describes_performAll hthreshold ops modelId
  exact ⟨h.failures, h.closed, h.openedAt, h.halfOpen, allow_eq_false_iff h,
    Breakers.record_performAll_filter cfg ops modelId,
    Breakers.resultsFor_filter cfg modelId ops rfl⟩

/-- The statement at a breaker that opens on its second failure. -/
theorem breaker_is_history_two_failures :
    let cfg : BreakerConfig := { failureThreshold := 2 }
    let ops : List BreakerOp := [⟨0, "a", .recordFailure⟩, ⟨1, "b", .recordSuccess⟩,
      ⟨2, "a", .recordFailure⟩]
    let breakers := Breakers.performAll cfg ops
    let breaker := breakers.record "a"
    breaker.consecutiveFailures = failuresSinceSuccess "a" ops ∧
    (breaker.state = .closed ↔ (failuresSinceSuccess "a" ops : ℤ) < cfg.failureThreshold) ∧
    (breaker.state ≠ .closed → ∃ failure, lastFailure "a" ops = some failure ∧
      breaker.openedAt = failure.time) ∧
    (breaker.state ≠ .closed →
      (breaker.state = .halfOpen ↔ TrialSinceFailure cfg "a" ops)) ∧
    (∀ now, (breakers.allow cfg now "a").1 = false ↔
      breaker.state = .opened ∧ ∃ failure, lastFailure "a" ops = some failure ∧
        now - failure.time < cfg.resetTimeoutS) ∧
    (Breakers.performAll cfg (ops.filter (·.modelId = "a"))).record "a" = breaker ∧
    Breakers.resultsFor cfg "a" Dict.empty (ops.filter (·.modelId = "a")) =
      Breakers.resultsFor cfg "a" Dict.empty ops :=
  @breaker_is_history { failureThreshold := 2 } (by decide)
    [⟨0, "a", .recordFailure⟩, ⟨1, "b", .recordSuccess⟩, ⟨2, "a", .recordFailure⟩] "a"

end BedrockGateway
