/-
# A breaker is a function of the log

The operations on the breaker are read off the log of a run, each at the time it
was performed. In a run that starts with a fresh breaker every record describes
these operations at every instant, so when a call is refused is decided by the
outcomes logged before it.
-/

import BedrockGateway.Routing.BreakerHistory
import BedrockGateway.Routing.BreakerRaces

namespace BedrockGateway

open Foundation

/-- The number of consecutive failures that opens a breaker: whatever is configured,
a breaker no failure was recorded of is closed. -/
def BreakerConfig.opensAt (cfg : BreakerConfig) : ℤ := max 1 cfg.failureThreshold

/-- The configuration with that number in it. -/
def BreakerConfig.effective (cfg : BreakerConfig) : BreakerConfig :=
  { cfg with failureThreshold := cfg.opensAt }

theorem BreakerConfig.one_le_effective (cfg : BreakerConfig) :
    1 ≤ cfg.effective.failureThreshold :=
  le_max_left 1 cfg.failureThreshold

/-- A failure is counted before it is compared with the threshold. -/
theorem ModelBreaker.recordFailure_effective (cfg : BreakerConfig) (now : ℚ)
    (breaker : ModelBreaker) :
    breaker.recordFailure cfg.effective now = breaker.recordFailure cfg now := by
  have hcount : cfg.opensAt ≤ ((breaker.consecutiveFailures + 1 : ℕ) : ℤ) ↔
      cfg.failureThreshold ≤ ((breaker.consecutiveFailures + 1 : ℕ) : ℤ) := by
    unfold BreakerConfig.opensAt
    omega
  simp only [recordFailure, BreakerConfig.effective, hcount]

variable {J R : Type}

/-- The operation on the breaker that an entry performs. -/
def breakerOp? (entry : Entry Answer GatewayState J R) : Option BreakerOp :=
  match entry.action with
  | .did ⟨.breakerAllow modelId, _⟩ => some ⟨entry.before.now, modelId, .allow⟩
  | .did ⟨.recordSuccess modelId, _⟩ => some ⟨entry.before.now, modelId, .recordSuccess⟩
  | .did ⟨.recordFailure modelId, _⟩ => some ⟨entry.before.now, modelId, .recordFailure⟩
  | _ => none

/-- The operations on the breaker in a log. -/
def breakerOps (log : List (Entry Answer GatewayState J R)) : List BreakerOp :=
  log.filterMap breakerOp?

theorem breakerOps_snoc (past : List (Entry Answer GatewayState J R))
    (entry : Entry Answer GatewayState J R) :
    breakerOps (past ++ [entry]) = breakerOps past ++ (breakerOp? entry).toList := by
  cases hop : breakerOp? entry <;> simp [breakerOps, hop]

section Entry

variable {modelId : String} {entry : Entry Answer GatewayState J R}

theorem breakerOp?_of_asks (h : asks modelId entry = true) :
    breakerOp? entry = some ⟨entry.before.now, modelId, .allow⟩ := by
  unfold asks at h
  split at h
  case h_1 haction => simpa [breakerOp?, haction] using h
  case h_2 => cases h

theorem breakerOp?_of_succeeds (h : succeeds modelId entry = true) :
    breakerOp? entry = some ⟨entry.before.now, modelId, .recordSuccess⟩ := by
  unfold succeeds at h
  split at h
  case h_1 haction => simpa [breakerOp?, haction] using h
  case h_2 => cases h

theorem breakerOp?_of_fails (h : fails modelId entry = true) :
    breakerOp? entry = some ⟨entry.before.now, modelId, .recordFailure⟩ := by
  unfold fails at h
  split at h
  case h_1 haction => simpa [breakerOp?, haction] using h
  case h_2 => cases h

/-- An operation is performed when its entry is made, and is one of the three. -/
theorem breakerOp?_cases {op : BreakerOp} (h : breakerOp? entry = some op) :
    op.time = entry.before.now ∧ (asks op.modelId entry = true ∨
      succeeds op.modelId entry = true ∨ fails op.modelId entry = true) := by
  unfold breakerOp? at h
  split at h
  case h_1 haction =>
    cases h
    exact ⟨rfl, .inl (by simp [asks, haction])⟩
  case h_2 haction =>
    cases h
    exact ⟨rfl, .inr (.inl (by simp [succeeds, haction]))⟩
  case h_3 haction =>
    cases h
    exact ⟨rfl, .inr (.inr (by simp [fails, haction]))⟩
  case h_4 => cases h

end Entry

section Run

variable {app : App} {M : Machine Query Answer GatewayState J R} {s s' : GatewayState}
  {log past future : List (Entry Answer GatewayState J R)}
  {entry : Entry Answer GatewayState J R} {modelId : String}

/-- **The step.** -/
theorem Describes.logged (hM : OverGateway app M) {ops : List BreakerOp}
    (h : Describes app.settings.circuitBreaker.effective modelId ops (recordBefore modelId entry))
    (hvalid : M.Valid entry) :
    Describes app.settings.circuitBreaker.effective modelId (ops ++ (breakerOp? entry).toList)
      (recordAfter modelId entry) := by
  rcases hM.record_cases hvalid modelId with ⟨hasks, _, _, _, hafter⟩ |
    ⟨_, hsucceeds, _, _, hafter⟩ | ⟨_, _, hfails, _, hafter⟩ |
    ⟨hasks, hsucceeds, hfails, _, hafter⟩
  · rw [breakerOp?_of_asks hasks, hafter]
    exact h.allow entry.before.now
  · rw [breakerOp?_of_succeeds hsucceeds, hafter]
    exact Describes.recordSuccess (BreakerConfig.one_le_effective _) _ _
  · rw [breakerOp?_of_fails hfails, hafter, ← ModelBreaker.recordFailure_effective]
    exact h.recordFailure entry.before.now
  · rw [hafter]
    cases hop : breakerOp? entry with
    | none => simpa using h
    | some op =>
        have hother : op.modelId ≠ modelId := by
          rintro rfl
          simpa [hasks, hsucceeds, hfails] using (breakerOp?_cases hop).2
        apply h.frame <;> simp [BreakerOp.is, hother]

/-- **The run.** At every instant a record describes the operations so far, and
none of them is of the future. -/
theorem OverGateway.describes (hM : OverGateway app M) (hreplay : M.Replay s log s')
    (hfresh : s.breakers = Dict.empty) (hlog : log = past ++ entry :: future)
    (modelId : String) :
    Describes app.settings.circuitBreaker.effective modelId (breakerOps past)
        (recordBefore modelId entry) ∧
      ∀ op ∈ breakerOps past, op.time ≤ entry.before.now := by
  let I (past : List (Entry Answer GatewayState J R)) (s : GatewayState) : Prop :=
    Describes app.settings.circuitBreaker.effective modelId (breakerOps past)
        (s.breakers.record modelId) ∧
      ∀ op ∈ breakerOps past, op.time ≤ s.now
  apply (hreplay.invariant (I := I) _ _ _).2 past entry future hlog
  · constructor
    · rw [hfresh]
      exact Describes.fresh (BreakerConfig.one_le_effective _) modelId
    · simp [breakerOps]
  · intro past s s₀ hI htime
    rw [hM.passes_eq] at htime
    obtain ⟨now, hle, rfl⟩ := htime
    exact ⟨hI.1, fun op hmem => (hI.2 op hmem).trans hle⟩
  · intro past entry future _ hI hvalid
    constructor
    · rw [breakerOps_snoc]
      exact Describes.logged hM hI.1 hvalid
    · intro op hmem
      rw [hM.after_now hvalid]
      rw [breakerOps_snoc, List.mem_append, Option.mem_toList] at hmem
      rcases hmem with hold | hnew
      · exact hI.2 op hold
      · exact (breakerOp?_cases hnew).1.le

/-- A trial is at least the timeout younger than the failure it follows. -/
theorem TrialSinceFailure.late {cfg : BreakerConfig} {ops : List BreakerOp} {failure : BreakerOp}
    {now : ℚ} (h : TrialSinceFailure cfg modelId ops)
    (hlast : lastFailure modelId ops = some failure) (htimes : ∀ op ∈ ops, op.time ≤ now) :
    cfg.resetTimeoutS ≤ now - failure.time := by
  obtain ⟨other, hother, op, hmem, _, hle⟩ := h
  obtain rfl := Option.some.inj (hlast.symm.trans hother)
  have hop : op ∈ ops := List.mem_reverse.mp ((List.takeWhile_sublist _).subset hmem)
  have htime := htimes op hop
  linarith

/-- **When a call is refused.** -/
theorem OverGateway.refused_iff (hM : OverGateway app M) (hreplay : M.Replay s log s')
    (hfresh : s.breakers = Dict.empty) (hlog : log = past ++ entry :: future) {allowed : Bool}
    (haction : entry.action = .did ⟨.breakerAllow modelId, allowed⟩) :
    allowed = false ↔
      app.settings.circuitBreaker.opensAt ≤ failuresSinceSuccess modelId (breakerOps past) ∧
        ∃ failure, lastFailure modelId (breakerOps past) = some failure ∧
          entry.before.now - failure.time < app.settings.circuitBreaker.resetTimeoutS := by
  obtain ⟨hdescribes, htimes⟩ := hM.describes hreplay hfresh hlog modelId
  have hvalid := (hlog ▸ hreplay).suffix.1
  have hanswer := (hM.answers hvalid haction).breakerAllow.1
  have hrecord : Describes app.settings.circuitBreaker.effective modelId (breakerOps past)
      (entry.before.breakers.record modelId) := hdescribes
  have hrefused := allow_eq_false_iff hrecord entry.before.now
  have hclosed := hdescribes.closed
  rw [hanswer]
  apply Iff.trans hrefused
  constructor
  · intro h
    apply And.intro _ h.2
    have hne : (recordBefore modelId entry).state ≠ .closed := by
      rw [show (recordBefore modelId entry).state = .opened from h.1]
      simp
    exact not_lt.mp (hclosed.not.mp hne)
  · rintro ⟨hcount, failure, hlast, hrecent⟩
    apply And.intro _ ⟨failure, hlast, hrecent⟩
    have hne : (recordBefore modelId entry).state ≠ .closed := hclosed.not.mpr (not_lt.mpr hcount)
    cases hstate : (recordBefore modelId entry).state with
    | opened => exact hstate
    | closed => exact absurd hstate hne
    | halfOpen =>
        have hlate := ((hdescribes.halfOpen hne).mp hstate).late hlast htimes
        exact absurd hrecent (not_lt.mpr hlate)

end Run

end BedrockGateway
