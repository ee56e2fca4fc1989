/-
# Late outcomes and half-open breakers

Between a call's admission and its outcome any other call may be admitted or
recorded. Two things one would like to hold of every interleaving are stated
here as properties of the log of a run, refuted by a run each, and shown to hold
of every run in which the breaker is never asked, or told, at the wrong moment.
-/

import BedrockGateway.EventLoop
import Mathlib.Tactic.Linarith

namespace BedrockGateway

open Foundation

section Log

variable {J R : Type}

/-- The entry lets a call of this model through. -/
def admits (modelId : String) (entry : Entry Answer GatewayState J R) : Bool :=
  match entry.action with
  | .did ⟨.breakerAllow other, allowed⟩ => allowed && decide (other = modelId)
  | _ => false

/-- The entry asks for a call of this model. -/
def asks (modelId : String) (entry : Entry Answer GatewayState J R) : Bool :=
  match entry.action with
  | .did ⟨.breakerAllow other, _⟩ => decide (other = modelId)
  | _ => false

/-- The entry records a success of this model. -/
def succeeds (modelId : String) (entry : Entry Answer GatewayState J R) : Bool :=
  match entry.action with
  | .did ⟨.recordSuccess other, _⟩ => decide (other = modelId)
  | _ => false

/-- The entry records a failure of this model. -/
def fails (modelId : String) (entry : Entry Answer GatewayState J R) : Bool :=
  match entry.action with
  | .did ⟨.recordFailure other, _⟩ => decide (other = modelId)
  | _ => false

/-- The model's record before an entry. -/
def recordBefore (modelId : String) (entry : Entry Answer GatewayState J R) : ModelBreaker :=
  entry.before.breakers.record modelId

/-- The model's record after an entry. -/
def recordAfter (modelId : String) (entry : Entry Answer GatewayState J R) : ModelBreaker :=
  entry.after.breakers.record modelId

/-- What an entry can do to a model's record. -/
theorem OverGateway.record_cases {app : App} {M : Machine Query Answer GatewayState J R}
    (hM : OverGateway app M) {entry : Entry Answer GatewayState J R} (h : M.Valid entry)
    (modelId : String) :
    let cfg := app.settings.circuitBreaker
    let before := recordBefore modelId entry
    let after := recordAfter modelId entry
    (asks modelId entry = true ∧ succeeds modelId entry = false ∧ fails modelId entry = false ∧
      admits modelId entry = (before.allow cfg entry.before.now).1 ∧
      after = (before.allow cfg entry.before.now).2) ∨
    (asks modelId entry = false ∧ succeeds modelId entry = true ∧ fails modelId entry = false ∧
      admits modelId entry = false ∧ after = before.recordSuccess) ∨
    (asks modelId entry = false ∧ succeeds modelId entry = false ∧ fails modelId entry = true ∧
      admits modelId entry = false ∧ after = before.recordFailure cfg entry.before.now) ∨
    (asks modelId entry = false ∧ succeeds modelId entry = false ∧ fails modelId entry = false ∧
      admits modelId entry = false ∧ after = before) := by
  intro cfg before after
  rcases hM.valid_cases h with ⟨q, a, haction, hanswers⟩ | ⟨hnone, heq⟩
  · by_cases hallow : q = .breakerAllow modelId
    · subst hallow
      obtain ⟨hallowed, hrecord⟩ := hanswers.breakerAllow
      refine .inl ⟨by simp [asks, haction], by simp [succeeds, haction], by simp [fails, haction],
        ?_, hrecord⟩
      have hadmits : admits modelId entry = a := by simp [admits, haction]
      exact hadmits.trans hallowed
    · by_cases hsuccess : q = .recordSuccess modelId
      · subst hsuccess
        exact .inr (.inl ⟨by simp [asks, haction], by simp [succeeds, haction],
          by simp [fails, haction], by simp [admits, haction], hanswers.recordSuccess⟩)
      · by_cases hfailure : q = .recordFailure modelId
        · subst hfailure
          exact .inr (.inr (.inl ⟨by simp [asks, haction], by simp [succeeds, haction],
            by simp [fails, haction], by simp [admits, haction], hanswers.recordFailure⟩))
        · have hframe := hanswers.breaker_frame hallow hsuccess hfailure
          refine .inr (.inr (.inr ⟨?_, ?_, ?_, ?_, hframe⟩))
          · cases q <;> simp_all [asks]
          · cases q <;> simp_all [succeeds]
          · cases q <;> simp_all [fails]
          · cases q <;> simp_all [admits]
  · refine .inr (.inr (.inr ⟨?_, ?_, ?_, ?_, ?_⟩))
    · cases haction : entry.action <;> simp_all [asks]
    · cases haction : entry.action <;> simp_all [succeeds]
    · cases haction : entry.action <;> simp_all [fails]
    · cases haction : entry.action <;> simp_all [admits]
    · simp only [after, before, recordAfter, recordBefore, heq]

/-! ## One trial at a time -/

/-- After an `allow` turns the model's breaker from open to half open, no other
`allow` lets a call through until an outcome is recorded. -/
def SingleTrial (modelId : String) (log : List (Entry Answer GatewayState J R)) : Prop :=
  ∀ past trial between entry future, log = past ++ trial :: (between ++ entry :: future) →
    admits modelId trial = true → (recordBefore modelId trial).state = .opened →
    (recordAfter modelId trial).state = .halfOpen → admits modelId entry = true →
    ∃ outcome ∈ between, succeeds modelId outcome = true ∨ fails modelId outcome = true

/-- The breaker is never asked while the model is half open. -/
def NeverAsksHalfOpen (modelId : String) (log : List (Entry Answer GatewayState J R)) : Prop :=
  ∀ entry ∈ log, asks modelId entry = true → (recordBefore modelId entry).state ≠ .halfOpen

variable {app : App} {M : Machine Query Answer GatewayState J R} {modelId : String}

/-- A half-open breaker lets everything through. -/
theorem allow_halfOpen {cfg : BreakerConfig} {now : ℚ} {breaker : ModelBreaker}
    (h : breaker.state = .halfOpen) : breaker.allow cfg now = (true, breaker) := by
  rcases breaker.allow_cases cfg now with ⟨hopened, _⟩ | ⟨hopened, _⟩ | ⟨_, heq⟩
  · simp [h] at hopened
  · simp [h] at hopened
  · exact heq

/-- Recording a failure never leaves a breaker half open. -/
theorem recordFailure_ne_halfOpen (cfg : BreakerConfig) (now : ℚ) (breaker : ModelBreaker) :
    (breaker.recordFailure cfg now).state ≠ .halfOpen := by
  rcases breaker.recordFailure_cases cfg now with ⟨_, heq⟩ | ⟨hne, _, heq⟩
  · simp [heq]
  · simpa [heq] using hne

/-- A half-open breaker owes its state to a trial no outcome has been recorded
of. -/
theorem halfOpen_trial (hM : OverGateway app M) {s s' : GatewayState}
    {log : List (Entry Answer GatewayState J R)} (hreplay : M.Replay s log s')
    (hinit : (s.breakers.record modelId).state ≠ .halfOpen)
    {past future : List (Entry Answer GatewayState J R)} {entry : Entry Answer GatewayState J R}
    (hlog : log = past ++ entry :: future)
    (hhalf : (recordBefore modelId entry).state = .halfOpen) :
    ∃ earlier trial between, past = earlier ++ trial :: between ∧ admits modelId trial = true ∧
      (recordBefore modelId trial).state = .opened ∧
      (recordAfter modelId trial).state = .halfOpen ∧
      ∀ other ∈ between, succeeds modelId other = false ∧ fails modelId other = false := by
  let I (past : List (Entry Answer GatewayState J R)) (s : GatewayState) : Prop :=
    (s.breakers.record modelId).state = .halfOpen →
      ∃ earlier trial between, past = earlier ++ trial :: between ∧ admits modelId trial = true ∧
        (recordBefore modelId trial).state = .opened ∧
        (recordAfter modelId trial).state = .halfOpen ∧
        ∀ other ∈ between, succeeds modelId other = false ∧ fails modelId other = false
  -- An entry that records nothing extends the stretch since the trial.
  have hextend : ∀ past (e : Entry Answer GatewayState J R), I past e.before →
      succeeds modelId e = false → fails modelId e = false →
      recordAfter modelId e = recordBefore modelId e → I (past ++ [e]) e.after := by
    intro past e hI hsuccess hfailure hsame hafter
    obtain ⟨earlier, trial, between, rfl, hadmits, hbefore, hturned, hnone⟩ :=
      hI (by rw [← hafter]; exact congrArg _ hsame.symm)
    refine ⟨earlier, trial, between ++ [e], by simp, hadmits, hbefore, hturned,
      fun other hmem => ?_⟩
    rcases List.mem_append.mp hmem with hold | hnew
    · exact hnone other hold
    · rw [List.mem_singleton.mp hnew]
      exact ⟨hsuccess, hfailure⟩
  refine (hreplay.invariant (I := I) (fun h => absurd h hinit) ?_ ?_).2 past entry future hlog hhalf
  · intro past s s₀ hI hpasses
    rw [hM.passes_eq] at hpasses
    obtain ⟨now, _, rfl⟩ := hpasses
    exact hI
  · intro past e future _ hI hvalid hafter
    rcases hM.record_cases hvalid modelId with ⟨_, hs, hf, hadmits, hrecord⟩ |
      ⟨_, _, _, _, hrecord⟩ | ⟨_, _, _, _, hrecord⟩ | ⟨_, hs, hf, _, hrecord⟩
    · rcases (recordBefore modelId e).allow_cases app.settings.circuitBreaker e.before.now with
        ⟨hopened, _, heq⟩ | ⟨hopened, _, heq⟩ | ⟨hopened, heq⟩
      · exact hextend past e hI hs hf (by rw [hrecord, heq]) hafter
      · exact ⟨past, e, [], rfl, by rw [hadmits, heq], hopened, hafter, by simp⟩
      · exact hextend past e hI hs hf (by rw [hrecord, heq]) hafter
    · have hclosed : (recordAfter modelId e).state = .closed := by rw [hrecord]; rfl
      exact absurd (hclosed.symm.trans hafter) (by simp)
    · have hne := recordFailure_ne_halfOpen app.settings.circuitBreaker e.before.now
        (recordBefore modelId e)
      rw [← hrecord] at hne
      exact absurd hafter hne
    · exact hextend past e hI hs hf hrecord hafter

/-- A breaker a trial has turned half open stays so until an outcome is recorded. -/
theorem halfOpen_until_outcome (hM : OverGateway app M) {s s' : GatewayState}
    {past between future : List (Entry Answer GatewayState J R)}
    {trial entry : Entry Answer GatewayState J R}
    (hreplay : M.Replay s (past ++ trial :: (between ++ entry :: future)) s')
    (hturned : (recordAfter modelId trial).state = .halfOpen)
    (hnone : ∀ other ∈ between, succeeds modelId other = false ∧ fails modelId other = false) :
    (recordBefore modelId entry).state = .halfOpen := by
  obtain ⟨_, hrest⟩ := hreplay.suffix
  let I (between : List (Entry Answer GatewayState J R)) (s : GatewayState) : Prop :=
    (∀ other ∈ between, succeeds modelId other = false ∧ fails modelId other = false) →
      (s.breakers.record modelId).state = .halfOpen
  refine (hrest.invariant (I := I) (fun _ => hturned) ?_ ?_).2 between entry future rfl hnone
  · intro past s s₀ hI hpasses
    rw [hM.passes_eq] at hpasses
    obtain ⟨now, _, rfl⟩ := hpasses
    exact hI
  · intro past e future _ hI hvalid hquiet
    have hhalf : (recordBefore modelId e).state = .halfOpen :=
      hI fun other hmem => hquiet other (by simp [hmem])
    obtain ⟨hs, hf⟩ := hquiet e (by simp)
    show (recordAfter modelId e).state = .halfOpen
    rcases hM.record_cases hvalid modelId with ⟨_, _, _, _, hrecord⟩ | ⟨_, htrue, _⟩ |
      ⟨_, _, htrue, _⟩ | ⟨_, _, _, _, hrecord⟩
    · rw [hrecord, allow_halfOpen hhalf]
      exact hhalf
    · simp [hs] at htrue
    · simp [hf] at htrue
    · rwa [hrecord]

/-- **Half open admits one trial** in exactly the runs in which the breaker is
never asked while half open. -/
theorem singleTrial_iff (hM : OverGateway app M) {s s' : GatewayState}
    {log : List (Entry Answer GatewayState J R)} (hreplay : M.Replay s log s')
    (hinit : (s.breakers.record modelId).state ≠ .halfOpen) :
    SingleTrial modelId log ↔ NeverAsksHalfOpen modelId log := by
  constructor
  · intro hsingle entry hmem hasks hhalf
    obtain ⟨past, future, rfl⟩ := List.append_of_mem hmem
    obtain ⟨earlier, trial, between, rfl, hadmits, hbefore, hturned, hnone⟩ :=
      halfOpen_trial hM hreplay hinit rfl hhalf
    have hadmitted : admits modelId entry = true := by
      rcases hM.record_cases hreplay.suffix.1 modelId with ⟨_, _, _, hanswer, _⟩ | ⟨hno, _⟩ |
        ⟨hno, _⟩ | ⟨hno, _⟩
      · rw [hanswer, allow_halfOpen hhalf]
      all_goals simp [hasks] at hno
    obtain ⟨outcome, houtcome, hrecorded⟩ := hsingle earlier trial between entry future (by simp)
      hadmits hbefore hturned hadmitted
    obtain ⟨hs, hf⟩ := hnone outcome houtcome
    simp [hs, hf] at hrecorded
  · rintro hnever past trial between entry future rfl _ _ hturned hadmits
    by_contra hnone
    have hquiet : ∀ other ∈ between,
        succeeds modelId other = false ∧ fails modelId other = false := by
      intro other hmem
      constructor
      · rw [← Bool.not_eq_true]
        exact fun h => hnone ⟨other, hmem, .inl h⟩
      · rw [← Bool.not_eq_true]
        exact fun h => hnone ⟨other, hmem, .inr h⟩
    have hasks : asks modelId entry = true := by
      cases haction : entry.action with
      | did event =>
          obtain ⟨q, a⟩ := event
          cases q <;> simp_all [admits, asks]
      | start job => simp [admits, haction] at hadmits
      | finish result => simp [admits, haction] at hadmits
    exact hnever entry (by simp) hasks (halfOpen_until_outcome hM hreplay hturned hquiet)

/-! ## Shut for the whole timeout -/

/-- After a failure opens the model's breaker, no `allow` lets a call through
before the reset timeout has passed. -/
def StaysShut (cfg : BreakerConfig) (modelId : String)
    (log : List (Entry Answer GatewayState J R)) : Prop :=
  ∀ past trip between entry future, log = past ++ trip :: (between ++ entry :: future) →
    fails modelId trip = true → (recordBefore modelId trip).state ≠ .opened →
    (recordAfter modelId trip).state = .opened → admits modelId entry = true →
    trip.before.now + cfg.resetTimeoutS ≤ entry.before.now

/-- No success of the model is recorded while its breaker is open and inside its
timeout. -/
def NeverSucceedsShut (cfg : BreakerConfig) (modelId : String)
    (log : List (Entry Answer GatewayState J R)) : Prop :=
  ∀ entry ∈ log, succeeds modelId entry = true → (recordBefore modelId entry).state = .opened →
    cfg.resetTimeoutS ≤ entry.before.now - (recordBefore modelId entry).openedAt

/-- The timeout of a trip at `time` has passed, or the record is open and was
opened no earlier. -/
def ShutSince (cfg : BreakerConfig) (time now : ℚ) (breaker : ModelBreaker) : Prop :=
  time + cfg.resetTimeoutS ≤ now ∨ breaker.state = .opened ∧ time ≤ breaker.openedAt

/-- An open record that lets a call through is past its timeout. -/
theorem ShutSince.allow {cfg : BreakerConfig} {time now : ℚ} {breaker : ModelBreaker}
    (h : ShutSince cfg time now breaker) :
    ShutSince cfg time now (breaker.allow cfg now).2 ∧
      ((breaker.allow cfg now).1 = true → time + cfg.resetTimeoutS ≤ now) := by
  rcases h with hpast | ⟨hopened, hle⟩
  · exact ⟨.inl hpast, fun _ => hpast⟩
  · rcases breaker.allow_cases cfg now with ⟨_, _, heq⟩ | ⟨_, hlate, _⟩ | ⟨hne, _⟩
    · rw [heq]
      exact ⟨.inr ⟨hopened, hle⟩, by simp⟩
    · have hpast : time + cfg.resetTimeoutS ≤ now := by linarith
      exact ⟨.inl hpast, fun _ => hpast⟩
    · exact absurd hopened hne

/-- Another failure only restarts the timeout. -/
theorem ShutSince.recordFailure {cfg : BreakerConfig} {time now : ℚ} {breaker : ModelBreaker}
    (h : ShutSince cfg time now breaker) (htime : time ≤ now) :
    ShutSince cfg time now (breaker.recordFailure cfg now) := by
  rcases h with hpast | ⟨hopened, hle⟩
  · exact .inl hpast
  · rcases breaker.recordFailure_cases cfg now with ⟨_, heq⟩ | ⟨_, _, heq⟩
    · rw [heq]
      exact .inr ⟨rfl, htime⟩
    · rw [heq]
      exact .inr ⟨hopened, hle⟩

/-- A failure that opens a breaker stamps it with the current time. -/
theorem openedAt_of_trip (hM : OverGateway app M) {trip : Entry Answer GatewayState J R}
    (h : M.Valid trip) (hfails : fails modelId trip = true)
    (hshut : (recordBefore modelId trip).state ≠ .opened)
    (hopened : (recordAfter modelId trip).state = .opened) :
    (recordAfter modelId trip).openedAt = trip.before.now := by
  rcases hM.record_cases h modelId with ⟨_, _, hno, _⟩ | ⟨_, _, hno, _⟩ | ⟨_, _, _, _, hrecord⟩ |
    ⟨_, _, hno, _⟩
  · simp [hno] at hfails
  · simp [hno] at hfails
  · rcases (recordBefore modelId trip).recordFailure_cases app.settings.circuitBreaker
      trip.before.now with ⟨_, heq⟩ | ⟨_, _, heq⟩
    · rw [hrecord, heq]
    · rw [hrecord, heq] at hopened
      exact absurd hopened hshut
  · simp [hno] at hfails

/-- **An open breaker stays shut for the whole timeout** in every run in which no
success arrives during it. -/
theorem staysShut_of_never (hM : OverGateway app M) {s s' : GatewayState}
    {log : List (Entry Answer GatewayState J R)} (hreplay : M.Replay s log s')
    (hnever : NeverSucceedsShut app.settings.circuitBreaker modelId log) :
    StaysShut app.settings.circuitBreaker modelId log := by
  rintro past trip between entry future rfl hfails hshut hopened hadmits
  obtain ⟨htrip, hrest⟩ := hreplay.suffix
  have hopenedAt := openedAt_of_trip hM htrip hfails hshut hopened
  let I (_ : List (Entry Answer GatewayState J R)) (s : GatewayState) : Prop :=
    trip.before.now ≤ s.now ∧
      ShutSince app.settings.circuitBreaker trip.before.now s.now (s.breakers.record modelId)
  have hbefore : I between entry.before := by
    refine (hrest.invariant (I := I) ?_ ?_ ?_).2 between entry future rfl
    · exact ⟨(hM.after_now htrip).ge, .inr ⟨hopened, hopenedAt.ge⟩⟩
    · intro past s s₀ hI hpasses
      rw [hM.passes_eq] at hpasses
      obtain ⟨now, hle, rfl⟩ := hpasses
      refine ⟨hI.1.trans hle, hI.2.imp (fun hpast => hpast.trans hle) id⟩
    · intro earlier e later hsplit hI hvalid
      show _ ≤ e.after.now ∧ ShutSince _ _ e.after.now (recordAfter modelId e)
      rw [hM.after_now hvalid]
      refine ⟨hI.1, ?_⟩
      rcases hM.record_cases hvalid modelId with ⟨_, _, _, _, hrecord⟩ |
        ⟨_, hsuccess, _, _, hrecord⟩ | ⟨_, _, _, _, hrecord⟩ | ⟨_, _, _, _, hrecord⟩
      · rw [hrecord]
        exact hI.2.allow.1
      · -- A success closes the breaker, but comes too late to matter.
        rcases hI.2 with hpast | ⟨hstate, hle⟩
        · exact .inl hpast
        · have hlate := hnever e (by rw [hsplit]; simp) hsuccess hstate
          have htime : trip.before.now ≤ (recordBefore modelId e).openedAt := hle
          exact .inl (by linarith)
      · rw [hrecord]
        exact hI.2.recordFailure hI.1
      · rw [hrecord]
        exact hI.2
  have hentry : M.Valid entry := hreplay.valid (by simp)
  rcases hM.record_cases hentry modelId with ⟨_, _, _, hanswer, _⟩ | ⟨_, _, _, hno, _⟩ |
    ⟨_, _, _, hno, _⟩ | ⟨_, _, _, hno, _⟩
  · exact hbefore.2.allow.2 (hanswer ▸ hadmits)
  all_goals simp [hno] at hadmits

end Log

/-! ## Runs of concurrent calls -/

/-- Among concurrent calls, half open admits one trial in exactly the runs in which
no caller asks while the model is half open. -/
theorem modelCalls_singleTrial_iff {app : App} {now : ℚ} {policies : PolicyStore}
    {c : Config Answer GatewayState ModelCall (Except Exn Unit)}
    (h : (modelCalls app).Reachable (.fresh now policies) c) (modelId : String) :
    SingleTrial modelId c.log ↔ NeverAsksHalfOpen modelId c.log :=
  singleTrial_iff (modelCalls_overGateway app) h.replay
    (by simp [GatewayState.fresh])

/-- Among concurrent calls, an open breaker stays shut in every run in which no
success arrives while it is shut. -/
theorem modelCalls_staysShut {app : App} {now : ℚ} {policies : PolicyStore}
    {c : Config Answer GatewayState ModelCall (Except Exn Unit)}
    (h : (modelCalls app).Reachable (.fresh now policies) c) {modelId : String}
    (hnever : NeverSucceedsShut app.settings.circuitBreaker modelId c.log) :
    StaysShut app.settings.circuitBreaker modelId c.log :=
  staysShut_of_never (modelCalls_overGateway app) h.replay hnever

/-- An application whose breaker opens on the given number of failures. -/
def breakerApp (failureThreshold : ℤ) : App :=
  { App.plain with settings := { circuitBreaker := { failureThreshold := failureThreshold } } }

/-- A call fails and opens the breaker. Half a minute later two more calls ask, the
second one before the first has an outcome. -/
def twoTrials : Config Answer GatewayState ModelCall (Except Exn Unit) :=
  (modelCallsDriver (breakerApp 1)).play (Machine.initial (.fresh 0 Dict.empty)) [
    { tid := 0, job := some ⟨"m", .fails⟩, oracle := failingWorld },
    { tid := 0, oracle := failingWorld },
    { tid := 0, oracle := failingWorld },
    { tid := 1, job := some ⟨"m", .succeeds⟩, oracle := failingWorld },
    { tid := 2, job := some ⟨"m", .succeeds⟩, oracle := failingWorld },
    { tid := 1, delay := 30, oracle := failingWorld },
    { tid := 2, oracle := failingWorld }]

theorem twoTrials_reachable :
    (modelCalls (breakerApp 1)).Reachable (.fresh 0 Dict.empty) twoTrials :=
  Driver.play_reachable ..

theorem twoTrials_length : 7 < twoTrials.log.length := by decide +kernel

/-- The second trial is let through while the first is still under way. -/
theorem half_open_admits_two : ∃ c, (modelCalls (breakerApp 1)).Reachable (.fresh 0 Dict.empty) c ∧
    ¬ SingleTrial "m" c.log := by
  refine ⟨twoTrials, twoTrials_reachable, fun h => ?_⟩
  obtain ⟨outcome, hmem, _⟩ :=
    h _ _ _ _ _ (eq_take_append_two (i := 6) (j := 7) (by omega) twoTrials_length)
      (by decide +kernel) (by decide +kernel) (by decide +kernel) (by decide +kernel)
  simp at hmem

/-- The run of two trials also shows that the condition is what fails in it. -/
theorem modelCalls_singleTrial_iff_twoTrials :
    (modelCalls (breakerApp 1)).Reachable (.fresh 0 Dict.empty) twoTrials ∧
      (SingleTrial "m" twoTrials.log ↔ NeverAsksHalfOpen "m" twoTrials.log) :=
  ⟨twoTrials_reachable, modelCalls_singleTrial_iff twoTrials_reachable "m"⟩

/-- Nothing succeeds while the breaker of `twoTrials` is shut. -/
theorem modelCalls_staysShut_twoTrials :
    NeverSucceedsShut (breakerApp 1).settings.circuitBreaker "m" twoTrials.log ∧
      StaysShut (breakerApp 1).settings.circuitBreaker "m" twoTrials.log := by
  have hnever : NeverSucceedsShut (breakerApp 1).settings.circuitBreaker "m" twoTrials.log := by
    unfold NeverSucceedsShut
    decide +kernel
  exact ⟨hnever, modelCalls_staysShut twoTrials_reachable hnever⟩

/-- Three calls are admitted. Two fail and open the breaker, then the third
succeeds, and a fourth call asks, all within two seconds. -/
def lateSuccess : Config Answer GatewayState ModelCall (Except Exn Unit) :=
  (modelCallsDriver (breakerApp 2)).play (Machine.initial (.fresh 0 Dict.empty)) [
    { tid := 0, job := some ⟨"m", .succeeds⟩, oracle := failingWorld },
    { tid := 1, job := some ⟨"m", .fails⟩, oracle := failingWorld },
    { tid := 2, job := some ⟨"m", .fails⟩, oracle := failingWorld },
    { tid := 3, job := some ⟨"m", .succeeds⟩, oracle := failingWorld },
    { tid := 0, oracle := failingWorld },
    { tid := 1, oracle := failingWorld },
    { tid := 2, oracle := failingWorld },
    { tid := 1, oracle := failingWorld },
    { tid := 2, oracle := failingWorld },
    { tid := 0, delay := 1, oracle := failingWorld },
    { tid := 3, delay := 1, oracle := failingWorld }]

theorem lateSuccess_length : 13 < lateSuccess.log.length := by decide +kernel

/-- The fourth call is let through two seconds after the breaker opened for thirty. -/
theorem late_success_ends_timeout :
    ∃ c, (modelCalls (breakerApp 2)).Reachable (.fresh 0 Dict.empty) c ∧
      ¬ StaysShut (breakerApp 2).settings.circuitBreaker "m" c.log := by
  refine ⟨lateSuccess, Driver.play_reachable .., fun h => ?_⟩
  have hle := h _ _ _ _ _ (eq_take_append_two (i := 9) (j := 13) (by omega) lateSuccess_length)
    (by decide +kernel) (by decide +kernel) (by decide +kernel) (by decide +kernel)
  have hlt : lateSuccess.log[13].before.now < lateSuccess.log[9].before.now +
      (breakerApp 2).settings.circuitBreaker.resetTimeoutS := by decide +kernel
  exact absurd hle (not_le.mpr hlt)

/-! ## Runs of the event loop -/

/-- The same law for the handlers themselves. -/
theorem eventLoop_singleTrial_iff {app : App} {now : ℚ} {policies : PolicyStore} {c : Process}
    (h : (eventLoop app).Reachable (.fresh now policies) c) (modelId : String) :
    SingleTrial modelId c.log ↔ NeverAsksHalfOpen modelId c.log :=
  singleTrial_iff (eventLoop_overGateway app) h.replay (by simp [GatewayState.fresh])

theorem eventLoop_staysShut {app : App} {now : ℚ} {policies : PolicyStore} {c : Process}
    (h : (eventLoop app).Reachable (.fresh now policies) c) {modelId : String}
    (hnever : NeverSucceedsShut app.settings.circuitBreaker modelId c.log) :
    StaysShut app.settings.circuitBreaker modelId c.log :=
  staysShut_of_never (eventLoop_overGateway app) h.replay hnever

end BedrockGateway
