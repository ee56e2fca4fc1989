/-
# No retry storm

The router calls its client, the client retries. While a model fails, its breaker
lets a bounded number of calls through: the threshold's worth of them, and one more
for every reset timeout. With the retries the upstream sees that many calls times
the attempts of one.

The invariant charges the calls made in the window to the breaker: a closed breaker
has counted them, an open one has seen the threshold's worth of them and one for
every timeout between the window's start and its last failure.
-/

import BedrockGateway.Foundation.Cost
import BedrockGateway.Inference.BedrockClient
import BedrockGateway.Routing.BreakerHistory
import BedrockGateway.Routing.FirstSuccess

namespace BedrockGateway

open Foundation Py

/-- Calls of the router over its Bedrock client that do not overlap. -/
def routedCalls (app : App) (client : BedrockClient) :
    Machine ClientQuery ClientAnswer GatewayState RouterCall (Except Exn RoutedResult) where
  passes := Elapses
  sem := ClientAnswers app
  yields := fun _ => False
  program := fun call => ((routerCalls app).program call).expand client.serves

/-- The log of such calls. -/
abbrev RoutedLog := List (Entry ClientAnswer GatewayState RouterCall (Except Exn RoutedResult))

/-- A window of time. -/
structure Window where
  opens : ℚ
  length : ℚ

/-- The window is open at a time. -/
def Window.Contains (window : Window) (time : ℚ) : Prop :=
  window.opens ≤ time ∧ time ≤ window.opens + window.length

instance (window : Window) (time : ℚ) : Decidable (window.Contains time) :=
  inferInstanceAs (Decidable (_ ∧ _))

/-- The event is an attempt, of those that count, to invoke the model in the window. -/
def charged (modelId : String) (window : Window) (counts : ℕ → Bool) (s : GatewayState)
    (event : Event ClientAnswer) : Bool :=
  match event.query with
  | .invoke model _ _ _ attempt => model = modelId && counts attempt && window.Contains s.now
  | _ => false

/-- The calls of the client for a model in a window, each known by its first attempt. -/
def clientCalls (modelId : String) (window : Window) (log : RoutedLog) : ℕ :=
  log.countP fun entry =>
    entry.action.event?.any (charged modelId window (fun attempt => attempt = 0) entry.before)

/-- The calls of the upstream for a model in a window. -/
def upstreamCalls (modelId : String) (window : Window) (log : RoutedLog) : ℕ :=
  log.countP fun entry =>
    entry.action.event?.any (charged modelId window (fun _ => true) entry.before)

/-- The event is not an upstream call that succeeds. -/
def notInvoked : Event ClientAnswer → Bool
  | ⟨.invoke _ _ _ _ _, .ok _⟩ => false
  | _ => true

/-- An upstream call for the model, if made in the window, fails. -/
def FailsIn (modelId : String) (window : Window) (s : GatewayState) (event : Event ClientAnswer) :
    Prop :=
  charged modelId window (fun _ => true) s event = true → notInvoked event = true

instance (modelId : String) (window : Window) (s : GatewayState) (event : Event ClientAnswer) :
    Decidable (FailsIn modelId window s event) :=
  inferInstanceAs (Decidable (_ → _))

/-! ## The allowance -/

/-- The reset timeouts in a length of time. -/
def timeouts (cfg : BreakerConfig) (length : ℚ) : ℤ := ⌊length / cfg.resetTimeoutS⌋

section Timeouts

variable {cfg : BreakerConfig} (htimeout : 0 < cfg.resetTimeoutS) {x y : ℚ}

include htimeout

theorem timeouts_mono (h : x ≤ y) : timeouts cfg x ≤ timeouts cfg y := by
  apply Int.floor_le_floor
  exact div_le_div_of_nonneg_right h htimeout.le

theorem timeouts_nonneg (h : 0 ≤ x) : 0 ≤ timeouts cfg x :=
  Int.floor_nonneg.mpr (div_nonneg h htimeout.le)

theorem timeouts_succ_le (h : x + cfg.resetTimeoutS ≤ y) :
    timeouts cfg x + 1 ≤ timeouts cfg y := by
  have hsucc : timeouts cfg (x + cfg.resetTimeoutS) = timeouts cfg x + 1 := by
    rw [timeouts, add_div, div_self htimeout.ne', Int.floor_add_one]
    rfl
  rw [← hsucc]
  exact timeouts_mono htimeout h

end Timeouts

/-- What calls of a model may cost before a time, each costing `price` at most. -/
def allowance (cfg : BreakerConfig) (window : Window) (price : ℕ) (time : ℚ) : ℤ :=
  price * (cfg.failureThreshold + timeouts cfg (time - window.opens))

/-- Between calls, the model's breaker has counted what was spent in the window. -/
def Counted (cfg : BreakerConfig) (window : Window) (price n : ℕ) (now : ℚ)
    (breaker : ModelBreaker) : Prop :=
  match breaker.state with
  | .closed => (breaker.consecutiveFailures : ℤ) < cfg.failureThreshold ∧
      n ≤ price * breaker.consecutiveFailures
  | .opened => n = 0 ∨ window.opens ≤ breaker.openedAt ∧ breaker.openedAt ≤ now ∧
      n ≤ allowance cfg window price breaker.openedAt
  | .halfOpen => n = 0

/-- During a call, there is room for what one more call costs. -/
def HasRoom (cfg : BreakerConfig) (window : Window) (price n : ℕ) (now : ℚ)
    (breaker : ModelBreaker) : Prop :=
  match breaker.state with
  | .closed => (breaker.consecutiveFailures : ℤ) < cfg.failureThreshold ∧
      n ≤ price * breaker.consecutiveFailures
  | .opened => False
  | .halfOpen => n = 0 ∨ window.opens ≤ now ∧ (n + price : ℤ) ≤ allowance cfg window price now

section Allowance

variable {cfg : BreakerConfig} {window : Window} {price n m : ℕ} {now now' : ℚ}
variable {breaker : ModelBreaker}

theorem Counted.later (h : Counted cfg window price n now breaker) (hle : now ≤ now') :
    Counted cfg window price n now' breaker := by
  unfold Counted at h ⊢
  cases hstate : breaker.state with
  | closed => simpa [hstate] using h
  | halfOpen => simpa [hstate] using h
  | opened =>
      simp only [hstate] at h ⊢
      apply h.imp_right
      rintro ⟨hopens, hnow, hspent⟩
      exact ⟨hopens, hnow.trans hle, hspent⟩

variable (hthreshold : 1 ≤ cfg.failureThreshold) (htimeout : 0 < cfg.resetTimeoutS)

include hthreshold in
/-- One more call costs no more than the threshold's worth of calls. -/
private theorem price_le (price : ℕ) : (price : ℤ) ≤ price * cfg.failureThreshold :=
  le_mul_of_one_le_right (Int.natCast_nonneg price) hthreshold

include htimeout in
theorem allowance_mono (h : now ≤ now') :
    allowance cfg window price now ≤ allowance cfg window price now' := by
  apply mul_le_mul_of_nonneg_left _ (Int.natCast_nonneg price)
  have hperiods := timeouts_mono htimeout (sub_le_sub_right h window.opens)
  exact Int.add_le_add_left hperiods _

include htimeout in
/-- Within the window, the threshold's worth of calls is allowed. -/
private theorem threshold_le_allowance (h : window.opens ≤ now) :
    price * cfg.failureThreshold ≤ allowance cfg window price now := by
  apply mul_le_mul_of_nonneg_left _ (Int.natCast_nonneg price)
  have hperiods := timeouts_nonneg htimeout (sub_nonneg.mpr h)
  omega

include htimeout in
/-- A timeout later, one more call is allowed. -/
private theorem allowance_succ (h : now + cfg.resetTimeoutS ≤ now') :
    allowance cfg window price now + price ≤ allowance cfg window price now' := by
  have hperiods : timeouts cfg (now - window.opens) + 1 ≤ timeouts cfg (now' - window.opens) :=
    timeouts_succ_le htimeout (by linarith)
  calc allowance cfg window price now + price
      = price * (cfg.failureThreshold + (timeouts cfg (now - window.opens) + 1)) := by
        unfold allowance
        ring
    _ ≤ allowance cfg window price now' :=
        mul_le_mul_of_nonneg_left (Int.add_le_add_left hperiods _) (Int.natCast_nonneg price)

include htimeout in
/-- **Letting a call through leaves room for it.** -/
theorem Counted.allow (h : Counted cfg window price n now breaker)
    (hallowed : (breaker.allow cfg now).1 = true) :
    HasRoom cfg window price n now (breaker.allow cfg now).2 := by
  rcases breaker.allow_cases cfg now with
    ⟨_, _, heq⟩ | ⟨hopened, hlate, heq⟩ | ⟨hopened, heq⟩
  · simp [heq] at hallowed
  · rw [heq]
    simp only [Counted, hopened] at h
    apply h.imp_right
    rintro ⟨hopens, hnow, hspent⟩
    have hmore : allowance cfg window price breaker.openedAt + price ≤
        allowance cfg window price now := allowance_succ htimeout (by linarith)
    exact ⟨hopens.trans hnow, by omega⟩
  · rw [heq]
    unfold Counted at h
    unfold HasRoom
    cases hstate : breaker.state with
    | closed => simpa [hstate] using h
    | halfOpen => exact .inl (by simpa [hstate] using h)
    | opened => exact absurd hstate hopened

include hthreshold htimeout in
/-- Within the window, what a call costs is allowed. -/
theorem HasRoom.add_le (h : HasRoom cfg window price n now breaker) (hle : now ≤ now')
    (hlater : window.opens ≤ now') :
    (n + price : ℤ) ≤ allowance cfg window price now' := by
  have hbase : price * cfg.failureThreshold ≤ allowance cfg window price now' :=
    threshold_le_allowance htimeout hlater
  have hone := price_le hthreshold price
  cases hstate : breaker.state with
  | closed =>
      simp only [HasRoom, hstate] at h
      obtain ⟨hbelow, hspent⟩ := h
      have hcount : (price : ℤ) * (breaker.consecutiveFailures + 1) ≤
          price * cfg.failureThreshold :=
        mul_le_mul_of_nonneg_left hbelow (Int.natCast_nonneg price)
      have hspent' : (n : ℤ) ≤ price * breaker.consecutiveFailures := by exact_mod_cast hspent
      rw [mul_add, mul_one] at hcount
      omega
  | opened => simp [HasRoom, hstate] at h
  | halfOpen =>
      simp only [HasRoom, hstate] at h
      rcases h with rfl | ⟨_, hspent⟩
      · push_cast
        omega
      · exact hspent.trans (allowance_mono htimeout hle)

include hthreshold htimeout in
/-- **A recorded failure is counted.** -/
theorem HasRoom.recordFailure (h : HasRoom cfg window price n now breaker) (hle : now ≤ now')
    (hcost : m ≤ n + price) (hopens : m = 0 ∨ window.opens ≤ now') :
    Counted cfg window price m now' (breaker.recordFailure cfg now') := by
  rcases breaker.recordFailure_cases cfg now' with ⟨hfull, heq⟩ | ⟨hnotHalf, hbelow, heq⟩
  · rw [heq]
    apply hopens.imp_right
    intro hlater
    have hroom : (n + price : ℤ) ≤ allowance cfg window price now' :=
      h.add_le hthreshold htimeout hle hlater
    have hspent : (m : ℤ) ≤ allowance cfg window price now' := by omega
    exact ⟨hlater, le_rfl, hspent⟩
  · rw [heq]
    cases hstate : breaker.state with
    | closed =>
        simp only [HasRoom, hstate] at h
        simp only [Counted]
        exact ⟨hbelow, by rw [mul_add, mul_one]; omega⟩
    | opened => simp [HasRoom, hstate] at h
    | halfOpen => exact absurd hstate hnotHalf

include hthreshold in
/-- A recorded success is, if nothing was spent. -/
theorem Counted.recordSuccess : Counted cfg window price 0 now breaker.recordSuccess := by
  refine ⟨?_, Nat.zero_le _⟩
  show (0 : ℤ) < cfg.failureThreshold
  omega

end Allowance

/-! ## A call of the client -/

section Client

variable {app : App} {client : BedrockClient} {modelId : String} {window : Window}
variable {counts : ℕ → Bool} {s : GatewayState}

/-- What an event costs. -/
def chargedPrice (modelId : String) (window : Window) (counts : ℕ → Bool) (s : GatewayState)
    (event : Event ClientAnswer) : ℕ :=
  if charged modelId window counts s event then 1 else 0

/-- What becomes of the amount and the state during a call of the client: a result
comes from outside the window, and of exceptions only the client's own is raised. -/
structure ClientEnd (window : Window) (price n : ℕ) (s : GatewayState)
    (outcome : Except Exn ConverseResult) (n' : ℕ) (s' : GatewayState) : Prop where
  cost : n' ≤ n + price
  breakers : s'.breakers = s.breakers
  time : s.now ≤ s'.now
  opens : n' = n ∨ window.opens ≤ s'.now
  after : window.opens + window.length < s.now → n' = n
  outcome : match outcome with
    | .ok _ => n' = n ∧ s.now < window.opens ∨ window.opens + window.length < s'.now
    | .error exn => exn.isInvocation = true

/-- The attempts that count among those left. -/
def countLeft (counts : ℕ → Bool) (retries attempt : ℕ) : ℕ :=
  (List.range' attempt (retries + 1)).countP counts

theorem countLeft_zero (counts : ℕ → Bool) (attempt : ℕ) :
    countLeft counts 0 attempt = if counts attempt then 1 else 0 := by
  rw [countLeft, List.range'_succ, List.countP_cons, List.range'_zero, List.countP_nil,
    Nat.zero_add]

theorem countLeft_succ (counts : ℕ → Bool) (retries attempt : ℕ) :
    countLeft counts (retries + 1) attempt =
      countLeft counts retries (attempt + 1) + if counts attempt then 1 else 0 := by
  rw [countLeft, List.range'_succ, List.countP_cons, countLeft]

/-- What an attempt costs. -/
private theorem chargedPrice_invoke_le {messages : List BedrockChatMessage} {maxTokens : ℤ}
    {temperature : PyFloat} (attempt : ℕ)
    (answer : ClientAnswer (.invoke modelId messages maxTokens temperature attempt)) :
    chargedPrice modelId window counts s ⟨_, answer⟩ ≤ if counts attempt then 1 else 0 := by
  cases hcounts : counts attempt with
  | false => simp [chargedPrice, charged, hcounts]
  | true =>
      unfold chargedPrice
      split <;> simp

/-- Nothing is paid outside the window. -/
private theorem chargedPrice_eq_zero {event : Event ClientAnswer}
    (h : ¬ window.Contains s.now) : chargedPrice modelId window counts s event = 0 := by
  unfold chargedPrice charged
  split <;> simp [h]

/-- An attempt that succeeds is made outside the window. -/
private theorem FailsIn.not_contains {messages : List BedrockChatMessage} {maxTokens : ℤ}
    {temperature : PyFloat} {attempt : ℕ} {response : UpstreamResponse}
    (h : FailsIn modelId window s
      ⟨.invoke modelId messages maxTokens temperature attempt, .ok response⟩) :
    ¬ window.Contains s.now := by
  intro hin
  have hfailed := h (by simp [charged, hin])
  cases hfailed

section Attempt

variable {n p price : ℕ} {now later : ℚ}

/-- A call that ends with a result ended outside the window. -/
private theorem ClientEnd.succeeds {result : ConverseResult} (hle : s.now ≤ now)
    (hlater : now ≤ later) (hout : ¬ window.Contains now) :
    ClientEnd window price n s (.ok result) n { s with now := later } where
  cost := Nat.le_add_right n price
  breakers := rfl
  time := hle.trans hlater
  opens := .inl rfl
  after _ := rfl
  outcome := by
    rcases not_and_or.mp hout with hbefore | hafter
    · exact .inl ⟨rfl, hle.trans_lt (not_le.mp hbefore)⟩
    · exact .inr ((not_le.mp hafter).trans_le hlater)

/-- A call that ends with a failure has paid for its last attempt. -/
private theorem ClientEnd.fails {message code : String} {retryable : Bool} (hle : s.now ≤ now)
    (hprice : p ≤ price) (hout : ¬ window.Contains now → p = 0) :
    ClientEnd window price n s (.error (.bedrockInvocation message code retryable)) (n + p)
      { s with now := now } where
  cost := Nat.add_le_add_left hprice n
  breakers := rfl
  time := hle
  opens := by
    by_cases hin : window.Contains now
    · exact .inr hin.1
    · exact .inl (by rw [hout hin, Nat.add_zero])
  after hafter := by
    rw [hout fun hin => absurd hin.2 (not_le.mpr (hafter.trans_le hle)), Nat.add_zero]
  outcome := rfl

/-- An attempt that fails, then the rest of the call. -/
private theorem ClientEnd.retries {s' : GatewayState} {n' rest : ℕ}
    {outcome : Except Exn ConverseResult} (hle : s.now ≤ now) (hlater : now ≤ later)
    (hprice : p ≤ price) (hout : ¬ window.Contains now → p = 0)
    (h : ClientEnd window rest (n + p) { s with now := later } outcome n' s') :
    ClientEnd window (rest + price) n s outcome n' s' where
  cost := by
    have hcost := h.cost
    omega
  breakers := h.breakers
  time := (hle.trans hlater).trans h.time
  opens := by
    by_cases hin : window.Contains now
    · exact .inr (hin.1.trans (hlater.trans h.time))
    · have hopens := h.opens
      rwa [hout hin, Nat.add_zero] at hopens
  after hafter := by
    have hin : ¬ window.Contains now := fun hin => absurd hin.2 (not_le.mpr (hafter.trans_le hle))
    have hrest := h.after (hafter.trans_le (hle.trans hlater))
    rwa [hout hin, Nat.add_zero] at hrest
  outcome := by
    have houtcome := h.outcome
    cases outcome with
    | error exn => exact houtcome
    | ok result =>
        apply houtcome.imp_left
        rintro ⟨hnone, hbefore⟩
        have hearly : now < window.opens := hlater.trans_lt hbefore
        have hin : ¬ window.Contains now := fun hin => absurd hin.1 (not_le.mpr hearly)
        exact ⟨by rw [hnone, hout hin, Nat.add_zero], hle.trans_lt hearly⟩

end Attempt

/-- **A call of the client**, from its loop. -/
theorem invokeLoop_spends {conversation : Conversation} {retries attempt n : ℕ} :
    (routedCalls app client).Spends (chargedPrice modelId window counts) (FailsIn modelId window)
      (ClientEnd window (countLeft counts retries attempt) n s)
      (client.invokeLoop modelId conversation retries attempt).run n s := by
  induction retries generalizing attempt n s with
  | zero =>
      unfold BedrockClient.invokeLoop
      apply Machine.Spends.call
      rintro s₀ answer s₁ ⟨now, hle, rfl⟩ rfl hfails
      cases answer with
      | ok response =>
          apply Machine.Spends.call
          rintro s₂ latencyMs s₃ ⟨later, hlater, rfl⟩ rfl _
          have hout : ¬ window.Contains now := hfails.not_contains
          rw [chargedPrice_eq_zero hout]
          exact ClientEnd.succeeds hle hlater hout
      | error exc =>
          rw [countLeft_zero]
          apply ClientEnd.fails hle
          · exact chargedPrice_invoke_le attempt _
          · exact fun hout => chargedPrice_eq_zero hout
  | succ retries ih =>
      unfold BedrockClient.invokeLoop
      apply Machine.Spends.call
      rintro s₀ answer s₁ ⟨now, hle, rfl⟩ rfl hfails
      cases answer with
      | ok response =>
          apply Machine.Spends.call
          rintro s₂ latencyMs s₃ ⟨later, hlater, rfl⟩ rfl _
          have hout : ¬ window.Contains now := hfails.not_contains
          rw [chargedPrice_eq_zero hout]
          exact ClientEnd.succeeds hle hlater hout
      | error exc =>
          rw [countLeft_succ]
          by_cases hretryable : exc.retryable = true
          · simp only [hretryable, if_true]
            apply Machine.Spends.call
            rintro s₂ slept s₃ ⟨later, hlater, rfl⟩ rfl _
            apply ih.mono
            intro outcome n' s' hend
            exact ClientEnd.retries hle hlater (chargedPrice_invoke_le attempt _)
              (fun hout => chargedPrice_eq_zero hout) hend
          · simp only [hretryable]
            apply ClientEnd.fails hle
            · exact (chargedPrice_invoke_le attempt _).trans (Nat.le_add_left ..)
            · exact fun hout => chargedPrice_eq_zero hout

end Client

/-! ## A visit of the router -/

/-- Between calls. -/
structure BetweenCalls (cfg : BreakerConfig) (modelId : String) (window : Window) (price n : ℕ)
    (s : GatewayState) : Prop where
  bounded : n ≤ allowance cfg window price (window.opens + window.length)
  opens : n = 0 ∨ window.opens ≤ s.now
  counted : s.now ≤ window.opens + window.length →
    Counted cfg window price n s.now (s.breakers.record modelId)

/-- During a call of the model. -/
structure InCall (cfg : BreakerConfig) (modelId : String) (window : Window) (price n : ℕ)
    (s : GatewayState) : Prop where
  bounded : n ≤ allowance cfg window price (window.opens + window.length)
  opens : n = 0 ∨ window.opens ≤ s.now
  room : s.now ≤ window.opens + window.length →
    HasRoom cfg window price n s.now (s.breakers.record modelId)

section Visit

variable {app : App} {cfg : BreakerConfig} {modelId : String} {window : Window} {price n n' : ℕ}
variable {s s' s₁ : GatewayState}

/-- Time passes, and other models' breakers are used. -/
theorem BetweenCalls.frame (h : BetweenCalls cfg modelId window price n s) (hle : s.now ≤ s'.now)
    (hrecord : s'.breakers.record modelId = s.breakers.record modelId) :
    BetweenCalls cfg modelId window price n s' where
  bounded := h.bounded
  opens := h.opens.imp_right hle.trans'
  counted hinside := by
    rw [hrecord]
    exact (h.counted (hle.trans hinside)).later hle

/-- The breaker refuses. -/
theorem BetweenCalls.refuse (h : BetweenCalls cfg modelId window price n s) (hnow : s'.now = s.now)
    (hrefused : ((s.breakers.record modelId).allow cfg s.now).1 = false)
    (hrecord : s'.breakers.record modelId = ((s.breakers.record modelId).allow cfg s.now).2) :
    BetweenCalls cfg modelId window price n s' := by
  apply h.frame hnow.ge
  rw [hrecord]
  rcases (s.breakers.record modelId).allow_cases cfg s.now with
    ⟨_, _, heq⟩ | ⟨_, _, heq⟩ | ⟨_, heq⟩
  · rw [heq]
  · simp [heq] at hrefused
  · rw [heq]

/-- The breaker lets the call through. -/
theorem BetweenCalls.admit (h : BetweenCalls cfg modelId window price n s)
    (htimeout : 0 < cfg.resetTimeoutS)
    (hnow : s'.now = s.now) (hallowed : ((s.breakers.record modelId).allow cfg s.now).1 = true)
    (hrecord : s'.breakers.record modelId = ((s.breakers.record modelId).allow cfg s.now).2) :
    InCall cfg modelId window price n s' where
  bounded := h.bounded
  opens := hnow ▸ h.opens
  room hinside := by
    rw [hnow] at hinside ⊢
    rw [hrecord]
    exact (h.counted hinside).allow htimeout hallowed

/-- What is spent after the call is allowed in the window. -/
theorem InCall.bounded_end {outcome : Except Exn ConverseResult}
    (h : InCall cfg modelId window price n s) (hend : ClientEnd window price n s outcome n' s')
    (hthreshold : 1 ≤ cfg.failureThreshold) (htimeout : 0 < cfg.resetTimeoutS)
    (hlength : 0 ≤ window.length) :
    n' ≤ allowance cfg window price (window.opens + window.length) := by
  by_cases hinside : s.now ≤ window.opens + window.length
  · have hroom := (h.room hinside).add_le hthreshold htimeout hinside (by linarith)
    have hcost := hend.cost
    omega
  · rw [hend.after (not_le.mp hinside)]
    exact h.bounded

/-- The call fails. -/
theorem InCall.fail {outcome : Except Exn ConverseResult}
    (h : InCall cfg modelId window price n s) (hend : ClientEnd window price n s outcome n' s')
    (hthreshold : 1 ≤ cfg.failureThreshold) (htimeout : 0 < cfg.resetTimeoutS)
    (hlength : 0 ≤ window.length) (hle : s'.now ≤ s₁.now)
    (hrecord : s₁.breakers.record modelId =
      (s'.breakers.record modelId).recordFailure cfg s₁.now) :
    BetweenCalls cfg modelId window price n' s₁ where
  bounded := h.bounded_end hend hthreshold htimeout hlength
  opens := by
    rcases hend.opens with rfl | hopens
    · exact h.opens.imp_right (hend.time.trans hle).trans'
    · exact .inr (hopens.trans hle)
  counted hinside := by
    have hlater := hend.time.trans hle
    rw [hrecord, hend.breakers]
    apply (h.room (hlater.trans hinside)).recordFailure hthreshold htimeout hlater hend.cost
    rcases hend.opens with rfl | hopens
    · exact h.opens.imp_right hlater.trans'
    · exact .inr (hopens.trans hle)

/-- The call succeeds. -/
theorem InCall.succeed {result : ConverseResult} (h : InCall cfg modelId window price n s)
    (hend : ClientEnd window price n s (.ok result) n' s')
    (hthreshold : 1 ≤ cfg.failureThreshold) (htimeout : 0 < cfg.resetTimeoutS)
    (hlength : 0 ≤ window.length) (hle : s'.now ≤ s₁.now)
    (hrecord : s₁.breakers.record modelId = (s'.breakers.record modelId).recordSuccess) :
    BetweenCalls cfg modelId window price n' s₁ where
  bounded := h.bounded_end hend hthreshold htimeout hlength
  opens := by
    rcases hend.opens with rfl | hopens
    · exact h.opens.imp_right (hend.time.trans hle).trans'
    · exact .inr (hopens.trans hle)
  counted hinside := by
    rcases hend.outcome with ⟨rfl, hbefore⟩ | hafter
    · -- Before the window opens, nothing has been spent.
      have hnone : n' = 0 := h.opens.resolve_right (not_le.mpr hbefore)
      rw [hnone, hrecord]
      exact Counted.recordSuccess hthreshold
    · exact absurd hinside (not_le.mpr (hafter.trans_le hle))

end Visit

/-! ## The router's loop -/

section Loop

variable {app : App} {client : BedrockClient} {modelId : String} {window : Window}
variable {counts : ℕ → Bool}

/-- An attempt to invoke another model. -/
private def invokesOther (modelId : String) : ClientQuery → Prop
  | .invoke model _ _ _ _ => model ≠ modelId
  | .latencyMs => True
  | .sleep _ => True
  | _ => False

private theorem invokeLoop_only {model : String} (hmodel : model ≠ modelId)
    {conversation : Conversation} {retries attempt : ℕ} :
    (client.invokeLoop model conversation retries attempt).run.Only (invokesOther modelId) := by
  induction retries generalizing attempt with
  | zero =>
      unfold BedrockClient.invokeLoop
      apply Fallible.Only.bind
      · exact Fallible.Only.ask hmodel
      intro answer
      cases answer with
      | ok response => exact Fallible.Only.bind (Fallible.Only.ask trivial) fun _ => trivial
      | error exc => trivial
  | succ retries ih =>
      unfold BedrockClient.invokeLoop
      apply Fallible.Only.bind
      · exact Fallible.Only.ask hmodel
      intro answer
      cases answer with
      | ok response => exact Fallible.Only.bind (Fallible.Only.ask trivial) fun _ => trivial
      | error exc =>
          by_cases hretryable : exc.retryable = true
          · simp only [hretryable, if_true]
            exact Fallible.Only.bind (Fallible.Only.ask trivial) fun _ => ih
          · simp only [hretryable]
            trivial

/-- A call of another model costs nothing. -/
private theorem converse_other {price n : ℕ} {s : GatewayState} {model : String}
    (hmodel : model ≠ modelId) {conversation : Conversation}
    (h : BetweenCalls app.settings.circuitBreaker modelId window price n s) :
    (routedCalls app client).Spends (chargedPrice modelId window counts) (FailsIn modelId window)
      (fun _ => BetweenCalls app.settings.circuitBreaker modelId window price)
      (client.converse model conversation).run n s := by
  apply Machine.Spends.of_only (invokeLoop_only hmodel) _ _ h
  · rintro n s s₀ hbetween ⟨now, hle, rfl⟩
    exact hbetween.frame hle rfl
  · intro q hq n s answer s' hbetween hsem _
    cases q with
    | invoke other messages maxTokens temperature attempt =>
        obtain rfl : s' = s := hsem
        simpa [chargedPrice, charged, show other ≠ modelId from hq] using hbetween
    | latencyMs =>
        obtain rfl : s' = s := hsem
        exact hbetween
    | sleep sleepS =>
        obtain rfl : s' = s := hsem
        exact hbetween
    | _ => exact hq.elim

/-- A question of the gateway's own is free. -/
private theorem spends_gateway {β : Type} {q : Query} {f : Answer q → Py β} {n : ℕ}
    {s : GatewayState} {post : Except Exn β → ℕ → GatewayState → Prop}
    (hq : client.serves q = Program.query (ClientQuery.gateway q))
    (h : ∀ now answer s₁, s.now ≤ now → Answers app { s with now := now } q answer s₁ →
      (routedCalls app client).Spends (chargedPrice modelId window counts)
        (FailsIn modelId window) post ((f answer).run.expand client.serves) n s₁) :
    (routedCalls app client).Spends (chargedPrice modelId window counts) (FailsIn modelId window)
      post ((ask q >>= f).run.expand client.serves) n s := by
  apply Machine.Spends.expand_call
  rw [hq]
  rintro s₀ answer s₁ ⟨now, hle, rfl⟩ answered _
  exact h now answer s₁ hle answered

/-- **The loop of the router** keeps the count. -/
theorem tryCandidates_spends (hthreshold : 1 ≤ app.settings.circuitBreaker.failureThreshold)
    (htimeout : 0 < app.settings.circuitBreaker.resetTimeoutS) (hlength : 0 ≤ window.length)
    {routeSetName : Option String} {conversation : Conversation} {candidates : List String}
    {index : ℕ} {lastError : Option Exn} {n : ℕ} {s : GatewayState}
    (h : BetweenCalls app.settings.circuitBreaker modelId window
      (countLeft counts client.maxRetries 0) n s) :
    (routedCalls app client).Spends (chargedPrice modelId window counts) (FailsIn modelId window)
      (fun _ => BetweenCalls app.settings.circuitBreaker modelId window
        (countLeft counts client.maxRetries 0))
      ((tryCandidates routeSetName conversation index lastError candidates).run.expand
        client.serves) n s := by
  induction candidates generalizing index lastError n s with
  | nil => exact h
  | cons model rest ih =>
      apply spends_gateway rfl
      intro now allowed s₁ hle hallow
      have hbefore : BetweenCalls app.settings.circuitBreaker modelId window
          (countLeft counts client.maxRetries 0) n { s with now := now } := h.frame hle rfl
      by_cases hmodel : model = modelId
      · subst hmodel
        obtain ⟨hallowed, hrecord⟩ := hallow.breakerAllow
        cases allowed with
        | false => exact ih (hbefore.refuse hallow.now hallowed.symm hrecord)
        | true =>
            have hroom := hbefore.admit htimeout hallow.now hallowed.symm hrecord
            apply Machine.Spends.expand_call
            apply Machine.Spends.mono invokeLoop_spends
            intro outcome n' s' hend
            cases outcome with
            | ok result =>
                apply spends_gateway rfl
                intro later recorded s₃ hlater hsuccess
                exact hroom.succeed hend hthreshold htimeout hlength
                  (hlater.trans_eq hsuccess.now.symm) hsuccess.recordSuccess
            | error exn =>
                cases exn with
                | bedrockInvocation message code retryable =>
                    apply spends_gateway rfl
                    intro later recorded s₃ hlater hfailure
                    have hnow : s₃.now = later := hfailure.now
                    apply ih
                    apply hroom.fail hend hthreshold htimeout hlength (hlater.trans_eq hnow.symm)
                    rw [hnow]
                    exact hfailure.recordFailure
                | _ => exact absurd hend.outcome (by simp [Exn.isInvocation])
      · have hrest : BetweenCalls app.settings.circuitBreaker modelId window
            (countLeft counts client.maxRetries 0) n s₁ :=
          hbefore.frame hallow.now.ge
            (hallow.breaker_frame (by simpa using hmodel) (by simp) (by simp))
        cases allowed with
        | false => exact ih hrest
        | true =>
            apply Machine.Spends.expand_call
            apply Machine.Spends.mono (converse_other hmodel hrest)
            intro outcome n' s' hbetween
            cases outcome with
            | ok result =>
                apply spends_gateway rfl
                intro later recorded s₃ hlater hsuccess
                apply hbetween.frame (hlater.trans_eq hsuccess.now.symm)
                exact hsuccess.breaker_frame (by simp) (by simpa using hmodel) (by simp)
            | error exn =>
                cases exn with
                | bedrockInvocation message code retryable =>
                    apply spends_gateway rfl
                    intro later recorded s₃ hlater hfailure
                    apply ih
                    apply hbetween.frame (hlater.trans_eq hfailure.now.symm)
                    exact hfailure.breaker_frame (by simp) (by simp) (by simpa using hmodel)
                | _ => exact hbetween

end Loop

/-! ## Runs -/

/-- A breaker that has been used in any way at all is between calls. -/
private theorem BetweenCalls.initial {cfg : BreakerConfig}
    (hthreshold : 1 ≤ cfg.failureThreshold) (htimeout : 0 < cfg.resetTimeoutS) {window : Window}
    (hlength : 0 ≤ window.length) {s : GatewayState} {ops : List BreakerOp}
    (hbreakers : s.breakers = Breakers.performAll cfg ops) (modelId : String) (price : ℕ) :
    BetweenCalls cfg modelId window price 0 s where
  bounded := by
    have hle : window.opens ≤ window.opens + window.length := by linarith
    have hallowed : price * cfg.failureThreshold ≤
        allowance cfg window price (window.opens + window.length) :=
      threshold_le_allowance htimeout hle
    have hone := price_le hthreshold price
    push_cast
    omega
  opens := .inl rfl
  counted _ := by
    have hdescribes := describes_performAll hthreshold ops modelId
    rw [← hbreakers] at hdescribes
    unfold Counted
    cases hstate : (s.breakers.record modelId).state with
    | closed =>
        have hbelow := hdescribes.closed.mp hstate
        rw [← hdescribes.failures] at hbelow
        exact ⟨hbelow, Nat.zero_le _⟩
    | opened => exact .inl rfl
    | halfOpen => rfl

/-- The attempts that count in the window, in a run of calls that do not overlap. -/
private theorem spent_le {app : App} {client : BedrockClient} {s : GatewayState}
    {c : Config ClientAnswer GatewayState RouterCall (Except Exn RoutedResult)}
    (h : (routedCalls app client).Reachable s c)
    (hthreshold : 1 ≤ app.settings.circuitBreaker.failureThreshold)
    (htimeout : 0 < app.settings.circuitBreaker.resetTimeoutS) {ops : List BreakerOp}
    (hbreakers : s.breakers = Breakers.performAll app.settings.circuitBreaker ops)
    {modelId : String} {window : Window} (hlength : 0 ≤ window.length)
    (hfails : ∀ entry ∈ c.log, ∀ event, entry.action = .did event →
      FailsIn modelId window entry.before event) (counts : ℕ → Bool) :
    (c.log.countP fun entry =>
        entry.action.event?.any (charged modelId window counts entry.before) : ℕ) ≤
      countLeft counts client.maxRetries 0 * (app.settings.circuitBreaker.failureThreshold +
        ⌊window.length / app.settings.circuitBreaker.resetTimeoutS⌋) := by
  have hend : BetweenCalls app.settings.circuitBreaker modelId window
      (countLeft counts client.maxRetries 0)
      (Machine.spent (chargedPrice modelId window counts) c.log) c.state := by
    apply h.spends (I := BetweenCalls app.settings.circuitBreaker modelId window
      (countLeft counts client.maxRetries 0)) (fun _ => id) _ hfails
    · exact BetweenCalls.initial hthreshold htimeout hlength hbreakers modelId _
    · intro call n s hbetween
      exact tryCandidates_spends hthreshold htimeout hlength hbetween
    · rintro n s s₀ hbetween ⟨now, hle, rfl⟩
      exact hbetween.frame hle rfl
  have hbounded := hend.bounded
  have hcount := Machine.spent_eq_countP (p := charged modelId window counts)
    (fun s event => (rfl : chargedPrice modelId window counts s event = _)) c.log
  rw [hcount] at hbounded
  simpa [allowance, timeouts] using hbounded

/-- Answers of the gateway, with the client in place. -/
def clientRespond (app : App) (oracle : (q : ClientQuery) → ClientAnswer q) (s : GatewayState) :
    (q : ClientQuery) → ClientAnswer q × GatewayState
  | .gateway query => respond app (fun query => oracle (.gateway query)) s query
  | q => (oracle q, s)

/-- Play calls of the router over its client. -/
def routedCallsDriver (app : App) (client : BedrockClient) : Driver (routedCalls app client) where
  yields := fun _ => false
  yields_iff := fun _ => ⟨fun h => (nomatch h), False.elim⟩
  respond := clientRespond app
  respond_sem oracle s q := by
    cases q with
    | gateway query => exact respond_answers app _ s query
    | _ => rfl
  wait := wait
  wait_passes delay s := ⟨s.now + delay, by simp, rfl⟩
  passes_refl := Elapses.refl

/-- An upstream that throttles everything. -/
def throttlingUpstream : (q : ClientQuery) → ClientAnswer q
  | .gateway query => failingWorld query
  | .invoke _ _ _ _ _ => .error ⟨some "ThrottlingException", "slow down"⟩
  | .latencyMs => zeroFloat
  | .sleep _ => ()
  | .invokeStream _ _ _ _ => .error ⟨none, "slow down"⟩
  | .pull _ => ()

end BedrockGateway
