/-
# Cached outputs have been checked

The pipeline hands back one and the same decision for a text that was checked and
allowed and for a text that could not be checked and may pass. What it hands back
is what the cache is written on. So the cache holds checked outputs only, in every
run in which no output check fails for a tenant that is let through then.
-/

import BedrockGateway.Api.AdminTrace
import BedrockGateway.Api.ChatGates
import BedrockGateway.Cache.Origin

namespace BedrockGateway

open Foundation

/-- In this history the text was checked on its way out, and the check said yes. -/
def OutputChecked (text : String) (history : History) : Prop :=
  ∃ guardrailPolicy decision, ⟨.checkOutput text guardrailPolicy, .ok decision⟩ ∈ history ∧
    decision.action = .allow

/-- Every entry of the cache was written by a request that had its text checked. -/
def OnlyCheckedCached (c : Process) : Prop :=
  ∀ key cachedAt value, c.state.responses.get? key = some (cachedAt, value) →
    ∃ past put future, c.log = past ++ put :: future ∧ Writes key cachedAt value put ∧
      OutputChecked value.text (traceOf put.tid past)

/-- Whenever an output check fails, the policy the request runs under does not let
the text through. -/
def NeverBypassed (app : App) (log : ProcessLog) : Prop :=
  ∀ entry ∈ log, ∀ text guardrailPolicy message,
    entry.action = .did ⟨.checkOutput text guardrailPolicy, .error (.guardrailCheck message)⟩ →
    ∀ tenantId policy, Resolved (traceOf entry.tid log) tenantId policy →
      bypassesOnError app.text policy.guardrailPolicy policy.allowGuardrailBypassOnError = false

variable {app : App} {c : Process} {s : GatewayState}

/-- A thread that writes the cache serves a chat request. -/
theorem chat_of_cacheSet (h : (eventLoop app).Reachable s c) {past future : ProcessLog}
    {put : Entry Answer GatewayState Job (Except Exn Unit)} {key : String}
    {value : CachedResponse} {result : Except Exn Unit} (hlog : c.log = past ++ put :: future)
    (haction : put.action = .did ⟨.cacheSet key value, result⟩) :
    ∃ thread request, c.threads put.tid = some thread ∧ thread.job = .chat request := by
  obtain ⟨thread, hthread⟩ := h.thread_of_mem (show put ∈ c.log by simp [hlog])
  cases hjob : thread.job with
  | chat request => exact ⟨thread, request, hthread, hjob⟩
  | setTenantState request target =>
      have howes := admin_meets h hlog haction hthread hjob
      simp [AdminOwes, Query.among, Query.kind] at howes

/-- What is written to the cache was produced by the request that writes it. -/
theorem produces_of_cacheSet (h : (eventLoop app).Reachable s c) {past future : ProcessLog}
    {put : Entry Answer GatewayState Job (Except Exn Unit)} {key : String}
    {value : CachedResponse} {result : Except Exn Unit} (hlog : c.log = past ++ put :: future)
    (haction : put.action = .did ⟨.cacheSet key value, result⟩) :
    ∃ thread request a routed, c.threads put.tid = some thread ∧ thread.job = .chat request ∧
      Produces app request (traceOf put.tid past) a routed ∧
      key = buildCacheKey app.sha256 a.cacheKeyFields ∧ value = cachedResponse routed := by
  obtain ⟨thread, request, hthread, hjob⟩ := chat_of_cacheSet h hlog haction
  obtain ⟨a, routed, hproduces, hkey, hvalue⟩ := chat_meets h hlog haction hthread hjob
  exact ⟨thread, request, a, routed, hthread, hjob, hproduces, hkey, hvalue⟩

/-- **One write.** What is written was checked, unless a failed check was bypassed. -/
theorem outputChecked_of_cacheSet (h : (eventLoop app).Reachable s c)
    (hnever : NeverBypassed app c.log) {past future : ProcessLog}
    {put : Entry Answer GatewayState Job (Except Exn Unit)} {key : String}
    {value : CachedResponse} {result : Except Exn Unit} (hlog : c.log = past ++ put :: future)
    (haction : put.action = .did ⟨.cacheSet key value, result⟩) :
    OutputChecked value.text (traceOf put.tid past) := by
  obtain ⟨_, _, a, routed, _, _, hproduces, _, rfl⟩ := produces_of_cacheSet h hlog haction
  obtain ⟨decision, hran⟩ := hproduces.passed
  rcases outputPassed_of_ran hran with ⟨found, hmem, hallow⟩ | ⟨message, hmem, hbypass⟩
  · exact ⟨a.policy.guardrailPolicy, found, hmem, hallow⟩
  · obtain ⟨failed, hfailed, htid, hraised⟩ := mem_traceOf_iff.mp hmem
    have hsub : past ⊆ c.log := by
      rw [hlog]
      exact List.subset_append_left _ _
    have hresolved : Resolved (traceOf failed.tid c.log) a.identity.tenantId a.policy := by
      rw [htid, hlog, traceOf_append]
      exact resolved_append_iff.mpr (.inl hproduces.isResolved)
    have hblocked := hnever failed (hsub hfailed) _ _ _ hraised _ _ hresolved
    simp [hblocked] at hbypass

/-- **Every run.** -/
theorem onlyCheckedCached {now : ℚ} {policies : PolicyStore}
    (h : (eventLoop app).Reachable (.fresh now policies) c) (hnever : NeverBypassed app c.log) :
    OnlyCheckedCached c := by
  intro key cachedAt value hget
  obtain ⟨put, hmem, ⟨result, haction⟩, hwhen⟩ :=
    ((eventLoop_overGateway app).cacheWritten h.replay rfl).1 key cachedAt value hget
  obtain ⟨past, future, hlog⟩ := List.append_of_mem hmem
  exact ⟨past, put, future, hlog, ⟨⟨result, haction⟩, hwhen⟩,
    outputChecked_of_cacheSet h hnever hlog haction⟩

/-! ## A run that bypasses a check -/

/-- The entry is a completed output check that says yes. -/
def allowsOutput (entry : Entry Answer GatewayState Job (Except Exn Unit)) : Bool :=
  match entry.action with
  | .did ⟨.checkOutput _ _, .ok decision⟩ => decision.action = .allow
  | _ => false

/-- The entry is an output check that failed. -/
def failsOutput (entry : Entry Answer GatewayState Job (Except Exn Unit)) : Bool :=
  match entry.action with
  | .did ⟨.checkOutput _ _, .error _⟩ => true
  | _ => false

/-- A store with one tenant of the low-risk class that opted in. -/
def lowRiskTenant : PolicyStore :=
  Dict.set Dict.empty "t"
    { tenantId := "t", guardrailPolicy := "low-risk-v1", allowGuardrailBypassOnError := true }

/-- An outside world in which the output guardrail is down. -/
def guardrailDown : (q : Query) → Answer q
  | .checkOutput _ _ => .error (.guardrailCheck "timeout")
  | q => servingWorld helloBody q

/-- A request whose output cannot be checked. -/
def uncheckedRequest : Process :=
  (eventLoopDriver App.oneKey).play (Machine.initial (.fresh 0 lowRiskTenant)) [
    { tid := 0, job := some (.chat operatorRequest), oracle := guardrailDown },
    { tid := 0, oracle := guardrailDown }]

/-- The output is in the cache. -/
theorem uncheckedRequest_cached :
    (uncheckedRequest.state.responses.get? "k").isSome = true ∧
      ∀ entry ∈ uncheckedRequest.log, allowsOutput entry = false := by
  decide +kernel

/-- An output that no check has seen is cached. -/
theorem unchecked_output_is_cached :
    ∃ c, (eventLoop App.oneKey).Reachable (.fresh 0 lowRiskTenant) c ∧ ¬ OnlyCheckedCached c := by
  refine ⟨uncheckedRequest, Driver.play_reachable .., fun hchecked => ?_⟩
  obtain ⟨hcached, hnone⟩ := uncheckedRequest_cached
  obtain ⟨⟨cachedAt, value⟩, hget⟩ := Option.isSome_iff_exists.mp hcached
  obtain ⟨past, put, future, hlog, _, guardrailPolicy, decision, hmem, hallow⟩ :=
    hchecked "k" cachedAt value hget
  obtain ⟨entry, hentry, _, haction⟩ := mem_traceOf_iff.mp hmem
  have hno := hnone entry (by simp [hlog, hentry])
  simp [allowsOutput, haction, hallow] at hno

/-- In a run with a working guardrail the cached output has been checked. -/
theorem onlyCheckedCached_servedRequest :
    (servedRequest.state.responses.get? "k").isSome = true ∧ OnlyCheckedCached servedRequest := by
  have hchecks : (servedRequest.state.responses.get? "k").isSome = true ∧
      ∀ entry ∈ servedRequest.log, failsOutput entry = false := by decide +kernel
  apply And.intro hchecks.1
  apply onlyCheckedCached (Driver.play_reachable _ (GatewayState.fresh 0 oneTenant) _)
  intro entry hmem text guardrailPolicy message haction
  have hno := hchecks.2 entry hmem
  simp [failsOutput, haction] at hno

end BedrockGateway
