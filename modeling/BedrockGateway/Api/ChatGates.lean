/-
# The gates are sound

Whatever the collaborators do, a chat request that calls a model or is answered 200
has been through every gate: the evidence is in its own history. The policy it went
by is its tenant's own, because the store keeps policies under their tenant ids.
-/

import BedrockGateway.Api.ChatTrace
import BedrockGateway.Policy.Coherence

namespace BedrockGateway

open Foundation Py

/-! ## What a gate that let through has seen -/

/-- The input was allowed, or could not be checked and may pass unchecked. -/
def InputPassed (app : App) (policy : TenantPolicy) (text : String) (history : History) : Prop :=
  (∃ decision, ⟨.checkInput text policy.guardrailPolicy, .ok decision⟩ ∈ history ∧
    decision.action = .allow) ∨
  ∃ message, ⟨.checkInput text policy.guardrailPolicy, .error (.guardrailCheck message)⟩ ∈ history ∧
    bypassesOnError app.text policy.guardrailPolicy policy.allowGuardrailBypassOnError = true

/-- The output was allowed, or could not be checked and may pass unchecked. -/
def OutputPassed (app : App) (policy : TenantPolicy) (text : String) (history : History) : Prop :=
  (∃ decision, ⟨.checkOutput text policy.guardrailPolicy, .ok decision⟩ ∈ history ∧
    decision.action = .allow) ∨
  ∃ message, ⟨.checkOutput text policy.guardrailPolicy, .error (.guardrailCheck message)⟩ ∈
      history ∧
    bypassesOnError app.text policy.guardrailPolicy policy.allowGuardrailBypassOnError = true

variable {app : App} {request : HttpRequest} {history : History}

theorem inputPassed_of_ran {policy : TenantPolicy} {text : String} {decision : GuardrailDecision}
    (h : Ran (checkInputGuardrail app policy text) history decision) :
    InputPassed app policy text history := by
  obtain ⟨trace, hwithin, hexec⟩ := h
  rcases guardrail_ok hexec with ⟨hallow, hcheck⟩ | ⟨message, hcheck, hbypass⟩
  · obtain ⟨answer, tail, rfl, htail⟩ := Program.exec_ask_iff.mp hcheck
    obtain ⟨rfl, rfl⟩ := exec_settle htail
    exact .inl ⟨decision, hwithin.mem (by simp), hallow⟩
  · obtain ⟨answer, tail, rfl, htail⟩ := Program.exec_ask_iff.mp hcheck
    obtain ⟨rfl, rfl⟩ := exec_settle htail
    exact .inr ⟨message, hwithin.mem (by simp), hbypass⟩

theorem outputPassed_of_ran {policy : TenantPolicy} {text : String} {decision : GuardrailDecision}
    (h : Ran (checkOutputGuardrail app policy text) history decision) :
    OutputPassed app policy text history := by
  obtain ⟨trace, hwithin, hexec⟩ := h
  rcases guardrail_ok hexec with ⟨hallow, hcheck⟩ | ⟨message, hcheck, hbypass⟩
  · obtain ⟨answer, tail, rfl, htail⟩ := Program.exec_ask_iff.mp hcheck
    obtain ⟨rfl, rfl⟩ := exec_settle htail
    exact .inl ⟨decision, hwithin.mem (by simp), hallow⟩
  · obtain ⟨answer, tail, rfl, htail⟩ := Program.exec_ask_iff.mp hcheck
    obtain ⟨rfl, rfl⟩ := exec_settle htail
    exact .inr ⟨message, hwithin.mem (by simp), hbypass⟩

/-- The allowlist, where there is one, contains the model. -/
theorem mem_models_of_enforceModelAllowlist {policy : TenantPolicy} {requested : Option String}
    {defaultModel modelId : String}
    (h : enforceModelAllowlist policy requested defaultModel = .ok modelId)
    (hmodels : policy.models ≠ []) : modelId ∈ policy.models := by
  unfold enforceModelAllowlist at h
  split at h
  · split at h
    case isTrue => cases h
    case isFalse hlisted =>
      cases h
      by_contra hmissing
      exact hlisted ⟨hmodels, hmissing⟩
  · split at h
    · rename_i heq
      cases h
      rw [heq]
      exact List.mem_cons_self
    · rename_i heq
      exact absurd heq hmodels

/-! ## Soundness -/

/-- Through every gate, with the facts about the policy and the model spelled out. -/
structure Gated (app : App) (request : HttpRequest) (history : History) (a : Accepted) : Prop
    extends Screens app request history a where
  ownPolicy : a.policy.tenantId = a.identity.tenantId
  notBlocked' : a.policy.state ≠ .suspended ∧ a.policy.state ≠ .emergencyBlock
  listed : a.policy.models ≠ [] → a.modelId ∈ a.policy.models
  inputPassed : InputPassed app a.policy a.combinedInputText history

/-- A model id a non-streaming request may call. -/
def Certified (app : App) (a : Accepted) (modelId : String) : Prop :=
  modelId = a.modelId ∨ modelId ∈ app.routeSets.fallbacksFor a.policy.routeSet

/-- What a response with status 200 rests on. -/
inductive Backed (app : App) (history : History) (a : Accepted) : Response → Prop
  | stream (source : ChunkSource) (hstream : a.chatRequest.stream = true)
      (opened : ⟨.converseStream a.modelId a.conversation.messages a.conversation.maxTokens
        a.conversation.temperature, .ok source⟩ ∈ history) :
      Backed app history a (.stream ⟨a.modelId, a.requestId, a.identity.tenantId⟩ source)
  | cached (cached : CachedResponse) (hstream : a.chatRequest.stream = false)
      (hit : ⟨.cacheGet (buildCacheKey app.sha256 a.cacheKeyFields), some cached⟩ ∈ history) :
      Backed app history a (.json 200 (cachedReply a.toAdmitted cached).modelDump)
  | fresh (routed : RoutedResult) (decision : GuardrailDecision)
      (hstream : a.chatRequest.stream = false) (certified : Certified app a routed.modelId)
      (called : ⟨converseQuery a routed.modelId, .ok routed.result⟩ ∈ history)
      (passed : Ran (checkOutputGuardrail app a.policy routed.result.text) history decision)
      (outputPassed : OutputPassed app a.policy routed.result.text history) :
      Backed app history a (.json 200 (freshReply a.toAdmitted routed).modelDump)

/-- The gates stand before an event: every call of a model and every answer 200. A stream
is pulled, and so called upstream, only after it has been answered past the gates. -/
def GatesBefore (app : App) (request : HttpRequest) (history : History) (event : Event Answer) :
    Prop :=
  match event.query with
  | .converse modelId _ _ _ => ∃ a, Gated app request history a ∧ a.chatRequest.stream = false ∧
      Certified app a modelId
  | .converseStream modelId _ _ _ => ∃ a, Gated app request history a ∧
      a.chatRequest.stream = true ∧ modelId = a.modelId
  | .sendStart response _ => response.statusCode = 200 →
      ∃ a, Gated app request history a ∧ Backed app history a response
  | .startStream => ∃ before ctx source headers answer after a,
      history = before ++ ⟨.sendStart (.stream ctx source) headers, answer⟩ :: after ∧
        Gated app request before a ∧ Backed app before a (.stream ctx source)
  | _ => True

theorem Screens.gated {a : Accepted} (h : Screens app request history a)
    (hown : ∀ tenantId policy, Resolved history tenantId policy → policy.tenantId = tenantId) :
    Gated app request history a where
  toScreens := h
  ownPolicy := hown _ _ h.isResolved
  notBlocked' := by
    have hblocked := h.notBlocked
    constructor <;> intro heq <;> simp [TenantPolicy.blocked, blockingStates, heq] at hblocked
  listed hmodels := mem_models_of_enforceModelAllowlist h.allowedModel hmodels
  inputPassed := by
    obtain ⟨decision, hran⟩ := h.screened
    exact inputPassed_of_ran hran

theorem Answered.backed {response : Response} (h : Answered app request history response)
    (hown : ∀ tenantId policy, Resolved history tenantId policy → policy.tenantId = tenantId) :
    ∃ a, Gated app request history a ∧ Backed app history a response := by
  rcases h with ⟨a, source, hs, hstream, hmem, rfl⟩ | ⟨a, cached, hs, hstream, hmem, rfl⟩ |
    ⟨a, routed, hp, _, rfl⟩
  · exact ⟨a, hs.gated hown, .stream source hstream hmem⟩
  · exact ⟨a, hs.gated hown, .cached cached hstream hmem⟩
  · obtain ⟨decision, hran⟩ := hp.passed
    exact ⟨a, hp.toScreens.gated hown, .fresh routed decision hp.notStream
      (RouteSets.mem_candidates_iff.mp hp.certified) hp.called hran (outputPassed_of_ran hran)⟩

/-- The gates stand before every question of every chat request. -/
def GatesSound (app : App) (c : Process) : Prop :=
  ∀ past entry future event thread request, c.log = past ++ entry :: future →
    entry.action = .did event → c.threads entry.tid = some thread →
    thread.job = .chat request → GatesBefore app request (traceOf entry.tid past) event

/-- **No model is called and no 200 is answered past a gate.** -/
theorem eventLoop_gatesSound {now : ℚ} {policies : PolicyStore} (hkeyed : policies.Keyed)
    {c : Process} (h : (eventLoop app).Reachable (.fresh now policies) c) : GatesSound app c := by
  intro past entry future event thread request hlog haction hthread hjob
  have hpast : past ⊆ c.log := by
    rw [hlog]
    exact List.subset_append_left _ _
  have hown : ∀ tenantId policy, Resolved (traceOf entry.tid past) tenantId policy →
      policy.tenantId = tenantId := by
    rintro tenantId policy (hmem | hmem)
    · exact resolved_tenantId h (Coherent.fresh now policies) hkeyed hpast hmem (.inl rfl)
    · exact resolved_tenantId h (Coherent.fresh now policies) hkeyed hpast hmem (.inr rfl)
  have howes := chat_meets h hlog haction hthread hjob
  obtain ⟨query, answer⟩ := event
  cases query with
  | converse modelId messages maxTokens temperature =>
      obtain ⟨a, hs, hstream, hmodel, _⟩ := howes
      exact ⟨a, hs.gated hown, hstream, RouteSets.mem_candidates_iff.mp hmodel⟩
  | converseStream modelId messages maxTokens temperature =>
      obtain ⟨a, hs, hstream, hmodel, _⟩ := howes
      exact ⟨a, hs.gated hown, hstream, hmodel⟩
  | sendStart response headers => exact fun hstatus => (howes.1 hstatus).backed hown
  | startStream =>
      obtain ⟨⟨before, ctx, source, headers, started, after, hhistory, hanswered⟩, _⟩ := howes
      obtain ⟨a, hgated, hbacked⟩ := hanswered.backed fun tenantId policy hres =>
        hown tenantId policy (hhistory ▸ resolved_append_iff.mpr (.inl hres))
      exact ⟨before, ctx, source, headers, started, after, a, hhistory, hgated, hbacked⟩
  | _ => trivial

/-- A chat request is served, and then one that asks for a stream. -/
def servedRequest : Process :=
  (eventLoopDriver App.oneKey).play (Machine.initial (.fresh 0 oneTenant)) [
    { tid := 0, job := some (.chat operatorRequest), oracle := servingWorld helloBody },
    { tid := 0, oracle := servingWorld helloBody },
    { tid := 0, oracle := servingWorld helloBody },
    { tid := 0, oracle := servingWorld helloBody },
    { tid := 1, job := some (.chat operatorRequest), oracle := streamingWorld },
    { tid := 1, oracle := streamingWorld },
    { tid := 1, oracle := streamingWorld }]

/-- The gates are sound in a run that answers 200 twice. -/
theorem eventLoop_gatesSound_servedRequest :
    servedRequest.log.filterMap statusOf = [200, 200] ∧ GatesSound App.oneKey servedRequest :=
  ⟨by decide +kernel, eventLoop_gatesSound oneTenant_keyed (Driver.play_reachable ..)⟩

end BedrockGateway
