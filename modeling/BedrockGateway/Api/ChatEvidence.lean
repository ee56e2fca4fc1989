/-
# What a chat request has established

Before a request reads the cache, calls a model or answers, it has passed through
the earlier stages, and the history of its own questions shows it. Each stage of
the handler has a structure below that says what the history shows once the stage
has been passed; the obligations of the consequential questions, and of the
response, are stated with them.
-/

import BedrockGateway.Api.Serving

namespace BedrockGateway

open Foundation Py

/-- A stage ran within the history and returned this value. -/
def Ran {α : Type} (stage : Py α) (history : History) (value : α) : Prop :=
  ∃ trace, trace <:+: history ∧ Program.Exec stage.run trace (.ok value)

/-- A policy of this tenant was looked up or fetched. -/
def Resolved (history : History) (tenantId : String) (policy : TenantPolicy) : Prop :=
  ⟨.snapshotLookup tenantId, some policy⟩ ∈ history ∨
    ⟨.storeGet tenantId, .ok policy⟩ ∈ history

/-- No policy has been looked up or fetched. -/
def Unresolved (history : History) : Prop := ∀ tenantId policy, ¬ Resolved history tenantId policy

/-- Every missed lookup has been followed by a fetch. -/
def Followed (history : History) : Prop :=
  ∀ tenantId, ⟨.snapshotLookup tenantId, none⟩ ∈ history →
    ∃ fetched, ⟨.storeGet tenantId, fetched⟩ ∈ history

/-- Every policy looked up or fetched lets requests through, and none is outstanding. -/
structure Unblocked (history : History) : Prop where
  passing : ∀ tenantId policy, Resolved history tenantId policy → policy.blocked = false
  followed : Followed history

/-- At most the caller has been identified. -/
def Early (history : History) : Prop := ∀ event ∈ history, event.query.among [.caller, .telemetry]

/-- Nothing in the trace is about policies. -/
def Calm (trace : History) : Prop := ∀ event ∈ trace, event.query.kind ≠ .policy

/-- Nothing in the trace is about policies or gives up control. -/
def Quiet (trace : History) : Prop :=
  ∀ event ∈ trace, event.query.kind ∉ [QueryKind.policy, .client, .reply]

/-! ## The evidence -/

/-- Past the kill switch. -/
structure Admits (app : App) (request : HttpRequest) (history : History) (a : Admitted) : Prop where
  authenticated : Ran (authenticate app request) history a.identity
  authorized : a.identity.hasRole app.settings.chatRequiredRole = true
  resolved : Ran (resolvePolicy app a.identity) history a.policy
  only : ∀ tenantId policy, Resolved history tenantId policy →
    tenantId = a.identity.tenantId ∧ policy = a.policy
  followed : Followed history
  notBlocked : a.policy.blocked = false

/-- Past the rate limiter. -/
structure Passes (app : App) (request : HttpRequest) (history : History) (a : Admitted) : Prop
    extends Admits app request history a where
  withinRate : ∃ now,
    ⟨.bucketTake a.policy.tenantId (effectiveLimit a.policy) now, true⟩ ∈ history

/-- Past the body. -/
structure Receives (app : App) (request : HttpRequest) (history : History) (a : Accepted) : Prop
    extends Passes app request history a.toAdmitted where
  received : ∃ body before since, history = before ++ ⟨.requestJson, .ok body⟩ :: since ∧
    Quiet since ∧ modelValidate app.validation body = .ok a.chatRequest
  allowedModel : enforceModelAllowlist a.policy a.chatRequest.model app.settings.bedrockModelId =
    .ok a.modelId

/-- Past the input guardrail. -/
structure Screens (app : App) (request : HttpRequest) (history : History) (a : Accepted) : Prop
    extends Receives app request history a where
  screened : ∃ decision, Ran (checkInputGuardrail app a.policy a.combinedInputText) history decision

/-- The call of a model. -/
def converseQuery (a : Accepted) (modelId : String) : Query :=
  .converse modelId a.conversation.messages a.conversation.maxTokens a.conversation.temperature

/-- A candidate has answered. -/
structure Routes (app : App) (request : HttpRequest) (history : History) (a : Accepted)
    (routed : RoutedResult) : Prop extends Screens app request history a where
  notStream : a.chatRequest.stream = false
  certified : routed.modelId ∈ app.routeSets.candidates a.modelId a.policy.routeSet
  called : ⟨converseQuery a routed.modelId, .ok routed.result⟩ ∈ history

/-- Past the output guardrail. -/
structure Produces (app : App) (request : HttpRequest) (history : History) (a : Accepted)
    (routed : RoutedResult) : Prop extends Routes app request history a routed where
  passed : ∃ decision,
    Ran (checkOutputGuardrail app a.policy routed.result.text) history decision

/-- What a successful answer rests on: an opened stream, a cache hit, or a fresh
result that has been written to the cache. -/
def Answered (app : App) (request : HttpRequest) (history : History) (response : Response) : Prop :=
  (∃ a source, Screens app request history a ∧ a.chatRequest.stream = true ∧
    ⟨.converseStream a.modelId a.conversation.messages a.conversation.maxTokens
      a.conversation.temperature, .ok source⟩ ∈ history ∧
    response = .stream ⟨a.modelId, a.requestId, a.identity.tenantId⟩ source) ∨
  (∃ a cached, Screens app request history a ∧ a.chatRequest.stream = false ∧
    ⟨.cacheGet (buildCacheKey app.sha256 a.cacheKeyFields), some cached⟩ ∈ history ∧
    response = .json 200 (cachedReply a.toAdmitted cached).modelDump) ∨
  ∃ a routed, Produces app request history a routed ∧
    ⟨.cacheSet (buildCacheKey app.sha256 a.cacheKeyFields) (cachedResponse routed), .ok ()⟩ ∈
      history ∧
    response = .json 200 (freshReply a.toAdmitted routed).modelDump

/-- The start of a stream has been sent, and what a successful answer rests on was there. -/
def Streaming (app : App) (request : HttpRequest) (history : History) : Prop :=
  ∃ before ctx source headers answer after,
    history = before ++ ⟨.sendStart (.stream ctx source) headers, answer⟩ :: after ∧
      Answered app request before (.stream ctx source)

/-- What a chat request owes at each of its questions. -/
def Owes (app : App) (request : HttpRequest) (history : History) (event : Event Answer) : Prop :=
  match event.query with
  | .snapshotLookup _ => Early history
  | .storeGet tenantId => ∃ before, history = before ++ [⟨.snapshotLookup tenantId, none⟩]
  | .bucketTake tenantId rpmLimit _ => ∃ a, Admits app request history a ∧
      tenantId = a.policy.tenantId ∧ rpmLimit = effectiveLimit a.policy
  | .cacheGet key => ∃ a, Screens app request history a ∧ a.chatRequest.stream = false ∧
      key = buildCacheKey app.sha256 a.cacheKeyFields
  | .converse modelId messages maxTokens temperature =>
      ∃ a, Screens app request history a ∧ a.chatRequest.stream = false ∧
        modelId ∈ app.routeSets.candidates a.modelId a.policy.routeSet ∧
        ⟨messages, maxTokens, temperature⟩ = a.conversation
  | .converseStream modelId messages maxTokens temperature =>
      ∃ a, Screens app request history a ∧ a.chatRequest.stream = true ∧
        modelId = a.modelId ∧ ⟨messages, maxTokens, temperature⟩ = a.conversation
  | .cacheSet key value => ∃ a routed, Produces app request history a routed ∧
      key = buildCacheKey app.sha256 a.cacheKeyFields ∧ value = cachedResponse routed
  | .sendStart response _ => (response.statusCode = 200 → Answered app request history response) ∧
      (Unblocked history ∨ response.statusCode = 403)
  | .startStream => Streaming app request history ∧ Unblocked history
  | .storeSetState _ _ => False
  | .snapshotInvalidate _ => False
  | _ => True

/-! ## Evidence lasts -/

theorem Ran.append {α : Type} {stage : Py α} {history : History} {value : α}
    (h : Ran stage history value) (more : History) : Ran stage (history ++ more) value := by
  obtain ⟨trace, hwithin, hexec⟩ := h
  exact ⟨trace, hwithin.trans (List.prefix_append history more).isInfix, hexec⟩

theorem Ran.of_exec {α : Type} {stage : Py α} {trace : History} {value : α}
    (h : Program.Exec stage.run trace (.ok value)) (history : History) :
    Ran stage (history ++ trace) value :=
  ⟨trace, (List.suffix_append history trace).isInfix, h⟩

theorem resolved_append_iff {history more : History} {tenantId : String} {policy : TenantPolicy} :
    Resolved (history ++ more) tenantId policy ↔
      Resolved history tenantId policy ∨ Resolved more tenantId policy := by
  simp only [Resolved, List.mem_append]
  tauto

theorem Calm.unresolved {trace : History} (h : Calm trace) : Unresolved trace := by
  rintro tenantId policy (hmem | hmem)
  · exact h _ hmem rfl
  · exact h _ hmem rfl

theorem Calm.resolved_append_iff {history trace : History} (h : Calm trace) {tenantId : String}
    {policy : TenantPolicy} :
    Resolved (history ++ trace) tenantId policy ↔ Resolved history tenantId policy := by
  rw [BedrockGateway.resolved_append_iff, or_iff_left (h.unresolved tenantId policy)]

theorem Calm.of_among {kinds : List QueryKind} {trace : History}
    (h : ∀ event ∈ trace, event.query.among kinds) (hkinds : .policy ∉ kinds) : Calm trace :=
  fun event hmem heq => hkinds (heq ▸ h event hmem)

theorem Calm.single {q : Query} {a : Answer q} (hq : q.kind ≠ .policy) : Calm [⟨q, a⟩] := by
  simpa [Calm] using hq

theorem Quiet.of_among {kinds : List QueryKind} {trace : History}
    (h : ∀ event ∈ trace, event.query.among kinds)
    (hkinds : ∀ kind ∈ kinds, kind ∉ [QueryKind.policy, .client, .reply]) : Quiet trace :=
  fun event hmem => hkinds _ (h event hmem)

theorem Quiet.single {q : Query} {a : Answer q}
    (hq : q.kind ∉ [QueryKind.policy, .client, .reply]) : Quiet [⟨q, a⟩] := by
  simpa [Quiet] using hq

theorem Quiet.calm {trace : History} (h : Quiet trace) : Calm trace :=
  fun event hmem heq => h event hmem (by simp [heq])

theorem Quiet.append {first second : History} (h : Quiet first) (h' : Quiet second) :
    Quiet (first ++ second) := by
  intro event hmem
  rcases List.mem_append.mp hmem with hfirst | hsecond
  · exact h event hfirst
  · exact h' event hsecond

/-- A quiet trace never gives up control. -/
theorem Quiet.awaits {trace : History} (h : Quiet trace) {event : Event Answer}
    (hmem : event ∈ trace) : event.query.awaits = false := by
  have hkind := h event hmem
  generalize event.query = q at hkind
  cases q <;> simp_all [Query.kind, Query.awaits]

theorem Early.append {history trace : History} (h : Early history) (htrace : Early trace) :
    Early (history ++ trace) := by
  intro event hmem
  rcases List.mem_append.mp hmem with hold | hnew
  · exact h event hold
  · exact htrace event hnew

theorem Early.of_among {kinds : List QueryKind} {trace : History}
    (h : ∀ event ∈ trace, event.query.among kinds) (hkinds : kinds ⊆ [.caller, .telemetry]) :
    Early trace :=
  fun event hmem => hkinds (h event hmem)

theorem Early.unresolved {history : History} (h : Early history) : Unresolved history :=
  (Calm.of_among h (by decide)).unresolved

theorem Followed.append {history trace : History} (h : Followed history) (htrace : Calm trace) :
    Followed (history ++ trace) := by
  intro tenantId hmem
  rcases List.mem_append.mp hmem with hold | hnew
  · obtain ⟨fetched, hfetched⟩ := h tenantId hold
    exact ⟨fetched, List.mem_append_left _ hfetched⟩
  · exact absurd rfl (htrace _ hnew)

theorem Early.unblocked {history : History} (h : Early history) : Unblocked history where
  passing tenantId policy hres := absurd hres (h.unresolved tenantId policy)
  followed tenantId hmem := absurd (h _ hmem) (by simp [Query.among, Query.kind])

theorem Unblocked.append {history trace : History} (h : Unblocked history) (htrace : Calm trace) :
    Unblocked (history ++ trace) where
  passing tenantId policy hres := h.passing tenantId policy (htrace.resolved_append_iff.mp hres)
  followed := h.followed.append htrace

section Append

variable {app : App} {request : HttpRequest} {history trace : History}

theorem Admits.append {a : Admitted} (h : Admits app request history a) (htrace : Calm trace) :
    Admits app request (history ++ trace) a where
  authenticated := h.authenticated.append trace
  authorized := h.authorized
  resolved := h.resolved.append trace
  only tenantId policy hres := h.only tenantId policy (htrace.resolved_append_iff.mp hres)
  followed := h.followed.append htrace
  notBlocked := h.notBlocked

theorem Admits.unblocked {a : Admitted} (h : Admits app request history a) :
    Unblocked history where
  passing tenantId policy hres := by
    rw [(h.only tenantId policy hres).2]
    exact h.notBlocked
  followed := h.followed

/-- The policy of an admitted request was handed to it. -/
theorem Admits.isResolved {a : Admitted} (h : Admits app request history a) :
    Resolved history a.identity.tenantId a.policy := by
  obtain ⟨trace, hwithin, hexec⟩ := h.resolved
  rcases resolvePolicy_ok hexec with rfl | rfl
  · exact .inl (hwithin.mem (by simp))
  · exact .inr (hwithin.mem (by simp))

theorem Passes.append {a : Admitted} (h : Passes app request history a) (htrace : Calm trace) :
    Passes app request (history ++ trace) a where
  toAdmits := h.toAdmits.append htrace
  withinRate := by
    obtain ⟨now, hmem⟩ := h.withinRate
    exact ⟨now, List.mem_append_left _ hmem⟩

theorem Receives.append {a : Accepted} (h : Receives app request history a)
    (htrace : Quiet trace) : Receives app request (history ++ trace) a where
  toPasses := h.toPasses.append htrace.calm
  received := by
    obtain ⟨body, before, since, hhistory, hquiet, hvalid⟩ := h.received
    exact ⟨body, before, since ++ trace, by simp [hhistory], hquiet.append htrace, hvalid⟩
  allowedModel := h.allowedModel

theorem Screens.append {a : Accepted} (h : Screens app request history a) (htrace : Quiet trace) :
    Screens app request (history ++ trace) a where
  toReceives := h.toReceives.append htrace
  screened := by
    obtain ⟨decision, hran⟩ := h.screened
    exact ⟨decision, hran.append trace⟩

theorem Routes.append {a : Accepted} {routed : RoutedResult}
    (h : Routes app request history a routed) (htrace : Quiet trace) :
    Routes app request (history ++ trace) a routed where
  toScreens := h.toScreens.append htrace
  notStream := h.notStream
  certified := h.certified
  called := List.mem_append_left _ h.called

theorem Produces.append {a : Accepted} {routed : RoutedResult}
    (h : Produces app request history a routed) (htrace : Quiet trace) :
    Produces app request (history ++ trace) a routed where
  toRoutes := h.toRoutes.append htrace
  passed := by
    obtain ⟨decision, hran⟩ := h.passed
    exact ⟨decision, hran.append trace⟩

theorem Answered.append {response : Response} (h : Answered app request history response)
    (htrace : Quiet trace) : Answered app request (history ++ trace) response := by
  rcases h with ⟨a, source, hs, hstream, hmem, heq⟩ | ⟨a, cached, hs, hstream, hmem, heq⟩ |
    ⟨a, routed, hp, hmem, heq⟩
  · exact .inl ⟨a, source, hs.append htrace, hstream, List.mem_append_left _ hmem, heq⟩
  · exact .inr (.inl ⟨a, cached, hs.append htrace, hstream, List.mem_append_left _ hmem, heq⟩)
  · exact .inr (.inr ⟨a, routed, hp.append htrace, List.mem_append_left _ hmem, heq⟩)

end Append

end BedrockGateway
