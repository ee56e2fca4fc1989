/-
# What an admitted request asks

An admitted request may ask the guardrail, the models, the breakers and its client
anything. What it leaves anywhere else is its own: it looks up and writes the cache
under keys built from its own fields, its conversation is captured under its id and
only if its tenant has opted in, and its id is on its records and in its response.

The handlers are walked once, with these as the questions they may ask. Narrower
conditions on a question follow from it, whatever they are about.
-/

import BedrockGateway.Api.Footprints

namespace BedrockGateway

open Foundation Py
open Fallible (Only.ask Only.attempt Only.pure)

/-! ## Walks over a handler -/

/-- Every question of a handler meets one condition, and every response it returns
another. -/
structure Handles (C : Query → Prop) (post : Response → Prop) (p : Py Response) : Prop where
  along : ∀ history, Program.Along (fun _ event => C event.query)
    (fun _ outcome => ∀ response, outcome = .ok response → post response) p.run history

section Handles

variable {C D : Query → Prop} {post after : Response → Prop} {p : Py Response}

theorem Handles.mono (h : Handles C post p) (hC : ∀ q, C q → D q)
    (hpost : ∀ response, post response → after response) : Handles D after p where
  along history := ((h.along history).weaken fun _ _ hevent => hC _ hevent).mono
    fun _ _ hend response heq => hpost response (hend response heq)

theorem Handles.only (h : Handles C post p) : Program.Only C p.run :=
  (h.along []).only failingWorld

theorem handles_pure {response : Response} (h : post response) :
    Handles C post (pure response) := by
  constructor
  rintro history response' heq
  cases heq
  exact h

theorem handles_throw (exn : Exn) : Handles C post (throw exn) := by
  constructor
  rintro history response heq
  cases heq

theorem handles_bind {α : Type} {x : Py α} {f : α → Py Response} (hx : Program.Only C x.run)
    (hf : ∀ value, Handles C post (f value)) : Handles C post (x >>= f) where
  along history := Fallible.Along.bind_of_only hx (fun _ hq _ _ => hq)
    (fun _ value _ _ => (hf value).along _) fun _ exn _ _ => by simp

theorem handles_call {q : Query} {f : Answer q → Py Response} (hq : C q)
    (hf : ∀ answer, Handles C post (f answer)) : Handles C post (ask q >>= f) :=
  handles_bind (Only.ask hq) hf

theorem handles_exceptPipeline {α : Type} {body : Py α}
    {rejected : ErrorStatus → String → String → Py Response} {next : α → Py Response}
    (hbody : Program.Only C body.run)
    (hrejected : ∀ status code message, Handles C post (rejected status code message))
    (hnext : ∀ value, Handles C post (next value)) :
    Handles C post (exceptPipeline body rejected next) := by
  refine handles_bind (Only.attempt hbody) fun outcome => ?_
  cases outcome with
  | ok value => exact hnext value
  | error exn =>
      cases exn with
      | pipeline status code message => exact hrejected status code message
      | _ => exact handles_throw _

end Handles

/-! ## What belongs to a request -/

/-- The fields of `chat request completed`. -/
def completedNames : List String :=
  ["model", "tenant_id", "policy_epoch", "route_set", "guardrail_version", "guardrail_action",
    "guardrail_latency_ms", "blocked_reason", "input_tokens", "output_tokens", "ttft_ms",
    "latency_ms", "retry_count", "fallback", "cache_hit", "status", "estimated_cost", "slo_breach"]

/-- The fields of `chat request failed` after a rejection by a guardrail. -/
def rejectedNames : List String :=
  ["model", "status", "tenant_id", "policy_epoch", "guardrail_version", "guardrail_action",
    "guardrail_latency_ms", "blocked_reason"]

/-- The names of the fields of the gateway's records, one list for each kind of record. -/
def loggedNames : List (List String) :=
  [completedNames, rejectedNames,
    ["model", "status", "tenant_id", "policy_epoch", "latency_ms"],
    ["tenant_id", "actor", "new_state", "policy_epoch"],
    ["model", "tenant_id"],
    ["model", "tenant_id", "client_disconnected", "generated_chunks", "stream_duration_ms",
      "status"],
    ["method", "path", "status", "duration_ms"],
    ["path"]]

/-- A handler's record: under the id of the request and with fields of one kind. -/
structure LogRecord.Filed (requestId : String) (record : LogRecord) : Prop where
  logger : record.logger = "gateway.chat" ∨ record.logger = "gateway.admin"
  requestId_eq : record.requestId = some requestId
  names : record.fields.map Prod.fst ∈ loggedNames

/-- The questions of a request that leave nothing of it behind. -/
abbrev serviceQuestions : List QueryKind := [.guardrail, .model, .breaker, .client]

/-- What a request may ask once it has been admitted. -/
inductive Query.Own (app : App) (a : Admitted) : Query → Prop
  | service {q : Query} (h : q.among serviceQuestions) : Own app a q
  | perfCounter : Own app a .perfCounter
  | span (attributes : Fields) : Own app a (.setSpanAttributes attributes)
  | cacheGet (b : Accepted) (h : b.toAdmitted = a) :
      Own app a (.cacheGet (buildCacheKey app.sha256 b.cacheKeyFields))
  | cacheSet (b : Accepted) (h : b.toAdmitted = a) (value : CachedResponse) :
      Own app a (.cacheSet (buildCacheKey app.sha256 b.cacheKeyFields) value)
  | capture (henabled : a.policy.debugCaptureEnabled = true) (inputText outputText : String) :
      Own app a (.debugCapture a.requestId a.identity.tenantId inputText outputText)
  | log {record : LogRecord} (h : record.Filed a.requestId) : Own app a (.log record)

/-- The answer to a change of state. -/
def changedResponse (tenantId : String) (updated : TenantPolicy) : Response :=
  .json 200 (.obj [("tenant_id", .str tenantId), ("state", .str updated.state.value),
    ("policy_epoch", .int updated.policyEpoch)])

/-- The response names the request: in the body of an error, in the body of a chat
response, or in the context of a stream. The answer to a state change does not. -/
inductive Response.Names (requestId : String) : Response → Prop
  | error (statusCode : ℕ) (code message : String) :
      Names requestId (.json statusCode (errorBody code message requestId))
  | reply (reply : ChatResponse) (h : reply.requestId = requestId) :
      Names requestId (.json 200 reply.modelDump)
  | stream (ctx : StreamContext) (source : ChunkSource) (h : ctx.requestId = requestId) :
      Names requestId (.stream ctx source)
  | changed (tenantId : String) (updated : TenantPolicy) :
      Names requestId (changedResponse tenantId updated)

/-! ## The chat handler from the body on -/

/-- The handler of an admitted request asks what is its own. -/
abbrev Owned (app : App) (a : Admitted) (p : Py Response) : Prop :=
  Handles (Query.Own app a) (Response.Names a.requestId) p

section Chat

variable {app : App}

theorem Asks.own {kinds : List QueryKind} {a : Admitted} {α : Type} {p : Py α} (h : Asks kinds p)
    (hsub : kinds ⊆ serviceQuestions) : Program.Only (Query.Own app a) p.run :=
  Program.Only.mono h fun _ hq => .service (hsub hq)

theorem own_call {a : Admitted} {q : Query} {f : Answer q → Py Response}
    (hq : q.kind ∈ serviceQuestions) (hf : ∀ answer, Owned app a (f answer)) :
    Owned app a (ask q >>= f) :=
  handles_call (.service hq) hf

/-- A rejection that is only noted on the span. -/
theorem owned_spanError {a : Admitted} (attributes : Fields) (status : ErrorStatus)
    (code message : String) :
    Owned app a (do
      let _ ← setSpan attributes
      pure (errorResponse status code message a.requestId) : Py Response) :=
  handles_call (.span _) fun _ => handles_pure (.error ..)

theorem own_captureDebug (a : Accepted) (outputText : String) :
    Program.Only (Query.Own app a.toAdmitted) (captureDebug a outputText).run := by
  unfold captureDebug
  split
  case isTrue henabled => exact Only.ask (.capture henabled _ _)
  case isFalse => exact Only.pure ()

theorem owned_answerCached (s : Screened) (cached : CachedResponse) :
    Owned app s.toAdmitted (answerCached s cached) := by
  refine handles_bind (own_captureDebug s.toAccepted _) fun _ => handles_call (.span _) fun _ => ?_
  exact handles_call (.log ⟨.inl rfl, rfl, by simp [loggedNames, completedNames]⟩) fun _ =>
    handles_pure (.reply _ rfl)

theorem owned_answerFresh (s : Screened) (routed : RoutedResult) (outputGuardrailMs : ℚ) :
    Owned app s.toAdmitted (answerFresh s routed outputGuardrailMs) := by
  refine handles_bind (own_captureDebug s.toAccepted _) fun _ => handles_call (.span _) fun _ => ?_
  exact handles_call (.log ⟨.inl rfl, rfl, by simp [loggedNames, completedNames]⟩) fun _ =>
    handles_pure (.reply _ rfl)

theorem owned_guardrailRejection (a : Admitted) (modelId : String) (spanModel : Fields)
    (guardrailMs : ℚ) (status : ErrorStatus) (code message : String) :
    Owned app a (guardrailRejection a modelId spanModel guardrailMs status code message) := by
  refine handles_call (.span _) fun _ => ?_
  exact handles_call (.log ⟨.inl rfl, rfl, by simp [loggedNames, rejectedNames]⟩) fun _ =>
    handles_pure (.error ..)

theorem owned_upstreamFailure (s : Screened) (start : ℚ) (status : ErrorStatus)
    (code message : String) :
    Owned app s.toAdmitted (upstreamFailure s start status code message) := by
  refine handles_call (.span _) fun _ => handles_call .perfCounter fun _ => ?_
  exact handles_call (.log ⟨.inl rfl, rfl, by simp [loggedNames]⟩) fun _ =>
    handles_pure (.error ..)

theorem owned_screenOutput (s : Screened) (routed : RoutedResult) :
    Owned app s.toAdmitted
      (screenOutput app s (buildCacheKey app.sha256 s.cacheKeyFields) routed) := by
  refine handles_call .perfCounter fun start => handles_exceptPipeline
    ((asks_checkOutputGuardrail ..).own (by simp)) (fun status code message => ?_) fun _ => ?_
  · exact handles_call .perfCounter fun _ => owned_guardrailRejection s.toAdmitted ..
  · refine handles_call .perfCounter fun _ => handles_bind ?_ fun _ => owned_answerFresh ..
    exact Fallible.Only.bind (Only.ask (.cacheSet s.toAccepted rfl _)) fun _ =>
      (asks_settle _ : Asks [] _).own (by simp)

theorem owned_callModels (s : Screened) :
    Owned app s.toAdmitted
      (callModels app s (buildCacheKey app.sha256 s.cacheKeyFields)) := by
  refine handles_call .perfCounter fun start => ?_
  refine handles_bind (Only.attempt ((asks_tryCandidates ..).own (by simp))) fun outcome => ?_
  cases outcome with
  | ok routed => exact owned_screenOutput ..
  | error exn =>
      cases exn with
      | bedrockInvocation message code retryable => exact owned_upstreamFailure ..
      | allRoutesUnavailable routeSetName => exact owned_upstreamFailure ..
      | _ => exact handles_throw _

theorem owned_answerFromCache (s : Screened) : Owned app s.toAdmitted (answerFromCache app s) := by
  refine handles_call (.cacheGet s.toAccepted rfl) fun cached => ?_
  cases cached with
  | some cached => exact owned_answerCached ..
  | none => exact owned_callModels ..

theorem owned_openStream (s : Screened) : Owned app s.toAdmitted (openStream s) := by
  refine own_call (by simp [Query.kind]) fun allowed => ?_
  cases allowed with
  | false => exact owned_spanError ..
  | true =>
      have hstream : Asks [.model] (ask (.converseStream s.modelId s.conversation.messages
          s.conversation.maxTokens s.conversation.temperature) >>= settle) :=
        asks_call (by simp [Query.kind]) asks_settle
      refine handles_bind (hstream.own (by simp)) fun source => ?_
      exact handles_call (.span _) fun _ => handles_pure (.stream _ source rfl)

theorem owned_screenInput (a : Accepted) : Owned app a.toAdmitted (screenInput app a) := by
  refine handles_call (.span _) fun _ => handles_call .perfCounter fun start =>
    handles_exceptPipeline ((asks_checkInputGuardrail ..).own (by simp))
      (fun status code message => ?_) fun _ => ?_
  · exact handles_call .perfCounter fun _ => owned_guardrailRejection a.toAdmitted ..
  · refine handles_call .perfCounter fun stop => ?_
    dsimp only
    split
    · exact owned_openStream ⟨a, elapsedMs start stop⟩
    · exact owned_answerFromCache ⟨a, elapsedMs start stop⟩

/-- **An admitted request asks what is its own.** -/
theorem owned_readBody (a : Admitted) : Owned app a (readBody app a) := by
  refine own_call (by simp [Query.kind]) fun answer => ?_
  cases answer with
  | error exn =>
      cases exn with
      | cancelled => exact handles_throw _
      | _ => exact owned_spanError ..
  | ok body =>
      dsimp only
      split
      · exact owned_spanError ..
      · rename_i chatRequest _
        refine handles_exceptPipeline ((asks_settle _ : Asks [] _).own (by simp))
          (fun status code message => owned_spanError ..) fun modelId => ?_
        exact owned_screenInput ⟨a, chatRequest, modelId⟩

end Chat

/-! ## The handlers -/

section Handlers

variable {app : App} {C : Query → Prop} {post : Response → Prop}

/-- The chat handler, given what may be asked at the gates and after them. -/
theorem handles_chat (request : HttpRequest) {requestId : String}
    (hgates : ∀ q : Query, q.among [.caller, .policy, .rate] → C q)
    (hspan : ∀ attributes, C (.setSpanAttributes attributes))
    (herror : ∀ status code message, post (errorResponse status code message requestId))
    (hbody : ∀ identity policy, Handles C post (readBody app ⟨requestId, identity, policy⟩)) :
    Handles C post (chat app request requestId) := by
  refine handles_call (hspan _) fun _ => handles_exceptPipeline
    (Program.Only.mono (asks_gates app request) hgates) (fun status code message => ?_)
    fun admitted => handles_call (hspan _) fun _ => hbody admitted.1 admitted.2
  exact handles_call (hspan _) fun _ => handles_pure (herror status code message)

/-- What a change of state asks once it has been authorized. -/
inductive Query.Administers (requestId tenantId : String) : Query → Prop
  | change (state : TenantState) : Administers requestId tenantId (.storeSetState tenantId state)
  | evict : Administers requestId tenantId (.snapshotInvalidate tenantId)
  | log {record : LogRecord} (h : record.Filed requestId) :
      Administers requestId tenantId (.log record)

theorem handles_applyState (requestId : String) (identity : Identity) (tenantId : String)
    (newState : TenantState) :
    Handles (Query.Administers requestId tenantId) (Response.Names requestId)
      (applyState app requestId identity tenantId newState) := by
  refine handles_call (.change newState) fun updated => ?_
  cases updated with
  | error exn =>
      cases exn with
      | unknownTenant tenantId => exact handles_pure (.error ..)
      | _ => exact handles_throw _
  | ok updated =>
      refine handles_call .evict fun _ => ?_
      exact handles_call (.log ⟨.inr rfl, rfl, by simp [loggedNames]⟩) fun _ =>
        handles_pure (.changed tenantId updated)

/-- The admin handler, given what may be asked before the change and at it. -/
theorem handles_setTenantState (request : HttpRequest) {tenantId requestId : String}
    (hbefore : ∀ q : Query, q.among [.caller, .client] → C q)
    (hchange : ∀ q : Query, q.Administers requestId tenantId → C q)
    (hnames : ∀ response : Response, response.Names requestId → post response) :
    Handles C post (setTenantState app request tenantId requestId) := by
  refine handles_exceptPipeline
    (Program.Only.mono ((asks_adminCaller app request).mono (by simp)) hbefore)
    (fun status code message => handles_pure (hnames _ (.error ..))) fun identity => ?_
  refine handles_call (hbefore _ (by simp [Query.among, Query.kind])) fun answer => ?_
  cases answer with
  | error exn =>
      cases exn with
      | cancelled => exact handles_throw _
      | _ => exact handles_pure (hnames _ (.error ..))
  | ok body =>
      dsimp only
      split
      · exact handles_pure (hnames _ (.error ..))
      · exact (handles_applyState requestId identity tenantId _).mono hchange hnames

end Handlers

/-! ## The kinds of their questions -/

/-- What is asked once the gates have been passed. -/
abbrev bodyKinds : List QueryKind :=
  [.guardrail, .model, .breaker, .cache, .debug, .client, .telemetry]

/-- Everything but the policies and their administration. -/
abbrev serviceKinds : List QueryKind :=
  [.caller, .rate, .guardrail, .model, .breaker, .cache, .debug, .client, .pull, .reply, .telemetry]

theorem Query.Own.among {app : App} {a : Admitted} {q : Query} (h : q.Own app a) :
    q.among bodyKinds := by
  cases h with
  | service h => exact (by simp : serviceQuestions ⊆ bodyKinds) h
  | _ => simp [Query.among, Query.kind]

theorem asks_body (app : App) (a : Admitted) : Asks bodyKinds (readBody app a) :=
  Program.Only.mono (owned_readBody a).only fun _ h => h.among

theorem asks_readBody (app : App) (a : Admitted) : Asks serviceKinds (readBody app a) :=
  (asks_body app a).mono (by simp)

theorem asks_chat (app : App) (request : HttpRequest) (requestId : String) :
    Asks (.caller :: .policy :: .rate :: bodyKinds) (chat app request requestId) := by
  have hhandles : Handles (Query.among (.caller :: .policy :: .rate :: bodyKinds)) (fun _ => True)
      (chat app request requestId) := by
    refine handles_chat request (fun q hq => ?_) (fun _ => by simp [Query.among, Query.kind])
      (fun _ _ _ => trivial) fun identity policy =>
        (owned_readBody _).mono (fun q hq => ?_) fun _ _ => trivial
    · exact (by simp : [QueryKind.caller, .policy, .rate] ⊆
        .caller :: .policy :: .rate :: bodyKinds) hq
    · exact (by simp : bodyKinds ⊆ .caller :: .policy :: .rate :: bodyKinds) hq.among
  exact hhandles.only

theorem asks_setTenantState (app : App) (request : HttpRequest) (tenantId requestId : String) :
    Asks [.caller, .client, .control, .telemetry]
      (setTenantState app request tenantId requestId) := by
  have hhandles : Handles (Query.among [.caller, .client, .control, .telemetry]) (fun _ => True)
      (setTenantState app request tenantId requestId) := by
    refine handles_setTenantState request (fun q hq => ?_) (fun q hq => ?_) fun _ _ => trivial
    · exact (by simp : [QueryKind.caller, .client] ⊆ [.caller, .client, .control, .telemetry]) hq
    · cases hq <;> simp [Query.among, Query.kind]
  exact hhandles.only

end BedrockGateway
