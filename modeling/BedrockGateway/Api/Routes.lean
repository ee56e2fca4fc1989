/-
# `POST /v1/chat`

The handler, stage by stage. Each stage is a program of its own that ends the
request or hands what it has established to the next one: the gates before the
body is awaited, the body, the input guardrail, then either the stream or the
cache, the models and the output guardrail.
-/

import BedrockGateway.Streaming

namespace BedrockGateway

open Foundation Py

/-- `error_response` -/
def errorResponse (status : ErrorStatus) (code message requestId : String) : Response :=
  .json status.code (errorBody code message requestId)

/-- `set_span_attributes` -/
def setSpan (attributes : Fields) : Py Unit := ask (.setSpanAttributes (spanAttributes attributes))

/-- `_ERROR_STATUS_MAP.get(code, _DEFAULT_ERROR_STATUS)` -/
def errorStatus (code : String) : ErrorStatus × String :=
  if code = "ThrottlingException" then (.tooManyRequests, "UPSTREAM_THROTTLED")
  else if code = "ServiceUnavailableException" then (.serviceUnavailable, "UPSTREAM_UNAVAILABLE")
  else if code = "ModelTimeoutException" then (.gatewayTimeout, "UPSTREAM_TIMEOUT")
  else if code = "InternalServerException" then (.badGateway, "UPSTREAM_ERROR")
  else (.badGateway, "UPSTREAM_ERROR")

/-- `try: body except pipeline.PipelineError: rejected`, then the rest. -/
def exceptPipeline {α β : Type} (body : Py α)
    (rejected : ErrorStatus → String → String → Py β) (next : α → Py β) : Py β :=
  attempt body >>= fun
    | .ok value => next value
    | .error (.pipeline status code message) => rejected status code message
    | .error exn => throw exn

/-- Past the gates: what is known before the body is read. -/
structure Admitted where
  requestId : String
  identity : Identity
  policy : TenantPolicy

/-- Past the body: a valid request and the model it resolved to. -/
structure Accepted extends Admitted where
  chatRequest : ChatRequest
  modelId : String

/-- Past the input guardrail. -/
structure Screened extends Accepted where
  inputGuardrailMs : ℚ

namespace Accepted

/-- `combined_input_text` -/
def combinedInputText (a : Accepted) : String :=
  "\n".intercalate (a.chatRequest.messages.map ChatMessage.content)

/-- What the model client is called with, whatever the model. -/
def conversation (a : Accepted) : Conversation :=
  ⟨bedrockMessages a.chatRequest.messages, a.chatRequest.maxTokens, a.chatRequest.temperature⟩

/-- The arguments of `build_cache_key`. -/
def cacheKeyFields (a : Accepted) : CacheKeyFields :=
  ⟨a.identity.tenantId, a.identity.applicationId, a.policy, a.modelId, a.chatRequest.maxTokens,
    a.chatRequest.temperature, normalizeMessages a.chatRequest.messages⟩

end Accepted

/-! ## The gates -/

/-- The first `try` of `chat`: everything before the body is awaited. -/
def gates (app : App) (request : HttpRequest) : Py (Identity × TenantPolicy) := do
  let identity ← authenticate app request
  let _ ← authorize identity app.settings.chatRequiredRole
  let policy ← resolvePolicy app identity
  let _ ← enforceKillSwitch policy
  let _ ← enforceRateLimit policy
  pure (identity, policy)

/-! ## The answers -/

/-- `debug_capture_store.capture`, for tenants that opted in. -/
def captureDebug (a : Accepted) (outputText : String) : Py Unit :=
  if a.policy.debugCaptureEnabled then
    ask (.debugCapture a.requestId a.identity.tenantId a.combinedInputText outputText)
  else pure ()

/-- `0.0` -/
def zeroFloat : PyFloat := ⟨['0', '.', '0'], by simp, by simp [isNumeric]⟩

/-- The `response` of a cache hit. -/
def cachedReply (a : Admitted) (cached : CachedResponse) : ChatResponse where
  requestId := a.requestId
  model := cached.modelId
  output := cached.text
  stopReason := cached.stopReason
  usage := ⟨cached.inputTokens, cached.outputTokens⟩
  latencyMs := zeroFloat
  cacheHit := true
  fallback := false

/-- The `response` of a fresh result. -/
def freshReply (a : Admitted) (routed : RoutedResult) : ChatResponse where
  requestId := a.requestId
  model := routed.modelId
  output := routed.result.text
  stopReason := routed.result.stopReason
  usage := ⟨routed.result.inputTokens, routed.result.outputTokens⟩
  latencyMs := routed.result.latencyMs
  cacheHit := false
  fallback := routed.fallback

/-- What is cached of a fresh result. -/
def cachedResponse (routed : RoutedResult) : CachedResponse where
  text := routed.result.text
  stopReason := routed.result.stopReason
  inputTokens := routed.result.inputTokens
  outputTokens := routed.result.outputTokens
  modelId := routed.modelId

/-- The exit of `chat` on a cache hit. -/
def answerCached (s : Screened) (cached : CachedResponse) : Py Response := do
  let estimatedCost := estimateCost cached.modelId cached.inputTokens cached.outputTokens
  let _ ← captureDebug s.toAccepted cached.text
  let _ ← setSpan [("status", .int 200), ("model", .str cached.modelId),
    ("guardrail_version", .str s.policy.guardrailPolicy), ("guardrail_action", .str "ALLOW"),
    ("guardrail_latency_ms", .num s.inputGuardrailMs),
    ("input_tokens", .int cached.inputTokens), ("output_tokens", .int cached.outputTokens),
    ("latency_ms", .num 0), ("retry_count", .int 0), ("fallback", .bool false),
    ("cache_hit", .bool true), ("estimated_cost", .num estimatedCost),
    ("slo_breach", .bool false)]
  let _ ← ask (.log {
    logger := "gateway.chat", level := "INFO", message := "chat request completed"
    requestId := some s.requestId
    fields := [("model", .str cached.modelId), ("tenant_id", .str s.identity.tenantId),
      ("policy_epoch", .int s.policy.policyEpoch),
      ("route_set", FieldValue.ofOption s.policy.routeSet),
      ("guardrail_version", .str s.policy.guardrailPolicy), ("guardrail_action", .str "ALLOW"),
      ("guardrail_latency_ms", .num s.inputGuardrailMs), ("blocked_reason", .none),
      ("input_tokens", .int cached.inputTokens), ("output_tokens", .int cached.outputTokens),
      ("ttft_ms", .none), ("latency_ms", .num 0), ("retry_count", .int 0),
      ("fallback", .bool false), ("cache_hit", .bool true), ("status", .int 200),
      ("estimated_cost", .num estimatedCost), ("slo_breach", .bool false)] })
  pure (.json 200 (cachedReply s.toAdmitted cached).modelDump)

/-- The exit of `chat` on a fresh response that passed the output guardrail. -/
def answerFresh (s : Screened) (routed : RoutedResult) (outputGuardrailMs : ℚ) :
    Py Response := do
  let result := routed.result
  let _ ← captureDebug s.toAccepted result.text
  let estimatedCost := estimateCost routed.modelId result.inputTokens result.outputTokens
  let breached := sloBreached s.policy result.latencyMs.value
  let guardrailMs := round (s.inputGuardrailMs + outputGuardrailMs) 2
  let _ ← setSpan [("status", .int 200), ("model", .str routed.modelId),
    ("guardrail_version", .str s.policy.guardrailPolicy), ("guardrail_action", .str "ALLOW"),
    ("guardrail_latency_ms", .num guardrailMs),
    ("input_tokens", .int result.inputTokens), ("output_tokens", .int result.outputTokens),
    ("latency_ms", .num result.latencyMs.value), ("retry_count", .int result.retryCount),
    ("fallback", .bool routed.fallback), ("cache_hit", .bool false),
    ("estimated_cost", .num estimatedCost), ("slo_breach", .bool breached)]
  let _ ← ask (.log {
    logger := "gateway.chat", level := "INFO", message := "chat request completed"
    requestId := some s.requestId
    fields := [("model", .str routed.modelId), ("tenant_id", .str s.identity.tenantId),
      ("policy_epoch", .int s.policy.policyEpoch),
      ("route_set", FieldValue.ofOption s.policy.routeSet),
      ("guardrail_version", .str s.policy.guardrailPolicy), ("guardrail_action", .str "ALLOW"),
      ("guardrail_latency_ms", .num guardrailMs), ("blocked_reason", .none),
      ("input_tokens", .int result.inputTokens), ("output_tokens", .int result.outputTokens),
      ("ttft_ms", .none), ("latency_ms", .num result.latencyMs.value),
      ("retry_count", .int result.retryCount), ("fallback", .bool routed.fallback),
      ("cache_hit", .bool false), ("status", .int 200), ("estimated_cost", .num estimatedCost),
      ("slo_breach", .bool breached)] })
  pure (.json 200 (freshReply s.toAdmitted routed).modelDump)

/-! ## The models -/

/-- The exit of `chat` on a rejection by a guardrail. -/
def guardrailRejection (a : Admitted) (modelId : String) (spanModel : Fields) (guardrailMs : ℚ)
    (status : ErrorStatus) (code message : String) : Py Response := do
  let _ ← setSpan ([("status", .int status.code), ("error", .str message)] ++ spanModel ++
    [("guardrail_version", .str a.policy.guardrailPolicy), ("guardrail_action", .str "BLOCK"),
      ("guardrail_latency_ms", .num guardrailMs), ("blocked_reason", .str message)])
  let _ ← ask (.log {
    logger := "gateway.chat", level := "ERROR", message := "chat request failed"
    requestId := some a.requestId, error := some message
    fields := [("model", .str modelId), ("status", .int status.code),
      ("tenant_id", .str a.identity.tenantId), ("policy_epoch", .int a.policy.policyEpoch),
      ("guardrail_version", .str a.policy.guardrailPolicy), ("guardrail_action", .str "BLOCK"),
      ("guardrail_latency_ms", .num guardrailMs), ("blocked_reason", .str message)] })
  pure (errorResponse status code message a.requestId)

/-- `chat` from the output guardrail on. -/
def screenOutput (app : App) (s : Screened) (cacheKey : String) (routed : RoutedResult) :
    Py Response := do
  let start ← ask .perfCounter
  exceptPipeline (checkOutputGuardrail app s.policy routed.result.text)
    (fun status code message => do
      let stop ← ask .perfCounter
      guardrailRejection s.toAdmitted routed.modelId [("model", .str routed.modelId)]
        (round (s.inputGuardrailMs + elapsedMs start stop) 2) status code message)
    (fun _ => do
      let stop ← ask .perfCounter
      let _ ← ask (.cacheSet cacheKey (cachedResponse routed)) >>= settle
      answerFresh s routed (elapsedMs start stop))

/-- The exits of `chat` when no model has answered. -/
def upstreamFailure (s : Screened) (start : ℚ) (status : ErrorStatus) (code message : String) :
    Py Response := do
  let _ ← setSpan [("status", .int status.code), ("error", .str message)]
  let stop ← ask .perfCounter
  let _ ← ask (.log {
    logger := "gateway.chat", level := "ERROR", message := "chat request failed"
    requestId := some s.requestId, error := some message
    fields := [("model", .str s.modelId), ("status", .int status.code),
      ("tenant_id", .str s.identity.tenantId), ("policy_epoch", .int s.policy.policyEpoch),
      ("latency_ms", .num (elapsedMs start stop))] })
  pure (errorResponse status code message s.requestId)

/-- `chat` from the router call on. -/
def callModels (app : App) (s : Screened) (cacheKey : String) : Py Response := do
  let start ← ask .perfCounter
  let outcome ← attempt (routerConverse app s.modelId s.policy.routeSet s.conversation)
  match outcome with
  | .ok routed => screenOutput app s cacheKey routed
  | .error (.bedrockInvocation message code _) =>
      upstreamFailure s start (errorStatus code).1 (errorStatus code).2 message
  | .error (.allRoutesUnavailable routeSetName) =>
      upstreamFailure s start .serviceUnavailable "ALL_ROUTES_UNAVAILABLE"
        ((Exn.allRoutesUnavailable routeSetName).str app.text)
  | .error exn => throw exn

/-- `chat` from the cache lookup on. -/
def answerFromCache (app : App) (s : Screened) : Py Response := do
  let cacheKey := buildCacheKey app.sha256 s.cacheKeyFields
  let cached ← ask (.cacheGet cacheKey)
  match cached with
  | some cached => answerCached s cached
  | none => callModels app s cacheKey

/-- The streaming branch of `chat`. The iterator is made here; nothing is called upstream
before it is pulled. -/
def openStream (s : Screened) : Py Response := do
  let allowed ← ask (.breakerAllow s.modelId)
  if allowed then
    let source ← ask (.converseStream s.modelId s.conversation.messages s.conversation.maxTokens
      s.conversation.temperature) >>= settle
    let _ ← setSpan [("status", .int 200), ("stream", .bool true)]
    pure (.stream ⟨s.modelId, s.requestId, s.identity.tenantId⟩ source)
  else
    let _ ← setSpan [("status", .int 503), ("error", .str "circuit open")]
    pure (errorResponse .serviceUnavailable "UPSTREAM_UNAVAILABLE"
      s!"model '{s.modelId}' is temporarily unavailable (circuit open)" s.requestId)

/-- `chat` from the input guardrail on. -/
def screenInput (app : App) (a : Accepted) : Py Response := do
  let _ ← setSpan [("model", .str a.modelId)]
  let start ← ask .perfCounter
  exceptPipeline (checkInputGuardrail app a.policy a.combinedInputText)
    (fun status code message => do
      let stop ← ask .perfCounter
      guardrailRejection a.toAdmitted a.modelId [] (elapsedMs start stop) status code message)
    (fun _ => do
      let stop ← ask .perfCounter
      let screened : Screened := ⟨a, elapsedMs start stop⟩
      if a.chatRequest.stream then openStream screened else answerFromCache app screened)

/-! ## The handler -/

/-- `chat` from the awaited body on. -/
def readBody (app : App) (a : Admitted) : Py Response := do
  let body ← ask .requestJson
  match body with
  | .error .cancelled => throw .cancelled
  | .error _ => do
      let _ ← setSpan [("status", .int 400), ("error", .str "invalid JSON")]
      pure (errorResponse .badRequest "INVALID_JSON" "request body must be valid JSON"
        a.requestId)
  | .ok body =>
      match modelValidate app.validation body with
      | .error issue => do
          let _ ← setSpan [("status", .int 400), ("error", .str (app.validation.msg issue))]
          pure (errorResponse .badRequest "INVALID_REQUEST" (app.validation.msg issue)
            a.requestId)
      | .ok chatRequest =>
          exceptPipeline
            (settle (enforceModelAllowlist a.policy chatRequest.model app.settings.bedrockModelId))
            (fun status code message => do
              let _ ← setSpan [("status", .int status.code), ("error", .str message)]
              pure (errorResponse status code message a.requestId))
            (fun modelId => screenInput app ⟨a, chatRequest, modelId⟩)

/-- `chat` -/
def chat (app : App) (request : HttpRequest) (requestId : String) : Py Response := do
  let _ ← setSpan [("request_id", .str requestId)]
  exceptPipeline (gates app request)
    (fun status code message => do
      let _ ← setSpan [("status", .int status.code), ("error", .str message)]
      pure (errorResponse status code message requestId))
    (fun (identity, policy) => do
      let _ ← setSpan [("tenant_id", .str identity.tenantId),
        ("application_id", .str identity.applicationId), ("policy_epoch", .int policy.policyEpoch),
        ("route_set", FieldValue.ofOption policy.routeSet)]
      readBody app ⟨requestId, identity, policy⟩)

end BedrockGateway
