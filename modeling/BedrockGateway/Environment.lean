/-
# What the gateway's code asks, and what answers it

Every access to shared state, every call of a collaborator, every reading of a
clock and every `await` of the gateway's handlers is one question below. The
questions about state the gateway owns have one answer, computed here from that
state; each of them is one critical section. All other questions are put to the
outside world, which may answer anything its type allows and changes nothing the
gateway owns.

An answer of type `Except Exn _` may be an exception raised into the asker. The
awaited ones may be a cancellation.
-/

import BedrockGateway.Api.Schemas
import BedrockGateway.Cache.Store
import BedrockGateway.Guardrails.FailClosed
import BedrockGateway.Policy.Cache
import BedrockGateway.Policy.TokenBucket
import BedrockGateway.Routing.CircuitBreaker
import BedrockGateway.Telemetry.Records

namespace BedrockGateway

open Foundation

/-! ## Route sets

A route set names the models a request may fall back to. The candidates of a request
are its own model, then the fallbacks of the tenant's route set without that model.
-/

/-- `RouteSet` -/
structure RouteSet where
  name : String
  primary : String
  fallbacks : List String := []
  deriving DecidableEq

/-- `CertifiedRouter._route_sets` -/
abbrev RouteSets := Dict String RouteSet

namespace RouteSets

/-- `CertifiedRouter.fallbacks_for` -/
def fallbacksFor (routeSets : RouteSets) : Option String → List String
  | none => []
  | some name =>
      match routeSets.get? name with
      | some routeSet => routeSet.fallbacks
      | none => []

/-- The `candidates` of `CertifiedRouter.converse`. -/
def candidates (routeSets : RouteSets) (primaryModelId : String) (routeSetName : Option String) :
    List String :=
  primaryModelId :: (routeSets.fallbacksFor routeSetName).filter (· ≠ primaryModelId)

/-- A candidate is the requested model or a certified fallback. -/
theorem mem_candidates_iff {routeSets : RouteSets} {primaryModelId modelId : String}
    {routeSetName : Option String} :
    modelId ∈ routeSets.candidates primaryModelId routeSetName ↔
      modelId = primaryModelId ∨ modelId ∈ routeSets.fallbacksFor routeSetName := by
  simp only [candidates, List.mem_cons, List.mem_filter, decide_eq_true_eq]
  by_cases h : modelId = primaryModelId <;> simp [h]

end RouteSets

/-! ## Configuration -/

/-- The settings the modelled code reads. -/
structure Settings where
  bedrockModelId : String := "us.amazon.nova-micro-v1:0"
  chatRequiredRole : String := "developer"
  adminRequiredRole : String := "platform_admin"
  policyCacheTtlS : ℚ := 30
  responseCacheTtlS : ℚ := 60
  responseCacheMaxEntries : ℤ := 1000
  circuitBreaker : BreakerConfig := {}

/-- An application as `create_app` assembles it. -/
structure App where
  settings : Settings := {}
  routeSets : RouteSets := Dict.empty
  /-- Whether an IAM resolver was handed over. -/
  iamConfigured : Bool := true
  text : PyText
  /-- `hashlib.sha256(...).hexdigest()` -/
  sha256 : String → String
  /-- `redact` of the debug capture. -/
  redact : String → String
  /-- The validation library. -/
  validation : Validation

/-- An application with the default settings, for text on which case folding,
redaction and coercions have nothing to do. -/
def App.plain : App where
  text := ⟨fun s => "'" ++ s ++ "'", id⟩
  sha256 := id
  redact := id
  validation := {
    int := fun _ => .error "Input should be a valid integer"
    float := fun _ => .error "Input should be a valid number"
    bool := fun
      | .bool value => .ok value
      | _ => .error "Input should be a valid boolean"
    msg := fun _ => "Input should be valid" }

/-- A plain application whose digest is the same for everything. -/
def App.oneKey : App := { App.plain with sha256 := fun _ => "k" }

/-- The parts of a request that are there before its body. -/
structure HttpRequest where
  method : String
  path : String
  authorization : Option String := none
  /-- `x-platform-principal-arn` -/
  principalArn : Option String := none
  /-- `x-platform-account-id` -/
  accountId : Option String := none
  /-- `x-request-id` -/
  requestId : Option String := none
  deriving DecidableEq

/-- The arguments of `stream_chat_response` that identify the request. -/
structure StreamContext where
  modelId : String
  requestId : String
  tenantId : String

/-- A response object: a document, or a stream not yet started. -/
inductive Response
  | json (statusCode : ℕ) (content : Json)
  | stream (ctx : StreamContext) (source : ChunkSource)

/-- `response.status_code` -/
def Response.statusCode : Response → ℕ
  | .json statusCode _ => statusCode
  | .stream _ _ => 200

/-- A piece of a response body. -/
inductive Body
  | json (content : Json)
  | bytes (text : String)

/-! ## Questions -/

/-- The questions of the gateway's code. -/
inductive Query
  | /-- `TokenVerifier.verify` -/
    verifyToken (token : String)
  | /-- `IamTenantResolver.resolve` -/
    resolvePrincipal (principalArn : String)
  | /-- The locked lookup of `PolicySnapshotCache.get`. -/
    snapshotLookup (tenantId : String)
  | /-- `PolicyStore.get` -/
    storeGet (tenantId : String)
  | /-- The locked write-back of `PolicySnapshotCache.get`. -/
    snapshotWriteBack (tenantId : String) (policy : TenantPolicy)
  | /-- `PolicyStore.set_state` -/
    storeSetState (tenantId : String) (state : TenantState)
  | /-- `PolicySnapshotCache.invalidate` -/
    snapshotInvalidate (tenantId : String)
  | /-- `time.monotonic`, read outside a lock. -/
    clock
  | /-- The locked part of `TokenBucketRateLimiter.allow`. -/
    bucketTake (tenantId : String) (rpmLimit : ℤ) (now : ℚ)
  | /-- `GuardrailClient.check_input` -/
    checkInput (text guardrailPolicy : String)
  | /-- `GuardrailClient.check_output` -/
    checkOutput (text guardrailPolicy : String)
  | /-- `ConverseClient.converse` -/
    converse (modelId : String) (messages : List BedrockChatMessage) (maxTokens : ℤ)
      (temperature : PyFloat)
  | /-- `ConverseClient.converse_stream`: an iterator over chunks. The answer says what
    it is going to yield. -/
    converseStream (modelId : String) (messages : List BedrockChatMessage) (maxTokens : ℤ)
      (temperature : PyFloat)
  | /-- The first `next` of a chunk iterator. `converse_stream` is a generator function,
    so this is where the upstream is called. -/
    startStream
  | /-- `close` of a chunk iterator. -/
    closeChunks
  | /-- `CircuitBreaker.allow` -/
    breakerAllow (modelId : String)
  | /-- `CircuitBreaker.record_success` -/
    recordSuccess (modelId : String)
  | /-- `CircuitBreaker.record_failure` -/
    recordFailure (modelId : String)
  | /-- `ResponseCache.get` -/
    cacheGet (key : String)
  | /-- `ResponseCache.set` -/
    cacheSet (key : String) (value : CachedResponse)
  | /-- `DebugCaptureStore.capture` -/
    debugCapture (requestId tenantId inputText outputText : String)
  | /-- `await request.json()` -/
    requestJson
  | /-- `await request.is_disconnected()` -/
    isDisconnected
  | /-- `await send` of the start of a response: its status and these headers. -/
    sendStart (response : Response) (headers : List (String × String))
  | /-- `await send` of a piece of a response body. -/
    sendBody (body : Body)
  | /-- `time.perf_counter` -/
    perfCounter
  | /-- `uuid.uuid4` -/
    newUuid
  | /-- `span.set_attribute`, once for each attribute. -/
    setSpanAttributes (attributes : Fields)
  | /-- `log_event` -/
    log (record : LogRecord)

/-- The answers to a question. -/
@[reducible]
def Answer : Query → Type
  | .verifyToken _ => Except Exn Claims
  | .resolvePrincipal _ => Except Exn IamPrincipalGrant
  | .snapshotLookup _ => Option TenantPolicy
  | .storeGet _ => Except Exn TenantPolicy
  | .snapshotWriteBack _ _ => Unit
  | .storeSetState _ _ => Except Exn TenantPolicy
  | .snapshotInvalidate _ => Unit
  | .clock => ℚ
  | .bucketTake _ _ _ => Bool
  | .checkInput _ _ => Except Exn GuardrailDecision
  | .checkOutput _ _ => Except Exn GuardrailDecision
  | .converse _ _ _ _ => Except Exn ConverseResult
  | .converseStream _ _ _ _ => Except Exn ChunkSource
  | .startStream => Unit
  | .closeChunks => Except Exn Unit
  | .breakerAllow _ => Bool
  | .recordSuccess _ => Unit
  | .recordFailure _ => Unit
  | .cacheGet _ => Option CachedResponse
  | .cacheSet _ _ => Except Exn Unit
  | .debugCapture _ _ _ _ => Unit
  | .requestJson => Except Exn Json
  | .isDisconnected => Except Exn Bool
  | .sendStart _ _ => Except Exn Unit
  | .sendBody _ => Except Exn Unit
  | .perfCounter => ℚ
  | .newUuid => String
  | .setSpanAttributes _ => Unit
  | .log _ => Unit

/-- The questions at which a coroutine gives up control. -/
def Query.awaits : Query → Bool
  | .requestJson => true
  | .isDisconnected => true
  | .sendStart _ _ => true
  | .sendBody _ => true
  | _ => false

/-! ## The state the gateway owns -/

/-- The in-memory state of a gateway process, and its monotonic clock. -/
structure GatewayState where
  now : ℚ
  policies : PolicyStore
  snapshots : PolicySnapshots := Dict.empty
  buckets : Buckets := Dict.empty
  breakers : Breakers := Dict.empty
  responses : ResponseCache := Dict.empty
  debugRecords : DebugRecords := Dict.empty

/-- Nothing has happened yet: a loaded policy store, everything else empty. -/
def GatewayState.fresh (now : ℚ) (policies : PolicyStore) : GatewayState :=
  { now := now, policies := policies }

/-- The answer of the gateway's own state, if the question is about it. -/
def answer (app : App) (s : GatewayState) : (q : Query) → Option (Answer q × GatewayState)
  | .snapshotLookup tenantId =>
      some (s.snapshots.lookup app.settings.policyCacheTtlS s.now tenantId, s)
  | .storeGet tenantId => some (s.policies.get tenantId, s)
  | .snapshotWriteBack tenantId policy =>
      some ((), { s with snapshots := s.snapshots.writeBack s.now tenantId policy })
  | .storeSetState tenantId state =>
      let changed := s.policies.setState tenantId state
      some (changed.1, { s with policies := changed.2 })
  | .snapshotInvalidate tenantId =>
      some ((), { s with snapshots := s.snapshots.invalidate tenantId })
  | .clock => some (s.now, s)
  | .bucketTake tenantId rpmLimit now =>
      let taken := s.buckets.take tenantId rpmLimit now
      some (taken.1, { s with buckets := taken.2 })
  | .breakerAllow modelId =>
      let asked := s.breakers.allow app.settings.circuitBreaker s.now modelId
      some (asked.1, { s with breakers := asked.2 })
  | .recordSuccess modelId =>
      some ((), { s with breakers := s.breakers.recordSuccess modelId })
  | .recordFailure modelId =>
      some ((), { s with
        breakers := s.breakers.recordFailure app.settings.circuitBreaker s.now modelId })
  | .cacheGet key =>
      let found := s.responses.get app.settings.responseCacheTtlS s.now key
      some (found.1, { s with responses := found.2 })
  | .cacheSet key value =>
      let written := s.responses.set app.settings.responseCacheMaxEntries s.now key value
      some (written.1, { s with responses := written.2 })
  | .debugCapture requestId tenantId inputText outputText =>
      some ((), { s with
        debugRecords := s.debugRecords.capture app.redact s.now requestId tenantId inputText
          outputText })
  | _ => none

/-- Time moves forward, and nothing else changes by itself. -/
def Elapses (s s' : GatewayState) : Prop :=
  ∃ now, s.now ≤ now ∧ s' = { s with now := now }

/-- How a question may be answered: by the gateway's state where that decides,
in any way at all where it does not. -/
def Answers (app : App) (s : GatewayState) (q : Query) (a : Answer q) (s' : GatewayState) : Prop :=
  match answer app s q with
  | some (decided, next) => a = decided ∧ s' = next
  | none => s' = s

theorem Elapses.refl (s : GatewayState) : Elapses s s := ⟨s.now, le_rfl, rfl⟩

/-- Answering takes no time. -/
theorem Answers.now {app : App} {s s' : GatewayState} {q : Query} {a : Answer q}
    (h : Answers app s q a s') : s'.now = s.now := by
  unfold Answers at h
  cases q <;> simp only [answer] at h <;> first | rw [h] | rw [h.2]

/-! ## What each answer does to the breakers -/

section Breakers

variable {app : App} {s s' : GatewayState} {modelId : String}

theorem Answers.breakerAllow {allowed : Bool}
    (h : Answers app s (.breakerAllow modelId) allowed s') :
    allowed = ((s.breakers.record modelId).allow app.settings.circuitBreaker s.now).1 ∧
      s'.breakers.record modelId =
        ((s.breakers.record modelId).allow app.settings.circuitBreaker s.now).2 := by
  obtain ⟨rfl, rfl⟩ := h
  exact ⟨rfl, (Breakers.record_allow ..).trans (if_pos rfl)⟩

theorem Answers.recordSuccess {a : Unit} (h : Answers app s (.recordSuccess modelId) a s') :
    s'.breakers.record modelId = (s.breakers.record modelId).recordSuccess := by
  obtain ⟨_, rfl⟩ := h
  exact (Breakers.record_recordSuccess ..).trans (if_pos rfl)

theorem Answers.recordFailure {a : Unit} (h : Answers app s (.recordFailure modelId) a s') :
    s'.breakers.record modelId =
      (s.breakers.record modelId).recordFailure app.settings.circuitBreaker s.now := by
  obtain ⟨_, rfl⟩ := h
  exact (Breakers.record_recordFailure ..).trans (if_pos rfl)

/-- Every other question leaves a model's record alone. -/
theorem Answers.breaker_frame {q : Query} {a : Answer q} (h : Answers app s q a s')
    (hallow : q ≠ .breakerAllow modelId) (hsuccess : q ≠ .recordSuccess modelId)
    (hfailure : q ≠ .recordFailure modelId) :
    s'.breakers.record modelId = s.breakers.record modelId := by
  unfold Answers at h
  cases q with
  | breakerAllow other =>
      have hne : modelId ≠ other := fun heq => hallow (by rw [heq])
      rw [h.2]
      exact (Breakers.record_allow ..).trans (if_neg hne)
  | recordSuccess other =>
      have hne : modelId ≠ other := fun heq => hsuccess (by rw [heq])
      rw [h.2]
      exact (Breakers.record_recordSuccess ..).trans (if_neg hne)
  | recordFailure other =>
      have hne : modelId ≠ other := fun heq => hfailure (by rw [heq])
      rw [h.2]
      exact (Breakers.record_recordFailure ..).trans (if_neg hne)
  | _ =>
      simp only [answer] at h
      first
        | rw [h]
        | rw [h.2]

end Breakers

/-! ## What each answer does to the policies -/

/-- The questions that change a policy or a snapshot. -/
def Query.changesPolicies : Query → Bool
  | .snapshotWriteBack _ _ => true
  | .snapshotInvalidate _ => true
  | .storeSetState _ _ => true
  | _ => false

theorem Answers.storeSetState {app : App} {s s' : GatewayState} {tenantId : String}
    {state : TenantState} {a : Except Exn TenantPolicy}
    (h : Answers app s (.storeSetState tenantId state) a s') :
    a = (s.policies.setState tenantId state).1 ∧
      s' = { s with policies := (s.policies.setState tenantId state).2 } := h

/-- Every other question leaves the policies and the snapshots alone. -/
theorem Answers.policies_frame {app : App} {s s' : GatewayState} {q : Query} {a : Answer q}
    (h : Answers app s q a s') (hq : q.changesPolicies = false) :
    s'.policies = s.policies ∧ s'.snapshots = s.snapshots := by
  unfold Answers at h
  cases q <;> simp only [answer, Query.changesPolicies, Bool.true_eq_false] at h hq <;>
    first
      | (rw [h]; exact ⟨rfl, rfl⟩)
      | (rw [h.2]; exact ⟨rfl, rfl⟩)

end BedrockGateway
