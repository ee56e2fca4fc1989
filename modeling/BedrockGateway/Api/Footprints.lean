/-
# What each stage can ask

The questions fall into kinds, and each stage of the handlers asks questions of a
few kinds only. That is all most arguments about a request need to know of most
of its stages.
-/

import BedrockGateway.EventLoop
import BedrockGateway.Foundation.History

namespace BedrockGateway

open Foundation Py
open Fallible (Only.bind Only.ask Only.pure Only.throw Only.attempt)

/-- The kinds of questions. -/
inductive QueryKind
  | caller
  | policy
  | control
  | rate
  | guardrail
  | model
  | breaker
  | cache
  | debug
  | client
  | pull
  | reply
  | telemetry
  deriving DecidableEq

/-- The kind of a question. -/
def Query.kind : Query → QueryKind
  | .verifyToken _ => .caller
  | .resolvePrincipal _ => .caller
  | .snapshotLookup _ => .policy
  | .storeGet _ => .policy
  | .snapshotWriteBack _ _ => .policy
  | .storeSetState _ _ => .control
  | .snapshotInvalidate _ => .control
  | .clock => .rate
  | .bucketTake _ _ _ => .rate
  | .checkInput _ _ => .guardrail
  | .checkOutput _ _ => .guardrail
  | .converse _ _ _ _ => .model
  | .converseStream _ _ _ _ => .model
  | .startStream => .pull
  | .closeChunks => .client
  | .breakerAllow _ => .breaker
  | .recordSuccess _ => .breaker
  | .recordFailure _ => .breaker
  | .cacheGet _ => .cache
  | .cacheSet _ _ => .cache
  | .debugCapture _ _ _ _ => .debug
  | .requestJson => .client
  | .isDisconnected => .client
  | .sendStart _ _ => .reply
  | .sendBody _ => .client
  | .perfCounter => .telemetry
  | .newUuid => .telemetry
  | .setSpanAttributes _ => .telemetry
  | .log _ => .telemetry

/-- The question is of one of these kinds. -/
def Query.among (kinds : List QueryKind) (q : Query) : Prop := q.kind ∈ kinds

theorem Query.among_kind (q : Query) : q.among [q.kind] := by simp [Query.among]

theorem single_among {q : Query} (answer : Answer q) :
    ∀ event ∈ [(⟨q, answer⟩ : Event Answer)], event.query.among [q.kind] := by
  simp [Query.among]

/-- The program asks questions of these kinds only. -/
abbrev Asks (kinds : List QueryKind) {α : Type} (p : Py α) : Prop :=
  Program.Only (Query.among kinds) p.run

theorem Asks.mono {kinds more : List QueryKind} {α : Type} {p : Py α} (h : Asks kinds p)
    (hsub : kinds ⊆ more) : Asks more p :=
  Program.Only.mono h fun _ hq => hsub hq

section Combinators

variable {kinds : List QueryKind} {α β : Type}

theorem asks_ask {q : Query} (hq : q.kind ∈ kinds) : Asks kinds (ask q) := Only.ask hq

theorem asks_settle (outcome : Except Exn α) : Asks kinds (settle outcome) := by
  cases outcome <;> trivial

theorem asks_call {q : Query} {f : Answer q → Py α} (hq : q.kind ∈ kinds)
    (hf : ∀ a, Asks kinds (f a)) : Asks kinds (ask q >>= f) :=
  Only.bind (Only.ask hq) hf

theorem asks_translate {exnOf : Exn → Exn} {body : Py α} (h : Asks kinds body) :
    Asks kinds (translate exnOf body) := by
  refine Only.bind (Only.attempt h) fun outcome => ?_
  cases outcome <;> trivial

end Combinators

/-! ## The pipeline -/

theorem asks_authenticate (app : App) (request : HttpRequest) :
    Asks [.caller] (authenticate app request) := by
  unfold authenticate
  split
  · split
    · refine Only.bind (asks_translate (asks_call (by simp [Query.kind]) asks_settle)) fun _ => ?_
      exact Only.pure _
    · exact Only.throw _
  · split
    · refine asks_translate (Only.bind (asks_call (by simp [Query.kind]) asks_settle) fun _ => ?_)
      exact asks_settle _
    · exact Only.throw _

theorem asks_authorize (identity : Identity) (requiredRole : String) :
    Asks [] (authorize identity requiredRole) :=
  asks_translate (asks_settle _)

theorem asks_snapshotGet (tenantId : String) : Asks [.policy] (snapshotGet tenantId) := by
  refine asks_call (by simp [Query.kind]) fun found => ?_
  cases found with
  | some policy => exact Only.pure _
  | none =>
      refine Only.bind (asks_call (by simp [Query.kind]) asks_settle) fun _ => ?_
      exact asks_call (by simp [Query.kind]) fun _ => Only.pure _

theorem asks_resolvePolicy (app : App) (identity : Identity) :
    Asks [.policy] (resolvePolicy app identity) :=
  asks_translate (asks_snapshotGet _)

theorem asks_enforceKillSwitch (policy : TenantPolicy) : Asks [] (enforceKillSwitch policy) := by
  unfold enforceKillSwitch
  split <;> trivial

theorem asks_rateLimiterAllow (tenantId : String) (rpmLimit : ℤ) :
    Asks [.rate] (rateLimiterAllow tenantId rpmLimit) := by
  unfold rateLimiterAllow
  split
  · exact Only.throw _
  · exact asks_call (by simp [Query.kind]) fun _ => asks_ask (by simp [Query.kind])

theorem asks_enforceRateLimit (policy : TenantPolicy) : Asks [.rate] (enforceRateLimit policy) := by
  refine Only.bind (asks_rateLimiterAllow ..) fun allowed => ?_
  cases allowed <;> trivial

theorem asks_runGuardrail (app : App) (policy : TenantPolicy) {kinds : List QueryKind}
    {check : Py GuardrailDecision} (h : Asks kinds check) :
    Asks kinds (runGuardrail app policy check) := by
  refine asks_translate (Only.bind (Only.attempt h) fun outcome => ?_)
  cases outcome with
  | ok decision => trivial
  | error exn =>
      cases exn with
      | guardrailCheck message =>
          dsimp only
          split <;> trivial
      | _ => trivial

theorem asks_rejectBlock (status : ErrorStatus) (code fallback : String)
    (decision : GuardrailDecision) : Asks [] (rejectBlock status code fallback decision) := by
  unfold rejectBlock
  split <;> trivial

theorem asks_checkInputGuardrail (app : App) (policy : TenantPolicy) (text : String) :
    Asks [.guardrail] (checkInputGuardrail app policy text) :=
  Only.bind (asks_runGuardrail app policy (asks_call (by simp [Query.kind]) asks_settle))
    fun _ => (asks_rejectBlock ..).mono (by simp)

theorem asks_checkOutputGuardrail (app : App) (policy : TenantPolicy) (text : String) :
    Asks [.guardrail] (checkOutputGuardrail app policy text) :=
  Only.bind (asks_runGuardrail app policy (asks_call (by simp [Query.kind]) asks_settle))
    fun _ => (asks_rejectBlock ..).mono (by simp)

/-- The caller of an admin request. -/
theorem asks_adminCaller (app : App) (request : HttpRequest) :
    Asks [.caller] (do
      let identity ← authenticate app request
      let _ ← authorize identity app.settings.adminRequiredRole
      pure identity : Py Identity) :=
  Only.bind (asks_authenticate app request) fun identity =>
    Only.bind ((asks_authorize identity _).mono (by simp)) fun _ => trivial

/-! ## The chat handler's gates and exits -/

theorem asks_gates (app : App) (request : HttpRequest) :
    Asks [.caller, .policy, .rate] (gates app request) := by
  apply Only.bind ((asks_authenticate app request).mono (by simp))
  intro identity
  apply Only.bind ((asks_authorize identity _).mono (by simp))
  intro _
  apply Only.bind ((asks_resolvePolicy app identity).mono (by simp))
  intro policy
  apply Only.bind ((asks_enforceKillSwitch policy).mono (by simp))
  intro _
  exact Only.bind ((asks_enforceRateLimit policy).mono (by simp)) fun _ => trivial

theorem asks_setSpan (attributes : Fields) : Asks [.telemetry] (setSpan attributes) :=
  asks_ask (by simp [Query.kind])

theorem asks_captureDebug (a : Accepted) (outputText : String) :
    Asks [.debug] (captureDebug a outputText) := by
  unfold captureDebug
  split
  · exact asks_ask (by simp [Query.kind])
  · trivial

theorem asks_answerCached (s : Screened) (cached : CachedResponse) :
    Asks [.debug, .telemetry] (answerCached s cached) := by
  refine Only.bind ((asks_captureDebug ..).mono (by simp)) fun _ => ?_
  refine Only.bind ((asks_setSpan _).mono (by simp)) fun _ => ?_
  exact asks_call (by simp [Query.kind]) fun _ => Only.pure _

theorem asks_answerFresh (s : Screened) (routed : RoutedResult) (outputGuardrailMs : ℚ) :
    Asks [.debug, .telemetry] (answerFresh s routed outputGuardrailMs) := by
  refine Only.bind ((asks_captureDebug ..).mono (by simp)) fun _ => ?_
  refine Only.bind ((asks_setSpan _).mono (by simp)) fun _ => ?_
  exact asks_call (by simp [Query.kind]) fun _ => Only.pure _

theorem asks_guardrailRejection (a : Admitted) (modelId : String) (spanModel : Fields)
    (guardrailMs : ℚ) (status : ErrorStatus) (code message : String) :
    Asks [.telemetry]
      (guardrailRejection a modelId spanModel guardrailMs status code message) := by
  refine Only.bind (asks_setSpan _) fun _ => ?_
  exact asks_call (by simp [Query.kind]) fun _ => Only.pure _

theorem asks_upstreamFailure (s : Screened) (start : ℚ) (status : ErrorStatus)
    (code message : String) : Asks [.telemetry] (upstreamFailure s start status code message) := by
  refine Only.bind (asks_setSpan _) fun _ => ?_
  refine asks_call (by simp [Query.kind]) fun _ => ?_
  exact asks_call (by simp [Query.kind]) fun _ => Only.pure _

theorem asks_tryCandidates (routeSetName : Option String) (conversation : Conversation)
    (index : ℕ) (lastError : Option Exn) (candidates : List String) :
    Asks [.breaker, .model]
      (tryCandidates routeSetName conversation index lastError candidates) := by
  induction candidates generalizing index lastError with
  | nil => trivial
  | cons modelId rest ih =>
      refine asks_call (by simp [Query.kind]) fun allowed => ?_
      cases allowed with
      | false => exact ih _ _
      | true =>
          refine asks_call (by simp [Query.kind]) fun answer => ?_
          cases answer with
          | ok result => exact asks_call (by simp [Query.kind]) fun _ => trivial
          | error exn =>
              cases exn with
              | bedrockInvocation message code retryable =>
                  exact asks_call (by simp [Query.kind]) fun _ => ih _ _
              | _ => trivial

theorem asks_spanRejection (attributes : Fields) (response : Response) :
    Asks [.telemetry] (do
      let _ ← setSpan attributes
      pure response : Py Response) :=
  asks_call (by simp [Query.kind]) fun _ => trivial

/-! ## Sending -/

theorem asks_requestIdOf (request : HttpRequest) : Asks [.telemetry] (requestIdOf request) := by
  unfold requestIdOf
  split
  · trivial
  · exact asks_ask (by simp [Query.kind])

theorem asks_accessLog (request : HttpRequest) (requestId : String) (start : ℚ) (statusCode : ℕ) :
    Asks [.telemetry] (accessLog request requestId start statusCode) :=
  asks_call (by simp [Query.kind]) fun _ => asks_ask (by simp [Query.kind])

theorem asks_sendText (text : String) : Asks [.client] (sendText text) :=
  asks_call (by simp [Query.kind]) asks_settle

theorem asks_consumeChunks (raises : Option Exn) (outcome : StreamOutcome)
    (chunks : List StreamChunk) : Asks [.client] (consumeChunks raises outcome chunks) := by
  induction chunks generalizing outcome with
  | nil =>
      unfold consumeChunks
      split <;> trivial
  | cons chunk rest ih =>
      refine Only.bind (asks_call (by simp [Query.kind]) asks_settle) fun disconnected => ?_
      dsimp only
      split
      · trivial
      · split
        · exact ih _
        · exact Only.bind (asks_sendText _) fun _ => ih _

theorem asks_forChunks (source : ChunkSource) : Asks [.pull, .client] (forChunks source) :=
  asks_call (by simp [Query.kind]) fun _ => (asks_consumeChunks ..).mono (by simp)

/-- The questions around a handler other than the one that starts a response and the one
that pulls a stream. -/
abbrev aroundKinds : List QueryKind := [.telemetry, .breaker, .client]

theorem asks_sendText_around (text : String) : Asks aroundKinds (sendText text) :=
  (asks_sendText text).mono (by simp)

theorem asks_reportStreamFailure (ctx : StreamContext) (message : String) :
    Asks aroundKinds (reportStreamFailure ctx message) := by
  refine asks_call (by simp [Query.kind]) fun _ => Only.bind (asks_sendText_around _) fun _ => ?_
  exact Only.bind (asks_sendText_around _) fun _ => asks_ask (by simp [Query.kind])

theorem asks_reportStreamEnd (ctx : StreamContext) (start : ℚ) (outcome : StreamOutcome) :
    Asks aroundKinds (reportStreamEnd ctx start outcome) := by
  refine Only.bind ?_ fun _ => asks_call (by simp [Query.kind]) fun _ => ?_
  · unfold recordStreamEnd
    split
    · trivial
    · exact asks_ask (by simp [Query.kind])
  · exact Only.bind (asks_sendText_around _) fun _ => asks_ask (by simp [Query.kind])

theorem asks_streamChatResponse (ctx : StreamContext) (source : ChunkSource) :
    Asks (.pull :: aroundKinds) (streamChatResponse ctx source) := by
  refine asks_call (by simp [Query.kind]) fun start => ?_
  refine Only.bind (Only.bind (Only.attempt ?_) fun outcome => ?_) fun found => ?_
  · refine Only.bind (Only.attempt ((asks_forChunks source).mono (by simp))) fun outcome => ?_
    cases outcome with
    | ok outcome => trivial
    | error exn =>
        cases exn with
        | bedrockInvocation message code retryable =>
            exact Only.bind ((asks_reportStreamFailure ..).mono (by simp)) fun _ => Only.pure _
        | _ => trivial
  · refine Only.bind (asks_call (by simp [Query.kind]) asks_settle) fun _ => asks_settle _
  · cases found with
    | none => trivial
    | some outcome => exact (asks_reportStreamEnd ..).mono (by simp)

theorem asks_unhandledError (app : App) (request : HttpRequest) (requestId : String) (exn : Exn) :
    Asks aroundKinds (unhandledError app request requestId true exn) := by
  unfold unhandledError
  split
  · trivial
  · exact asks_call (by simp [Query.kind]) fun _ => trivial

/-- Sending a document, and what may come before. -/
abbrev replyKinds : List QueryKind := [.reply, .client, .breaker, .telemetry]

theorem asks_sendJson (headers : List (String × String)) (statusCode : ℕ) (content : Json) :
    Asks replyKinds (sendResponse headers (.json statusCode content)) :=
  Only.bind (asks_call (by simp [Query.kind]) asks_settle) fun _ =>
    asks_call (by simp [Query.kind]) asks_settle

theorem asks_sendResponse (headers : List (String × String)) (response : Response) :
    Asks (.pull :: replyKinds) (sendResponse headers response) := by
  cases response with
  | json statusCode content => exact (asks_sendJson ..).mono (by simp)
  | stream ctx source =>
      refine Only.bind (asks_call (by simp [Query.kind]) asks_settle) fun _ => ?_
      exact Only.bind ((asks_streamChatResponse ctx source).mono (by simp)) fun _ =>
        (asks_sendText "").mono (by simp)

theorem asks_unhandledError_unsent (app : App) (request : HttpRequest) (requestId : String)
    (exn : Exn) : Asks replyKinds (unhandledError app request requestId false exn) := by
  unfold unhandledError
  split
  · trivial
  · exact asks_call (by simp [Query.kind]) fun _ =>
      Only.bind (asks_sendJson ..) fun _ => trivial

end BedrockGateway
