/-
# Noisy neighbours at the breaker

The breaker of a model is shared by all tenants, and every upstream error a call
ends in is recorded with it, whether the model or the request was at fault. In a
run in which one tenant's requests are the only ones that fail, these failures
decide alone when the other tenant is refused.
-/

import BedrockGateway.Api.ChatTrace
import BedrockGateway.Inference.BedrockClient
import BedrockGateway.Routing.BreakerLog

namespace BedrockGateway

open Foundation Py
open Fallible (Along.call Along.bind Along.attempt Along.bind_of_only)

/-! ## Whose fault a recorded failure is -/

/-- The upstream error that an answer raises into a call, at once or while its
chunks are passed on: its code, and whether it is retryable. -/
def upstreamError? (event : Event Answer) : Option (String × Bool) :=
  match event with
  | ⟨.converse _ _ _ _, .error (.bedrockInvocation _ code retryable)⟩ => some (code, retryable)
  | ⟨.converseStream _ _ _ _, .error (.bedrockInvocation _ code retryable)⟩ =>
      some (code, retryable)
  | ⟨.converseStream _ _ _ _, .ok ⟨_, some (.bedrockInvocation _ code retryable)⟩⟩ =>
      some (code, retryable)
  | ⟨.isDisconnected, .error (.bedrockInvocation _ code retryable)⟩ => some (code, retryable)
  | ⟨.sendBody _, .error (.bedrockInvocation _ code retryable)⟩ => some (code, retryable)
  | _ => none

/-- The question is a call of the model. -/
def Query.calls (modelId : String) : Query → Prop
  | .converse other _ _ _ => other = modelId
  | .converseStream other _ _ _ => other = modelId
  | _ => False

/-- A call of the model has failed with this error, by its answer or at an `await`
since. -/
def UpstreamFailed (modelId : String) (error : String × Bool) (history : History) : Prop :=
  ∃ call ∈ history, call.query.calls modelId ∧
    ∃ event ∈ history, (event = call ∨ event.query.awaits = true) ∧
      upstreamError? event = some error

/-- What is owed when an outcome is recorded: a failure is that of a failed call. -/
def Blames (history : History) (event : Event Answer) : Prop :=
  match event.query with
  | .recordFailure modelId => ∃ error, UpstreamFailed modelId error history
  | _ => True

/-- Questions of the other kinds owe nothing. -/
theorem Blames.of_among {kinds : List QueryKind} {q : Query} (hq : q.among kinds)
    (hkinds : .breaker ∉ kinds) (history : History) (answer : Answer q) :
    Blames history ⟨q, answer⟩ := by
  cases q with
  | recordFailure modelId => exact absurd hq hkinds
  | _ => trivial

variable {app : App} {request : HttpRequest} {history : History}

/-- A stage that does not ask the breaker. -/
theorem blames_of_asks {α : Type} (kinds : List QueryKind) {p : Py α} (h : Asks kinds p)
    (hkinds : .breaker ∉ kinds) :
    Program.Along Blames (fun _ _ => True) p.run history :=
  Program.Along.of_only h (fun _ hq => Blames.of_among hq hkinds) fun _ _ _ _ => trivial

/-- One stage, then the rest. -/
theorem blames_then {α β : Type} {x : Py α} {f : α → Py β}
    (h : Program.Along Blames (fun _ _ => True) x.run history)
    (hf : ∀ value history, Program.Along Blames (fun _ _ => True) (f value).run history) :
    Program.Along Blames (fun _ _ => True) (x >>= f).run history := by
  apply Along.bind
  apply h.mono
  intro history outcome _
  cases outcome with
  | ok value => exact hf value history
  | error exn => trivial

/-- A stage that does not ask the breaker, then the rest. -/
theorem blames_bind {α β : Type} {kinds : List QueryKind} {x : Py α} {f : α → Py β}
    (h : Asks kinds x) (hkinds : .breaker ∉ kinds)
    (hf : ∀ value history, Program.Along Blames (fun _ _ => True) (f value).run history) :
    Program.Along Blames (fun _ _ => True) (x >>= f).run history :=
  blames_then (blames_of_asks _ h hkinds) hf

/-- A `try` around a stage that does not ask the breaker. -/
theorem blames_exceptPipeline {α β : Type} {kinds : List QueryKind} {body : Py α}
    {rejected : ErrorStatus → String → String → Py β} {next : α → Py β}
    (hbody : Asks kinds body) (hkinds : .breaker ∉ kinds)
    (hrejected : ∀ status code message, Asks [.telemetry] (rejected status code message))
    (hnext : ∀ value history, Program.Along Blames (fun _ _ => True) (next value).run history) :
    Program.Along Blames (fun _ _ => True) (exceptPipeline body rejected next).run history := by
  apply along_exceptPipeline (fun _ _ => True) (blames_of_asks _ hbody hkinds)
  · intro history value _
    exact hnext value history
  · intro history status code message _
    exact blames_of_asks _ (hrejected status code message) (by simp)
  · intros
    trivial

/-! ## The handler -/

/-- The router records a failure right after the call that failed. -/
theorem tryCandidates_blames {routeSetName : Option String} {conversation : Conversation}
    {candidates : List String} {index : ℕ} {lastError : Option Exn} :
    Program.Along Blames (fun _ _ => True)
      (tryCandidates routeSetName conversation index lastError candidates).run history := by
  induction candidates generalizing index lastError history with
  | nil => trivial
  | cons modelId rest ih =>
      apply Along.call
      intro allowed
      apply And.intro trivial
      cases allowed with
      | false => exact ih
      | true =>
          apply Along.call
          intro answer
          apply And.intro trivial
          cases answer with
          | ok result =>
              apply Along.call
              exact fun _ => ⟨trivial, trivial⟩
          | error exn =>
              cases exn with
              | bedrockInvocation message code retryable =>
                  apply Along.call
                  intro recorded
                  apply And.intro _ ih
                  exact ⟨_, _, List.mem_concat_self, rfl, _, List.mem_concat_self, .inl rfl, rfl⟩
              | _ => trivial

theorem callModels_blames {s : Screened} {cacheKey : String} :
    Program.Along Blames (fun _ _ => True) (callModels app s cacheKey).run history := by
  apply blames_bind (asks_ask (by simp [Query.kind]) : Asks [.telemetry] _) (by simp)
  intro start history
  apply Along.bind (Along.attempt (tryCandidates_blames.mono _))
  intro history outcome _
  have hfailure : ∀ status code message, Program.Along Blames (fun _ _ => True)
      (upstreamFailure s start status code message).run history := fun _ _ _ =>
    blames_of_asks _ (asks_upstreamFailure ..) (by simp)
  cases outcome with
  | ok routed =>
      apply blames_bind (asks_ask (by simp [Query.kind]) : Asks [.telemetry] _) (by simp)
      intro start history
      apply blames_exceptPipeline (asks_checkOutputGuardrail ..) (by simp)
      · intro status code message
        exact asks_call (by simp [Query.kind]) fun _ => asks_guardrailRejection ..
      · intro decision history
        apply blames_of_asks [.telemetry, .cache, .debug] _ (by simp)
        apply asks_call (by simp [Query.kind])
        intro stop
        apply Fallible.Only.bind (asks_call (by simp [Query.kind]) asks_settle)
        exact fun _ => (asks_answerFresh ..).mono (by simp)
  | error exn =>
      cases exn with
      | bedrockInvocation message code retryable => exact hfailure _ _ _
      | allRoutesUnavailable routeSetName => exact hfailure _ _ _
      | _ => trivial

theorem openStream_blames {s : Screened} :
    Program.Along Blames (fun _ _ => True) (openStream s).run history := by
  apply Along.call
  intro allowed
  apply And.intro trivial
  apply blames_of_asks [.model, .telemetry] _ (by simp)
  cases allowed with
  | false => exact asks_call (by simp [Query.kind]) fun _ => trivial
  | true =>
      apply Fallible.Only.bind (asks_call (by simp [Query.kind]) asks_settle)
      exact fun source => asks_call (by simp [Query.kind]) fun _ => trivial

theorem answerFromCache_blames {s : Screened} :
    Program.Along Blames (fun _ _ => True) (answerFromCache app s).run history := by
  apply blames_bind (asks_ask (by simp [Query.kind]) : Asks [.cache] _) (by simp)
  intro found history
  cases found with
  | some cached => exact blames_of_asks _ (asks_answerCached ..) (by simp)
  | none => exact callModels_blames

theorem screenInput_blames {a : Accepted} :
    Program.Along Blames (fun _ _ => True) (screenInput app a).run history := by
  apply blames_bind (asks_setSpan _) (by simp)
  intro _ history
  apply blames_bind (asks_ask (by simp [Query.kind]) : Asks [.telemetry] _) (by simp)
  intro start history
  apply blames_exceptPipeline (asks_checkInputGuardrail ..) (by simp)
  · intro status code message
    exact asks_call (by simp [Query.kind]) fun _ => asks_guardrailRejection ..
  · intro decision history
    apply blames_bind (asks_ask (by simp [Query.kind]) : Asks [.telemetry] _) (by simp)
    intro stop history
    dsimp only
    split
    · exact openStream_blames
    · exact answerFromCache_blames

theorem readBody_blames {a : Admitted} :
    Program.Along Blames (fun _ _ => True) (readBody app a).run history := by
  apply blames_bind (asks_ask (by simp [Query.kind]) : Asks [.client] _) (by simp)
  intro answer history
  cases answer with
  | error exn =>
      cases exn with
      | cancelled => trivial
      | _ => exact blames_of_asks _ (asks_spanRejection ..) (by simp)
  | ok body =>
      dsimp only
      split
      · exact blames_of_asks _ (asks_spanRejection ..) (by simp)
      · apply blames_exceptPipeline (asks_settle _ : Asks [] _) (by simp)
        · exact fun _ _ _ => asks_spanRejection ..
        · exact fun _ _ => screenInput_blames

/-- The handler records only what failed. -/
theorem chat_blames {requestId : String} :
    Program.Along Blames (fun _ _ => True) (chat app request requestId).run history := by
  apply blames_bind (asks_setSpan _) (by simp)
  intro _ history
  apply blames_exceptPipeline (asks_gates app request) (by simp)
  · exact fun _ _ _ => asks_spanRejection ..
  · intro admitted history
    apply blames_bind (asks_setSpan _) (by simp)
    exact fun _ _ => readBody_blames

/-! ## The stream -/

/-- The stream was opened by a call of its model. -/
def StreamOpened (ctx : StreamContext) (source : ChunkSource) (history : History) : Prop :=
  ∃ messages maxTokens temperature,
    ⟨.converseStream ctx.modelId messages maxTokens temperature, .ok source⟩ ∈ history

theorem StreamOpened.append {ctx : StreamContext} {source : ChunkSource}
    (h : StreamOpened ctx source history) (more : History) :
    StreamOpened ctx source (history ++ more) := by
  obtain ⟨messages, maxTokens, temperature, hmem⟩ := h
  exact ⟨messages, maxTokens, temperature, List.mem_append_left _ hmem⟩

/-- An exception out of the chunk loop comes from the source or from an `await`. -/
def ChunksReturn (raises : Option Exn) (history : History) :
    Except Exn StreamOutcome → Prop
  | .ok _ => True
  | .error exn => raises = some exn ∨ ∃ event ∈ history, event.query.awaits = true ∧
      ∀ message code retryable, exn = .bedrockInvocation message code retryable →
        upstreamError? event = some (code, retryable)

theorem consumeChunks_blames {raises : Option Exn} {outcome : StreamOutcome}
    {chunks : List StreamChunk} :
    Program.Along Blames (ChunksReturn raises)
      (consumeChunks raises outcome chunks).run history := by
  induction chunks generalizing outcome history with
  | nil =>
      unfold consumeChunks
      cases raises with
      | none => trivial
      | some exn => exact .inl rfl
  | cons chunk rest ih =>
      apply Along.bind
      apply Along.call
      intro answer
      apply And.intro trivial
      cases answer with
      | error exn =>
          refine .inr ⟨_, List.mem_concat_self, rfl, ?_⟩
          rintro message code retryable rfl
          rfl
      | ok disconnected =>
          change Program.Along Blames (ChunksReturn raises) (ExceptT.run (ite _ _ _)) _
          split
          · trivial
          · dsimp only
            by_cases hempty : chunk.textDelta = ""
            · rw [if_pos hempty]
              exact ih
            · rw [if_neg hempty]
              apply Along.bind
              apply Along.call
              intro sent
              apply And.intro trivial
              cases sent with
              | error exn =>
                  refine .inr ⟨_, List.mem_concat_self, rfl, ?_⟩
                  rintro message code retryable rfl
                  rfl
              | ok _ => exact ih

theorem forChunks_blames {source : ChunkSource} :
    Program.Along Blames (ChunksReturn source.raises) (forChunks source).run history :=
  Along.call fun _ => ⟨trivial, consumeChunks_blames⟩

/-- A stream that ends in an upstream error is recorded as a failure of its model. -/
theorem consumeOrReport_blames {ctx : StreamContext} {source : ChunkSource}
    (h : StreamOpened ctx source history) :
    Program.Along Blames (fun _ _ => True) (consumeOrReport ctx source).run history := by
  apply Along.bind
  apply Along.attempt
  apply forChunks_blames.traced.mono
  rintro history' result ⟨hreturn, trace, rfl, _⟩
  cases result with
  | ok outcome => trivial
  | error exn =>
      cases exn with
      | bedrockInvocation message code retryable =>
          have hfailed : UpstreamFailed ctx.modelId (code, retryable) (history ++ trace) := by
            obtain ⟨messages, maxTokens, temperature, hmem⟩ := h.append trace
            refine ⟨_, hmem, rfl, ?_⟩
            rcases hreturn with hraises | ⟨event, hevent, hawaits, herror⟩
            · obtain ⟨chunks, raises⟩ := source
              obtain rfl : raises = _ := hraises
              exact ⟨_, hmem, .inl rfl, rfl⟩
            · exact ⟨event, hevent, .inr hawaits, herror _ _ _ rfl⟩
          apply blames_then
          · apply Along.call
            intro recorded
            apply And.intro ⟨_, hfailed⟩
            apply blames_of_asks [.client, .telemetry] _ (by simp)
            apply Fallible.Only.bind ((asks_sendText _).mono (by simp))
            intro _
            apply Fallible.Only.bind ((asks_sendText _).mono (by simp))
            exact fun _ => asks_ask (by simp [Query.kind])
          · intros
            trivial
      | _ => trivial

theorem reportStreamEnd_blames {ctx : StreamContext} {start : ℚ} {outcome : StreamOutcome} :
    Program.Along Blames (fun _ _ => True) (reportStreamEnd ctx start outcome).run history := by
  apply blames_then
  · unfold recordStreamEnd
    split
    · trivial
    · exact fun recorded => ⟨trivial, trivial⟩
  · intro _ history
    apply blames_of_asks [.telemetry, .client] _ (by simp)
    apply asks_call (by simp [Query.kind])
    intro stop
    apply Fallible.Only.bind ((asks_sendText _).mono (by simp))
    exact fun _ => asks_ask (by simp [Query.kind])

theorem streamChatResponse_blames {ctx : StreamContext} {source : ChunkSource}
    (h : StreamOpened ctx source history) :
    Program.Along Blames (fun _ _ => True) (streamChatResponse ctx source).run history := by
  apply Along.call
  intro start
  apply And.intro trivial
  apply blames_then
  · apply blames_then
    · exact Along.attempt ((consumeOrReport_blames (h.append _)).mono fun _ _ _ => trivial)
    · intro outcome history
      apply blames_of_asks [.client] _ (by simp)
      apply Fallible.Only.bind (asks_call (by simp [Query.kind]) asks_settle)
      exact fun _ => asks_settle _
  · intro found history
    cases found with
    | none => trivial
    | some outcome => exact reportStreamEnd_blames

/-! ## A request -/

theorem sendResponse_blames {headers : List (String × String)} {response : Response}
    (h : ∀ ctx source, response = .stream ctx source → StreamOpened ctx source history) :
    Program.Along Blames (fun _ _ => True) (sendResponse headers response).run history := by
  apply Along.bind
  apply Along.call
  intro answer
  apply And.intro trivial
  cases answer with
  | error exn => trivial
  | ok sent =>
      cases response with
      | json statusCode content =>
          exact blames_of_asks [.client]
            (asks_call (by simp [Query.kind]) asks_settle) (by simp)
      | stream ctx source =>
          apply blames_then (streamChatResponse_blames ((h ctx source rfl).append _))
          exact fun _ _ => blames_of_asks _ (asks_sendText "") (by simp)

theorem unhandledError_blames {requestId : String} {responseStarted : Bool} {exn : Exn} :
    Program.Along Blames (fun _ _ => True)
      (unhandledError app request requestId responseStarted exn).run history := by
  unfold unhandledError
  split
  · trivial
  · apply blames_bind (asks_ask (by simp [Query.kind]) : Asks [.telemetry] _) (by simp)
    intro _ history
    apply blames_then
    · unfold sendUnlessStarted
      split
      · trivial
      · exact sendResponse_blames fun ctx source heq => by cases heq
    · intros
      trivial

/-- A streaming response was opened by the handler that returns it. -/
theorem chat_opens {requestId : String} (hearly : Early history) :
    Program.Along Blames (fun history outcome => ∀ ctx source,
        outcome = .ok (.stream ctx source) → StreamOpened ctx source history)
      (chat app request requestId).run history := by
  apply chat_blames.traced.mono
  rintro history' outcome ⟨-, trace, rfl, hexec⟩ ctx source rfl
  have hreturns : ChatReturns app request (history ++ trace) (.ok (.stream ctx source)) :=
    (chat_along hearly).exec hexec
  rcases hreturns.1 rfl with ⟨a, opened, _, _, hmem, heq⟩ | ⟨_, _, _, _, _, heq⟩ |
    ⟨_, _, _, _, heq⟩
  · cases heq
    exact ⟨_, _, _, hmem⟩
  · cases heq
  · cases heq

/-- **A request records only what failed.** -/
theorem chat_job_blames :
    Program.Along Blames (fun _ _ => True) ((Job.chat request).run app).run [] := by
  apply Along.bind_of_only (asks_requestIdOf request) (fun _ hq => Blames.of_among hq (by simp)) _
    fun _ _ _ _ => trivial
  intro idTrace requestId _ hkinds
  apply Along.call
  intro start
  apply And.intro trivial
  have hearly : Early ([] ++ idTrace ++ [⟨.perfCounter, start⟩]) := by
    apply Early.append
    · exact Early.of_among hkinds (by simp)
    · simp [Early, Query.among, Query.kind]
  apply Along.bind
  apply Along.attempt
  apply (chat_opens hearly).mono
  intro history outcome hopened
  cases outcome with
  | error exn =>
      apply blames_bind (asks_accessLog ..) (by simp)
      exact fun _ _ => unhandledError_blames
  | ok response =>
      apply Along.bind_of_only (asks_accessLog ..) (fun _ hq => Blames.of_among hq (by simp)) _
        fun _ _ _ _ => trivial
      intro logTrace _ _ _
      apply blames_then
      · apply Along.attempt
        apply (sendResponse_blames _).mono
        · exact fun _ _ _ => trivial
        · rintro ctx source rfl
          exact (hopened ctx source rfl).append _
      · intro sent history
        cases sent with
        | error exn => exact unhandledError_blames
        | ok _ => trivial

/-! ## Runs of two tenants -/

/-- The tenant that a thread works for: the one whose policy it looks up. -/
def tenantOf (tid : ℕ) (log : ProcessLog) : Option String :=
  (traceOf tid log).findSome? fun event =>
    match event.query with
    | .snapshotLookup tenantId => some tenantId
    | _ => none

/-- The entry starts a request other than `POST /v1/chat`. -/
def startsAdmin (entry : Entry Answer GatewayState Job (Except Exn Unit)) : Bool :=
  match entry.action with
  | .start (.setTenantState _ _) => true
  | _ => false

/-- The upstream error that an entry raises into a call. -/
def upstreamErrorOf (entry : Entry Answer GatewayState Job (Except Exn Unit)) :
    Option (String × Bool) :=
  entry.action.event?.bind upstreamError?

/-- The run consists of chat requests of two tenants. -/
structure Neighbours (tenantId neighbour : String) (log : ProcessLog) : Prop where
  chats : ∀ entry ∈ log, startsAdmin entry = false
  tenants : ∀ entry ∈ log, ∀ found ∈ tenantOf entry.tid log, found = tenantId ∨ found = neighbour

/-- The upstream errors raised into a tenant's calls. -/
def UpstreamErrors (tenantId : String) (log : ProcessLog) (P : String × Bool → Prop) : Prop :=
  ∀ entry ∈ log, tenantOf entry.tid log = some tenantId → ∀ error ∈ upstreamErrorOf entry, P error

/-- An error that the request caused: not to be retried, and of no transient kind. -/
def RequestCaused (error : String × Bool) : Prop :=
  error.2 = false ∧ error.1 ∉ retryableErrorCodes

/-- The breaker lets every call for the tenant through. -/
def NeverRefused (tenantId : String) (log : ProcessLog) : Prop :=
  ∀ entry ∈ log, tenantOf entry.tid log = some tenantId →
    ∀ modelId, asks modelId entry = true → admits modelId entry = true

/-- Every recorded failure is that of a call made for the tenant, and of its request. -/
def FailuresOf (tenantId : String) (log : ProcessLog) : Prop :=
  ∀ past entry future modelId, log = past ++ entry :: future → fails modelId entry = true →
    tenantOf entry.tid log = some tenantId ∧
      ∃ error, RequestCaused error ∧ UpstreamFailed modelId error (traceOf entry.tid past)

/-- Whenever the tenant asks for a model, fewer failures than open a breaker have been
recorded since the model's last success, or the last of them is as old as the
timeout. -/
def ShortStreaks (cfg : BreakerConfig) (tenantId : String) (log : ProcessLog) : Prop :=
  ∀ past entry future modelId, log = past ++ entry :: future →
    tenantOf entry.tid log = some tenantId → asks modelId entry = true →
    failuresSinceSuccess modelId (breakerOps past) < cfg.opensAt ∨
      ∀ failure, lastFailure modelId (breakerOps past) = some failure →
        cfg.resetTimeoutS ≤ entry.before.now - failure.time

section Runs

variable {c : Process} {now : ℚ} {policies : PolicyStore} {tenantId neighbour : String}

theorem action_of_asks {modelId : String}
    {entry : Entry Answer GatewayState Job (Except Exn Unit)} (h : asks modelId entry = true) :
    entry.action = .did ⟨.breakerAllow modelId, admits modelId entry⟩ := by
  unfold asks at h
  split at h
  case h_1 other allowed haction =>
    obtain rfl : other = modelId := by simpa using h
    simp [admits, haction]
  case h_2 => cases h

/-- **When a tenant is refused.** -/
theorem neverRefused_iff (h : (eventLoop app).Reachable (.fresh now policies) c) :
    NeverRefused tenantId c.log ↔ ShortStreaks app.settings.circuitBreaker tenantId c.log := by
  have hrefused : ∀ past entry future modelId, c.log = past ++ entry :: future →
      asks modelId entry = true → (admits modelId entry = false ↔
        app.settings.circuitBreaker.opensAt ≤ failuresSinceSuccess modelId (breakerOps past) ∧
          ∃ failure, lastFailure modelId (breakerOps past) = some failure ∧
            entry.before.now - failure.time < app.settings.circuitBreaker.resetTimeoutS) :=
    fun past entry future modelId hlog hasks =>
      (eventLoop_overGateway app).refused_iff h.replay rfl hlog (action_of_asks hasks)
  constructor
  · intro hnever past entry future modelId hlog htenant hasks
    have hadmits := hnever entry (by simp [hlog]) htenant modelId hasks
    by_contra hlong
    rw [not_or, not_lt] at hlong
    obtain ⟨hcount, hrecent⟩ := hlong
    push Not at hrecent
    have hno := (hrefused past entry future modelId hlog hasks).mpr ⟨hcount, hrecent⟩
    simp [hadmits] at hno
  · intro hshort entry hmem htenant modelId hasks
    obtain ⟨past, future, hlog⟩ := List.append_of_mem hmem
    by_contra hadmits
    rw [Bool.not_eq_true] at hadmits
    obtain ⟨hcount, failure, hlast, hrecent⟩ :=
      (hrefused past entry future modelId hlog hasks).mp hadmits
    rcases hshort past entry future modelId hlog htenant hasks with hfew | hold
    · exact absurd hcount (not_le.mpr hfew)
    · exact absurd hrecent (not_lt.mpr (hold failure hlast))

theorem action_of_fails {modelId : String}
    {entry : Entry Answer GatewayState Job (Except Exn Unit)} (h : fails modelId entry = true) :
    entry.action = .did ⟨.recordFailure modelId, ()⟩ := by
  unfold fails at h
  split at h
  case h_1 other recorded haction =>
    obtain rfl : other = modelId := by simpa using h
    exact haction
  case h_2 => cases h

/-- A thread that has looked a policy up has a tenant. -/
theorem tenantOf_of_lookup {tid : ℕ} {log : ProcessLog} {found : Option TenantPolicy}
    (h : ⟨.snapshotLookup tenantId, found⟩ ∈ traceOf tid log) :
    ∃ other, tenantOf tid log = some other := by
  apply Option.isSome_iff_exists.mp
  rw [tenantOf, List.isSome_findSome?]
  exact List.any_eq_true.mpr ⟨_, h, rfl⟩

/-- In a run of chat requests every thread serves one. -/
theorem Neighbours.chat (hrun : Neighbours tenantId neighbour c.log)
    (h : (eventLoop app).Reachable (.fresh now policies) c) {tid : ℕ}
    {thread : Thread Query Answer Job (Except Exn Unit)} (hthread : c.threads tid = some thread) :
    ∃ request, thread.job = .chat request := by
  have hfollows := h.follows tid
  simp only [Machine.Follows, hthread] at hfollows
  obtain ⟨trace, _, hactions⟩ := hfollows
  have hstart : Action.start thread.job ∈ actionsOf tid c.log := by simp [hactions]
  obtain ⟨entry, hmem, haction⟩ := List.mem_map.mp hstart
  have hadmin := hrun.chats entry (List.mem_filter.mp hmem).1
  cases hjob : thread.job with
  | chat request => exact ⟨request, rfl⟩
  | setTenantState request target =>
      rw [hjob] at haction
      simp [startsAdmin, haction] at hadmin

/-- A model is called for a tenant. -/
theorem tenantOf_of_calls (h : (eventLoop app).Reachable (.fresh now policies) c)
    {request : HttpRequest} {thread : Thread Query Answer Job (Except Exn Unit)} {tid : ℕ}
    (hthread : c.threads tid = some thread) (hjob : thread.job = .chat request)
    {modelId : String} {call : Event Answer} (hcall : call ∈ traceOf tid c.log)
    (hcalls : call.query.calls modelId) : ∃ other, tenantOf tid c.log = some other := by
  obtain ⟨entry, hentry, rfl, haction⟩ := mem_traceOf_iff.mp hcall
  obtain ⟨past, future, hlog⟩ := List.append_of_mem hentry
  have howes := chat_meets h hlog haction hthread hjob
  have hscreens : ∃ a, Screens app request (traceOf entry.tid past) a := by
    obtain ⟨query, answer⟩ := call
    cases query with
    | converse other messages maxTokens temperature =>
        obtain ⟨a, hs, _⟩ := howes
        exact ⟨a, hs⟩
    | converseStream other messages maxTokens temperature =>
        obtain ⟨a, hs, _⟩ := howes
        exact ⟨a, hs⟩
    | _ => exact absurd hcalls id
  obtain ⟨a, hs⟩ := hscreens
  obtain ⟨trace, hwithin, hexec⟩ := hs.resolved
  have hlookup : ∃ found, ⟨.snapshotLookup a.identity.tenantId, found⟩ ∈ trace := by
    rcases resolvePolicy_ok hexec with rfl | rfl
    · exact ⟨_, List.mem_cons_self⟩
    · exact ⟨_, List.mem_cons_self⟩
  obtain ⟨found, hfound⟩ := hlookup
  have hmem : ⟨.snapshotLookup a.identity.tenantId, found⟩ ∈ traceOf entry.tid c.log := by
    rw [hlog, traceOf_append]
    exact List.mem_append_left _ (hwithin.mem hfound)
  exact tenantOf_of_lookup hmem

/-- **Whose failures are recorded.** -/
theorem failuresOf_of_neighbours (h : (eventLoop app).Reachable (.fresh now policies) c)
    (hrun : Neighbours tenantId neighbour c.log)
    (hcaused : UpstreamErrors tenantId c.log RequestCaused)
    (hnone : UpstreamErrors neighbour c.log fun _ => False) : FailuresOf tenantId c.log := by
  intro past entry future modelId hlog hfails
  have haction := action_of_fails hfails
  obtain ⟨thread, hthread⟩ := h.thread_of_mem (show entry ∈ c.log by simp [hlog])
  obtain ⟨request, hjob⟩ := hrun.chat h hthread
  have halong : Program.Along Blames (fun _ _ => True) ((eventLoop app).program thread.job) [] := by
    rw [hjob]
    exact chat_job_blames
  obtain ⟨error, call, hcall, hcalls, event, hevent, hwhen, herror⟩ :
      ∃ error, UpstreamFailed modelId error (traceOf entry.tid past) :=
    h.meets hlog haction hthread halong
  have hsub : traceOf entry.tid past ⊆ traceOf entry.tid c.log := by
    rw [hlog, traceOf_append]
    exact List.subset_append_left _ _
  obtain ⟨other, htenant⟩ := tenantOf_of_calls h hthread hjob (hsub hcall) hcalls
  obtain ⟨failed, hfailed, htid, hraised⟩ := mem_traceOf_iff.mp (hsub hevent)
  have hupstream : error ∈ upstreamErrorOf failed := by
    simp [upstreamErrorOf, hraised, Action.event?, herror]
  rcases hrun.tenants entry (by simp [hlog]) other htenant with rfl | rfl
  · have hcause := hcaused failed hfailed (htid ▸ htenant) error hupstream
    exact ⟨htenant, error, hcause, call, hcall, hcalls, event, hevent, hwhen, herror⟩
  · exact absurd (hnone failed hfailed (htid ▸ htenant) error hupstream) id

/-- **Noisy neighbours.** In a run of two tenants in which only the first one's
requests fail, and are themselves to blame, all recorded failures are theirs; the
second tenant is never refused if and only if their streaks are short. -/
theorem neighbour_neverRefused_iff (h : (eventLoop app).Reachable (.fresh now policies) c)
    (hrun : Neighbours tenantId neighbour c.log)
    (hcaused : UpstreamErrors tenantId c.log RequestCaused)
    (hnone : UpstreamErrors neighbour c.log fun _ => False) :
    FailuresOf tenantId c.log ∧
      (NeverRefused neighbour c.log ↔
        ShortStreaks app.settings.circuitBreaker neighbour c.log) :=
  ⟨failuresOf_of_neighbours h hrun hcaused hnone, neverRefused_iff h⟩

end Runs

/-! ## A run in which the neighbour is refused -/

/-- A store with two active tenants. -/
def twoTenants : PolicyStore :=
  Dict.set (Dict.set Dict.empty "t" { tenantId := "t" }) "u" { tenantId := "u" }

/-- A request that the model does not accept. -/
def badRequest : (q : Query) → Answer q :=
  tenantWorld "t" (.error (.bedrockInvocation "malformed input" "ValidationException" false))

/-- The neighbour's request. -/
def goodRequest : (q : Query) → Answer q :=
  tenantWorld "u" (servingWorld helloBody (.converse "" [] 0 zeroFloat))

/-- A tenant sends five requests that the model does not accept; then its neighbour
sends one. -/
def noisyNeighbour : Process :=
  (eventLoopDriver App.plain).play (Machine.initial (.fresh 0 twoTenants)) [
    { tid := 0, job := some (.chat operatorRequest), oracle := badRequest },
    { tid := 0, oracle := badRequest },
    { tid := 1, job := some (.chat operatorRequest), oracle := badRequest },
    { tid := 1, oracle := badRequest },
    { tid := 2, job := some (.chat operatorRequest), oracle := badRequest },
    { tid := 2, oracle := badRequest },
    { tid := 3, job := some (.chat operatorRequest), oracle := badRequest },
    { tid := 3, oracle := badRequest },
    { tid := 4, job := some (.chat operatorRequest), oracle := badRequest },
    { tid := 4, oracle := badRequest },
    { tid := 5, job := some (.chat operatorRequest), oracle := goodRequest },
    { tid := 5, oracle := goodRequest },
    { tid := 5, oracle := goodRequest }]

theorem noisyNeighbour_neighbours : Neighbours "t" "u" noisyNeighbour.log :=
  ⟨by decide +kernel, by decide +kernel⟩

/-- All that fails are the tenant's malformed requests. -/
theorem noisyNeighbour_errors :
    UpstreamErrors "t" noisyNeighbour.log RequestCaused ∧
      UpstreamErrors "u" noisyNeighbour.log fun _ => False := by
  unfold UpstreamErrors RequestCaused
  decide +kernel

/-- The neighbour's model has been taken away. -/
theorem noisyNeighbour_refused : ∃ entry ∈ noisyNeighbour.log,
    tenantOf entry.tid noisyNeighbour.log = some "u" ∧
      asks App.plain.settings.bedrockModelId entry = true ∧
      admits App.plain.settings.bedrockModelId entry = false := by
  decide +kernel

/-- A tenant's malformed requests take a model away from its neighbour, who is
answered 503. -/
theorem neighbour_is_refused : ∃ c,
    (eventLoop App.plain).Reachable (.fresh 0 twoTenants) c ∧ Neighbours "t" "u" c.log ∧
      UpstreamErrors "t" c.log RequestCaused ∧ UpstreamErrors "u" c.log (fun _ => False) ∧
      c.log.filterMap statusOf = [503] ∧ ¬ NeverRefused "u" c.log := by
  refine ⟨noisyNeighbour, Driver.play_reachable .., noisyNeighbour_neighbours,
    noisyNeighbour_errors.1, noisyNeighbour_errors.2, by decide +kernel, fun hnever => ?_⟩
  obtain ⟨entry, hmem, htenant, hasks, hrefused⟩ := noisyNeighbour_refused
  have hadmits := hnever entry hmem htenant _ hasks
  simp [hrefused] at hadmits

/-- In that run the failures are the tenant's, and its streak is too long. -/
theorem neighbour_neverRefused_iff_noisyNeighbour :
    Neighbours "t" "u" noisyNeighbour.log ∧ FailuresOf "t" noisyNeighbour.log ∧
      (NeverRefused "u" noisyNeighbour.log ↔
        ShortStreaks App.plain.settings.circuitBreaker "u" noisyNeighbour.log) :=
  ⟨noisyNeighbour_neighbours, neighbour_neverRefused_iff
    (Driver.play_reachable _ (GatewayState.fresh 0 twoTenants) _) noisyNeighbour_neighbours
    noisyNeighbour_errors.1 noisyNeighbour_errors.2⟩

end BedrockGateway
