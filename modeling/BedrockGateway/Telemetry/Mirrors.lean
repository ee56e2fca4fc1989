/-
# The handler beside itself

Two copies of the chat handler that are given alike answers ask alike questions:
each stage is in lockstep with itself, on requests that agree on everything but
their messages, and the responses they end with differ in texts only. A stage
that no text enters needs no argument but its footprint.
-/

import BedrockGateway.Api.Handling
import BedrockGateway.Telemetry.Alike

namespace BedrockGateway

open Foundation Py
open Fallible (InStep Both)

variable {app : App} {classes : CharClasses}

/-- Two programs that ask alike questions and go on alike under alike answers. -/
abbrev Mirrors (app : App) (classes : CharClasses) {α β : Type} (post : α → β → Prop)
    (x : Py α) (x' : Py β) : Prop :=
  InStep Query.Alike (AnswersAlike app classes) post x x'

section Combinators

variable {α α' β β' : Type}

/-- The kinds of questions that no text is in, and none in their answers. -/
abbrev textlessKinds : List QueryKind := [.caller, .policy, .rate, .breaker, .telemetry]

/-- Alike answers to a question without texts are equal. -/
theorem eq_of_answersAlike {q : Query} (hq : q.kind ∈ textlessKinds) {a a' : Answer q}
    (h : AnswersAlike app classes ⟨q, a⟩ ⟨q, a'⟩) : a = a' := by
  cases q <;> first | exact eq_of_heq h | simp [Query.kind] at hq

/-- A program without texts mirrors itself. -/
theorem mirrors_textless {x : Py α} {post : α → α → Prop} {kinds : List QueryKind}
    (hx : Asks kinds x) (hkinds : kinds ⊆ textlessKinds) (hpost : ∀ value, post value value) :
    Mirrors app classes post x x := by
  have hself : Mirrors app classes Eq x x := by
    apply InStep.of_only hx
    intro q hq
    exact ⟨Query.Alike.refl q, fun a a' h => eq_of_answersAlike (hkinds hq) h⟩
  refine Program.Lockstep.mono hself fun outcome outcome' hboth => ?_
  cases outcome with
  | ok value =>
      cases outcome' with
      | ok value' =>
          obtain rfl : value = value' := hboth
          exact hpost value
      | error exn => exact hboth.elim
  | error exn =>
      cases outcome' with
      | ok value' => exact hboth.elim
      | error exn' => exact hboth

/-- A question without texts, then the rest. -/
theorem mirrors_call {q : Query} {post : β → β' → Prop} {f : Answer q → Py β}
    {f' : Answer q → Py β'} (hq : q.kind ∈ textlessKinds)
    (hf : ∀ a, Mirrors app classes post (f a) (f' a)) :
    Mirrors app classes post (ask q >>= f) (ask q >>= f') := by
  apply InStep.call (Query.Alike.refl q)
  intro a a' h
  rw [eq_of_answersAlike hq h]
  exact hf a'

theorem mirrors_settle {post : α → α' → Prop} {given : Except Exn α} {given' : Except Exn α'}
    (h : Both post given given') : Mirrors app classes post (settle given) (settle given') := by
  cases given with
  | ok value =>
      cases given' with
      | ok value' => exact h
      | error exn' => exact h.elim
  | error exn =>
      cases given' with
      | ok value' => exact h.elim
      | error exn' => exact h

/-- Two awaited questions with the same outcome, then the rest. -/
theorem mirrors_settled (q q' : Query) {given : Answer q → Except Exn α}
    {given' : Answer q' → Except Exn α} (hasked : q.Alike q')
    (htold : ∀ a a', AnswersAlike app classes ⟨q, a⟩ ⟨q', a'⟩ → given a = given' a') :
    Mirrors app classes Eq (ask q >>= fun a => settle (given a))
      (ask q' >>= fun a => settle (given' a)) := by
  apply InStep.call hasked
  intro a a' h
  rw [htold a a' h]
  exact mirrors_settle (Both.refl (fun _ => rfl) _)

/-- `try: body except ...: raise ...` -/
theorem mirrors_translate {exnOf : Exn → Exn} {body body' : Py α}
    (h : Mirrors app classes Eq body body') :
    Mirrors app classes Eq (translate exnOf body) (translate exnOf body') := by
  apply InStep.bind (InStep.attempt h)
  intro outcome outcome' hboth
  cases outcome with
  | ok value =>
      cases outcome' with
      | ok value' => exact hboth
      | error exn' => exact hboth.elim
  | error exn =>
      cases outcome' with
      | ok value' => exact hboth.elim
      | error exn' =>
          obtain rfl : exn = exn' := hboth
          exact InStep.throw _

/-- `try: body except pipeline.PipelineError`, then the rest. -/
theorem mirrors_exceptPipeline {mid : α → α' → Prop} {post : β → β' → Prop} {body : Py α}
    {body' : Py α'} {rejected : ErrorStatus → String → String → Py β}
    {rejected' : ErrorStatus → String → String → Py β'} {next : α → Py β} {next' : α' → Py β'}
    (hbody : Mirrors app classes mid body body')
    (hrejected : ∀ status code message,
      Mirrors app classes post (rejected status code message) (rejected' status code message))
    (hnext : ∀ value value', mid value value' →
      Mirrors app classes post (next value) (next' value')) :
    Mirrors app classes post (exceptPipeline body rejected next)
      (exceptPipeline body' rejected' next') := by
  apply InStep.bind (InStep.attempt hbody)
  intro outcome outcome' hboth
  cases outcome with
  | ok value =>
      cases outcome' with
      | ok value' => exact hnext value value' hboth
      | error exn' => exact hboth.elim
  | error exn =>
      cases outcome' with
      | ok value' => exact hboth.elim
      | error exn' =>
          obtain rfl : exn = exn' := hboth
          cases exn with
          | pipeline status code message => exact hrejected status code message
          | _ => exact InStep.throw _

/-- Two outcomes that agree once their values are masked. -/
theorem both_of_map_eq {γ : Type} {mask : α → γ} {given given' : Except Exn α}
    (h : given.map mask = given'.map mask) :
    Both (fun value value' => mask value = mask value') given given' := by
  cases given with
  | ok value =>
      cases given' with
      | ok value' => exact Except.ok.inj h
      | error exn' => cases h
  | error exn =>
      cases given' with
      | ok value' => cases h
      | error exn' => exact Except.error.inj h

end Combinators

/-! ## The guardrails -/

theorem mirrors_guardrail {policy : TenantPolicy} {status : ErrorStatus} {code fallback : String}
    {check check' : Py GuardrailDecision} (h : Mirrors app classes Eq check check') :
    Mirrors app classes Eq (runGuardrail app policy check >>= rejectBlock status code fallback)
      (runGuardrail app policy check' >>= rejectBlock status code fallback) := by
  have hrun : Mirrors app classes Eq (runGuardrail app policy check)
      (runGuardrail app policy check') := by
    apply mirrors_translate
    apply InStep.bind (InStep.attempt h)
    intro outcome outcome' hboth
    have hsame : outcome = outcome' := by
      cases outcome <;> cases outcome' <;> first | exact hboth.elim | exact congrArg _ hboth
    subst hsame
    cases outcome with
    | ok decision => exact InStep.pure rfl
    | error exn =>
        cases exn with
        | guardrailCheck message =>
            dsimp only
            split
            · exact InStep.pure rfl
            · exact InStep.throw _
        | _ => exact InStep.throw _
  apply InStep.bind hrun
  intro decision decision' hsame
  subst hsame
  exact mirrors_textless (asks_rejectBlock status code fallback decision) (by simp) fun _ => rfl

/-- The same decision about two texts ends the check of the input in the same way. -/
theorem mirrors_checkInputGuardrail (policy : TenantPolicy) (text text' : String) :
    Mirrors app classes Eq (checkInputGuardrail app policy text)
      (checkInputGuardrail app policy text') := by
  apply mirrors_guardrail
  apply mirrors_settled (.checkInput text policy.guardrailPolicy)
    (.checkInput text' policy.guardrailPolicy) rfl
  rintro _ _ ⟨rfl, rfl, hsame⟩
  rw [hsame]

/-- The same decision about two texts ends the check of the output in the same way. -/
theorem mirrors_checkOutputGuardrail (policy : TenantPolicy) (text text' : String) :
    Mirrors app classes Eq (checkOutputGuardrail app policy text)
      (checkOutputGuardrail app policy text') := by
  apply mirrors_guardrail
  apply mirrors_settled (.checkOutput text policy.guardrailPolicy)
    (.checkOutput text' policy.guardrailPolicy) rfl
  rintro _ _ ⟨rfl, rfl, hsame⟩
  rw [hsame]

/-! ## The answers -/

section Stages

variable (a : Admitted) {r r' : ChatRequest} (modelId : String) (guardrailMs : ℚ)

/-- A past-the-guardrail request. -/
abbrev Admitted.screened (r : ChatRequest) : Screened := ⟨⟨a, r, modelId⟩, guardrailMs⟩

theorem mirrors_captureDebug (text text' : String) :
    Mirrors app classes Eq (captureDebug ⟨a, r, modelId⟩ text)
      (captureDebug ⟨a, r', modelId⟩ text') := by
  unfold captureDebug
  dsimp only
  split
  · exact InStep.ask ⟨rfl, rfl⟩ fun _ _ h => eq_of_heq h
  · exact InStep.pure rfl

/-- Every exit that reports on the span alone. -/
theorem mirrors_spanRejection (attributes : Fields) (response : Response)
    (halike : ResponsesAlike response response) :
    Mirrors app classes ResponsesAlike
      (do
        let _ ← setSpan attributes
        pure response)
      (do
        let _ ← setSpan attributes
        pure response) := by
  apply mirrors_call (by simp [Query.kind])
  intro _
  exact InStep.pure halike

theorem mirrors_answerCached {cached cached' : CachedResponse}
    (h : cached.masked = cached'.masked) :
    Mirrors app classes ResponsesAlike (answerCached (a.screened modelId guardrailMs r) cached)
      (answerCached (a.screened modelId guardrailMs r') cached') := by
  obtain ⟨text, stopReason, inputTokens, outputTokens, answering⟩ := cached
  obtain ⟨text', stopReason', inputTokens', outputTokens', answering'⟩ := cached'
  simp only [CachedResponse.masked, CachedResponse.mk.injEq, true_and] at h
  obtain ⟨rfl, rfl, rfl, rfl⟩ := h
  apply InStep.bind (mirrors_captureDebug a modelId text text')
  intro _ _ _
  apply mirrors_call (by simp [Query.kind])
  intro _
  apply mirrors_call (by simp [Query.kind])
  intro _
  exact InStep.pure rfl

/-- Routed results that differ in text only. -/
structure RoutedAlike (routed routed' : RoutedResult) : Prop where
  result : routed.result.masked = routed'.result.masked
  modelId : routed.modelId = routed'.modelId
  fallback : routed.fallback = routed'.fallback

theorem mirrors_answerFresh {routed routed' : RoutedResult} (h : RoutedAlike routed routed')
    (outputGuardrailMs : ℚ) :
    Mirrors app classes ResponsesAlike
      (answerFresh (a.screened modelId guardrailMs r) routed outputGuardrailMs)
      (answerFresh (a.screened modelId guardrailMs r') routed' outputGuardrailMs) := by
  obtain ⟨⟨text, inputTokens, outputTokens, stopReason, latencyMs, retryCount⟩, answering,
    fallback⟩ := routed
  obtain ⟨⟨text', inputTokens', outputTokens', stopReason', latencyMs', retryCount'⟩, answering',
    fallback'⟩ := routed'
  obtain ⟨hresult, hmodel, hfallback⟩ := h
  simp only [ConverseResult.masked, ConverseResult.mk.injEq, true_and] at hresult
  obtain ⟨rfl, rfl, rfl, rfl, rfl⟩ := hresult
  obtain rfl : answering = answering' := hmodel
  obtain rfl : fallback = fallback' := hfallback
  apply InStep.bind (mirrors_captureDebug a modelId text text')
  intro _ _ _
  apply mirrors_call (by simp [Query.kind])
  intro _
  apply mirrors_call (by simp [Query.kind])
  intro _
  exact InStep.pure rfl

theorem mirrors_guardrailRejection (spanModel : Fields) (status : ErrorStatus)
    (code message : String) :
    Mirrors app classes ResponsesAlike
      (guardrailRejection a modelId spanModel guardrailMs status code message)
      (guardrailRejection a modelId spanModel guardrailMs status code message) := by
  apply mirrors_call (by simp [Query.kind])
  intro _
  apply mirrors_call (by simp [Query.kind])
  intro _
  exact InStep.pure rfl

/-! ## The models -/

theorem mirrors_screenOutput (cacheKey cacheKey' : String) {routed routed' : RoutedResult}
    (h : RoutedAlike routed routed') :
    Mirrors app classes ResponsesAlike
      (screenOutput app (a.screened modelId guardrailMs r) cacheKey routed)
      (screenOutput app (a.screened modelId guardrailMs r') cacheKey' routed') := by
  apply mirrors_call (by simp [Query.kind])
  intro start
  apply mirrors_exceptPipeline (mirrors_checkOutputGuardrail a.policy _ _)
  · intro status code message
    apply mirrors_call (by simp [Query.kind])
    intro stop
    rw [h.modelId]
    exact mirrors_guardrailRejection ..
  · intro _ _ _
    apply mirrors_call (by simp [Query.kind])
    intro stop
    have hcached : (cachedResponse routed).masked = (cachedResponse routed').masked := by
      have hresult := h.result
      simp only [ConverseResult.masked, ConverseResult.mk.injEq, true_and] at hresult
      obtain ⟨hinput, houtput, hstop, _⟩ := hresult
      simp only [cachedResponse, CachedResponse.masked, hinput, houtput, hstop, h.modelId]
    apply InStep.bind (mirrors_settled (.cacheSet cacheKey _) (.cacheSet cacheKey' _) hcached
      fun _ _ hwritten => eq_of_heq hwritten)
    intro _ _ _
    exact mirrors_answerFresh a modelId guardrailMs h _

theorem mirrors_tryCandidates (routeSetName : Option String)
    {conversation conversation' : Conversation}
    (hmax : conversation.maxTokens = conversation'.maxTokens)
    (htemperature : conversation.temperature = conversation'.temperature) (index : ℕ)
    (lastError : Option Exn) (candidates : List String) :
    Mirrors app classes RoutedAlike
      (tryCandidates routeSetName conversation index lastError candidates)
      (tryCandidates routeSetName conversation' index lastError candidates) := by
  induction candidates generalizing index lastError with
  | nil => exact InStep.throw _
  | cons modelId rest ih =>
      apply mirrors_call (by simp [Query.kind])
      intro allowed
      cases allowed with
      | false => exact ih _ _
      | true =>
          apply InStep.call ⟨rfl, hmax, htemperature⟩
          intro outcome outcome' houtcome
          have hboth := both_of_map_eq houtcome
          cases outcome with
          | ok result =>
              cases outcome' with
              | error exn' => exact hboth.elim
              | ok result' =>
                  apply mirrors_call (by simp [Query.kind])
                  intro _
                  exact InStep.pure ⟨hboth, rfl, rfl⟩
          | error exn =>
              cases outcome' with
              | ok result' => exact hboth.elim
              | error exn' =>
                  obtain rfl : exn = exn' := hboth
                  cases exn with
                  | bedrockInvocation message code retryable =>
                      apply mirrors_call (by simp [Query.kind])
                      intro _
                      exact ih _ _
                  | _ => exact InStep.throw _

theorem mirrors_callModels (h : RequestsAlike r r') (cacheKey cacheKey' : String) :
    Mirrors app classes ResponsesAlike
      (callModels app (a.screened modelId guardrailMs r) cacheKey)
      (callModels app (a.screened modelId guardrailMs r') cacheKey') := by
  apply mirrors_call (by simp [Query.kind])
  intro start
  apply InStep.bind (InStep.attempt (mirrors_tryCandidates _ h.maxTokens h.temperature ..))
  intro outcome outcome' hboth
  have hfailure : ∀ status code message, Mirrors app classes ResponsesAlike
      (upstreamFailure (a.screened modelId guardrailMs r) start status code message)
      (upstreamFailure (a.screened modelId guardrailMs r') start status code message) := by
    intro status code message
    apply mirrors_call (by simp [Query.kind])
    intro _
    apply mirrors_call (by simp [Query.kind])
    intro stop
    apply mirrors_call (by simp [Query.kind])
    intro _
    exact InStep.pure rfl
  cases outcome with
  | ok routed =>
      cases outcome' with
      | error exn' => exact hboth.elim
      | ok routed' => exact mirrors_screenOutput a modelId guardrailMs _ _ hboth
  | error exn =>
      cases outcome' with
      | ok routed' => exact hboth.elim
      | error exn' =>
          obtain rfl : exn = exn' := hboth
          cases exn with
          | bedrockInvocation message code retryable => exact hfailure ..
          | allRoutesUnavailable routeSetName => exact hfailure ..
          | _ => exact InStep.throw _

theorem mirrors_answerFromCache (h : RequestsAlike r r') :
    Mirrors app classes ResponsesAlike (answerFromCache app (a.screened modelId guardrailMs r))
      (answerFromCache app (a.screened modelId guardrailMs r')) := by
  apply InStep.call trivial
  intro found found' hfound
  cases found with
  | none =>
      cases found' with
      | some cached' => cases hfound
      | none => exact mirrors_callModels a modelId guardrailMs h _ _
  | some cached =>
      cases found' with
      | none => cases hfound
      | some cached' => exact mirrors_answerCached a modelId guardrailMs (Option.some.inj hfound)

theorem mirrors_openStream (h : RequestsAlike r r') :
    Mirrors app classes ResponsesAlike (openStream (a.screened modelId guardrailMs r))
      (openStream (a.screened modelId guardrailMs r')) := by
  apply mirrors_call (by simp [Query.kind])
  intro allowed
  cases allowed with
  | false => exact mirrors_spanRejection _ _ rfl
  | true =>
      have hopened : Mirrors app classes (fun source source' : ChunkSource =>
          source.masked = source'.masked)
          (ask (.converseStream modelId (bedrockMessages r.messages) r.maxTokens r.temperature) >>=
            settle)
          (ask (.converseStream modelId (bedrockMessages r'.messages) r'.maxTokens
            r'.temperature) >>= settle) := by
        apply InStep.call ⟨rfl, h.maxTokens, h.temperature⟩
        intro opened opened' hsource
        exact mirrors_settle (both_of_map_eq hsource)
      apply InStep.bind hopened
      intro source source' hsource
      apply mirrors_call (by simp [Query.kind])
      intro _
      exact InStep.pure ⟨rfl, hsource⟩

/-! ## The handler -/

theorem mirrors_screenInput (h : RequestsAlike r r') :
    Mirrors app classes ResponsesAlike (screenInput app ⟨a, r, modelId⟩)
      (screenInput app ⟨a, r', modelId⟩) := by
  apply mirrors_call (by simp [Query.kind])
  intro _
  apply mirrors_call (by simp [Query.kind])
  intro start
  apply mirrors_exceptPipeline (mirrors_checkInputGuardrail a.policy _ _)
  · intro status code message
    apply mirrors_call (by simp [Query.kind])
    intro stop
    exact mirrors_guardrailRejection ..
  · intro _ _ _
    apply mirrors_call (by simp [Query.kind])
    intro stop
    dsimp only
    rw [h.stream]
    split
    · exact mirrors_openStream a modelId _ h
    · exact mirrors_answerFromCache a modelId _ h

theorem mirrors_readBody :
    Mirrors app classes ResponsesAlike (readBody app a) (readBody app a) := by
  apply InStep.call (Query.Alike.refl .requestJson)
  intro read read' hread
  cases read with
  | error exn =>
      cases read' with
      | ok body' => exact hread.elim
      | error exn' =>
          by_cases hcancelled : exn = .cancelled
          · obtain rfl := hread.mp hcancelled
            subst hcancelled
            exact InStep.throw _
          · -- Neither body can be read, for whatever reason.
            have hcancelled' : exn' ≠ .cancelled := mt hread.mpr hcancelled
            split
            case h_1 heq => exact absurd (Except.error.inj heq) hcancelled
            case h_3 heq => cases heq
            exact mirrors_spanRejection _ _ rfl
  | ok body =>
      cases read' with
      | error exn' => exact hread.elim
      | ok body' =>
          dsimp only
          rcases BodiesAlike.modelValidate hread with ⟨issue, hissue, hissue'⟩ | ⟨r, r', hr, hr', h⟩
          · rw [hissue, hissue']
            exact mirrors_spanRejection _ _ rfl
          · rw [hr, hr']
            dsimp only
            rw [h.model]
            apply mirrors_exceptPipeline
              (mirrors_settle (Both.refl (fun _ => rfl) (enforceModelAllowlist ..)))
            · intro status code message
              exact mirrors_spanRejection _ _ rfl
            · intro modelId modelId' hmodel
              obtain rfl : modelId = modelId' := hmodel
              exact mirrors_screenInput a modelId h

end Stages

theorem mirrors_chat (request : HttpRequest) (requestId : String) :
    Mirrors app classes ResponsesAlike (chat app request requestId)
      (chat app request requestId) := by
  apply mirrors_call (by simp [Query.kind])
  intro _
  have hgates : Mirrors app classes Eq (gates app request) (gates app request) :=
    mirrors_textless (asks_gates app request) (by simp) fun _ => rfl
  apply mirrors_exceptPipeline hgates
  · intro status code message
    exact mirrors_spanRejection _ _ rfl
  · rintro ⟨identity, policy⟩ _ rfl
    apply mirrors_call (by simp [Query.kind])
    intro _
    exact mirrors_readBody _

end BedrockGateway
