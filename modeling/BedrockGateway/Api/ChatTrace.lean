/-
# The chat handler meets its obligations

The handler is walked once, stage by stage and from the inside out, with the
evidence collected so far. What comes out is that every question of every request
met its obligation, under whatever answers, and what a response rests on when the
handler returns it.
-/

import BedrockGateway.Api.ChatEvidence

namespace BedrockGateway

open Foundation Py
open Fallible (Along.ask Along.call Along.bind Along.attempt Along.bind_of_only)

variable {app : App} {request : HttpRequest} {requestId : String} {history : History}

/-! ## Rules -/

/-- Questions of the other kinds owe nothing. -/
theorem Owes.of_among {kinds : List QueryKind} {q : Query} (hq : q.among kinds)
    (hkinds : ∀ kind ∈ kinds,
      kind ∉ [QueryKind.policy, .rate, .cache, .model, .pull, .reply, .control])
    (history : History) (answer : Answer q) : Owes app request history ⟨q, answer⟩ := by
  have hkind := hkinds _ hq
  cases q <;> first | trivial | simp [Query.kind] at hkind

/-- What the handler hands back: a successful response is backed by evidence, and
only a 403 can come from a request whose policy is blocked. -/
def ChatReturns (app : App) (request : HttpRequest) (history : History) :
    Except Exn Response → Prop
  | .ok response => (response.statusCode = 200 → Answered app request history response) ∧
      (Unblocked history ∨ response.statusCode = 403)
  | .error _ => Unblocked history

/-- A rejection of an unblocked request. -/
theorem ChatReturns.rejection {status : ErrorStatus} {code message : String}
    (h : Unblocked history ∨ status.code = 403) :
    ChatReturns app request history (.ok (errorResponse status code message requestId)) := by
  refine ⟨fun hstatus => ?_, h⟩
  have herror := status.isError
  have hcode : status.code = 200 := hstatus
  omega

/-- A successful response of an admitted request. -/
theorem ChatReturns.success {a : Admitted} {response : Response}
    (h : Admits app request history a) (hanswered : Answered app request history response) :
    ChatReturns app request history (.ok response) :=
  ⟨fun _ => hanswered, .inl h.unblocked⟩

/-! ## The gates -/

/-- What is known when the gates let a request through, or do not. -/
def GatesReturn (app : App) (request : HttpRequest) (history : History) :
    Except Exn (Identity × TenantPolicy) → Prop
  | .ok (identity, policy) => ∀ requestId, Passes app request history ⟨requestId, identity, policy⟩
  | .error exn => Unblocked history ∨
      ∃ status code message, exn = .pipeline status code message ∧ status.code = 403

/-- What a resolution leaves in the history. -/
theorem resolved_of_resolvePolicy {identity : Identity} {trace : History} {policy : TenantPolicy}
    (h : Program.Exec (resolvePolicy app identity).run trace (.ok policy)) {tenantId : String}
    {found : TenantPolicy} :
    Resolved trace tenantId found ↔ tenantId = identity.tenantId ∧ found = policy := by
  rcases resolvePolicy_ok h with rfl | rfl
  · simp [Resolved]
  · simp [Resolved]

theorem unresolved_of_resolvePolicy {identity : Identity} {trace : History} {exn : Exn}
    (h : Program.Exec (resolvePolicy app identity).run trace (.error exn)) : Unresolved trace := by
  obtain ⟨raised, rfl⟩ := resolvePolicy_error h
  simp [Unresolved, Resolved]

/-- A resolution follows its own lookup up. -/
theorem followed_of_resolvePolicy {identity : Identity} {trace : History}
    {outcome : Except Exn TenantPolicy} (hearly : Early history)
    (h : Program.Exec (resolvePolicy app identity).run trace outcome) :
    Followed (history ++ trace) := by
  have htrace : Followed trace := by
    cases outcome with
    | ok policy => rcases resolvePolicy_ok h with rfl | rfl <;> simp [Followed]
    | error exn =>
        obtain ⟨raised, rfl⟩ := resolvePolicy_error h
        simp [Followed]
  intro tenantId hmem
  rcases List.mem_append.mp hmem with hold | hnew
  · exact absurd (hearly _ hold) (by simp [Query.among, Query.kind])
  · obtain ⟨fetched, hfetched⟩ := htrace tenantId hnew
    exact ⟨fetched, List.mem_append_right _ hfetched⟩

/-- The rate limiter's part of the gates. -/
theorem rateLimit_along {identity : Identity} {policy : TenantPolicy}
    (h : ∀ requestId, Admits app request history ⟨requestId, identity, policy⟩) :
    Program.Along (Owes app request) (GatesReturn app request)
      (do
        let _ ← enforceRateLimit policy
        pure (identity, policy) : Py (Identity × TenantPolicy)).run history := by
  refine Along.bind (Along.bind ?_)
  unfold rateLimiterAllow
  split
  · exact .inl (h "").unblocked
  · refine Along.call fun now => ⟨trivial, ?_⟩
    have hclock : ∀ requestId, Admits app request (history ++ [⟨.clock, now⟩])
        ⟨requestId, identity, policy⟩ :=
      fun requestId => (h requestId).append (Calm.single (by simp [Query.kind]))
    refine Along.ask fun allowed => ⟨⟨_, hclock "", rfl, rfl⟩, ?_⟩
    have htaken : ∀ requestId, Admits app request (history ++ [⟨.clock, now⟩] ++
        [⟨.bucketTake policy.tenantId (effectiveLimit policy) now, allowed⟩])
        ⟨requestId, identity, policy⟩ :=
      fun requestId => (hclock requestId).append (Calm.single (by simp [Query.kind]))
    cases allowed with
    | true => exact fun requestId => { toAdmits := htaken requestId, withinRate := ⟨now, by simp⟩ }
    | false => exact .inl (htaken "").unblocked

/-- The policy is the first thing looked up. -/
theorem resolvePolicy_along {identity : Identity} (h : Early history) :
    Program.Along (Owes app request) (fun _ _ => True)
      (resolvePolicy app identity).run history := by
  refine Along.bind (Along.attempt (Along.call fun found => ⟨h, ?_⟩))
  cases found with
  | some policy => trivial
  | none =>
      refine Along.bind (Along.call fun fetched => ⟨⟨history, rfl⟩, ?_⟩)
      cases fetched with
      | error exn => trivial
      | ok policy => exact Along.call fun _ => ⟨trivial, trivial⟩

/-- The gates from the kill switch on. -/
theorem killSwitch_along {identity : Identity} {policy : TenantPolicy}
    (h : ∀ requestId, policy.blocked = false →
      Admits app request history ⟨requestId, identity, policy⟩) :
    Program.Along (Owes app request) (GatesReturn app request)
      (do
        let _ ← enforceKillSwitch policy
        let _ ← enforceRateLimit policy
        pure (identity, policy) : Py (Identity × TenantPolicy)).run history := by
  refine Along.bind_of_only (asks_enforceKillSwitch policy)
    (fun _ hq => Owes.of_among hq (by simp)) (fun _ _ hswitch _ => ?_) (fun _ exn hswitch _ => ?_)
  · obtain ⟨rfl, ⟨_, hblocked⟩ | ⟨message, hraised⟩⟩ := enforceKillSwitch_cases hswitch
    · rw [List.append_nil]
      exact rateLimit_along fun requestId => h requestId hblocked
    · cases hraised
  · obtain ⟨_, ⟨hok, _⟩ | ⟨message, hraised⟩⟩ := enforceKillSwitch_cases hswitch
    · cases hok
    · cases hraised
      exact .inr ⟨_, _, _, rfl, rfl⟩

/-- Through the gates. -/
theorem gates_along (hstart : Early history) :
    Program.Along (Owes app request) (GatesReturn app request) (gates app request).run history := by
  refine Along.bind_of_only (asks_authenticate app request)
    (fun _ hq => Owes.of_among hq (by decide)) (fun callerTrace identity hcaller hkinds => ?_)
    (fun _ exn _ hkinds =>
      .inl (hstart.append (Early.of_among hkinds (by simp))).unblocked)
  have hcalled := hstart.append (Early.of_among hkinds (by simp))
  refine Along.bind_of_only (asks_authorize identity _) (fun _ hq => Owes.of_among hq (by simp))
    (fun _ _ hauthorized _ => ?_)
    (fun _ exn _ hkinds =>
      .inl (hcalled.append (Early.of_among hkinds (by simp))).unblocked)
  obtain ⟨rfl, hrole⟩ := authorize_ok hauthorized
  rw [List.append_nil]
  refine Along.bind ((resolvePolicy_along hcalled).traced.mono fun history' outcome hresolved => ?_)
  obtain ⟨-, policyTrace, rfl, hexec⟩ := hresolved
  cases outcome with
  | ok policy =>
      refine killSwitch_along fun requestId hblocked => {
        authenticated := (Ran.of_exec hcaller history).append policyTrace
        authorized := hrole
        resolved := Ran.of_exec hexec _
        only := fun tenantId found hres => ?_
        followed := followed_of_resolvePolicy hcalled hexec
        notBlocked := hblocked }
      rcases resolved_append_iff.mp hres with hold | hnew
      · exact absurd hold (hcalled.unresolved tenantId found)
      · exact (resolved_of_resolvePolicy hexec).mp hnew
  | error exn =>
      refine .inl ⟨fun tenantId policy hres => ?_, followed_of_resolvePolicy hcalled hexec⟩
      rcases resolved_append_iff.mp hres with hold | hnew
      · exact absurd hold (hcalled.unresolved tenantId policy)
      · exact absurd hnew (unresolved_of_resolvePolicy hexec tenantId policy)

/-! ## Exits -/

/-- An outcome that is acceptable now and after whatever quiet questions follow. -/
def Lasts (post : History → Except Exn Response → Prop) (history : History)
    (outcome : Except Exn Response) : Prop :=
  ∀ trace, Quiet trace → post (history ++ trace) outcome

section Exits

variable {post : History → Except Exn Response → Prop} {outcome : Except Exn Response}

theorem Lasts.append (h : Lasts post history outcome) {trace : History} (htrace : Quiet trace) :
    Lasts post (history ++ trace) outcome := by
  intro more hmore
  rw [List.append_assoc]
  exact h (trace ++ more) (htrace.append hmore)

theorem Lasts.now (h : Lasts post history outcome) : post history outcome := by
  have hnow := h [] (by simp [Quiet])
  rwa [List.append_nil] at hnow

/-- On the way out, a question of no consequence. -/
theorem along_out {q : Query} {f : Answer q → Py Response}
    (hq : q.kind ∈ [QueryKind.debug, .telemetry]) (hlasts : Lasts post history outcome)
    (hnext : ∀ answer history, Lasts post history outcome →
      Program.Along (Owes app request) post (f answer).run history) :
    Program.Along (Owes app request) post (ask q >>= f).run history := by
  have hkinds : ∀ kind ∈ [QueryKind.debug, .telemetry],
      kind ∉ [QueryKind.policy, .rate, .cache, .model, .pull, .reply, .control] ∧
      kind ∉ [QueryKind.policy, .client, .reply] := by decide
  refine Along.call fun answer => ⟨?_, hnext answer _ (hlasts.append (Quiet.single ?_))⟩
  · exact Owes.of_among hq (fun kind hkind => (hkinds kind hkind).1) history answer
  · exact (hkinds _ hq).2

theorem along_captureDebug {a : Accepted} {outputText : String} {f : Unit → Py Response}
    (hlasts : Lasts post history outcome)
    (hnext : ∀ history, Lasts post history outcome →
      Program.Along (Owes app request) post (f ()).run history) :
    Program.Along (Owes app request) post (captureDebug a outputText >>= f).run history := by
  unfold captureDebug
  split
  · exact along_out (by simp [Query.kind]) hlasts fun _ => hnext
  · exact hnext history hlasts

theorem answerCached_along {s : Screened} {cached : CachedResponse}
    (hlasts : Lasts post history (.ok (.json 200 (cachedReply s.toAdmitted cached).modelDump))) :
    Program.Along (Owes app request) post (answerCached s cached).run history :=
  along_captureDebug hlasts fun _ hlasts =>
    along_out (by simp [Query.kind]) hlasts fun _ _ hlasts =>
      along_out (by simp [Query.kind]) hlasts fun _ _ hlasts => hlasts.now

theorem answerFresh_along {s : Screened} {routed : RoutedResult} {outputGuardrailMs : ℚ}
    (hlasts : Lasts post history (.ok (.json 200 (freshReply s.toAdmitted routed).modelDump))) :
    Program.Along (Owes app request) post (answerFresh s routed outputGuardrailMs).run history :=
  along_captureDebug hlasts fun _ hlasts =>
    along_out (by simp [Query.kind]) hlasts fun _ _ hlasts =>
      along_out (by simp [Query.kind]) hlasts fun _ _ hlasts => hlasts.now

end Exits

/-- The outcome of an unblocked request can be any rejection. -/
theorem Lasts.rejection {status : ErrorStatus} {code message : String} (h : Unblocked history) :
    Lasts (ChatReturns app request) history
      (.ok (errorResponse status code message requestId)) := by
  intro trace htrace
  exact ChatReturns.rejection (.inl (h.append htrace.calm))

theorem guardrailRejection_along {a : Admitted} {modelId : String} {spanModel : Fields}
    {guardrailMs : ℚ} {status : ErrorStatus} {code message : String} (h : Unblocked history) :
    Program.Along (Owes app request) (ChatReturns app request)
      (guardrailRejection a modelId spanModel guardrailMs status code message).run history :=
  along_out (by simp [Query.kind]) (Lasts.rejection h) fun _ _ hlasts =>
    along_out (by simp [Query.kind]) hlasts fun _ _ hlasts => hlasts.now

theorem upstreamFailure_along {s : Screened} {start : ℚ} {status : ErrorStatus}
    {code message : String} (h : Unblocked history) :
    Program.Along (Owes app request) (ChatReturns app request)
      (upstreamFailure s start status code message).run history :=
  along_out (by simp [Query.kind]) (Lasts.rejection h) fun _ _ hlasts =>
    along_out (by simp [Query.kind]) hlasts fun _ _ hlasts =>
      along_out (by simp [Query.kind]) hlasts fun _ _ hlasts => hlasts.now

/-- A rejection that is only noted on the span. -/
theorem spanRejection_along {attributes : Fields} {status : ErrorStatus} {code message : String}
    (h : Unblocked history) :
    Program.Along (Owes app request) (ChatReturns app request)
      (do
        let _ ← setSpan attributes
        pure (errorResponse status code message requestId) : Py Response).run history :=
  along_out (by simp [Query.kind]) (Lasts.rejection h) fun _ _ hlasts => hlasts.now

/-! ## The models -/

/-- From the output guardrail on. -/
theorem screenOutput_along {s : Screened} {routed : RoutedResult}
    (h : Routes app request history s.toAccepted routed) :
    Program.Along (Owes app request) (ChatReturns app request)
      (screenOutput app s (buildCacheKey app.sha256 s.cacheKeyFields) routed).run history := by
  refine Along.call fun start => ⟨trivial, ?_⟩
  have hroutes := h.append (Quiet.single (q := .perfCounter) (a := start) (by decide))
  refine along_exceptPipeline (fun history outcome =>
      Routes app request history s.toAccepted routed ∧
        ∀ decision, outcome = .ok decision →
          Ran (checkOutputGuardrail app s.policy routed.result.text) history decision)
    (Program.Along.of_only (asks_checkOutputGuardrail ..)
      (fun _ hq => Owes.of_among hq (by decide)) fun trace outcome hexec hmem => ?_)
    (fun history decision hmiddle => ?_) (fun history status code message hmiddle => ?_)
    (fun history exn hmiddle _ => hmiddle.1.unblocked)
  · refine ⟨hroutes.append (Quiet.of_among hmem (by decide)), ?_⟩
    rintro decision rfl
    exact Ran.of_exec hexec _
  · obtain ⟨hroutes, hran⟩ := hmiddle
    have hproduces : Produces app request history s.toAccepted routed :=
      { toRoutes := hroutes, passed := ⟨decision, hran decision rfl⟩ }
    refine Along.call fun stop => ⟨trivial, ?_⟩
    have hstopped := hproduces.append (Quiet.single (q := .perfCounter) (a := stop) (by decide))
    refine Along.bind (Along.call fun written => ⟨⟨_, _, hstopped, rfl, rfl⟩, ?_⟩)
    have hwritten := hstopped.append (Quiet.single
      (q := .cacheSet (buildCacheKey app.sha256 s.cacheKeyFields) (cachedResponse routed))
      (a := written) (by simp [Query.kind]))
    cases written with
    | error exn => exact hwritten.unblocked
    | ok done =>
        refine answerFresh_along fun trace htrace => ?_
        have hlast := hwritten.append htrace
        exact ChatReturns.success hlast.toAdmits (.inr (.inr ⟨_, _, hlast, by simp, rfl⟩))
  · exact Along.call fun stop => ⟨trivial, guardrailRejection_along
      (hmiddle.1.append (Quiet.single (by decide))).unblocked⟩

/-- What the router hands back: a result is that of a certified model. -/
def RouterReturns (app : App) (request : HttpRequest) (a : Accepted) (history : History)
    (outcome : Except Exn RoutedResult) : Prop :=
  Screens app request history a ∧
    ∀ routed, outcome = .ok routed → Routes app request history a routed

/-- The router's loop, as long as the remaining candidates are certified. -/
theorem tryCandidates_along {a : Accepted} (hstream : a.chatRequest.stream = false)
    {candidates : List String} {index : ℕ} {lastError : Option Exn}
    (hcandidates : ∀ modelId ∈ candidates,
      modelId ∈ app.routeSets.candidates a.modelId a.policy.routeSet)
    (h : Screens app request history a) :
    Program.Along (Owes app request) (RouterReturns app request a)
      (tryCandidates a.policy.routeSet a.conversation index lastError candidates).run history := by
  induction candidates generalizing index lastError history with
  | nil => exact ⟨h, fun routed hok => by cases hok⟩
  | cons modelId rest ih =>
      have hmodel := hcandidates modelId List.mem_cons_self
      have hrest := fun other hmem => hcandidates other (List.mem_cons_of_mem _ hmem)
      refine Along.call fun allowed => ⟨trivial, ?_⟩
      have hasked := h.append (Quiet.single (q := .breakerAllow modelId) (a := allowed)
        (by simp [Query.kind]))
      cases allowed with
      | false => exact ih hrest hasked
      | true =>
          refine Along.call fun answer => ⟨⟨a, hasked, hstream, hmodel, rfl⟩, ?_⟩
          have hcalled := hasked.append (Quiet.single (q := converseQuery a modelId) (a := answer)
            (by simp [Query.kind, converseQuery]))
          cases answer with
          | ok result =>
              refine Along.call fun recorded => ⟨trivial, ?_⟩
              have hrecorded := hcalled.append (Quiet.single (q := .recordSuccess modelId)
                (a := recorded) (by simp [Query.kind]))
              refine ⟨hrecorded, fun routed hok => ?_⟩
              cases hok
              exact {
                toScreens := hrecorded
                notStream := hstream
                certified := hmodel
                called := by simp [converseQuery] }
          | error exn =>
              cases exn with
              | bedrockInvocation message code retryable =>
                  refine Along.call fun recorded => ⟨trivial, ih hrest ?_⟩
                  exact hcalled.append (Quiet.single (q := .recordFailure modelId)
                    (a := recorded) (by simp [Query.kind]))
              | _ => exact ⟨hcalled, fun routed hok => by cases hok⟩

/-- From the router call on. -/
theorem callModels_along {s : Screened} (hstream : s.chatRequest.stream = false)
    (h : Screens app request history s.toAccepted) :
    Program.Along (Owes app request) (ChatReturns app request)
      (callModels app s (buildCacheKey app.sha256 s.cacheKeyFields)).run history := by
  refine Along.call fun start => ⟨trivial, ?_⟩
  have hstarted := h.append (Quiet.single (q := .perfCounter) (a := start) (by decide))
  refine Along.bind (Along.attempt ((tryCandidates_along hstream (fun _ hmem => hmem)
    hstarted).mono fun history outcome hreturns => ?_))
  obtain ⟨hscreens, hroutes⟩ := hreturns
  cases outcome with
  | ok routed => exact screenOutput_along (hroutes routed rfl)
  | error exn =>
      cases exn with
      | bedrockInvocation message code retryable => exact upstreamFailure_along hscreens.unblocked
      | allRoutesUnavailable routeSetName => exact upstreamFailure_along hscreens.unblocked
      | _ => exact hscreens.unblocked

/-- From the cache lookup on. -/
theorem answerFromCache_along {s : Screened} (hstream : s.chatRequest.stream = false)
    (h : Screens app request history s.toAccepted) :
    Program.Along (Owes app request) (ChatReturns app request)
      (answerFromCache app s).run history := by
  refine Along.call fun found => ⟨⟨_, h, hstream, rfl⟩, ?_⟩
  have hlooked := h.append (Quiet.single
    (q := .cacheGet (buildCacheKey app.sha256 s.cacheKeyFields)) (a := found)
    (by simp [Query.kind]))
  cases found with
  | some cached =>
      refine answerCached_along fun trace htrace => ?_
      have hlast := hlooked.append htrace
      exact ChatReturns.success hlast.toAdmits
        (.inr (.inl ⟨_, _, hlast, hstream, by simp, rfl⟩))
  | none => exact callModels_along hstream hlooked

/-- The streaming branch. -/
theorem openStream_along {s : Screened} (hstream : s.chatRequest.stream = true)
    (h : Screens app request history s.toAccepted) :
    Program.Along (Owes app request) (ChatReturns app request) (openStream s).run history := by
  refine Along.call fun allowed => ⟨trivial, ?_⟩
  have hasked := h.append (Quiet.single (q := .breakerAllow s.modelId) (a := allowed)
    (by simp [Query.kind]))
  cases allowed with
  | false => exact spanRejection_along hasked.unblocked
  | true =>
      refine Along.bind (Along.call fun opened => ⟨⟨_, hasked, hstream, rfl, rfl⟩, ?_⟩)
      have hopened := hasked.append (Quiet.single
        (q := .converseStream s.modelId s.conversation.messages s.conversation.maxTokens
          s.conversation.temperature) (a := opened) (by simp [Query.kind]))
      cases opened with
      | error exn => exact hopened.unblocked
      | ok source =>
          refine along_out (by simp [Query.kind])
            (?_ : Lasts (ChatReturns app request) _
              (.ok (.stream ⟨s.modelId, s.requestId, s.identity.tenantId⟩ source)))
            fun _ _ hlasts => hlasts.now
          intro trace htrace
          have hlast := hopened.append htrace
          exact ChatReturns.success hlast.toAdmits (.inl ⟨_, _, hlast, hstream, by simp, rfl⟩)

/-! ## The handler -/

/-- From the input guardrail on. -/
theorem screenInput_along {a : Accepted} (h : Receives app request history a) :
    Program.Along (Owes app request) (ChatReturns app request)
      (screenInput app a).run history := by
  refine Along.call fun _ => ⟨trivial, Along.call fun start => ⟨trivial, ?_⟩⟩
  refine along_exceptPipeline (fun history outcome =>
      Receives app request history a ∧ ∀ decision, outcome = .ok decision →
        Ran (checkInputGuardrail app a.policy a.combinedInputText) history decision)
    (Program.Along.of_only (asks_checkInputGuardrail ..)
      (fun _ hq => Owes.of_among hq (by decide)) fun trace outcome hexec hmem => ?_)
    (fun history decision hmiddle => ?_) (fun history status code message hmiddle => ?_)
    (fun history exn hmiddle _ => hmiddle.1.unblocked)
  · refine ⟨((h.append (Quiet.single (by simp [Query.kind]))).append
      (Quiet.single (by decide))).append (Quiet.of_among hmem (by decide)), ?_⟩
    rintro decision rfl
    exact Ran.of_exec hexec _
  · have hscreens : Screens app request history a :=
      { toReceives := hmiddle.1, screened := ⟨decision, hmiddle.2 decision rfl⟩ }
    refine Along.call fun stop => ⟨trivial, ?_⟩
    have hstopped := hscreens.append (Quiet.single (q := .perfCounter) (a := stop) (by decide))
    dsimp only
    split
    case isTrue hstream => exact openStream_along hstream hstopped
    case isFalse hstream =>
      exact answerFromCache_along (Bool.eq_false_iff.mpr hstream) hstopped
  · exact Along.call fun stop => ⟨trivial, guardrailRejection_along
      (hmiddle.1.append (Quiet.single (by decide))).unblocked⟩

/-- From the awaited body on. -/
theorem readBody_along {a : Admitted} (h : Passes app request history a) :
    Program.Along (Owes app request) (ChatReturns app request) (readBody app a).run history := by
  refine Along.call fun answer => ⟨trivial, ?_⟩
  have hread := h.append (Calm.single (q := .requestJson) (a := answer) (by decide))
  cases answer with
  | error exn =>
      cases exn with
      | cancelled => exact hread.unblocked
      | _ => exact spanRejection_along hread.unblocked
  | ok body =>
      dsimp only
      split
      · exact spanRejection_along hread.unblocked
      · rename_i chatRequest hvalid
        refine along_exceptPipeline (fun history' outcome =>
            history' = history ++ [⟨.requestJson, .ok body⟩] ∧
              outcome = enforceModelAllowlist a.policy chatRequest.model
                app.settings.bedrockModelId) ?_ (fun history' modelId hmiddle => ?_)
          (fun history' status code message hmiddle => ?_) (fun history' exn hmiddle _ => ?_)
        · cases enforceModelAllowlist a.policy chatRequest.model app.settings.bedrockModelId <;>
            exact ⟨rfl, rfl⟩
        · obtain ⟨rfl, hallowed⟩ := hmiddle
          refine screenInput_along
            { toPasses := hread, received := ?_, allowedModel := hallowed.symm }
          exact ⟨body, history, [], rfl, by simp [Quiet], hvalid⟩
        · exact spanRejection_along (hmiddle.1 ▸ hread.unblocked)
        · exact hmiddle.1 ▸ hread.unblocked

/-- **The chat handler.** -/
theorem chat_along (hstart : Early history) :
    Program.Along (Owes app request) (ChatReturns app request)
      (chat app request requestId).run history := by
  refine Along.call fun _ => ⟨trivial, ?_⟩
  refine along_exceptPipeline (GatesReturn app request)
    (gates_along (hstart.append (by simp [Early, Query.among, Query.kind])))
    (fun history admitted hgates => ?_) (fun history status code message hgates => ?_)
    (fun history exn hgates hexn => ?_)
  · exact Along.call fun _ => ⟨trivial,
      readBody_along ((hgates requestId).append (Calm.single (by simp [Query.kind])))⟩
  · refine Along.call fun _ => ⟨trivial, ChatReturns.rejection ?_⟩
    rcases hgates with hunblocked | ⟨_, _, _, hexn, h403⟩
    · exact .inl (hunblocked.append (Calm.single (by simp [Query.kind])))
    · cases hexn
      exact .inr h403
  · rcases hgates with hunblocked | ⟨status, code, message, heq, _⟩
    · exact hunblocked
    · exact absurd heq (hexn status code message)

/-- The handler in its place. -/
theorem chat_serving (app : App) (request : HttpRequest) :
    Serving (Owes app request) (ChatReturns app request) fun _ => True where
  free _ hq := Owes.of_among hq (by decide)
  keeps history trace outcome hreturns hmem := by
    have hquiet : Quiet trace := Quiet.of_among hmem (by decide)
    cases outcome with
    | ok response =>
        exact ⟨fun hstatus => (hreturns.1 hstatus).append hquiet,
          hreturns.2.imp_left fun hunblocked => hunblocked.append hquiet.calm⟩
    | error exn => exact Unblocked.append hreturns hquiet.calm
  sends _ _ _ _ hreturns := ⟨hreturns, trivial⟩
  fails _ _ _ _ _ hreturns := ⟨ChatReturns.rejection (.inl hreturns), trivial⟩
  cancelled _ _ := trivial
  lasts _ _ _ _ := trivial
  pulls before ctx source headers answer after _ hreturns hmem := by
    refine ⟨⟨_, _, _, _, _, _, rfl, hreturns.1 rfl⟩, ?_⟩
    have hunblocked := hreturns.2.resolve_right (by simp [Response.statusCode])
    have hcalm : Calm (⟨.sendStart (.stream ctx source) headers, answer⟩ :: after) :=
      List.forall_mem_cons.mpr ⟨by simp [Query.kind], Calm.of_among hmem (by decide)⟩
    exact hunblocked.append hcalm

/-- **A chat request.** -/
theorem chat_job (app : App) (request : HttpRequest) :
    Program.Along (Owes app request) (fun _ _ => True) ((Job.chat request).run app).run [] :=
  (chat_serving app request).along_serve fun _ _ hmem =>
    chat_along (Early.of_among hmem (by simp))

/-- Every entry of a chat request has met its obligation. -/
theorem chat_meets {s : GatewayState} {c : Process} (h : (eventLoop app).Reachable s c)
    {past future : ProcessLog} {entry : Entry Answer GatewayState Job (Except Exn Unit)}
    {event : Event Answer} (hlog : c.log = past ++ entry :: future)
    (haction : entry.action = .did event) {thread : Thread Query Answer Job (Except Exn Unit)}
    (hthread : c.threads entry.tid = some thread) (hjob : thread.job = .chat request) :
    Owes app request (traceOf entry.tid past) event := by
  have halong : Program.Along (Owes app request) (fun _ _ => True)
      ((eventLoop app).program thread.job) [] := by
    rw [hjob]
    exact chat_job app request
  exact h.meets hlog haction hthread halong

end BedrockGateway
