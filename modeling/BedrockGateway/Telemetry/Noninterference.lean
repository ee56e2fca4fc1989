/-
# Telemetry does not depend on the conversation

Two runs of the event loop serve the same chat request, and everything that
reaches them from outside is the same, except for texts. Then both emit the same
log records and the same span attributes, whichever way the request ends.

The handler mirrors itself, and so does what follows it: the stream, the
middleware and the reply to an exception nobody caught.
-/

import BedrockGateway.Telemetry.Mirrors

namespace BedrockGateway

open Foundation Py
open Fallible (InStep Both)
open Machine (Moment momentsOf)

variable {app : App} {classes : CharClasses}

/-! ## The stream -/

theorem mirrors_sendText (text text' : String) :
    Mirrors app classes Eq (sendText text) (sendText text') :=
  mirrors_settled (.sendBody (.bytes text)) (.sendBody (.bytes text')) trivial
    fun _ _ h => eq_of_heq h

/-- What the loops leave behind differs in texts only. -/
structure OutcomesAlike (outcome outcome' : StreamOutcome) : Prop where
  generatedChunks : outcome.generatedChunks = outcome'.generatedChunks
  aborted : outcome.aborted = outcome'.aborted

/-- The loop, chunk by chunk: corresponding chunks are sent or skipped together. -/
theorem mirrors_consumeChunks (raises : Option Exn) {outcome outcome' : StreamOutcome}
    (houtcome : OutcomesAlike outcome outcome') {chunks chunks' : List StreamChunk}
    (hchunks : chunks.map StreamChunk.masked = chunks'.map StreamChunk.masked) :
    Mirrors app classes OutcomesAlike (consumeChunks raises outcome chunks)
      (consumeChunks raises outcome' chunks') := by
  induction chunks generalizing outcome outcome' chunks' with
  | nil =>
      rw [List.map_eq_nil_iff.mp hchunks.symm]
      unfold consumeChunks
      split
      · exact InStep.throw _
      · exact InStep.pure houtcome
  | cons chunk rest ih =>
      cases chunks' with
      | nil => cases hchunks
      | cons chunk' rest' =>
          obtain ⟨hchunk, hrest⟩ := List.cons.inj hchunks
          have hempty := StreamChunk.textDelta_eq_empty_iff hchunk
          apply InStep.bind (mirrors_settled .isDisconnected .isDisconnected rfl
            fun _ _ h => eq_of_heq h)
          intro disconnected disconnected' hsame
          subst hsame
          split
          · exact InStep.pure ⟨houtcome.generatedChunks, rfl⟩
          · dsimp only
            by_cases htext : chunk.textDelta = ""
            · rw [if_pos htext, if_pos (hempty.mp htext)]
              apply ih _ hrest
              exact ⟨houtcome.generatedChunks, houtcome.aborted⟩
            · rw [if_neg htext, if_neg (mt hempty.mpr htext)]
              apply InStep.bind (mirrors_sendText _ _)
              intro _ _ _
              apply ih _ hrest
              exact ⟨congrArg (· + 1) houtcome.generatedChunks, houtcome.aborted⟩

theorem mirrors_reportStreamFailure (ctx : StreamContext) (message : String) :
    Mirrors app classes Eq (reportStreamFailure ctx message) (reportStreamFailure ctx message) := by
  apply mirrors_call (by simp [Query.kind])
  intro _
  apply InStep.bind (mirrors_sendText _ _)
  intro _ _ _
  apply InStep.bind (mirrors_sendText _ _)
  intro _ _ _
  exact InStep.ask (Query.Alike.refl _) fun _ _ htold => eq_of_heq htold

theorem mirrors_reportStreamEnd (ctx : StreamContext) (start : ℚ)
    {outcome outcome' : StreamOutcome} (h : OutcomesAlike outcome outcome') :
    Mirrors app classes Eq (reportStreamEnd ctx start outcome)
      (reportStreamEnd ctx start outcome') := by
  have hrecord : Mirrors app classes Eq (recordStreamEnd ctx outcome)
      (recordStreamEnd ctx outcome') := by
    unfold recordStreamEnd
    rw [h.aborted]
    split
    · exact InStep.pure rfl
    · exact InStep.ask (Query.Alike.refl _) fun _ _ htold => eq_of_heq htold
  apply InStep.bind hrecord
  intro _ _ _
  apply mirrors_call (by simp [Query.kind])
  intro stop
  apply InStep.bind (mirrors_sendText _ _)
  intro _ _ _
  rw [h.aborted, h.generatedChunks]
  exact InStep.ask (Query.Alike.refl _) fun _ _ htold => eq_of_heq htold

theorem mirrors_tryFinally {α : Type} {post : α → α → Prop} {body body' : Py α}
    {cleanup : Py Unit} (hbody : Mirrors app classes post body body')
    (hcleanup : Mirrors app classes Eq cleanup cleanup) :
    Mirrors app classes post (tryFinally body cleanup) (tryFinally body' cleanup) := by
  apply InStep.bind (InStep.attempt hbody)
  intro outcome outcome' hboth
  apply InStep.bind hcleanup
  intro _ _ _
  exact mirrors_settle hboth

theorem mirrors_forChunks {source source' : ChunkSource} (h : source.masked = source'.masked) :
    Mirrors app classes OutcomesAlike (forChunks source) (forChunks source') := by
  have hchunks := congrArg ChunkSource.chunks h
  have hraises := congrArg ChunkSource.raises h
  simp only [ChunkSource.masked] at hchunks hraises
  apply InStep.call (Query.Alike.refl .startStream)
  intro _ _ _
  rw [hraises]
  exact mirrors_consumeChunks source'.raises ⟨rfl, rfl⟩ hchunks

theorem mirrors_consumeOrReport (ctx : StreamContext) {source source' : ChunkSource}
    (h : source.masked = source'.masked) :
    Mirrors app classes (Option.Rel OutcomesAlike) (consumeOrReport ctx source)
      (consumeOrReport ctx source') := by
  apply InStep.bind (InStep.attempt (mirrors_forChunks h))
  intro outcome outcome' hboth
  cases outcome with
  | ok outcome =>
      cases outcome' with
      | error exn' => exact hboth.elim
      | ok outcome' => exact InStep.pure (.some hboth)
  | error exn =>
      cases outcome' with
      | ok outcome' => exact hboth.elim
      | error exn' =>
          obtain rfl : exn = exn' := hboth
          cases exn with
          | bedrockInvocation message code retryable =>
              apply InStep.bind (mirrors_reportStreamFailure ctx message)
              intro _ _ _
              exact InStep.pure .none
          | _ => exact InStep.throw _

theorem mirrors_streamChatResponse (ctx : StreamContext) {source source' : ChunkSource}
    (h : source.masked = source'.masked) :
    Mirrors app classes Eq (streamChatResponse ctx source) (streamChatResponse ctx source') := by
  apply mirrors_call (by simp [Query.kind])
  intro start
  have hclose : Mirrors app classes Eq (ask .closeChunks >>= settle)
      (ask .closeChunks >>= settle) :=
    mirrors_settled .closeChunks .closeChunks rfl fun _ _ htold => eq_of_heq htold
  apply InStep.bind (mirrors_tryFinally (mirrors_consumeOrReport ctx h) hclose)
  intro left left' hleft
  cases hleft with
  | none => exact InStep.pure rfl
  | some houtcome => exact mirrors_reportStreamEnd ctx start houtcome

/-! ## Around the handler -/

theorem mirrors_sendResponse (headers : List (String × String)) {response response' : Response}
    (h : ResponsesAlike response response') :
    Mirrors app classes Eq (sendResponse headers response) (sendResponse headers response') := by
  have hheaders : responseHeaders headers response = responseHeaders headers response' := by
    cases response <;> cases response' <;> first | rfl | exact h.elim
  apply InStep.bind (mirrors_settled (.sendStart response _) (.sendStart response' _) ⟨h, hheaders⟩
    fun _ _ htold => eq_of_heq htold)
  intro _ _ _
  cases response with
  | json statusCode content =>
      cases response' with
      | stream ctx' source' => exact h.elim
      | json statusCode' content' =>
          exact mirrors_settled (.sendBody (.json content)) (.sendBody (.json content')) trivial
            fun _ _ htold => eq_of_heq htold
  | stream ctx source =>
      cases response' with
      | json statusCode' content' => exact h.elim
      | stream ctx' source' =>
          obtain ⟨rfl, hsource⟩ := h
          apply InStep.bind (mirrors_streamChatResponse ctx hsource)
          intro _ _ _
          exact mirrors_sendText _ _

theorem mirrors_unhandledError (request : HttpRequest) (requestId : String)
    (responseStarted : Bool) (exn : Exn) :
    Mirrors app classes Eq (unhandledError app request requestId responseStarted exn)
      (unhandledError app request requestId responseStarted exn) := by
  unfold unhandledError
  split
  · exact InStep.throw _
  · apply mirrors_call (by simp [Query.kind])
    intro _
    have hsend : Mirrors app classes Eq (sendUnlessStarted requestId responseStarted)
        (sendUnlessStarted requestId responseStarted) := by
      unfold sendUnlessStarted
      split
      · exact InStep.pure rfl
      · exact mirrors_sendResponse [] rfl
    apply InStep.bind hsend
    intro _ _ _
    exact InStep.throw _

theorem mirrors_accessLog (request : HttpRequest) (requestId : String) (start : ℚ)
    (statusCode : ℕ) :
    Mirrors app classes Eq (accessLog request requestId start statusCode)
      (accessLog request requestId start statusCode) :=
  mirrors_textless (asks_accessLog request requestId start statusCode) (by simp) fun _ => rfl

/-- **A served chat request mirrors itself.** -/
theorem mirrors_serve (request : HttpRequest) :
    Mirrors app classes Eq (serve app request (chat app request))
      (serve app request (chat app request)) := by
  have hid : Mirrors app classes Eq (requestIdOf request) (requestIdOf request) :=
    mirrors_textless (asks_requestIdOf request) (by simp) fun _ => rfl
  apply InStep.bind hid
  intro requestId requestId' hsame
  subst hsame
  apply mirrors_call (by simp [Query.kind])
  intro start
  apply InStep.bind (InStep.attempt (mirrors_chat request requestId))
  intro outcome outcome' hboth
  cases outcome with
  | error exn =>
      cases outcome' with
      | ok response' => exact hboth.elim
      | error exn' =>
          obtain rfl : exn = exn' := hboth
          apply InStep.bind (mirrors_accessLog request requestId start 500)
          intro _ _ _
          exact mirrors_unhandledError request requestId false exn
  | ok response =>
      cases outcome' with
      | error exn' => exact hboth.elim
      | ok response' =>
          have halike : ResponsesAlike response response' := hboth
          have hstatus : response.statusCode = response'.statusCode := by
            cases response <;> cases response' <;>
              first | exact halike | exact halike.elim | rfl
          dsimp only
          rw [hstatus]
          apply InStep.bind (mirrors_accessLog request requestId start _)
          intro _ _ _
          apply InStep.bind (InStep.attempt
            (mirrors_sendResponse [("x-request-id", requestId)] halike))
          intro sent sent' hsent
          cases sent with
          | ok value =>
              cases sent' with
              | ok value' => exact InStep.pure rfl
              | error exn' => exact hsent.elim
          | error exn =>
              cases sent' with
              | ok value' => exact hsent.elim
              | error exn' =>
                  obtain rfl : exn = exn' := hsent
                  exact mirrors_unhandledError request requestId true exn

/-! ## The telemetry of two runs -/

/-- What a thread has emitted. -/
def emissionsOf (tid : ℕ) (log : ProcessLog) : List Emission :=
  (traceOf tid log).filterMap fun event => event.query.emission

theorem emissionsOf_eq (tid : ℕ) (log : ProcessLog) :
    emissionsOf tid log =
      (momentsOf tid log).filterMap fun m => m.event.query.emission := by
  rw [emissionsOf, ← Machine.map_event_momentsOf, List.filterMap_map]
  rfl

/-- **Telemetry does not depend on the conversation.** Two threads serve the same
chat request, started in states that agree on everything but texts, and everything
else is alike but for texts whenever they ask alike questions at corresponding moments.
Then each has emitted what the other has, as far as it got; and if both have finished,
exactly that. -/
theorem telemetry_eq_of_alike {init init' s s' : GatewayState} {run run' : Process}
    {tid tid' : ℕ} {request : HttpRequest} (h : (eventLoop app).Reachable init run)
    (h' : (eventLoop app).Reachable init' run')
    (hstart : ⟨tid, .start (.chat request), s, s⟩ ∈ run.log)
    (hstart' : ⟨tid', .start (.chat request), s', s'⟩ ∈ run'.log)
    (hstates : SameButTexts s s')
    (halike : ∀ pair ∈ (momentsOf tid run.log).zip (momentsOf tid' run'.log),
      pair.1.event.query.Alike pair.2.event.query → MomentsAlike app classes pair.1 pair.2) :
    (emissionsOf tid run.log <+: emissionsOf tid' run'.log ∨
        emissionsOf tid' run'.log <+: emissionsOf tid run.log) ∧
      ∀ result result', run.threads tid = some ⟨.chat request, .ret result⟩ →
        run'.threads tid' = some ⟨.chat request, .ret result'⟩ →
        emissionsOf tid run.log = emissionsOf tid' run'.log := by
  obtain ⟨rest, hthread⟩ := h.thread_of_start hstart rfl
  obtain ⟨rest', hthread'⟩ := h'.thread_of_start hstart' rfl
  have hreaches := h.reaches hthread
  have hreaches' := h'.reaches hthread'
  rw [← Machine.map_event_momentsOf] at hreaches hreaches'
  obtain ⟨hasked, hlength⟩ := (eventLoop_indistinct app classes).asked (mirrors_serve request)
    hreaches hreaches' (h.unbroken hstart) (h'.unbroken hstart') hstates halike
  have hemitted : ∀ pair ∈ (momentsOf tid run.log).zip (momentsOf tid' run'.log),
      pair.1.event.query.emission = pair.2.event.query.emission :=
    fun pair hmem => (hasked pair hmem).emission
  rw [emissionsOf_eq, emissionsOf_eq]
  constructor
  · exact filterMap_comparable hemitted
  · intro result result' hdone hdone'
    rw [hdone] at hthread
    rw [hdone'] at hthread'
    cases hthread
    cases hthread'
    exact filterMap_eq_of_zip hemitted (hlength ⟨_, rfl⟩ ⟨_, rfl⟩)

/-! ### Two conversations -/

/-- A chat request's body with this message. -/
def messageBody (content : String) : Json :=
  .obj [("messages", .arr [.obj [("role", .str "user"), ("content", .str content)]])]

/-- An outside world in which this message is sent, the model gives this reply, and the
basic guardrail decides. -/
def talkingWorld (content reply : String) : (q : Query) → Answer q
  | .requestJson => .ok (messageBody content)
  | .checkInput text _ => .ok (BasicGuardrail.check App.oneKey.text .ascii text)
  | .checkOutput text _ => .ok (BasicGuardrail.check App.oneKey.text .ascii text)
  | .converse _ _ _ _ => .ok {
      text := reply, inputTokens := 1, outputTokens := 1, stopReason := none
      latencyMs := zeroFloat }
  | q => servingWorld helloBody q

/-- A request with this message, answered. -/
def talk (content reply : String) : Process :=
  (eventLoopDriver App.oneKey).play (Machine.initial (.fresh 0 oneTenant)) [
    { tid := 0, job := some (.chat operatorRequest), oracle := talkingWorld content reply },
    { tid := 0, oracle := talkingWorld content reply },
    { tid := 0, oracle := talkingWorld content reply },
    { tid := 0, oracle := talkingWorld content reply }]

theorem talk_responds (content reply : String) :
    (eventLoopDriver App.oneKey).Responds (talkingWorld content reply) (talk content reply).log :=
  Driver.play_responds _ (by simp) _

theorem validationOutcome_messageBody {content : String}
    (h : (validationOutcome App.oneKey.validation (messageBody content)).isOk = true) :
    validationOutcome App.oneKey.validation (messageBody content) = .ok () := by
  cases hvalid : validationOutcome App.oneKey.validation (messageBody content) with
  | ok value => rfl
  | error issue =>
      rw [hvalid] at h
      cases h

/-- What the guardrail decides about a checked text. -/
def Query.decision : Query → Option GuardrailDecision
  | .checkInput text _ => some (BasicGuardrail.check App.oneKey.text .ascii text)
  | .checkOutput text _ => some (BasicGuardrail.check App.oneKey.text .ascii text)
  | _ => none

/-- A lookup that misses, or no lookup. -/
def missed : Event Answer → Bool
  | ⟨.cacheGet _, found⟩ => found.isNone
  | _ => true

/-- What has to be computed about corresponding moments of two talks. -/
def Corresponding (m m' : Moment Answer GatewayState) : Prop :=
  m.event.query.ctorIdx = m'.event.query.ctorIdx ∧ m.before.now = m'.before.now ∧
    m.event.query.decision = m'.event.query.decision ∧
    (m.before.policies = m'.before.policies ∧ m.before.snapshots = m'.before.snapshots ∧
      m.before.buckets = m'.before.buckets ∧ m.before.breakers = m'.before.breakers) ∧
    missed m.event = true ∧ missed m'.event = true

instance (m m' : Moment Answer GatewayState) : Decidable (Corresponding m m') := by
  unfold Corresponding
  infer_instance

theorem Corresponding.alike {content reply content' reply' : String}
    {m m' : Moment Answer GatewayState} (h : Corresponding m m')
    (hbodies : BodiesAlike App.oneKey.validation (messageBody content) (messageBody content'))
    (hanswer : m.event.answer =
      (respond App.oneKey (talkingWorld content reply) m.before m.event.query).1)
    (hanswer' : m'.event.answer =
      (respond App.oneKey (talkingWorld content' reply') m'.before m'.event.query).1) :
    MomentsAlike App.oneKey .ascii m m' := by
  obtain ⟨hidx, hnow, hdecision, ⟨hpolicies, hsnapshots, hbuckets, hbreakers⟩, hmissed,
    hmissed'⟩ := h
  refine ⟨hnow, fun _ => ⟨hpolicies, hsnapshots, hbuckets, hbreakers⟩, fun houtside => ?_⟩
  obtain ⟨s, ⟨q, a⟩, t⟩ := m
  obtain ⟨s', ⟨q', a'⟩, t'⟩ := m'
  dsimp only at hanswer hanswer' houtside hidx
  -- Only questions to the outside remain, each paired with one of its own kind.
  cases q <;> simp only [answer, reduceCtorEq, false_or, exists_false] at houtside <;>
    cases q' <;> first | exact absurd hidx (of_decide_eq_false rfl) | skip
  case cacheGet.cacheGet =>
    rw [missed, Option.isNone_iff_eq_none] at hmissed hmissed'
    subst hmissed hmissed'
    rfl
  case requestJson.requestJson =>
    subst hanswer hanswer'
    exact hbodies
  case checkInput.checkInput =>
    subst hanswer hanswer'
    exact ⟨rfl, rfl, Option.some.inj hdecision⟩
  case checkOutput.checkOutput =>
    subst hanswer hanswer'
    exact ⟨rfl, rfl, Option.some.inj hdecision⟩
  all_goals
    subst hanswer hanswer'
    first | exact HEq.rfl | rfl

theorem talks_alike : ∀ pair ∈ (momentsOf 0 (talk "hi" "hello").log).zip
    (momentsOf 0 (talk "How are you?" "Fine.").log),
    MomentsAlike App.oneKey .ascii pair.1 pair.2 := by
  have hbodies : BodiesAlike App.oneKey.validation (messageBody "hi")
      (messageBody "How are you?") := by
    apply And.intro rfl
    rw [validationOutcome_messageBody (by decide +kernel),
      validationOutcome_messageBody (by decide +kernel)]
  have hcorresponding : ∀ pair ∈ (momentsOf 0 (talk "hi" "hello").log).zip
      (momentsOf 0 (talk "How are you?" "Fine.").log), Corresponding pair.1 pair.2 := by
    decide +kernel
  have hanswered {content reply : String} {m : Moment Answer GatewayState}
      (hm : m ∈ momentsOf 0 (talk content reply).log) : m.event.answer =
        (respond App.oneKey (talkingWorld content reply) m.before m.event.query).1 := by
    obtain ⟨entry, hentry, hofEntry⟩ := List.mem_filterMap.mp hm
    obtain ⟨event, haction, rfl⟩ := Option.map_eq_some_iff.mp hofEntry
    apply talk_responds content reply entry (List.mem_of_mem_filter hentry) event
    cases hkind : entry.action with
    | did other =>
        rw [hkind] at haction
        exact congrArg Action.did (Option.some.inj haction)
    | start job =>
        rw [hkind] at haction
        cases haction
    | finish result =>
        rw [hkind] at haction
        cases haction
  intro pair hmem
  obtain ⟨hleft, hright⟩ := List.of_mem_zip hmem
  exact (hcorresponding pair hmem).alike hbodies (hanswered hleft) (hanswered hright)

/-- The two conversations leave the same telemetry. -/
theorem telemetry_eq_of_alike_talks :
    (emissionsOf 0 (talk "hi" "hello").log <+: emissionsOf 0 (talk "How are you?" "Fine.").log ∨
      emissionsOf 0 (talk "How are you?" "Fine.").log <+: emissionsOf 0 (talk "hi" "hello").log) ∧
    ∀ result result',
      (talk "hi" "hello").threads 0 = some ⟨.chat operatorRequest, .ret result⟩ →
      (talk "How are you?" "Fine.").threads 0 = some ⟨.chat operatorRequest, .ret result'⟩ →
      emissionsOf 0 (talk "hi" "hello").log = emissionsOf 0 (talk "How are you?" "Fine.").log :=
  telemetry_eq_of_alike (Driver.play_reachable _ _ _) (Driver.play_reachable _ _ _)
    (Driver.start_mem_play _ _ rfl _) (Driver.start_mem_play _ _ rfl _) ⟨rfl, rfl, rfl, rfl⟩
    fun pair hmem _ => talks_alike pair hmem

end BedrockGateway
