/-
# Walking through a served request

Rules for obligations along a handler and along everything around it: the
middleware adds questions of no consequence before the handler, sends one
response after it, and whatever is sent rests on what the handler returned. A stream
is pulled after its start has been sent.
-/

import BedrockGateway.Api.Handling

namespace BedrockGateway

open Foundation Py
open Fallible (Along.call Along.bind Along.attempt Along.bind_of_only)

/-- The questions and answers of one request so far. -/
abbrev History := List (Event Answer)

variable {Φ : History → Event Answer → Prop} {history : History}

/-- `try: body except pipeline.PipelineError`: the three ways on. -/
theorem along_exceptPipeline {α β : Type} {body : Py α}
    {rejected : ErrorStatus → String → String → Py β} {next : α → Py β}
    {post : History → Except Exn β → Prop} (middle : History → Except Exn α → Prop)
    (hbody : Program.Along Φ middle body.run history)
    (hnext : ∀ history value, middle history (.ok value) →
      Program.Along Φ post (next value).run history)
    (hrejected : ∀ history status code message,
      middle history (.error (.pipeline status code message)) →
      Program.Along Φ post (rejected status code message).run history)
    (herror : ∀ history exn, middle history (.error exn) →
      (∀ status code message, exn ≠ .pipeline status code message) → post history (.error exn)) :
    Program.Along Φ post (exceptPipeline body rejected next).run history := by
  refine Along.bind (Along.attempt (hbody.mono fun history outcome hmiddle => ?_))
  cases outcome with
  | ok value => exact hnext history value hmiddle
  | error exn =>
      cases exn with
      | pipeline status code message => exact hrejected history status code message hmiddle
      | _ => exact herror history _ hmiddle (by simp)

/-! ## Around a handler -/

/-- What the walk around a handler needs to know: what the handler returns with,
what is then true once the response is started, that neither is disturbed by the
questions in between, and that a stream may be pulled once it has been started. -/
structure Serving (Φ : History → Event Answer → Prop)
    (returned : History → Except Exn Response → Prop) (done : History → Prop) : Prop where
  free : ∀ q, q.among aroundKinds → ∀ history answer, Φ history ⟨q, answer⟩
  keeps : ∀ history trace outcome, returned history outcome →
    (∀ event ∈ trace, event.query.among [.telemetry]) → returned (history ++ trace) outcome
  sends : ∀ history response headers answer, returned history (.ok response) →
    Φ history ⟨.sendStart response headers, answer⟩ ∧
      done (history ++ [⟨.sendStart response headers, answer⟩])
  fails : ∀ history exn requestId headers answer, returned history (.error exn) →
    Φ history ⟨.sendStart (errorResponse .internalServerError "INTERNAL_ERROR" "internal error"
        requestId) headers, answer⟩ ∧
      done (history ++ [⟨.sendStart (errorResponse .internalServerError "INTERNAL_ERROR"
        "internal error" requestId) headers, answer⟩])
  cancelled : ∀ history, returned history (.error .cancelled) → done history
  lasts : ∀ history trace, done history →
    (∀ event ∈ trace, event.query.among (.pull :: aroundKinds)) → done (history ++ trace)
  pulls : ∀ before ctx source headers answer after started,
    returned before (.ok (.stream ctx source)) →
    (∀ event ∈ after, event.query.among aroundKinds) →
    Φ (before ++ ⟨.sendStart (.stream ctx source) headers, answer⟩ :: after) ⟨.startStream, started⟩

section Serving

variable {returned : History → Except Exn Response → Prop} {done : History → Prop}

/-- After the response has been started, nothing is owed but for the pull of a stream. -/
theorem Serving.along_rest (h : Serving Φ returned done) {α : Type} {rest : Py α}
    (hasks : Asks aroundKinds rest) (hdone : done history) :
    Program.Along Φ (fun history _ => done history) rest.run history :=
  Program.Along.of_only hasks h.free fun trace _ _ hmem => h.lasts history trace hdone
    fun event hevent => List.mem_cons_of_mem _ (hmem event hevent)

/-- The questions of the middleware are free. -/
theorem Serving.telemetry (h : Serving Φ returned done) {q : Query} (hq : q.kind = .telemetry)
    (history : History) (answer : Answer q) : Φ history ⟨q, answer⟩ :=
  h.free q (by simp [Query.among, hq]) history answer

/-- One more question after the response has been started. -/
theorem Serving.done_append (h : Serving Φ returned done) {q : Query} (answer : Answer q)
    (hq : q.kind ∈ .pull :: aroundKinds) (hdone : done history) :
    done (history ++ [⟨q, answer⟩]) :=
  h.lasts history _ hdone fun event hmem => by rwa [List.mem_singleton.mp hmem]

/-- Consuming a stream that may be pulled. -/
theorem Serving.along_consumeOrReport (h : Serving Φ returned done) {ctx : StreamContext}
    {source : ChunkSource} (hpull : ∀ started, Φ history ⟨.startStream, started⟩)
    (hdone : done history) :
    Program.Along Φ (fun history _ => done history) (consumeOrReport ctx source).run history := by
  refine Along.bind (Along.attempt (Along.call fun started => ⟨hpull started, ?_⟩))
  have hstarted := h.done_append started (by simp [Query.kind]) hdone
  refine (h.along_rest ((asks_consumeChunks ..).mono (by simp)) hstarted).mono
    fun history outcome hdone => ?_
  cases outcome with
  | ok outcome => exact hdone
  | error exn =>
      cases exn with
      | bedrockInvocation message code retryable =>
          exact h.along_rest (Fallible.Only.bind (asks_reportStreamFailure ..) fun _ => trivial)
            hdone
      | _ => exact hdone

/-- Streaming a response that has been started. -/
theorem Serving.along_streamChatResponse (h : Serving Φ returned done) {ctx : StreamContext}
    {source : ChunkSource}
    (hpull : ∀ after started, (∀ event ∈ after, event.query.among aroundKinds) →
      Φ (history ++ after) ⟨.startStream, started⟩) (hdone : done history) :
    Program.Along Φ (fun history _ => done history)
      (streamChatResponse ctx source).run history := by
  refine Along.call fun start => ⟨h.telemetry rfl _ _, ?_⟩
  have hstart := h.done_append (q := .perfCounter) start (by simp [Query.kind]) hdone
  have hpulled : ∀ started, Φ (history ++ [⟨.perfCounter, start⟩]) ⟨.startStream, started⟩ :=
    fun started => hpull _ started (by simp [Query.among, Query.kind])
  refine Along.bind (Along.bind (Along.attempt
    ((h.along_consumeOrReport hpulled hstart).mono fun history outcome hdone => ?_)))
  have hclose : Asks aroundKinds (ask .closeChunks >>= settle) :=
    asks_call (by simp [Query.kind]) asks_settle
  refine (h.along_rest (Fallible.Only.bind hclose fun _ => asks_settle outcome) hdone).mono
    fun history found hdone => ?_
  cases found with
  | error exn => exact hdone
  | ok found =>
      cases found with
      | none => exact hdone
      | some outcome => exact h.along_rest (asks_reportStreamEnd ..) hdone

/-- Sending a response. -/
theorem Serving.along_sendResponse (h : Serving Φ returned done) {response : Response}
    {headers : List (String × String)}
    (hstart : ∀ answer, Φ history ⟨.sendStart response (responseHeaders headers response), answer⟩ ∧
      done (history ++ [⟨.sendStart response (responseHeaders headers response), answer⟩]))
    (hreturned : ∀ ctx source, response = .stream ctx source → returned history (.ok response)) :
    Program.Along Φ (fun history _ => done history)
      (sendResponse headers response).run history := by
  refine Along.bind (Along.call fun answer => ⟨(hstart answer).1, ?_⟩)
  have hdone := (hstart answer).2
  cases answer with
  | error exn => exact hdone
  | ok sent =>
      cases response with
      | json statusCode content =>
          exact h.along_rest (asks_call (by simp [Query.kind]) asks_settle) hdone
      | stream ctx source =>
          refine Along.bind ((h.along_streamChatResponse (fun after started hafter => ?_)
            hdone).mono fun history outcome hdone => ?_)
          · rw [← List.append_cons]
            exact h.pulls _ _ _ _ _ _ _ (hreturned ctx source rfl) hafter
          · cases outcome with
            | error exn => exact hdone
            | ok done => exact h.along_rest (asks_sendText_around "") hdone

/-- An exception that escapes the handler. -/
theorem Serving.along_unhandledError (h : Serving Φ returned done) {app : App}
    {request : HttpRequest} {requestId : String} {exn : Exn}
    (hreturned : returned history (.error exn)) :
    Program.Along Φ (fun history _ => done history)
      (unhandledError app request requestId false exn).run history := by
  have hreport : Program.Along Φ (fun history _ => done history)
      (do
        let _ ← ask (.log {
          logger := "gateway.main", level := "ERROR", message := "unhandled exception"
          requestId := some requestId, error := some (exn.str app.text)
          fields := [("path", .str request.path)] })
        let _ ← sendUnlessStarted requestId false
        throw exn : Py Unit).run history := by
    refine Along.call fun answer => ⟨h.free _ (by simp [Query.among, Query.kind]) _ _, ?_⟩
    have hlogged := h.keeps _ _ _ hreturned (by simp [Query.among, Query.kind] :
      ∀ event ∈ [(⟨.log _, answer⟩ : Event Answer)], event.query.among [.telemetry])
    refine Along.bind ((h.along_sendResponse (fun answer => h.fails _ _ _ _ _ hlogged)
      (by simp [errorResponse])).mono
      fun history outcome hdone => ?_)
    cases outcome <;> exact hdone
  cases exn with
  | cancelled => exact h.cancelled history hreturned
  | _ => exact hreport

theorem Serving.along_requestIdOf (h : Serving Φ returned done) {request : HttpRequest}
    {f : String → Py Unit} {post : History → Except Exn Unit → Prop}
    (hnext : ∀ requestId trace, (∀ event ∈ trace, event.query.among [.telemetry]) →
      Program.Along Φ post (f requestId).run (history ++ trace)) :
    Program.Along Φ post (requestIdOf request >>= f).run history := by
  unfold requestIdOf
  split
  · have hgiven := hnext ‹String› [] (by simp)
    rwa [List.append_nil] at hgiven
  · refine Along.call fun made => ⟨h.telemetry rfl _ _, hnext made _ ?_⟩
    simp [Query.among, Query.kind]

theorem Serving.along_accessLog (h : Serving Φ returned done) {request : HttpRequest}
    {requestId : String} {start : ℚ} {statusCode : ℕ} {f : Unit → Py Unit}
    {post : History → Except Exn Unit → Prop}
    (hnext : ∀ trace, (∀ event ∈ trace, event.query.among [.telemetry]) →
      Program.Along Φ post (f ()).run (history ++ trace)) :
    Program.Along Φ post (accessLog request requestId start statusCode >>= f).run history := by
  refine Along.bind (Along.call fun stop => ⟨h.telemetry rfl _ _, fun logged => ?_⟩)
  refine ⟨h.telemetry rfl _ _, ?_⟩
  have hlogged := hnext [⟨.perfCounter, stop⟩, ⟨.log _, logged⟩] (by
    simp [Query.among, Query.kind])
  rwa [List.append_cons] at hlogged

/-- **Serving a request.** -/
theorem Serving.along_serve (h : Serving Φ returned done) {app : App} {request : HttpRequest}
    {handler : String → Py Response}
    (hhandler : ∀ requestId history, (∀ event ∈ history, event.query.among [.telemetry]) →
      Program.Along Φ returned (handler requestId).run history) :
    Program.Along Φ (fun history _ => done history) (serve app request handler).run [] := by
  refine h.along_requestIdOf fun requestId idTrace hid => ?_
  refine Along.call fun start => ⟨h.telemetry rfl _ _, ?_⟩
  have hbefore : ∀ event ∈ [] ++ idTrace ++ [(⟨.perfCounter, start⟩ : Event Answer)],
      event.query.among [.telemetry] := by
    intro event hmem
    rcases List.mem_append.mp hmem with hmem | hmem
    · exact hid event (by simpa using hmem)
    · simp [List.mem_singleton.mp hmem, Query.among, Query.kind]
  refine Along.bind (Along.attempt ((hhandler requestId _ hbefore).mono
    fun history outcome hreturned => ?_))
  cases outcome with
  | error exn =>
      exact h.along_accessLog fun trace hmem =>
        h.along_unhandledError (h.keeps _ _ _ hreturned hmem)
  | ok response =>
      refine h.along_accessLog fun trace hmem => ?_
      have hlogged := h.keeps _ _ _ hreturned hmem
      refine Along.bind (Along.attempt ((h.along_sendResponse (fun answer =>
        h.sends _ _ _ _ hlogged) fun _ _ _ => hlogged).mono fun history outcome hdone => ?_))
      cases outcome with
      | error exn => exact h.along_rest (asks_unhandledError ..) hdone
      | ok sent => exact hdone

end Serving

end BedrockGateway
