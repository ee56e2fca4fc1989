/-
# Request correlation

Everything a request leaves behind carries its id: the client's, if it sent one, or
else a fresh one. There is one access line for every request, written before the
response is started and with its status, whatever the handler did and however the
request ended.

The path of a request goes through three stages, told apart by the access lines and
the responses so far. Within a stage every event leaves both as they are.
-/

import BedrockGateway.Api.StateChanges
import BedrockGateway.Telemetry.LogFormat

namespace BedrockGateway

open Foundation Py
open Fallible (Along.call Along.bind Along.attempt Along.bind_of_only Only.bind Only.pure Only.throw
  Only.ask Only.attempt)

/-! ## What a request leaves behind -/

/-- A response as it is started, with its headers. -/
abbrev Reply := Response × List (String × String)

/-- The record that a question logs. -/
def Query.record? : Query → Option LogRecord
  | .log record => some record
  | _ => none

/-- The response that a question starts. -/
def Query.reply? : Query → Option Reply
  | .sendStart response headers => some (response, headers)
  | _ => none

/-- The request id that a question files a capture under. -/
def Query.captured? : Query → Option String
  | .debugCapture requestId _ _ _ => some requestId
  | _ => none

/-- The records of a trace. -/
def logRecordsOf (trace : History) : List LogRecord :=
  trace.filterMap fun event => event.query.record?

/-- The responses started in a trace. -/
def repliesOf (trace : History) : List Reply := trace.filterMap fun event => event.query.reply?

/-- A response of a trace was started in it. -/
theorem exists_start_of_mem {trace : History} {reply : Reply} (h : reply ∈ repliesOf trace) :
    ∃ before answer after, trace = before ++ ⟨.sendStart reply.1 reply.2, answer⟩ :: after := by
  obtain ⟨⟨q, answer⟩, hevent, hreply⟩ := List.mem_filterMap.mp h
  obtain ⟨before, after, rfl⟩ := List.append_of_mem hevent
  cases q with
  | sendStart response headers =>
      obtain rfl := Option.some.inj hreply
      exact ⟨before, answer, after, rfl⟩
  | _ => cases hreply

/-- The request ids of the captures of a trace. -/
def capturesOf (trace : History) : List String :=
  trace.filterMap fun event => event.query.captured?

/-- A line of the access log. -/
def LogRecord.isAccess (record : LogRecord) : Bool := record.logger = "gateway.access"

/-- The lines of the access log in a trace. -/
def accessesOf (trace : History) : List LogRecord := (logRecordsOf trace).filter LogRecord.isAccess

/-- The first id drawn in a trace. -/
def drawnId (trace : History) : Option String :=
  trace.findSome? fun
    | ⟨.newUuid, requestId⟩ => some requestId
    | _ => none

/-- The id of a request: the client's, or else the first one drawn. -/
def idOf (request : HttpRequest) (trace : History) : Option String :=
  (request.requestId.filter (· ≠ "")).or (drawnId trace)

/-- The response carries the id; the header is missing from an unhandled error only. -/
structure Reply.Carries (requestId : String) (reply : Reply) : Prop where
  names : reply.1.Names requestId
  stamped : ("x-request-id", requestId) ∈ reply.2 ∨
    reply.1 = errorResponse .internalServerError "INTERNAL_ERROR" "internal error" requestId

/-- The access lines and responses a request may have left behind. -/
inductive Lifecycle (requestId : String) : List LogRecord → List Reply → Prop
  | handling : Lifecycle requestId [] []
  | logged (access : LogRecord) : Lifecycle requestId [access] []
  | replied (access : LogRecord) (reply : Reply)
      (status : ("status", .int reply.1.statusCode) ∈ access.fields)
      (carries : reply.Carries requestId) : Lifecycle requestId [access] [reply]

/-- What a request with this id has left behind. -/
structure Left (request : HttpRequest) (requestId : String) (accesses : List LogRecord)
    (replies : List Reply) (trace : History) : Prop where
  id_eq : idOf request trace = some requestId
  records : ∀ record ∈ logRecordsOf trace,
    record.requestId = some requestId ∧ record.loggable = true
  captures : ∀ captured ∈ capturesOf trace, captured = requestId
  accesses_eq : accessesOf trace = accesses
  replies_eq : repliesOf trace = replies

/-- Everything a request has left behind is correlated. -/
def Correlated (request : HttpRequest) (trace : History) : Prop :=
  trace = [] ∨ ∃ requestId accesses replies,
    Lifecycle requestId accesses replies ∧ Left request requestId accesses replies trace

/-! ## One more event -/

section Left

variable {request : HttpRequest} {requestId : String} {accesses : List LogRecord}
variable {replies : List Reply} {history : History}

theorem idOf_append (h : idOf request history = some requestId) (more : History) :
    idOf request (history ++ more) = some requestId := by
  unfold idOf drawnId at *
  cases hclient : request.requestId.filter (· ≠ "") with
  | some client =>
      rw [hclient, Option.some_or] at h
      rw [Option.some_or, h]
  | none =>
      rw [hclient, Option.none_or] at h
      rw [Option.none_or, List.findSome?_append, h, Option.some_or]

/-- The records of an event name the request and can be logged. -/
def Query.Filed (requestId : String) (q : Query) : Prop :=
  (∀ record ∈ q.record?, record.requestId = some requestId ∧ record.loggable = true) ∧
    ∀ captured ∈ q.captured?, captured = requestId

/-- What one more event leaves behind. -/
theorem Left.snoc (h : Left request requestId accesses replies history) (event : Event Answer)
    (hfiled : event.query.Filed requestId) :
    Left request requestId (accesses ++ event.query.record?.toList.filter LogRecord.isAccess)
      (replies ++ event.query.reply?.toList) (history ++ [event]) where
  id_eq := idOf_append h.id_eq _
  records record hrecord := by
    rw [logRecordsOf, List.filterMap_append, List.mem_append] at hrecord
    rcases hrecord with hbefore | hnow
    · exact h.records record hbefore
    · exact hfiled.1 record (by simpa using hnow)
  captures captured hcaptured := by
    rw [capturesOf, List.filterMap_append, List.mem_append] at hcaptured
    rcases hcaptured with hbefore | hnow
    · exact h.captures captured hbefore
    · exact hfiled.2 captured (by simpa using hnow)
  accesses_eq := by
    rw [accessesOf, logRecordsOf, List.filterMap_append, List.filter_append]
    refine congrArg₂ (· ++ ·) h.accesses_eq ?_
    cases hrecord : event.query.record? <;> simp [hrecord]
  replies_eq := by
    rw [repliesOf, List.filterMap_append]
    refine congrArg₂ (· ++ ·) h.replies_eq ?_
    cases hreply : event.query.reply? <;> simp [hreply]

/-- The question is filed under the request, writes no access line and starts nothing. -/
structure Query.Correlates (requestId : String) (q : Query) : Prop where
  filed : q.Filed requestId
  quiet : ∀ record ∈ q.record?, record.isAccess = false
  silent : q.reply? = none

/-- Within a stage nothing changes. -/
theorem Left.keep (h : Left request requestId accesses replies history) (event : Event Answer)
    (hevent : event.query.Correlates requestId) :
    Left request requestId accesses replies (history ++ [event]) := by
  have hsnoc := h.snoc event hevent.filed
  have haccesses : event.query.record?.toList.filter LogRecord.isAccess = [] := by
    rw [List.filter_eq_nil_iff]
    intro record hrecord
    simpa using hevent.quiet record (by simpa using hrecord)
  rwa [haccesses, hevent.silent, Option.toList_none, List.append_nil, List.append_nil] at hsnoc

end Left

/-! ## The handlers -/

theorem loggable_of_mem_loggedNames {names : List String} (h : names ∈ loggedNames) :
    loggableNames names = true := by
  have hall : loggedNames.all loggableNames = true := by decide +kernel
  exact List.all_eq_true.mp hall names h

section Handlers

variable {app : App} {request : HttpRequest} {requestId : String} {history : History}

/-- The kinds of questions that leave nothing behind. -/
abbrev quietKinds : List QueryKind :=
  [.caller, .policy, .control, .rate, .guardrail, .model, .breaker, .cache, .client, .pull]

theorem correlates_quiet {q : Query} (hq : q.among quietKinds) : q.Correlates requestId := by
  cases q with
  | debugCapture | sendStart | perfCounter | newUuid | setSpanAttributes | log =>
      simp [Query.among, Query.kind] at hq
  | _ => exact ⟨⟨by simp [Query.record?], by simp [Query.captured?]⟩, by simp [Query.record?], rfl⟩

theorem correlates_perfCounter : Query.Correlates requestId .perfCounter :=
  ⟨⟨by simp [Query.record?], by simp [Query.captured?]⟩, by simp [Query.record?], rfl⟩

theorem correlates_setSpan (attributes : Fields) :
    (Query.setSpanAttributes attributes).Correlates requestId :=
  ⟨⟨by simp [Query.record?], by simp [Query.captured?]⟩, by simp [Query.record?], rfl⟩

theorem correlates_capture (tenantId inputText outputText : String) :
    (Query.debugCapture requestId tenantId inputText outputText).Correlates requestId :=
  ⟨⟨by simp [Query.record?], by simp [Query.captured?]⟩, by simp [Query.record?], rfl⟩

/-- A record that is not an access line, under names that can be logged. -/
theorem correlates_log (names : List String) {record : LogRecord}
    (hid : record.requestId = some requestId) (haccess : record.isAccess = false)
    (hfields : record.fields.map Prod.fst = names) (hnames : names ∈ loggedNames) :
    (Query.log record).Correlates requestId :=
  ⟨⟨by simp [Query.record?, hid, LogRecord.loggable, hfields,
    loggable_of_mem_loggedNames hnames], by simp [Query.captured?]⟩,
    by simp [Query.record?, haccess], rfl⟩

/-- Everything the program asks is correlated. -/
abbrev Follows (requestId : String) {α : Type} (p : Py α) : Prop :=
  Program.Only (Query.Correlates requestId) p.run

theorem Asks.follows {kinds : List QueryKind} {α : Type} {p : Py α} (h : Asks kinds p)
    (hsub : kinds ⊆ quietKinds) : Follows requestId p :=
  Program.Only.mono h fun _ hq => correlates_quiet (hsub hq)

theorem follows_call {α : Type} {q : Query} {f : Answer q → Py α} (hq : q.Correlates requestId)
    (hf : ∀ a, Follows requestId (f a)) : Follows requestId (ask q >>= f) :=
  Only.bind (Only.ask hq) hf

/-- The handler follows the request, and its response names it. -/
abbrev Traces (requestId : String) (p : Py Response) : Prop :=
  Handles (Query.Correlates requestId) (Response.Names requestId) p

theorem LogRecord.Filed.correlates {record : LogRecord} (h : record.Filed requestId) :
    (Query.log record).Correlates requestId := by
  refine correlates_log _ h.requestId_eq ?_ rfl h.names
  rcases h.logger with hlogger | hlogger <;> simp [LogRecord.isAccess, hlogger]

theorem Query.Own.correlates {a : Admitted} {q : Query} (h : q.Own app a) :
    q.Correlates a.requestId := by
  cases h with
  | service h => exact correlates_quiet ((by simp : serviceQuestions ⊆ quietKinds) h)
  | perfCounter => exact correlates_perfCounter
  | span attributes => exact correlates_setSpan attributes
  | capture => exact correlates_capture ..
  | log h => exact h.correlates
  | _ => exact correlates_quiet (by simp [Query.among, Query.kind])

theorem traces_chat (request : HttpRequest) (requestId : String) :
    Traces requestId (chat app request requestId) := by
  refine handles_chat request (fun q hq => correlates_quiet ?_) correlates_setSpan
    (fun _ _ _ => .error ..) fun identity policy => ?_
  · exact (by simp : [QueryKind.caller, .policy, .rate] ⊆ quietKinds) hq
  · exact (owned_readBody ⟨requestId, identity, policy⟩).mono (fun _ h => h.correlates)
      fun _ h => h

theorem traces_setTenantState (request : HttpRequest) (tenantId requestId : String) :
    Traces requestId (setTenantState app request tenantId requestId) := by
  refine handles_setTenantState request (fun q hq => correlates_quiet ?_) (fun q hq => ?_)
    fun _ h => h
  · exact (by simp : [QueryKind.caller, .client] ⊆ quietKinds) hq
  · cases hq with
    | log h => exact h.correlates
    | _ => exact correlates_quiet (by simp [Query.among, Query.kind])

end Handlers

/-! ## Around a handler -/

section Serving

variable {app : App} {request : HttpRequest} {requestId : String} {history : History}
variable {accesses : List LogRecord} {replies : List Reply}

theorem follows_sendText (text : String) : Follows requestId (sendText text) :=
  (asks_sendText text).follows (by simp)

theorem follows_reportStreamFailure (ctx : StreamContext) (message : String) :
    Follows ctx.requestId (reportStreamFailure ctx message) := by
  refine follows_call (correlates_quiet (by simp [Query.among, Query.kind])) fun _ => ?_
  refine Only.bind (follows_sendText _) fun _ => Only.bind (follows_sendText _) fun _ => ?_
  exact Only.ask (correlates_log ["model", "tenant_id"] rfl rfl rfl (by simp [loggedNames]))

theorem follows_reportStreamEnd (ctx : StreamContext) (start : ℚ) (outcome : StreamOutcome) :
    Follows ctx.requestId (reportStreamEnd ctx start outcome) := by
  have hrecord : Follows ctx.requestId (recordStreamEnd ctx outcome) := by
    unfold recordStreamEnd
    split
    · exact Only.pure ()
    · exact Only.ask (correlates_quiet (by simp [Query.among, Query.kind]))
  refine Only.bind hrecord fun _ => follows_call correlates_perfCounter fun stop => ?_
  refine Only.bind (follows_sendText _) fun _ => ?_
  exact Only.ask (correlates_log ["model", "tenant_id", "client_disconnected", "generated_chunks",
    "stream_duration_ms", "status"] rfl rfl rfl (by simp [loggedNames]))

theorem follows_streamChatResponse (ctx : StreamContext) (source : ChunkSource) :
    Follows ctx.requestId (streamChatResponse ctx source) := by
  refine follows_call correlates_perfCounter fun start => ?_
  refine Only.bind (Only.bind (Only.attempt ?_) fun outcome => ?_) fun found => ?_
  · refine Only.bind (Only.attempt ((asks_forChunks source).follows (by simp))) fun outcome => ?_
    cases outcome with
    | ok outcome => exact Only.pure _
    | error exn =>
        cases exn with
        | bedrockInvocation message code retryable =>
            exact Only.bind (follows_reportStreamFailure ctx message) fun _ => Only.pure _
        | _ => exact Only.throw _
  · have hclose : Asks [.client] (ask .closeChunks >>= settle) :=
      asks_call (by simp [Query.kind]) asks_settle
    exact Only.bind (hclose.follows (by simp)) fun _ => (asks_settle outcome : Asks [] _).follows
      (by simp)
  · cases found with
    | none => exact Only.pure ()
    | some outcome => exact follows_reportStreamEnd ctx start outcome

/-- What is sent of a response after its start. -/
theorem follows_body {response : Response} (h : response.Names requestId) :
    Follows requestId (match response with
      | .json _ content => ask (.sendBody (.json content)) >>= settle
      | .stream ctx source => do
          let _ ← streamChatResponse ctx source
          sendText "") := by
  have hjson : ∀ content, Asks [.client] (ask (.sendBody (.json content)) >>= settle) := fun _ =>
    asks_call (by simp [Query.kind]) asks_settle
  cases h with
  | stream ctx source h =>
      subst h
      exact Only.bind (follows_streamChatResponse ctx source) fun _ => follows_sendText ""
  | _ => exact (hjson _).follows (by simp)

/-- The obligation of a request: whatever it has left behind stays correlated. -/
abbrev StaysCorrelated (request : HttpRequest) (history : History) (event : Event Answer) : Prop :=
  Correlated request (history ++ [event])

/-- Walking within a stage. -/
theorem along_follows {α : Type} {p : Py α} (hp : Follows requestId p)
    (hstage : Lifecycle requestId accesses replies)
    (hleft : Left request requestId accesses replies history) :
    Program.Along (StaysCorrelated request)
      (fun history _ => Left request requestId accesses replies history) p.run history := by
  have hwalk : Program.Along (fun _ event => event.query.Correlates requestId)
      (fun _ _ => True) p.run history :=
    Program.Along.of_only hp (fun _ hq _ _ => hq) fun _ _ _ _ => trivial
  refine ((hwalk.keeping (fun _ event h hevent => h.keep event hevent) hleft).mono fun _ _ hend =>
    hend.1).weaken fun history event hkept => ?_
  exact .inr ⟨requestId, accesses, replies, hstage, hkept.1.keep event hkept.2⟩

/-- Walking through the handler. -/
theorem Traces.along_handler {handler : Py Response} (h : Traces requestId handler)
    (hleft : Left request requestId [] [] history) :
    Program.Along (StaysCorrelated request) (fun history outcome =>
      Left request requestId [] [] history ∧
        ∀ response, outcome = .ok response → response.Names requestId) handler.run history :=
  ((h.along history).keeping (fun _ event h hevent => h.keep event hevent) hleft).weaken
    fun _ event hkept => .inr ⟨requestId, [], [], .handling, hkept.1.keep event hkept.2⟩

/-- The access line. -/
theorem along_accessLog {f : Unit → Py Unit} {start : ℚ} {statusCode : ℕ}
    {post : History → Except Exn Unit → Prop} (hleft : Left request requestId [] [] history)
    (hnext : ∀ history access, ("status", .int statusCode) ∈ access.fields →
      Left request requestId [access] [] history →
      Program.Along (StaysCorrelated request) post (f ()).run history) :
    Program.Along (StaysCorrelated request) post
      (accessLog request requestId start statusCode >>= f).run history := by
  have hclock : ∀ stop : ℚ, Left request requestId [] [] (history ++ [⟨.perfCounter, stop⟩]) :=
    fun stop => hleft.keep _ correlates_perfCounter
  refine Along.bind (Along.call fun stop => ?_)
  refine ⟨.inr ⟨requestId, [], [], .handling, hclock stop⟩, Fallible.Along.ask fun _ => ?_⟩
  have hnames : loggableNames ["method", "path", "status", "duration_ms"] = true :=
    loggable_of_mem_loggedNames (by simp [loggedNames])
  have hlogged := (hclock stop).snoc ⟨.log {
      logger := "gateway.access", level := "INFO", message := "request completed"
      requestId := some requestId
      fields := [("method", .str request.method), ("path", .str request.path),
        ("status", .int statusCode), ("duration_ms", .num (elapsedMs start stop))] }, ()⟩
    ⟨by simpa [Query.record?, LogRecord.loggable] using hnames, by simp [Query.captured?]⟩
  refine ⟨.inr ⟨requestId, _, _, .logged _, hlogged⟩, hnext _ _ (by simp) hlogged⟩

/-- Sending a response whose status the access line has. -/
theorem along_sendResponse (response : Response) (headers : List (String × String))
    {access : LogRecord} (hleft : Left request requestId [access] [] history)
    (hstatus : ("status", .int response.statusCode) ∈ access.fields)
    (hcarries : Reply.Carries requestId (response, responseHeaders headers response)) :
    Program.Along (StaysCorrelated request) (fun history _ => ∃ replies,
      Lifecycle requestId [access] replies ∧ Left request requestId [access] replies history)
      (sendResponse headers response).run history := by
  have hstage := Lifecycle.replied access (response, responseHeaders headers response) hstatus
    hcarries
  refine Along.bind (Along.call fun answer => ?_)
  have hsent := hleft.snoc ⟨.sendStart response (responseHeaders headers response), answer⟩
    ⟨by simp [Query.record?], by simp [Query.captured?]⟩
  refine ⟨.inr ⟨requestId, _, _, hstage, hsent⟩, ?_⟩
  cases answer with
  | error exn => exact ⟨_, hstage, hsent⟩
  | ok sent =>
      exact (along_follows (follows_body hcarries.names) hstage hsent).mono
        fun _ _ hend => ⟨_, hstage, hend⟩

theorem follows_unhandledLog (app : App) (request : HttpRequest) (exn : Exn) :
    (Query.log {
      logger := "gateway.main", level := "ERROR", message := "unhandled exception"
      requestId := some requestId, error := some (exn.str app.text)
      fields := [("path", .str request.path)] }).Correlates requestId :=
  correlates_log ["path"] rfl rfl rfl (by simp [loggedNames])

/-- The request has ended with its access line. -/
abbrev Finished (request : HttpRequest) (history : History) : Prop :=
  ∃ requestId access replies, Lifecycle requestId [access] replies ∧
    Left request requestId [access] replies history

/-- An exception that escapes the handler. -/
theorem along_unhandledError {exn : Exn} {access : LogRecord}
    (hleft : Left request requestId [access] [] history)
    (hstatus : ("status", .int 500) ∈ access.fields) :
    Program.Along (StaysCorrelated request) (fun history _ => Finished request history)
      (unhandledError app request requestId false exn).run history := by
  have hreport : Program.Along (StaysCorrelated request) (fun history _ => Finished request history)
      (do
        let _ ← ask (.log {
          logger := "gateway.main", level := "ERROR", message := "unhandled exception"
          requestId := some requestId, error := some (exn.str app.text)
          fields := [("path", .str request.path)] })
        let _ ← sendUnlessStarted requestId false
        throw exn : Py Unit).run history := by
    refine Along.call fun answer => ?_
    have hlogged := hleft.keep ⟨_, answer⟩
      (follows_unhandledLog app request exn)
    refine ⟨.inr ⟨requestId, _, _, .logged access, hlogged⟩, Along.bind ?_⟩
    have hsend := along_sendResponse
      (errorResponse .internalServerError "INTERNAL_ERROR" "internal error" requestId) []
      hlogged hstatus ⟨.error .., .inr rfl⟩
    refine hsend.mono fun history outcome hend => ?_
    cases outcome <;> exact ⟨requestId, access, hend⟩
  cases exn with
  | cancelled => exact ⟨requestId, access, [], .logged access, hleft⟩
  | _ => exact hreport

/-- The id of the request, the client's or a drawn one. -/
theorem along_requestIdOf {f : String → Py Unit} {post : History → Except Exn Unit → Prop}
    (hnext : ∀ requestId history, Left request requestId [] [] history →
      Program.Along (StaysCorrelated request) post (f requestId).run history) :
    Program.Along (StaysCorrelated request) post (requestIdOf request >>= f).run [] := by
  cases hclient : request.requestId.filter (· ≠ "") with
  | some requestId =>
      have hid : requestIdOf request = pure requestId := by
        rw [requestIdOf, hclient]
      have hidOf : idOf request [] = some requestId := by
        rw [idOf, hclient, Option.some_or]
      rw [hid]
      exact hnext requestId [] ⟨hidOf, by simp [logRecordsOf], by simp [capturesOf], rfl, rfl⟩
  | none =>
      have hid : requestIdOf request = ask .newUuid := by
        rw [requestIdOf, hclient]
      rw [hid]
      refine Along.call fun requestId => ?_
      have hidOf : idOf request [⟨.newUuid, requestId⟩] = some requestId := by
        rw [idOf, hclient, Option.none_or]
        rfl
      have hleft : Left request requestId [] [] [⟨.newUuid, requestId⟩] :=
        ⟨hidOf, by simp [logRecordsOf, Query.record?], by simp [capturesOf, Query.captured?],
          rfl, rfl⟩
      exact ⟨.inr ⟨requestId, [], [], .handling, hleft⟩, hnext requestId _ hleft⟩

/-- **A served request is correlated.** -/
theorem along_serve {handler : String → Py Response}
    (hhandler : ∀ requestId, Traces requestId (handler requestId)) :
    Program.Along (StaysCorrelated request) (fun history _ => Finished request history)
      (serve app request handler).run [] := by
  refine along_requestIdOf fun requestId history hleft => ?_
  refine Along.call fun start => ?_
  have hclock := hleft.keep ⟨.perfCounter, start⟩ correlates_perfCounter
  refine ⟨.inr ⟨requestId, [], [], .handling, hclock⟩, ?_⟩
  refine Along.bind (Along.attempt (((hhandler requestId).along_handler hclock).mono
    fun history outcome hend => ?_))
  cases outcome with
  | error exn =>
      exact along_accessLog hend.1 fun history access hstatus hlogged =>
        along_unhandledError hlogged hstatus
  | ok response =>
      have hnames := hend.2 response rfl
      refine along_accessLog hend.1 fun history access hstatus hlogged => ?_
      refine Along.bind (Along.attempt ((along_sendResponse _ _ hlogged hstatus
        ⟨hnames, .inl ?_⟩).mono fun history outcome hsent => ?_))
      · cases response <;> simp [responseHeaders]
      · obtain ⟨replies, hstage, hleft⟩ := hsent
        cases outcome with
        | ok _ => exact ⟨requestId, access, replies, hstage, hleft⟩
        | error exn =>
            have hreport : Follows requestId (unhandledError app request requestId true exn) := by
              unfold unhandledError
              split
              · exact Only.throw _
              · exact follows_call (follows_unhandledLog app request exn) fun _ => Only.throw _
            exact (along_follows hreport hstage hleft).mono fun _ _ hend =>
              ⟨requestId, access, replies, hstage, hend⟩

end Serving

/-! ## In runs -/

section Runs

variable {app : App} {s : GatewayState} {run : Process}

/-- The obligation of every request the event loop serves. -/
theorem along_program (app : App) (job : Job) :
    Program.Along (StaysCorrelated job.request) (fun history _ => Finished job.request history)
      ((eventLoop app).program job) [] := by
  cases job with
  | chat request => exact along_serve fun requestId => traces_chat request requestId
  | setTenantState request tenantId =>
      exact along_serve fun requestId => traces_setTenantState request tenantId requestId

section Thread

variable {tid : ℕ} {thread : Thread Query Answer Job (Except Exn Unit)}

/-- What a thread has left behind is correlated. -/
theorem correlated_of_reachable (h : (eventLoop app).Reachable s run)
    (hthread : run.threads tid = some thread) :
    Correlated thread.job.request (traceOf tid run.log) ∧
      ∀ outcome, thread.rest = .ret outcome →
        Finished thread.job.request (traceOf tid run.log) := by
  have halong := along_program app thread.job
  constructor
  · have hreached := halong.reached (.inl rfl) (h.reaches hthread)
    rwa [List.nil_append] at hreached
  · intro outcome hrest
    obtain ⟨job, rest⟩ := thread
    obtain rfl : rest = .ret outcome := hrest
    exact h.ends hthread halong

/-- What it had left behind by any of its events was correlated too. -/
theorem correlated_before (h : (eventLoop app).Reachable s run)
    (hthread : run.threads tid = some thread) {before after : History} {event : Event Answer}
    (hsplit : traceOf tid run.log = before ++ event :: after) :
    Correlated thread.job.request (before ++ [event]) := by
  have hreaches := h.reaches hthread
  rw [hsplit] at hreaches
  exact (along_program app thread.job).reaches hreaches

/-- When a response is started, the access line is there, with the status of the response. -/
theorem access_before_start (h : (eventLoop app).Reachable s run)
    (hthread : run.threads tid = some thread) {before after : History} {response : Response}
    {headers : List (String × String)} {answer : Answer (.sendStart response headers)}
    (hsplit : traceOf tid run.log = before ++ ⟨.sendStart response headers, answer⟩ :: after) :
    ∃ access, accessesOf before = [access] ∧
      ("status", .int response.statusCode) ∈ access.fields := by
  rcases correlated_before h hthread hsplit with
    hnil | ⟨requestId, accesses, replies, hstage, hleft⟩
  · simp at hnil
  have hreplies : replies = repliesOf before ++ [(response, headers)] := by
    rw [← hleft.replies_eq, repliesOf, List.filterMap_append]
    rfl
  have haccesses : accesses = accessesOf before := by
    rw [← hleft.accesses_eq, accessesOf, logRecordsOf, List.filterMap_append,
      List.filterMap_cons_none rfl, List.filterMap_nil, List.append_nil]
    rfl
  cases hstage with
  | handling => simp at hreplies
  | logged access => simp at hreplies
  | replied access reply status carries =>
      have hends : [] ++ [reply] = repliesOf before ++ [(response, headers)] := hreplies
      obtain rfl := List.singleton_inj.mp (List.append_inj' hends rfl).2
      exact ⟨access, haccesses.symm, status⟩

/-- **Requests are correlated.** In every run, all that a request has left behind carries
one id, the client's or else the first one drawn: its log records, the captures of its
conversation and its response. It has at most one access line and one response; the
access line comes before the start of the response and has its status; and a request
that has ended has its access line, however it ended. -/
theorem requests_correlated (h : (eventLoop app).Reachable s run)
    (hthread : run.threads tid = some thread) :
    (traceOf tid run.log ≠ [] → ∃ requestId,
      idOf thread.job.request (traceOf tid run.log) = some requestId ∧
      (∀ record ∈ logRecordsOf (traceOf tid run.log), record.requestId = some requestId) ∧
      (∀ captured ∈ capturesOf (traceOf tid run.log), captured = requestId) ∧
      ∀ reply ∈ repliesOf (traceOf tid run.log), reply.Carries requestId) ∧
    (∀ before response headers answer after,
      traceOf tid run.log = before ++ ⟨.sendStart response headers, answer⟩ :: after →
        ∃ access, accessesOf before = [access] ∧
          ("status", .int response.statusCode) ∈ access.fields) ∧
    (accessesOf (traceOf tid run.log)).length ≤ 1 ∧
    (repliesOf (traceOf tid run.log)).length ≤ 1 ∧
    ∀ outcome, thread.rest = .ret outcome → (accessesOf (traceOf tid run.log)).length = 1 := by
  obtain ⟨hcorrelated, hfinished⟩ := correlated_of_reachable h hthread
  have hordered : ∀ before response headers answer after,
      traceOf tid run.log = before ++ ⟨.sendStart response headers, answer⟩ :: after →
        ∃ access, accessesOf before = [access] ∧
          ("status", .int response.statusCode) ∈ access.fields :=
    fun _ _ _ _ _ hsplit => access_before_start h hthread hsplit
  have hended : ∀ outcome, thread.rest = .ret outcome →
      (accessesOf (traceOf tid run.log)).length = 1 := by
    intro outcome hrest
    obtain ⟨requestId, access, replies, _, hleft⟩ := hfinished outcome hrest
    rw [hleft.accesses_eq, List.length_singleton]
  rcases hcorrelated with hnil | ⟨requestId, accesses, replies, hstage, hleft⟩
  · rw [hnil] at hended hordered ⊢
    exact ⟨fun hne => absurd rfl hne, hordered, Nat.zero_le _, Nat.zero_le _, hended⟩
  · refine ⟨fun _ => ⟨requestId, hleft.id_eq, fun record hrecord =>
      (hleft.records record hrecord).1, hleft.captures, ?_⟩, hordered, ?_, ?_, hended⟩
    · rw [hleft.replies_eq]
      cases hstage with
      | handling => simp
      | logged access => simp
      | replied access reply status carries => simpa using carries
    · rw [hleft.accesses_eq]
      cases hstage <;> simp
    · rw [hleft.replies_eq]
      cases hstage <;> simp

end Thread

/-- One request that brings its id, and one that does not; the world fails them both. -/
def namedAndNameless : Process :=
  (eventLoopDriver App.plain).play (Machine.initial (.fresh 0 oneTenant)) [
    { tid := 0, job := some (.chat operatorRequest), oracle := failingWorld },
    { tid := 1, job := some (.chat { operatorRequest with requestId := some "" }),
      oracle := failingWorld },
    { tid := 0, oracle := failingWorld },
    { tid := 1, oracle := failingWorld }]

/-- The nameless request leaves two records, both under the id drawn for it, and its
response is a 500 whose access line was written before. -/
theorem requests_correlated_namedAndNameless :
    (logRecordsOf (traceOf 1 namedAndNameless.log)).map LogRecord.requestId =
        List.replicate 2 (some "id") ∧
      ∃ before response headers answer after,
        traceOf 1 namedAndNameless.log =
          before ++ ⟨.sendStart response headers, answer⟩ :: after ∧
        response.statusCode = 500 ∧
        ∃ access, accessesOf before = [access] ∧ ("status", .int 500) ∈ access.fields := by
  have hthread : (namedAndNameless.threads 1).map Thread.job =
      some (.chat { operatorRequest with requestId := some "" }) := rfl
  obtain ⟨⟨job, rest⟩, hone, hjob⟩ := Option.map_eq_some_iff.mp hthread
  obtain rfl : job = .chat { operatorRequest with requestId := some "" } := hjob
  have hreach : (eventLoop App.plain).Reachable (.fresh 0 oneTenant) namedAndNameless :=
    Driver.play_reachable ..
  obtain ⟨hids, hordered, -⟩ := requests_correlated hreach hone
  obtain ⟨requestId, hid, hrecords, _⟩ :=
    hids (List.ne_nil_of_length_pos (by decide +kernel))
  have hdrawn : idOf { operatorRequest with requestId := some "" }
      (traceOf 1 namedAndNameless.log) = some "id" := by decide +kernel
  obtain rfl : requestId = "id" := Option.some.inj (hid.symm.trans hdrawn)
  constructor
  · have hlength : (logRecordsOf (traceOf 1 namedAndNameless.log)).length = 2 := by
      decide +kernel
    refine List.eq_replicate_iff.mpr ⟨by rw [List.length_map, hlength], fun id hmem => ?_⟩
    obtain ⟨record, hrecord, rfl⟩ := List.mem_map.mp hmem
    exact hrecords record hrecord
  · have hstatuses : (repliesOf (traceOf 1 namedAndNameless.log)).map
        (fun reply => reply.1.statusCode) = [500] := by decide +kernel
    obtain ⟨reply, hreply, hstatus⟩ := List.mem_map.mp
      (by rw [hstatuses]; exact List.mem_singleton_self 500)
    obtain ⟨before, answer, after, hsplit⟩ := exists_start_of_mem hreply
    obtain ⟨access, haccess, hfield⟩ := hordered _ _ _ _ _ hsplit
    rw [hstatus] at hfield
    exact ⟨before, reply.1, reply.2, answer, after, hsplit, hstatus, access, haccess, hfield⟩

/-! ## The log of a process -/

/-- The records a run has logged, in order. -/
def runRecords (log : ProcessLog) : List LogRecord :=
  log.filterMap fun entry => entry.action.event?.bind fun event => event.query.record?

/-- Every record of a run can be logged under the names of its fields. -/
theorem loggable_of_mem_runRecords (h : (eventLoop app).Reachable s run) {record : LogRecord}
    (hmem : record ∈ runRecords run.log) : record.loggable = true := by
  obtain ⟨entry, hentry, hrecord⟩ := List.mem_filterMap.mp hmem
  obtain ⟨event, hevent, hrecord⟩ := Option.bind_eq_some_iff.mp hrecord
  obtain ⟨thread, hthread⟩ := h.thread_of_mem hentry
  have htrace : event ∈ traceOf entry.tid run.log := by
    refine List.mem_filterMap.mpr ⟨entry.action, ?_, hevent⟩
    exact List.mem_map_of_mem (List.mem_filter.mpr ⟨hentry, by simp⟩)
  have hlogged : record ∈ logRecordsOf (traceOf entry.tid run.log) :=
    List.mem_filterMap.mpr ⟨event, htrace, hrecord⟩
  rcases (correlated_of_reachable h hthread).1 with hnil | ⟨_, _, _, _, hleft⟩
  · simp [hnil, logRecordsOf] at hlogged
  · exact (hleft.records record hlogged).2

/-- **The log of a process is read back.** However often logging was set up, for whatever
services and at whatever levels, what a run prints is read as one JSON object a line, by
any reader of lines: one for each record at the level of its logger or above, in order,
with the documented fields in the documented order. No text in a record adds a line or a
field. The level of a logger is the one last set on it or else on its nearest ancestor
that has one, and the level of the last startup if there is none. -/
theorem log_read_back (h : (eventLoop app).Reachable s run) {fmt : LogFormat} (hfmt : fmt.Numeric)
    {config configured : LogConfig} {startups : List Startup} (hne : startups ≠ [])
    (hstartups : startups.foldlM (configureLogging fmt app.text) config = .ok configured)
    {calls : List (ℚ × LogRecord)} (hcalls : calls.map Prod.snd = runRecords run.log)
    (breaks : LineBreaks) :
    (∃ output, configured.write fmt app.text calls = .ok output ∧
      (breaks.splitlines output).map Json.loads =
        (calls.filter fun call =>
          configured.effectiveLevel call.2.logger ≤ call.2.severity.number).map fun call =>
            some (.obj (lineFields fmt call.1 call.2))) ∧
    ∀ name, some (configured.effectiveLevel name) =
      ((lineage name).findSome? fun logger =>
        (levelAsked fmt config startups logger).filter (· ≠ 0)).or
          ((startups.getLast hne).number fmt) := by
  obtain ⟨middle, hlast⟩ := exists_last_startup hne hstartups
  refine ⟨LogConfig.read_write hlast hfmt (fun call hcall => ?_) breaks,
    effectiveLevel_configured hne hstartups⟩
  refine loggable_of_mem_runRecords h ?_
  rw [← hcalls]
  exact List.mem_map_of_mem hcall

/-- A printed form in which every second is the same and every float is zero. -/
def LogFormat.frozen : LogFormat where
  secondsText _ := "2026-01-01T00:00:00"
  floatRepr _ := zeroFloat.repr
  traceback _ _ := "NoneType: None"
  upper text := String.ofList (text.toList.map Char.toUpper)

/-- Logging is set up twice, for `gateway` at `ERROR` and then for the service at `INFO`. -/
def twoStartups : List Startup := [⟨"gateway", "ERROR"⟩, ⟨"gateway-api", "info"⟩]

/-- The second startup does not reach the loggers below `gateway`: of the access lines and
the unhandled exceptions of both requests the exceptions are printed. -/
theorem log_read_back_namedAndNameless :
    ∃ configured output,
      twoStartups.foldlM (configureLogging .frozen App.plain.text)
        ⟨30, .empty, [.other "caplog"]⟩ = .ok configured ∧
      configured.effectiveLevel "gateway.access" = 40 ∧
      configured.effectiveLevel "uvicorn.error" = 20 ∧
      configured.write .frozen App.plain.text
        ((runRecords namedAndNameless.log).map fun record => (0, record)) = .ok output ∧
      ((LineBreaks.universal.splitlines output).map Json.loads).length = 2 := by
  have hreach : (eventLoop App.plain).Reachable (.fresh 0 oneTenant) namedAndNameless :=
    Driver.play_reachable ..
  have hfmt : LogFormat.frozen.Numeric := fun _ => by
    change Json.isNumber zeroFloat.repr.text = true
    decide
  have hcalls : ((runRecords namedAndNameless.log).map fun record => ((0 : ℚ), record)).map
      Prod.snd = runRecords namedAndNameless.log := by simp
  have hconfigured : twoStartups.foldlM (configureLogging .frozen App.plain.text)
      ⟨30, .empty, [.other "caplog"]⟩ = .ok _ := rfl
  obtain ⟨⟨output, hwrite, hread⟩, hlevels⟩ :=
    log_read_back hreach hfmt (List.cons_ne_nil _ _) hconfigured hcalls .universal
  refine ⟨_, output, hconfigured, ?_, ?_, hwrite, (congrArg List.length hread).trans ?_⟩
  · exact Option.some.inj ((hlevels "gateway.access").trans (by decide +kernel))
  · exact Option.some.inj ((hlevels "uvicorn.error").trans (by decide +kernel))
  · decide +kernel

end Runs

end BedrockGateway
