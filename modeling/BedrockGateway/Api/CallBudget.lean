/-
# What a tenant's requests cost

A request calls each of its candidates at most once, and opens at most one stream,
which it then pulls at most once; it calls none before it has been admitted. With the
bound on admissions this bounds the calls of models a tenant can cause: the rate
limit, times one more than the longest list of fallbacks.
-/

import BedrockGateway.Api.StateChanges
import BedrockGateway.Foundation.Counting
import BedrockGateway.Policy.Admission
import BedrockGateway.Policy.Coherence

namespace BedrockGateway

open Foundation Py
open Fallible (AtMost.bind AtMost.attempt AtMost.call AtMost.count)

/-- The question calls a model. A stream counts where it is opened; it calls upstream when
it is first pulled, at most once. -/
def Query.callsModel : Query → Bool
  | .converse _ _ _ _ => true
  | .converseStream _ _ _ _ => true
  | _ => false

/-- The most models any request may call: its own and the longest list of fallbacks. -/
def RouteSets.mostCandidates (routeSets : RouteSets) : ℕ :=
  (routeSets.entries.map fun entry => entry.2.fallbacks.length).foldr max 0 + 1

/-- A request's candidates are not more than that. -/
theorem RouteSets.length_candidates_le (routeSets : RouteSets) (modelId : String)
    (routeSetName : Option String) :
    (routeSets.candidates modelId routeSetName).length ≤ routeSets.mostCandidates := by
  have hlongest : ∀ {lengths : List ℕ} {n : ℕ}, n ∈ lengths → n ≤ lengths.foldr max 0 := by
    intro lengths n hmem
    induction lengths with
    | nil => simp at hmem
    | cons head lengths ih =>
        rcases List.mem_cons.mp hmem with rfl | hrest
        · exact le_max_left _ _
        · exact (ih hrest).trans (le_max_right _ _)
  have hfallbacks : (routeSets.fallbacksFor routeSetName).length ≤
      (routeSets.entries.map fun entry => entry.2.fallbacks.length).foldr max 0 := by
    unfold fallbacksFor
    split
    · exact Nat.zero_le _
    · split
      · rename_i routeSet hget
        exact hlongest (List.mem_map_of_mem (Dict.mem_entries_of_get? hget))
      · exact Nat.zero_le _
  have hfiltered := (List.length_filter_le (· ≠ modelId)
    (routeSets.fallbacksFor routeSetName)).trans hfallbacks
  simpa [candidates, mostCandidates] using hfiltered

/-! ## Calls on a path -/

/-- The program calls models at most `n` times. -/
abbrev Calls {α : Type} (p : Py α) (n : ℕ) : Prop := p.run.AtMost Query.callsModel n

theorem calls_of_asks {kinds : List QueryKind} {α : Type} {p : Py α} (hasks : Asks kinds p)
    (hkinds : .model ∉ kinds) : Calls p 0 := by
  refine Program.AtMost.of_only hasks fun q hq => ?_
  cases q with
  | converse _ _ _ _ => exact absurd hq hkinds
  | converseStream _ _ _ _ => exact absurd hq hkinds
  | _ => rfl

theorem calls_settle {α : Type} (outcome : Except Exn α) : Calls (settle outcome) 0 :=
  calls_of_asks (asks_settle outcome : Asks [] (settle outcome)) (by simp)

theorem calls_exceptPipeline {α β : Type} {body : Py α}
    {rejected : ErrorStatus → String → String → Py β} {next : α → Py β} {n : ℕ}
    (hbody : Calls body 0)
    (hrejected : ∀ status code message, Calls (rejected status code message) 0)
    (hnext : ∀ value, Calls (next value) n) : Calls (exceptPipeline body rejected next) n := by
  rw [← Nat.zero_add n]
  refine AtMost.bind (AtMost.attempt hbody) fun outcome => ?_
  cases outcome with
  | ok value => exact hnext value
  | error exn =>
      cases exn with
      | pipeline status code message => exact (hrejected status code message).mono (Nat.zero_le n)
      | _ => trivial

/-- Each candidate is called at most once. -/
theorem calls_tryCandidates (routeSetName : Option String) (conversation : Conversation)
    (index : ℕ) (lastError : Option Exn) (candidates : List String) :
    Calls (tryCandidates routeSetName conversation index lastError candidates)
      candidates.length := by
  induction candidates generalizing index lastError with
  | nil => trivial
  | cons modelId rest ih =>
      refine AtMost.call rfl fun allowed => ?_
      cases allowed with
      | false => exact (ih _ _).mono (Nat.le_succ _)
      | true =>
          refine AtMost.count rfl fun answer => ?_
          cases answer with
          | ok result => exact AtMost.call rfl fun _ => trivial
          | error exn =>
              cases exn with
              | bedrockInvocation message code retryable => exact AtMost.call rfl fun _ => ih _ _
              | _ => trivial

theorem calls_callModels (app : App) (s : Screened) (cacheKey : String) :
    Calls (callModels app s cacheKey) app.routeSets.mostCandidates := by
  have hfailure : ∀ start status code message,
      Calls (upstreamFailure s start status code message) 0 := fun start status code message =>
    calls_of_asks (asks_upstreamFailure s start status code message) (by simp)
  have hscreen : ∀ routed, Calls (screenOutput app s cacheKey routed) 0 := by
    intro routed
    refine AtMost.call rfl fun start => calls_exceptPipeline
      (calls_of_asks (asks_checkOutputGuardrail ..) (by simp)) (fun _ _ _ => ?_) fun _ => ?_
    · exact AtMost.call rfl fun _ => calls_of_asks (asks_guardrailRejection ..) (by simp)
    · refine AtMost.call rfl fun _ => AtMost.bind (m := 0) (n := 0)
        (AtMost.call rfl fun _ => calls_settle _) fun _ => ?_
      exact calls_of_asks (asks_answerFresh ..) (by simp)
  refine AtMost.call rfl fun start => ?_
  refine AtMost.bind (n := 0) (AtMost.attempt ((calls_tryCandidates _ _ _ _ _).mono
    (app.routeSets.length_candidates_le s.modelId s.policy.routeSet))) fun outcome => ?_
  cases outcome with
  | ok routed => exact hscreen routed
  | error exn =>
      cases exn with
      | bedrockInvocation message code retryable => exact hfailure _ _ _ _
      | allRoutesUnavailable routeSetName => exact hfailure _ _ _ _
      | _ => trivial

theorem calls_openStream (s : Screened) : Calls (openStream s) 1 := by
  refine AtMost.call rfl fun allowed => ?_
  cases allowed with
  | false => exact AtMost.call rfl fun _ => trivial
  | true =>
      refine AtMost.bind (m := 1) (n := 0) (AtMost.count rfl fun _ => calls_settle _)
        fun source => ?_
      exact AtMost.call rfl fun _ => trivial

theorem calls_screenInput (app : App) (a : Accepted) :
    Calls (screenInput app a) app.routeSets.mostCandidates := by
  refine AtMost.call rfl fun _ => AtMost.call rfl fun start => ?_
  refine calls_exceptPipeline (calls_of_asks (asks_checkInputGuardrail ..) (by simp))
    (fun _ _ _ => ?_) fun _ => ?_
  · exact AtMost.call rfl fun _ => calls_of_asks (asks_guardrailRejection ..) (by simp)
  · refine AtMost.call rfl fun stop => ?_
    dsimp only
    split
    · exact (calls_openStream _).mono (Nat.le_add_left 1 _)
    · refine AtMost.call rfl fun cached => ?_
      cases cached with
      | some cached => exact (calls_of_asks (asks_answerCached ..) (by simp)).mono (Nat.zero_le _)
      | none => exact calls_callModels _ _ _

theorem calls_readBody (app : App) (a : Admitted) :
    Calls (readBody app a) app.routeSets.mostCandidates := by
  have hrejection : ∀ attributes response, Calls (do
      let _ ← setSpan attributes
      pure response : Py Response) 0 := fun _ _ =>
    calls_of_asks (asks_spanRejection ..) (by simp)
  refine AtMost.call rfl fun answer => ?_
  cases answer with
  | error exn =>
      cases exn with
      | cancelled => trivial
      | _ => exact (hrejection _ _).mono (Nat.zero_le _)
  | ok body =>
      dsimp only
      split
      · exact (hrejection _ _).mono (Nat.zero_le _)
      · exact calls_exceptPipeline (calls_settle _) (fun _ _ _ => hrejection _ _) fun modelId =>
          calls_screenInput _ _

theorem calls_chat (app : App) (request : HttpRequest) (requestId : String) :
    Calls (chat app request requestId) app.routeSets.mostCandidates := by
  refine AtMost.call rfl fun _ => calls_exceptPipeline
    (calls_of_asks (asks_gates app request) (by simp)) (fun _ _ _ => ?_) fun admitted => ?_
  · exact AtMost.call rfl fun _ => trivial
  · exact AtMost.call rfl fun _ => calls_readBody _ _

/-- Around a handler nothing counts but the response it hands back. -/
theorem atMost_serve {counted : Query → Bool} {app : App} {request : HttpRequest}
    {handler : String → Py Response} {m n : ℕ}
    (hfree : ∀ q : Query, q.among replyKinds → counted q = false)
    (hhandler : ∀ requestId, (handler requestId).run.AtMost counted m)
    (hsend : ∀ headers response, (sendResponse headers response).run.AtMost counted n) :
    (serve app request handler).run.AtMost counted (m + n) := by
  have hnone : ∀ {kinds : List QueryKind} {α : Type} {p : Py α}, Asks kinds p →
      kinds ⊆ replyKinds → p.run.AtMost counted 0 := fun hasks hsub =>
    Program.AtMost.of_only hasks fun q hq => hfree q (hsub hq)
  have hlog : ∀ requestId start statusCode,
      (accessLog request requestId start statusCode).run.AtMost counted 0 := fun _ _ _ =>
    hnone (asks_accessLog ..) (by simp)
  rw [← Nat.zero_add (m + n)]
  refine AtMost.bind (hnone (asks_requestIdOf request) (by simp)) fun requestId => ?_
  refine AtMost.call (hfree _ (by simp [Query.among, Query.kind])) fun start => ?_
  refine AtMost.bind (AtMost.attempt (hhandler requestId)) fun outcome => ?_
  rw [← Nat.zero_add n]
  cases outcome with
  | error exn =>
      refine AtMost.bind (hlog ..) fun _ => ?_
      exact (hnone (asks_unhandledError_unsent ..) (by simp)).mono (Nat.zero_le n)
  | ok response =>
      refine AtMost.bind (hlog ..) fun _ => ?_
      rw [← Nat.add_zero n]
      refine AtMost.bind (AtMost.attempt (hsend _ response)) fun sent => ?_
      cases sent with
      | error exn => exact hnone (asks_unhandledError ..) (by simp)
      | ok _ => trivial

theorem calls_serve {app : App} {request : HttpRequest} {handler : String → Py Response} {n : ℕ}
    (hhandler : ∀ requestId, Calls (handler requestId) n) :
    Calls (serve app request handler) n := by
  rw [← Nat.add_zero n]
  refine atMost_serve (fun q hq => ?_) hhandler fun headers response =>
    calls_of_asks (asks_sendResponse headers response) (by simp)
  cases q <;> first | rfl | simp [Query.among, Query.kind] at hq

/-- What a request may call. -/
theorem calls_job (app : App) (job : Job) : Calls (job.run app) app.routeSets.mostCandidates := by
  cases job with
  | chat request => exact calls_serve fun requestId => calls_chat app request requestId
  | setTenantState request tenantId =>
      refine calls_serve fun requestId => Program.AtMost.mono ?_ (Nat.zero_le _)
      refine calls_exceptPipeline (calls_of_asks (asks_adminCaller app request) (by simp))
        (fun _ _ _ => trivial) fun identity => AtMost.call rfl fun body => ?_
      cases body with
      | error exn => cases exn <;> trivial
      | ok body =>
          dsimp only
          split
          · trivial
          · refine AtMost.call rfl fun updated => ?_
            cases updated with
            | error exn => cases exn <;> trivial
            | ok updated => exact AtMost.call rfl fun _ => AtMost.call rfl fun _ => trivial

/-! ## Pulls on a path -/

/-- The question pulls a stream for the first time. -/
def Query.pulls : Query → Bool
  | .startStream => true
  | _ => false

theorem pulls_eq_false {q : Query} (hq : q.kind ≠ .pull) : q.pulls = false := by
  cases q <;> first | rfl | exact absurd rfl hq

/-- The program pulls streams at most `n` times. -/
abbrev Pulls {α : Type} (p : Py α) (n : ℕ) : Prop := p.run.AtMost Query.pulls n

theorem pulls_of_asks {kinds : List QueryKind} {α : Type} {p : Py α} (hasks : Asks kinds p)
    (hkinds : .pull ∉ kinds) : Pulls p 0 :=
  Program.AtMost.of_only hasks fun _ hq => pulls_eq_false fun hkind => hkinds (hkind ▸ hq)

theorem pulls_consumeOrReport (ctx : StreamContext) (source : ChunkSource) :
    Pulls (consumeOrReport ctx source) 1 := by
  have hconsume : Pulls (consumeChunks source.raises {} source.chunks) 0 :=
    pulls_of_asks (asks_consumeChunks ..) (by simp)
  refine AtMost.bind (m := 1) (n := 0)
    (AtMost.attempt (AtMost.count rfl fun _ => hconsume)) fun outcome => ?_
  cases outcome with
  | ok outcome => trivial
  | error exn =>
      cases exn with
      | bedrockInvocation message code retryable =>
          exact AtMost.bind (m := 0) (n := 0)
            (pulls_of_asks (asks_reportStreamFailure ..) (by simp)) fun _ => trivial
      | _ => trivial

theorem pulls_streamChatResponse (ctx : StreamContext) (source : ChunkSource) :
    Pulls (streamChatResponse ctx source) 1 := by
  have hsettle : ∀ {α : Type} (outcome : Except Exn α), Pulls (settle outcome) 0 := fun outcome =>
    pulls_of_asks (asks_settle outcome : Asks [] (settle outcome)) (by simp)
  refine AtMost.call rfl fun start => AtMost.bind (m := 1) (n := 0)
    (AtMost.bind (m := 1) (n := 0) (AtMost.attempt (pulls_consumeOrReport ctx source))
      fun outcome => ?_) fun found => ?_
  · exact AtMost.bind (m := 0) (n := 0) (AtMost.call rfl hsettle) fun _ => hsettle _
  · cases found with
    | none => trivial
    | some outcome => exact pulls_of_asks (asks_reportStreamEnd ..) (by simp)

theorem pulls_sendResponse (headers : List (String × String)) (response : Response) :
    Pulls (sendResponse headers response) 1 := by
  cases response with
  | json statusCode content =>
      exact (pulls_of_asks (asks_sendJson ..) (by simp)).mono (Nat.zero_le 1)
  | stream ctx source =>
      refine AtMost.bind (m := 0) (n := 1) (AtMost.call rfl fun answer =>
        pulls_of_asks (asks_settle answer : Asks [] (settle answer)) (by simp)) fun _ => ?_
      exact AtMost.bind (m := 1) (n := 0) (pulls_streamChatResponse ctx source) fun _ =>
        pulls_of_asks (asks_sendText "") (by simp)

/-- A request pulls at most one stream. -/
theorem pulls_job (app : App) (job : Job) : Pulls (job.run app) 1 := by
  have hserve : ∀ {kinds : List QueryKind} {request : HttpRequest}
      {handler : String → Py Response}, (∀ requestId, Asks kinds (handler requestId)) →
      .pull ∉ kinds → Pulls (serve app request handler) 1 := fun hhandler hkinds =>
    atMost_serve (fun _ hq => pulls_eq_false fun hkind => by simp [Query.among, hkind] at hq)
      (fun requestId => pulls_of_asks (hhandler requestId) hkinds) pulls_sendResponse
  cases job with
  | chat request => exact hserve (asks_chat app request) (by simp)
  | setTenantState request tenantId =>
      exact hserve (asks_setTenantState app request tenantId) (by simp)

/-! ## When the clock was read -/

/-- The clock of a run is read between its start and the instant the reading is used. -/
def ReadsInTime (start : ℚ) (s : GatewayState) (event : Event Answer) (_ : GatewayState) : Prop :=
  match event.query with
  | .bucketTake _ _ reading => start ≤ reading ∧ reading ≤ s.now
  | _ => True

theorem readsInTime_stagewise (app : App) (start : ℚ) :
    Stagewise app (fun s => start ≤ s.now) (ReadsInTime start) fun _ _ => True where
  elapses s s' hs htime := by
    obtain ⟨now, hnow, rfl⟩ := htime
    exact hs.trans hnow
  quiet s q answer s' hq hs answered := by
    refine ⟨?_, answered.now ▸ hs⟩
    cases q <;> trivial
  stored _ _ _ _ _ := trivial
  cached _ _ _ _ _ := trivial
  writeBack _ _ _ hs _ _ := ⟨trivial, hs⟩
  take s _ policy reading allowed s' hs hreading hle _ answered :=
    ⟨⟨hreading, hle⟩, answered.now ▸ hs⟩
  unknown _ _ _ _ _ := trivial
  change _ _ _ _ _ hs _ hnow := ⟨trivial, trivial, hs.trans hnow⟩

/-! ## Calls in a run -/

/-- The event admits a request of the tenant's. -/
def grantsToken (tenantId : String) : Event Answer → Bool
  | ⟨.bucketTake target _ _, allowed⟩ => allowed && target = tenantId
  | _ => false

/-- The thread has been admitted as a request of the tenant's. -/
def admittedAs (tenantId : String) (log : ProcessLog) (tid : ℕ) : Bool :=
  (traceOf tid log).any (grantsToken tenantId)

/-- The calls of models by the requests that were admitted as the tenant's. -/
def modelCallsOf (tenantId : String) (log : ProcessLog) : ℕ :=
  log.countP fun entry => entry.action.event?.any fun event =>
    event.query.callsModel && admittedAs tenantId log entry.tid

section Runs

variable {app : App} {s : GatewayState} {c : Process} {tenantId : String}

/-- A thread asks no more questions of a kind than any request may. -/
theorem countP_traceOf_le (h : (eventLoop app).Reachable s c) {counted : Query → Bool} {n : ℕ}
    (hjob : ∀ job : Job, (job.run app).run.AtMost counted n) (tid : ℕ) :
    (traceOf tid c.log).countP (fun event => counted event.query) ≤ n := by
  cases hthread : c.threads tid with
  | some thread => exact (hjob thread.job).countP_le (h.reaches hthread)
  | none =>
      have hfollows := h.follows tid
      simp only [Machine.Follows, hthread] at hfollows
      simp [traceOf, hfollows]

/-- Thread by thread, there are no more calls than the admission allows. -/
theorem modelCallsOf_le (h : (eventLoop app).Reachable s c) (tenantId : String) :
    modelCallsOf tenantId c.log ≤ app.routeSets.mostCandidates *
      c.log.countP fun entry => entry.action.event?.any (grantsToken tenantId) := by
  refine countP_le_of_groups Entry.tid c.log fun tid => ?_
  rw [← countP_traceOf]
  by_cases hadmitted : admittedAs tenantId c.log tid = true
  · have hone : 1 ≤ (traceOf tid c.log).countP (grantsToken tenantId) := by
      rw [Nat.one_le_iff_ne_zero, Ne, List.countP_eq_zero]
      intro hnone
      obtain ⟨event, hmem, hadmits⟩ := List.any_eq_true.mp hadmitted
      exact hnone event hmem hadmits
    have hcalls := countP_traceOf_le h (calls_job app) tid
    rw [countP_traceOf] at hcalls
    refine (List.countP_mono_left fun entry _ hheavy => ?_).trans
      (hcalls.trans (Nat.le_mul_of_pos_right _ hone))
    simp only [Option.any_eq_true] at hheavy ⊢
    obtain ⟨event, hevent, hboth⟩ := hheavy
    exact ⟨event, hevent, (Bool.and_eq_true _ _ ▸ hboth).1⟩
  · have hzero : ((c.log.filter fun entry => entry.tid = tid).countP fun entry =>
        entry.action.event?.any fun event =>
          event.query.callsModel && admittedAs tenantId c.log entry.tid) = 0 := by
      rw [List.countP_eq_zero]
      intro entry hmem hheavy
      obtain ⟨event, _, hboth⟩ := (Option.any_eq_true _ _).mp hheavy
      have htid : entry.tid = tid := by simpa using (List.mem_filter.mp hmem).2
      rw [htid, Bool.eq_false_iff.mpr hadmitted, Bool.and_false] at hboth
      cases hboth
    rw [hzero]
    exact Nat.zero_le _

/-- An entry's instant is not after the end of the run. -/
theorem OverGateway.before_now_le {J R : Type} {M : Machine Query Answer GatewayState J R}
    (hM : OverGateway app M) {s' : GatewayState} {log : List (Entry Answer GatewayState J R)}
    (hreplay : M.Replay s log s') {entry : Entry Answer GatewayState J R} (hmem : entry ∈ log) :
    entry.before.now ≤ s'.now := by
  obtain ⟨past, future, rfl⟩ := List.append_of_mem hmem
  obtain ⟨hvalid, hrest⟩ := hreplay.suffix
  refine (hrest.preserves (P := fun s => entry.before.now ≤ s.now) (hM.after_now hvalid).ge
    (fun s s₀ hs htime => ?_) fun other _ hs hother => (hM.after_now hother) ▸ hs).1
  rw [hM.passes_eq] at htime
  obtain ⟨now, hnow, rfl⟩ := htime
  exact hs.trans hnow

/-- Every admission is on a reading from within the run. -/
theorem admissions_le (h : (eventLoop app).Reachable s c) (tenantId : String) :
    c.log.countP (fun entry => entry.action.event?.any (grantsToken tenantId)) ≤
      admittedBetween tenantId s.now c.state.now c.log := by
  refine List.countP_mono_left fun entry hmem hadmits => ?_
  have hreads := ((readsInTime_stagewise app s.now).reachable h le_rfl).2 entry hmem
  have hnow := (eventLoop_overGateway app).before_now_le h.replay hmem
  obtain ⟨event, hevent, hadmits⟩ := (Option.any_eq_true _ _).mp hadmits
  have haction : entry.action = .did event := by
    cases haction : entry.action with
    | did other =>
        rw [haction] at hevent
        exact congrArg Action.did (Option.some.inj hevent)
    | start job => simp [haction, Action.event?] at hevent
    | finish result => simp [haction, Action.event?] at hevent
  unfold grantsToken at hadmits
  split at hadmits
  · rename_i target limit reading allowed
    obtain ⟨hstart, hend⟩ := hreads _ haction
    have hboth : allowed = true ∧ target = tenantId := by simpa using hadmits
    simp [admitsIn, decisionOf, takeOf, haction, hboth.1, hboth.2, hstart, hend.trans hnow]
  · cases hadmits

/-- A stream that is pulled has been opened before, and has not been pulled. -/
def Pullable (history : History) : Prop :=
  (∃ modelId messages maxTokens temperature source,
    ⟨.converseStream modelId messages maxTokens temperature, .ok source⟩ ∈ history) ∧
  ∀ event ∈ history, event.query.pulls = false

/-- A request opens its stream, then pulls it, and does not pull it again. -/
theorem pullable_of_pull (h : (eventLoop app).Reachable s c) {past future : ProcessLog}
    {entry : Entry Answer GatewayState Job (Except Exn Unit)}
    (hlog : c.log = past ++ entry :: future) {started : Answer .startStream}
    (haction : entry.action = .did ⟨.startStream, started⟩) :
    Pullable (traceOf entry.tid past) := by
  obtain ⟨⟨job, rest⟩, hthread⟩ := h.thread_of_mem (show entry ∈ c.log by simp [hlog])
  constructor
  · cases job with
    | chat request =>
        obtain ⟨⟨before, ctx, source, headers, answer, after, hhistory, hanswered⟩, _⟩ :=
          chat_meets h hlog haction hthread rfl
        rw [hhistory]
        rcases hanswered with ⟨a, source, _, _, hopened, _⟩ | ⟨_, _, _, _, _, hjson⟩ |
          ⟨_, _, _, _, hjson⟩
        · exact ⟨_, _, _, _, source, List.mem_append_left _ hopened⟩
        · cases hjson
        · cases hjson
    | setTenantState request tenantId =>
        have howes := admin_meets h hlog haction hthread rfl
        simp [AdminOwes, Query.among, Query.kind] at howes
  · have honce := countP_traceOf_le h (pulls_job app) entry.tid
    have hpulls : Query.startStream.pulls = true := rfl
    rw [hlog, Machine.traceOf_split rfl haction, List.countP_append, List.countP_cons,
      if_pos hpulls] at honce
    have hnone := List.countP_eq_zero.mp (Nat.eq_zero_of_le_zero (by omega :
      (traceOf entry.tid past).countP (fun event => event.query.pulls) ≤ 0))
    exact fun event hmem => Bool.eq_false_iff.mpr (hnone event hmem)

/-- A request that calls a model has passed the limiter. -/
theorem passes_of_call (h : (eventLoop app).Reachable s c) {past future : ProcessLog}
    {entry : Entry Answer GatewayState Job (Except Exn Unit)}
    (hlog : c.log = past ++ entry :: future) {event : Event Answer}
    (haction : entry.action = .did event) (hcall : event.query.callsModel = true) :
    ∃ request a, Passes app request (traceOf entry.tid past) a := by
  obtain ⟨⟨job, rest⟩, hthread⟩ := h.thread_of_mem (show entry ∈ c.log by simp [hlog])
  obtain ⟨q, answer⟩ := event
  cases job with
  | chat request =>
      have howes := chat_meets h hlog haction hthread rfl
      cases q with
      | converse _ _ _ _ =>
          obtain ⟨a, hscreens, _⟩ := howes
          exact ⟨request, a.toAdmitted, hscreens.toPasses⟩
      | converseStream _ _ _ _ =>
          obtain ⟨a, hscreens, _⟩ := howes
          exact ⟨request, a.toAdmitted, hscreens.toPasses⟩
      | _ => simp [Query.callsModel] at hcall
  | setTenantState request tenantId =>
      have howes := admin_meets h hlog haction hthread rfl
      cases q with
      | converse _ _ _ _ => simp [AdminOwes, Query.among, Query.kind] at howes
      | converseStream _ _ _ _ => simp [AdminOwes, Query.among, Query.kind] at howes
      | _ => simp [Query.callsModel] at hcall

/-- A policy that a request has resolved is that of a loaded tenant, under its own id, after
changes to its state. -/
theorem loaded_of_resolved {now : ℚ} {policies : PolicyStore}
    (h : (eventLoop app).Reachable (.fresh now policies) c) (hkeyed : policies.Keyed)
    {past : ProcessLog} (hwithin : past ⊆ c.log) {tid : ℕ} {policy : TenantPolicy}
    (hresolved : Resolved (traceOf tid past) tenantId policy) :
    policy.tenantId = tenantId ∧ ∃ loaded changes, policies.get? tenantId = some loaded ∧
      policy = loaded.revised changes := by
  have hcoherent := Coherent.fresh now policies
  obtain ⟨event, hmem, hres⟩ :
      ∃ event ∈ traceOf tid past, Resolves event tenantId policy := by
    rcases hresolved with hhit | hfetched
    · exact ⟨_, hhit, .inl rfl⟩
    · exact ⟨_, hfetched, .inr rfl⟩
  refine ⟨resolved_tenantId h hcoherent hkeyed hwithin hmem hres, ?_⟩
  obtain ⟨reader, hreader, _, hdid⟩ := mem_traceOf_iff.mp hmem
  have hcurrent := (eventLoop_coherent h hcoherent).2 reader (hwithin hreader) _ hdid _ _ hres
  obtain ⟨before, after, hsplit⟩ := List.append_of_mem (hwithin hreader)
  have hrecorded := ((eventLoop_overGateway app).recorded h.replay tenantId).2 _ _ _ hsplit
  rw [Recorded, hcurrent] at hrecorded
  obtain ⟨loaded, hloaded, hrevised⟩ := Option.map_eq_some_iff.mp hrecorded.symm
  exact ⟨loaded, _, hloaded, hrevised.symm⟩

/-- A request that calls a model has been admitted before, as a tenant that was loaded. -/
theorem admitted_of_call {now : ℚ} {policies : PolicyStore}
    (h : (eventLoop app).Reachable (.fresh now policies) c) (hkeyed : policies.Keyed)
    {past future : ProcessLog} {entry : Entry Answer GatewayState Job (Except Exn Unit)}
    (hlog : c.log = past ++ entry :: future) {event : Event Answer}
    (haction : entry.action = .did event) (hcall : event.query.callsModel = true) :
    ∃ tenantId loaded, policies.get? tenantId = some loaded ∧
      admittedAs tenantId past entry.tid = true := by
  obtain ⟨request, a, hpasses⟩ := passes_of_call h hlog haction hcall
  have hwithin : past ⊆ c.log := by
    rw [hlog]
    exact List.subset_append_left _ _
  obtain ⟨hown, loaded, _, hloaded, _⟩ :=
    loaded_of_resolved h hkeyed hwithin hpasses.isResolved
  obtain ⟨reading, htaken⟩ := hpasses.withinRate
  exact ⟨a.identity.tenantId, loaded, hloaded,
    List.any_eq_true.mpr ⟨_, htaken, by simp [grantsToken, hown]⟩⟩

/-- **What a tenant can cost.** In every run, each call of a model is made by a request
that was admitted before as a loaded tenant's; a stream is pulled once, after it was
opened; and the calls made by the requests of one tenant are at most the number of
candidates times what the limiter admits in that time, whatever the models, the clients
and the kill switch do. -/
theorem model_calls_bounded {now : ℚ} {policies : PolicyStore}
    (h : (eventLoop app).Reachable (.fresh now policies) c) (hkeyed : policies.Keyed) :
    (∀ past entry future, c.log = past ++ entry :: future →
      ∀ event, entry.action = .did event → event.query.callsModel = true →
        ∃ tenantId loaded, policies.get? tenantId = some loaded ∧
          admittedAs tenantId past entry.tid = true) ∧
    (∀ past entry future, c.log = past ++ entry :: future →
      ∀ started, entry.action = .did ⟨.startStream, started⟩ →
        Pullable (traceOf entry.tid past)) ∧
    ∀ tenantId loaded, policies.get? tenantId = some loaded →
      (modelCallsOf tenantId c.log : ℚ) ≤ app.routeSets.mostCandidates *
        (ceiling loaded.rpmLimit + (c.state.now - now) * (ceiling loaded.rpmLimit / 60)) := by
  refine ⟨fun past entry future hlog event haction hcall =>
    admitted_of_call h hkeyed hlog haction hcall,
    fun past entry future hlog started haction => pullable_of_pull h hlog haction,
    fun tenantId loaded hloaded => ?_⟩
  have hstart : now ≤ c.state.now := ((readsInTime_stagewise app now).reachable h le_rfl).1
  have hcalls := (modelCallsOf_le h tenantId).trans
    (Nat.mul_le_mul_left _ (admissions_le h tenantId))
  have hadmitted := admittedBetween_le (eventLoop_overGateway app) h.replay
    (eventLoop_soundTake h hkeyed hloaded) hstart
  calc (modelCallsOf tenantId c.log : ℚ)
      ≤ app.routeSets.mostCandidates * admittedBetween tenantId now c.state.now c.log := by
        exact_mod_cast hcalls
    _ ≤ _ := mul_le_mul_of_nonneg_left hadmitted (Nat.cast_nonneg _)

end Runs

/-- An application with one route set. -/
def App.oneRoute : App :=
  { App.plain with routeSets := Dict.set Dict.empty "r" ⟨"r", "m", ["n"]⟩ }

/-- A store with one tenant that has a fallback. -/
def routedTenant : PolicyStore :=
  Dict.set Dict.empty "t" { tenantId := "t", models := ["m"], routeSet := some "r" }

/-- A request that no model answers, another one half a minute later, and a stream. -/
def failingRequests : Process :=
  let world := tenantWorld "t" (.error (.bedrockInvocation "slow" "ThrottlingException" true))
  (eventLoopDriver App.oneRoute).play (Machine.initial (.fresh 0 routedTenant)) [
    { tid := 0, job := some (.chat operatorRequest), oracle := world },
    { tid := 0, oracle := world },
    { tid := 1, job := some (.chat operatorRequest), oracle := world, delay := 30 },
    { tid := 1, oracle := world },
    { tid := 2, job := some (.chat operatorRequest), oracle := streamingWorld },
    { tid := 2, oracle := streamingWorld },
    { tid := 2, oracle := streamingWorld }]

/-- They cost five calls, each by a request admitted before, and the stream is pulled. -/
theorem model_calls_bounded_failingRequests :
    (∀ past entry future, failingRequests.log = past ++ entry :: future →
      ∀ event, entry.action = .did event → event.query.callsModel = true →
        ∃ tenantId loaded, routedTenant.get? tenantId = some loaded ∧
          admittedAs tenantId past entry.tid = true) ∧
    (∀ past entry future, failingRequests.log = past ++ entry :: future →
      ∀ started, entry.action = .did ⟨.startStream, started⟩ →
        Pullable (traceOf entry.tid past)) ∧
    (failingRequests.log.countP fun entry =>
      entry.action.event?.any fun event => event.query.pulls) = 1 ∧
    modelCallsOf "t" failingRequests.log = 5 ∧
      (modelCallsOf "t" failingRequests.log : ℚ) ≤ App.oneRoute.routeSets.mostCandidates *
        (ceiling 60 + (failingRequests.state.now - 0) * (ceiling 60 / 60)) := by
  have hreach : (eventLoop App.oneRoute).Reachable (.fresh 0 routedTenant) failingRequests :=
    Driver.play_reachable ..
  have hloaded : routedTenant.get? "t" =
      some { tenantId := "t", models := ["m"], routeSet := some "r" } := rfl
  have hkeyed : routedTenant.Keyed := PolicyStore.Keyed.empty.set rfl
  have hbounded := model_calls_bounded hreach hkeyed
  have hbound := hbounded.2.2 "t" _ hloaded
  exact ⟨hbounded.1, hbounded.2.1, by decide +kernel, by decide +kernel, hbound⟩

end BedrockGateway
