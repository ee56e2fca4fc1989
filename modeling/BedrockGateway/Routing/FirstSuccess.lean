/-
# The router returns the first success

A call of the router visits its candidates in order. A candidate is skipped, or
called and its outcome recorded; the first success ends the call. Whatever the
breakers, the clock and the models do, the questions of a call are those of such a
sequence of visits, and its outcome is read off the sequence.
-/

import BedrockGateway.EventLoop

namespace BedrockGateway

open Foundation Py

/-- A call of the router. -/
structure RouterCall where
  primaryModelId : String
  routeSetName : Option String
  conversation : Conversation

/-- Calls of the router that do not overlap. -/
def routerCalls (app : App) :
    Machine Query Answer GatewayState RouterCall (Except Exn RoutedResult) where
  passes := Elapses
  sem := Answers app
  yields := fun _ => False
  program := fun call =>
    (routerConverse app call.primaryModelId call.routeSetName call.conversation).run

theorem routerCalls_overGateway (app : App) : OverGateway app (routerCalls app) := ⟨rfl, rfl⟩

/-! ## Visits -/

/-- What becomes of a candidate. -/
inductive Verdict
  | /-- The breaker refuses. -/
    skipped
  | /-- The call fails with a `BedrockInvocationError`. -/
    failed (message code : String) (retryable : Bool)
  | /-- The call succeeds. -/
    succeeded (result : ConverseResult)

/-- A candidate and what becomes of it. -/
structure Visit where
  modelId : String
  verdict : Verdict

namespace Visit

/-- The questions of a visit. -/
def events (conversation : Conversation) (visit : Visit) : List (Event Answer) :=
  let call : Query := .converse visit.modelId conversation.messages conversation.maxTokens
    conversation.temperature
  match visit.verdict with
  | .skipped => [⟨.breakerAllow visit.modelId, false⟩]
  | .failed message code retryable => [⟨.breakerAllow visit.modelId, true⟩,
      ⟨call, .error (.bedrockInvocation message code retryable)⟩,
      ⟨.recordFailure visit.modelId, ()⟩]
  | .succeeded result => [⟨.breakerAllow visit.modelId, true⟩, ⟨call, .ok result⟩,
      ⟨.recordSuccess visit.modelId, ()⟩]

/-- The visit is not a success. -/
def goesOn (visit : Visit) : Prop :=
  match visit.verdict with
  | .succeeded _ => False
  | _ => True

/-- The error of a failed visit. -/
def error? (visit : Visit) : Option Exn :=
  match visit.verdict with
  | .failed message code retryable => some (.bedrockInvocation message code retryable)
  | _ => none

end Visit

/-- The outcome of the visits to the candidates. -/
inductive FirstSuccess (primaryModelId : String) (routeSetName : Option String)
    (candidates : List String) : List Visit → Except Exn RoutedResult → Prop
  | /-- The visits end with the first success. -/
    found {earlier : List Visit} {modelId : String} {result : ConverseResult}
      (before : ∀ visit ∈ earlier, visit.goesOn)
      (inOrder : earlier.map Visit.modelId ++ [modelId] <+: candidates) :
      FirstSuccess primaryModelId routeSetName candidates
        (earlier ++ [⟨modelId, .succeeded result⟩])
        (.ok ⟨result, modelId, modelId ≠ primaryModelId⟩)
  | /-- All calls made have failed: the last error is raised. -/
    exhausted {visits : List Visit} {exn : Exn} (before : ∀ visit ∈ visits, visit.goesOn)
      (inOrder : visits.map Visit.modelId = candidates)
      (last : (visits.filterMap Visit.error?).getLast? = some exn) :
      FirstSuccess primaryModelId routeSetName candidates visits (.error exn)
  | /-- No call has been made. -/
    unavailable {visits : List Visit} (skipped : ∀ visit ∈ visits, visit.verdict = .skipped)
      (inOrder : visits.map Visit.modelId = candidates) :
      FirstSuccess primaryModelId routeSetName candidates visits
        (.error (.allRoutesUnavailable routeSetName))

/-- The exception is a `BedrockInvocationError`. -/
def Exn.isInvocation : Exn → Bool
  | .bedrockInvocation _ _ _ => true
  | _ => false

/-- If a model answers, then with a result or a `BedrockInvocationError`. -/
def invocationOnly (event : Event Answer) : Bool :=
  match event with
  | ⟨.converse _ _ _ _, .error exn⟩ => exn.isInvocation
  | _ => true

/-! ## The loop -/

section Loop

variable {routeSetName : Option String} {conversation : Conversation}

/-- What the loop over the remaining candidates makes of the visits to them. -/
private def LoopOutcome (routeSetName : Option String) (candidates : List String) (index : ℕ)
    (lastError : Option Exn) (visits : List Visit) (outcome : Except Exn RoutedResult) : Prop :=
  (∃ earlier modelId result, visits = earlier ++ [⟨modelId, .succeeded result⟩] ∧
    (∀ visit ∈ earlier, visit.goesOn) ∧ earlier.map Visit.modelId ++ [modelId] <+: candidates ∧
    outcome = .ok ⟨result, modelId, 0 < index + earlier.length⟩) ∨
  ((∀ visit ∈ visits, visit.goesOn) ∧ visits.map Visit.modelId = candidates ∧
    outcome = .error (((visits.filterMap Visit.error?).getLast?.or lastError).getD
      (.allRoutesUnavailable routeSetName)))

/-- The last error of the visits is the later ones', or else the first one's. -/
private theorem getLast?_error_cons (visit : Visit) (visits : List Visit)
    (lastError : Option Exn) :
    (((visit :: visits).filterMap Visit.error?).getLast?.or lastError) =
      (visits.filterMap Visit.error?).getLast?.or (visit.error?.or lastError) := by
  cases herror : visit.error? with
  | none => rw [List.filterMap_cons_none herror, Option.none_or]
  | some exn =>
      rw [List.filterMap_cons_some herror, List.getLast?_cons]
      cases (visits.filterMap Visit.error?).getLast? <;> rfl

/-- A visit that is not a success goes before the others. -/
private theorem LoopOutcome.cons {visit : Visit} (hvisit : visit.goesOn) {rest : List String}
    {index : ℕ} {lastError : Option Exn} {visits : List Visit} {outcome : Except Exn RoutedResult}
    (h : LoopOutcome routeSetName rest (index + 1) (visit.error?.or lastError) visits outcome) :
    LoopOutcome routeSetName (visit.modelId :: rest) index lastError (visit :: visits) outcome := by
  rcases h with ⟨earlier, modelId, result, rfl, hbefore, horder, rfl⟩ | ⟨hbefore, horder, rfl⟩
  · refine .inl ⟨visit :: earlier, modelId, result, rfl, ?_, ?_, ?_⟩
    · exact List.forall_mem_cons.mpr ⟨hvisit, hbefore⟩
    · simpa using horder
    · rw [List.length_cons, Nat.add_right_comm, Nat.add_assoc]
  · refine .inr ⟨List.forall_mem_cons.mpr ⟨hvisit, hbefore⟩, by rw [List.map_cons, horder], ?_⟩
    rw [getLast?_error_cons]

/-- The loop over the remaining candidates, as visits to them. -/
private theorem tryCandidates_visits {candidates : List String} {index : ℕ}
    {lastError : Option Exn} {trace : List (Event Answer)} {outcome : Except Exn RoutedResult}
    (h : Program.Exec (tryCandidates routeSetName conversation index lastError candidates).run
      trace outcome) (hclient : ∀ event ∈ trace, invocationOnly event = true) :
    ∃ visits : List Visit, trace = visits.flatMap (Visit.events conversation) ∧
      LoopOutcome routeSetName candidates index lastError visits outcome := by
  induction candidates generalizing index lastError trace with
  | nil =>
      obtain ⟨rfl, rfl⟩ := Fallible.exec_throw_iff.mp h
      exact ⟨[], rfl, .inr ⟨by simp, rfl, rfl⟩⟩
  | cons modelId rest ih =>
      obtain ⟨allowed, tail, rfl, hallowed⟩ := Program.exec_ask_iff.mp h
      have htail := (List.forall_mem_cons.mp hclient).2
      cases allowed with
      | false =>
          obtain ⟨visits, rfl, hloop⟩ := ih hallowed htail
          have hvisit : Visit.goesOn ⟨modelId, .skipped⟩ := trivial
          exact ⟨⟨modelId, .skipped⟩ :: visits, rfl, LoopOutcome.cons hvisit hloop⟩
      | true =>
          obtain ⟨answer, more, rfl, hanswered⟩ := Program.exec_ask_iff.mp hallowed
          have hanswer := (List.forall_mem_cons.mp htail).1
          have hmore := (List.forall_mem_cons.mp htail).2
          cases answer with
          | ok result =>
              obtain ⟨recorded, last, rfl, hrecorded⟩ := Program.exec_ask_iff.mp hanswered
              obtain ⟨rfl, rfl⟩ := Program.exec_ret_iff.mp hrecorded
              refine ⟨[⟨modelId, .succeeded result⟩], rfl, .inl ⟨[], modelId, result, rfl, ?_⟩⟩
              exact ⟨by simp, by simp, rfl⟩
          | error exn =>
              cases exn with
              | bedrockInvocation message code retryable =>
                  obtain ⟨recorded, last, rfl, hrecorded⟩ := Program.exec_ask_iff.mp hanswered
                  obtain ⟨visits, rfl, hloop⟩ := ih hrecorded (List.forall_mem_cons.mp hmore).2
                  have hvisit : Visit.goesOn ⟨modelId, .failed message code retryable⟩ := trivial
                  exact ⟨⟨modelId, .failed message code retryable⟩ :: visits, rfl,
                    LoopOutcome.cons hvisit hloop⟩
              | _ => cases hanswer

end Loop

/-! ## A call -/

/-- Among the candidates, the first is the primary and no other one is. -/
private theorem isFallback_iff {routeSets : RouteSets} {primaryModelId modelId : String}
    {routeSetName : Option String} {earlier : List String}
    (h : earlier ++ [modelId] <+: routeSets.candidates primaryModelId routeSetName) :
    0 < 0 + earlier.length ↔ modelId ≠ primaryModelId := by
  obtain ⟨later, hlater⟩ := h
  cases earlier with
  | nil =>
      have hfirst : modelId = primaryModelId := by
        simp only [RouteSets.candidates, List.nil_append, List.singleton_append,
          List.cons.injEq] at hlater
        exact hlater.1
      simp [hfirst]
  | cons first earlier =>
      have hmem : modelId ∈ (routeSets.fallbacksFor routeSetName).filter (· ≠ primaryModelId) := by
        simp only [RouteSets.candidates, List.cons_append, List.cons.injEq] at hlater
        rw [← hlater.2]
        simp
      have hne : modelId ≠ primaryModelId := by simpa using (List.mem_filter.mp hmem).2
      simp [hne]

/-- Without an error among them, no visit made a call. -/
private theorem skipped_of_errors {visits : List Visit} (hgoesOn : ∀ visit ∈ visits, visit.goesOn)
    (hnone : (visits.filterMap Visit.error?).getLast? = none) :
    ∀ visit ∈ visits, visit.verdict = .skipped := by
  intro visit hmem
  have herror : visit.error? = none := by
    rw [List.getLast?_eq_none_iff, List.filterMap_eq_nil_iff] at hnone
    exact hnone visit hmem
  have hon := hgoesOn visit hmem
  unfold Visit.error? at herror
  unfold Visit.goesOn at hon
  cases hverdict : visit.verdict with
  | skipped => rfl
  | failed message code retryable => simp [hverdict] at herror
  | succeeded result => simp [hverdict] at hon

/-- **First success**, as a fact about traces. -/
theorem routerConverse_visits {app : App} {call : RouterCall} {trace : List (Event Answer)}
    {outcome : Except Exn RoutedResult}
    (h : Program.Exec ((routerCalls app).program call) trace outcome)
    (hclient : ∀ event ∈ trace, invocationOnly event = true) :
    ∃ visits : List Visit, trace = visits.flatMap (Visit.events call.conversation) ∧
      FirstSuccess call.primaryModelId call.routeSetName
        (app.routeSets.candidates call.primaryModelId call.routeSetName) visits outcome := by
  obtain ⟨visits, htrace, hloop⟩ := tryCandidates_visits h hclient
  refine ⟨visits, htrace, ?_⟩
  rcases hloop with ⟨earlier, modelId, result, rfl, hbefore, horder, rfl⟩ | ⟨hbefore, horder, rfl⟩
  · have hfallback := isFallback_iff horder
    rw [List.length_map] at hfallback
    simp only [hfallback]
    exact .found hbefore horder
  · cases hlast : (visits.filterMap Visit.error?).getLast? with
    | none => exact .unavailable (skipped_of_errors hbefore hlast) horder
    | some exn => exact .exhausted hbefore horder hlast

/-- The visited are among the candidates. -/
private theorem FirstSuccess.mem_candidates {primaryModelId : String} {routeSetName : Option String}
    {candidates : List String} {visits : List Visit} {outcome : Except Exn RoutedResult}
    (h : FirstSuccess primaryModelId routeSetName candidates visits outcome) {visit : Visit}
    (hmem : visit ∈ visits) : visit.modelId ∈ candidates := by
  have hmodel := List.mem_map_of_mem (f := Visit.modelId) hmem
  cases h with
  | found _ inOrder => exact inOrder.subset (by simpa using hmodel)
  | exhausted _ inOrder _ => rwa [inOrder] at hmodel
  | unavailable _ inOrder => rwa [inOrder] at hmodel

/-- A visit touches no breaker but its own candidate's. -/
private theorem Visit.breaker_frame {conversation : Conversation} {visit : Visit}
    {event : Event Answer} (hmem : event ∈ visit.events conversation) {modelId : String}
    (hne : visit.modelId ≠ modelId) :
    event.query ≠ .breakerAllow modelId ∧ event.query ≠ .recordSuccess modelId ∧
      event.query ≠ .recordFailure modelId := by
  unfold Visit.events at hmem
  cases hverdict : visit.verdict <;> simp only [hverdict, List.mem_cons, List.not_mem_nil,
    or_false] at hmem <;> rcases hmem with rfl | rfl | rfl <;> simp [hne]

/-- **The router is first-success over the certified candidates.** Whatever the
breakers and the clock, a call of the router ends; it has visited the candidates in
order, up to the first success, and its outcome is theirs; no breaker of any other
model is touched. -/
theorem router_firstSuccess {app : App} {call : RouterCall} {tid : ℕ} {s s' : GatewayState}
    {entries : List (Entry Answer GatewayState RouterCall (Except Exn RoutedResult))}
    {rest : Program Query Answer (Except Exn RoutedResult)}
    (h : (routerCalls app).Stretch tid s ((routerCalls app).program call) entries s' rest)
    (hclient : ∀ event ∈ traceOf tid entries, invocationOnly event = true) :
    let candidates := call.primaryModelId ::
      (app.routeSets.fallbacksFor call.routeSetName).filter (· ≠ call.primaryModelId)
    ∃ visits outcome, rest = .ret outcome ∧
      traceOf tid entries = visits.flatMap (Visit.events call.conversation) ∧
      FirstSuccess call.primaryModelId call.routeSetName candidates visits outcome ∧
      ∀ modelId ∉ candidates, s'.breakers.record modelId = s.breakers.record modelId := by
  intro candidates
  obtain ⟨outcome, rfl⟩ := h.returns fun _ => id
  obtain ⟨visits, htrace, hfirst⟩ := routerConverse_visits h.reaches hclient
  refine ⟨visits, outcome, rfl, htrace, hfirst, fun modelId hmodel => ?_⟩
  have hM := routerCalls_overGateway app
  refine (h.replay.preserves
    (P := fun t => t.breakers.record modelId = s.breakers.record modelId) rfl ?_ ?_).1
  · intro t t₀ hsame hpasses
    rw [hM.passes_eq] at hpasses
    obtain ⟨now, _, rfl⟩ := hpasses
    exact hsame
  · intro entry hmem hsame hvalid
    rcases hM.valid_cases hvalid with ⟨q, a, haction, hanswers⟩ | ⟨_, heq⟩
    · have hevent : (⟨q, a⟩ : Event Answer) ∈ traceOf tid entries :=
        mem_traceOf_iff.mpr ⟨entry, hmem, h.tid_eq entry hmem, haction⟩
      rw [htrace] at hevent
      obtain ⟨visit, hvisit, hevent⟩ := List.mem_flatMap.mp hevent
      have hne : visit.modelId ≠ modelId := fun heq => hmodel (heq ▸ hfirst.mem_candidates hvisit)
      obtain ⟨hallow, hsuccess, hfailure⟩ := Visit.breaker_frame hevent hne
      exact (hanswers.breaker_frame hallow hsuccess hfailure).trans hsame
    · rw [heq]
      exact hsame

/-- Play calls of the router. -/
def routerCallsDriver (app : App) : Driver (routerCalls app) :=
  (routerCalls_overGateway app).driver (fun _ => false) fun _ => ⟨fun h => (nomatch h), False.elim⟩

/-- Models of which `m` fails. -/
def oneModelFails : (q : Query) → Answer q
  | .converse modelId _ _ _ =>
      if modelId = "m" then .error (.bedrockInvocation "throttled" "ThrottlingException" true)
      else .ok {
        text := "hello", inputTokens := 1, outputTokens := 1, stopReason := none
        latencyMs := zeroFloat }
  | q => failingWorld q

/-- A call whose primary fails and whose fallback, certified twice next to the primary,
answers. -/
theorem router_firstSuccess_fallback :
    let app : App := { App.plain with
      routeSets := Dict.set Dict.empty "r" ⟨"r", "m", ["m", "n", "n"]⟩ }
    let call : RouterCall := ⟨"m", some "r", ⟨[], 1, zeroFloat⟩⟩
    let run := (routerCallsDriver app).stretch oneModelFails 0 ((routerCalls app).program call)
      (.fresh 0 Dict.empty)
    ∃ visits outcome, run.2.2 = .ret outcome ∧
      traceOf 0 run.1 = visits.flatMap (Visit.events call.conversation) ∧
      FirstSuccess "m" (some "r") ["m", "n", "n"] visits outcome := by
  intro app call run
  have hclient : ∀ event ∈ traceOf 0 run.1, invocationOnly event = true := by decide +kernel
  obtain ⟨visits, outcome, hrest, htrace, hfirst, _⟩ :=
    router_firstSuccess (Driver.stretch_spec ..) hclient
  exact ⟨visits, outcome, hrest, htrace, hfirst⟩

end BedrockGateway
