/-
# Bounded revocation

The policy is resolved before the body is awaited, and the body may take as long as
the client likes. A request that was let in before its tenant was blocked therefore
calls the model whenever its body arrives. A stream calls its model only when it is
first pulled, and that is after the start of the response has been awaited.

Neither happens if no body arrives, and no stream is first pulled, while the store
has the tenant blocked; then not even the lease is needed.
-/

import BedrockGateway.Api.KillSwitch

namespace BedrockGateway

open Foundation

/-- A body arrives. -/
def bodyArrives : Event Answer → Bool
  | ⟨.requestJson, .ok _⟩ => true
  | _ => false

/-- A stream is first pulled, which calls the model upstream. -/
def streamStarts : Event Answer → Bool
  | ⟨.startStream, _⟩ => true
  | _ => false

/-- A model is called: a method of the client is, or a stream is first pulled. -/
def CallsModel (event : Event Answer) : Prop :=
  event.query.kind = .model ∨ streamStarts event = true

instance : DecidablePred CallsModel := fun _ => inferInstanceAs (Decidable (_ ∨ _))

theorem awaits_of_model {event : Event Answer} (h : event.query.kind = .model) :
    event.query.awaits = false := by
  obtain ⟨query, answer⟩ := event
  cases query <;> first | rfl | cases h

/-- No state change of the tenant succeeds. -/
def NeverChanged (tenantId : String) (log : ProcessLog) : Prop :=
  ∀ entry ∈ log, ∀ state updated,
    entry.action ≠ .did ⟨.storeSetState tenantId state, .ok updated⟩

/-- Once the answer to a blocking change has been started, and as long as no other
change succeeds, the tenant's requests call no model later than one lease after. -/
def RevocationBounded (ttlS : ℚ) (log : ProcessLog) : Prop :=
  ∀ past put middle call future tenantId state updated done response headers answer event policy,
    log = past ++ put :: (middle ++ call :: future) →
    put.action = .did ⟨.storeSetState tenantId state, .ok updated⟩ → state ∈ blockingStates →
    done ∈ middle → done.tid = put.tid → done.action = .did ⟨.sendStart response headers, answer⟩ →
    response.statusCode = 200 → NeverChanged tenantId middle →
    call.action = .did event → CallsModel event → Resolved (traceOf call.tid log) tenantId policy →
    call.before.now ≤ done.before.now + ttlS

/-- At no moment of this kind is the tenant of the request blocked in the store. -/
def UnblockedWhen (moment : Event Answer → Bool) (log : ProcessLog) : Prop :=
  ∀ entry ∈ log, ∀ event tenantId policy, entry.action = .did event → moment event = true →
    Resolved (traceOf entry.tid log) tenantId policy → ¬ StoreBlocked tenantId entry.before

variable {app : App} {s s' : GatewayState} {c : Process} {tenantId : String}

/-- A call of the client comes from a chat request past its body. -/
theorem screens_of_model (h : (eventLoop app).Reachable s c) {past future : ProcessLog}
    {entry : Entry Answer GatewayState Job (Except Exn Unit)} {event : Event Answer}
    (hlog : c.log = past ++ entry :: future) (haction : entry.action = .did event)
    (hmodel : event.query.kind = .model) :
    ∃ thread request a, c.threads entry.tid = some thread ∧ thread.job = .chat request ∧
      Screens app request (traceOf entry.tid past) a := by
  obtain ⟨thread, hthread⟩ := h.thread_of_mem (show entry ∈ c.log by simp [hlog])
  cases hjob : thread.job with
  | chat request =>
      have howes := chat_meets h hlog haction hthread hjob
      obtain ⟨query, answer⟩ := event
      cases query with
      | converse =>
          obtain ⟨a, hs, _⟩ := howes
          exact ⟨thread, request, a, hthread, hjob, hs⟩
      | converseStream =>
          obtain ⟨a, hs, _⟩ := howes
          exact ⟨thread, request, a, hthread, hjob, hs⟩
      | _ => cases hmodel
  | setTenantState request target =>
      have howes := admin_meets h hlog haction hthread hjob
      obtain ⟨query, answer⟩ := event
      cases query with
      | converse => simp [AdminOwes, Query.among, Query.kind] at howes
      | converseStream => simp [AdminOwes, Query.among, Query.kind] at howes
      | _ => cases hmodel

/-- The body of a request that calls the client arrived in the same stretch. -/
theorem body_of_model (h : (eventLoop app).Reachable s c) {past future : ProcessLog}
    {call : Entry Answer GatewayState Job (Except Exn Unit)} {event : Event Answer}
    (hlog : c.log = past ++ call :: future) (haction : call.action = .did event)
    (hmodel : event.query.kind = .model) :
    ∃ before arrival since body, past = before ++ arrival :: since ∧ arrival.tid = call.tid ∧
      arrival.action = .did ⟨.requestJson, .ok body⟩ ∧ ∀ entry ∈ since, entry.tid = call.tid := by
  obtain ⟨thread, request, a, hthread, hjob, hs⟩ := screens_of_model h hlog haction hmodel
  obtain ⟨body, early, late, htrace, hquiet, _⟩ := hs.received
  obtain ⟨before, arrival, since, rfl, htid, harrival, _, hlate⟩ := exists_entry_of_traceOf htrace
  refine ⟨before, arrival, since, body, rfl, htid, harrival, ?_⟩
  have hcut : c.log = before ++ arrival :: (since ++ call :: future) := by simp [hlog]
  rw [← htid]
  refine h.uninterrupted hcut htid.symm fun entry hmem hown other hother => ?_
  rcases List.mem_append.mp hmem with hsince | hlast
  · have hlater : other ∈ late := by
      rw [← hlate, ← htid]
      exact mem_traceOf_iff.mpr ⟨entry, hsince, hown, hother⟩
    simp [eventLoop, hquiet.awaits hlater]
  · rw [List.mem_singleton.mp hlast, haction] at hother
    cases hother
    simp [eventLoop, awaits_of_model hmodel]

/-- No call of the client follows a change while the tenant stays blocked, if bodies
arrive unblocked: the call's own body would have arrived since. -/
theorem not_model_of_bodies (h : (eventLoop app).Reachable s c)
    (hbodies : UnblockedWhen bodyArrives c.log) {past middle future : ProcessLog}
    {put call : Entry Answer GatewayState Job (Except Exn Unit)} {state : TenantState}
    {result : Except Exn TenantPolicy} {event : Event Answer} {policy : TenantPolicy}
    (hlog : c.log = past ++ put :: (middle ++ call :: future))
    (hput : put.action = .did ⟨.storeSetState tenantId state, result⟩)
    (hblocked : ∀ entry ∈ middle, StoreBlocked tenantId entry.before)
    (hcall : call.action = .did event)
    (hres : Resolved (traceOf call.tid c.log) tenantId policy) : event.query.kind ≠ .model := by
  intro hmodel
  have hcut : c.log = (past ++ put :: middle) ++ call :: future := by simp [hlog]
  obtain ⟨before, arrival, since, body, hpast, htid, harrival, hown⟩ :=
    body_of_model h hcut hcall hmodel
  have hmiddle : arrival ∈ middle := by
    rcases List.append_eq_append_iff.mp hpast with ⟨gap, hbefore, hgap⟩ | ⟨gap, hbefore, hgap⟩
    · cases gap with
      | nil =>
          obtain ⟨rfl, _⟩ := List.cons.inj hgap
          rw [hput] at harrival
          cases harrival
      | cons head gap =>
          obtain ⟨_, rfl⟩ := List.cons.inj hgap
          simp
    · cases gap with
      | nil =>
          obtain ⟨rfl, _⟩ := List.cons.inj hgap
          rw [hput] at harrival
          cases harrival
      | cons head gap =>
          -- The change would lie inside the stretch of a chat request.
          obtain ⟨_, rfl⟩ := List.cons.inj hgap
          obtain ⟨thread, request, a, hthread, hjob, _⟩ := screens_of_model h hcut hcall hmodel
          have hputTid : put.tid = call.tid := hown put (by simp)
          exact (chat_meets h hlog hput (hputTid ▸ hthread) hjob).elim
  exact hbodies arrival (by simp [hlog, hmiddle]) _ tenantId policy harrival rfl (htid ▸ hres)
    (hblocked arrival hmiddle)

/-- **Revocation is bounded in every run of the event loop in which no body arrives at,
and no stream is first pulled for, a request whose tenant is blocked.** -/
theorem eventLoop_revocationBounded {now : ℚ} {policies : PolicyStore}
    (h : (eventLoop app).Reachable (.fresh now policies) c)
    (hbodies : UnblockedWhen bodyArrives c.log) (hstarts : UnblockedWhen streamStarts c.log) :
    RevocationBounded app.settings.policyCacheTtlS c.log := by
  intro past put middle call future tenantId state updated done response headers answer event policy
    hlog hput hstate _ _ _ _ hnever hcall hcalls hres
  obtain ⟨hvalid, hafter⟩ := (hlog ▸ h.replay).suffix
  obtain ⟨s₁, hmiddle, hrest⟩ := hafter.split
  obtain ⟨hblocked, hsince⟩ := (storeBlocked_of_setState
    ((eventLoop_overGateway app).answers hvalid hput) hstate).replay hmiddle
      fun entry hmem state updated haction => absurd haction (hnever entry hmem state updated)
  rcases hcalls with hmodel | hpulled
  · exact absurd hmodel (not_model_of_bodies h hbodies hlog hput hsince hcall hres)
  · exact absurd (hblocked.elapses hrest.1)
      (hstarts call (by simp [hlog]) event tenantId policy hcall hpulled hres)

/-! ## Moments in time -/

/-- The tenant whose policy an event hands out. -/
def resolvedTenant : Event Answer → Option String
  | ⟨.snapshotLookup tenantId, some _⟩ => some tenantId
  | ⟨.storeGet tenantId, .ok _⟩ => some tenantId
  | _ => none

theorem mem_resolvedTenant_iff {history : History} {tenantId : String} :
    tenantId ∈ history.filterMap resolvedTenant ↔ ∃ policy, Resolved history tenantId policy := by
  rw [List.mem_filterMap]
  constructor
  · rintro ⟨event, hmem, htenant⟩
    unfold resolvedTenant at htenant
    split at htenant
    · cases htenant
      exact ⟨_, .inl hmem⟩
    · cases htenant
      exact ⟨_, .inr hmem⟩
    · cases htenant
  · rintro ⟨policy, hmem | hmem⟩
    · exact ⟨_, hmem, rfl⟩
    · exact ⟨_, hmem, rfl⟩

/-- Whether an entry is such a moment of a blocked tenant's request. -/
def happensBlocked (moment : Event Answer → Bool) (log : ProcessLog)
    (entry : Entry Answer GatewayState Job (Except Exn Unit)) : Bool :=
  match entry.action with
  | .did event => moment event && ((traceOf entry.tid log).filterMap resolvedTenant).any
      fun tenantId => (entry.before.policies.get? tenantId).any TenantPolicy.blocked
  | _ => false

theorem unblockedWhen_of_happensBlocked {moment : Event Answer → Bool} {log : ProcessLog}
    (h : ∀ entry ∈ log, happensBlocked moment log entry = false) : UnblockedWhen moment log := by
  rintro entry hmem event tenantId policy haction hmoment hres ⟨current, hget, hblocked⟩
  have hnot := h entry hmem
  simp only [happensBlocked, haction, hmoment, Bool.true_and, List.any_eq_false] at hnot
  exact hnot tenantId (mem_resolvedTenant_iff.mpr ⟨policy, hres⟩) (by simp [hget, hblocked])

/-- A stream is served, its tenant is suspended, and the next request comes. -/
def suspendedAfterStream : Process :=
  (eventLoopDriver App.oneKey).play (Machine.initial (.fresh 0 oneTenant)) [
    { tid := 0, job := some (.chat operatorRequest), oracle := streamingWorld },
    { tid := 0, oracle := streamingWorld },
    { tid := 0, oracle := streamingWorld },
    { tid := 0, oracle := streamingWorld },
    { tid := 1, job := some (.setTenantState operatorRequest "t"),
      oracle := servingWorld (stateBody .suspended) },
    { tid := 1, oracle := servingWorld (stateBody .suspended) },
    { tid := 1, oracle := servingWorld (stateBody .suspended) },
    { tid := 0, delay := 100, oracle := streamingWorld },
    { tid := 2, job := some (.chat operatorRequest), oracle := streamingWorld },
    { tid := 2, oracle := streamingWorld }]

/-- Revocation is bounded in a run with a stream that had been started in time. -/
theorem eventLoop_revocationBounded_suspendedAfterStream :
    suspendedAfterStream.log.filterMap statusOf = [200, 200, 403] ∧
      RevocationBounded App.oneKey.settings.policyCacheTtlS suspendedAfterStream.log :=
  ⟨by decide +kernel, eventLoop_revocationBounded (Driver.play_reachable ..)
    (unblockedWhen_of_happensBlocked (by decide +kernel))
    (unblockedWhen_of_happensBlocked (by decide +kernel))⟩

/-! ## Late calls -/

/-- The change an entry has made to a tenant's state. -/
def changeOf (entry : Entry Answer GatewayState Job (Except Exn Unit)) :
    Option (String × TenantState × TenantPolicy) :=
  match entry.action with
  | .did ⟨.storeSetState tenantId state, .ok updated⟩ => some (tenantId, state, updated)
  | _ => none

theorem changeOf_eq_some_iff {entry : Entry Answer GatewayState Job (Except Exn Unit)}
    {state : TenantState} {updated : TenantPolicy} :
    changeOf entry = some (tenantId, state, updated) ↔
      entry.action = .did ⟨.storeSetState tenantId state, .ok updated⟩ := by
  unfold changeOf
  split
  · rename_i haction
    simp [haction, and_assoc]
  · rename_i hnone
    simpa using fun haction => hnone _ _ _ haction

/-- Whether an entry calls a model. -/
def callsModel (entry : Entry Answer GatewayState Job (Except Exn Unit)) : Bool :=
  match entry.action with
  | .did event => CallsModel event
  | _ => false

theorem action_of_callsModel {entry : Entry Answer GatewayState Job (Except Exn Unit)}
    (h : callsModel entry = true) : ∃ event, entry.action = .did event ∧ CallsModel event := by
  unfold callsModel at h
  split at h
  · exact ⟨_, ‹_›, of_decide_eq_true h⟩
  · cases h

/-- The first entry blocks the tenant, the second answers it 200, and the third calls a
model for the tenant more than a lease after; no change succeeds in between. -/
structure LateCall (ttlS : ℚ) (log : ProcessLog) (tenantId : String) (state : TenantState)
    (updated : TenantPolicy) (put done call : Fin log.length) : Prop where
  ordered : put < done ∧ done < call
  changes : changeOf (log.get put) = some (tenantId, state, updated)
  blocks : state ∈ blockingStates
  answers : (log.get done).tid = (log.get put).tid ∧ statusOf (log.get done) = some 200
  alone : ∀ entry ∈ (log.drop (put + 1)).take (call - put - 1), changeOf entry = none
  calls : callsModel (log.get call) = true
  resolved : tenantId ∈ (traceOf (log.get call).tid log).filterMap resolvedTenant
  late : (log.get done).before.now + ttlS < (log.get call).before.now

theorem LateCall.not_bounded {ttlS : ℚ} {log : ProcessLog} {state : TenantState}
    {updated : TenantPolicy} {put done call : Fin log.length}
    (h : LateCall ttlS log tenantId state updated put done call) :
    ¬ RevocationBounded ttlS log := by
  intro hbounded
  obtain ⟨event, hcall, hcalls⟩ := action_of_callsModel h.calls
  obtain ⟨response, headers, answer, hanswered, hstatus⟩ := action_of_statusOf h.answers.2
  obtain ⟨policy, hres⟩ := mem_resolvedTenant_iff.mp h.resolved
  have hnever : NeverChanged tenantId ((log.drop (put + 1)).take (call - put - 1)) := by
    intro entry hmem state updated haction
    have hnone := h.alone entry hmem
    rw [changeOf_eq_some_iff.mpr haction] at hnone
    cases hnone
  have hle := hbounded _ _ _ _ _ _ _ _ _ _ _ _ _ _
    (eq_take_append_two (h.ordered.1.trans h.ordered.2) call.isLt)
    (changeOf_eq_some_iff.mp h.changes) h.blocks
    (getElem_mem_between h.ordered.1 h.ordered.2 call.isLt) h.answers.1 hanswered hstatus hnever
    hcall hcalls hres
  exact absurd h.late (not_lt.mpr hle)

/-- A request is let in. Its tenant is suspended, the change is answered, and the
body arrives a hundred seconds later. -/
def lateBody : Process :=
  (eventLoopDriver App.oneKey).play (Machine.initial (.fresh 0 oneTenant)) [
    { tid := 0, job := some (.chat operatorRequest), oracle := servingWorld helloBody },
    { tid := 1, job := some (.setTenantState operatorRequest "t"),
      oracle := servingWorld (stateBody .suspended) },
    { tid := 1, oracle := servingWorld (stateBody .suspended) },
    { tid := 1, oracle := servingWorld (stateBody .suspended) },
    { tid := 1, oracle := servingWorld (stateBody .suspended) },
    { tid := 0, delay := 100, oracle := servingWorld helloBody }]

/-- The model is called seventy seconds after the lease has run out. -/
theorem late_body_reaches_model : ∃ c : Process,
    (eventLoop App.oneKey).Reachable (.fresh 0 oneTenant) c ∧
      ¬ RevocationBounded App.oneKey.settings.policyCacheTtlS c.log := by
  have hlate : LateCall App.oneKey.settings.policyCacheTtlS lateBody.log "t" .suspended
      (PolicyStore.withState { tenantId := "t" } .suspended) ⟨14, by decide +kernel⟩
      ⟨19, by decide +kernel⟩ ⟨30, by decide +kernel⟩ := by
    constructor <;> decide +kernel
  exact ⟨lateBody, Driver.play_reachable .., hlate.not_bounded⟩

/-- A stream is opened. While the start of its response is being sent its tenant is
suspended; the sending comes back a hundred seconds later. -/
def lateStart : Process :=
  (eventLoopDriver App.oneKey).play (Machine.initial (.fresh 0 oneTenant)) [
    { tid := 0, job := some (.chat operatorRequest), oracle := streamingWorld },
    { tid := 0, oracle := streamingWorld },
    { tid := 1, job := some (.setTenantState operatorRequest "t"),
      oracle := servingWorld (stateBody .suspended) },
    { tid := 1, oracle := servingWorld (stateBody .suspended) },
    { tid := 1, oracle := servingWorld (stateBody .suspended) },
    { tid := 1, oracle := servingWorld (stateBody .suspended) },
    { tid := 0, delay := 100, oracle := streamingWorld }]

/-- No body arrives late here, and yet the stream calls its model too late. -/
theorem late_start_reaches_model : ∃ c : Process,
    (eventLoop App.oneKey).Reachable (.fresh 0 oneTenant) c ∧
      UnblockedWhen bodyArrives c.log ∧
      ¬ RevocationBounded App.oneKey.settings.policyCacheTtlS c.log := by
  have hlate : LateCall App.oneKey.settings.policyCacheTtlS lateStart.log "t" .suspended
      (PolicyStore.withState { tenantId := "t" } .suspended) ⟨24, by decide +kernel⟩
      ⟨29, by decide +kernel⟩ ⟨34, by decide +kernel⟩ := by
    constructor <;> decide +kernel
  exact ⟨lateStart, Driver.play_reachable ..,
    unblockedWhen_of_happensBlocked (by decide +kernel), hlate.not_bounded⟩

end BedrockGateway
