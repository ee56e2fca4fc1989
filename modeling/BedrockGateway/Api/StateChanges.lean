/-
# The control plane is its history

A policy changes only through `set_state`, and every change adds one to its epoch.
`set_state` reads and writes without a lock; on the event loop nothing comes between
the two. So however requests interleave at their awaits, a stored policy is the
loaded one with the state of the last change to its tenant and an epoch that counts
the changes: none is lost and none is counted twice. The answer of an admin request
names the change it made by that count.
-/

import BedrockGateway.Api.AdminTrace

namespace BedrockGateway

open Foundation Py
open Fallible (Along.call Along.bind Along.bind_of_only)

/-! ## A policy after a list of changes -/

/-- A policy after its state was set to each of these in turn. -/
def TenantPolicy.revised (policy : TenantPolicy) (changes : List TenantState) : TenantPolicy :=
  { policy with
    state := changes.getLast?.getD policy.state
    policyEpoch := policy.policyEpoch + changes.length }

namespace TenantPolicy

variable {policy : TenantPolicy} {changes : List TenantState} {state : TenantState}

@[simp]
theorem revised_nil : policy.revised [] = policy := by
  cases policy
  simp [revised]

/-- One more change is `set_state` on the policy so far. -/
theorem revised_append_single :
    policy.revised (changes ++ [state]) = PolicyStore.withState (policy.revised changes) state := by
  simp [revised, PolicyStore.withState, add_assoc]

/-- The epoch counts the changes. -/
theorem revised_policyEpoch :
    (policy.revised changes).policyEpoch = policy.policyEpoch + changes.length := rfl

end TenantPolicy

/-! ## In runs -/

section Runs

variable {J R : Type} {app : App} {M : Machine Query Answer GatewayState J R}

/-- The change to a tenant's state that an entry asks for. -/
def stateSet (tenantId : String) (entry : Entry Answer GatewayState J R) : Option TenantState :=
  match entry.action with
  | .did ⟨.storeSetState target state, _⟩ => if target = tenantId then some state else none
  | _ => none

/-- The changes to a tenant's state, in order. -/
def statesSet (tenantId : String) (log : List (Entry Answer GatewayState J R)) :
    List TenantState :=
  log.filterMap (stateSet tenantId)

theorem statesSet_append (tenantId : String) (first second : List (Entry Answer GatewayState J R)) :
    statesSet tenantId (first ++ second) = statesSet tenantId first ++ statesSet tenantId second :=
  List.filterMap_append

theorem statesSet_cons_of_some {tenantId : String} {entry : Entry Answer GatewayState J R}
    {state : TenantState} (h : stateSet tenantId entry = some state)
    (log : List (Entry Answer GatewayState J R)) :
    statesSet tenantId (entry :: log) = state :: statesSet tenantId log :=
  List.filterMap_cons_some h

theorem statesSet_single_none {tenantId : String} {entry : Entry Answer GatewayState J R}
    (h : stateSet tenantId entry = none) : statesSet tenantId [entry] = [] :=
  List.filterMap_cons_none h

theorem stateSet_of_did {tenantId : String} {entry : Entry Answer GatewayState J R}
    {state : TenantState} {result : Except Exn TenantPolicy}
    (haction : entry.action = .did ⟨.storeSetState tenantId state, result⟩) :
    stateSet tenantId entry = some state := by
  simp [stateSet, haction]

/-- The policy that a stored one has become by this log. -/
def Recorded (start : PolicyStore) (tenantId : String) (log : List (Entry Answer GatewayState J R))
    (s : GatewayState) : Prop :=
  s.policies.get? tenantId = (start.get? tenantId).map (·.revised (statesSet tenantId log))

variable {start : PolicyStore} {tenantId : String} {past : List (Entry Answer GatewayState J R)}
variable {entry : Entry Answer GatewayState J R}

/-- An entry that asks for no change to the tenant leaves its policy alone. -/
private theorem Recorded.keep (h : Recorded start tenantId past entry.before)
    (hnone : stateSet tenantId entry = none)
    (hsame : entry.after.policies.get? tenantId = entry.before.policies.get? tenantId) :
    Recorded start tenantId (past ++ [entry]) entry.after := by
  rw [Recorded, statesSet_append, statesSet_single_none hnone, List.append_nil, hsame]
  exact h

/-- What one change does. -/
private theorem Recorded.change {state : TenantState} {result : Except Exn TenantPolicy}
    (h : Recorded start tenantId past entry.before)
    (haction : entry.action = .did ⟨.storeSetState tenantId state, result⟩)
    (hset : (result, entry.after.policies) = entry.before.policies.setState tenantId state) :
    Recorded start tenantId (past ++ [entry]) entry.after ∧
      result = match start.get? tenantId with
        | some policy => .ok (policy.revised (statesSet tenantId past ++ [state]))
        | none => .error (.unknownTenant tenantId) := by
  have hlog : statesSet tenantId (past ++ [entry]) = statesSet tenantId past ++ [state] := by
    rw [statesSet_append, statesSet_cons_of_some (stateSet_of_did haction)]
    rfl
  rw [Recorded] at h
  rcases entry.before.policies.setState_cases tenantId state with
    ⟨current, hget, hdone⟩ | ⟨hget, hdone⟩
  · obtain ⟨rfl, hafter⟩ := Prod.mk.inj (hset.trans hdone)
    rw [hget] at h
    obtain ⟨policy, hstart, hcurrent⟩ := Option.map_eq_some_iff.mp h.symm
    rw [Recorded, hlog, hafter, Dict.get?_set_self, hstart, ← hcurrent]
    simp only [Option.map_some, TenantPolicy.revised_append_single, and_self]
  · obtain ⟨rfl, hafter⟩ := Prod.mk.inj (hset.trans hdone)
    rw [hget] at h
    have hstart : start.get? tenantId = none := Option.map_eq_none_iff.mp h.symm
    rw [Recorded, hafter, hget, hstart]
    exact ⟨rfl, rfl⟩

/-- What every entry does. -/
private theorem Recorded.extend (hM : OverGateway app M)
    (h : Recorded start tenantId past entry.before) (hvalid : M.Valid entry) :
    Recorded start tenantId (past ++ [entry]) entry.after := by
  have hquiet : (∀ state result, entry.action ≠ .did ⟨.storeSetState tenantId state, result⟩) →
      stateSet tenantId entry = none := by
    intro hother
    unfold stateSet
    split
    · split
      · rename_i target state result haction heq
        subst heq
        exact absurd haction (hother state result)
      · rfl
    · rfl
  rcases hM.policy_cases hvalid with ⟨_, _, haction, heq, _⟩ | ⟨_, haction, heq, _⟩ |
    ⟨target, state, result, haction, hset, _⟩ | ⟨hnone, heq, _⟩
  · exact h.keep (hquiet (by simp [haction])) (by rw [heq])
  · exact h.keep (hquiet (by simp [haction])) (by rw [heq])
  · by_cases htarget : target = tenantId
    · subst htarget
      exact (h.change haction hset).1
    · refine h.keep (hquiet ?_) ?_
      · rw [haction]
        rintro _ _ heq
        injection heq with heq
        injection heq with heq _
        injection heq with heq _
        exact htarget heq
      · rcases entry.before.policies.setState_cases target state with ⟨_, _, hdone⟩ | ⟨_, hdone⟩
        · rw [(Prod.mk.inj (hset.trans hdone)).2, Dict.get?_set_of_ne _ _ (Ne.symm htarget)]
        · rw [(Prod.mk.inj (hset.trans hdone)).2]
  · refine h.keep (hquiet fun state result haction => ?_) (by rw [heq])
    have hframe := hnone _ haction
    cases hframe

/-- A stored policy is what the log has made of it, before every entry and at the end. -/
theorem OverGateway.recorded (hM : OverGateway app M) {s s' : GatewayState}
    {log : List (Entry Answer GatewayState J R)} (hreplay : M.Replay s log s')
    (tenantId : String) :
    Recorded s.policies tenantId log s' ∧
      ∀ past entry future, log = past ++ entry :: future →
        Recorded s.policies tenantId past entry.before := by
  refine hreplay.invariant (I := Recorded s.policies tenantId) ?_
    (fun past before after h htime => ?_)
    fun past entry future _ h hvalid => Recorded.extend hM h hvalid
  · simp [Recorded, statesSet]
  · rw [hM.passes_eq] at htime
    obtain ⟨now, _, rfl⟩ := htime
    exact h

/-- The stored policies and the answers to changes, where a change is one step. -/
theorem OverGateway.policy_history (hM : OverGateway app M) {s : GatewayState}
    {c : Config Answer GatewayState J R} (h : M.Reachable s c) (tenantId : String) :
    c.state.policies.get? tenantId =
      (s.policies.get? tenantId).map (·.revised (statesSet tenantId c.log)) ∧
    ∀ past entry future state result, c.log = past ++ entry :: future →
      entry.action = .did ⟨.storeSetState tenantId state, result⟩ →
      result = match s.policies.get? tenantId with
        | some policy => .ok (policy.revised (statesSet tenantId past ++ [state]))
        | none => .error (.unknownTenant tenantId) := by
  have hrecorded := hM.recorded h.replay tenantId
  refine ⟨hrecorded.1, fun past entry future state result hlog haction => ?_⟩
  have hvalid := h.replay.valid (show entry ∈ c.log by simp [hlog])
  have hanswer := (hM.answers hvalid haction).storeSetState
  refine (Recorded.change (hrecorded.2 past entry future hlog) haction ?_).2
  rw [hanswer.1, hanswer.2]

end Runs

/-- **No lost and no duplicated update.** In every run of the event loop, however the
requests interleave at their awaits, a tenant's stored policy is the one it started
with after exactly the changes in the log, in their order; each change is answered
with the policy after the changes up to it; and a tenant that is not in the store at
the start never is. -/
theorem policy_is_its_history {app : App} {s : GatewayState} {c : Process}
    (h : (eventLoop app).Reachable s c) (tenantId : String) :
    c.state.policies.get? tenantId =
      (s.policies.get? tenantId).map (·.revised (statesSet tenantId c.log)) ∧
    ∀ past entry future state result, c.log = past ++ entry :: future →
      entry.action = .did ⟨.storeSetState tenantId state, result⟩ →
      result = match s.policies.get? tenantId with
        | some policy => .ok (policy.revised (statesSet tenantId past ++ [state]))
        | none => .error (.unknownTenant tenantId) :=
  (eventLoop_overGateway app).policy_history h tenantId

/-- Two admin requests for one tenant whose questions are answered in turn: one wants it
suspended, the other throttled. -/
def rivalChanges : Process :=
  (eventLoopDriver App.plain).play (Machine.initial (.fresh 0 oneTenant)) [
    { tid := 0, job := some (.setTenantState operatorRequest "t"),
      oracle := servingWorld (stateBody .suspended) },
    { tid := 1, job := some (.setTenantState operatorRequest "t"),
      oracle := servingWorld (stateBody .throttled) },
    { tid := 1, oracle := servingWorld (stateBody .throttled) },
    { tid := 0, oracle := servingWorld (stateBody .suspended) },
    { tid := 0, oracle := servingWorld (stateBody .suspended) },
    { tid := 1, oracle := servingWorld (stateBody .throttled) }]

/-- The history of the rivals' tenant. -/
theorem policy_is_its_history_rivalChanges :
    statesSet "t" rivalChanges.log = [.throttled, .suspended] ∧
    rivalChanges.state.policies.get? "t" =
      (oneTenant.get? "t").map (·.revised (statesSet "t" rivalChanges.log)) ∧
    ∀ past entry future state result, rivalChanges.log = past ++ entry :: future →
      entry.action = .did ⟨.storeSetState "t" state, result⟩ →
      result = .ok (TenantPolicy.revised { tenantId := "t" } (statesSet "t" past ++ [state])) := by
  have hreach : (eventLoop App.plain).Reachable (.fresh 0 oneTenant) rivalChanges :=
    Driver.play_reachable ..
  obtain ⟨hstored, hanswered⟩ := policy_is_its_history hreach "t"
  exact ⟨by decide +kernel, hstored, hanswered⟩

/-! ## What an admin request is told -/

/-- A 200 is the answer to a change that was made. -/
def Tells (tenantId : String) (history : History) (response : Response) : Prop :=
  response.statusCode = 200 → ∃ state updated,
    ⟨.storeSetState tenantId state, .ok updated⟩ ∈ history ∧
      response = changedResponse tenantId updated

/-- What an admin request owes when it starts a response. -/
def AdminTells (tenantId : String) (history : History) (event : Event Answer) : Prop :=
  match event.query with
  | .sendStart response _ => Tells tenantId history response
  | _ => True

/-- What the handler hands back. -/
def TellsReturned (tenantId : String) (history : History) (outcome : Except Exn Response) : Prop :=
  ∀ response, outcome = .ok response → Tells tenantId history response

variable {app : App} {request : HttpRequest} {tenantId requestId : String} {history : History}

theorem AdminTells.of_not_reply {q : Query} (hq : q.kind ≠ .reply) (history : History)
    (answer : Answer q) : AdminTells tenantId history ⟨q, answer⟩ := by
  cases q <;> first | exact trivial | exact absurd rfl hq

theorem Tells.append {response : Response} (h : Tells tenantId history response)
    (trace : History) : Tells tenantId (history ++ trace) response := by
  intro hstatus
  obtain ⟨state, updated, hmem, hresponse⟩ := h hstatus
  exact ⟨state, updated, List.mem_append_left _ hmem, hresponse⟩

/-- An error says nothing. -/
theorem Tells.rejection (status : ErrorStatus) (code message : String) :
    Tells tenantId history (errorResponse status code message requestId) := by
  intro hstatus
  have herror := status.isError
  have hcode : status.code = 200 := hstatus
  omega

theorem TellsReturned.rejection (status : ErrorStatus) (code message : String) :
    TellsReturned tenantId history (.ok (errorResponse status code message requestId)) := by
  intro response heq
  cases heq
  exact Tells.rejection status code message

theorem TellsReturned.error (exn : Exn) : TellsReturned tenantId history (.error exn) :=
  fun _ heq => nomatch heq

/-- The change, and what is said of it. -/
theorem applyState_tells {identity : Identity} {state : TenantState} :
    Program.Along (AdminTells tenantId) (TellsReturned tenantId)
      (applyState app requestId identity tenantId state).run history := by
  refine Along.call fun answer => ⟨trivial, ?_⟩
  cases answer with
  | error exn =>
      cases exn with
      | unknownTenant missing => exact TellsReturned.rejection _ _ _
      | _ => exact TellsReturned.error _
  | ok updated =>
      refine Along.call fun _ => ⟨trivial, Along.call fun _ => ⟨trivial, fun response heq _ => ?_⟩⟩
      cases heq
      exact ⟨state, updated, by simp, rfl⟩

theorem setTenantState_tells :
    Program.Along (AdminTells tenantId) (TellsReturned tenantId)
      (setTenantState app request tenantId requestId).run history := by
  refine along_exceptPipeline (fun _ _ => True) ?_ (fun history identity _ => ?_)
    (fun history _ _ _ _ => TellsReturned.rejection _ _ _)
    (fun history exn _ _ => TellsReturned.error _)
  · refine Program.Along.of_only (asks_adminCaller app request)
      (fun q hq history answer => ?_) fun _ _ _ _ => trivial
    exact AdminTells.of_not_reply (by rintro hkind; simp [Query.among, hkind] at hq) _ _
  · refine Along.call fun answer => ⟨trivial, ?_⟩
    cases answer with
    | error exn =>
        cases exn with
        | cancelled => exact TellsReturned.error _
        | _ => exact TellsReturned.rejection _ _ _
    | ok body =>
        dsimp only
        split
        · exact TellsReturned.rejection _ _ _
        · exact applyState_tells

/-- The handler in its place. -/
theorem tells_serving : Serving (AdminTells tenantId) (TellsReturned tenantId) fun _ => True where
  free q hq history answer :=
    AdminTells.of_not_reply (by rintro hkind; simp [Query.among, hkind] at hq) history answer
  keeps _ trace _ hreturned _ response heq := (hreturned response heq).append trace
  sends _ response _ _ hreturned := ⟨hreturned response rfl, trivial⟩
  fails _ _ _ _ _ _ := ⟨Tells.rejection _ _ _, trivial⟩
  cancelled _ _ := trivial
  lasts _ _ _ _ := trivial
  pulls _ _ _ _ _ _ _ _ _ := AdminTells.of_not_reply (by simp [Query.kind]) _ _

theorem setTenantState_job_tells (app : App) (request : HttpRequest) (tenantId : String) :
    Program.Along (AdminTells tenantId) (fun _ _ => True)
      ((Job.setTenantState request tenantId).run app).run [] :=
  tells_serving.along_serve fun _ _ _ => setTenantState_tells

section Answers

variable {s : GatewayState} {c : Process}

/-- A 200 that an admin request has started, and the change it speaks of: which one
it was among the changes to the tenant. -/
structure Confirmed (s : GatewayState) (c : Process) (tenantId : String) (tid : ℕ)
    (response : Response) where
  past : ProcessLog
  entry : Entry Answer GatewayState Job (Except Exn Unit)
  future : ProcessLog
  state : TenantState
  loaded : TenantPolicy
  log_eq : c.log = past ++ entry :: future
  tid_eq : entry.tid = tid
  change : stateSet tenantId entry = some state
  loaded_eq : s.policies.get? tenantId = some loaded
  response_eq : response =
    changedResponse tenantId (loaded.revised (statesSet tenantId past ++ [state]))

/-- Every 200 of an admin request confirms a change of its own. -/
theorem exists_confirmed (h : (eventLoop app).Reachable s c) {tid : ℕ}
    {rest : Program Query Answer (Except Exn Unit)}
    (hthread : c.threads tid = some ⟨.setTenantState request tenantId, rest⟩)
    {response : Response} {headers : List (String × String)} {sent : Except Exn Unit}
    (hsent : ⟨.sendStart response headers, sent⟩ ∈ traceOf tid c.log)
    (hstatus : response.statusCode = 200) : Nonempty (Confirmed s c tenantId tid response) := by
  obtain ⟨before, after, hsplit⟩ := List.append_of_mem hsent
  obtain ⟨past, entry, future, hlog, rfl, haction, hpast, _⟩ := exists_entry_of_traceOf hsplit
  have htells := h.meets hlog haction hthread (setTenantState_job_tells app request tenantId)
  obtain ⟨state, updated, hmem, hresponse⟩ := htells hstatus
  obtain ⟨change, hchange, htid, hdid⟩ := mem_traceOf_iff.mp hmem
  obtain ⟨earlier, later, hpastlog⟩ := List.append_of_mem hchange
  have hwhole : c.log = earlier ++ change :: (later ++ entry :: future) := by
    rw [hlog, hpastlog]
    simp
  have hresult := ((eventLoop_overGateway app).policy_history h tenantId).2 _ _ _ _ _ hwhole hdid
  cases hloaded : s.policies.get? tenantId with
  | none => simp [hloaded] at hresult
  | some loaded =>
      rw [hloaded] at hresult
      obtain rfl := Except.ok.inj hresult
      exact ⟨⟨earlier, change, _, state, loaded, hwhole, htid, stateSet_of_did hdid, hloaded,
        hresponse⟩⟩

/-- What a confirmation says determines how many changes came before. -/
theorem Confirmed.count_eq {tid other : ℕ} {response : Response}
    (first : Confirmed s c tenantId tid response)
    (second : Confirmed s c tenantId other response) :
    (statesSet tenantId first.past).length = (statesSet tenantId second.past).length := by
  have hloaded := Option.some.inj (first.loaded_eq.symm.trans second.loaded_eq)
  have hsame := first.response_eq.symm.trans second.response_eq
  simp only [hloaded, changedResponse, Response.json.injEq, Json.obj.injEq, List.cons.injEq,
    Prod.mk.injEq, Json.int, Json.num.injEq] at hsame
  have hepoch := Json.literal_ofInt_inj hsame.2.2.2.1.2
  simp only [TenantPolicy.revised_policyEpoch, List.length_append,
    List.length_singleton] at hepoch
  omega

/-- A change further on in the log counts the one before it. -/
private theorem count_lt {tid other : ℕ} {response response' : Response}
    (first : Confirmed s c tenantId tid response)
    (second : Confirmed s c tenantId other response')
    {between : ProcessLog} (h : second.past = first.past ++ first.entry :: between) :
    (statesSet tenantId first.past).length < (statesSet tenantId second.past).length := by
  rw [h, statesSet_append, statesSet_cons_of_some first.change]
  simp

/-- Two places of one list are the same, or one comes before the other. -/
private theorem place_cases {α : Type} {past past' future future' : List α} {a a' : α}
    (h : past ++ a :: future = past' ++ a' :: future') :
    (past = past' ∧ a = a') ∨ (∃ between, past' = past ++ a :: between) ∨
      ∃ between, past = past' ++ a' :: between := by
  rcases List.append_eq_append_iff.mp h with ⟨between, hpast, hrest⟩ | ⟨between, hpast, hrest⟩
  · cases between with
    | nil => exact .inl ⟨by simpa using hpast.symm, (List.cons.inj hrest).1⟩
    | cons head between =>
        obtain ⟨rfl, _⟩ := List.cons.inj hrest
        exact .inr (.inl ⟨between, hpast⟩)
  · cases between with
    | nil => exact .inl ⟨by simpa using hpast, (List.cons.inj hrest).1.symm⟩
    | cons head between =>
        obtain ⟨rfl, _⟩ := List.cons.inj hrest
        exact .inr (.inr ⟨between, hpast⟩)

/-- **Admin answers are linearized.** In every reachable configuration, each admin
request for a tenant that has been answered 200 was told the tenant's policy right
after a change of its own: the loaded policy after that change and the ones before it
in the log, whoever made them. So no two requests are ever told the same. -/
theorem admin_answers_linearized (h : (eventLoop app).Reachable s c) {tid : ℕ}
    {rest : Program Query Answer (Except Exn Unit)}
    (hthread : c.threads tid = some ⟨.setTenantState request tenantId, rest⟩)
    {response : Response} {headers : List (String × String)} {sent : Except Exn Unit}
    (hsent : ⟨.sendStart response headers, sent⟩ ∈ traceOf tid c.log)
    (hstatus : response.statusCode = 200) :
    Nonempty (Confirmed s c tenantId tid response) ∧
      ∀ other request' rest' headers' sent', other ≠ tid →
        c.threads other = some ⟨.setTenantState request' tenantId, rest'⟩ →
        ⟨.sendStart response headers', sent'⟩ ∉ traceOf other c.log := by
  have hfirst := exists_confirmed h hthread hsent hstatus
  refine ⟨hfirst, fun other request' rest' headers' sent' hne hthread' hsent' => ?_⟩
  obtain ⟨first⟩ := hfirst
  obtain ⟨second⟩ := exists_confirmed h hthread' hsent' hstatus
  have hcount := first.count_eq second
  rcases place_cases (first.log_eq.symm.trans second.log_eq) with ⟨_, hentry⟩ | ⟨_, hafter⟩ |
    ⟨_, hbefore⟩
  · exact hne (second.tid_eq.symm.trans (hentry ▸ first.tid_eq))
  · exact absurd hcount (count_lt first second hafter).ne
  · exact absurd hcount (count_lt second first hbefore).ne'

/-- What the rival that came first is told: epoch 3, for its change was made second. -/
def thirdEpoch : Response :=
  .json 200 (.obj [("tenant_id", .str "t"), ("state", .str "SUSPENDED"), ("policy_epoch", .int 3)])

/-- Only the rival that came first is told so. -/
theorem admin_answers_linearized_rivalChanges :
    Nonempty (Confirmed (.fresh 0 oneTenant) rivalChanges "t" 0 thirdEpoch) ∧
      ∀ other request' rest' headers' sent', other ≠ 0 →
        rivalChanges.threads other = some ⟨.setTenantState request' "t", rest'⟩ →
        ⟨.sendStart thirdEpoch headers', sent'⟩ ∉ traceOf other rivalChanges.log := by
  have hreach : (eventLoop App.plain).Reachable (.fresh 0 oneTenant) rivalChanges :=
    Driver.play_reachable ..
  have hthread : (rivalChanges.threads 0).map Thread.job =
      some (.setTenantState operatorRequest "t") := by decide +kernel
  obtain ⟨⟨job, rest⟩, hzero, hjob⟩ := Option.map_eq_some_iff.mp hthread
  obtain rfl : job = .setTenantState operatorRequest "t" := hjob
  exact admin_answers_linearized hreach hzero
    (List.mem_of_getElem? (i := 8) (l := traceOf 0 rivalChanges.log) rfl) rfl

end Answers

end BedrockGateway
