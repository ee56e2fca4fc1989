/-
# Gateway processes

Requests are served by coroutines of one event loop: a handler runs alone from
one `await` to the next. The locks inside the components are there for callers
that are preempted anywhere; two more machines run the components' operations
directly under such callers, the snapshot cache's and the breaker's.

The three machines differ in what they run and where control is given up, and
agree on what the questions mean. What follows from the meaning alone is proved
for all of them at once.
-/

import BedrockGateway.Foundation.Driver
import BedrockGateway.Foundation.Safety
import BedrockGateway.Telemetry.Middleware

namespace BedrockGateway

open Foundation Py

/-- A machine over the gateway's state and questions. -/
structure OverGateway {J R : Type} (app : App) (M : Machine Query Answer GatewayState J R) :
    Prop where
  passes_eq : M.passes = Elapses
  sem_eq : M.sem = Answers app

/-! ## The event loop -/

/-- What a request asks for, of the routes that question the gateway's state. -/
inductive Job
  | /-- `POST /v1/chat` -/
    chat (request : HttpRequest)
  | /-- `PUT /v1/admin/tenants/{tenant_id}/state` -/
    setTenantState (request : HttpRequest) (tenantId : String)
  deriving DecidableEq

/-- The request of a job. -/
def Job.request : Job → HttpRequest
  | .chat request => request
  | .setTenantState request _ => request

/-- Serve one request. -/
def Job.run (app : App) : Job → Py Unit
  | .chat request => serve app request (BedrockGateway.chat app request)
  | .setTenantState request tenantId =>
      serve app request (BedrockGateway.setTenantState app request tenantId)

/-- The event loop. -/
def eventLoop (app : App) : Machine Query Answer GatewayState Job (Except Exn Unit) where
  passes := Elapses
  sem := Answers app
  yields := fun q => q.awaits = true
  program := fun job => (job.run app).run

/-- A configuration of the event loop. -/
abbrev Process := Config Answer GatewayState Job (Except Exn Unit)

/-- The log of an event loop. -/
abbrev ProcessLog := List (Entry Answer GatewayState Job (Except Exn Unit))

theorem eventLoop_overGateway (app : App) : OverGateway app (eventLoop app) := ⟨rfl, rfl⟩

/-! ## Preempted callers -/

/-- The operations on the policy store and its snapshot cache. -/
inductive PolicyOp
  | /-- `PolicySnapshotCache.get` -/
    get (tenantId : String)
  | /-- `PolicyStore.set_state` -/
    setState (tenantId : String) (state : TenantState)
  | /-- `PolicySnapshotCache.invalidate` -/
    invalidate (tenantId : String)

/-- Run one operation; only a `get` returns a policy. A `set_state` is one step: other
calls do not come between its read and its write, which no lock holds together. -/
def PolicyOp.run : PolicyOp → Py (Option TenantPolicy)
  | .get tenantId => do
      let policy ← snapshotGet tenantId
      pure (some policy)
  | .setState tenantId state => do
      let _ ← ask (.storeSetState tenantId state) >>= settle
      pure none
  | .invalidate tenantId => do
      let _ ← ask (.snapshotInvalidate tenantId)
      pure none

/-- Threads calling the policy store and its cache. -/
def policyThreads (app : App) :
    Machine Query Answer GatewayState PolicyOp (Except Exn (Option TenantPolicy)) where
  passes := Elapses
  sem := Answers app
  yields := fun _ => True
  program := fun op => op.run.run

theorem policyThreads_overGateway (app : App) : OverGateway app (policyThreads app) := ⟨rfl, rfl⟩

/-- How a call of a model ends. -/
inductive CallOutcome
  | succeeds
  | fails
  | /-- An aborted stream: nothing is recorded. -/
    aborted
  deriving DecidableEq

/-- A call of a model, and how it is going to end. -/
structure ModelCall where
  modelId : String
  outcome : CallOutcome

/-- What a caller of the breaker does around a call of a model. -/
def ModelCall.run (call : ModelCall) : Py Unit := do
  let allowed ← ask (.breakerAllow call.modelId)
  if allowed then
    match call.outcome with
    | .succeeds => ask (.recordSuccess call.modelId)
    | .fails => ask (.recordFailure call.modelId)
    | .aborted => pure ()
  else pure ()

/-- Concurrent calls of models through the breaker. -/
def modelCalls (app : App) : Machine Query Answer GatewayState ModelCall (Except Exn Unit) where
  passes := Elapses
  sem := Answers app
  yields := fun _ => True
  program := fun call => call.run.run

theorem modelCalls_overGateway (app : App) : OverGateway app (modelCalls app) := ⟨rfl, rfl⟩

/-! ## What every such machine does -/

section OverGateway

variable {J R : Type} {app : App} {M : Machine Query Answer GatewayState J R}

/-- A valid entry is an answered question, or leaves the state as it is. -/
theorem OverGateway.valid_cases (hM : OverGateway app M)
    {entry : Entry Answer GatewayState J R} (h : M.Valid entry) :
    (∃ q a, entry.action = .did ⟨q, a⟩ ∧ Answers app entry.before q a entry.after) ∨
      ((∀ event, entry.action ≠ .did event) ∧ entry.after = entry.before) := by
  unfold Machine.Valid at h
  cases haction : entry.action with
  | did event =>
      rw [haction, hM.sem_eq] at h
      exact .inl ⟨event.query, event.answer, rfl, h⟩
  | start job =>
      rw [haction] at h
      exact .inr ⟨by simp, h⟩
  | finish result =>
      rw [haction] at h
      exact .inr ⟨by simp, h⟩

/-- An answered question was answered as the gateway answers. -/
theorem OverGateway.answers (hM : OverGateway app M) {entry : Entry Answer GatewayState J R}
    (h : M.Valid entry) {q : Query} {a : Answer q} (haction : entry.action = .did ⟨q, a⟩) :
    Answers app entry.before q a entry.after := by
  rwa [Machine.Valid, haction, hM.sem_eq] at h

/-- Starting and finishing change nothing. -/
theorem OverGateway.after_eq (hM : OverGateway app M) {entry : Entry Answer GatewayState J R}
    (h : M.Valid entry) (hnone : ∀ event, entry.action ≠ .did event) :
    entry.after = entry.before := by
  rcases hM.valid_cases h with ⟨q, a, haction, _⟩ | ⟨_, heq⟩
  · exact absurd haction (hnone _)
  · exact heq

/-- Entries take no time. -/
theorem OverGateway.after_now (hM : OverGateway app M) {entry : Entry Answer GatewayState J R}
    (h : M.Valid entry) : entry.after.now = entry.before.now := by
  rcases hM.valid_cases h with ⟨q, a, _, hanswers⟩ | ⟨_, heq⟩
  · exact hanswers.now
  · rw [heq]

/-- What an entry can do to the policies and the snapshots. -/
theorem OverGateway.policy_cases (hM : OverGateway app M)
    {entry : Entry Answer GatewayState J R} (h : M.Valid entry) :
    (∃ tenantId policy, entry.action = .did ⟨.snapshotWriteBack tenantId policy, ()⟩ ∧
      entry.after.policies = entry.before.policies ∧
      entry.after.snapshots =
        entry.before.snapshots.writeBack entry.before.now tenantId policy) ∨
    (∃ tenantId, entry.action = .did ⟨.snapshotInvalidate tenantId, ()⟩ ∧
      entry.after.policies = entry.before.policies ∧
      entry.after.snapshots = entry.before.snapshots.invalidate tenantId) ∨
    (∃ tenantId state result, entry.action = .did ⟨.storeSetState tenantId state, result⟩ ∧
      (result, entry.after.policies) = entry.before.policies.setState tenantId state ∧
      entry.after.snapshots = entry.before.snapshots) ∨
    ((∀ event, entry.action = .did event → event.query.changesPolicies = false) ∧
      entry.after.policies = entry.before.policies ∧
      entry.after.snapshots = entry.before.snapshots) := by
  rcases hM.valid_cases h with ⟨q, a, haction, hanswers⟩ | ⟨hnone, heq⟩
  · by_cases hq : q.changesPolicies = false
    · refine .inr (.inr (.inr ⟨fun event hevent => ?_, hanswers.policies_frame hq⟩))
      rw [haction] at hevent
      cases hevent
      exact hq
    · cases q with
      | snapshotWriteBack tenantId policy =>
          obtain ⟨_, hafter⟩ := hanswers
          exact .inl ⟨tenantId, policy, haction, by rw [hafter], by rw [hafter]⟩
      | snapshotInvalidate tenantId =>
          obtain ⟨_, hafter⟩ := hanswers
          exact .inr (.inl ⟨tenantId, haction, by rw [hafter], by rw [hafter]⟩)
      | storeSetState tenantId state =>
          obtain ⟨hresult, hafter⟩ := hanswers.storeSetState
          exact .inr (.inr (.inl ⟨tenantId, state, a, haction, by rw [hresult, hafter],
            by rw [hafter]⟩))
      | _ => simp [Query.changesPolicies] at hq
  · exact .inr (.inr (.inr ⟨fun event hevent => absurd hevent (hnone event), by rw [heq],
      by rw [heq]⟩))

/-- Answers from the gateway's state, and from the oracle where it does not decide. -/
def respond (app : App) (oracle : (q : Query) → Answer q) (s : GatewayState) (q : Query) :
    Answer q × GatewayState :=
  (answer app s q).getD (oracle q, s)

theorem respond_answers (app : App) (oracle : (q : Query) → Answer q) (s : GatewayState)
    (q : Query) : Answers app s q (respond app oracle s q).1 (respond app oracle s q).2 := by
  unfold Answers respond
  cases answer app s q with
  | none => rfl
  | some result => exact ⟨rfl, rfl⟩

/-- Let a number of seconds pass. -/
def wait (delay : ℕ) (s : GatewayState) : GatewayState := { s with now := s.now + delay }

/-- Play a machine over the gateway. -/
def OverGateway.driver (hM : OverGateway app M) (yields : Query → Bool)
    (hyields : ∀ q, yields q = true ↔ M.yields q) : Driver M where
  yields := yields
  yields_iff := hyields
  respond := respond app
  respond_sem oracle s q := by
    rw [hM.sem_eq]
    exact respond_answers app oracle s q
  wait := wait
  wait_passes delay s := by
    rw [hM.passes_eq]
    exact ⟨s.now + delay, by simp, rfl⟩
  passes_refl s := by
    rw [hM.passes_eq]
    exact Elapses.refl s

end OverGateway

/-- An outside world in which every collaborator fails and every client listens. -/
def failingWorld : (q : Query) → Answer q
  | .verifyToken _ => .error (.other "unavailable")
  | .resolvePrincipal _ => .error (.other "unavailable")
  | .snapshotLookup _ => none
  | .storeGet _ => .error (.other "unavailable")
  | .snapshotWriteBack _ _ => ()
  | .storeSetState _ _ => .error (.other "unavailable")
  | .snapshotInvalidate _ => ()
  | .clock => 0
  | .bucketTake _ _ _ => false
  | .checkInput _ _ => .error (.other "unavailable")
  | .checkOutput _ _ => .error (.other "unavailable")
  | .converse _ _ _ _ => .error (.other "unavailable")
  | .converseStream _ _ _ _ => .error (.other "unavailable")
  | .startStream => ()
  | .closeChunks => .ok ()
  | .breakerAllow _ => false
  | .recordSuccess _ => ()
  | .recordFailure _ => ()
  | .cacheGet _ => none
  | .cacheSet _ _ => .ok ()
  | .debugCapture _ _ _ _ => ()
  | .requestJson => .error (.other "no body")
  | .isDisconnected => .ok false
  | .sendStart _ _ => .ok ()
  | .sendBody _ => .ok ()
  | .perfCounter => 0
  | .newUuid => "id"
  | .setSpanAttributes _ => ()
  | .log _ => ()

/-- The claims of a caller who may do everything for one tenant. -/
def operatorClaims : Claims where
  sub := some "u"
  tenantId := some "t"
  applicationId := some "a"
  roles := some (.arr [.str "developer", .str "platform_admin"])

/-- An outside world in which every caller is that operator, the guardrails allow
everything and every model says hello, with a given request body. -/
def servingWorld (body : Json) : (q : Query) → Answer q
  | .verifyToken _ => .ok operatorClaims
  | .requestJson => .ok body
  | .checkInput _ _ => .ok { action := .allow }
  | .checkOutput _ _ => .ok { action := .allow }
  | .converse _ _ _ _ => .ok {
      text := "hello", inputTokens := 1, outputTokens := 1, stopReason := none
      latencyMs := zeroFloat }
  | q => failingWorld q

/-- A chat request's body. -/
def helloBody : Json :=
  .obj [("messages", .arr [.obj [("role", .str "user"), ("content", .str "hi")]])]

/-- A chat request's body that asks for a stream. -/
def streamBody : Json :=
  .obj [("messages", .arr [.obj [("role", .str "user"), ("content", .str "hi")]]),
    ("stream", .bool true)]

/-- An outside world in which every stream says hello. -/
def streamingWorld : (q : Query) → Answer q
  | .converseStream _ _ _ _ => .ok ⟨[{ textDelta := "hello" }, { isFinal := true }], none⟩
  | q => servingWorld streamBody q

/-- An outside world with a caller of the given tenant, in which every call of a model
ends as given. -/
def tenantWorld (tenantId : String) (answer : Except Exn ConverseResult) : (q : Query) → Answer q
  | .verifyToken _ => .ok { operatorClaims with tenantId := some tenantId }
  | .converse _ _ _ _ => answer
  | q => servingWorld helloBody q

/-- An admin request's body. -/
def stateBody (state : TenantState) : Json := .obj [("state", .str state.value)]

/-- A request of the operator. -/
def operatorRequest : HttpRequest where
  method := "POST"
  path := "/v1/chat"
  authorization := some "Bearer x"
  requestId := some "r"

/-- A store with one active tenant. -/
def oneTenant : PolicyStore := Dict.set Dict.empty "t" { tenantId := "t" }

theorem oneTenant_keyed : oneTenant.Keyed := PolicyStore.Keyed.empty.set rfl

/-- The status of a response that an entry starts. -/
def statusOf {J R : Type} (entry : Entry Answer GatewayState J R) : Option ℕ :=
  match entry.action with
  | .did ⟨.sendStart response _, _⟩ => some response.statusCode
  | _ => none

theorem action_of_statusOf {J R : Type} {entry : Entry Answer GatewayState J R} {status : ℕ}
    (h : statusOf entry = some status) : ∃ response headers answer,
      entry.action = .did ⟨.sendStart response headers, answer⟩ ∧ response.statusCode = status := by
  unfold statusOf at h
  split at h
  · rename_i response headers answer haction
    exact ⟨response, headers, answer, haction, Option.some.inj h⟩
  · cases h

/-- Play the event loop. -/
def eventLoopDriver (app : App) : Driver (eventLoop app) :=
  (eventLoop_overGateway app).driver Query.awaits fun _ => Iff.rfl

/-- Play operations on the policy store and its cache. -/
def policyThreadsDriver (app : App) : Driver (policyThreads app) :=
  (policyThreads_overGateway app).driver (fun _ => true) fun _ => ⟨fun _ => trivial, fun _ => rfl⟩

/-- Play calls of models. -/
def modelCallsDriver (app : App) : Driver (modelCalls app) :=
  (modelCalls_overGateway app).driver (fun _ => true) fun _ => ⟨fun _ => trivial, fun _ => rfl⟩

end BedrockGateway
