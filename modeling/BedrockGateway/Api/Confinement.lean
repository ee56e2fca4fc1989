/-
# Whose tenant a request is

A request names no tenant of its own: its credentials identify a caller, and the caller
has a tenant. Whatever the request then reads or changes of the tables that are kept by
tenant is that tenant's, and an administrator's change is the one of its path. So what
other tenants have in these tables is as it was, whatever the request carries.
-/

import BedrockGateway.Api.ChatTrace
import BedrockGateway.Policy.Coherence

namespace BedrockGateway

open Foundation Py
open Fallible (Along.ask Along.call Along.bind Along.attempt Along.bind_of_only)

/-- The tenants a question about the gateway's tables names. -/
def Query.tenants : Query → List String
  | .snapshotLookup tenantId => [tenantId]
  | .storeGet tenantId => [tenantId]
  | .snapshotWriteBack tenantId policy => [tenantId, policy.tenantId]
  | .storeSetState tenantId _ => [tenantId]
  | .snapshotInvalidate tenantId => [tenantId]
  | .bucketTake tenantId _ _ => [tenantId]
  | .debugCapture _ tenantId _ _ => [tenantId]
  | _ => []

/-- The key of the response cache a question is about. -/
def Query.cacheKey? : Query → Option String
  | .cacheGet key => some key
  | .cacheSet key _ => some key
  | _ => none

/-! ## The caller -/

/-- The caller an answer identifies: by the claims of the request's token, or by the grant
of its principal. -/
def identified (request : HttpRequest) : Event Answer → Option Identity
  | ⟨.verifyToken token, .ok claims⟩ =>
      if bearerToken request.authorization = some token then (identityFromClaims claims).toOption
      else none
  | ⟨.resolvePrincipal principalArn, .ok grant⟩ =>
      if request.principalArn = some principalArn then
        some ⟨principalArn, grant.tenantId, grant.applicationId, grant.roles, "aws_iam",
          request.accountId⟩
      else none
  | _ => none

/-- The caller a request has identified. -/
def callerOf (request : HttpRequest) (history : History) : Option Identity :=
  history.findSome? (identified request)

/-- The role a request needs. -/
def Job.requiredRole (app : App) : Job → String
  | .chat _ => app.settings.chatRequiredRole
  | .setTenantState _ _ => app.settings.adminRequiredRole

/-- The tenant a request of this caller is about. -/
def Job.subject : Job → Identity → String
  | .chat _, identity => identity.tenantId
  | .setTenantState _ tenantId, _ => tenantId

/-- The request has identified this caller, who has the role it needs. -/
structure Recognized (app : App) (job : Job) (history : History) (identity : Identity) : Prop where
  caller : callerOf job.request history = some identity
  role : identity.hasRole (job.requiredRole app) = true

/-- The request may touch what belongs to the tenant. -/
def MayTouch (app : App) (job : Job) (history : History) (tenantId : String) : Prop :=
  ∃ identity, Recognized app job history identity ∧ tenantId = job.subject identity

/-- The key is made for the tenant and the application of the caller. -/
def KeyOf (app : App) (identity : Identity) (key : String) : Prop :=
  ∃ fields : CacheKeyFields, fields.tenantId = identity.tenantId ∧
    fields.applicationId = identity.applicationId ∧ key = buildCacheKey app.sha256 fields

section Caller

variable {request : HttpRequest} {history trace : History} {identity : Identity}

theorem callerOf_append (history trace : History) :
    callerOf request (history ++ trace) = (callerOf request history).or (callerOf request trace) :=
  List.findSome?_append

/-- Only the answers about callers identify one. -/
theorem callerOf_eq_none {kinds : List QueryKind} (hkinds : .caller ∉ kinds)
    (h : ∀ event ∈ trace, event.query.among kinds) : callerOf request trace = none := by
  rw [callerOf, List.findSome?_eq_none_iff]
  rintro ⟨q, answer⟩ hmem
  have hkind := h _ hmem
  cases q with
  | verifyToken token => exact absurd hkind hkinds
  | resolvePrincipal principalArn => exact absurd hkind hkinds
  | _ => rfl

theorem callerOf_of_authenticateIam {principalArn : String}
    (hown : request.principalArn = some principalArn)
    (h : Program.Exec (authenticateIam principalArn request.accountId).run trace (.ok identity)) :
    callerOf request trace = some identity := by
  rcases Fallible.exec_bind_iff.mp h with ⟨exn, _, hexn⟩ | ⟨first, second, grant, rfl, hgrant, hend⟩
  · cases hexn
  obtain ⟨rfl, hidentity⟩ := Fallible.exec_pure_iff.mp hend
  cases hidentity
  obtain ⟨answer, tail, rfl, hsettled⟩ := Program.exec_ask_iff.mp (exec_translate_ok hgrant)
  obtain ⟨rfl, hanswer⟩ := exec_settle hsettled
  cases hanswer
  simp [callerOf, identified, hown]

theorem callerOf_of_authenticateToken {token : String}
    (hown : bearerToken request.authorization = some token)
    (h : Program.Exec (authenticateToken token).run trace (.ok identity)) :
    callerOf request trace = some identity := by
  obtain ⟨answer, tail, rfl, hrest⟩ := Program.exec_ask_iff.mp (exec_translate_ok h)
  cases answer with
  | error exn =>
      obtain ⟨_, hraised⟩ := Program.exec_ret_iff.mp hrest
      cases hraised
  | ok claims =>
      obtain ⟨rfl, hclaims⟩ := exec_settle hrest
      rw [callerOf, List.findSome?_cons, identified, if_pos hown, ← hclaims]
      rfl

/-- **The caller is the one the credentials identify.** -/
theorem callerOf_of_authenticate {app : App}
    (h : Program.Exec (authenticate app request).run trace (.ok identity)) :
    callerOf request trace = some identity := by
  unfold authenticate at h
  split at h
  case h_1 principalArn hfilter =>
    split at h
    · exact callerOf_of_authenticateIam (Option.filter_eq_some_iff.mp hfilter).1 h
    · obtain ⟨_, hraised⟩ := Fallible.exec_throw_iff.mp h
      cases hraised
  case h_2 =>
    split at h
    case h_1 token htoken => exact callerOf_of_authenticateToken htoken h
    case h_2 =>
      obtain ⟨_, hraised⟩ := Fallible.exec_throw_iff.mp h
      cases hraised

variable {app : App} {job : Job}

theorem Recognized.append (h : Recognized app job history identity) (trace : History) :
    Recognized app job (history ++ trace) identity where
  caller := by rw [callerOf_append, h.caller, Option.some_or]
  role := h.role

/-- A caller who has been authenticated and authorized. -/
theorem Recognized.of_authorized {app : App} {job : Job} {callerTrace roleTrace : History}
    (hbefore : ∀ event ∈ history, event.query.among [.telemetry])
    (hcaller : Program.Exec (authenticate app job.request).run callerTrace (.ok identity))
    (hrole : Program.Exec (authorize identity (job.requiredRole app)).run roleTrace (.ok ())) :
    Recognized app job (history ++ callerTrace ++ roleTrace) identity := by
  obtain ⟨rfl, hhas⟩ := authorize_ok hrole
  refine ⟨?_, hhas⟩
  rw [List.append_nil, callerOf_append, callerOf_eq_none (by simp) hbefore, Option.none_or]
  exact callerOf_of_authenticate hcaller

end Caller

/-! ## After the caller -/

/-- The question is about the tenant of the request and no other. -/
structure Query.Belongs (app : App) (job : Job) (identity : Identity) (q : Query) : Prop where
  tenants : ∀ tenantId ∈ q.tenants, tenantId = job.subject identity
  keys : ∀ key, q.cacheKey? = some key → KeyOf app identity key

/-- What a request owes at a question about the tables: that it may touch what the question
names, be it by way of the policy the request goes by. -/
structure Confined (app : App) (job : Job) (history : History) (event : Event Answer) : Prop where
  tenants : ∀ tenantId ∈ event.query.tenants, ∃ identity, Recognized app job history identity ∧
    (tenantId = job.subject identity ∨
      ∃ policy, Resolved history (job.subject identity) policy ∧ tenantId = policy.tenantId)
  keys : ∀ key, event.query.cacheKey? = some key →
    ∃ identity, Recognized app job history identity ∧ KeyOf app identity key

/-- The kinds of questions that are about no tenant. -/
abbrev anonymousKinds : List QueryKind :=
  [.caller, .guardrail, .model, .breaker, .client, .pull, .reply, .telemetry]

section Walk

variable {app : App} {job : Job} {history : History} {identity : Identity}

theorem anonymous_of_among {q : Query} (hq : q.among anonymousKinds) :
    q.tenants = [] ∧ q.cacheKey? = none := by
  cases q <;> simp_all [Query.among, Query.kind, Query.tenants, Query.cacheKey?]

theorem belongs_of_among {q : Query} (hq : q.among anonymousKinds) :
    q.Belongs app job identity where
  tenants tenantId hmem := by simp [(anonymous_of_among hq).1] at hmem
  keys key hkey := by simp [(anonymous_of_among hq).2] at hkey

/-- The question is about the one tenant the request is about. -/
theorem belongs_of_tenants {q : Query} (htenants : q.tenants = [job.subject identity])
    (hkey : q.cacheKey? = none) : q.Belongs app job identity where
  tenants tenantId hmem := by simpa [htenants] using hmem
  keys key hfound := by simp [hkey] at hfound

theorem Confined.of_among {q : Query} (hq : q.among anonymousKinds) (history : History)
    (answer : Answer q) : Confined app job history ⟨q, answer⟩ where
  tenants tenantId hmem := by simp [(anonymous_of_among hq).1] at hmem
  keys key hkey := by simp [(anonymous_of_among hq).2] at hkey

theorem Query.Belongs.confined {q : Query} (h : q.Belongs app job identity)
    (hcaller : Recognized app job history identity) (answer : Answer q) :
    Confined app job history ⟨q, answer⟩ where
  tenants tenantId hmem := ⟨identity, hcaller, .inl (h.tenants tenantId hmem)⟩
  keys key hkey := ⟨identity, hcaller, h.keys key hkey⟩

/-- The program is about the tenant of the request and no other. -/
abbrev Belonging (app : App) (job : Job) (identity : Identity) {α : Type} (p : Py α) : Prop :=
  Program.Only (Query.Belongs app job identity) p.run

/-- Walking on once the caller is recognized. -/
theorem Belonging.along {α : Type} {p : Py α} (h : Belonging app job identity p)
    (hcaller : Recognized app job history identity) :
    Program.Along (Confined app job) (fun _ _ => True) p.run history := by
  have hwalk : Program.Along (fun _ event => event.query.Belongs app job identity)
      (fun _ _ => True) p.run history :=
    Program.Along.of_only h (fun _ hq _ _ => hq) fun _ _ _ _ => trivial
  refine ((hwalk.keeping (P := fun history => Recognized app job history identity)
    (fun history event hP _ => hP.append [event]) hcaller).weaken
    fun history event hkept => ?_).mono fun _ _ _ => trivial
  exact hkept.2.confined hkept.1 event.answer

theorem Query.Own.belongs {app : App} {request : HttpRequest} {a : Admitted} {q : Query}
    (h : q.Own app a) : q.Belongs app (.chat request) a.identity := by
  have hkeyed : ∀ b : Accepted, b.toAdmitted = a →
      KeyOf app a.identity (buildCacheKey app.sha256 b.cacheKeyFields) := by
    rintro b rfl
    exact ⟨b.cacheKeyFields, rfl, rfl, rfl⟩
  cases h with
  | service h => exact belongs_of_among ((by simp : serviceQuestions ⊆ anonymousKinds) h)
  | cacheGet b hb => exact ⟨by simp [tenants], by rintro _ ⟨⟩; exact hkeyed b hb⟩
  | cacheSet b hb value => exact ⟨by simp [tenants], by rintro _ ⟨⟩; exact hkeyed b hb⟩
  | capture => exact belongs_of_tenants rfl rfl
  | _ => exact belongs_of_among (by simp [Query.among, Query.kind])

theorem Query.Administers.belongs {app : App} {request : HttpRequest} {identity : Identity}
    {tenantId requestId : String} {q : Query} (h : q.Administers requestId tenantId) :
    q.Belongs app (.setTenantState request tenantId) identity := by
  cases h with
  | log => exact belongs_of_among (by simp [Query.among, Query.kind])
  | _ => exact belongs_of_tenants rfl rfl

end Walk

/-! ## The gates and the handlers -/

section Gates

variable {app : App} {request : HttpRequest} {history : History} {identity : Identity}

/-- Looking the policy up. -/
theorem resolvePolicy_confined
    (h : Recognized app (.chat request) history identity) :
    Program.Along (Confined app (.chat request)) (fun _ _ => True)
      (resolvePolicy app identity).run history := by
  refine Along.bind (Along.attempt (Along.call fun found =>
    ⟨(belongs_of_tenants rfl rfl).confined h found, ?_⟩))
  cases found with
  | some policy => trivial
  | none =>
      refine Along.bind (Along.call fun fetched =>
        ⟨(belongs_of_tenants rfl rfl).confined (h.append _) fetched, ?_⟩)
      cases fetched with
      | error exn => trivial
      | ok policy =>
          refine Along.call fun _ => ⟨⟨fun tenantId hmem => ?_, by simp [Query.cacheKey?]⟩, trivial⟩
          refine ⟨identity, (h.append _).append _, ?_⟩
          rcases List.mem_cons.mp hmem with rfl | hmem
          · exact .inl rfl
          · exact .inr ⟨policy, .inr (by simp [Job.subject]), List.mem_singleton.mp hmem⟩

/-- The rate limiter is asked for the tenant of the policy. -/
theorem enforceRateLimit_confined {policy : TenantPolicy}
    (h : Recognized app (.chat request) history identity)
    (hresolved : Resolved history identity.tenantId policy) :
    Program.Along (Confined app (.chat request)) (fun history _ =>
      Recognized app (.chat request) history identity) (enforceRateLimit policy).run history := by
  refine Along.bind ?_
  unfold rateLimiterAllow
  split
  · exact h
  · refine Along.call fun now => ⟨⟨by simp [Query.tenants], by simp [Query.cacheKey?]⟩, ?_⟩
    refine Along.ask fun allowed => ⟨⟨fun tenantId hmem => ?_, by simp [Query.cacheKey?]⟩, ?_⟩
    · refine ⟨identity, h.append _, .inr ⟨policy, ?_, List.mem_singleton.mp hmem⟩⟩
      exact resolved_append_iff.mpr (.inl hresolved)
    · cases allowed <;> exact (h.append _).append _

/-- Past the gates the caller is recognized. -/
theorem gates_confined (hbefore : ∀ event ∈ history, event.query.among [.telemetry]) :
    Program.Along (Confined app (.chat request)) (fun history outcome => ∀ admitted,
      outcome = .ok admitted → Recognized app (.chat request) history admitted.1)
      (gates app request).run history := by
  have hfree : ∀ kinds, kinds ⊆ anonymousKinds → ∀ q : Query, q.among kinds →
      ∀ history (answer : Answer q), Confined app (.chat request) history ⟨q, answer⟩ :=
    fun _ hsub _ hq => Confined.of_among (hsub hq)
  refine Along.bind_of_only (asks_authenticate app request) (hfree _ (by simp))
    (fun callerTrace identity hcaller _ => ?_) fun _ _ _ _ => by simp
  refine Along.bind_of_only (asks_authorize identity _) (hfree _ (by simp))
    (fun roleTrace _ hrole _ => ?_) fun _ _ _ _ => by simp
  have hcalled : Recognized app (.chat request) (history ++ callerTrace ++ roleTrace) identity :=
    Recognized.of_authorized hbefore hcaller hrole
  refine Along.bind ((resolvePolicy_confined hcalled).traced.mono fun history' outcome hend => ?_)
  obtain ⟨-, policyTrace, rfl, hexec⟩ := hend
  cases outcome with
  | error exn => exact fun admitted hadmitted => by simp at hadmitted
  | ok policy =>
      have hresolved : Resolved (history ++ callerTrace ++ roleTrace ++ policyTrace)
          identity.tenantId policy :=
        resolved_append_iff.mpr (.inr ((resolved_of_resolvePolicy hexec).mpr ⟨rfl, rfl⟩))
      refine Along.bind_of_only (asks_enforceKillSwitch policy) (hfree _ (by simp))
        (fun switchTrace _ _ _ => ?_) fun _ _ _ _ => by simp
      refine Along.bind ((enforceRateLimit_confined ((hcalled.append _).append _)
        (resolved_append_iff.mpr (.inl hresolved))).mono fun history outcome hend => ?_)
      cases outcome with
      | error exn => exact fun admitted hadmitted => by simp at hadmitted
      | ok _ =>
          rintro admitted hadmitted
          cases hadmitted
          exact hend

theorem chat_confined {requestId : String}
    (hbefore : ∀ event ∈ history, event.query.among [.telemetry]) :
    Program.Along (Confined app (.chat request)) (fun _ _ => True)
      (chat app request requestId).run history := by
  refine Along.call fun answer => ⟨Confined.of_among (by simp [Query.among, Query.kind]) _ _, ?_⟩
  have hspanned : ∀ event ∈ history ++ [(⟨.setSpanAttributes _, answer⟩ : Event Answer)],
      event.query.among [.telemetry] := by
    intro event hmem
    rcases List.mem_append.mp hmem with hmem | hmem
    · exact hbefore event hmem
    · simp [List.mem_singleton.mp hmem, Query.among, Query.kind]
  refine along_exceptPipeline _ (gates_confined hspanned)
    (fun history admitted hgates => ?_) (fun _ _ _ _ _ => ?_) fun _ _ _ _ => trivial
  · obtain ⟨identity, policy⟩ := admitted
    have hcalled := hgates _ rfl
    refine Along.call fun answer => ⟨Confined.of_among (by simp [Query.among, Query.kind]) _ _, ?_⟩
    have hbelonging : Belonging app (.chat request) identity
        (readBody app ⟨requestId, identity, policy⟩) :=
      Program.Only.mono (owned_readBody _).only fun _ h => h.belongs
    exact hbelonging.along (hcalled.append _)
  · exact Program.Along.of_only (asks_spanRejection ..)
      (fun _ hq => Confined.of_among (by simp_all [Query.among])) fun _ _ _ _ => trivial

end Gates

theorem setTenantState_confined {app : App} {request : HttpRequest} {tenantId requestId : String}
    {history : History} (hbefore : ∀ event ∈ history, event.query.among [.telemetry]) :
    Program.Along (Confined app (.setTenantState request tenantId)) (fun _ _ => True)
      (setTenantState app request tenantId requestId).run history := by
  have hfree : ∀ kinds, kinds ⊆ anonymousKinds → ∀ q : Query, q.among kinds → ∀ history
      (answer : Answer q), Confined app (.setTenantState request tenantId) history ⟨q, answer⟩ :=
    fun _ hsub _ hq => Confined.of_among (hsub hq)
  refine along_exceptPipeline (fun history outcome => ∀ identity, outcome = .ok identity →
      Recognized app (.setTenantState request tenantId) history identity) ?_
    (fun history identity hcaller => ?_) (fun _ _ _ _ _ => trivial) fun _ _ _ _ => trivial
  · refine Along.bind_of_only (asks_authenticate app request) (hfree _ (by simp))
      (fun callerTrace identity hcaller _ => ?_) fun _ _ _ _ => by simp
    refine Along.bind_of_only (asks_authorize identity _) (hfree _ (by simp))
      (fun roleTrace _ hrole _ => ?_) fun _ _ _ _ => by simp
    rintro found hfound
    cases hfound
    exact Recognized.of_authorized hbefore hcaller hrole
  · refine Along.call fun body => ⟨Confined.of_among (by simp [Query.among, Query.kind]) _ _, ?_⟩
    have hcalled := (hcaller identity rfl).append [⟨.requestJson, body⟩]
    cases body with
    | error exn => cases exn <;> trivial
    | ok body =>
        dsimp only
        split
        · trivial
        · rename_i newState _
          have hbelonging : Belonging app (.setTenantState request tenantId) identity
              (applyState app requestId identity tenantId newState) :=
            Program.Only.mono (handles_applyState ..).only fun _ h => h.belongs
          exact hbelonging.along hcalled

/-- Around a handler no tenant is named. -/
theorem confined_serving (app : App) (job : Job) :
    Serving (Confined app job) (fun _ _ => True) fun _ => True where
  free _ hq := Confined.of_among ((by simp : aroundKinds ⊆ anonymousKinds) hq)
  keeps _ _ _ _ _ := trivial
  sends _ _ _ _ _ := ⟨Confined.of_among (by simp [Query.among, Query.kind]) _ _, trivial⟩
  fails _ _ _ _ _ _ := ⟨Confined.of_among (by simp [Query.among, Query.kind]) _ _, trivial⟩
  cancelled _ _ := trivial
  lasts _ _ _ _ := trivial
  pulls _ _ _ _ _ _ _ _ _ := Confined.of_among (by simp [Query.among, Query.kind]) _ _

theorem job_confined (app : App) (job : Job) :
    Program.Along (Confined app job) (fun _ _ => True) ((eventLoop app).program job) [] := by
  cases job with
  | chat request => exact (confined_serving app _).along_serve fun _ _ => chat_confined
  | setTenantState request tenantId =>
      exact (confined_serving app _).along_serve fun _ _ => setTenantState_confined

/-! ## In runs -/

/-- What the tables hold for a tenant is the same; a capture of another tenant may take the
place of one of this tenant's, and nothing is captured in its name. -/
structure SameFor (tenantId : String) (s s' : GatewayState) : Prop where
  policies : s'.policies.get? tenantId = s.policies.get? tenantId
  snapshots : s'.snapshots.get? tenantId = s.snapshots.get? tenantId
  buckets : s'.buckets.get? tenantId = s.buckets.get? tenantId
  debugRecords : ∀ requestId record, s'.debugRecords.get? requestId = some record →
    record.tenantId = tenantId → s.debugRecords.get? requestId = some record

theorem SameFor.refl (tenantId : String) (s : GatewayState) : SameFor tenantId s s :=
  ⟨rfl, rfl, rfl, fun _ _ hrecord _ => hrecord⟩

theorem PolicyStore.get?_setState_of_ne (store : PolicyStore) {tenantId other : String}
    (state : TenantState) (hne : other ≠ tenantId) :
    (store.setState tenantId state).2.get? other = store.get? other := by
  unfold PolicyStore.setState
  split
  · exact Dict.get?_set_of_ne _ _ hne
  · rfl

theorem Buckets.get?_take_of_ne (buckets : Buckets) {tenantId other : String} (rpmLimit : ℤ)
    (now : ℚ) (hne : other ≠ tenantId) :
    (buckets.take tenantId rpmLimit now).2.get? other = buckets.get? other := by
  unfold Buckets.take
  dsimp only
  split <;> exact Dict.get?_set_of_ne _ _ hne

/-- **A tenant that is not named is left alone.** -/
theorem Answers.sameFor {app : App} {s s' : GatewayState} {q : Query} {a : Answer q}
    (h : Answers app s q a s') {other : String} (hother : other ∉ q.tenants) :
    SameFor other s s' := by
  unfold Answers at h
  cases q with
  | snapshotWriteBack tenantId policy =>
      obtain ⟨_, rfl⟩ := h
      have hne : other ≠ tenantId := fun heq => hother (by simp [heq, Query.tenants])
      exact ⟨rfl, Dict.get?_set_of_ne _ _ hne, rfl, fun _ _ hrecord _ => hrecord⟩
  | storeSetState tenantId state =>
      obtain ⟨_, rfl⟩ := h
      have hne : other ≠ tenantId := fun heq => hother (by simp [heq, Query.tenants])
      exact ⟨PolicyStore.get?_setState_of_ne _ _ hne, rfl, rfl, fun _ _ hrecord _ => hrecord⟩
  | snapshotInvalidate tenantId =>
      obtain ⟨_, rfl⟩ := h
      have hne : other ≠ tenantId := fun heq => hother (by simp [heq, Query.tenants])
      refine ⟨rfl, ?_, rfl, fun _ _ hrecord _ => hrecord⟩
      exact (Dict.get?_erase _ _ _).trans (if_neg hne)
  | bucketTake tenantId rpmLimit now =>
      obtain ⟨_, rfl⟩ := h
      have hne : other ≠ tenantId := fun heq => hother (by simp [heq, Query.tenants])
      exact ⟨rfl, rfl, Buckets.get?_take_of_ne _ _ _ hne, fun _ _ hrecord _ => hrecord⟩
  | debugCapture requestId tenantId inputText outputText =>
      obtain ⟨_, rfl⟩ := h
      refine ⟨rfl, rfl, rfl, fun id record hrecord htenant => ?_⟩
      rw [DebugRecords.capture, Dict.get?_set] at hrecord
      split at hrecord
      · cases hrecord
        exact absurd (by simp [← htenant, Query.tenants]) hother
      · exact hrecord
  | _ =>
      simp only [answer] at h
      first
        | (rw [h]; exact SameFor.refl ..)
        | (rw [h.2]; exact ⟨rfl, rfl, rfl, fun _ _ hrecord _ => hrecord⟩)

section Runs

variable {app : App} {c : Process} {now : ℚ} {policies : PolicyStore}

/-- The obligation without the detour through the policy: a policy is its tenant's own. -/
theorem Confined.mayTouch (h : (eventLoop app).Reachable (.fresh now policies) c)
    (hkeyed : policies.Keyed) {past : ProcessLog} (hpast : past ⊆ c.log) {tid : ℕ} {job : Job}
    {event : Event Answer} (hconfined : Confined app job (traceOf tid past) event)
    {tenantId : String} (hmem : tenantId ∈ event.query.tenants) :
    MayTouch app job (traceOf tid past) tenantId := by
  obtain ⟨identity, hcaller, hsubject | ⟨policy, hresolved, hpolicy⟩⟩ :=
    hconfined.tenants tenantId hmem
  · exact ⟨identity, hcaller, hsubject⟩
  · refine ⟨identity, hcaller, hpolicy.trans ?_⟩
    have hcoherent := Coherent.fresh now policies
    rcases hresolved with hhit | hfetch
    · exact resolved_tenantId h hcoherent hkeyed hpast hhit (.inl rfl)
    · exact resolved_tenantId h hcoherent hkeyed hpast hfetch (.inr rfl)

/-- **Requests are confined to their tenant.** In every run of a gateway that has loaded its
policies, whatever the other requests do meanwhile: a question of a request about the
policies, snapshots, buckets or captures names only the tenant of the caller its own
credentials have identified, who has the role the request needs, or, for an administrator,
the tenant of the path; a key of the response cache is made for that caller's tenant and
application; and what the tables hold for every other tenant is left as it was. -/
theorem requests_confined (h : (eventLoop app).Reachable (.fresh now policies) c)
    (hkeyed : policies.Keyed) {past future : ProcessLog}
    {entry : Entry Answer GatewayState Job (Except Exn Unit)} {event : Event Answer}
    (hlog : c.log = past ++ entry :: future) (haction : entry.action = .did event)
    {thread : Thread Query Answer Job (Except Exn Unit)}
    (hthread : c.threads entry.tid = some thread) :
    (∀ tenantId ∈ event.query.tenants,
      MayTouch app thread.job (traceOf entry.tid past) tenantId) ∧
    (∀ key, event.query.cacheKey? = some key → ∃ identity,
      Recognized app thread.job (traceOf entry.tid past) identity ∧ KeyOf app identity key) ∧
    ∀ other, ¬ MayTouch app thread.job (traceOf entry.tid past) other →
      SameFor other entry.before entry.after := by
  have hconfined : Confined app thread.job (traceOf entry.tid past) event :=
    h.meets hlog haction hthread (job_confined app thread.job)
  have hpast : past ⊆ c.log := by
    rw [hlog]
    exact List.subset_append_left _ _
  have htouches : ∀ tenantId ∈ event.query.tenants,
      MayTouch app thread.job (traceOf entry.tid past) tenantId := fun tenantId hmem =>
    hconfined.mayTouch h hkeyed hpast hmem
  refine ⟨htouches, hconfined.keys, fun other hother => ?_⟩
  have hanswers := (eventLoop_overGateway app).answers
    (h.replay.valid (show entry ∈ c.log by simp [hlog])) haction
  exact hanswers.sameFor fun hmem => hother (htouches other hmem)

end Runs

theorem did_of_event? {action : Action Answer Job (Except Exn Unit)} {event : Event Answer}
    (h : action.event? = some event) : action = .did event := by
  cases action with
  | did other =>
      cases h
      rfl
  | _ => cases h

/-- Two loaded tenants. -/
def loadedPair : PolicyStore := Dict.set oneTenant "u" { tenantId := "u" }

/-- A request of each tenant, with the same headers. -/
def oneAfterTheOther : Process :=
  let slow := .error (.bedrockInvocation "slow" "ThrottlingException" true)
  (eventLoopDriver App.plain).play (Machine.initial (.fresh 0 loadedPair)) [
    { tid := 0, job := some (.chat operatorRequest), oracle := tenantWorld "t" slow },
    { tid := 1, job := some (.chat operatorRequest), oracle := tenantWorld "u" slow }]

theorem oneAfterTheOther_length : 18 < oneAfterTheOther.log.length := by decide +kernel

/-- The second request takes its token. -/
def secondTake : Entry Answer GatewayState Job (Except Exn Unit) :=
  oneAfterTheOther.log.get ⟨18, oneAfterTheOther_length⟩

/-- The second request takes a token of its own tenant, and leaves the other's bucket alone. -/
theorem requests_confined_oneAfterTheOther :
    let trace := traceOf secondTake.tid (oneAfterTheOther.log.take 18)
    ∃ event thread, secondTake.action = .did event ∧ event.query.tenants = ["u"] ∧
      oneAfterTheOther.threads secondTake.tid = some thread ∧
      (∀ tenantId ∈ event.query.tenants, MayTouch App.plain thread.job trace tenantId) ∧
      (∀ key, event.query.cacheKey? = some key → ∃ identity,
        Recognized App.plain thread.job trace identity ∧ KeyOf App.plain identity key) ∧
      (∀ other, ¬ MayTouch App.plain thread.job trace other →
        SameFor other secondTake.before secondTake.after) ∧
      ¬ MayTouch App.plain thread.job trace "t" := by
  intro trace
  have hnamed : secondTake.action.event?.map (fun event => event.query.tenants) = some ["u"] := by
    decide +kernel
  have hcaller : (callerOf operatorRequest trace).map Identity.tenantId = some "u" := by
    decide +kernel
  have hjobs : (oneAfterTheOther.threads secondTake.tid).map Thread.job =
      some (.chat operatorRequest) := by decide +kernel
  obtain ⟨event, hevent, htenants⟩ := Option.map_eq_some_iff.mp hnamed
  obtain ⟨thread, hthread, hjob⟩ := Option.map_eq_some_iff.mp hjobs
  have hlog : oneAfterTheOther.log = oneAfterTheOther.log.take 18 ++
      secondTake :: oneAfterTheOther.log.drop 19 := eq_take_append_one oneAfterTheOther_length
  have hreach : (eventLoop App.plain).Reachable (.fresh 0 loadedPair) oneAfterTheOther :=
    Driver.play_reachable ..
  obtain ⟨hnames, hkeys, hothers⟩ := requests_confined hreach (oneTenant_keyed.set rfl) hlog
    (did_of_event? hevent) hthread
  refine ⟨event, thread, did_of_event? hevent, htenants, hthread, hnames, hkeys, hothers, ?_⟩
  rw [hjob]
  rintro ⟨identity, hrecognized, hsubject⟩
  have hfound : callerOf operatorRequest trace = some identity := hrecognized.caller
  rw [hfound] at hcaller
  have htenant : identity.tenantId = "u" := Option.some.inj hcaller
  exact absurd (hsubject.trans htenant) (by decide)

end BedrockGateway
