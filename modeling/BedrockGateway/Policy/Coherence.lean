/-
# Snapshots never differ from the store

Under the event loop a lookup, the fetch after a miss and the write-back run in one
stretch, and so do a state change and the eviction that follows it. Whenever
control is given up, every snapshot is therefore the store's current policy of its
tenant; and whatever a request resolves is current at that instant.
-/

import BedrockGateway.Api.Serving

namespace BedrockGateway

open Foundation Py Machine

/-- Every snapshot is the current policy of its tenant. -/
def Coherent (s : GatewayState) : Prop :=
  ∀ tenantId snapshot, s.snapshots.get? tenantId = some snapshot →
    s.policies.get? tenantId = some snapshot.policy

/-- The event hands this policy of the tenant to a request. -/
def Resolves (event : Event Answer) (tenantId : String) (policy : TenantPolicy) : Prop :=
  event = ⟨.snapshotLookup tenantId, some policy⟩ ∨ event = ⟨.storeGet tenantId, .ok policy⟩

/-- A policy that is handed out is current. -/
def ReadsCurrent (s : GatewayState) (event : Event Answer) (_ : GatewayState) : Prop :=
  ∀ tenantId policy, Resolves event tenantId policy → s.policies.get? tenantId = some policy

variable {app : App} {s s' : GatewayState}

theorem Coherent.fresh (now : ℚ) (policies : PolicyStore) :
    Coherent (.fresh now policies) := by
  intro tenantId snapshot hget
  simp [GatewayState.fresh] at hget

theorem Coherent.elapses (h : Coherent s) (htime : Elapses s s') : Coherent s' := by
  obtain ⟨now, _, rfl⟩ := htime
  exact h

theorem Coherent.of_eq (h : Coherent s) (hpolicies : s'.policies = s.policies)
    (hsnapshots : s'.snapshots = s.snapshots) : Coherent s' := by
  intro tenantId snapshot hget
  rw [hsnapshots] at hget
  rw [hpolicies]
  exact h tenantId snapshot hget

/-- Writing the current policy back. -/
theorem Coherent.writeBack (h : Coherent s) {tenantId : String} {policy : TenantPolicy}
    (hcurrent : s.policies.get? tenantId = some policy) :
    Coherent { s with snapshots := s.snapshots.writeBack s.now tenantId policy } := by
  intro other snapshot hget
  rw [PolicySnapshots.get?_writeBack] at hget
  split at hget
  case isTrue heq =>
    cases hget
    rw [heq]
    exact hcurrent
  case isFalse => exact h other snapshot hget

/-- Changing a tenant's policy and then evicting its snapshot. -/
theorem Coherent.replace (h : Coherent s) {tenantId : String} {updated : TenantPolicy}
    (hpolicies : s'.policies = Dict.set s.policies tenantId updated)
    (hsnapshots : s'.snapshots = s.snapshots.invalidate tenantId) : Coherent s' := by
  intro other snapshot hget
  rw [hsnapshots, PolicySnapshots.get?_invalidate] at hget
  split at hget
  case isTrue => cases hget
  case isFalse hne =>
    rw [hpolicies, Dict.get?_set_of_ne _ _ hne]
    exact h other snapshot hget

/-- A hit hands the current policy out. -/
theorem Coherent.lookup (h : Coherent s) {ttlS : ℚ} {tenantId : String} {policy : TenantPolicy}
    (hhit : s.snapshots.lookup ttlS s.now tenantId = some policy) :
    s.policies.get? tenantId = some policy := by
  obtain ⟨snapshot, hget, rfl, _⟩ := PolicySnapshots.lookup_eq_some_iff.mp hhit
  exact h tenantId snapshot hget

/-! ## The stages -/

/-- Other questions hand no policy out. -/
theorem readsCurrent_of_kind {q : Query} {answer : Answer q} (hq : q.kind ≠ .policy) :
    ReadsCurrent s ⟨q, answer⟩ s' := by
  rintro tenantId policy (heq | heq)
  · cases heq
    exact absurd rfl hq
  · cases heq
    exact absurd rfl hq

/-- A program keeps the snapshots coherent, and what it resolves is current. -/
abbrev KeepsCoherent (app : App) {α : Type} (p : Py α) (s : GatewayState) : Prop :=
  (eventLoop app).Keeps Coherent ReadsCurrent (fun _ s => Coherent s) p.run s

/-- Stages that ask nothing about policies. -/
theorem keepsCoherent_of_asks {α : Type} {p : Py α} (hasks : Asks serviceKinds p)
    (hs : Coherent s) : KeepsCoherent app p s := by
  refine Keeps.of_only hasks (fun _ _ hs htime => hs.elapses htime) ?_ hs
  intro q hq s answer s' hs answered
  have hframe : q.changesPolicies = false := by
    cases q <;> first | rfl | simp [Query.among, Query.kind] at hq
  obtain ⟨hpolicies, hsnapshots⟩ := Answers.policies_frame answered hframe
  refine ⟨readsCurrent_of_kind fun hkind => ?_, hs.of_eq hpolicies hsnapshots⟩
  rw [Query.among, hkind] at hq
  exact absurd hq (by decide)

theorem keepsCoherent_bind {α β : Type} {x : Py α} {f : α → Py β}
    (hx : KeepsCoherent app x s) (hf : ∀ value s, Coherent s → KeepsCoherent app (f value) s) :
    KeepsCoherent app (x >>= f) s := by
  refine Keeps.fallible_bind (hx.mono fun outcome s hs => ?_)
  cases outcome with
  | ok value => exact hf value s hs
  | error exn => exact hs

theorem keepsCoherent_attempt {α : Type} {x : Py α} (hx : KeepsCoherent app x s) :
    KeepsCoherent app (attempt x) s :=
  Keeps.attempt hx

theorem keepsCoherent_exceptPipeline {α β : Type} {body : Py α}
    {rejected : ErrorStatus → String → String → Py β} {next : α → Py β}
    (hbody : KeepsCoherent app body s)
    (hrejected : ∀ status code message, Asks serviceKinds (rejected status code message))
    (hnext : ∀ value s, Coherent s → KeepsCoherent app (next value) s) :
    KeepsCoherent app (exceptPipeline body rejected next) s := by
  refine keepsCoherent_bind (keepsCoherent_attempt hbody) fun outcome s hs => ?_
  cases outcome with
  | ok value => exact hnext value s hs
  | error exn =>
      cases exn with
      | pipeline status code message => exact keepsCoherent_of_asks (hrejected ..) hs
      | _ => exact hs

/-- A question that does not give up control. -/
theorem keeps_call {α : Type} {q : Query} {f : Answer q → Py α}
    {post : Except Exn α → GatewayState → Prop} (hq : q.awaits = false)
    (h : ∀ s₀ answer s₁, Elapses s s₀ → Answers app s₀ q answer s₁ →
      ReadsCurrent s₀ ⟨q, answer⟩ s₁ ∧
        (eventLoop app).Keeps Coherent ReadsCurrent post (f answer).run s₁) :
    (eventLoop app).Keeps Coherent ReadsCurrent post (ask q >>= f).run s :=
  Keeps.fallible_bind (Keeps.ask (fun hyields => by simp [eventLoop, hq] at hyields) h)

/-- **The lookup, the fetch and the write-back.** -/
theorem keepsCoherent_snapshotGet (tenantId : String) (hs : Coherent s) :
    KeepsCoherent app (snapshotGet tenantId) s := by
  refine keeps_call rfl fun s₀ found s₁ htime answered => ?_
  have hs₀ := hs.elapses htime
  obtain ⟨hfound, rfl⟩ : found = s₀.snapshots.lookup app.settings.policyCacheTtlS s₀.now tenantId ∧
    s₁ = s₀ := answered
  refine ⟨?_, ?_⟩
  · rintro target policy (heq | heq)
    · cases heq
      exact hs₀.lookup hfound.symm
    · cases heq
  cases found with
  | some policy => exact hs₀
  | none =>
      refine Keeps.fallible_bind (keeps_call rfl fun s₂ fetched s₃ htime answered => ?_)
      have hs₂ := hs₀.elapses htime
      obtain ⟨hfetched, rfl⟩ : fetched = s₂.policies.get tenantId ∧ s₃ = s₂ := answered
      refine ⟨?_, ?_⟩
      · rintro target policy (heq | heq)
        · cases heq
        · cases heq
          exact PolicyStore.get_eq_ok_iff.mp hfetched.symm
      cases fetched with
      | error exn => exact hs₂
      | ok policy =>
          -- Only time has passed since the fetch, so what is written back is current.
          have hcurrent := PolicyStore.get_eq_ok_iff.mp hfetched.symm
          refine keeps_call rfl fun s₄ written s₅ htime answered => ?_
          have hs₄ := hs₂.elapses htime
          obtain ⟨now, _, rfl⟩ := htime
          obtain ⟨_, rfl⟩ := answered
          refine ⟨?_, hs₄.writeBack hcurrent⟩
          rintro target other (heq | heq) <;> cases heq

theorem keepsCoherent_resolvePolicy (identity : Identity) (hs : Coherent s) :
    KeepsCoherent app (resolvePolicy app identity) s := by
  refine keepsCoherent_bind (keepsCoherent_attempt (keepsCoherent_snapshotGet _ hs))
    fun outcome s hs => ?_
  cases outcome <;> exact hs

/-- **The change and the eviction.** -/
theorem keepsCoherent_applyState (requestId : String) (identity : Identity) (tenantId : String)
    (state : TenantState) (hs : Coherent s) :
    KeepsCoherent app (applyState app requestId identity tenantId state) s := by
  refine keeps_call rfl fun s₀ answer s₁ htime answered => ?_
  have hs₀ := hs.elapses htime
  obtain ⟨hanswer, hs₁⟩ := answered.storeSetState
  refine ⟨readsCurrent_of_kind (by simp [Query.kind]), ?_⟩
  rcases s₀.policies.setState_cases tenantId state with ⟨current, hget, hset⟩ | ⟨hget, hset⟩
  · obtain rfl : answer = .ok (PolicyStore.withState current state) := by rw [hanswer, hset]
    refine keeps_call rfl fun s₂ evicted s₃ htime answered => ?_
    obtain ⟨now, _, rfl⟩ := htime
    obtain ⟨_, rfl⟩ := answered
    refine ⟨readsCurrent_of_kind (by simp [Query.kind]), ?_⟩
    refine keepsCoherent_of_asks (asks_call (by simp [Query.kind]) fun _ => trivial)
      (hs₀.replace (by rw [hs₁, hset]) (by rw [hs₁]))
  · obtain rfl : answer = .error (.unknownTenant tenantId) := by rw [hanswer, hset]
    exact hs₀.of_eq (by rw [hs₁, hset]) (by rw [hs₁])

/-! ## The handlers -/

theorem keepsCoherent_gates (request : HttpRequest) (hs : Coherent s) :
    KeepsCoherent app (gates app request) s := by
  refine keepsCoherent_bind (keepsCoherent_of_asks ((asks_authenticate ..).mono (by simp)) hs)
    fun identity s hs => ?_
  refine keepsCoherent_bind (keepsCoherent_of_asks ((asks_authorize ..).mono (by simp)) hs)
    fun _ s hs => keepsCoherent_bind (keepsCoherent_resolvePolicy identity hs)
      fun policy s hs => keepsCoherent_of_asks ?_ hs
  refine Fallible.Only.bind ((asks_enforceKillSwitch policy).mono (by simp)) fun _ => ?_
  exact Fallible.Only.bind ((asks_enforceRateLimit policy).mono (by simp)) fun _ => trivial

theorem keepsCoherent_chat (request : HttpRequest) (requestId : String) (hs : Coherent s) :
    KeepsCoherent app (chat app request requestId) s := by
  have hspan : ∀ attributes, Asks serviceKinds (setSpan attributes) := fun attributes =>
    (asks_setSpan attributes).mono (by simp)
  refine keepsCoherent_bind (keepsCoherent_of_asks (hspan _) hs) fun _ s hs => ?_
  refine keepsCoherent_exceptPipeline (keepsCoherent_gates request hs)
    (fun _ _ _ => Fallible.Only.bind (hspan _) fun _ => trivial) fun admitted s hs => ?_
  exact keepsCoherent_bind (keepsCoherent_of_asks (hspan _) hs) fun _ s hs =>
    keepsCoherent_of_asks (asks_readBody ..) hs

theorem keepsCoherent_setTenantState (request : HttpRequest) (tenantId requestId : String)
    (hs : Coherent s) : KeepsCoherent app (setTenantState app request tenantId requestId) s := by
  refine keepsCoherent_exceptPipeline (keepsCoherent_of_asks ?_ hs) (fun _ _ _ => trivial)
    fun identity s hs => ?_
  · refine Fallible.Only.bind ((asks_authenticate ..).mono (by simp)) fun identity => ?_
    exact Fallible.Only.bind ((asks_authorize ..).mono (by simp)) fun _ => trivial
  · have hbody : KeepsCoherent app (ask .requestJson) s :=
      keepsCoherent_of_asks (asks_ask (by simp [Query.kind])) hs
    refine keepsCoherent_bind hbody fun body s hs => ?_
    cases body with
    | error exn => cases exn <;> exact hs
    | ok body =>
        dsimp only
        split
        · exact hs
        · exact keepsCoherent_applyState _ _ _ _ hs

theorem keepsCoherent_serve {request : HttpRequest} {handler : String → Py Response}
    (hhandler : ∀ requestId s, Coherent s → KeepsCoherent app (handler requestId) s)
    (hs : Coherent s) : KeepsCoherent app (serve app request handler) s := by
  refine keepsCoherent_bind (keepsCoherent_of_asks ((asks_requestIdOf request).mono (by simp)) hs)
    fun requestId s hs => ?_
  refine keepsCoherent_bind (keepsCoherent_of_asks (asks_ask (by simp [Query.kind])) hs)
    fun start s hs => ?_
  refine keepsCoherent_bind (keepsCoherent_attempt (hhandler requestId s hs))
    fun outcome s hs => keepsCoherent_of_asks ?_ hs
  have hlog : ∀ statusCode, Asks serviceKinds (accessLog request requestId start statusCode) :=
    fun statusCode => (asks_accessLog ..).mono (by simp)
  cases outcome with
  | error exn =>
      exact Fallible.Only.bind (hlog _) fun _ =>
        (asks_unhandledError_unsent ..).mono (by simp)
  | ok response =>
      refine Fallible.Only.bind (hlog _) fun _ => ?_
      refine Fallible.Only.bind (Fallible.Only.attempt ((asks_sendResponse ..).mono (by simp)))
        fun sent => ?_
      cases sent with
      | error exn => exact (asks_unhandledError ..).mono (by simp)
      | ok _ => trivial

/-- **Snapshots are coherent in every reachable configuration**, and every policy
handed out was current. -/
theorem eventLoop_coherent {c : Process} (h : (eventLoop app).Reachable s c) (hs : Coherent s) :
    Coherent c.state ∧ ∀ entry ∈ c.log, ∀ event, entry.action = .did event →
      ReadsCurrent entry.before event entry.after := by
  refine h.keeps (fun _ _ hs htime => hs.elapses htime) hs fun job s hs => ?_
  cases job with
  | chat request => exact keepsCoherent_serve (fun _ _ => keepsCoherent_chat request _) hs
  | setTenantState request tenantId =>
      exact keepsCoherent_serve (fun _ _ => keepsCoherent_setTenantState request tenantId _) hs

/-! ## Stored policies keep their tenant ids -/

/-- Every policy stays stored under its own tenant id. -/
theorem OverGateway.keyed {J R : Type} {M : Machine Query Answer GatewayState J R}
    (hM : OverGateway app M) {log : List (Entry Answer GatewayState J R)}
    (hreplay : M.Replay s log s') (hs : s.policies.Keyed) :
    s'.policies.Keyed ∧ ∀ entry ∈ log, entry.before.policies.Keyed := by
  refine hreplay.preserves (P := fun s => s.policies.Keyed) hs (fun s s₀ hs htime => ?_)
    fun entry _ hbefore hvalid => ?_
  · rw [hM.passes_eq] at htime
    obtain ⟨now, _, rfl⟩ := htime
    exact hs
  · rcases hM.policy_cases hvalid with ⟨_, _, _, heq, _⟩ | ⟨_, _, heq, _⟩ |
      ⟨tenantId, state, result, _, hset, _⟩ | ⟨_, heq, _⟩
    · rwa [heq]
    · rwa [heq]
    · rw [show entry.after.policies = (entry.before.policies.setState tenantId state).2 by
        rw [← hset]]
      exact hbefore.setState tenantId state
    · rwa [heq]

/-- A policy in the store is its tenant's own, whenever it is handed out. -/
theorem resolved_tenantId {c : Process} (h : (eventLoop app).Reachable s c) (hs : Coherent s)
    (hkeyed : s.policies.Keyed) {tid : ℕ}
    {log : List (Entry Answer GatewayState Job (Except Exn Unit))}
    (hlog : log ⊆ c.log) {event : Event Answer} (hmem : event ∈ traceOf tid log)
    {tenantId : String} {policy : TenantPolicy} (hres : Resolves event tenantId policy) :
    policy.tenantId = tenantId := by
  obtain ⟨entry, hentry, _, haction⟩ := mem_traceOf_iff.mp hmem
  have hcurrent := (eventLoop_coherent h hs).2 entry (hlog hentry) event haction _ _ hres
  exact ((eventLoop_overGateway app).keyed h.replay hkeyed).2 entry (hlog hentry) _ _ hcurrent

end BedrockGateway
