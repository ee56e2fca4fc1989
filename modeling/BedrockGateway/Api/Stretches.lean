/-
# Invariants of the event loop, stretch by stretch

A request touches the shared policies, snapshots and buckets in three short
stretches that nothing interrupts: it resolves a policy, it takes a token, or it
changes a tenant's state and evicts the snapshot. Everything else it asks leaves
them alone. So an invariant of these needs a look at the three stretches only, each
with what its earlier questions have shown.
-/

import BedrockGateway.Api.Serving

namespace BedrockGateway

open Foundation Py Machine

/-- Everything that touches no policy, no snapshot and no bucket. -/
abbrev calmKinds : List QueryKind :=
  [.caller, .guardrail, .model, .breaker, .cache, .debug, .client, .pull, .reply, .telemetry]

/-- The questions of the three stretches that change something. -/
def Query.decisive : Query → Bool
  | .snapshotWriteBack _ _ => true
  | .storeSetState _ _ => true
  | .snapshotInvalidate _ => true
  | .bucketTake _ _ _ => true
  | _ => false

/-- All other questions leave the policies, the snapshots and the buckets alone. -/
theorem Answers.decisive_frame {app : App} {s s' : GatewayState} {q : Query} {a : Answer q}
    (h : Answers app s q a s') (hq : q.decisive = false) :
    s'.policies = s.policies ∧ s'.snapshots = s.snapshots ∧ s'.buckets = s.buckets := by
  unfold Answers at h
  cases q <;> simp only [answer, Query.decisive, Bool.true_eq_false] at h hq <;>
    first
      | (rw [h]; exact ⟨rfl, rfl, rfl⟩)
      | (rw [h.2]; exact ⟨rfl, rfl, rfl⟩)

/-- The state after a tenant's policy was replaced. -/
def GatewayState.withPolicy (s : GatewayState) (tenantId : String) (policy : TenantPolicy) :
    GatewayState :=
  { s with policies := Dict.set s.policies tenantId policy }

/-- An invariant `I` of the event loop, what every answered question does (`Φ`), and
what is known of every policy that is handed out for a tenant. -/
structure Stagewise (app : App) (I : GatewayState → Prop)
    (Φ : GatewayState → Event Answer → GatewayState → Prop)
    (HandedOut : String → TenantPolicy → Prop) : Prop where
  elapses : ∀ s s', I s → Elapses s s' → I s'
  /-- Questions that change no policy, no snapshot and no bucket. -/
  quiet : ∀ s q answer s', q.decisive = false → I s → Answers app s q answer s' →
    Φ s ⟨q, answer⟩ s' ∧ I s'
  stored : ∀ s tenantId policy, I s → s.policies.get? tenantId = some policy →
    HandedOut tenantId policy
  cached : ∀ s tenantId snapshot, I s → s.snapshots.get? tenantId = some snapshot →
    HandedOut tenantId snapshot.policy
  /-- A stored policy is written back, after a lookup that missed. -/
  writeBack : ∀ s tenantId policy, I s →
    s.snapshots.lookup app.settings.policyCacheTtlS s.now tenantId = none →
    s.policies.get? tenantId = some policy →
    let s' := { s with snapshots := s.snapshots.writeBack s.now tenantId policy }
    Φ s ⟨.snapshotWriteBack tenantId policy, ()⟩ s' ∧ I s'
  /-- A token is asked for with a reading of the clock from this stretch. -/
  take : ∀ s tenantId policy reading allowed s', I s → I { s with now := reading } →
    reading ≤ s.now → HandedOut tenantId policy →
    Answers app s (.bucketTake policy.tenantId (effectiveLimit policy) reading) allowed s' →
    Φ s ⟨.bucketTake policy.tenantId (effectiveLimit policy) reading, allowed⟩ s' ∧ I s'
  /-- There is no such tenant. -/
  unknown : ∀ s tenantId state, I s → s.policies.get? tenantId = none →
    Φ s ⟨.storeSetState tenantId state, .error (.unknownTenant tenantId)⟩ s
  /-- The change and the eviction, some time apart. -/
  change : ∀ s tenantId state current now, I s → s.policies.get? tenantId = some current →
    s.now ≤ now →
    let updated := PolicyStore.withState current state
    let changed := s.withPolicy tenantId updated
    let later := { changed with now := now }
    let evicted := { later with snapshots := later.snapshots.invalidate tenantId }
    Φ s ⟨.storeSetState tenantId state, .ok updated⟩ changed ∧
      Φ later ⟨.snapshotInvalidate tenantId, ()⟩ evicted ∧ I evicted

/-- A question that does not give up control, then the rest. -/
theorem keeps_query {app : App} {I : GatewayState → Prop}
    {Φ : GatewayState → Event Answer → GatewayState → Prop} {s : GatewayState} {α : Type}
    {q : Query} {f : Answer q → Py α} {post : Except Exn α → GatewayState → Prop}
    (hq : q.awaits = false)
    (h : ∀ s₀ answer s₁, Elapses s s₀ → Answers app s₀ q answer s₁ →
      Φ s₀ ⟨q, answer⟩ s₁ ∧ (eventLoop app).Keeps I Φ post (f answer).run s₁) :
    (eventLoop app).Keeps I Φ post (ask q >>= f).run s :=
  Keeps.fallible_bind (Keeps.ask (fun hyields => by simp [eventLoop, hq] at hyields) h)

/-- A lookup that misses goes on missing. -/
theorem PolicySnapshots.lookup_none_mono {snapshots : PolicySnapshots} {ttlS now later : ℚ}
    {tenantId : String} (h : snapshots.lookup ttlS now tenantId = none) (hlater : now ≤ later) :
    snapshots.lookup ttlS later tenantId = none := by
  rw [Option.eq_none_iff_forall_ne_some] at h ⊢
  intro policy hhit
  obtain ⟨snapshot, hget, heq, hyoung⟩ := lookup_eq_some_iff.mp hhit
  refine h policy (lookup_eq_some_iff.mpr ⟨snapshot, hget, heq, lt_of_le_of_lt ?_ hyoung⟩)
  exact sub_le_sub_right hlater _

namespace Stagewise

variable {app : App} {I : GatewayState → Prop}
variable {Φ : GatewayState → Event Answer → GatewayState → Prop}
variable {HandedOut : String → TenantPolicy → Prop} {s : GatewayState}

/-- The program keeps the invariant. -/
abbrev Holds (app : App) (I : GatewayState → Prop)
    (Φ : GatewayState → Event Answer → GatewayState → Prop) {α : Type} (p : Py α)
    (s : GatewayState) : Prop :=
  (eventLoop app).Keeps I Φ (fun _ s => I s) p.run s

theorem holds_bind {α β : Type} {x : Py α} {f : α → Py β} (hx : Holds app I Φ x s)
    (hf : ∀ value s, I s → Holds app I Φ (f value) s) : Holds app I Φ (x >>= f) s := by
  refine Keeps.fallible_bind (hx.mono fun outcome s hs => ?_)
  cases outcome with
  | ok value => exact hf value s hs
  | error exn => exact hs

/-- Stages that ask none of the decisive questions. -/
theorem holds_of_asks (h : Stagewise app I Φ HandedOut) {α : Type} {p : Py α}
    (hasks : Asks calmKinds p) (hs : I s) : Holds app I Φ p s := by
  refine Keeps.of_only hasks h.elapses (fun q hq s answer s' hs answered => ?_) hs
  refine h.quiet s q answer s' ?_ hs answered
  cases q <;> first | rfl | simp [Query.among, Query.kind] at hq

/-- **Resolving a policy.** What is handed out was in the store or in the cache. -/
theorem holds_snapshotGet (h : Stagewise app I Φ HandedOut) (tenantId : String) (hs : I s) :
    (eventLoop app).Keeps I Φ (fun outcome s => I s ∧
      ∀ policy, outcome = .ok policy → HandedOut tenantId policy) (snapshotGet tenantId).run s := by
  refine keeps_query rfl fun s₀ found s₁ htime answered => ?_
  have hs₀ := h.elapses _ _ hs htime
  have hquiet := h.quiet _ _ _ _ rfl hs₀ answered
  obtain ⟨hfound, rfl⟩ : found = s₀.snapshots.lookup app.settings.policyCacheTtlS s₀.now tenantId ∧
    s₁ = s₀ := answered
  refine ⟨hquiet.1, ?_⟩
  cases found with
  | some policy =>
      obtain ⟨snapshot, hget, heq, _⟩ := PolicySnapshots.lookup_eq_some_iff.mp hfound.symm
      refine ⟨hs₀, fun other hok => ?_⟩
      cases hok
      exact heq ▸ h.cached _ _ _ hs₀ hget
  | none =>
      refine Keeps.fallible_bind (keeps_query rfl fun s₂ fetched s₃ htime answered => ?_)
      have hs₂ := h.elapses _ _ hs₀ htime
      have hquiet := h.quiet _ _ _ _ rfl hs₂ answered
      obtain ⟨now, hnow, rfl⟩ := htime
      obtain ⟨hfetched, rfl⟩ : fetched = s₁.policies.get tenantId ∧
        s₃ = { s₁ with now := now } := answered
      refine ⟨hquiet.1, ?_⟩
      cases fetched with
      | error exn => exact ⟨hs₂, fun policy hok => nomatch hok⟩
      | ok policy =>
          have hcurrent := PolicyStore.get_eq_ok_iff.mp hfetched.symm
          refine keeps_query rfl fun s₄ written s₅ htime answered => ?_
          have hs₄ := h.elapses _ _ hs₂ htime
          obtain ⟨late, hlate, rfl⟩ := htime
          obtain ⟨_, rfl⟩ := answered
          have hmissed := PolicySnapshots.lookup_none_mono hfound.symm (hnow.trans hlate)
          have hwritten := h.writeBack _ tenantId policy hs₄ hmissed hcurrent
          refine ⟨hwritten.1, hwritten.2, fun other hok => ?_⟩
          cases hok
          exact h.stored _ _ _ hs₂ hcurrent

/-- **Taking a token.** -/
theorem holds_rateLimiterAllow (h : Stagewise app I Φ HandedOut) {tenantId : String}
    {policy : TenantPolicy} (hpolicy : HandedOut tenantId policy) (hs : I s) :
    Holds app I Φ (rateLimiterAllow policy.tenantId (effectiveLimit policy)) s := by
  unfold rateLimiterAllow
  split
  · exact hs
  · refine keeps_query rfl fun s₀ reading s₁ htime answered => ?_
    have hs₀ := h.elapses _ _ hs htime
    have hquiet := h.quiet _ _ _ _ rfl hs₀ answered
    obtain ⟨hreading, rfl⟩ : reading = s₀.now ∧ s₁ = s₀ := answered
    refine ⟨hquiet.1, Keeps.ask (by simp [eventLoop, Query.awaits])
      fun s₂ allowed s₃ htime answered => ?_⟩
    have hs₂ := h.elapses _ _ hs₀ htime
    obtain ⟨now, hnow, rfl⟩ := htime
    exact h.take _ tenantId policy reading allowed s₃ hs₂ (by rw [hreading]; exact hs₀)
      (hreading.trans_le hnow) hpolicy answered

theorem holds_enforceRateLimit (h : Stagewise app I Φ HandedOut) {tenantId : String}
    {policy : TenantPolicy} (hpolicy : HandedOut tenantId policy) (hs : I s) :
    Holds app I Φ (enforceRateLimit policy) s := by
  refine holds_bind (h.holds_rateLimiterAllow hpolicy hs) fun allowed s hs => ?_
  cases allowed <;> exact hs

/-- **Changing a tenant's state.** -/
theorem holds_applyState (h : Stagewise app I Φ HandedOut) (requestId : String)
    (identity : Identity) (tenantId : String) (state : TenantState) (hs : I s) :
    Holds app I Φ (applyState app requestId identity tenantId state) s := by
  refine keeps_query rfl fun s₀ answer s₁ htime answered => ?_
  have hs₀ := h.elapses _ _ hs htime
  obtain ⟨hanswer, hs₁⟩ := answered.storeSetState
  rcases s₀.policies.setState_cases tenantId state with ⟨current, hget, hset⟩ | ⟨hget, hset⟩
  · obtain rfl : answer = .ok (PolicyStore.withState current state) := by rw [hanswer, hset]
    obtain rfl : s₁ = s₀.withPolicy tenantId (PolicyStore.withState current state) := by
      rw [hs₁, hset]
      rfl
    refine ⟨(h.change s₀ tenantId state current s₀.now hs₀ hget le_rfl).1,
      keeps_query rfl fun s₂ evicted s₃ htime answered => ?_⟩
    obtain ⟨now, hnow, rfl⟩ := htime
    obtain ⟨_, rfl⟩ := answered
    have hchanged := h.change s₀ tenantId state current now hs₀ hget hnow
    exact ⟨hchanged.2.1, h.holds_of_asks (asks_call (by simp [Query.kind]) fun _ => trivial)
      hchanged.2.2⟩
  · obtain rfl : answer = .error (.unknownTenant tenantId) := by rw [hanswer, hset]
    obtain rfl : s₁ = s₀ := by rw [hs₁, hset]
    exact ⟨h.unknown _ tenantId state hs₀ hget, hs₀⟩

/-! ## The handlers -/

theorem holds_exceptPipeline (h : Stagewise app I Φ HandedOut) {α β : Type} {body : Py α}
    {rejected : ErrorStatus → String → String → Py β} {next : α → Py β}
    (hbody : Holds app I Φ body s)
    (hrejected : ∀ status code message, Asks calmKinds (rejected status code message))
    (hnext : ∀ value s, I s → Holds app I Φ (next value) s) :
    Holds app I Φ (exceptPipeline body rejected next) s := by
  refine holds_bind (Keeps.attempt hbody) fun outcome s hs => ?_
  cases outcome with
  | ok value => exact hnext value s hs
  | error exn =>
      cases exn with
      | pipeline status code message => exact h.holds_of_asks (hrejected ..) hs
      | _ => exact hs

/-- Resolving a policy, and then taking a token with it. -/
theorem holds_gates (h : Stagewise app I Φ HandedOut) (request : HttpRequest) (hs : I s) :
    Holds app I Φ (gates app request) s := by
  refine holds_bind (h.holds_of_asks ((asks_authenticate ..).mono (by simp)) hs)
    fun identity s hs => ?_
  refine holds_bind (h.holds_of_asks ((asks_authorize ..).mono (by simp)) hs) fun _ s hs => ?_
  refine Keeps.fallible_bind (Keeps.fallible_bind (Keeps.attempt
    ((h.holds_snapshotGet identity.tenantId hs).mono fun outcome s hresolved => ?_)))
  cases outcome with
  | error exn => exact hresolved.1
  | ok policy =>
      refine holds_bind (h.holds_of_asks ((asks_enforceKillSwitch policy).mono (by simp))
        hresolved.1) fun _ s hs => ?_
      exact holds_bind (h.holds_enforceRateLimit (hresolved.2 policy rfl) hs) fun _ _ hs => hs

theorem holds_chat (h : Stagewise app I Φ HandedOut) (request : HttpRequest) (requestId : String)
    (hs : I s) : Holds app I Φ (chat app request requestId) s := by
  have hspan : ∀ attributes, Asks calmKinds (setSpan attributes) := fun attributes =>
    (asks_setSpan attributes).mono (by simp)
  refine holds_bind (h.holds_of_asks (hspan _) hs) fun _ s hs => ?_
  refine h.holds_exceptPipeline (h.holds_gates request hs)
    (fun _ _ _ => Fallible.Only.bind (hspan _) fun _ => trivial) fun admitted s hs => ?_
  exact holds_bind (h.holds_of_asks (hspan _) hs) fun _ s hs =>
    h.holds_of_asks ((asks_body ..).mono (by simp)) hs

theorem holds_setTenantState (h : Stagewise app I Φ HandedOut) (request : HttpRequest)
    (tenantId requestId : String) (hs : I s) :
    Holds app I Φ (setTenantState app request tenantId requestId) s := by
  refine h.holds_exceptPipeline (h.holds_of_asks ((asks_adminCaller ..).mono (by simp)) hs)
    (fun _ _ _ => trivial) fun identity s hs => ?_
  have hbody : Holds app I Φ (ask .requestJson) s :=
    h.holds_of_asks (asks_ask (by simp [Query.kind])) hs
  refine holds_bind hbody fun body s hs => ?_
  cases body with
  | error exn => cases exn <;> exact hs
  | ok body =>
      dsimp only
      split
      · exact hs
      · exact h.holds_applyState _ _ _ _ hs

theorem holds_serve (h : Stagewise app I Φ HandedOut) {request : HttpRequest}
    {handler : String → Py Response}
    (hhandler : ∀ requestId s, I s → Holds app I Φ (handler requestId) s) (hs : I s) :
    Holds app I Φ (serve app request handler) s := by
  refine holds_bind (h.holds_of_asks ((asks_requestIdOf request).mono (by simp)) hs)
    fun requestId s hs => ?_
  refine holds_bind (h.holds_of_asks (asks_ask (by simp [Query.kind])) hs) fun start s hs => ?_
  refine holds_bind (Keeps.attempt (hhandler requestId s hs))
    fun outcome s hs => h.holds_of_asks ?_ hs
  have hlog : ∀ statusCode, Asks calmKinds (accessLog request requestId start statusCode) :=
    fun statusCode => (asks_accessLog ..).mono (by simp)
  cases outcome with
  | error exn =>
      exact Fallible.Only.bind (hlog _) fun _ =>
        (asks_unhandledError_unsent ..).mono (by simp)
  | ok response =>
      refine Fallible.Only.bind (hlog _) fun _ => ?_
      refine Fallible.Only.bind (Fallible.Only.attempt ((asks_sendResponse ..).mono (by simp)))
        fun sent => ?_
      cases sent with
      | error exn => exact (asks_unhandledError ..).mono (by simp)
      | ok _ => trivial

/-- **Invariants of the event loop.** -/
theorem reachable (h : Stagewise app I Φ HandedOut) {c : Process}
    (hreach : (eventLoop app).Reachable s c) (hs : I s) :
    I c.state ∧ ∀ entry ∈ c.log, ∀ event, entry.action = .did event →
      Φ entry.before event entry.after := by
  refine hreach.keeps h.elapses hs fun job s hs => ?_
  cases job with
  | chat request => exact h.holds_serve (fun _ _ => h.holds_chat request _) hs
  | setTenantState request tenantId =>
      exact h.holds_serve (fun _ _ => h.holds_setTenantState request tenantId _) hs

end Stagewise

end BedrockGateway
