/-
# The kill switch takes effect at once

A change to a blocking state is visible to every request that resolves its policy
afterwards: no snapshot outlives it. Such a request is refused before it takes a
token, reads the cache or calls a model. An admin request that is not answered 200
changes nothing, and one that is changes one tenant once.
-/

import BedrockGateway.Api.AdminTrace
import BedrockGateway.Policy.Coherence

namespace BedrockGateway

open Foundation

variable {app : App} {s s' : GatewayState} {c : Process} {tenantId : String}

/-! ## A blocked tenant in the store -/

/-- The store's current policy of the tenant is blocked. -/
def StoreBlocked (tenantId : String) (s : GatewayState) : Prop :=
  ∃ policy, s.policies.get? tenantId = some policy ∧ policy.blocked = true

theorem StoreBlocked.elapses (h : StoreBlocked tenantId s) (htime : Elapses s s') :
    StoreBlocked tenantId s' := by
  obtain ⟨now, _, rfl⟩ := htime
  exact h

/-- Changing the tenant to a blocking state blocks it. -/
theorem storeBlocked_of_setState {state : TenantState} {updated : TenantPolicy}
    (h : Answers app s (.storeSetState tenantId state) (.ok updated) s')
    (hstate : state ∈ blockingStates) : StoreBlocked tenantId s' := by
  obtain ⟨hanswer, rfl⟩ := h.storeSetState
  rcases s.policies.setState_cases tenantId state with ⟨current, _, hset⟩ | ⟨_, hset⟩
  · exact ⟨PolicyStore.withState current state, by rw [hset]; exact Dict.get?_set_self ..,
      decide_eq_true hstate⟩
  · rw [hset] at hanswer
    cases hanswer

/-- Only a change to a state that does not block unblocks the tenant. -/
theorem StoreBlocked.entry {J R : Type} {M : Machine Query Answer GatewayState J R}
    (hM : OverGateway app M) {entry : Entry Answer GatewayState J R}
    (h : StoreBlocked tenantId entry.before) (hvalid : M.Valid entry)
    (hset : ∀ state updated, entry.action = .did ⟨.storeSetState tenantId state, .ok updated⟩ →
      state ∈ blockingStates) : StoreBlocked tenantId entry.after := by
  obtain ⟨policy, hget, hblocked⟩ := h
  rcases hM.policy_cases hvalid with ⟨_, _, _, heq, _⟩ | ⟨_, _, heq, _⟩ |
    ⟨target, state, result, haction, hresult, _⟩ | ⟨_, heq, _⟩
  · exact ⟨policy, heq ▸ hget, hblocked⟩
  · exact ⟨policy, heq ▸ hget, hblocked⟩
  · rcases entry.before.policies.setState_cases target state with
      ⟨current, _, hchanged⟩ | ⟨_, hfailed⟩
    · obtain ⟨rfl, hafter⟩ : result = .ok (PolicyStore.withState current state) ∧
          entry.after.policies =
            Dict.set entry.before.policies target (PolicyStore.withState current state) := by
        rw [hchanged] at hresult
        exact ⟨congrArg Prod.fst hresult, congrArg Prod.snd hresult⟩
      by_cases htarget : tenantId = target
      · subst htarget
        exact ⟨PolicyStore.withState current state, by rw [hafter]; exact Dict.get?_set_self ..,
          decide_eq_true (hset state _ haction)⟩
      · exact ⟨policy, by rw [hafter, Dict.get?_set_of_ne _ _ htarget]; exact hget, hblocked⟩
    · have hafter : entry.after.policies = entry.before.policies := by
        rw [hfailed] at hresult
        exact congrArg Prod.snd hresult
      exact ⟨policy, hafter ▸ hget, hblocked⟩
  · exact ⟨policy, heq ▸ hget, hblocked⟩

/-- No change to a state that does not block. -/
def NeverUnblocked (tenantId : String) (log : ProcessLog) : Prop :=
  ∀ entry ∈ log, ∀ state updated,
    entry.action = .did ⟨.storeSetState tenantId state, .ok updated⟩ → state ∈ blockingStates

/-- A blocked tenant stays blocked through a stretch of the log without such a change. -/
theorem StoreBlocked.replay (h : StoreBlocked tenantId s) {log : ProcessLog}
    (hreplay : (eventLoop app).Replay s log s') (hset : NeverUnblocked tenantId log) :
    StoreBlocked tenantId s' ∧ ∀ entry ∈ log, StoreBlocked tenantId entry.before :=
  hreplay.preserves (P := StoreBlocked tenantId) h (fun _ _ hs htime => hs.elapses htime)
    fun entry hmem hbefore hvalid =>
      hbefore.entry (eventLoop_overGateway app) hvalid (hset entry hmem)

/-! ## Requests that come after -/

/-- Not an event of a request that got past the kill switch. -/
def Refused (event : Event Answer) : Prop :=
  match event.query with
  | .bucketTake _ _ _ => False
  | .cacheGet _ => False
  | .cacheSet _ _ => False
  | .converse _ _ _ _ => False
  | .converseStream _ _ _ _ => False
  | .startStream => False
  | .sendStart response _ => response.statusCode = 403
  | _ => True

theorem Refused.of_early {event : Event Answer} (h : event.query.among [.caller, .telemetry]) :
    Refused event := by
  obtain ⟨query, answer⟩ := event
  cases query <;> trivial

/-- A request whose policy is blocked, or that has not got one yet, is refused. -/
theorem Owes.refused {request : HttpRequest} {history : History} {event : Event Answer}
    (h : Owes app request history event) (hblocked : ¬ Unblocked history) : Refused event := by
  obtain ⟨query, answer⟩ := event
  cases query with
  | bucketTake => exact absurd h.choose_spec.1.unblocked hblocked
  | cacheGet => exact absurd h.choose_spec.1.unblocked hblocked
  | cacheSet => exact absurd h.choose_spec.choose_spec.1.unblocked hblocked
  | converse => exact absurd h.choose_spec.1.unblocked hblocked
  | converseStream => exact absurd h.choose_spec.1.unblocked hblocked
  | startStream => exact absurd h.2 hblocked
  | sendStart response headers => exact h.2.resolve_left hblocked
  | _ => trivial

/-- Requests that resolve a tenant's policy after it was blocked, and before it is
unblocked, are refused. -/
def RefusesAtOnce (log : ProcessLog) : Prop :=
  ∀ past put middle resolve future tenantId state updated found,
    log = past ++ put :: (middle ++ resolve :: future) →
    put.action = .did ⟨.storeSetState tenantId state, .ok updated⟩ → state ∈ blockingStates →
    NeverUnblocked tenantId middle →
    resolve.action = .did ⟨.snapshotLookup tenantId, found⟩ →
    ∀ entry ∈ log, entry.tid = resolve.tid → ∀ event, entry.action = .did event → Refused event

/-- A thread that looks a policy up serves a chat request. -/
theorem chat_of_lookup (h : (eventLoop app).Reachable s c) {past future : ProcessLog}
    {entry : Entry Answer GatewayState Job (Except Exn Unit)} {found : Option TenantPolicy}
    (hlog : c.log = past ++ entry :: future)
    (haction : entry.action = .did ⟨.snapshotLookup tenantId, found⟩) :
    ∃ thread request, c.threads entry.tid = some thread ∧ thread.job = .chat request := by
  obtain ⟨thread, hthread⟩ := h.thread_of_mem (show entry ∈ c.log by simp [hlog])
  cases hjob : thread.job with
  | chat request => exact ⟨thread, request, hthread, hjob⟩
  | setTenantState request target =>
      have howes := admin_meets h hlog haction hthread hjob
      simp [AdminOwes, Query.among, Query.kind] at howes

/-- The event of an entry is in its thread's trace. -/
theorem mem_traceOf_self (past future : ProcessLog)
    {entry : Entry Answer GatewayState Job (Except Exn Unit)} {event : Event Answer}
    (haction : entry.action = .did event) :
    event ∈ traceOf entry.tid (past ++ entry :: future) :=
  mem_traceOf_iff.mpr ⟨entry, by simp, rfl, haction⟩

section Chat

variable {request : HttpRequest} {thread : Thread Query Answer Job (Except Exn Unit)}
  {resolve : Entry Answer GatewayState Job (Except Exn Unit)} {found : Option TenantPolicy}

/-- A chat request looks one policy up. -/
theorem lookup_once (h : (eventLoop app).Reachable s c) {past future : ProcessLog}
    (hthread : c.threads resolve.tid = some thread) (hjob : thread.job = .chat request)
    (hlog : c.log = past ++ resolve :: future)
    (hresolve : resolve.action = .did ⟨.snapshotLookup tenantId, found⟩) {target : String}
    {again : Option TenantPolicy} :
    ⟨.snapshotLookup target, again⟩ ∉ traceOf resolve.tid future := by
  intro hmem
  obtain ⟨entry, hentry, htid, haction⟩ := mem_traceOf_iff.mp hmem
  obtain ⟨before, after, rfl⟩ := List.append_of_mem hentry
  have hsplit : c.log = (past ++ resolve :: before) ++ entry :: after := by simp [hlog]
  have hearly : Early (traceOf entry.tid (past ++ resolve :: before)) :=
    chat_meets h hsplit haction (htid ▸ hthread) hjob
  rw [htid] at hearly
  have hkind := hearly _ (mem_traceOf_self past before hresolve)
  simp [Query.among, Query.kind] at hkind

/-- After a missed lookup the same request fetches the same tenant's policy, and
until then nothing else happens. -/
theorem fetch_after_miss (h : (eventLoop app).Reachable s c) {past middle future : ProcessLog}
    {fetch : Entry Answer GatewayState Job (Except Exn Unit)} {target : String}
    {fetched : Except Exn TenantPolicy} (hthread : c.threads resolve.tid = some thread)
    (hjob : thread.job = .chat request)
    (hlog : c.log = past ++ resolve :: (middle ++ fetch :: future))
    (hresolve : resolve.action = .did ⟨.snapshotLookup tenantId, found⟩)
    (htid : fetch.tid = resolve.tid) (hfetch : fetch.action = .did ⟨.storeGet target, fetched⟩) :
    target = tenantId ∧ ∀ entry ∈ middle, ∀ event, entry.action ≠ .did event := by
  have hsplit : c.log = (past ++ resolve :: middle) ++ fetch :: future := by simp [hlog]
  obtain ⟨before, htrace⟩ := chat_meets h hsplit hfetch (htid ▸ hthread) hjob
  rw [htid, Machine.traceOf_split rfl hresolve] at htrace
  rcases List.eq_nil_or_concat (traceOf resolve.tid middle) with hnil | ⟨init, last, hlast⟩
  · rw [hnil] at htrace
    obtain ⟨-, hsame⟩ := List.append_inj' htrace rfl
    have hquiet : ∀ entry ∈ middle, entry.tid = resolve.tid → ∀ event,
        entry.action ≠ .did event := by
      intro entry hmem hown event haction
      have htraced : event ∈ traceOf resolve.tid middle :=
        mem_traceOf_iff.mpr ⟨entry, hmem, hown, haction⟩
      simp [hnil] at htraced
    refine ⟨by cases hsame; rfl, fun entry hmem => hquiet entry hmem ?_⟩
    refine h.uninterrupted hlog htid (fun other hother hown event haction => ?_) entry hmem
    rcases List.mem_append.mp hother with hmiddle | hfinal
    · exact absurd haction (hquiet other hmiddle hown event)
    · rw [List.mem_singleton.mp hfinal, hfetch] at haction
      cases haction
      simp [eventLoop, Query.awaits]
  · have hagain : last = ⟨.snapshotLookup target, none⟩ := by
      rw [hlast, List.concat_eq_append, ← List.cons_append, ← List.append_assoc] at htrace
      simpa using (List.append_inj' htrace rfl).2
    have hmem : last ∈ traceOf resolve.tid (middle ++ fetch :: future) := by
      rw [traceOf_append, hlast]
      simp
    exact absurd (hagain ▸ hmem) (lookup_once h hthread hjob hlog hresolve)

/-- A request that looks a blocked tenant's policy up is not unblocked afterwards. -/
theorem not_unblocked_of_storeBlocked (h : (eventLoop app).Reachable s c) (hs : Coherent s)
    {past future rest : ProcessLog} (hthread : c.threads resolve.tid = some thread)
    (hjob : thread.job = .chat request) (hlog : c.log = past ++ resolve :: (future ++ rest))
    (hresolve : resolve.action = .did ⟨.snapshotLookup tenantId, found⟩)
    (hblocked : StoreBlocked tenantId resolve.before) :
    ¬ Unblocked (traceOf resolve.tid (past ++ resolve :: future)) := by
  intro hunblocked
  obtain ⟨policy, hget, hpolicy⟩ := hblocked
  have hlookup := mem_traceOf_self past future hresolve
  obtain ⟨hvalid, hafter⟩ := (hlog ▸ h.replay).suffix
  have hanswers := (eventLoop_overGateway app).answers hvalid hresolve
  cases found with
  | some hit =>
      have hcurrent := (eventLoop_coherent h hs).2 resolve (by simp [hlog]) _ hresolve
        tenantId hit (.inl rfl)
      obtain rfl : policy = hit := Option.some.inj (hget.symm.trans hcurrent)
      have hpassing := hunblocked.passing tenantId policy (.inl hlookup)
      simp [hpolicy] at hpassing
  | none =>
      obtain ⟨fetched, hfetched⟩ := hunblocked.followed tenantId hlookup
      obtain ⟨fetch, hmem, htid, hfetch⟩ := mem_traceOf_iff.mp hfetched
      have hearly : Early (traceOf resolve.tid past) := chat_meets h hlog hresolve hthread hjob
      have hlater : fetch ∈ future := by
        rcases List.mem_append.mp hmem with hpast | hmem
        · have hkind := hearly _ (mem_traceOf_iff.mpr ⟨fetch, hpast, htid, hfetch⟩)
          simp [Query.among, Query.kind] at hkind
        · rcases List.mem_cons.mp hmem with rfl | hfuture
          · rw [hresolve] at hfetch
            cases hfetch
          · exact hfuture
      obtain ⟨before, after, rfl⟩ := List.append_of_mem hlater
      have hcut : c.log = past ++ resolve :: (before ++ fetch :: (after ++ rest)) := by simp [hlog]
      obtain ⟨-, hquiet⟩ := fetch_after_miss h hthread hjob hcut hresolve htid hfetch
      -- Nothing happens between the lookup and the fetch, so the store is as it was.
      have hstill : StoreBlocked tenantId resolve.after :=
        StoreBlocked.entry (eventLoop_overGateway app) ⟨policy, hget, hpolicy⟩ hvalid
          (by simp [hresolve])
      obtain ⟨hvalid, hafter⟩ := (hcut ▸ h.replay).suffix
      obtain ⟨s₁, hbefore, hrest⟩ := hafter.split
      have hend := (hstill.replay hbefore fun entry hentry _ _ haction =>
        absurd haction (hquiet entry hentry _)).1
      obtain ⟨policy', hget', hpolicy'⟩ := hend.elapses hrest.1
      have hanswers := (eventLoop_overGateway app).answers hrest.2.1 hfetch
      obtain ⟨hanswer, _⟩ :
      fetched = fetch.before.policies.get tenantId ∧ fetch.after = fetch.before :=
        hanswers
      rw [PolicyStore.get_eq_ok_iff.mpr hget'] at hanswer
      subst hanswer
      have hpassing := hunblocked.passing tenantId policy' (.inr hfetched)
      simp [hpolicy'] at hpassing

end Chat

/-- **Blocking takes effect at once.** -/
theorem refusesAtOnce (h : (eventLoop app).Reachable s c) (hs : Coherent s) :
    RefusesAtOnce c.log := by
  intro past put middle resolve future tenantId state updated found hlog hput hstate hnever
    hresolve entry hmem htid event haction
  have hcut : c.log = (past ++ put :: middle) ++ resolve :: future := by simp [hlog]
  obtain ⟨thread, request, hthread, hjob⟩ := chat_of_lookup h hcut hresolve
  -- The tenant is blocked when the request looks its policy up.
  obtain ⟨hvalid, hafter⟩ := (hlog ▸ h.replay).suffix
  have hput := storeBlocked_of_setState ((eventLoop_overGateway app).answers hvalid hput) hstate
  obtain ⟨s₁, hmiddle, hrest⟩ := hafter.split
  have hblocked : StoreBlocked tenantId resolve.before :=
    (hput.replay hmiddle hnever).1.elapses hrest.1
  rw [hcut] at hmem
  rcases List.mem_append.mp hmem with hpast | hmem
  · have hearly : Early (traceOf resolve.tid (past ++ put :: middle)) :=
      chat_meets h hcut hresolve hthread hjob
    exact Refused.of_early (hearly event (mem_traceOf_iff.mpr ⟨entry, hpast, htid, haction⟩))
  · rcases List.mem_cons.mp hmem with rfl | hfuture
    · rw [hresolve] at haction
      cases haction
      trivial
    · obtain ⟨before, after, rfl⟩ := List.append_of_mem hfuture
      have hsplit : c.log = (past ++ put :: middle ++ resolve :: before) ++ entry :: after := by
        simp [hlog]
      have howes := chat_meets h hsplit haction (htid ▸ hthread) hjob
      rw [htid] at howes
      exact howes.refused (not_unblocked_of_storeBlocked h hs hthread hjob hcut hresolve hblocked)

/-! ## Admin requests -/

/-- The entry leaves the store and the snapshots alone. -/
def LeavesPolicies (entry : Entry Answer GatewayState Job (Except Exn Unit)) : Prop :=
  entry.after.policies = entry.before.policies ∧ entry.after.snapshots = entry.before.snapshots

/-- An admin request that has ended without a 200 has changed nothing. -/
def RejectionsChangeNothing (c : Process) : Prop :=
  ∀ tid request tenantId result,
    c.threads tid = some ⟨.setTenantState request tenantId, .ret result⟩ →
    ¬ AnsweredOk (traceOf tid c.log) → ∀ entry ∈ c.log, entry.tid = tid → LeavesPolicies entry

/-- The entry sets the state of the tenant and raises its epoch by one; the policies
of the others, and all snapshots, stay. -/
structure ChangesState (tenantId : String) (state : TenantState)
    (entry : Entry Answer GatewayState Job (Except Exn Unit)) : Prop where
  changed : ∃ current, entry.before.policies.get? tenantId = some current ∧
    entry.after.policies.get? tenantId =
      some { current with state := state, policyEpoch := current.policyEpoch + 1 }
  others : ∀ other ≠ tenantId,
    entry.after.policies.get? other = entry.before.policies.get? other
  snapshots : entry.after.snapshots = entry.before.snapshots

/-- An admin request that is answered 200 has changed its tenant's state once, and
has touched nothing else but that tenant's snapshot. -/
def SuccessesChangeOnce (c : Process) : Prop :=
  ∀ past sent future thread request tenantId response headers answer,
    c.log = past ++ sent :: future → c.threads sent.tid = some thread →
    thread.job = .setTenantState request tenantId →
    sent.action = .did ⟨.sendStart response headers, answer⟩ → response.statusCode = 200 →
    ∃ before put after state, past = before ++ put :: after ∧ put.tid = sent.tid ∧
      ChangesState tenantId state put ∧
      (∀ entry ∈ before ++ (after ++ sent :: future), entry.tid = sent.tid →
        entry.after.policies = entry.before.policies) ∧
      ∀ entry ∈ c.log, entry.tid = sent.tid → ∀ other ≠ tenantId,
        entry.after.snapshots.get? other = entry.before.snapshots.get? other

section Admin

variable {request : HttpRequest} {thread : Thread Query Answer Job (Except Exn Unit)}
  {entry : Entry Answer GatewayState Job (Except Exn Unit)}

/-- What an admin request's entry can do: leave everything alone, evict its tenant's
snapshot, or ask for a change of its tenant's state. -/
theorem admin_cases (h : (eventLoop app).Reachable s c) {past future : ProcessLog}
    (hlog : c.log = past ++ entry :: future) (hthread : c.threads entry.tid = some thread)
    (hjob : thread.job = .setTenantState request tenantId) :
    (LeavesPolicies entry ∧ ∀ target state updated,
      entry.action ≠ .did ⟨.storeSetState target state, .ok updated⟩) ∨
    (entry.action = .did ⟨.snapshotInvalidate tenantId, ()⟩ ∧
      Changed tenantId (traceOf entry.tid past) ∧
      entry.after.policies = entry.before.policies ∧
      entry.after.snapshots = entry.before.snapshots.invalidate tenantId) ∨
    ∃ state updated, entry.action = .did ⟨.storeSetState tenantId state, .ok updated⟩ ∧
      Untouched (traceOf entry.tid past) ∧ ChangesState tenantId state entry := by
  have hM := eventLoop_overGateway app
  have hvalid := (hlog ▸ h.replay).suffix.1
  rcases hM.policy_cases hvalid with ⟨target, policy, haction, _⟩ |
    ⟨target, haction, hpolicies, hsnapshots⟩ |
    ⟨target, state, result, haction, hresult, hsnapshots⟩ | ⟨hother, hframe⟩
  · have howes := admin_meets h hlog haction hthread hjob
    simp [AdminOwes, Query.among, Query.kind] at howes
  · obtain ⟨rfl, hchanged⟩ := admin_meets h hlog haction hthread hjob
    exact .inr (.inl ⟨haction, hchanged, hpolicies, hsnapshots⟩)
  · obtain ⟨rfl, huntouched, -⟩ := admin_meets h hlog haction hthread hjob
    rcases entry.before.policies.setState_cases target state with
      ⟨current, hget, hset⟩ | ⟨hget, hset⟩
    · rw [hset, Prod.mk.injEq] at hresult
      obtain ⟨rfl, hafter⟩ := hresult
      refine .inr (.inr ⟨state, _, haction, huntouched, ?_⟩)
      exact {
        changed := ⟨current, hget, by rw [hafter, Dict.get?_set_self]; rfl⟩
        others := fun other hne => by rw [hafter, Dict.get?_set_of_ne _ _ hne]
        snapshots := hsnapshots }
    · rw [hset, Prod.mk.injEq] at hresult
      obtain ⟨rfl, hafter⟩ := hresult
      exact .inl ⟨⟨hafter, hsnapshots⟩, by simp [haction]⟩
  · refine .inl ⟨hframe, fun target state updated haction => ?_⟩
    exact absurd (hother _ haction) (by simp [Query.changesPolicies])

theorem rejectionsChangeNothing (h : (eventLoop app).Reachable s c) :
    RejectionsChangeNothing c := by
  intro tid request tenantId result hthread hrejected entry hmem htid
  have hunchanged : ¬ Changed tenantId (traceOf tid c.log) := fun hchanged =>
    hrejected (h.ends hthread (setTenantState_job app request tenantId) hchanged)
  obtain ⟨past, future, hlog⟩ := List.append_of_mem hmem
  rcases admin_cases h hlog (htid ▸ hthread) rfl with ⟨hleaves, _⟩ | ⟨haction, hchanged, _⟩ |
    ⟨state, updated, haction, _⟩
  · exact hleaves
  · obtain ⟨state, updated, hmem⟩ := hchanged
    refine absurd ⟨state, updated, ?_⟩ hunchanged
    rw [hlog, traceOf_append, ← htid]
    exact List.mem_append_left _ hmem
  · exact absurd ⟨state, updated, mem_traceOf_iff.mpr ⟨entry, hmem, htid, haction⟩⟩ hunchanged

theorem successesChangeOnce (h : (eventLoop app).Reachable s c) : SuccessesChangeOnce c := by
  intro past sent future thread request tenantId response headers answer hlog hthread hjob hsent
    hstatus
  obtain ⟨⟨state, updated, hchanged⟩, _⟩ := admin_meets h hlog hsent hthread hjob hstatus
  obtain ⟨put, hput, htid, haction⟩ := mem_traceOf_iff.mp hchanged
  obtain ⟨before, after, rfl⟩ := List.append_of_mem hput
  have hcut : c.log = before ++ put :: (after ++ sent :: future) := by simp [hlog]
  rcases admin_cases h hcut (htid ▸ hthread) hjob with ⟨_, hnone⟩ | ⟨hevicts, _⟩ |
    ⟨state', updated', hsets, huntouched, hchanges⟩
  · exact absurd haction (hnone _ _ _)
  · rw [haction] at hevicts
    cases hevicts
  · rw [haction] at hsets
    cases hsets
    refine ⟨before, put, after, state, rfl, htid, hchanges, fun entry hmem hown => ?_,
      fun entry hmem hown other hne => ?_⟩
    · rcases List.mem_append.mp hmem with hbefore | hlater
      · -- A change before this one would have been noticed by it.
        obtain ⟨past', future', rfl⟩ := List.append_of_mem hbefore
        have hlog' : c.log = past' ++ entry :: (future' ++ put :: (after ++ sent :: future)) := by
          simp [hcut]
        rcases admin_cases h hlog' (hown ▸ hthread) hjob with ⟨hleaves, _⟩ | ⟨_, _, hkept, _⟩ |
          ⟨_, _, hagain, _⟩
        · exact hleaves.1
        · exact hkept
        · have hmem := mem_traceOf_self past' future' hagain
          rw [hown, ← htid] at hmem
          exact absurd rfl (huntouched _ hmem)
      · -- A change after this one would have noticed it.
        obtain ⟨past', future', hlater⟩ := List.append_of_mem hlater
        have hlog' : c.log = (before ++ put :: past') ++ entry :: future' := by
          simp [hcut, hlater]
        rcases admin_cases h hlog' (hown ▸ hthread) hjob with ⟨hleaves, _⟩ | ⟨_, _, hkept, _⟩ |
          ⟨_, _, _, hclean, _⟩
        · exact hleaves.1
        · exact hkept
        · have hmem := mem_traceOf_self before past' haction
          rw [htid, ← hown] at hmem
          exact absurd rfl (hclean _ hmem)
    · obtain ⟨past', future', hlog'⟩ := List.append_of_mem hmem
      rcases admin_cases h hlog' (hown ▸ hthread) hjob with ⟨hleaves, _⟩ | ⟨_, _, _, hevicted⟩ |
        ⟨_, _, _, _, hother⟩
      · rw [hleaves.2]
      · rw [hevicted, PolicySnapshots.get?_invalidate, if_neg hne]
      · rw [hother.snapshots]

end Admin

/-- **The kill switch.** Snapshots are current in every reachable configuration;
whoever resolves a blocked tenant's policy is refused, at whatever time; an admin
request that is not answered 200 changes nothing; one that is changes one state. -/
theorem eventLoop_killSwitch {now : ℚ} {policies : PolicyStore}
    (h : (eventLoop app).Reachable (.fresh now policies) c) :
    Coherent c.state ∧ RefusesAtOnce c.log ∧ RejectionsChangeNothing c ∧ SuccessesChangeOnce c :=
  have hfresh := Coherent.fresh now policies
  ⟨(eventLoop_coherent h hfresh).1, refusesAtOnce h hfresh, rejectionsChangeNothing h,
    successesChangeOnce h⟩

/-- A request is served, its tenant is suspended, and the next request comes. -/
def suspendedTenant : Process :=
  (eventLoopDriver App.oneKey).play (Machine.initial (.fresh 0 oneTenant)) [
    { tid := 0, job := some (.chat operatorRequest), oracle := servingWorld helloBody },
    { tid := 0, oracle := servingWorld helloBody },
    { tid := 0, oracle := servingWorld helloBody },
    { tid := 0, oracle := servingWorld helloBody },
    { tid := 1, job := some (.setTenantState operatorRequest "t"),
      oracle := servingWorld (stateBody .suspended) },
    { tid := 1, oracle := servingWorld (stateBody .suspended) },
    { tid := 1, oracle := servingWorld (stateBody .suspended) },
    { tid := 1, oracle := servingWorld (stateBody .suspended) },
    { tid := 2, job := some (.chat operatorRequest), oracle := servingWorld helloBody },
    { tid := 2, oracle := servingWorld helloBody },
    { tid := 2, oracle := servingWorld helloBody }]

/-- The kill switch in a run in which it is used. -/
theorem eventLoop_killSwitch_suspendedTenant :
    suspendedTenant.log.filterMap statusOf = [200, 200, 403] ∧ Coherent suspendedTenant.state ∧
      RefusesAtOnce suspendedTenant.log ∧ RejectionsChangeNothing suspendedTenant ∧
      SuccessesChangeOnce suspendedTenant :=
  ⟨by decide +kernel, eventLoop_killSwitch (Driver.play_reachable ..)⟩

end BedrockGateway
