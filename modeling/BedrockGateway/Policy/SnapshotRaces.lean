/-
# Slow fetches and stale snapshots

A `get` that misses fetches the policy outside the lock and writes it back later,
stamped with the time of the write-back. Anything may happen in between. Two
promises of the cache are stated here as properties of the log of a run: a hit is
never staler than the lease, and a pushed policy is never overtaken by an older
one. A run refutes each; both hold of every run in which what is written back is
still the store's policy at that instant.
-/

import BedrockGateway.EventLoop
import Mathlib.Tactic.Linarith

namespace BedrockGateway

open Foundation Py

section Log

variable {J R : Type}

/-- Every write-back writes the policy the store holds at that instant. -/
def WritesBackCurrent (log : List (Entry Answer GatewayState J R)) : Prop :=
  ∀ entry ∈ log, ∀ tenantId policy,
    entry.action = .did ⟨.snapshotWriteBack tenantId policy, ()⟩ →
    entry.before.policies.get? tenantId = some policy

/-! ## The lease -/

/-- At some instant of these entries, not before `since`, the store held this
policy. An instant at which it held it lasts until the next entry. -/
def HeldSince (since : ℚ) (tenantId : String) (policy : TenantPolicy)
    (entries : List (Entry Answer GatewayState J R)) : Prop :=
  ∃ entry ∈ entries, entry.before.policies.get? tenantId = some policy ∧
    since ≤ entry.before.now

/-- A hit returns a policy that was the store's within the last `ttlS`. -/
def LeaseBounded (ttlS : ℚ) (log : List (Entry Answer GatewayState J R)) : Prop :=
  ∀ past hit future tenantId policy, log = past ++ hit :: future →
    hit.action = .did ⟨.snapshotLookup tenantId, some policy⟩ →
    HeldSince (hit.before.now - ttlS) tenantId policy (past ++ [hit])

variable {app : App} {M : Machine Query Answer GatewayState J R}

/-- A snapshot is no younger than the last instant the store held its policy. -/
def SnapshotsHeld (past : List (Entry Answer GatewayState J R)) (s : GatewayState) : Prop :=
  ∀ tenantId snapshot, s.snapshots.get? tenantId = some snapshot →
    HeldSince snapshot.cachedAt tenantId snapshot.policy past

theorem HeldSince.mono {since : ℚ} {tenantId : String} {policy : TenantPolicy}
    {entries : List (Entry Answer GatewayState J R)} (h : HeldSince since tenantId policy entries)
    (more : List (Entry Answer GatewayState J R)) :
    HeldSince since tenantId policy (entries ++ more) := by
  obtain ⟨entry, hmem, hheld, hle⟩ := h
  exact ⟨entry, List.mem_append_left _ hmem, hheld, hle⟩

theorem SnapshotsHeld.step (hM : OverGateway app M) {past : List (Entry Answer GatewayState J R)}
    {entry : Entry Answer GatewayState J R} (h : SnapshotsHeld past entry.before)
    (hvalid : M.Valid entry)
    (hcurrent : ∀ tenantId policy,
      entry.action = .did ⟨.snapshotWriteBack tenantId policy, ()⟩ →
      entry.before.policies.get? tenantId = some policy) :
    SnapshotsHeld (past ++ [entry]) entry.after := by
  intro tenantId snapshot hget
  rcases hM.policy_cases hvalid with ⟨target, policy, haction, _, hsnapshots⟩ |
    ⟨target, _, _, hsnapshots⟩ | ⟨_, _, _, _, _, hsnapshots⟩ | ⟨_, _, hsnapshots⟩
  · rw [hsnapshots, PolicySnapshots.get?_writeBack] at hget
    split at hget
    case isTrue heq =>
      cases hget
      exact ⟨entry, by simp, heq ▸ hcurrent target policy haction, le_rfl⟩
    case isFalse => exact (h tenantId snapshot hget).mono _
  · rw [hsnapshots, PolicySnapshots.get?_invalidate] at hget
    split at hget
    · cases hget
    · exact (h tenantId snapshot hget).mono _
  · rw [hsnapshots] at hget
    exact (h tenantId snapshot hget).mono _
  · rw [hsnapshots] at hget
    exact (h tenantId snapshot hget).mono _

/-- **The lease bounds staleness** in every run that writes back current policies. -/
theorem leaseBounded_of_current (hM : OverGateway app M) {s s' : GatewayState}
    {log : List (Entry Answer GatewayState J R)} (hreplay : M.Replay s log s')
    (hinit : s.snapshots = Dict.empty) (hcurrent : WritesBackCurrent log) :
    LeaseBounded app.settings.policyCacheTtlS log := by
  intro past hit future tenantId policy hlog haction
  have hheld : SnapshotsHeld past hit.before := by
    refine (hreplay.invariant (I := SnapshotsHeld) ?_ ?_ ?_).2 past hit future hlog
    · intro tenantId snapshot hget
      rw [hinit] at hget
      cases hget
    · intro past s s₀ hI hpasses
      rw [hM.passes_eq] at hpasses
      obtain ⟨now, _, rfl⟩ := hpasses
      exact hI
    · intro past entry future hlog hI hvalid
      exact hI.step hM hvalid (hcurrent entry (by simp [hlog]))
  have hanswers := hM.answers (hreplay.valid (by simp [hlog])) haction
  have hlookup : some policy =
      hit.before.snapshots.lookup app.settings.policyCacheTtlS hit.before.now tenantId :=
    hanswers.1
  obtain ⟨snapshot, hget, hpolicy, hfresh⟩ := PolicySnapshots.lookup_eq_some_iff.mp hlookup.symm
  obtain ⟨entry, hmem, hstored, hle⟩ := hheld tenantId snapshot hget
  exact ⟨entry, by simp [hmem], hpolicy ▸ hstored, by linarith⟩

/-! ## Epochs never go back -/

/-- Everything a `get` could return for the tenant has at least this epoch. -/
structure EpochFloor (tenantId : String) (epoch : ℤ) (s : GatewayState) : Prop where
  store : ∀ policy, s.policies.get? tenantId = some policy → epoch ≤ policy.policyEpoch
  snapshot : ∀ snapshot, s.snapshots.get? tenantId = some snapshot →
    epoch ≤ snapshot.policy.policyEpoch

/-- Changing a state only raises the epoch of the stored policy. -/
theorem le_epoch_of_setState {store : PolicyStore} {tenantId target : String} {state : TenantState}
    {epoch : ℤ} (h : ∀ policy, store.get? tenantId = some policy → epoch ≤ policy.policyEpoch) :
    ∀ policy, (store.setState target state).2.get? tenantId = some policy →
      epoch ≤ policy.policyEpoch := by
  intro policy hget
  rcases store.setState_cases target state with ⟨current, hcurrent, hset⟩ | ⟨_, hset⟩
  · rw [hset, Dict.get?_set] at hget
    split at hget
    case isTrue heq =>
      cases hget
      have hle := h current (heq ▸ hcurrent)
      simp only [PolicyStore.withState]
      omega
    case isFalse => exact h policy hget
  · rw [hset] at hget
    exact h policy hget

/-- An entry never lowers the floor of the store. -/
theorem OverGateway.store_floor (hM : OverGateway app M) {entry : Entry Answer GatewayState J R}
    (hvalid : M.Valid entry) {tenantId : String} {epoch : ℤ}
    (h : ∀ policy, entry.before.policies.get? tenantId = some policy → epoch ≤ policy.policyEpoch) :
    ∀ policy, entry.after.policies.get? tenantId = some policy → epoch ≤ policy.policyEpoch := by
  rcases hM.policy_cases hvalid with ⟨_, _, _, hpolicies, _⟩ | ⟨_, _, hpolicies, _⟩ |
    ⟨target, state, result, _, hset, _⟩ | ⟨_, hpolicies, _⟩
  · rwa [hpolicies]
  · rwa [hpolicies]
  · have hpolicies : entry.after.policies = (entry.before.policies.setState target state).2 :=
      congrArg Prod.snd hset
    rw [hpolicies]
    exact le_epoch_of_setState h
  · rwa [hpolicies]

theorem EpochFloor.step (hM : OverGateway app M) {entry : Entry Answer GatewayState J R}
    {tenantId : String} {epoch : ℤ} (h : EpochFloor tenantId epoch entry.before)
    (hvalid : M.Valid entry)
    (hcurrent : ∀ tenantId policy,
      entry.action = .did ⟨.snapshotWriteBack tenantId policy, ()⟩ →
      entry.before.policies.get? tenantId = some policy) :
    EpochFloor tenantId epoch entry.after := by
  refine ⟨hM.store_floor hvalid h.store, fun snapshot hget => ?_⟩
  rcases hM.policy_cases hvalid with ⟨target, policy, haction, _, hsnapshots⟩ |
    ⟨target, _, _, hsnapshots⟩ | ⟨_, _, _, _, _, hsnapshots⟩ | ⟨_, _, hsnapshots⟩
  · rw [hsnapshots, PolicySnapshots.get?_writeBack] at hget
    split at hget
    case isTrue heq =>
      cases hget
      exact h.store policy (heq ▸ hcurrent target policy haction)
    case isFalse => exact h.snapshot snapshot hget
  · rw [hsnapshots, PolicySnapshots.get?_invalidate] at hget
    split at hget
    · cases hget
    · exact h.snapshot snapshot hget
  · rw [hsnapshots] at hget
    exact h.snapshot snapshot hget
  · rw [hsnapshots] at hget
    exact h.snapshot snapshot hget

/-- A snapshot is never ahead of the store. -/
def SnapshotsBehind (s : GatewayState) : Prop :=
  ∀ tenantId snapshot policy, s.snapshots.get? tenantId = some snapshot →
    s.policies.get? tenantId = some policy → snapshot.policy.policyEpoch ≤ policy.policyEpoch

theorem SnapshotsBehind.step (hM : OverGateway app M) {entry : Entry Answer GatewayState J R}
    (h : SnapshotsBehind entry.before) (hvalid : M.Valid entry)
    (hcurrent : ∀ tenantId policy,
      entry.action = .did ⟨.snapshotWriteBack tenantId policy, ()⟩ →
      entry.before.policies.get? tenantId = some policy) :
    SnapshotsBehind entry.after := by
  intro tenantId snapshot policy hget hstored
  rcases hM.policy_cases hvalid with ⟨target, written, haction, hpolicies, hsnapshots⟩ |
    ⟨target, _, hpolicies, hsnapshots⟩ | ⟨target, state, _, _, hset, hsnapshots⟩ |
    ⟨_, hpolicies, hsnapshots⟩
  · rw [hpolicies] at hstored
    rw [hsnapshots, PolicySnapshots.get?_writeBack] at hget
    split at hget
    case isTrue heq =>
      cases hget
      have hsame := hcurrent target written haction
      rw [← heq, hstored, Option.some.injEq] at hsame
      exact (congrArg TenantPolicy.policyEpoch hsame).ge
    case isFalse => exact h tenantId snapshot policy hget hstored
  · rw [hpolicies] at hstored
    rw [hsnapshots, PolicySnapshots.get?_invalidate] at hget
    split at hget
    · cases hget
    · exact h tenantId snapshot policy hget hstored
  · have hpolicies : entry.after.policies = (entry.before.policies.setState target state).2 :=
      congrArg Prod.snd hset
    rw [hsnapshots] at hget
    rw [hpolicies] at hstored
    exact le_epoch_of_setState (fun policy => h tenantId snapshot policy hget) policy hstored
  · rw [hpolicies] at hstored
    rw [hsnapshots] at hget
    exact h tenantId snapshot policy hget hstored

/-- The floor of a run with current write-backs holds from where it is reached on. -/
theorem EpochFloor.run (hM : OverGateway app M) {s s' : GatewayState}
    {past between future : List (Entry Answer GatewayState J R)}
    {first entry : Entry Answer GatewayState J R} {tenantId : String} {epoch : ℤ}
    (h : EpochFloor tenantId epoch first.after)
    (hreplay : M.Replay s (past ++ first :: (between ++ entry :: future)) s')
    (hcurrent : WritesBackCurrent (past ++ first :: (between ++ entry :: future))) :
    EpochFloor tenantId epoch entry.before := by
  refine (hreplay.suffix.2.invariant (I := fun _ s => EpochFloor tenantId epoch s) h ?_ ?_).2
    between entry future rfl
  · intro past s s₀ hI hpasses
    rw [hM.passes_eq] at hpasses
    obtain ⟨now, _, rfl⟩ := hpasses
    exact ⟨hI.store, hI.snapshot⟩
  · intro earlier e later hsplit hI hvalid
    exact hI.step hM hvalid (hcurrent e (by rw [hsplit]; simp))

/-- The store's own floor needs no condition on the run. -/
theorem OverGateway.store_floor_run (hM : OverGateway app M) {s s' : GatewayState}
    {past between future : List (Entry Answer GatewayState J R)}
    {first entry : Entry Answer GatewayState J R} {tenantId : String} {epoch : ℤ}
    (h : ∀ policy, first.after.policies.get? tenantId = some policy → epoch ≤ policy.policyEpoch)
    (hreplay : M.Replay s (past ++ first :: (between ++ entry :: future)) s') :
    ∀ policy, entry.before.policies.get? tenantId = some policy → epoch ≤ policy.policyEpoch := by
  refine (hreplay.suffix.2.invariant (I := fun _ s => ∀ policy,
    s.policies.get? tenantId = some policy → epoch ≤ policy.policyEpoch) h ?_ ?_).2
    between entry future rfl
  · intro past s s₀ hI hpasses
    rw [hM.passes_eq] at hpasses
    obtain ⟨now, _, rfl⟩ := hpasses
    exact hI
  · intro earlier e later _ hI hvalid
    exact hM.store_floor hvalid hI

end Log

/-! ## Operations of preempted threads -/

/-- A log of operations on the store and its snapshot cache. -/
abbrev PolicyLog := List (Entry Answer GatewayState PolicyOp (Except Exn (Option TenantPolicy)))

/-- Once a change of state has been pushed, no later `get` returns an older policy. -/
def PushNeverLost (log : PolicyLog) : Prop :=
  ∀ past set₁ between push after begin during fin future tenantId state updated policy,
    log = past ++ set₁ :: (between ++ push :: (after ++ begin :: (during ++ fin :: future))) →
    set₁.action = .did ⟨.storeSetState tenantId state, .ok updated⟩ →
    push.action = .did ⟨.snapshotInvalidate tenantId, ()⟩ →
    begin.action = .start (.get tenantId) → fin.tid = begin.tid →
    fin.action = .finish (.ok (some policy)) → updated.policyEpoch ≤ policy.policyEpoch

/-- Once a `get` has returned, no later one returns an older policy. -/
def NeverBackwards (log : PolicyLog) : Prop :=
  ∀ past first during₁ fin₁ between second during₂ fin₂ future tenantId policy₁ policy₂,
    log = past ++ first :: (during₁ ++ fin₁ ::
      (between ++ second :: (during₂ ++ fin₂ :: future))) →
    first.action = .start (.get tenantId) → fin₁.tid = first.tid →
    fin₁.action = .finish (.ok (some policy₁)) →
    second.action = .start (.get tenantId) → fin₂.tid = second.tid →
    fin₂.action = .finish (.ok (some policy₂)) → policy₁.policyEpoch ≤ policy₂.policyEpoch

section Threads

variable {app : App} {s : GatewayState}
  {c : Config Answer GatewayState PolicyOp (Except Exn (Option TenantPolicy))}

/-- Between the start and the end of a `get` lie the entries of a hit, or those of
a fetch and its write-back. -/
theorem get_entries (h : (policyThreads app).Reachable s c)
    {past during future : PolicyLog}
    {begin fin : Entry Answer GatewayState PolicyOp (Except Exn (Option TenantPolicy))}
    {tenantId : String} {policy : TenantPolicy}
    (hlog : c.log = past ++ begin :: (during ++ fin :: future))
    (hbegin : begin.action = .start (.get tenantId)) (htid : fin.tid = begin.tid)
    (hfin : fin.action = .finish (.ok (some policy))) :
    (∃ hit ∈ during, hit.action = .did ⟨.snapshotLookup tenantId, some policy⟩) ∨
      ((∃ fetch ∈ during, fetch.action = .did ⟨.storeGet tenantId, .ok policy⟩) ∧
        ∃ write ∈ during, write.action = .did ⟨.snapshotWriteBack tenantId policy, ()⟩) := by
  have hnone : actionsOf fin.tid past = [] := by
    rw [htid]
    exact h.actionsOf_before_start hlog hbegin
  obtain ⟨job, trace, hactions, hexec⟩ :=
    h.actionsOf_before_finish
      (show c.log = (past ++ begin :: during) ++ fin :: future by simpa using hlog) hfin
  rw [actionsOf_append, hnone, List.nil_append, actionsOf_cons_self htid.symm, hbegin,
    List.cons.injEq] at hactions
  obtain ⟨hjob, hduring⟩ := hactions
  cases hjob
  have htrace : traceOf fin.tid during = trace := by
    rw [traceOf, hduring, filterMap_event?_did]
  have hmem : ∀ event ∈ trace, ∃ entry ∈ during, entry.action = .did event := by
    intro event hevent
    rw [← htrace] at hevent
    obtain ⟨entry, hentry, _, haction⟩ := mem_traceOf_iff.mp hevent
    exact ⟨entry, hentry, haction⟩
  rcases Fallible.exec_bind_iff.mp hexec with ⟨exn, _, hraised⟩ |
    ⟨first, second, found, rfl, hget, hpure⟩
  · cases hraised
  · obtain ⟨rfl, hfound⟩ := Fallible.exec_pure_iff.mp hpure
    cases hfound
    rcases snapshotGet_exec hget with rfl | rfl
    · exact .inl (hmem _ (by simp))
    · exact .inr ⟨hmem _ (by simp), hmem _ (by simp)⟩

/-- A `get` that runs above a floor returns something above it. -/
theorem EpochFloor.get (h : (policyThreads app).Reachable s c) (hcurrent : WritesBackCurrent c.log)
    {past during future : PolicyLog}
    {begin fin : Entry Answer GatewayState PolicyOp (Except Exn (Option TenantPolicy))}
    {tenantId : String} {policy : TenantPolicy} {epoch : ℤ}
    (hlog : c.log = past ++ begin :: (during ++ fin :: future))
    (hbegin : begin.action = .start (.get tenantId)) (htid : fin.tid = begin.tid)
    (hfin : fin.action = .finish (.ok (some policy)))
    (hfloor : EpochFloor tenantId epoch begin.after) : epoch ≤ policy.policyEpoch := by
  have hM := policyThreads_overGateway app
  have hreplay := h.replay
  rw [hlog] at hreplay hcurrent
  have habove : ∀ entry ∈ during, EpochFloor tenantId epoch entry.before := by
    intro entry hmem
    obtain ⟨before, after, rfl⟩ := List.append_of_mem hmem
    rw [List.append_assoc, List.cons_append] at hreplay hcurrent
    exact hfloor.run hM hreplay hcurrent
  have hvalid : ∀ entry ∈ during, (policyThreads app).Valid entry := fun entry hmem =>
    hreplay.valid (by simp [hmem])
  rcases get_entries h hlog hbegin htid hfin with ⟨hit, hmem, haction⟩ | ⟨⟨fetch, hmem, haction⟩, _⟩
  · have hanswers := hM.answers (hvalid hit hmem) haction
    have hlookup : some policy =
        hit.before.snapshots.lookup app.settings.policyCacheTtlS hit.before.now tenantId :=
      hanswers.1
    obtain ⟨snapshot, hget, rfl, _⟩ := PolicySnapshots.lookup_eq_some_iff.mp hlookup.symm
    exact (habove hit hmem).snapshot snapshot hget
  · have hanswers := hM.answers (hvalid fetch hmem) haction
    have hstored : Except.ok policy = fetch.before.policies.get tenantId := hanswers.1
    exact (habove fetch hmem).store policy (PolicyStore.get_eq_ok_iff.mp hstored.symm)

/-- The store's floor after a change is the epoch the change installed. -/
theorem store_floor_of_setState
    {entry : Entry Answer GatewayState PolicyOp (Except Exn (Option TenantPolicy))}
    (hvalid : (policyThreads app).Valid entry) {tenantId : String} {state : TenantState}
    {updated : TenantPolicy}
    (haction : entry.action = .did ⟨.storeSetState tenantId state, .ok updated⟩) :
    ∀ policy, entry.after.policies.get? tenantId = some policy →
      updated.policyEpoch ≤ policy.policyEpoch := by
  obtain ⟨hresult, hafter⟩ :=
    ((policyThreads_overGateway app).answers hvalid haction).storeSetState
  intro policy hget
  rcases entry.before.policies.setState_cases tenantId state with ⟨current, _, hset⟩ | ⟨_, hset⟩
  · rw [hset] at hresult
    rw [hafter, hset, Dict.get?_set_self, Option.some.injEq] at hget
    cases hresult
    rw [hget]
  · rw [hset] at hresult
    cases hresult

/-- The start of a thread leaves every floor where it is. -/
theorem EpochFloor.start
    {entry : Entry Answer GatewayState PolicyOp (Except Exn (Option TenantPolicy))}
    {tenantId : String} {epoch : ℤ} (h : EpochFloor tenantId epoch entry.before)
    (hvalid : (policyThreads app).Valid entry) {op : PolicyOp}
    (haction : entry.action = .start op) :
    EpochFloor tenantId epoch entry.after := by
  rwa [(policyThreads_overGateway app).after_eq hvalid (by simp [haction])]

/-- A returned `get` leaves behind a floor at the epoch it returned. -/
theorem EpochFloor.of_get (h : (policyThreads app).Reachable s c)
    (hinit : s.snapshots = Dict.empty) (hcurrent : WritesBackCurrent c.log)
    {past during future : PolicyLog}
    {begin fin : Entry Answer GatewayState PolicyOp (Except Exn (Option TenantPolicy))}
    {tenantId : String} {policy : TenantPolicy}
    (hlog : c.log = past ++ begin :: (during ++ fin :: future))
    (hbegin : begin.action = .start (.get tenantId)) (htid : fin.tid = begin.tid)
    (hfin : fin.action = .finish (.ok (some policy))) :
    EpochFloor tenantId policy.policyEpoch fin.before := by
  have hM := policyThreads_overGateway app
  have hreplay := h.replay
  have hbehind : ∀ past entry future, c.log = past ++ entry :: future →
      SnapshotsBehind entry.before := by
    refine (hreplay.invariant (I := fun _ s => SnapshotsBehind s) ?_ ?_ ?_).2
    · intro other snapshot policy hget
      rw [hinit] at hget
      cases hget
    · intro past s s₀ hI hpasses
      obtain ⟨now, _, rfl⟩ := hpasses
      exact hI
    · intro past entry future hsplit hI hvalid
      exact hI.step hM hvalid (hcurrent entry (by simp [hsplit]))
  -- The floor is reached where the policy was read off a snapshot, or where it was
  -- written back; from there it lasts.
  suffices hreached : ∃ entry ∈ during, EpochFloor tenantId policy.policyEpoch entry.after by
    obtain ⟨entry, hmem, hfloor⟩ := hreached
    obtain ⟨before, after, rfl⟩ := List.append_of_mem hmem
    have hsplit : c.log = (past ++ begin :: before) ++ entry :: (after ++ fin :: future) := by
      simpa using hlog
    rw [hsplit] at hreplay hcurrent
    exact hfloor.run hM hreplay hcurrent
  rcases get_entries h hlog hbegin htid hfin with ⟨hit, hmem, haction⟩ | ⟨_, write, hmem, haction⟩
  · refine ⟨hit, hmem, ?_⟩
    have hanswers := hM.answers (hreplay.valid (by simp [hlog, hmem])) haction
    have hlookup : some policy =
        hit.before.snapshots.lookup app.settings.policyCacheTtlS hit.before.now tenantId :=
      hanswers.1
    have hafter : hit.after = hit.before := hanswers.2
    obtain ⟨snapshot, hget, rfl, _⟩ := PolicySnapshots.lookup_eq_some_iff.mp hlookup.symm
    obtain ⟨before, after, hduring⟩ := List.append_of_mem hmem
    have hbelow := hbehind (past ++ begin :: before) hit (after ++ fin :: future)
      (by rw [hlog, hduring]; simp)
    rw [hafter]
    refine ⟨fun stored hstored => hbelow tenantId snapshot stored hget hstored,
      fun other hother => ?_⟩
    rw [hget, Option.some.injEq] at hother
    rw [hother]
  · refine ⟨write, hmem, ?_⟩
    have hanswers := hM.answers (hreplay.valid (by simp [hlog, hmem])) haction
    have hstored := hcurrent write (by simp [hlog, hmem]) tenantId policy haction
    have hafter : write.after = { write.before with
        snapshots := write.before.snapshots.writeBack write.before.now tenantId policy } :=
      hanswers.2
    rw [hafter]
    constructor
    · intro other hother
      rw [hstored, Option.some.injEq] at hother
      rw [hother]
    · intro snapshot hsnapshot
      rw [PolicySnapshots.get?_writeBack, if_pos rfl, Option.some.injEq] at hsnapshot
      rw [← hsnapshot]

theorem pushNeverLost_of_current (h : (policyThreads app).Reachable s c)
    (hcurrent : WritesBackCurrent c.log) : PushNeverLost c.log := by
  intro past set₁ between push after begin during fin future tenantId state updated policy hlog hset
    hpush hbegin htid hfin
  have hM := policyThreads_overGateway app
  have hreplay := h.replay
  have hvalid : ∀ entry ∈ c.log, (policyThreads app).Valid entry := fun entry hmem =>
    hreplay.valid hmem
  have hstore := store_floor_of_setState (hvalid set₁ (by simp [hlog])) hset
  have hpushed : EpochFloor tenantId updated.policyEpoch push.after := by
    have hbefore := hM.store_floor_run hstore (hlog ▸ hreplay)
    have hanswers := hM.answers (hvalid push (by simp [hlog])) hpush
    have hafter : push.after =
        { push.before with snapshots := push.before.snapshots.invalidate tenantId } := hanswers.2
    rw [hafter]
    refine ⟨hbefore, fun snapshot hget => ?_⟩
    rw [PolicySnapshots.get?_invalidate, if_pos rfl] at hget
    cases hget
  have hsplit : c.log = (past ++ set₁ :: between) ++ push ::
      (after ++ begin :: (during ++ fin :: future)) := by simpa using hlog
  have hfloor : EpochFloor tenantId updated.policyEpoch begin.before :=
    hpushed.run hM (hsplit ▸ hreplay) (hsplit ▸ hcurrent)
  have hbegun := hfloor.start (hvalid begin (by simp [hlog])) hbegin
  have hget : c.log = (past ++ set₁ :: (between ++ push :: after)) ++
      begin :: (during ++ fin :: future) := by simpa using hlog
  exact EpochFloor.get h hcurrent hget hbegin htid hfin hbegun

theorem neverBackwards_of_current (h : (policyThreads app).Reachable s c)
    (hinit : s.snapshots = Dict.empty) (hcurrent : WritesBackCurrent c.log) :
    NeverBackwards c.log := by
  intro past first during₁ fin₁ between second during₂ fin₂ future tenantId policy₁ policy₂ hlog
    hfirst htid₁ hfin₁ hsecond htid₂ hfin₂
  have hM := policyThreads_overGateway app
  have hreplay := h.replay
  have hvalid : ∀ entry ∈ c.log, (policyThreads app).Valid entry := fun entry hmem =>
    hreplay.valid hmem
  have hreturned := EpochFloor.of_get h hinit hcurrent hlog hfirst htid₁ hfin₁
  have hafter : EpochFloor tenantId policy₁.policyEpoch fin₁.after := by
    rwa [hM.after_eq (hvalid fin₁ (by simp [hlog])) (by simp [hfin₁])]
  have hsplit : c.log = (past ++ first :: during₁) ++ fin₁ ::
      (between ++ second :: (during₂ ++ fin₂ :: future)) := by simpa using hlog
  have hfloor : EpochFloor tenantId policy₁.policyEpoch second.before :=
    hafter.run hM (hsplit ▸ hreplay) (hsplit ▸ hcurrent)
  have hbegun := hfloor.start (hvalid second (by simp [hlog])) hsecond
  have hget : c.log = (past ++ first :: (during₁ ++ fin₁ :: between)) ++
      second :: (during₂ ++ fin₂ :: future) := by simpa using hlog
  exact EpochFloor.get h hcurrent hget hsecond htid₂ hfin₂ hbegun

end Threads

/-- The lease bounds the staleness of every hit in every run whose write-backs are
current. -/
theorem policyThreads_leaseBounded {app : App} {now : ℚ} {policies : PolicyStore}
    {c : Config Answer GatewayState PolicyOp (Except Exn (Option TenantPolicy))}
    (h : (policyThreads app).Reachable (.fresh now policies) c)
    (hcurrent : WritesBackCurrent c.log) :
    LeaseBounded app.settings.policyCacheTtlS c.log :=
  leaseBounded_of_current (policyThreads_overGateway app) h.replay rfl hcurrent

/-- Pushes are never lost and epochs never go back in every run whose write-backs
are current. -/
theorem policyThreads_forward {app : App} {now : ℚ} {policies : PolicyStore}
    {c : Config Answer GatewayState PolicyOp (Except Exn (Option TenantPolicy))}
    (h : (policyThreads app).Reachable (.fresh now policies) c)
    (hcurrent : WritesBackCurrent c.log) : PushNeverLost c.log ∧ NeverBackwards c.log :=
  ⟨pushNeverLost_of_current h hcurrent, neverBackwards_of_current h rfl hcurrent⟩

/-! ## A fetch in time -/

/-- The policy an entry writes back. -/
def writeBackOf {J R : Type} (entry : Entry Answer GatewayState J R) :
    Option (String × TenantPolicy) :=
  match entry.action with
  | .did ⟨.snapshotWriteBack tenantId policy, _⟩ => some (tenantId, policy)
  | _ => none

theorem writesBackCurrent_of_writeBackOf {J R : Type} {log : List (Entry Answer GatewayState J R)}
    (h : ∀ entry ∈ log, ∀ written ∈ writeBackOf entry,
      entry.before.policies.get? written.1 = some written.2) : WritesBackCurrent log := by
  intro entry hmem tenantId policy haction
  exact h entry hmem (tenantId, policy) (by simp [writeBackOf, haction])

/-- A fetches and writes back at once. B hits, the tenant is suspended, the change
is pushed, and C fetches the suspended policy. -/
def promptFetch : Config Answer GatewayState PolicyOp (Except Exn (Option TenantPolicy)) :=
  (policyThreadsDriver App.plain).play (Machine.initial (.fresh 0 oneTenant)) [
    { tid := 0, job := some (.get "t"), oracle := failingWorld },
    { tid := 0, oracle := failingWorld },
    { tid := 0, oracle := failingWorld },
    { tid := 0, oracle := failingWorld },
    { tid := 1, job := some (.get "t"), oracle := failingWorld },
    { tid := 1, delay := 20, oracle := failingWorld },
    { tid := 2, job := some (.setState "t" .suspended), oracle := failingWorld },
    { tid := 2, oracle := failingWorld },
    { tid := 3, job := some (.invalidate "t"), oracle := failingWorld },
    { tid := 3, oracle := failingWorld },
    { tid := 4, job := some (.get "t"), oracle := failingWorld },
    { tid := 4, oracle := failingWorld },
    { tid := 4, oracle := failingWorld },
    { tid := 4, oracle := failingWorld }]

theorem promptFetch_reachable :
    (policyThreads App.plain).Reachable (.fresh 0 oneTenant) promptFetch :=
  Driver.play_reachable ..

theorem promptFetch_current : WritesBackCurrent promptFetch.log :=
  writesBackCurrent_of_writeBackOf (by decide +kernel)

/-- The lease holds in the run of prompt fetches. -/
theorem policyThreads_leaseBounded_promptFetch :
    WritesBackCurrent promptFetch.log ∧
      LeaseBounded App.plain.settings.policyCacheTtlS promptFetch.log :=
  ⟨promptFetch_current, policyThreads_leaseBounded promptFetch_reachable promptFetch_current⟩

/-- Nothing goes back in the run of prompt fetches. -/
theorem policyThreads_forward_promptFetch :
    WritesBackCurrent promptFetch.log ∧
      PushNeverLost promptFetch.log ∧ NeverBackwards promptFetch.log :=
  ⟨promptFetch_current, policyThreads_forward promptFetch_reachable promptFetch_current⟩

/-! ## A slow fetch -/

/-- The tenant and policy of a lookup that hits. -/
def hitOf {J R : Type} (entry : Entry Answer GatewayState J R) : Option (String × TenantPolicy) :=
  match entry.action with
  | .did ⟨.snapshotLookup tenantId, some policy⟩ => some (tenantId, policy)
  | _ => none

theorem action_of_hitOf {J R : Type} {entry : Entry Answer GatewayState J R} {tenantId : String}
    {policy : TenantPolicy} (h : hitOf entry = some (tenantId, policy)) :
    entry.action = .did ⟨.snapshotLookup tenantId, some policy⟩ := by
  unfold hitOf at h
  split at h
  · rename_i haction
    cases h
    exact haction
  · cases h

/-- The policy a finished `get` returned. -/
def returnedBy (entry : Entry Answer GatewayState PolicyOp (Except Exn (Option TenantPolicy))) :
    Option TenantPolicy :=
  match entry.action with
  | .finish (.ok policy) => policy
  | _ => none

theorem action_of_returnedBy
    {entry : Entry Answer GatewayState PolicyOp (Except Exn (Option TenantPolicy))}
    {policy : TenantPolicy} (h : returnedBy entry = some policy) :
    entry.action = .finish (.ok (some policy)) := by
  unfold returnedBy at h
  split at h
  · rename_i haction
    rw [haction, h]
  · cases h

/-- A fetches and is held up. The tenant is suspended, the change is pushed, and B
gets the suspended policy. Then A writes back what it fetched, and C gets that. -/
def slowFetch : Config Answer GatewayState PolicyOp (Except Exn (Option TenantPolicy)) :=
  (policyThreadsDriver App.plain).play (Machine.initial (.fresh 0 oneTenant)) [
    { tid := 0, job := some (.get "t"), oracle := failingWorld },
    { tid := 0, oracle := failingWorld },
    { tid := 0, oracle := failingWorld },
    { tid := 1, job := some (.setState "t" .suspended), oracle := failingWorld },
    { tid := 1, delay := 1, oracle := failingWorld },
    { tid := 2, job := some (.invalidate "t"), oracle := failingWorld },
    { tid := 2, oracle := failingWorld },
    { tid := 3, job := some (.get "t"), oracle := failingWorld },
    { tid := 3, oracle := failingWorld },
    { tid := 3, oracle := failingWorld },
    { tid := 3, oracle := failingWorld },
    { tid := 0, delay := 100, oracle := failingWorld },
    { tid := 4, job := some (.get "t"), oracle := failingWorld },
    { tid := 4, oracle := failingWorld }]

theorem slowFetch_reachable :
    (policyThreads App.plain).Reachable (.fresh 0 oneTenant) slowFetch :=
  Driver.play_reachable ..

theorem slowFetch_length : 18 < slowFetch.log.length := by decide +kernel

theorem slowFetch_hit : 17 < slowFetch.log.length := Nat.lt_trans (by omega) slowFetch_length

/-- C hits a policy that had been replaced a hundred seconds before, under a lease
of thirty. -/
theorem slow_fetch_outlives_lease :
    ∃ c, (policyThreads App.plain).Reachable (.fresh 0 oneTenant) c ∧
      ¬ LeaseBounded App.plain.settings.policyCacheTtlS c.log := by
  refine ⟨slowFetch, slowFetch_reachable, fun h => ?_⟩
  have hhit : hitOf (slowFetch.log.get ⟨17, slowFetch_hit⟩) = some ("t", { tenantId := "t" }) := by
    decide +kernel
  obtain ⟨entry, hmem, hheld, hle⟩ :=
    h _ _ _ _ _ (eq_take_append_one slowFetch_hit) (action_of_hitOf hhit)
  have hstale : ∀ entry ∈ slowFetch.log.take 17 ++ [slowFetch.log[17]],
      entry.before.policies.get? "t" = some { tenantId := "t" } →
      entry.before.now < slowFetch.log[17].before.now - App.plain.settings.policyCacheTtlS := by
    decide +kernel
  exact absurd hle (not_le.mpr (hstale entry hmem hheld))

/-- C is returned the policy the push had replaced, and B had been returned its
successor. -/
theorem slow_fetch_overtakes_push :
    ∃ c, (policyThreads App.plain).Reachable (.fresh 0 oneTenant) c ∧
      ¬ PushNeverLost c.log ∧ ¬ NeverBackwards c.log := by
  have hreturned : returnedBy (slowFetch.log.get ⟨18, slowFetch_length⟩) =
      some { tenantId := "t" } := by decide +kernel
  refine ⟨slowFetch, slowFetch_reachable, fun h => ?_, fun h => ?_⟩
  · have hle := h _ _ _ _ _ _ _ _ _ "t" .suspended
      { tenantId := "t", state := .suspended, policyEpoch := 2 } { tenantId := "t" }
      (eq_take_append_four (i := 4) (j := 7) (k := 16) (m := 18) (by omega) (by omega) (by omega)
        slowFetch_length)
      rfl rfl rfl (by decide +kernel) (action_of_returnedBy hreturned)
    simp at hle
  · have hearlier : returnedBy slowFetch.log[13] =
        some { tenantId := "t", state := .suspended, policyEpoch := 2 } := by decide +kernel
    have hle := h _ _ _ _ _ _ _ _ _ "t" _ _
      (eq_take_append_four (i := 9) (j := 13) (k := 16) (m := 18) (by omega) (by omega) (by omega)
        slowFetch_length)
      rfl (by decide +kernel) (action_of_returnedBy hearlier) rfl (by decide +kernel)
      (action_of_returnedBy hreturned)
    simp at hle

end BedrockGateway
