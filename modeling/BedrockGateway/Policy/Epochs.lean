/-
# One policy for each epoch

Every change of a tenant's state raises its epoch, so whatever was seen of the
tenant's policy at two instants of a run is the same policy if the epochs agree,
and a different one if a change came in between.
-/

import BedrockGateway.Policy.SnapshotRaces

namespace BedrockGateway

open Foundation

section Log

variable {J R : Type} {app : App} {M : Machine Query Answer GatewayState J R}
  {s s' : GatewayState} {tenantId : String} {policy : TenantPolicy}

/-- The tenant's policy is still this one, or has been replaced by a later one. -/
def KeptOrNewer (tenantId : String) (policy : TenantPolicy) (store : PolicyStore) : Prop :=
  ∀ current, store.get? tenantId = some current →
    current = policy ∨ policy.policyEpoch < current.policyEpoch

theorem KeptOrNewer.setState {store : PolicyStore} (h : KeptOrNewer tenantId policy store)
    (target : String) (state : TenantState) :
    KeptOrNewer tenantId policy (store.setState target state).2 := by
  intro found hget
  rcases store.setState_cases target state with ⟨current, hcurrent, hset⟩ | ⟨_, hset⟩
  · rw [hset, Dict.get?_set] at hget
    split at hget
    case isTrue heq =>
      cases hget
      right
      simp only [PolicyStore.withState]
      rcases h current (heq ▸ hcurrent) with rfl | hlt
      · exact Int.lt_succ _
      · omega
    case isFalse => exact h found hget
  · rw [hset] at hget
    exact h found hget

/-- **The step.** -/
theorem KeptOrNewer.step (hM : OverGateway app M) {entry : Entry Answer GatewayState J R}
    (h : KeptOrNewer tenantId policy entry.before.policies) (hvalid : M.Valid entry) :
    KeptOrNewer tenantId policy entry.after.policies := by
  rcases hM.policy_cases hvalid with ⟨_, _, _, hpolicies, _⟩ | ⟨_, _, hpolicies, _⟩ |
    ⟨target, state, result, _, hset, _⟩ | ⟨_, hpolicies, _⟩
  · rwa [hpolicies]
  · rwa [hpolicies]
  · have hpolicies : entry.after.policies = (entry.before.policies.setState target state).2 :=
      congrArg Prod.snd hset
    rw [hpolicies]
    exact h.setState target state
  · rwa [hpolicies]

/-- **The run.** -/
theorem OverGateway.keptOrNewer (hM : OverGateway app M)
    {past between future : List (Entry Answer GatewayState J R)}
    {first entry : Entry Answer GatewayState J R}
    (hreplay : M.Replay s (past ++ first :: (between ++ entry :: future)) s')
    (hget : first.before.policies.get? tenantId = some policy) :
    KeptOrNewer tenantId policy entry.before.policies := by
  have hfirst : KeptOrNewer tenantId policy first.before.policies := by
    intro current hcurrent
    exact .inl (Option.some.inj (hcurrent.symm.trans hget))
  obtain ⟨hvalid, hrest⟩ := hreplay.suffix
  apply (hrest.invariant (I := fun _ s => KeptOrNewer tenantId policy s.policies)
    (hfirst.step hM hvalid) _ _).2 between entry future rfl
  · intro past s s₀ hI hpasses
    rw [hM.passes_eq] at hpasses
    obtain ⟨now, _, rfl⟩ := hpasses
    exact hI
  · intro earlier e later _ hI hvalid
    exact hI.step hM hvalid

/-- **One policy for each epoch.** -/
theorem OverGateway.policy_of_epoch (hM : OverGateway app M)
    {log : List (Entry Answer GatewayState J R)} (hreplay : M.Replay s log s')
    {first second : Entry Answer GatewayState J R} {other : TenantPolicy}
    (hfirst : first ∈ log) (hsecond : second ∈ log)
    (hget : first.before.policies.get? tenantId = some policy)
    (hget' : second.before.policies.get? tenantId = some other)
    (hepoch : policy.policyEpoch = other.policyEpoch) : policy = other := by
  obtain ⟨past, future, rfl⟩ := List.append_of_mem hfirst
  rcases List.mem_append.mp hsecond with hpast | hrest
  · obtain ⟨earlier, between, rfl⟩ := List.append_of_mem hpast
    rw [List.append_assoc, List.cons_append] at hreplay
    rcases hM.keptOrNewer hreplay hget' policy hget with rfl | hlt
    · rfl
    · exact absurd hepoch hlt.ne'
  · rcases List.mem_cons.mp hrest with rfl | hfuture
    · exact Option.some.inj (hget.symm.trans hget')
    · obtain ⟨between, later, rfl⟩ := List.append_of_mem hfuture
      rcases hM.keptOrNewer hreplay hget other hget' with rfl | hlt
      · rfl
      · exact absurd hepoch hlt.ne

/-- A successful change installs a policy of a higher epoch than the one it finds. -/
theorem OverGateway.change (hM : OverGateway app M) {change : Entry Answer GatewayState J R}
    {state : TenantState} {updated : TenantPolicy} (hvalid : M.Valid change)
    (haction : change.action = .did ⟨.storeSetState tenantId state, .ok updated⟩) :
    ∃ current, change.before.policies.get? tenantId = some current ∧
      change.after.policies.get? tenantId = some updated ∧
      current.policyEpoch < updated.policyEpoch := by
  obtain ⟨hresult, hafter⟩ := (hM.answers hvalid haction).storeSetState
  rcases change.before.policies.setState_cases tenantId state with
    ⟨current, hcurrent, hset⟩ | ⟨_, hset⟩
  · rw [hset] at hresult
    cases hresult
    refine ⟨current, hcurrent, ?_, Int.lt_succ _⟩
    rw [hafter, hset]
    exact Dict.get?_set_self ..
  · rw [hset] at hresult
    cases hresult

/-- **A change separates the policies before it from those after it.** -/
theorem OverGateway.epoch_lt_of_change (hM : OverGateway app M)
    {past between after future : List (Entry Answer GatewayState J R)}
    {first change second : Entry Answer GatewayState J R} {state : TenantState}
    {updated other : TenantPolicy}
    (hreplay : M.Replay s
      (past ++ first :: (between ++ change :: (after ++ second :: future))) s')
    (hget : first.before.policies.get? tenantId = some policy)
    (haction : change.action = .did ⟨.storeSetState tenantId state, .ok updated⟩)
    (hget' : second.before.policies.get? tenantId = some other) :
    policy.policyEpoch < other.policyEpoch := by
  have hsuffix : M.Replay first.after (between ++ change :: (after ++ second :: future)) s' :=
    hreplay.suffix.2
  obtain ⟨current, hcurrent, hupdated, hlt⟩ := hM.change hsuffix.suffix.1 haction
  have hcurrentEpoch : policy.policyEpoch ≤ current.policyEpoch := by
    rcases hM.keptOrNewer hreplay hget current hcurrent with rfl | hlt
    · exact le_rfl
    · exact hlt.le
  have hfloor : ∀ found, change.after.policies.get? tenantId = some found →
      updated.policyEpoch ≤ found.policyEpoch := by
    intro found hfound
    exact (congrArg TenantPolicy.policyEpoch (Option.some.inj (hupdated.symm.trans hfound))).le
  have hother := hM.store_floor_run hfloor hsuffix other hget'
  exact (hcurrentEpoch.trans_lt hlt).trans_le hother

end Log

end BedrockGateway
