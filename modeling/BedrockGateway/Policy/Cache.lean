/-
# The policy snapshot cache

A snapshot is a policy together with the instant at which it was written back.
The cache is only ever touched in three critical sections: a lookup, which
answers while the snapshot is younger than the lease; the write-back of a
fetched policy, which stamps it; and the eviction of one tenant's snapshot.
-/

import BedrockGateway.Policy.Models

namespace BedrockGateway

open Foundation

/-- `_Snapshot` -/
structure Snapshot where
  policy : TenantPolicy
  cachedAt : ℚ
  deriving DecidableEq

/-- `PolicySnapshotCache._snapshots` -/
abbrev PolicySnapshots := Dict String Snapshot

namespace PolicySnapshots

/-- The locked lookup at the start of `PolicySnapshotCache.get`. -/
def lookup (snapshots : PolicySnapshots) (ttlS now : ℚ) (tenantId : String) :
    Option TenantPolicy :=
  match snapshots.get? tenantId with
  | some snapshot => if now - snapshot.cachedAt < ttlS then some snapshot.policy else none
  | none => none

/-- The locked write-back at the end of `PolicySnapshotCache.get`. -/
def writeBack (snapshots : PolicySnapshots) (now : ℚ) (tenantId : String)
    (policy : TenantPolicy) : PolicySnapshots :=
  snapshots.set tenantId ⟨policy, now⟩

/-- `PolicySnapshotCache.invalidate` -/
def invalidate (snapshots : PolicySnapshots) (tenantId : String) : PolicySnapshots :=
  snapshots.erase tenantId

/-- A hit reads a stored snapshot that is younger than the lease. -/
theorem lookup_eq_some_iff {snapshots : PolicySnapshots} {ttlS now : ℚ} {tenantId : String}
    {policy : TenantPolicy} :
    snapshots.lookup ttlS now tenantId = some policy ↔
      ∃ snapshot, snapshots.get? tenantId = some snapshot ∧ snapshot.policy = policy ∧
        now - snapshot.cachedAt < ttlS := by
  unfold lookup
  cases snapshots.get? tenantId with
  | none => simp
  | some snapshot =>
      by_cases h : now - snapshot.cachedAt < ttlS
      · simp [h]
      · simp [h]

@[simp]
theorem get?_writeBack (snapshots : PolicySnapshots) (now : ℚ) (tenantId other : String)
    (policy : TenantPolicy) :
    (snapshots.writeBack now tenantId policy).get? other =
      if other = tenantId then some ⟨policy, now⟩ else snapshots.get? other :=
  Dict.get?_set ..

@[simp]
theorem get?_invalidate (snapshots : PolicySnapshots) (tenantId other : String) :
    (snapshots.invalidate tenantId).get? other =
      if other = tenantId then none else snapshots.get? other :=
  Dict.get?_erase ..

end PolicySnapshots

end BedrockGateway
