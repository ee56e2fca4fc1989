/-
# How often the store is asked for a policy

A snapshot spares the store for as long as its lease runs, and only an eviction cuts
a lease short. Under the event loop nothing comes between a lookup that misses and
the write-back that ends it, so each lease is paid for once: in a run of any number
of requests a tenant's snapshot is written back at most once at the start, once for
every lease the run has time for, and once for every eviction.
-/

import BedrockGateway.Api.Stretches
import Mathlib.Algebra.Order.Ring.Unbundled.Rat
import Mathlib.Tactic.Linarith

namespace BedrockGateway

open Foundation Py

section Counting

variable {J R : Type} {app : App} {M : Machine Query Answer GatewayState J R}

/-- The entry writes the tenant's snapshot back. -/
def writesBack (tenantId : String) (entry : Entry Answer GatewayState J R) : Bool :=
  match entry.action with
  | .did ⟨.snapshotWriteBack target _, _⟩ => target = tenantId
  | _ => false

/-- The entry evicts the tenant's snapshot. -/
def evicts (tenantId : String) (entry : Entry Answer GatewayState J R) : Bool :=
  match entry.action with
  | .did ⟨.snapshotInvalidate target, _⟩ => target = tenantId
  | _ => false

/-- A snapshot is written back only where the cache has none that is within its lease. -/
def OnlyWhenDue (ttlS : ℚ) (s : GatewayState) (event : Event Answer) (_ : GatewayState) : Prop :=
  match event.query with
  | .snapshotWriteBack tenantId _ => s.snapshots.lookup ttlS s.now tenantId = none
  | _ => True

/-- What an entry does to the tenant's snapshot. -/
private theorem snapshot_cases (hM : OverGateway app M) {entry : Entry Answer GatewayState J R}
    (hvalid : M.Valid entry) (tenantId : String) :
    (∃ policy, entry.action = .did ⟨.snapshotWriteBack tenantId policy, ()⟩ ∧
      entry.after.snapshots.get? tenantId = some ⟨policy, entry.before.now⟩ ∧
      writesBack tenantId entry = true ∧ evicts tenantId entry = false) ∨
    (entry.after.snapshots.get? tenantId = none ∧
      writesBack tenantId entry = false ∧ evicts tenantId entry = true) ∨
    (entry.after.snapshots.get? tenantId = entry.before.snapshots.get? tenantId ∧
      writesBack tenantId entry = false ∧ evicts tenantId entry = false) := by
  rcases hM.policy_cases hvalid with ⟨target, policy, haction, _, hafter⟩ |
    ⟨target, haction, _, hafter⟩ | ⟨target, state, result, haction, _, hafter⟩ | ⟨hnone, _, hafter⟩
  · by_cases htarget : target = tenantId
    · subst htarget
      exact .inl ⟨policy, haction, by simp [hafter], by simp [writesBack, haction],
        by simp [evicts, haction]⟩
    · exact .inr (.inr ⟨by simp [hafter, Ne.symm htarget], by simp [writesBack, haction, htarget],
        by simp [evicts, haction]⟩)
  · by_cases htarget : target = tenantId
    · subst htarget
      exact .inr (.inl ⟨by simp [hafter], by simp [writesBack, haction], by simp [evicts, haction]⟩)
    · exact .inr (.inr ⟨by simp [hafter, Ne.symm htarget], by simp [writesBack, haction],
        by simp [evicts, haction, htarget]⟩)
  · exact .inr (.inr ⟨by rw [hafter], by simp [writesBack, haction], by simp [evicts, haction]⟩)
  · refine .inr (.inr ⟨by rw [hafter], ?_, ?_⟩)
    · unfold writesBack
      split
      · exact absurd (hnone _ ‹_›) (by simp [Query.changesPolicies])
      · rfl
    · unfold evicts
      split
      · exact absurd (hnone _ ‹_›) (by simp [Query.changesPolicies])
      · rfl

/-- The instant up to which the leases are paid for, less one lease: when the snapshot was
cached, or, where there is none, one lease ago. -/
def paidUntil (ttlS : ℚ) (tenantId : String) (s : GatewayState) : ℚ :=
  match s.snapshots.get? tenantId with
  | some snapshot => snapshot.cachedAt
  | none => s.now - ttlS

/-- The invariant: the leases that were written back fit into the time that is paid for,
with one to start with and one more for every eviction. -/
structure Leased (ttlS start : ℚ) (tenantId : String)
    (past : List (Entry Answer GatewayState J R)) (s : GatewayState) : Prop where
  cached : ∀ snapshot, s.snapshots.get? tenantId = some snapshot → snapshot.cachedAt ≤ s.now
  paid : (past.countP (writesBack tenantId) : ℚ) * ttlS ≤
    paidUntil ttlS tenantId s - start + (1 + past.countP (evicts tenantId)) * ttlS

variable {ttlS start : ℚ} {tenantId : String} {past : List (Entry Answer GatewayState J R)}
variable {s s' : GatewayState}

/-- What is paid for lies in the past. -/
private theorem Leased.paidUntil_le (h : Leased ttlS start tenantId past s) (httl : 0 ≤ ttlS) :
    paidUntil ttlS tenantId s ≤ s.now := by
  unfold paidUntil
  split
  · exact h.cached _ ‹_›
  · exact sub_le_self _ httl

/-- Time passes. -/
private theorem Leased.elapses (h : Leased ttlS start tenantId past s) (htime : Elapses s s') :
    Leased ttlS start tenantId past s' := by
  obtain ⟨now, hnow, rfl⟩ := htime
  refine ⟨fun snapshot hget => (h.cached snapshot hget).trans hnow, h.paid.trans ?_⟩
  have hpaid : paidUntil ttlS tenantId s ≤ paidUntil ttlS tenantId { s with now := now } := by
    unfold paidUntil
    split <;> simp_all
  linarith

/-- One entry. -/
private theorem Leased.step (hM : OverGateway app M) (httl : 0 ≤ ttlS)
    {entry : Entry Answer GatewayState J R} (h : Leased ttlS start tenantId past entry.before)
    (hvalid : M.Valid entry) (hdue : ∀ event, entry.action = .did event →
      OnlyWhenDue ttlS entry.before event entry.after) :
    Leased ttlS start tenantId (past ++ [entry]) entry.after := by
  have hnow := hM.after_now hvalid
  have hbefore := h.paidUntil_le httl
  have hpaid := h.paid
  rcases snapshot_cases hM hvalid tenantId with ⟨policy, haction, hafter, hwrites, hevicts⟩ |
    ⟨hafter, hwrites, hevicts⟩ | ⟨hafter, hwrites, hevicts⟩
  · refine ⟨fun snapshot hget => ?_, ?_⟩
    · rw [hafter] at hget
      cases hget
      exact hnow.ge
    · -- The lease before has run out, or there was none.
      have hmissed : entry.before.snapshots.lookup ttlS entry.before.now tenantId = none :=
        hdue _ haction
      have hlease : paidUntil ttlS tenantId entry.before + ttlS ≤ entry.before.now := by
        unfold paidUntil
        cases hget : entry.before.snapshots.get? tenantId with
        | none => simp
        | some snapshot =>
            have hold : ¬ entry.before.now - snapshot.cachedAt < ttlS := fun hyoung =>
              absurd (PolicySnapshots.lookup_eq_some_iff.mpr ⟨snapshot, hget, rfl, hyoung⟩)
                (by simp [hmissed])
            dsimp only
            linarith
      have hend : paidUntil ttlS tenantId entry.after = entry.before.now := by
        simp [paidUntil, hafter]
      rw [hend]
      simp only [List.countP_append, List.countP_singleton, hwrites, hevicts]
      push_cast
      linarith
  · refine ⟨fun snapshot hget => by simp [hafter] at hget, ?_⟩
    have hend : paidUntil ttlS tenantId entry.after = entry.before.now - ttlS := by
      simp [paidUntil, hafter, hnow]
    rw [hend]
    simp only [List.countP_append, List.countP_singleton, hwrites, hevicts]
    push_cast
    linarith
  · refine ⟨fun snapshot hget => hnow ▸ h.cached snapshot (hafter ▸ hget), ?_⟩
    have hend : paidUntil ttlS tenantId entry.after = paidUntil ttlS tenantId entry.before := by
      simp [paidUntil, hafter, hnow]
    rw [hend]
    simpa only [List.countP_append, List.countP_singleton, hwrites, hevicts, Bool.false_eq_true,
      if_false, Nat.add_zero] using hpaid

end Counting

theorem onlyWhenDue_stagewise (app : App) :
    Stagewise app (fun _ => True) (OnlyWhenDue app.settings.policyCacheTtlS) fun _ _ => True where
  elapses _ _ _ _ := trivial
  quiet s q answer s' hq _ _ := ⟨by cases q <;> trivial, trivial⟩
  stored _ _ _ _ _ := trivial
  cached _ _ _ _ _ := trivial
  writeBack _ _ _ _ hmissed _ := ⟨hmissed, trivial⟩
  take _ _ _ _ _ _ _ _ _ _ _ := ⟨trivial, trivial⟩
  unknown _ _ _ _ _ := trivial
  change _ _ _ _ _ _ _ _ := ⟨trivial, trivial, trivial⟩

/-- **Each lease is paid for once.** In every run of a freshly started event loop, however
many requests it serves: the leases a tenant's snapshot was written back for fit into the
duration of the run, but for one at the start and one for every eviction. -/
theorem refreshes_bounded {app : App} {c : Process} {now : ℚ} {policies : PolicyStore}
    (h : (eventLoop app).Reachable (.fresh now policies) c)
    (httl : 0 ≤ app.settings.policyCacheTtlS) (tenantId : String) :
    (c.log.countP (writesBack tenantId) : ℚ) * app.settings.policyCacheTtlS ≤
      c.state.now - now +
        (1 + c.log.countP (evicts tenantId)) * app.settings.policyCacheTtlS := by
  have hdue := ((onlyWhenDue_stagewise app).reachable h trivial).2
  have hleased : Leased app.settings.policyCacheTtlS now tenantId c.log c.state := by
    refine (h.replay.invariant (I := Leased app.settings.policyCacheTtlS now tenantId) ⟨?_, ?_⟩
      (fun past s s₀ hs htime => hs.elapses htime)
      fun past entry future hlog hs hvalid => hs.step (eventLoop_overGateway app) httl hvalid
        (hdue entry (by simp [hlog]))).1
    · intro snapshot hget
      simp [GatewayState.fresh] at hget
    · simp [paidUntil, GatewayState.fresh]
  have hend := hleased.paidUntil_le httl
  have hpaid := hleased.paid
  linarith

/-- A request, an admin request, and two more requests within a lease. -/
def changedOnce : Process :=
  let chatting := servingWorld helloBody
  let throttling := servingWorld (stateBody .throttled)
  (eventLoopDriver App.plain).play (Machine.initial (.fresh 0 oneTenant)) [
    { tid := 0, job := some (.chat operatorRequest), oracle := chatting },
    { tid := 1, job := some (.setTenantState operatorRequest "t"), oracle := throttling },
    { tid := 1, oracle := throttling },
    { tid := 2, job := some (.chat operatorRequest), oracle := chatting },
    { tid := 3, job := some (.chat operatorRequest), oracle := chatting, delay := 20 }]

/-- The snapshot is written back twice: at the start, and for the eviction. -/
theorem refreshes_bounded_changedOnce :
    changedOnce.log.countP (writesBack "t") = 2 ∧ changedOnce.log.countP (evicts "t") = 1 ∧
      (changedOnce.log.countP (writesBack "t") : ℚ) * 30 ≤
        changedOnce.state.now - 0 + (1 + changedOnce.log.countP (evicts "t")) * 30 := by
  have hreach : (eventLoop App.plain).Reachable (.fresh 0 oneTenant) changedOnce :=
    Driver.play_reachable ..
  have httl : (0 : ℚ) ≤ App.plain.settings.policyCacheTtlS := by decide +kernel
  have hbound := refreshes_bounded hreach httl "t"
  exact ⟨by decide +kernel, by decide +kernel, hbound⟩

end BedrockGateway
