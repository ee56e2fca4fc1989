/-
# The tables that requests cannot grow

The store is only ever written where a policy already is, a snapshot is kept for a
stored policy only, and a bucket for a tenant whose policy was resolved. So whoever
sends requests, under whatever tenant ids: the tables of the policies, the snapshots
and the buckets have no more rows than tenants were loaded, and the cache of
responses keeps its own bound. The breakers and the debug captures are not bounded so.
-/

import BedrockGateway.Api.Stretches
import BedrockGateway.Cache.Origin
import BedrockGateway.Cache.Recency
import Mathlib.Data.List.Perm.Subperm

namespace BedrockGateway

open Foundation Py

/-- A policy under its own id, which is one of the keys. -/
def KeyedIn (keys : List String) (key : String) (policy : TenantPolicy) : Prop :=
  policy.tenantId = key ∧ key ∈ keys

/-- The invariant of the tables of tenants. -/
structure Tabled (keys : List String) (s : GatewayState) : Prop where
  policies : s.policies.keys = keys
  stored : ∀ key policy, s.policies.get? key = some policy → KeyedIn keys key policy
  cached : ∀ key snapshot, s.snapshots.get? key = some snapshot → KeyedIn keys key snapshot.policy
  buckets : s.buckets.keys ⊆ keys

/-- A write under one of these keys adds no other. -/
theorem keys_set_subset {ν : Type} {d : Dict String ν} {keys : List String} {key : String}
    (h : d.keys ⊆ keys) (hkey : key ∈ keys) (value : ν) : (d.set key value).keys ⊆ keys := by
  intro other hmem
  obtain ⟨found, hget⟩ := Dict.mem_keys_iff.mp hmem
  rw [Dict.get?_set] at hget
  split at hget
  case isTrue heq => exact heq ▸ hkey
  case isFalse => exact h (Dict.mem_keys_iff.mpr ⟨found, hget⟩)

theorem keys_take_subset {buckets : Buckets} {keys : List String} {tenantId : String}
    (h : buckets.keys ⊆ keys) (hkey : tenantId ∈ keys) (rpmLimit : ℤ) (now : ℚ) :
    (buckets.take tenantId rpmLimit now).2.keys ⊆ keys := by
  unfold Buckets.take
  dsimp only
  split <;> exact keys_set_subset h hkey _

theorem tabled_stagewise (app : App) (keys : List String) :
    Stagewise app (Tabled keys) (fun _ _ _ => True) (KeyedIn keys) where
  elapses s s' hs htime := by
    obtain ⟨now, _, rfl⟩ := htime
    exact ⟨hs.policies, hs.stored, hs.cached, hs.buckets⟩
  quiet s q answer s' hq hs answered := by
    obtain ⟨hpolicies, hsnapshots, hbuckets⟩ := answered.decisive_frame hq
    exact ⟨trivial, hpolicies ▸ hs.policies, hpolicies ▸ hs.stored, hsnapshots ▸ hs.cached,
      hbuckets ▸ hs.buckets⟩
  stored s key policy hs := hs.stored key policy
  cached s key snapshot hs := hs.cached key snapshot
  writeBack s key policy hs _ hcurrent := by
    refine ⟨trivial, hs.policies, hs.stored, fun other snapshot hget => ?_, hs.buckets⟩
    rw [PolicySnapshots.get?_writeBack] at hget
    split at hget
    case isTrue heq =>
      cases hget
      exact heq ▸ hs.stored key policy hcurrent
    case isFalse => exact hs.cached other snapshot hget
  take s key policy reading allowed s' hs _ _ hpolicy answered := by
    obtain ⟨_, rfl⟩ := answered
    exact ⟨trivial, hs.policies, hs.stored, hs.cached,
      keys_take_subset hs.buckets (hpolicy.1 ▸ hpolicy.2) _ _⟩
  unknown _ _ _ _ _ := trivial
  change s key state current now hs hcurrent _ := by
    have hcurrently := hs.stored key current hcurrent
    refine ⟨trivial, trivial, ?_, fun other policy hget => ?_, fun other snapshot hget => ?_,
      hs.buckets⟩
    · have hmem : key ∈ s.policies.keys := Dict.mem_keys_iff.mpr ⟨current, hcurrent⟩
      exact (Dict.keys_set_of_mem _ hmem).trans hs.policies
    · simp only [GatewayState.withPolicy, Dict.get?_set] at hget
      split at hget
      case isTrue heq =>
        cases hget
        exact heq ▸ hcurrently
      case isFalse => exact hs.stored other policy hget
    · rw [PolicySnapshots.get?_invalidate] at hget
      split at hget
      case isTrue => cases hget
      case isFalse => exact hs.cached other snapshot hget

/-- A table with keys among these has no more rows. -/
theorem size_le_of_subset {ν : Type} {d : Dict String ν} {keys : List String}
    (h : d.keys ⊆ keys) : d.size ≤ keys.length := by
  rw [← Dict.length_keys]
  exact (List.subperm_of_subset d.nodup h).length_le

/-- A read adds no row. -/
theorem ResponseCache.size_get_le (cache : ResponseCache) (ttlS now : ℚ) (key : String) :
    (cache.get ttlS now key).2.size ≤ cache.size := by
  rcases cache.get_cases ttlS now key with ⟨_, hread⟩ | ⟨_, _, _, _, hread⟩ |
    ⟨cachedAt, value, hget, _, hread⟩
  · rw [hread]
  · rw [hread, ← Dict.length_keys, ← Dict.length_keys, Dict.keys_erase]
    exact List.length_filter_le _ _
  · have hmem : key ∈ cache.keys := Dict.mem_keys_iff.mpr ⟨_, hget⟩
    rw [hread]
    refine (size_le_of_subset fun other hother => ?_).trans_eq (Dict.length_keys cache)
    obtain ⟨found, hfound⟩ := Dict.mem_keys_iff.mp hother
    rw [Dict.get?_moveToEnd] at hfound
    exact Dict.mem_keys_iff.mpr ⟨found, hfound⟩

/-- The loop ends within the bound, or with nothing left if the bound is negative. -/
theorem ResponseCache.size_evict_le (maxEntries : ℤ) {size : ℕ} {cache : ResponseCache}
    (hsize : cache.size = size) :
    ((evict maxEntries size cache).2.size : ℤ) ≤ max maxEntries 0 := by
  induction size generalizing cache with
  | zero =>
      rw [evict]
      split <;> simp [hsize]
  | succ size ih =>
      rw [evict]
      split
      case isTrue =>
        apply ih
        rw [← Dict.length_keys, Dict.keys_dropFirst, List.length_tail, Dict.length_keys, hsize]
        rfl
      case isFalse hfits =>
        have hfitting : ((size + 1 : ℕ) : ℤ) ≤ maxEntries := by simpa using hfits
        rw [hsize]
        exact hfitting.trans (le_max_left _ _)

/-- A write ends within the bound, whatever was there. -/
theorem ResponseCache.size_set_le (cache : ResponseCache) (maxEntries : ℤ) (now : ℚ)
    (key : String) (value : CachedResponse) :
    ((cache.set maxEntries now key value).2.size : ℤ) ≤ max maxEntries 0 :=
  size_evict_le maxEntries rfl

/-- Where there is room for one response, the second takes the place of the first. -/
example : let answer : CachedResponse := ⟨"hello", some "end_turn", 3, 1, "m"⟩
    let first := (ResponseCache.set Dict.empty 1 0 "first" answer).2
    (first.set 1 5 "second" answer).2.keys = ["second"] := by
  decide +kernel

section Responses

variable {J R : Type} {app : App} {M : Machine Query Answer GatewayState J R}

/-- Every entry keeps the bound of the response cache. -/
theorem OverGateway.responses_bounded (hM : OverGateway app M) {s s' : GatewayState}
    {log : List (Entry Answer GatewayState J R)} (hreplay : M.Replay s log s')
    (hs : (s.responses.size : ℤ) ≤ max app.settings.responseCacheMaxEntries 0) :
    (s'.responses.size : ℤ) ≤ max app.settings.responseCacheMaxEntries 0 := by
  refine (hreplay.preserves
    (P := fun s => (s.responses.size : ℤ) ≤ max app.settings.responseCacheMaxEntries 0) hs
    (fun s s₀ hs htime => ?_) fun entry _ hbefore hvalid => ?_).1
  · rw [hM.passes_eq] at htime
    obtain ⟨now, _, rfl⟩ := htime
    exact hs
  · rcases hM.valid_cases hvalid with ⟨q, a, _, hanswers⟩ | ⟨_, heq⟩
    · cases q with
      | cacheGet key =>
          obtain ⟨_, hafter⟩ := hanswers
          rw [hafter]
          have hread := ResponseCache.size_get_le entry.before.responses
            app.settings.responseCacheTtlS entry.before.now key
          exact (Int.ofNat_le.mpr hread).trans hbefore
      | cacheSet key value =>
          obtain ⟨_, hafter⟩ := hanswers
          rw [hafter]
          exact ResponseCache.size_set_le ..
      | _ =>
          rw [hanswers.responses_frame (by simp) (by simp)]
          exact hbefore
    · rwa [heq]

end Responses

/-- **Requests cannot grow these tables.** In every reachable configuration of a gateway
that has loaded its policies: the same tenants are in the store; there are snapshots and
buckets of these tenants only, so no more than there are tenants; and the cache of
responses is within its bound, or empty if that is negative. -/
theorem tables_bounded {app : App} {c : Process} {now : ℚ} {policies : PolicyStore}
    (h : (eventLoop app).Reachable (.fresh now policies) c) (hkeyed : policies.Keyed) :
    c.state.policies.keys = policies.keys ∧
    c.state.snapshots.keys ⊆ policies.keys ∧ c.state.snapshots.size ≤ policies.size ∧
    c.state.buckets.keys ⊆ policies.keys ∧ c.state.buckets.size ≤ policies.size ∧
    (c.state.responses.size : ℤ) ≤ max app.settings.responseCacheMaxEntries 0 := by
  have hstart : Tabled policies.keys (.fresh now policies) :=
    ⟨rfl, fun key policy hget => ⟨hkeyed key policy hget, Dict.mem_keys_iff.mpr ⟨policy, hget⟩⟩,
      fun key snapshot hget => by simp [GatewayState.fresh] at hget, by
        simp [GatewayState.fresh, Dict.keys, Dict.empty]⟩
  have hend := ((tabled_stagewise app policies.keys).reachable h hstart).1
  have hsnapshots : c.state.snapshots.keys ⊆ policies.keys := by
    intro key hmem
    obtain ⟨snapshot, hget⟩ := Dict.mem_keys_iff.mp hmem
    exact (hend.cached key snapshot hget).2
  refine ⟨hend.policies, hsnapshots, ?_, hend.buckets, ?_, ?_⟩
  · exact (size_le_of_subset hsnapshots).trans_eq (Dict.length_keys policies)
  · exact (size_le_of_subset hend.buckets).trans_eq (Dict.length_keys policies)
  · exact (eventLoop_overGateway app).responses_bounded h.replay (le_max_right _ _)

/-- A request of the loaded tenant, and two of tenants nobody knows. -/
def strangers : Process :=
  let slow := .error (.bedrockInvocation "slow" "ThrottlingException" true)
  (eventLoopDriver App.plain).play (Machine.initial (.fresh 0 oneTenant)) [
    { tid := 0, job := some (.chat operatorRequest), oracle := tenantWorld "t" slow },
    { tid := 1, job := some (.chat operatorRequest), oracle := tenantWorld "u" slow },
    { tid := 2, job := some (.chat operatorRequest), oracle := tenantWorld "v" slow }]

/-- The strangers leave no trace. -/
theorem tables_bounded_strangers :
    strangers.state.buckets.keys = ["t"] ∧ strangers.state.policies.keys = ["t"] ∧
      strangers.state.snapshots.keys ⊆ ["t"] ∧
      (strangers.state.responses.size : ℤ) ≤
        max App.plain.settings.responseCacheMaxEntries 0 := by
  have hreach : (eventLoop App.plain).Reachable (.fresh 0 oneTenant) strangers :=
    Driver.play_reachable ..
  have htables := tables_bounded hreach oneTenant_keyed
  have hresponses := htables.2.2.2.2.2
  exact ⟨by decide +kernel, htables.1, htables.2.1, hresponses⟩

end BedrockGateway
