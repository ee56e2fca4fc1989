/-
# How many requests of a tenant get through

The limiter promises a rate for a limit that stays the same. In the gateway the
limit of a tenant does not: the kill switch throttles it and lifts the throttling
again while requests come in, and the bucket is refilled at the rate of whoever
asks. What remains of the promise is one bound for every period of every run,
whatever was done to the tenant meanwhile: no bucket is ever refilled faster, or
filled higher, than the loaded limit allows, or one request a minute where that is
less. Under the event loop the reading of the clock is never stale.
-/

import BedrockGateway.Api.Stretches
import BedrockGateway.Policy.LimiterRaces
import Mathlib.Algebra.Order.Ring.Unbundled.Rat
import Mathlib.Tactic.Linarith

namespace BedrockGateway

open Foundation Py

/-- The most a tenant's bucket ever holds, for the limit it was loaded with. -/
def ceiling (rpmLimit : ℤ) : ℚ := max 1 rpmLimit

/-- Throttled or not, the limit stays below the ceiling. -/
theorem effectiveLimit_le_ceiling (policy : TenantPolicy) :
    max (effectiveLimit policy : ℚ) 0 ≤ ceiling policy.rpmLimit := by
  have hlimit : max (effectiveLimit policy) 0 ≤ max 1 policy.rpmLimit := by
    unfold effectiveLimit throttleFactor
    split <;> omega
  unfold ceiling
  exact_mod_cast hlimit

/-! ## What the takes of a run look like -/

/-- A bucket holds no debt and was filled in the past. -/
def Bucket.Sound (now : ℚ) (bucket : Bucket) : Prop :=
  0 ≤ bucket.tokens ∧ bucket.lastRefill ≤ now

/-- A policy under its own tenant's id, with the loaded limit. -/
def Limited (tenantId : String) (rpmLimit : ℤ) (key : String) (policy : TenantPolicy) : Prop :=
  policy.tenantId = key ∧ (key = tenantId → policy.rpmLimit = rpmLimit)

/-- The invariant: the tenant's limit is the loaded one wherever its policy is, and its
bucket is sound. -/
structure Metered (tenantId : String) (rpmLimit : ℤ) (s : GatewayState) : Prop where
  stored : ∀ key policy, s.policies.get? key = some policy → Limited tenantId rpmLimit key policy
  cached : ∀ key snapshot, s.snapshots.get? key = some snapshot →
    Limited tenantId rpmLimit key snapshot.policy
  sound : ∀ bucket, s.buckets.get? tenantId = some bucket → bucket.Sound s.now

/-- What is known of every take of the tenant's. -/
def TakesSoundly (tenantId : String) (rpmLimit : ℤ) (s : GatewayState) (event : Event Answer)
    (_ : GatewayState) : Prop :=
  match event.query with
  | .bucketTake target limit reading => target = tenantId →
      max (limit : ℚ) 0 ≤ ceiling rpmLimit ∧
        ∀ bucket, s.buckets.get? tenantId = some bucket → bucket.Sound reading
  | _ => True

section Bucket

variable {tenantId : String} {rpmLimit : ℤ} {buckets : Buckets} {call : AllowCall}

/-- What is found is not more than the ceiling, and not negative. -/
private theorem found_mem (hcap : call.capacity ≤ ceiling rpmLimit)
    (hsound : ∀ bucket, buckets.get? call.tenantId = some bucket → bucket.Sound call.now) :
    0 ≤ buckets.found call ∧ buckets.found call ≤ ceiling rpmLimit := by
  have hpositive : 0 ≤ call.capacity := le_max_right _ _
  cases hget : buckets.get? call.tenantId with
  | none =>
      rw [Buckets.found_of_fresh hget]
      exact ⟨hpositive, hcap⟩
  | some bucket =>
      obtain ⟨htokens, hpast⟩ := hsound bucket hget
      rw [Buckets.found_of_get? hget hpast]
      have hrate : 0 ≤ call.capacity / 60 := div_nonneg hpositive (by norm_num)
      have hrefilled := mul_nonneg (sub_nonneg.mpr hpast) hrate
      exact ⟨le_min hpositive (add_nonneg htokens hrefilled), (min_le_left _ _).trans hcap⟩

/-- A found level leaves a sound bucket behind. -/
private theorem sound_after (call : AllowCall) (hcap : call.capacity ≤ ceiling rpmLimit)
    (hsound : ∀ bucket, buckets.get? call.tenantId = some bucket → bucket.Sound call.now)
    {bucket : Bucket} (hget : (buckets.perform call).2.get? call.tenantId = some bucket) :
    bucket.Sound call.now := by
  rw [(Buckets.perform_cases buckets call).2] at hget
  cases hget
  refine ⟨?_, le_rfl⟩
  have hfound := (found_mem hcap hsound).1
  dsimp only
  split
  · linarith
  · linarith

end Bucket

theorem metered_stagewise (app : App) (tenantId : String) (rpmLimit : ℤ) :
    Stagewise app (Metered tenantId rpmLimit) (TakesSoundly tenantId rpmLimit)
      (Limited tenantId rpmLimit) where
  elapses s s' hs htime := by
    obtain ⟨now, hnow, rfl⟩ := htime
    exact ⟨hs.stored, hs.cached, fun bucket hget =>
      ⟨(hs.sound bucket hget).1, (hs.sound bucket hget).2.trans hnow⟩⟩
  quiet s q answer s' hq hs answered := by
    obtain ⟨hpolicies, hsnapshots, hbuckets⟩ := answered.decisive_frame hq
    refine ⟨?_, ⟨hpolicies ▸ hs.stored, hsnapshots ▸ hs.cached, ?_⟩⟩
    · cases q <;> trivial
    · rw [hbuckets, answered.now]
      exact hs.sound
  stored s key policy hs := hs.stored key policy
  cached s key snapshot hs := hs.cached key snapshot
  writeBack s key policy hs _ hcurrent := by
    refine ⟨trivial, hs.stored, fun other snapshot hget => ?_, hs.sound⟩
    rw [PolicySnapshots.get?_writeBack] at hget
    split at hget
    case isTrue heq =>
      cases hget
      exact heq ▸ hs.stored key policy hcurrent
    case isFalse => exact hs.cached other snapshot hget
  take s key policy reading allowed s' hs hreading hle hpolicy answered := by
    obtain ⟨_, rfl⟩ := answered
    by_cases htarget : policy.tenantId = tenantId
    · have hcap : max (effectiveLimit policy : ℚ) 0 ≤ ceiling rpmLimit := by
        rw [← hpolicy.2 (hpolicy.1.symm.trans htarget)]
        exact effectiveLimit_le_ceiling policy
      have hsound : ∀ bucket, s.buckets.get? policy.tenantId = some bucket →
          bucket.Sound reading := by
        rw [htarget]
        exact hreading.sound
      refine ⟨fun _ => ⟨hcap, hreading.sound⟩, hs.stored, hs.cached, fun bucket hget => ?_⟩
      rw [← htarget] at hget
      have hafter := sound_after ⟨policy.tenantId, effectiveLimit policy, reading⟩ hcap hsound hget
      exact ⟨hafter.1, hafter.2.trans hle⟩
    · refine ⟨fun heq => absurd heq htarget, hs.stored, hs.cached, fun bucket hget => ?_⟩
      have hkept : (s.buckets.perform ⟨policy.tenantId, effectiveLimit policy, reading⟩).2.get?
          tenantId = s.buckets.get? tenantId := Buckets.get?_perform_of_ne s.buckets htarget
      exact hs.sound bucket (hkept ▸ hget)
  unknown _ _ _ _ _ := trivial
  change s key state current now hs hcurrent hnow := by
    refine ⟨trivial, trivial, fun other policy hget => ?_, fun other snapshot hget => ?_,
      fun bucket hget => ⟨(hs.sound bucket hget).1, (hs.sound bucket hget).2.trans hnow⟩⟩
    · simp only [GatewayState.withPolicy, Dict.get?_set] at hget
      split at hget
      case isTrue heq =>
        cases hget
        exact heq ▸ hs.stored key current hcurrent
      case isFalse => exact hs.stored other policy hget
    · rw [PolicySnapshots.get?_invalidate] at hget
      split at hget
      case isTrue => cases hget
      case isFalse => exact hs.cached other snapshot hget

/-! ## Counting -/

section Counting

variable {J R : Type} {app : App} {M : Machine Query Answer GatewayState J R}
variable {tenantId : String} {rpmLimit : ℤ} {first last : ℚ}

/-- The entry admits a request of the tenant's whose reading of the clock lies in the
period. -/
def admitsIn (tenantId : String) (first last : ℚ) (entry : Entry Answer GatewayState J R) : Bool :=
  decisionOf tenantId entry = some true &&
    (takeOf entry).any fun call => first ≤ call.now && call.now ≤ last

/-- The requests of a tenant's that a log admits in a period. -/
def admittedBetween (tenantId : String) (first last : ℚ)
    (log : List (Entry Answer GatewayState J R)) : ℕ :=
  log.countP (admitsIn tenantId first last)

/-- A take of the tenant's is under the ceiling and on a sound bucket. -/
def SoundTake (tenantId : String) (rpmLimit : ℤ) (entry : Entry Answer GatewayState J R) : Prop :=
  ∀ call ∈ takeOf entry, call.tenantId = tenantId → call.capacity ≤ ceiling rpmLimit ∧
    ∀ bucket, entry.before.buckets.get? tenantId = some bucket → bucket.Sound call.now

/-- What an entry does to the tenant's bucket: a take of its own, or nothing. -/
private theorem bucket_step (hM : OverGateway app M) (tenantId : String) (first last : ℚ)
    {entry : Entry Answer GatewayState J R}
    (hvalid : M.Valid entry) :
    (∃ call ∈ takeOf entry, call.tenantId = tenantId ∧
      entry.after.buckets = (entry.before.buckets.perform call).2 ∧
      admitsIn tenantId first last entry = decide (1 ≤ entry.before.buckets.found call ∧
        first ≤ call.now ∧ call.now ≤ last)) ∨
    (admitsIn tenantId first last entry = false ∧
      entry.after.buckets.get? tenantId = entry.before.buckets.get? tenantId) := by
  rcases hM.bucket_cases hvalid tenantId with ⟨call, htake, hafter, hdecision⟩ |
    ⟨htake, hdecision, hafter⟩
  · by_cases hown : call.tenantId = tenantId
    · refine .inl ⟨call, htake, hown, hafter, ?_⟩
      rw [if_pos hown, (Buckets.perform_cases _ _).1] at hdecision
      rw [admitsIn, hdecision, htake]
      simp
    · rw [if_neg hown] at hdecision
      refine .inr ⟨by rw [admitsIn, hdecision]; simp, ?_⟩
      rw [hafter]
      exact Buckets.get?_perform_of_ne _ hown
  · exact .inr ⟨by rw [admitsIn, hdecision]; simp, by rw [hafter]⟩

/-- Once the clock has been read after the period, no more of it are admitted. -/
private theorem admittedBetween_late (hM : OverGateway app M) {s s' : GatewayState}
    {log : List (Entry Answer GatewayState J R)} (hreplay : M.Replay s log s')
    (hsound : ∀ entry ∈ log, SoundTake tenantId rpmLimit entry) {bucket : Bucket}
    (hget : s.buckets.get? tenantId = some bucket) (hlate : last < bucket.lastRefill) :
    admittedBetween tenantId first last log = 0 := by
  induction log generalizing s bucket with
  | nil => rfl
  | cons entry log ih =>
      obtain ⟨htime, hvalid, hrest⟩ := hreplay
      rw [hM.passes_eq] at htime
      obtain ⟨now, _, hbefore⟩ := htime
      have hget : entry.before.buckets.get? tenantId = some bucket := by rw [hbefore]; exact hget
      have htail := fun other hmem => hsound other (List.mem_cons_of_mem _ hmem)
      rw [admittedBetween, List.countP_cons]
      rcases bucket_step hM tenantId first last hvalid with
        ⟨call, htake, hown, hafter, hadmits⟩ | ⟨hadmits, hafter⟩
      · have hpast := (hsound entry List.mem_cons_self call htake hown).2 bucket hget
        have hcall : last < call.now := hlate.trans_le hpast.2
        have hleft := (Buckets.perform_cases entry.before.buckets call).2
        rw [hown, ← hafter] at hleft
        rw [hadmits, decide_eq_false (fun h => absurd h.2.2 (not_le.mpr hcall))]
        exact ih hrest htail hleft hcall
      · rw [hadmits]
        exact ih hrest htail (hafter.trans hget) hlate

private theorem rate_nonneg (rpmLimit : ℤ) : 0 ≤ ceiling rpmLimit / 60 :=
  div_nonneg (zero_le_one.trans (le_max_left _ _)) (by norm_num)

/-- A sound bucket does not gain more by a take than the ceiling's rate allows. -/
private theorem found_le_refilled {buckets : Buckets} {call : AllowCall} {bucket : Bucket}
    (hcap : call.capacity ≤ ceiling rpmLimit)
    (hget : buckets.get? call.tenantId = some bucket) (hpast : bucket.lastRefill ≤ call.now) :
    buckets.found call ≤
      bucket.tokens + (call.now - bucket.lastRefill) * (ceiling rpmLimit / 60) := by
  rw [Buckets.found_of_get? hget hpast]
  refine (min_le_right _ _).trans (add_le_add_right ?_ _)
  have helapsed := sub_nonneg.mpr hpast
  gcongr

/-- **One take in time.** A period admits what the take finds and what refills the bucket
afterwards, if that is so from what the take leaves. -/
private theorem count_take {call : AllowCall} {buckets : Buckets} {rest : ℕ}
    (hrest : (rest : ℚ) ≤ buckets.found call - (if 1 ≤ buckets.found call then 1 else 0) +
      (last - call.now) * (ceiling rpmLimit / 60)) :
    ((rest + if decide (1 ≤ buckets.found call ∧ first ≤ call.now ∧ call.now ≤ last) = true
      then 1 else 0 : ℕ) : ℚ) ≤
      buckets.found call + (last - call.now) * (ceiling rpmLimit / 60) := by
  by_cases hfound : 1 ≤ buckets.found call
  · rw [if_pos hfound] at hrest
    split
    · push_cast
      linarith
    · push_cast
      linarith
  · rw [if_neg hfound] at hrest
    rw [if_neg (by simp [hfound])]
    push_cast
    linarith

theorem admittedBetween_cons (entry : Entry Answer GatewayState J R)
    (log : List (Entry Answer GatewayState J R)) :
    admittedBetween tenantId first last (entry :: log) =
      admittedBetween tenantId first last log +
        if admitsIn tenantId first last entry = true then 1 else 0 :=
  List.countP_cons

/-- From a sound bucket on, a period admits what is in the bucket and what refills it. -/
private theorem admittedBetween_from (hM : OverGateway app M) {s s' : GatewayState}
    {log : List (Entry Answer GatewayState J R)} (hreplay : M.Replay s log s')
    (hsound : ∀ entry ∈ log, SoundTake tenantId rpmLimit entry) {bucket : Bucket}
    (hget : s.buckets.get? tenantId = some bucket) (htokens : 0 ≤ bucket.tokens)
    (hearly : bucket.lastRefill ≤ last) :
    (admittedBetween tenantId first last log : ℚ) ≤
      bucket.tokens + (last - bucket.lastRefill) * (ceiling rpmLimit / 60) := by
  induction log generalizing s bucket with
  | nil =>
      have hrefilled := mul_nonneg (sub_nonneg.mpr hearly) (rate_nonneg rpmLimit)
      simpa [admittedBetween] using add_nonneg htokens hrefilled
  | cons entry log ih =>
      obtain ⟨htime, hvalid, hrest⟩ := hreplay
      rw [hM.passes_eq] at htime
      obtain ⟨now, _, hbefore⟩ := htime
      have hget : entry.before.buckets.get? tenantId = some bucket := by rw [hbefore]; exact hget
      have htail := fun other hmem => hsound other (List.mem_cons_of_mem _ hmem)
      rcases bucket_step hM tenantId first last hvalid with
        ⟨call, htake, hown, hafter, hadmits⟩ | ⟨hadmits, hafter⟩
      · obtain ⟨hcap, hbucket⟩ := hsound entry List.mem_cons_self call htake hown
        have hleft := (Buckets.perform_cases entry.before.buckets call).2
        subst hown
        rw [← hafter] at hleft
        rcases le_or_gt call.now last with hnow | hlate
        · have hfound := found_le_refilled hcap hget (hbucket bucket hget).2
          have hnext := sound_after call hcap hbucket (hafter ▸ hleft)
          rw [admittedBetween_cons, hadmits]
          refine (count_take (ih hrest htail hleft hnext.1 hnow)).trans ?_
          linarith
        · have hrefilled := mul_nonneg (sub_nonneg.mpr hearly) (rate_nonneg rpmLimit)
          rw [admittedBetween_cons, hadmits, admittedBetween_late hM hrest htail hleft hlate,
            decide_eq_false fun h => absurd h.2.2 (not_le.mpr hlate)]
          simpa using add_nonneg htokens hrefilled
      · rw [admittedBetween_cons, hadmits]
        simpa using ih hrest htail (hafter.trans hget) htokens hearly

/-- **From any state on**, a period admits a full bucket and its refill. -/
theorem admittedBetween_le (hM : OverGateway app M) {s s' : GatewayState}
    {log : List (Entry Answer GatewayState J R)} (hreplay : M.Replay s log s')
    (hsound : ∀ entry ∈ log, SoundTake tenantId rpmLimit entry) (hperiod : first ≤ last) :
    (admittedBetween tenantId first last log : ℚ) ≤
      ceiling rpmLimit + (last - first) * (ceiling rpmLimit / 60) := by
  have hceiling : 0 ≤ ceiling rpmLimit := zero_le_one.trans (le_max_left _ _)
  have hperiodic := mul_nonneg (sub_nonneg.mpr hperiod) (rate_nonneg rpmLimit)
  induction log generalizing s with
  | nil => simpa [admittedBetween] using add_nonneg hceiling hperiodic
  | cons entry log ih =>
      obtain ⟨_, hvalid, hrest⟩ := hreplay
      have htail := fun other hmem => hsound other (List.mem_cons_of_mem _ hmem)
      rcases bucket_step hM tenantId first last hvalid with
        ⟨call, htake, hown, hafter, hadmits⟩ | ⟨hadmits, _⟩
      · obtain ⟨hcap, hbucket⟩ := hsound entry List.mem_cons_self call htake hown
        have hleft := (Buckets.perform_cases entry.before.buckets call).2
        subst hown
        rw [← hafter] at hleft
        by_cases hinside : first ≤ call.now ∧ call.now ≤ last
        · have hnext := sound_after call hcap hbucket (hafter ▸ hleft)
          have hfound := (found_mem hcap hbucket).2
          have hshare : (last - call.now) * (ceiling rpmLimit / 60) ≤
              (last - first) * (ceiling rpmLimit / 60) :=
            mul_le_mul_of_nonneg_right (by linarith [hinside.1]) (rate_nonneg rpmLimit)
          rw [admittedBetween_cons, hadmits]
          refine (count_take (admittedBetween_from hM hrest htail hleft hnext.1 hinside.2)).trans ?_
          linarith
        · rw [admittedBetween_cons, hadmits, decide_eq_false fun h => hinside h.2]
          simpa using ih hrest htail
      · rw [admittedBetween_cons, hadmits]
        simpa using ih hrest htail

end Counting

/-- A freshly started gateway. -/
theorem Metered.fresh {tenantId : String} {now : ℚ} {policies : PolicyStore}
    {loaded : TenantPolicy} (hkeyed : policies.Keyed)
    (hloaded : policies.get? tenantId = some loaded) :
    Metered tenantId loaded.rpmLimit (.fresh now policies) where
  stored key policy hget := by
    refine ⟨hkeyed key policy hget, fun heq => ?_⟩
    subst heq
    rw [Option.some.inj (hget.symm.trans hloaded)]
  cached key snapshot hget := by simp [GatewayState.fresh] at hget
  sound bucket hget := by simp [GatewayState.fresh] at hget

variable {app : App} {c : Process}

/-- Every take of the tenant's in a run is sound. -/
theorem eventLoop_soundTake {tenantId : String} {now : ℚ} {policies : PolicyStore}
    {loaded : TenantPolicy} (h : (eventLoop app).Reachable (.fresh now policies) c)
    (hkeyed : policies.Keyed) (hloaded : policies.get? tenantId = some loaded) :
    ∀ entry ∈ c.log, SoundTake tenantId loaded.rpmLimit entry := by
  intro entry hentry call htake hown
  have hall := ((metered_stagewise app tenantId loaded.rpmLimit).reachable h
    (Metered.fresh hkeyed hloaded)).2 entry hentry
  unfold takeOf at htake
  split at htake
  · rename_i target limit reading allowed haction
    cases htake
    exact hall _ haction hown
  · cases htake

/-- **No period admits more than a full bucket and its refill.** In every run of the
event loop, and whatever the kill switch does to a tenant meanwhile: the requests of the
tenant's that are admitted on a reading of the clock within a period are at most the
loaded limit (one, if it is less) and its share of the period. -/
theorem admission_bounded {tenantId : String} {now : ℚ} {policies : PolicyStore}
    {loaded : TenantPolicy} (h : (eventLoop app).Reachable (.fresh now policies) c)
    (hkeyed : policies.Keyed) (hloaded : policies.get? tenantId = some loaded)
    {first last : ℚ} (hperiod : first ≤ last) :
    (admittedBetween tenantId first last c.log : ℚ) ≤
      ceiling loaded.rpmLimit + (last - first) * (ceiling loaded.rpmLimit / 60) :=
  admittedBetween_le (eventLoop_overGateway app) h.replay (eventLoop_soundTake h hkeyed hloaded)
    hperiod

/-- A store with one tenant that may send one request a minute. -/
def onePerMinute : PolicyStore := Dict.set Dict.empty "t" { tenantId := "t", rpmLimit := 1 }

/-- Three requests: at once, half a minute later, and a minute later. -/
def threeRequests : Process :=
  (eventLoopDriver App.plain).play (Machine.initial (.fresh 0 onePerMinute)) [
    { tid := 0, job := some (.chat operatorRequest), oracle := servingWorld helloBody },
    { tid := 1, job := some (.chat operatorRequest), oracle := servingWorld helloBody,
      delay := 30 },
    { tid := 2, job := some (.chat operatorRequest), oracle := servingWorld helloBody,
      delay := 30 }]

/-- Two of them are admitted, as many as a minute has room for. -/
theorem admission_bounded_threeRequests :
    admittedBetween "t" 0 60 threeRequests.log = 2 ∧
      (admittedBetween "t" 0 60 threeRequests.log : ℚ) ≤
        ceiling 1 + (60 - 0) * (ceiling 1 / 60) := by
  have hreach : (eventLoop App.plain).Reachable (.fresh 0 onePerMinute) threeRequests :=
    Driver.play_reachable ..
  have hloaded : onePerMinute.get? "t" = some { tenantId := "t", rpmLimit := 1 } := rfl
  refine ⟨by decide +kernel, ?_⟩
  exact admission_bounded hreach (PolicyStore.Keyed.empty.set rfl) hloaded (by norm_num)

end BedrockGateway
