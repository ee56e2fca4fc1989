/-
# Comparing limits

Two buckets of one tenant see the same calls, one under a tighter limit. Call by
call neither is ahead for good: the tighter bucket may admit a call the looser one
refuses, because it admitted fewer before. What carries over is a relation with
the difference in it: the tighter bucket holds at most as many more tokens as the
looser one has admitted more calls. Refilling and capping only widen the gap in
favour of the looser bucket, and an admission moves both sides by one.

A throttled tenant's limit is a fraction of its own, but never less than one, so
the comparison of the two states fails for the limits below one. It fails too where
the limit is too large for a float and its fraction is not: then the limiter raises
for the active tenant only.
-/

import BedrockGateway.EventLoop
import BedrockGateway.Foundation.Sequential
import BedrockGateway.Policy.TokenBucket

namespace BedrockGateway

open Foundation

/-- Calls of one tenant under one limit. -/
def AllowCall.under (tenantId : String) (rpmLimit : ℤ) (times : List ℚ) : List AllowCall :=
  times.map fun now => ⟨tenantId, rpmLimit, now⟩

namespace Buckets

/-! ## The coupling -/

/-- The tighter bucket holds at most `lead` more tokens than the looser one. -/
def Behind (lead : ℕ) : Option Bucket → Option Bucket → Prop
  | none, none => True
  | some tight, some loose =>
      tight.lastRefill = loose.lastRefill ∧ tight.tokens ≤ loose.tokens + lead
  | _, _ => False

theorem Behind.refl (bucket : Option Bucket) : Behind 0 bucket bucket := by
  cases bucket with
  | none => trivial
  | some bucket => exact ⟨rfl, by simp⟩

/-- A refill keeps the gap: it is worth more at the looser rate, and the looser cap
cuts off less. -/
theorem refill_le {tightCap looseCap now lead : ℚ} {tight loose : Bucket}
    (hcap : tightCap ≤ looseCap) (hlead : 0 ≤ lead)
    (hlast : tight.lastRefill = loose.lastRefill) (htokens : tight.tokens ≤ loose.tokens + lead) :
    refill tightCap now tight ≤ refill looseCap now loose + lead := by
  unfold refill
  rw [hlast]
  dsimp only
  rw [← min_add_add_right]
  apply min_le_min
  · exact hcap.trans (le_add_of_nonneg_right hlead)
  · have helapsed : 0 ≤ max 0 (now - loose.lastRefill) := le_max_left _ _
    have hrate : tightCap / 60 ≤ looseCap / 60 := div_le_div_of_nonneg_right hcap (by norm_num)
    have hworth := mul_le_mul_of_nonneg_left hrate helapsed
    linarith

section Coupling

variable {tenantId : String} {tight loose : ℤ} {buckets buckets' : Buckets} {lead : ℕ}

theorem found_le (hlimit : tight ≤ loose)
    (hbehind : Behind lead (buckets.get? tenantId) (buckets'.get? tenantId)) (now : ℚ) :
    buckets.found ⟨tenantId, tight, now⟩ ≤ buckets'.found ⟨tenantId, loose, now⟩ + lead := by
  have hcap :
      AllowCall.capacity ⟨tenantId, tight, now⟩ ≤ AllowCall.capacity ⟨tenantId, loose, now⟩ :=
    max_le_max (by exact_mod_cast hlimit) le_rfl
  have hlead : (0 : ℚ) ≤ lead := Nat.cast_nonneg lead
  unfold found
  cases hget : buckets.get? tenantId with
  | none =>
      cases hget' : buckets'.get? tenantId with
      | none =>
          apply refill_le hcap hlead
          · rfl
          · exact hcap.trans (le_add_of_nonneg_right hlead)
      | some bucket => rw [hget, hget'] at hbehind; exact hbehind.elim
  | some bucket =>
      cases hget' : buckets'.get? tenantId with
      | none => rw [hget, hget'] at hbehind; exact hbehind.elim
      | some bucket' =>
          rw [hget, hget'] at hbehind
          exact refill_le hcap hlead hbehind.1 hbehind.2

/-- **One call**: whatever the two decisions are, the lead of the looser bucket pays
for them. -/
theorem Behind.perform (hlimit : tight ≤ loose)
    (hbehind : Behind lead (buckets.get? tenantId) (buckets'.get? tenantId)) (now : ℚ) :
    let first := buckets.perform ⟨tenantId, tight, now⟩
    let second := buckets'.perform ⟨tenantId, loose, now⟩
    ∃ lead', first.1.toNat + lead' = second.1.toNat + lead ∧
      Behind lead' (first.2.get? tenantId) (second.2.get? tenantId) := by
  intro first second
  have hfound := found_le hlimit hbehind now
  obtain ⟨htaken, hleft⟩ := perform_cases buckets ⟨tenantId, tight, now⟩
  obtain ⟨htaken', hleft'⟩ := perform_cases buckets' ⟨tenantId, loose, now⟩
  change first.1 = _ at htaken
  change second.1 = _ at htaken'
  change first.2.get? tenantId = _ at hleft
  change second.2.get? tenantId = _ at hleft'
  rw [htaken, htaken', hleft, hleft']
  by_cases htight : 1 ≤ buckets.found ⟨tenantId, tight, now⟩ <;>
    by_cases hloose : 1 ≤ buckets'.found ⟨tenantId, loose, now⟩
  · refine ⟨lead, by simp [htight, hloose], rfl, ?_⟩
    simp only [htight, hloose, if_true]
    linarith
  · -- only the tighter bucket admits, so the looser one has admitted more before
    cases lead with
    | zero =>
        rw [Nat.cast_zero, add_zero] at hfound
        exact absurd (htight.trans hfound) hloose
    | succ lead =>
        refine ⟨lead, by simp [htight, hloose, Nat.add_comm], rfl, ?_⟩
        simp only [htight, hloose, if_true, if_false]
        push_cast at hfound
        linarith
  · refine ⟨lead + 1, by simp [htight, hloose, Nat.add_comm], rfl, ?_⟩
    simp only [htight, hloose, if_true, if_false]
    push_cast
    linarith
  · refine ⟨lead, by simp [htight, hloose], rfl, ?_⟩
    simp only [htight, hloose, if_false]
    linarith

/-- **Any number of calls.** -/
theorem Behind.count_le (hlimit : tight ≤ loose) (times : List ℚ)
    (hbehind : Behind lead (buckets.get? tenantId) (buckets'.get? tenantId)) (k : ℕ) :
    ((decisionsFor tenantId buckets (AllowCall.under tenantId tight times)).take k).count true ≤
      ((decisionsFor tenantId buckets' (AllowCall.under tenantId loose times)).take k).count true +
        lead := by
  induction times generalizing buckets buckets' lead k with
  | nil => simp [AllowCall.under, decisionsFor]
  | cons now times ih =>
      cases k with
      | zero => simp
      | succ k =>
          obtain ⟨lead', hpaid, hbehind'⟩ := hbehind.perform hlimit now
          have hrest := ih hbehind' k
          simp only [AllowCall.under, List.map_cons, decisionsFor, if_true, List.take_succ_cons,
            List.count_cons, beq_true] at hrest ⊢
          simp only [Bool.toNat, cond_eq_ite] at hpaid
          omega

end Coupling

/-- **Admission is monotone in the limit**: from a common state, under calls at the
same instants, the looser limit has admitted at least as many calls at every point.
The instants may come in any order: an early one sets both buckets back together. -/
theorem count_admitted_mono (buckets : Buckets) (tenantId : String) {tight loose : ℤ}
    (hlimit : tight ≤ loose) (times : List ℚ) (k : ℕ) :
    ((decisionsFor tenantId buckets (AllowCall.under tenantId tight times)).take k).count true ≤
      ((decisionsFor tenantId buckets (AllowCall.under tenantId loose times)).take k).count true :=
  Behind.count_le hlimit times (Behind.refl _) k

/-- Three calls from an empty bucket: the last is admitted under the tighter limit only. -/
theorem count_admitted_mono_divergent :
    let buckets : Buckets := Dict.set Dict.empty "t" ⟨0, 0⟩
    let times : List ℚ := [60, 60, 60]
    decisionsFor "t" buckets (AllowCall.under "t" 1 times) = [true, false, false] ∧
      ((decisionsFor "t" buckets (AllowCall.under "t" 1 times)).take 3).count true ≤
        ((decisionsFor "t" buckets (AllowCall.under "t" 2 times)).take 3).count true := by
  intro buckets times
  exact ⟨by decide +kernel,
    count_admitted_mono buckets "t" (by decide) times 3⟩

end Buckets

/-! ## The two states of a tenant -/

section States

variable (app : App) (oracle : (q : Query) → Answer q)

/-- Which requests of a tenant, one at each instant, pass `enforce_rate_limit`. -/
def rateLimited (policy : TenantPolicy) : GatewayState → List ℚ → List Bool
  | _, [] => []
  | s, now :: times =>
      let ran := (enforceRateLimit policy).run.runOn (respond app oracle) { s with now := now }
      ran.2.1.toBool :: rateLimited policy ran.2.2 times

/-- What `enforce_rate_limit` does within the range of floats. -/
theorem runOn_enforceRateLimit {policy : TenantPolicy}
    (hlimit : effectiveLimit policy < floatOverflow) (s : GatewayState) :
    let taken := s.buckets.perform ⟨policy.tenantId, effectiveLimit policy, s.now⟩
    let ran := (enforceRateLimit policy).run.runOn (respond app oracle) s
    ran.2.1.toBool = taken.1 ∧ ran.2.2.buckets = taken.2 := by
  intro taken ran
  have hallow : rateLimiterAllow policy.tenantId (effectiveLimit policy) =
      (Py.ask .clock >>= fun now =>
        Py.ask (.bucketTake policy.tenantId (effectiveLimit policy) now)) :=
    if_neg (not_le.mpr hlimit)
  have hran : ran.2 = (bif taken.1 then .ok () else .error (.pipeline .tooManyRequests
      "QUOTA_EXCEEDED" s!"tenant '{policy.tenantId}' exceeded its rate limit"),
      { s with buckets := taken.2 }) := by
    unfold ran enforceRateLimit
    rw [hallow]
    show (Program.runOn _ (if taken.1 = true then _ else _) _).2 = _
    cases taken.1 <;> rfl
  rw [hran]
  cases taken.1 <;> exact ⟨rfl, rfl⟩

/-- Beyond the range of floats it raises, whatever the bucket. -/
theorem runOn_enforceRateLimit_overflow {policy : TenantPolicy}
    (hlimit : floatOverflow ≤ effectiveLimit policy) (s : GatewayState) :
    ((enforceRateLimit policy).run.runOn (respond app oracle) s).2.1 =
      .error (.other "int too large to convert to float") := by
  have hallow : rateLimiterAllow policy.tenantId (effectiveLimit policy) =
      throw (.other "int too large to convert to float") := if_pos hlimit
  unfold enforceRateLimit
  rw [hallow]
  rfl

/-- The requests that pass are the calls the tenant's bucket admits. -/
theorem rateLimited_eq {policy : TenantPolicy} (hlimit : effectiveLimit policy < floatOverflow)
    (s : GatewayState) (times : List ℚ) :
    rateLimited app oracle policy s times = Buckets.decisionsFor policy.tenantId s.buckets
      (AllowCall.under policy.tenantId (effectiveLimit policy) times) := by
  induction times generalizing s with
  | nil => rfl
  | cons now times ih =>
      obtain ⟨hpassed, hleft⟩ :=
        runOn_enforceRateLimit app oracle hlimit { s with now := now }
      simp only [rateLimited, AllowCall.under, List.map_cons, Buckets.decisionsFor, if_true]
      rw [hpassed, ih, hleft]
      rfl

/-- Beyond the range of floats no request passes. -/
theorem count_rateLimited_overflow {policy : TenantPolicy}
    (hlimit : floatOverflow ≤ effectiveLimit policy) (s : GatewayState) (times : List ℚ) (k : ℕ) :
    ((rateLimited app oracle policy s times).take k).count true = 0 := by
  have hnone : ∀ passed ∈ rateLimited app oracle policy s times, passed = false := by
    induction times generalizing s with
    | nil => simp [rateLimited]
    | cons now times ih =>
        refine List.forall_mem_cons.mpr ⟨?_, ih _⟩
        rw [runOn_enforceRateLimit_overflow app oracle hlimit]
        rfl
  rw [List.count_eq_zero]
  intro hmem
  exact Bool.noConfusion (hnone true (List.mem_of_mem_take hmem))

/-- A fraction of a limit from one on is within the limit; of any other it is not. -/
theorem max_one_div_le_iff (limit : ℤ) : max 1 (limit / throttleFactor) ≤ limit ↔ 1 ≤ limit := by
  unfold throttleFactor
  omega

/-- Where the fraction of a limit is beyond the range of floats. -/
theorem floatOverflow_le_max_iff (limit : ℤ) :
    floatOverflow ≤ max 1 (limit / throttleFactor) ↔ throttleFactor * floatOverflow ≤ limit := by
  have hone := one_lt_floatOverflow
  unfold throttleFactor
  omega

/-- No limit below one admits a new tenant's first request. -/
theorem refused_of_lt_one (tenantId : String) {limit : ℤ} (hlimit : limit < 1) (now : ℚ) :
    Buckets.decisionsFor tenantId Dict.empty (AllowCall.under tenantId limit [now]) = [false] := by
  have hcap : AllowCall.capacity ⟨tenantId, limit, now⟩ = 0 := by
    have hle : (limit : ℚ) ≤ 0 := by exact_mod_cast Int.lt_add_one_iff.mp hlimit
    exact max_eq_right hle
  have hfound : Buckets.found Dict.empty ⟨tenantId, limit, now⟩ = 0 := by
    rw [Buckets.found_of_fresh rfl, hcap]
  simp only [AllowCall.under, List.map_cons, List.map_nil, Buckets.decisionsFor, if_true]
  rw [(Buckets.perform_cases _ _).1, hfound]
  simp

/-- Every limit from one on admits a new tenant's first request. -/
theorem admitted_of_one_le (tenantId : String) {limit : ℤ} (hlimit : 1 ≤ limit) (now : ℚ) :
    Buckets.decisionsFor tenantId Dict.empty (AllowCall.under tenantId limit [now]) = [true] := by
  have hle : (1 : ℚ) ≤ limit := by exact_mod_cast hlimit
  have hfound : 1 ≤ Buckets.found Dict.empty ⟨tenantId, limit, now⟩ := by
    rw [Buckets.found_of_fresh rfl]
    exact le_max_of_le_left hle
  simp only [AllowCall.under, List.map_cons, List.map_nil, Buckets.decisionsFor, if_true]
  rw [(Buckets.perform_cases _ _).1]
  simp [hfound]

/-- The property holds of a policy: whatever the buckets hold and whenever the requests
come, a throttled tenant has had at most as many of them admitted as the same tenant
active, at every point. -/
def ThrottledAdmitsLe (policy : TenantPolicy) : Prop :=
  ∀ (s : GatewayState) (times : List ℚ), times.Pairwise (· ≤ ·) → ∀ k,
    ((rateLimited app oracle { policy with state := .throttled } s times).take k).count true ≤
      ((rateLimited app oracle { policy with state := .active } s times).take k).count true

section Policy

variable {app oracle} {policy : TenantPolicy}

/-- A tenant without a limit is let in once when it is throttled. -/
theorem one_le_of_throttledAdmitsLe (h : ThrottledAdmitsLe app oracle policy) :
    1 ≤ policy.rpmLimit := by
  by_contra hlow
  have hone := one_lt_floatOverflow
  have hdiv : policy.rpmLimit / throttleFactor < 1 := by
    unfold throttleFactor
    omega
  have hactive : effectiveLimit { policy with state := .active } = policy.rpmLimit := rfl
  have hthrottled : effectiveLimit { policy with state := .throttled } = 1 :=
    max_eq_left hdiv.le
  have hfirst := h (.fresh 0 Dict.empty) [0] (List.pairwise_singleton _ _) 1
  rw [rateLimited_eq app oracle (by omega), rateLimited_eq app oracle (by omega), hactive,
    hthrottled] at hfirst
  change ((Buckets.decisionsFor policy.tenantId Dict.empty
    (AllowCall.under policy.tenantId 1 [0])).take 1).count true ≤
      ((Buckets.decisionsFor policy.tenantId Dict.empty
        (AllowCall.under policy.tenantId policy.rpmLimit [0])).take 1).count true at hfirst
  rw [admitted_of_one_le policy.tenantId le_rfl 0,
    refused_of_lt_one policy.tenantId (not_le.mp hlow) 0] at hfirst
  exact absurd hfirst (by decide)

/-- Between the range of floats and five times that, only the throttled tenant is let in. -/
theorem not_between_of_throttledAdmitsLe (h : ThrottledAdmitsLe app oracle policy) :
    ¬ (floatOverflow ≤ policy.rpmLimit ∧ policy.rpmLimit < throttleFactor * floatOverflow) := by
  rintro ⟨hlow, hhigh⟩
  have hactive : floatOverflow ≤ effectiveLimit { policy with state := .active } := hlow
  have hthrottled : effectiveLimit { policy with state := .throttled } < floatOverflow :=
    not_le.mp fun hle => absurd ((floatOverflow_le_max_iff _).mp hle) (not_le.mpr hhigh)
  have hfirst := h (.fresh 0 Dict.empty) [0] (List.pairwise_singleton _ _) 1
  rw [rateLimited_eq app oracle hthrottled, count_rateLimited_overflow app oracle hactive] at hfirst
  have hadmitted := admitted_of_one_le policy.tenantId
    (le_max_left 1 (policy.rpmLimit / throttleFactor)) 0
  change ((Buckets.decisionsFor policy.tenantId Dict.empty
    (AllowCall.under policy.tenantId (max 1 (policy.rpmLimit / throttleFactor)) [0])).take 1).count
      true ≤ 0 at hfirst
  rw [hadmitted] at hfirst
  exact absurd hfirst (by decide)

/-- **When throttling is never more permissive**: for the limits from one on, except those
that `float` refuses while it takes a fifth of them. -/
theorem throttled_admits_le_iff : ThrottledAdmitsLe app oracle policy ↔
    1 ≤ policy.rpmLimit ∧
      ¬ (floatOverflow ≤ policy.rpmLimit ∧ policy.rpmLimit < throttleFactor * floatOverflow) := by
  refine ⟨fun h => ⟨one_le_of_throttledAdmitsLe h, not_between_of_throttledAdmitsLe h⟩, ?_⟩
  rintro ⟨hone, hbetween⟩ s times hclock k
  by_cases hsmall : policy.rpmLimit < floatOverflow
  · have hle := (max_one_div_le_iff policy.rpmLimit).mpr hone
    have hactive : effectiveLimit { policy with state := .active } < floatOverflow := hsmall
    have hthrottled : effectiveLimit { policy with state := .throttled } < floatOverflow :=
      hle.trans_lt hsmall
    rw [rateLimited_eq app oracle hthrottled, rateLimited_eq app oracle hactive]
    exact Buckets.Behind.count_le hle times (.refl _) k
  · have hthrottled : floatOverflow ≤ effectiveLimit { policy with state := .throttled } :=
      (floatOverflow_le_max_iff _).mpr (not_lt.mp fun hlt => hbetween ⟨not_lt.mp hsmall, hlt⟩)
    rw [count_rateLimited_overflow app oracle hthrottled]
    exact Nat.zero_le _

end Policy

end States

/-- A tenant whose limit is zero: active it gets nothing, throttled one request. -/
theorem throttled_outpaces_active :
    ¬ ∀ (app : App) (oracle : (q : Query) → Answer q) (policy : TenantPolicy),
      ThrottledAdmitsLe app oracle policy := by
  intro hall
  have hfirst := hall App.oneKey failingWorld { tenantId := "t", rpmLimit := 0 }
    (.fresh 0 Dict.empty) [0] (by decide +kernel) 1
  exact absurd hfirst (by decide +kernel)

end BedrockGateway
