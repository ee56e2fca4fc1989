/-
# Readings of the clock from before the lock

`allow` reads the clock and only then takes the lock, so two callers' readings may
reach the bucket in the other order. A stale reading moves the bucket's last
refill back, and the time since then is credited again to the next caller. What
the limiter promises is kept in every run in which no reading is older than the
bucket it is applied to.
-/

import BedrockGateway.EventLoop
import BedrockGateway.Policy.TokenBucket

namespace BedrockGateway

open Foundation Py

/-- A caller of the limiter. -/
structure RateCheck where
  tenantId : String
  rpmLimit : ℤ

/-- Threads calling the rate limiter. -/
def limiterThreads (app : App) :
    Machine Query Answer GatewayState RateCheck (Except Exn Bool) where
  passes := Elapses
  sem := Answers app
  yields := fun _ => True
  program := fun check => (rateLimiterAllow check.tenantId check.rpmLimit).run

theorem limiterThreads_overGateway (app : App) : OverGateway app (limiterThreads app) := ⟨rfl, rfl⟩

section Log

variable {J R : Type}

/-- The locked section an entry runs, with the reading it works on. -/
def takeOf (entry : Entry Answer GatewayState J R) : Option AllowCall :=
  match entry.action with
  | .did ⟨.bucketTake tenantId rpmLimit now, _⟩ => some ⟨tenantId, rpmLimit, now⟩
  | _ => none

/-- The decision an entry makes on a call of the tenant's. -/
def decisionOf (tenantId : String) (entry : Entry Answer GatewayState J R) : Option Bool :=
  match entry.action with
  | .did ⟨.bucketTake other _ _, allowed⟩ => if other = tenantId then some allowed else none
  | _ => none

/-- The calls of a tenant that a log admits. -/
def admittedIn (tenantId : String) (log : List (Entry Answer GatewayState J R)) : ℕ :=
  (log.filterMap (decisionOf tenantId)).count true

/-- Where a tenant's calls all have the same limit and read the clock in a period,
no more of them are admitted than the limit and its share of the period. -/
def RateBounded (tenantId : String) (rpmLimit : ℤ) (first last : ℚ)
    (log : List (Entry Answer GatewayState J R)) : Prop :=
  (∀ entry ∈ log, ∀ call ∈ takeOf entry, call.tenantId = tenantId →
    call.rpmLimit = rpmLimit ∧ first ≤ call.now ∧ call.now ≤ last) →
  (admittedIn tenantId log : ℚ) ≤ rpmLimit + (last - first) * (rpmLimit / 60)

/-- No locked section of the tenant's works on a reading from before the bucket's
last refill. -/
def NeverStale (tenantId : String) (log : List (Entry Answer GatewayState J R)) : Prop :=
  ∀ entry ∈ log, ∀ call ∈ takeOf entry, call.tenantId = tenantId →
    ∀ bucket ∈ entry.before.buckets.get? tenantId, bucket.lastRefill ≤ call.now

variable {app : App} {M : Machine Query Answer GatewayState J R}

/-- What an entry can do to the buckets. -/
theorem OverGateway.bucket_cases (hM : OverGateway app M) {entry : Entry Answer GatewayState J R}
    (h : M.Valid entry) (tenantId : String) :
    (∃ call, takeOf entry = some call ∧
      entry.after.buckets = (entry.before.buckets.perform call).2 ∧
      decisionOf tenantId entry =
        if call.tenantId = tenantId then some (entry.before.buckets.perform call).1 else none) ∨
    (takeOf entry = none ∧ decisionOf tenantId entry = none ∧
      entry.after.buckets = entry.before.buckets) := by
  rcases hM.valid_cases h with ⟨q, a, haction, hanswers⟩ | ⟨hnone, heq⟩
  · cases q with
    | bucketTake other rpmLimit now =>
        obtain ⟨hallowed, hafter⟩ := hanswers
        apply Or.inl
        refine ⟨⟨other, rpmLimit, now⟩, by simp [takeOf, haction], by rw [hafter]; rfl, ?_⟩
        simp only [decisionOf, haction, hallowed]
        rfl
    | _ =>
        apply Or.inr
        refine ⟨by simp [takeOf, haction], by simp [decisionOf, haction], ?_⟩
        unfold Answers at hanswers
        simp only [answer] at hanswers
        first
          | rw [hanswers]
          | rw [hanswers.2]
  · apply Or.inr
    refine ⟨?_, ?_, by rw [heq]⟩
    · cases haction : entry.action <;> simp_all [takeOf]
    · cases haction : entry.action <;> simp_all [decisionOf]

/-- **The buckets replay the log**: what it decides for a tenant is what the limiter
decides on the sequence of its locked sections. -/
theorem OverGateway.decisions_eq (hM : OverGateway app M) {s s' : GatewayState}
    {log : List (Entry Answer GatewayState J R)} (hreplay : M.Replay s log s')
    (tenantId : String) :
    log.filterMap (decisionOf tenantId) =
      Buckets.decisionsFor tenantId s.buckets (log.filterMap takeOf) := by
  induction log generalizing s with
  | nil => rfl
  | cons entry log ih =>
      obtain ⟨hpasses, hvalid, hrest⟩ := hreplay
      have htail := ih hrest
      rw [hM.passes_eq] at hpasses
      obtain ⟨now, _, hbefore⟩ := hpasses
      have hbuckets : entry.before.buckets = s.buckets := by rw [hbefore]
      rcases hM.bucket_cases hvalid tenantId with ⟨call, htake, hafter, hdecision⟩ |
        ⟨htake, hdecision, hafter⟩
      · rw [hafter, hbuckets] at htail
        rw [hbuckets] at hdecision
        rw [List.filterMap_cons_some htake, Buckets.decisionsFor]
        by_cases hown : call.tenantId = tenantId
        · rw [if_pos hown] at hdecision
          simp only [if_pos hown]
          rw [List.filterMap_cons_some hdecision, htail]
        · rw [if_neg hown] at hdecision
          simp only [if_neg hown]
          rw [List.filterMap_cons_none hdecision, htail]
      · rw [hafter, hbuckets] at htail
        rw [List.filterMap_cons_none htake, List.filterMap_cons_none hdecision, htail]

/-- Without stale readings, a tenant's readings reach its bucket in the order of time. -/
theorem NeverStale.ordered (hM : OverGateway app M) {tenantId : String} {s s' : GatewayState}
    {log : List (Entry Answer GatewayState J R)} (hreplay : M.Replay s log s')
    (hnever : NeverStale tenantId log) :
    ((AllowCall.own tenantId (log.filterMap takeOf)).map AllowCall.now).Pairwise (· ≤ ·) ∧
      ∀ bucket, s.buckets.get? tenantId = some bucket →
        ∀ call ∈ AllowCall.own tenantId (log.filterMap takeOf), bucket.lastRefill ≤ call.now := by
  induction log generalizing s with
  | nil => exact ⟨.nil, by simp [AllowCall.own]⟩
  | cons entry log ih =>
      obtain ⟨hpasses, hvalid, hrest⟩ := hreplay
      have htail := ih hrest fun other hmem => hnever other (List.mem_cons_of_mem _ hmem)
      rw [hM.passes_eq] at hpasses
      obtain ⟨now, _, hbefore⟩ := hpasses
      have hbuckets : entry.before.buckets = s.buckets := by rw [hbefore]
      rcases hM.bucket_cases hvalid tenantId with ⟨call, htake, hafter, _⟩ | ⟨htake, _, hafter⟩
      · rw [List.filterMap_cons_some htake]
        by_cases hown : call.tenantId = tenantId
        · -- the bucket's last refill is now this call's reading
          have hleft := (Buckets.perform_cases entry.before.buckets call).2
          rw [← hafter, hown] at hleft
          have hlater := htail.2 _ hleft
          have hcons : AllowCall.own tenantId (call :: log.filterMap takeOf) =
              call :: AllowCall.own tenantId (log.filterMap takeOf) :=
            List.filter_cons_of_pos (by simpa using hown)
          rw [hcons]
          constructor
          · rw [List.map_cons, List.pairwise_cons]
            refine ⟨fun time hmem => ?_, htail.1⟩
            obtain ⟨other, hother, rfl⟩ := List.mem_map.mp hmem
            exact hlater other hother
          · intro bucket hget other hmem
            have hfirst := hnever entry List.mem_cons_self call htake hown bucket
              (by rw [hbuckets]; exact hget)
            rcases List.mem_cons.mp hmem with rfl | hmore
            · exact hfirst
            · exact hfirst.trans (hlater other hmore)
        · have hskip : AllowCall.own tenantId (call :: log.filterMap takeOf) =
              AllowCall.own tenantId (log.filterMap takeOf) :=
            List.filter_cons_of_neg (by simpa using hown)
          have hsame := Buckets.get?_perform_of_ne entry.before.buckets hown
          rw [← hafter, hbuckets] at hsame
          rw [hskip]
          exact ⟨htail.1, fun bucket hget => htail.2 bucket (hsame.trans hget)⟩
      · rw [List.filterMap_cons_none htake]
        rw [hafter, hbuckets] at htail
        exact htail

theorem rateBounded_of_neverStale (hM : OverGateway app M) {tenantId : String}
    {s s' : GatewayState} {log : List (Entry Answer GatewayState J R)}
    (hreplay : M.Replay s log s') (hfresh : s.buckets.get? tenantId = none)
    (hnever : NeverStale tenantId log) {rpmLimit : ℤ} (hlimit : 1 ≤ rpmLimit) {first last : ℚ}
    (hperiod : first ≤ last) : RateBounded tenantId rpmLimit first last log := by
  intro hcalls
  have hordered := (NeverStale.ordered hM hreplay hnever).1
  have hown : ∀ call ∈ AllowCall.own tenantId (log.filterMap takeOf),
      call.tenantId = tenantId ∧ call.rpmLimit = rpmLimit ∧ first ≤ call.now ∧
        call.now ≤ last := by
    intro call hmem
    obtain ⟨hmem, htenant⟩ := List.mem_filter.mp hmem
    have htenant : call.tenantId = tenantId := by simpa using htenant
    obtain ⟨entry, hentry, htake⟩ := List.mem_filterMap.mp hmem
    exact ⟨htenant, hcalls entry hentry call htake htenant⟩
  have hempty : s.buckets.get? tenantId = (Dict.empty : Buckets).get? tenantId := hfresh
  rw [admittedIn, hM.decisions_eq hreplay, Buckets.decisionsFor_own hempty]
  exact Buckets.count_admitted_le (by omega) hown hordered hperiod

end Log

variable {app : App} {s : GatewayState} {c : Config Answer GatewayState RateCheck (Except Exn Bool)}

/-- **The rate bound under concurrent callers**, in every run in which no reading is
stale. -/
theorem limiterThreads_rateBounded (h : (limiterThreads app).Reachable s c) {tenantId : String}
    (hfresh : s.buckets.get? tenantId = none) (hnever : NeverStale tenantId c.log)
    {rpmLimit : ℤ} (hlimit : 1 ≤ rpmLimit) {first last : ℚ} (hperiod : first ≤ last) :
    RateBounded tenantId rpmLimit first last c.log :=
  rateBounded_of_neverStale (limiterThreads_overGateway app) h.replay hfresh hnever hlimit hperiod

/-! ## Two runs -/

/-- Play calls of the limiter. -/
def limiterThreadsDriver (app : App) : Driver (limiterThreads app) :=
  (limiterThreads_overGateway app).driver (fun _ => true) fun _ => ⟨fun _ => trivial, fun _ => rfl⟩

/-- Two calls a minute apart, one after the other. -/
def promptReadings : Config Answer GatewayState RateCheck (Except Exn Bool) :=
  (limiterThreadsDriver App.plain).play (Machine.initial (.fresh 0 Dict.empty)) [
    { tid := 0, job := some ⟨"t", 1⟩, oracle := failingWorld },
    { tid := 0, oracle := failingWorld },
    { tid := 0, oracle := failingWorld },
    { tid := 1, job := some ⟨"t", 1⟩, oracle := failingWorld },
    { tid := 1, delay := 60, oracle := failingWorld },
    { tid := 1, oracle := failingWorld }]

/-- Both are admitted, which is all the bound leaves room for. -/
theorem limiterThreads_rateBounded_promptReadings :
    admittedIn "t" promptReadings.log = 2 ∧ RateBounded "t" 1 0 60 promptReadings.log := by
  have hnever : NeverStale "t" promptReadings.log := by
    unfold NeverStale
    decide +kernel
  have hbounded := limiterThreads_rateBounded (Driver.play_reachable ..) rfl hnever le_rfl
    (show (0 : ℚ) ≤ 60 by decide +kernel)
  exact ⟨by decide +kernel, hbounded⟩

/-- Four calls under a limit of one. A is admitted. B has read the clock but not
taken the lock. A minute later C is admitted, then B is refused and moves the last
refill back, so that D is credited the same minute again. -/
def staleReading : Config Answer GatewayState RateCheck (Except Exn Bool) :=
  (limiterThreadsDriver App.plain).play (Machine.initial (.fresh 0 Dict.empty)) [
    { tid := 0, job := some ⟨"t", 1⟩, oracle := failingWorld },
    { tid := 1, job := some ⟨"t", 1⟩, oracle := failingWorld },
    { tid := 0, oracle := failingWorld },
    { tid := 1, oracle := failingWorld },
    { tid := 0, oracle := failingWorld },
    { tid := 2, job := some ⟨"t", 1⟩, delay := 60, oracle := failingWorld },
    { tid := 2, oracle := failingWorld },
    { tid := 2, oracle := failingWorld },
    { tid := 1, oracle := failingWorld },
    { tid := 3, job := some ⟨"t", 1⟩, oracle := failingWorld },
    { tid := 3, oracle := failingWorld },
    { tid := 3, oracle := failingWorld }]

/-- Three calls are admitted within a minute whose limit and refill amount to two. -/
theorem stale_reading_credits_twice :
    ∃ c, (limiterThreads App.plain).Reachable (.fresh 0 Dict.empty) c ∧
      ¬ RateBounded "t" 1 0 60 c.log := by
  refine ⟨staleReading, Driver.play_reachable .., fun h => ?_⟩
  have hcalls : ∀ entry ∈ staleReading.log, ∀ call ∈ takeOf entry, call.tenantId = "t" →
      call.rpmLimit = 1 ∧ 0 ≤ call.now ∧ call.now ≤ 60 := by decide +kernel
  have hlt : ((1 : ℤ) : ℚ) + (60 - 0) * ((1 : ℤ) / 60) < admittedIn "t" staleReading.log := by
    decide +kernel
  exact absurd (h hcalls) (not_le.mpr hlt)

end BedrockGateway
