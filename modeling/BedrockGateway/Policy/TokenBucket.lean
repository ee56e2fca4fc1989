/-
# The per-tenant token bucket

A bucket holds at most one minute's worth of requests and refills continuously.
The clock is read before the lock is taken, so the instant a bucket is refilled
to is an argument of the critical section, not the instant at which it runs.

What it admits is counted as in general. A tenant's bucket is a capped reservoir: the
cap is the call's capacity, the refill is what the time since the tenant's previous
call is worth at the call's own rate, and an admitted call spends one token. The
limit may be a different one at every call. The calls of other tenants leave no trace.
-/

import BedrockGateway.Foundation.Dict
import BedrockGateway.Foundation.Reservoir
import Mathlib.Algebra.BigOperators.Ring.Finset
import Mathlib.Algebra.Order.Ring.Rat
import Mathlib.Tactic.NormNum
import Mathlib.Tactic.Ring

namespace BedrockGateway

open Foundation

/-! ## The bucket -/

/-- `_Bucket` -/
structure Bucket where
  tokens : ℚ
  lastRefill : ℚ
  deriving DecidableEq

/-- `TokenBucketRateLimiter._buckets` -/
abbrev Buckets := Dict String Bucket

namespace Buckets

/-- The tokens of a bucket refilled to the instant `now`. -/
def refill (capacity now : ℚ) (bucket : Bucket) : ℚ :=
  let elapsed := max 0 (now - bucket.lastRefill)
  min capacity (bucket.tokens + elapsed * (capacity / 60))

/-- The locked part of `TokenBucketRateLimiter.allow`: refill, then consume one
token if there is one. The arithmetic is exact where the code's is in floats. -/
def take (buckets : Buckets) (tenantId : String) (rpmLimit : ℤ) (now : ℚ) : Bool × Buckets :=
  let capacity : ℚ := max rpmLimit 0
  let bucket := (buckets.get? tenantId).getD ⟨capacity, now⟩
  let tokens := refill capacity now bucket
  if 1 ≤ tokens then (true, buckets.set tenantId ⟨tokens - 1, now⟩)
  else (false, buckets.set tenantId ⟨tokens, now⟩)

end Buckets

/-- `float(n)` is too large for a float, and raises, from this integer on: half a step
beyond the largest one. -/
def floatOverflow : ℤ := (2 ^ 1024 - 2 ^ 970 : ℕ)

theorem one_lt_floatOverflow : 1 < floatOverflow := by decide +kernel

/-! ## Calls -/

/-- A call of `allow`, with the instant the clock showed. -/
structure AllowCall where
  tenantId : String
  rpmLimit : ℤ
  now : ℚ
  deriving DecidableEq

namespace AllowCall

/-- `capacity` -/
def capacity (call : AllowCall) : ℚ := max call.rpmLimit 0

/-- The calls of one tenant. -/
def own (tenantId : String) (calls : List AllowCall) : List AllowCall :=
  calls.filter (·.tenantId = tenantId)

/-- The instant of the `k`th call. -/
def timeAt (calls : List AllowCall) (k : ℕ) : ℚ := (calls[k]?.map AllowCall.now).getD 0

/-- The capacity at the `k`th call. -/
def capacityAt (calls : List AllowCall) (k : ℕ) : ℚ := (calls[k]?.map capacity).getD 0

/-- What the time between a call and its predecessor is worth at the call's rate. -/
def refillAt (calls : List AllowCall) (k : ℕ) : ℚ :=
  (timeAt calls k - timeAt calls (k - 1)) * (capacityAt calls k / 60)

theorem capacityAt_nonneg (calls : List AllowCall) (k : ℕ) : 0 ≤ capacityAt calls k := by
  unfold capacityAt
  cases calls[k]? with
  | none => exact le_rfl
  | some call => exact le_max_right _ _

theorem capacityAt_of_length_le {calls : List AllowCall} {k : ℕ} (hk : calls.length ≤ k) :
    capacityAt calls k = 0 := by
  rw [capacityAt, List.getElem?_eq_none hk]
  rfl

theorem timeAt_of_lt {calls : List AllowCall} {k : ℕ} (hk : k < calls.length) :
    timeAt calls k = calls[k].now := by
  rw [timeAt, List.getElem?_eq_getElem hk]
  rfl

theorem capacityAt_of_lt {calls : List AllowCall} {k : ℕ} (hk : k < calls.length) :
    capacityAt calls k = calls[k].capacity := by
  rw [capacityAt, List.getElem?_eq_getElem hk]
  rfl

/-- In the order of time, a call comes no earlier than its predecessor. -/
theorem timeAt_pred_le {calls : List AllowCall}
    (hclock : (calls.map AllowCall.now).Pairwise (· ≤ ·)) {k : ℕ} (hk : k < calls.length) :
    timeAt calls (k - 1) ≤ timeAt calls k := by
  cases k with
  | zero => exact le_rfl
  | succ k =>
      have hbefore : k < calls.length := Nat.lt_of_succ_lt hk
      have hpairs := List.pairwise_iff_getElem.mp hclock k (k + 1)
        (by simpa using hbefore) (by simpa using hk) (Nat.lt_succ_self k)
      rw [Nat.add_sub_cancel, timeAt_of_lt hk, timeAt_of_lt hbefore]
      simpa using hpairs

theorem refillAt_nonneg {calls : List AllowCall}
    (hclock : (calls.map AllowCall.now).Pairwise (· ≤ ·)) (k : ℕ) : 0 ≤ refillAt calls k := by
  rcases Nat.lt_or_ge k calls.length with hk | hk
  · have helapsed := sub_nonneg.mpr (timeAt_pred_le hclock hk)
    have hrate : 0 ≤ capacityAt calls k / 60 := div_nonneg (capacityAt_nonneg calls k) (by norm_num)
    exact mul_nonneg helapsed hrate
  · rw [refillAt, capacityAt_of_length_le hk]
    simp

end AllowCall

namespace Buckets

/-- `allow`, as the call it is. -/
def perform (buckets : Buckets) (call : AllowCall) : Bool × Buckets :=
  buckets.take call.tenantId call.rpmLimit call.now

/-- The buckets a sequence of calls leaves. -/
def performAll (buckets : Buckets) (calls : List AllowCall) : Buckets :=
  calls.foldl (fun buckets call => (buckets.perform call).2) buckets

/-- The decisions on one tenant's calls in a sequence of calls. -/
def decisionsFor (tenantId : String) : Buckets → List AllowCall → List Bool
  | _, [] => []
  | buckets, call :: calls =>
      let step := buckets.perform call
      if call.tenantId = tenantId then step.1 :: decisionsFor tenantId step.2 calls
      else decisionsFor tenantId step.2 calls

/-- The number of calls admitted in a window. -/
def admitted (decisions : List Bool) (window : Finset ℕ) : ℕ :=
  {k ∈ window | decisions[k]? = some true}.card

/-- What a call spends. -/
private def spentAt (decisions : List Bool) (k : ℕ) : ℚ :=
  if decisions[k]? = some true then 1 else 0

/-! ## One call -/

theorem get?_perform_of_ne (buckets : Buckets) {call : AllowCall} {tenantId : String}
    (hne : call.tenantId ≠ tenantId) :
    (buckets.perform call).2.get? tenantId = buckets.get? tenantId := by
  unfold perform take
  dsimp only
  split <;> exact Dict.get?_set_of_ne _ _ hne.symm

/-- A call reads and writes its own tenant's bucket only. -/
theorem perform_congr {buckets buckets' : Buckets} {call : AllowCall}
    (hsame : buckets.get? call.tenantId = buckets'.get? call.tenantId) :
    (buckets.perform call).1 = (buckets'.perform call).1 ∧
      (buckets.perform call).2.get? call.tenantId =
        (buckets'.perform call).2.get? call.tenantId := by
  unfold perform take
  rw [hsame]
  dsimp only
  split <;> simp

/-- The tokens a call finds in its tenant's bucket. -/
def found (buckets : Buckets) (call : AllowCall) : ℚ :=
  refill call.capacity call.now
    ((buckets.get? call.tenantId).getD ⟨call.capacity, call.now⟩)

/-- A call is admitted on a whole token, which it consumes. -/
theorem perform_cases (buckets : Buckets) (call : AllowCall) :
    (buckets.perform call).1 = decide (1 ≤ buckets.found call) ∧
      (buckets.perform call).2.get? call.tenantId =
        some ⟨buckets.found call - (if 1 ≤ buckets.found call then 1 else 0), call.now⟩ := by
  have htake : buckets.perform call =
      if 1 ≤ buckets.found call then
        (true, buckets.set call.tenantId ⟨buckets.found call - 1, call.now⟩)
      else (false, buckets.set call.tenantId ⟨buckets.found call, call.now⟩) := rfl
  rw [htake]
  split
  case isTrue h => simp [h]
  case isFalse h => simp [h]

/-! ## Sequences of calls -/

theorem performAll_append (buckets : Buckets) (calls more : List AllowCall) :
    buckets.performAll (calls ++ more) = (buckets.performAll calls).performAll more :=
  List.foldl_append

/-- **Isolation**: the decisions on a tenant's calls are those it would get alone. -/
theorem decisionsFor_own {tenantId : String} {buckets buckets' : Buckets}
    (hsame : buckets.get? tenantId = buckets'.get? tenantId) (calls : List AllowCall) :
    decisionsFor tenantId buckets calls =
      decisionsFor tenantId buckets' (AllowCall.own tenantId calls) := by
  induction calls generalizing buckets buckets' with
  | nil => rfl
  | cons call calls ih =>
      by_cases hown : call.tenantId = tenantId
      · subst hown
        have hstep := perform_congr hsame
        simp only [AllowCall.own, List.filter_cons, decide_true, if_true, decisionsFor]
        rw [hstep.1]
        exact congrArg _ (ih hstep.2)
      · have hkept := get?_perform_of_ne buckets hown
        simp only [AllowCall.own, List.filter_cons, hown, decide_false, decisionsFor]
        exact ih (hkept.trans hsame)

/-- On calls of one tenant, each call has its decision. -/
theorem decisionsFor_getElem? {tenantId : String} {calls : List AllowCall} (buckets : Buckets)
    (hown : ∀ call ∈ calls, call.tenantId = tenantId) (i : ℕ) :
    (decisionsFor tenantId buckets calls)[i]? =
      calls[i]?.map fun call => ((buckets.performAll (calls.take i)).perform call).1 := by
  induction calls generalizing buckets i with
  | nil => simp [decisionsFor]
  | cons call calls ih =>
      have hcall := hown call List.mem_cons_self
      simp only [decisionsFor, if_pos hcall]
      cases i with
      | zero => simp [performAll]
      | succ i =>
          have hrest := fun other hmem => hown other (List.mem_cons_of_mem call hmem)
          simpa [performAll] using ih (buckets.perform call).2 hrest i

/-! ## The bucket as a reservoir -/

section Alone

variable {tenantId : String} {calls : List AllowCall}

/-- The level of the reservoir at a call. -/
private def levelAt (calls : List AllowCall) (decisions : List Bool) (i : ℕ) : ℚ :=
  level (AllowCall.capacityAt calls) (AllowCall.refillAt calls) (spentAt decisions) i

/-- The tokens found by the first call, and by one that follows another. -/
theorem found_of_get? {buckets : Buckets} {call : AllowCall} {tokens last : ℚ}
    (hget : buckets.get? call.tenantId = some ⟨tokens, last⟩) (hle : last ≤ call.now) :
    buckets.found call =
      min call.capacity (tokens + (call.now - last) * (call.capacity / 60)) := by
  have helapsed : max 0 (call.now - last) = call.now - last := max_eq_right (sub_nonneg.mpr hle)
  rw [found, hget, Option.getD_some, refill]
  simp only [helapsed]

theorem found_of_fresh {buckets : Buckets} {call : AllowCall}
    (hget : buckets.get? call.tenantId = none) : buckets.found call = call.capacity := by
  rw [found, hget, Option.getD_none, refill]
  simp

/-- Every call of a tenant's own has a decision. -/
theorem length_decisionsFor (buckets : Buckets) (hown : ∀ call ∈ calls, call.tenantId = tenantId) :
    (decisionsFor tenantId buckets calls).length = calls.length := by
  induction calls generalizing buckets with
  | nil => rfl
  | cons call calls ih =>
      have hrest := fun other hmem => hown other (List.mem_cons_of_mem call hmem)
      simp only [decisionsFor, if_pos (hown call List.mem_cons_self), List.length_cons]
      rw [ih _ hrest]

/-- The decision on a call is whether it finds a whole token. -/
private theorem decision_eq (hown : ∀ call ∈ calls, call.tenantId = tenantId) {i : ℕ}
    (hi : i < calls.length) :
    (decisionsFor tenantId Dict.empty calls)[i]? =
      some (decide (1 ≤ (performAll Dict.empty (calls.take i)).found calls[i])) := by
  rw [decisionsFor_getElem? _ hown, List.getElem?_eq_getElem hi, Option.map_some,
    (perform_cases _ _).1]

/-- What a call leaves in the bucket, in terms of what it found. -/
private theorem get?_after_call (hown : ∀ call ∈ calls, call.tenantId = tenantId) {i : ℕ}
    (hi : i < calls.length) :
    (performAll Dict.empty (calls.take (i + 1))).get? tenantId =
      some ⟨(performAll Dict.empty (calls.take i)).found calls[i] -
        spentAt (decisionsFor tenantId Dict.empty calls) i, AllowCall.timeAt calls i⟩ := by
  have hcall : calls[i].tenantId = tenantId := hown _ (List.getElem_mem hi)
  have hstep : performAll Dict.empty (calls.take (i + 1)) =
      ((performAll Dict.empty (calls.take i)).perform calls[i]).2 := by
    rw [List.take_succ_eq_append_getElem hi, performAll_append]
    rfl
  have hleft := (perform_cases (performAll Dict.empty (calls.take i)) calls[i]).2
  rw [hcall] at hleft
  rw [hstep, hleft, AllowCall.timeAt_of_lt hi, spentAt, decision_eq hown hi]
  simp

/-- **The bucket follows the reservoir.** -/
private theorem found_eq_level (hown : ∀ call ∈ calls, call.tenantId = tenantId)
    (hclock : (calls.map AllowCall.now).Pairwise (· ≤ ·)) {i : ℕ} (hi : i < calls.length) :
    (performAll Dict.empty (calls.take i)).found calls[i] =
      levelAt calls (decisionsFor tenantId Dict.empty calls) i := by
  induction i with
  | zero =>
      rw [levelAt, level, AllowCall.capacityAt_of_lt hi, List.take_zero]
      exact found_of_fresh rfl
  | succ i ih =>
      have hbefore : i < calls.length := Nat.lt_of_succ_lt hi
      have hle := AllowCall.timeAt_pred_le hclock hi
      rw [Nat.add_sub_cancel, AllowCall.timeAt_of_lt hi] at hle
      have hget := get?_after_call hown hbefore
      rw [ih hbefore, ← hown _ (List.getElem_mem hi)] at hget
      have hlevel : levelAt calls (decisionsFor tenantId Dict.empty calls) (i + 1) =
          min (AllowCall.capacityAt calls (i + 1))
            (levelAt calls (decisionsFor tenantId Dict.empty calls) i -
              spentAt (decisionsFor tenantId Dict.empty calls) i +
              AllowCall.refillAt calls (i + 1)) := rfl
      rw [found_of_get? hget hle, hown _ (List.getElem_mem hi), hlevel, AllowCall.refillAt,
        AllowCall.capacityAt_of_lt hi, AllowCall.timeAt_of_lt hi, Nat.add_sub_cancel]

end Alone

/-- What is spent in a window is the number of calls admitted in it. -/
private theorem sum_spentAt (decisions : List Bool) (window : Finset ℕ) :
    ∑ k ∈ window, spentAt decisions k = admitted decisions window :=
  Finset.sum_boole _ _

section Alone

variable {tenantId : String} {calls : List AllowCall}

/-- A call is admitted exactly when the reservoir holds a token. -/
private theorem decision_iff (hown : ∀ call ∈ calls, call.tenantId = tenantId)
    (hclock : (calls.map AllowCall.now).Pairwise (· ≤ ·)) {i : ℕ} (hi : i < calls.length) :
    (decisionsFor tenantId Dict.empty calls)[i]? = some true ↔
      1 ≤ levelAt calls (decisionsFor tenantId Dict.empty calls) i := by
  rw [decision_eq hown hi, found_eq_level hown hclock hi]
  simp

/-- **No window admits more than its burst plus its refill.** -/
theorem admitted_le (hown : ∀ call ∈ calls, call.tenantId = tenantId)
    (hclock : (calls.map AllowCall.now).Pairwise (· ≤ ·)) {j i : ℕ} (hji : j ≤ i) :
    (admitted (decisionsFor tenantId Dict.empty calls) (Finset.Icc j i) : ℚ) ≤
      AllowCall.capacityAt calls j + ∑ k ∈ Finset.Ioc j i, AllowCall.refillAt calls k := by
  have hspent : ∀ k, spentAt (decisionsFor tenantId Dict.empty calls) k ≤ 0 ∨
      spentAt (decisionsFor tenantId Dict.empty calls) k ≤
        levelAt calls (decisionsFor tenantId Dict.empty calls) k := by
    intro k
    by_cases hadmitted : (decisionsFor tenantId Dict.empty calls)[k]? = some true
    · have hk : k < calls.length := by
        rw [← length_decisionsFor Dict.empty hown]
        exact (List.getElem?_eq_some_iff.mp hadmitted).1
      rw [spentAt, if_pos hadmitted]
      exact .inr ((decision_iff hown hclock hk).mp hadmitted)
    · rw [spentAt, if_neg hadmitted]
      exact .inl le_rfl
  have hwindow := sum_spent_le _ _ _ (AllowCall.capacityAt_nonneg calls)
    (AllowCall.refillAt_nonneg hclock) hspent hji
  rwa [sum_spentAt, Finset.Ico_add_one_right_eq_Icc] at hwindow

/-- All decisions to admit are in the window of all calls. -/
private theorem count_eq_admitted (decisions : List Bool) :
    decisions.count true = admitted decisions (Finset.range decisions.length) := by
  induction decisions using List.reverseRecOn with
  | nil => rfl
  | append_singleton decisions last ih =>
      have hbefore : {k ∈ Finset.range decisions.length |
            (decisions ++ [last])[k]? = some true} =
          {k ∈ Finset.range decisions.length | decisions[k]? = some true} := by
        apply Finset.filter_congr
        intro k hk
        rw [List.getElem?_append_left (Finset.mem_range.mp hk)]
      rw [List.count_append, ih, List.length_append, List.length_singleton, admitted, admitted,
        Finset.range_add_one, Finset.filter_insert, hbefore]
      cases last <;> simp

/-- What a constant limit makes of the time since the first call. -/
private theorem sum_refillAt {limit : ℚ} (hlimit : ∀ call ∈ calls, call.capacity = limit) {i : ℕ}
    (hi : i < calls.length) :
    ∑ k ∈ Finset.Ioc 0 i, AllowCall.refillAt calls k =
      (AllowCall.timeAt calls i - AllowCall.timeAt calls 0) * (limit / 60) := by
  induction i with
  | zero => simp
  | succ i ih =>
      have hcap : AllowCall.capacityAt calls (i + 1) = limit := by
        rw [AllowCall.capacityAt_of_lt hi]
        exact hlimit _ (List.getElem_mem hi)
      rw [Finset.sum_Ioc_succ_top (Nat.zero_le i), ih (Nat.lt_of_succ_lt hi), AllowCall.refillAt,
        hcap, Nat.add_sub_cancel]
      ring

/-- **A constant limit**: in a period, no more calls are admitted than the limit and
its share of the period. -/
theorem count_admitted_le {rpmLimit : ℤ} {first last : ℚ} (hlimit : 0 ≤ rpmLimit)
    (hcalls : ∀ call ∈ calls, call.tenantId = tenantId ∧ call.rpmLimit = rpmLimit ∧
      first ≤ call.now ∧ call.now ≤ last)
    (hclock : (calls.map AllowCall.now).Pairwise (· ≤ ·)) (hperiod : first ≤ last) :
    ((decisionsFor tenantId Dict.empty calls).count true : ℚ) ≤
      rpmLimit + (last - first) * (rpmLimit / 60) := by
  have hown : ∀ call ∈ calls, call.tenantId = tenantId := fun call hmem => (hcalls call hmem).1
  have hcapacity : ∀ call ∈ calls, call.capacity = rpmLimit := by
    intro call hmem
    rw [AllowCall.capacity, (hcalls call hmem).2.1]
    exact max_eq_left (by exact_mod_cast hlimit)
  have hrate : (0 : ℚ) ≤ rpmLimit / 60 := div_nonneg (by exact_mod_cast hlimit) (by norm_num)
  rw [count_eq_admitted, length_decisionsFor _ hown]
  cases hlength : calls.length with
  | zero =>
      have hperiod' : (0 : ℚ) ≤ (last - first) * (rpmLimit / 60) :=
        mul_nonneg (sub_nonneg.mpr hperiod) hrate
      have hlimit' : (0 : ℚ) ≤ rpmLimit := by exact_mod_cast hlimit
      simpa [admitted] using add_nonneg hlimit' hperiod'
  | succ i =>
      have hfirst : 0 < calls.length := by omega
      have hlast : i < calls.length := by omega
      have hwindow := admitted_le hown hclock (Nat.zero_le i)
      rw [sum_refillAt hcapacity hlast, AllowCall.capacityAt_of_lt hfirst,
        hcapacity _ (List.getElem_mem hfirst), AllowCall.timeAt_of_lt hfirst,
        AllowCall.timeAt_of_lt hlast] at hwindow
      have hspan : calls[i].now - calls[0].now ≤ last - first :=
        sub_le_sub (hcalls _ (List.getElem_mem hlast)).2.2.2
          (hcalls _ (List.getElem_mem hfirst)).2.2.1
      have hall : Finset.range (i + 1) = Finset.Icc 0 i := by
        ext k
        simp
      rw [hall]
      exact hwindow.trans (add_le_add_right (mul_le_mul_of_nonneg_right hspan hrate) _)

end Alone

/-- **The exact law of the bucket.** The decisions on a tenant's calls, in any
sequence of calls in which its own come in the order of time: a call is admitted
exactly when it fits every window that ends at it; so no window admits more than
its burst plus its refill, and other tenants' calls play no part. -/
theorem tokenBucket_law (calls : List AllowCall) (tenantId : String)
    (hclock : ((AllowCall.own tenantId calls).map AllowCall.now).Pairwise (· ≤ ·)) :
    let own := AllowCall.own tenantId calls
    let decisions := decisionsFor tenantId Dict.empty calls
    decisions.length = own.length ∧
    (∀ i < own.length, decisions[i]? = some true ↔ ∀ j ≤ i,
      1 + (admitted decisions (Finset.Ico j i) : ℚ) ≤
        AllowCall.capacityAt own j + ∑ k ∈ Finset.Ioc j i, AllowCall.refillAt own k) ∧
    (∀ i < own.length, ∀ j ≤ i, (admitted decisions (Finset.Icc j i) : ℚ) ≤
      AllowCall.capacityAt own j + ∑ k ∈ Finset.Ioc j i, AllowCall.refillAt own k) ∧
    decisions = decisionsFor tenantId Dict.empty own := by
  intro own decisions
  have hown : ∀ call ∈ own, call.tenantId = tenantId := fun call hmem => by
    simpa using (List.mem_filter.mp hmem).2
  have halone : decisions = decisionsFor tenantId Dict.empty own := decisionsFor_own rfl calls
  constructor
  · rw [halone]
    exact length_decisionsFor _ hown
  constructor
  · intro i hi
    rw [halone, decision_iff hown hclock hi, levelAt, le_level_iff]
    simp only [sum_spentAt]
  constructor
  · intro i hi j hj
    rw [halone]
    exact admitted_le hown hclock hj
  · exact halone

/-- The law for a tenant that is throttled to one request a minute after its first
call, next to a neighbour without any limit left. -/
theorem tokenBucket_law_throttled :
    let calls : List AllowCall := [⟨"t", 2, 0⟩, ⟨"u", 0, 10⟩, ⟨"t", 1, 30⟩, ⟨"t", 1, 60⟩]
    let decisions := decisionsFor "t" Dict.empty calls
    decisions = [true, true, false] ∧
      (decisions[2]? = some true ↔ ∀ j ≤ 2,
        1 + (admitted decisions (Finset.Ico j 2) : ℚ) ≤
          AllowCall.capacityAt (AllowCall.own "t" calls) j +
            ∑ k ∈ Finset.Ioc j 2, AllowCall.refillAt (AllowCall.own "t" calls) k) := by
  intro calls decisions
  have hclock : ((AllowCall.own "t" calls).map AllowCall.now).Pairwise (· ≤ ·) := by
    decide +kernel
  have hlaw := tokenBucket_law calls "t" hclock
  exact ⟨by decide +kernel, hlaw.2.1 2 (by decide +kernel)⟩

end Buckets

end BedrockGateway
