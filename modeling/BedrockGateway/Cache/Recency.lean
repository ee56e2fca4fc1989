/-
# The response cache as a bounded map

Over any sequence of reads and writes the cache is a map from keys to what was last
written under them, cut off at the time to live, of which the most recently used
keys are kept. A write touches its key, and so does a read that hits; a read that
finds an entry past its time removes it, but such an entry was already lost.
-/

import BedrockGateway.Cache.Store
import BedrockGateway.Foundation.Recency

namespace BedrockGateway

open Foundation

/-- An operation on the cache, at the instant its clock shows. -/
inductive CacheOp
  | get (now : ℚ) (key : String)
  | set (now : ℚ) (key : String) (value : CachedResponse)

namespace CacheOp

/-- The instant of an operation. -/
def now : CacheOp → ℚ
  | .get now _ => now
  | .set now _ _ => now

/-- What was last written under a key, and when. -/
def lastSet (key : String) (ops : List CacheOp) : Option (ℚ × CachedResponse) :=
  ops.reverse.findSome? fun
    | .set now other value => if other = key then some (now, value) else none
    | .get _ _ => none

@[simp]
theorem lastSet_get (key : String) (ops : List CacheOp) (now : ℚ) (other : String) :
    lastSet key (ops ++ [.get now other]) = lastSet key ops := by
  simp [lastSet]

theorem lastSet_set (key : String) (ops : List CacheOp) (now : ℚ) (other : String)
    (value : CachedResponse) :
    lastSet key (ops ++ [.set now other value]) =
      if other = key then some (now, value) else lastSet key ops := by
  by_cases heq : other = key
  · simp [lastSet, heq]
  · simp [lastSet, heq]

end CacheOp

namespace ResponseCache

/-- The cache after an operation. -/
def perform (ttlS : ℚ) (maxEntries : ℤ) (cache : ResponseCache) : CacheOp → ResponseCache
  | .get now key => (cache.get ttlS now key).2
  | .set now key value => (cache.set maxEntries now key value).2

/-- The key an operation touches: a write's, or a hit's. -/
def touchedBy (ttlS : ℚ) (cache : ResponseCache) : CacheOp → Option String
  | .get now key => if (cache.get ttlS now key).1.isSome then some key else none
  | .set _ key _ => some key

/-- The empty cache after a sequence of operations, and the keys these touched. -/
def performAll (ttlS : ℚ) (maxEntries : ℤ) (ops : List CacheOp) : ResponseCache × List String :=
  ops.foldl (fun (cache, touched) op =>
    (cache.perform ttlS maxEntries op, touched ++ (cache.touchedBy ttlS op).toList))
    (Dict.empty, [])

/-! ## One operation -/

/-- A read misses, finds an entry past its time, or hits. -/
theorem get_cases (cache : ResponseCache) (ttlS now : ℚ) (key : String) :
    (cache.get? key = none ∧ cache.get ttlS now key = (none, cache)) ∨
    (∃ cachedAt value, cache.get? key = some (cachedAt, value) ∧ ttlS ≤ now - cachedAt ∧
      cache.get ttlS now key = (none, cache.erase key)) ∨
    (∃ cachedAt value, cache.get? key = some (cachedAt, value) ∧ now - cachedAt < ttlS ∧
      cache.get ttlS now key = (some value, cache.moveToEnd key)) := by
  unfold get
  cases hget : cache.get? key with
  | none => exact .inl ⟨rfl, rfl⟩
  | some entry =>
      obtain ⟨cachedAt, value⟩ := entry
      apply Or.inr
      by_cases hpast : ttlS ≤ now - cachedAt
      · exact .inl ⟨cachedAt, value, rfl, hpast, if_pos hpast⟩
      · exact .inr ⟨cachedAt, value, rfl, not_le.mp hpast, if_neg hpast⟩

/-- A cache within its bound is not evicted from. -/
theorem evict_of_le {maxEntries : ℤ} {size : ℕ} (hsize : (size : ℤ) ≤ maxEntries)
    (cache : ResponseCache) : evict maxEntries size cache = (.ok (), cache) := by
  cases size with
  | zero =>
      rw [evict, if_neg (by omega)]
  | succ size =>
      rw [evict, if_neg (by push_cast at hsize; omega)]

/-- The cache just before the eviction of a write. -/
def written (cache : ResponseCache) (now : ℚ) (key : String) (value : CachedResponse) :
    ResponseCache :=
  (Dict.set cache key (now, value)).moveToEnd key

theorem keys_written (cache : ResponseCache) (now : ℚ) (key : String) (value : CachedResponse) :
    (cache.written now key value).keys = cache.keys.filter (· ≠ key) ++ [key] :=
  Dict.keys_set_moveToEnd ..

theorem get?_written (cache : ResponseCache) (now : ℚ) (key other : String)
    (value : CachedResponse) :
    (cache.written now key value).get? other =
      if other = key then some (now, value) else cache.get? other := by
  rw [written, Dict.get?_moveToEnd, Dict.get?_set]

theorem size_written (cache : ResponseCache) (now : ℚ) (key : String) (value : CachedResponse) :
    (cache.written now key value).size ≤ cache.size + 1 ∧
      (key ∈ cache.keys → (cache.written now key value).size ≤ cache.size) := by
  rw [← Dict.length_keys, keys_written, ← Dict.length_keys, List.length_append,
    List.length_singleton]
  constructor
  · have hfilter := List.length_filter_le (· ≠ key) cache.keys
    omega
  · intro hmem
    have hfilter := List.length_filter_lt_length_iff_exists (p := (· ≠ key)) (l := cache.keys)
    have hlt := hfilter.mpr ⟨key, hmem, by simp⟩
    omega

/-- A write to a cache within its bound evicts nothing, or the oldest entry when the
others alone fill the cache; it never raises. -/
theorem set_cases {cache : ResponseCache} {maxEntries : ℤ} (hmax : 1 ≤ maxEntries)
    (hsize : (cache.size : ℤ) ≤ maxEntries) (now : ℚ) (key : String) (value : CachedResponse) :
    (((cache.written now key value).size : ℤ) ≤ maxEntries ∧
      cache.set maxEntries now key value = (.ok (), cache.written now key value)) ∨
    (∃ first rest, (cache.written now key value).keys = first :: rest ∧
      (rest.length : ℤ) = maxEntries ∧ first ≠ key ∧
      cache.set maxEntries now key value = (.ok (), (cache.written now key value).dropFirst)) := by
  have hset : cache.set maxEntries now key value =
      evict maxEntries (cache.written now key value).size (cache.written now key value) := rfl
  rw [hset]
  by_cases hfits : ((cache.written now key value).size : ℤ) ≤ maxEntries
  · exact .inl ⟨hfits, evict_of_le hfits _⟩
  · have hbound := (size_written cache now key value).1
    apply Or.inr
    cases hkeys : (cache.written now key value).keys with
    | nil =>
        have hlength := Dict.length_keys (cache.written now key value)
        rw [hkeys, List.length_nil] at hlength
        omega
    | cons first rest =>
        have hlength := Dict.length_keys (cache.written now key value)
        rw [hkeys, List.length_cons] at hlength
        have hrest : (rest.length : ℤ) = maxEntries := by omega
        refine ⟨first, rest, rfl, hrest, ?_, ?_⟩
        · -- the key is the last one, and there are at least two
          rintro rfl
          rw [keys_written] at hkeys
          cases hothers : cache.keys.filter (· ≠ first) with
          | nil =>
              rw [hothers] at hkeys
              simp only [List.nil_append, List.cons.injEq] at hkeys
              rw [← hkeys.2] at hrest
              simp at hrest
              omega
          | cons other others =>
              rw [hothers] at hkeys
              simp only [List.cons_append, List.cons.injEq] at hkeys
              have hmem : other ∈ cache.keys.filter (· ≠ first) := by
                rw [hothers]
                exact List.mem_cons_self
              rw [hkeys.1] at hmem
              simp at hmem
        · rw [← hlength, evict, if_pos (by omega)]
          exact evict_of_le hrest.le _

/-! ## Runs -/

section Runs

variable {ttlS : ℚ} {maxEntries : ℤ}

theorem performAll_append (ops : List CacheOp) (op : CacheOp) :
    performAll ttlS maxEntries (ops ++ [op]) =
      ((performAll ttlS maxEntries ops).1.perform ttlS maxEntries op,
        (performAll ttlS maxEntries ops).2 ++
          ((performAll ttlS maxEntries ops).1.touchedBy ttlS op).toList) := by
  simp [performAll]

/-- What holds after any sequence of operations. -/
structure Recent (ttlS : ℚ) (maxEntries : ℤ) (ops : List CacheOp) (cache : ResponseCache)
    (touched : List String) : Prop where
  /-- The bound is met. -/
  bounded : (cache.size : ℤ) ≤ maxEntries
  /-- The entries are in the order of last use. -/
  ordered : RecentOrder cache.keys touched
  /-- An entry is the last write of its key. -/
  stored : ∀ key entry, cache.get? key = some entry → CacheOp.lastSet key ops = some entry
  /-- A last write is kept while it is young and few others have been used since. -/
  kept : ∀ key entry now, CacheOp.lastSet key ops = some entry → (∀ op ∈ ops, op.now ≤ now) →
    now - entry.1 < ttlS → (distinctSince key touched : ℤ) < maxEntries →
    cache.get? key = some entry

theorem Recent.empty (hmax : 1 ≤ maxEntries) : Recent ttlS maxEntries [] Dict.empty [] where
  bounded := by
    have hzero : ((Dict.empty : ResponseCache).size : ℤ) = 0 := rfl
    omega
  ordered := .nil
  stored key entry h := by cases h
  kept key entry now h := by cases h

variable {ops : List CacheOp} {cache : ResponseCache} {touched : List String}

/-- Forgetting to look does not matter to what is kept. -/
private theorem Recent.keptBefore (h : Recent ttlS maxEntries ops cache touched) {op : CacheOp}
    {key : String} {entry : ℚ × CachedResponse} {now : ℚ}
    (hlast : CacheOp.lastSet key ops = some entry) (hops : ∀ other ∈ ops ++ [op], other.now ≤ now)
    (hfresh : now - entry.1 < ttlS) (hfew : (distinctSince key touched : ℤ) < maxEntries) :
    cache.get? key = some entry :=
  h.kept key entry now hlast (fun other hmem => hops other (List.mem_append_left _ hmem)) hfresh
    hfew

/-- A read touches its key if it hits, and loses no entry in its time. -/
theorem Recent.get (h : Recent ttlS maxEntries ops cache touched) (now : ℚ) (key : String) :
    Recent ttlS maxEntries (ops ++ [.get now key]) (cache.get ttlS now key).2
      (touched ++ (cache.touchedBy ttlS (.get now key)).toList) := by
  rcases get_cases cache ttlS now key with ⟨_, hget⟩ | ⟨cachedAt, value, hfound, hpast, hget⟩ |
    ⟨cachedAt, value, hfound, _, hget⟩
  · -- nothing changes
    simp only [touchedBy, hget, Option.isSome_none, Bool.false_eq_true, if_false,
      Option.toList_none, List.append_nil]
    exact {
      bounded := h.bounded
      ordered := h.ordered
      stored := fun other entry hother => by
        rw [CacheOp.lastSet_get]
        exact h.stored other entry hother
      kept := fun other entry later hlast hops hfresh hfew => by
        rw [CacheOp.lastSet_get] at hlast
        exact h.keptBefore hlast hops hfresh hfew }
  · -- the entry past its time is gone, and was lost already
    simp only [touchedBy, hget, Option.isSome_none, Bool.false_eq_true, if_false,
      Option.toList_none, List.append_nil]
    have hkeys := Dict.keys_erase cache key
    exact {
      bounded := by
        have hfilter := List.length_filter_le (· ≠ key) cache.keys
        rw [← hkeys, Dict.length_keys, Dict.length_keys] at hfilter
        have hbounded := h.bounded
        omega
      ordered := by
        rw [hkeys]
        exact h.ordered.sublist List.filter_sublist
      stored := fun other entry hother => by
        rw [CacheOp.lastSet_get]
        rw [Dict.get?_erase] at hother
        split at hother
        · cases hother
        · exact h.stored other entry hother
      kept := fun other entry later hlast hops hfresh hfew => by
        rw [CacheOp.lastSet_get] at hlast
        have hkept := h.keptBefore hlast hops hfresh hfew
        have hne : other ≠ key := by
          rintro rfl
          rw [hfound] at hkept
          cases hkept
          have hnow : now ≤ later := hops (.get now other) (by simp)
          exact absurd hpast (not_le.mpr (lt_of_le_of_lt (sub_le_sub_right hnow cachedAt) hfresh))
        rw [Dict.get?_erase, if_neg hne]
        exact hkept }
  · -- a hit makes its entry the newest
    simp only [touchedBy, hget, Option.isSome_some, if_true, Option.toList_some]
    have hmem : key ∈ cache.keys := Dict.mem_keys_iff.mpr ⟨_, hfound⟩
    have hkeys := Dict.keys_moveToEnd hmem
    exact {
      bounded := by
        have hfilter := List.length_filter_lt_length_iff_exists (p := (· ≠ key)) (l := cache.keys)
        have hlt := hfilter.mpr ⟨key, hmem, by simp⟩
        have hbounded := h.bounded
        rw [← Dict.length_keys, hkeys, List.length_append, List.length_singleton]
        rw [Dict.length_keys] at hlt
        omega
      ordered := by
        rw [hkeys]
        exact h.ordered.touch key
      stored := fun other entry hother => by
        rw [CacheOp.lastSet_get]
        rw [Dict.get?_moveToEnd] at hother
        exact h.stored other entry hother
      kept := fun other entry later hlast hops hfresh hfew => by
        rw [CacheOp.lastSet_get] at hlast
        rw [Dict.get?_moveToEnd]
        by_cases heq : key = other
        · subst heq
          rw [h.stored key _ hfound] at hlast
          rw [hfound, hlast]
        · have hmore := distinctSince_le touched heq
          exact h.keptBefore hlast hops hfresh (by omega) }

/-- A write touches its key, and evicts only what many others were used since. -/
theorem Recent.set (hmax : 1 ≤ maxEntries) (h : Recent ttlS maxEntries ops cache touched)
    (now : ℚ) (key : String) (value : CachedResponse) :
    Recent ttlS maxEntries (ops ++ [.set now key value]) (cache.set maxEntries now key value).2
      (touched ++ [key]) := by
  have hordered : RecentOrder (cache.written now key value).keys (touched ++ [key]) := by
    rw [keys_written]
    exact h.ordered.touch key
  have hstored : ∀ other entry, (cache.written now key value).get? other = some entry →
      CacheOp.lastSet other (ops ++ [.set now key value]) = some entry := by
    intro other entry hother
    rw [get?_written] at hother
    rw [CacheOp.lastSet_set]
    by_cases heq : other = key
    · rw [if_pos heq] at hother
      rw [if_pos heq.symm]
      exact hother
    · rw [if_neg heq] at hother
      rw [if_neg (Ne.symm heq)]
      exact h.stored other entry hother
  have hkept : ∀ other entry later,
      CacheOp.lastSet other (ops ++ [.set now key value]) = some entry →
      (∀ op ∈ ops ++ [.set now key value], op.now ≤ later) → later - entry.1 < ttlS →
      (distinctSince other (touched ++ [key]) : ℤ) < maxEntries →
      (cache.written now key value).get? other = some entry := by
    intro other entry later hlast hops hfresh hfew
    rw [CacheOp.lastSet_set] at hlast
    rw [get?_written]
    by_cases heq : other = key
    · rw [if_pos heq.symm] at hlast
      rw [if_pos heq]
      exact hlast
    · rw [if_neg (Ne.symm heq)] at hlast
      rw [if_neg heq]
      have hmore := distinctSince_le touched (Ne.symm heq)
      exact h.keptBefore hlast hops hfresh (by omega)
  rcases set_cases hmax h.bounded now key value with ⟨hfits, hset⟩ |
    ⟨first, rest, hkeys, hlength, _, hset⟩
  · rw [hset]
    exact ⟨hfits, hordered, hstored, hkept⟩
  · rw [hset]
    have hrest : (cache.written now key value).dropFirst.keys = rest := by
      rw [Dict.keys_dropFirst, hkeys, List.tail_cons]
    exact {
      bounded := by
        rw [← Dict.length_keys, hrest]
        exact hlength.le
      ordered := by
        rw [hrest]
        rw [hkeys] at hordered
        exact hordered.sublist (List.sublist_cons_self first rest)
      stored := fun other entry hother => hstored other entry (Dict.get?_of_get?_dropFirst hother)
      kept := fun other entry later hlast hops hfresh hfew => by
        have hne : other ≠ first := by
          rintro rfl
          have hnodup : (cache.written now key value).keys.Nodup :=
            (cache.written now key value).nodup
          rw [hkeys] at hordered hnodup
          have hmany := hordered.length_le (List.nodup_cons.mp hnodup).2
          omega
        rw [Dict.get?_dropFirst_of_ne hkeys hne]
        exact hkept other entry later hlast hops hfresh hfew }

theorem recent_performAll (hmax : 1 ≤ maxEntries) (ops : List CacheOp) :
    Recent ttlS maxEntries ops (performAll ttlS maxEntries ops).1
      (performAll ttlS maxEntries ops).2 := by
  induction ops using List.reverseRecOn with
  | nil => exact Recent.empty hmax
  | append_singleton ops op ih =>
      rw [performAll_append]
      cases op with
      | get now key => exact ih.get now key
      | set now key value => exact ih.set hmax now key value

end Runs

/-- A hit leaves what every later read of its key returns as it was. -/
theorem get_after_hit {cache : ResponseCache} {ttlS now later : ℚ} {key : String}
    {value : CachedResponse} (h : (cache.get ttlS now key).1 = some value) :
    ((cache.get ttlS now key).2.get ttlS later key).1 = (cache.get ttlS later key).1 := by
  have hsame : (cache.get ttlS now key).2.get? key = cache.get? key := by
    rcases get_cases cache ttlS now key with ⟨_, hget⟩ | ⟨_, _, _, _, hget⟩ | ⟨_, _, _, _, hget⟩
    · rw [hget]
    · simp [hget] at h
    · rw [hget, Dict.get?_moveToEnd]
  unfold get at hsame ⊢
  rw [hsame]
  cases cache.get? key with
  | none => rfl
  | some entry => dsimp only; split <;> rfl

/-- **A bounded map with a time to live.** After any operations: the bound is met and
no key is held twice; a hit returns the last write of its key, younger than the time
to live; at any instant after the operations, a last write that is younger is
returned as long as fewer other keys than the bound have been used since its key
was; a hit does not change what later reads return; a write never raises, and evicts
nothing if its key is held. -/
theorem cache_boundedMap {ttlS : ℚ} {maxEntries : ℤ} (hmax : 1 ≤ maxEntries)
    (ops : List CacheOp) :
    let cache := (performAll ttlS maxEntries ops).1
    let touched := (performAll ttlS maxEntries ops).2
    ((cache.size : ℤ) ≤ maxEntries ∧ cache.keys.Nodup) ∧
    (∀ now key value, (cache.get ttlS now key).1 = some value →
      ∃ writtenAt, CacheOp.lastSet key ops = some (writtenAt, value) ∧ now - writtenAt < ttlS) ∧
    (∀ now key value writtenAt, (∀ op ∈ ops, op.now ≤ now) →
      CacheOp.lastSet key ops = some (writtenAt, value) → now - writtenAt < ttlS →
      (distinctSince key touched : ℤ) < maxEntries → (cache.get ttlS now key).1 = some value) ∧
    (∀ now later key value, (cache.get ttlS now key).1 = some value →
      ((cache.get ttlS now key).2.get ttlS later key).1 = (cache.get ttlS later key).1) ∧
    (∀ now key value, (cache.set maxEntries now key value).1 = .ok () ∧
      (key ∈ cache.keys → ∀ other ≠ key,
        (cache.set maxEntries now key value).2.get? other = cache.get? other)) := by
  intro cache touched
  have hrecent : Recent ttlS maxEntries ops cache touched := recent_performAll hmax ops
  refine ⟨⟨hrecent.bounded, cache.nodup⟩, ?_, ?_, ?_, ?_⟩
  · intro now key value hhit
    obtain ⟨cachedAt, hget, hfresh⟩ := get_hit hhit
    exact ⟨cachedAt, hrecent.stored key _ hget, hfresh⟩
  · intro now key value writtenAt hops hlast hfresh hfew
    have hget := hrecent.kept key _ now hlast hops hfresh hfew
    unfold get
    rw [hget]
    dsimp only
    rw [if_neg (not_le.mpr hfresh)]
  · intro now later key value hhit
    exact get_after_hit hhit
  · intro now key value
    rcases set_cases hmax hrecent.bounded now key value with ⟨_, hset⟩ |
      ⟨first, rest, hkeys, hlength, _, hset⟩
    · rw [hset]
      refine ⟨rfl, fun _ other hne => ?_⟩
      rw [get?_written, if_neg hne]
    · rw [hset]
      refine ⟨rfl, fun hmem => ?_⟩
      -- the key was counted already
      have hsize := (size_written cache now key value).2 hmem
      have hbounded := hrecent.bounded
      rw [← Dict.length_keys, hkeys, List.length_cons] at hsize
      omega

/-- A cache of one entry after writes under two keys and a read of the older one. -/
theorem cache_boundedMap_twoKeys :
    let value : CachedResponse := ⟨"hello", none, 1, 1, "m"⟩
    let ops : List CacheOp := [.set 0 "a" value, .set 1 "b" value, .get 2 "a"]
    let cache := (performAll 60 1 ops).1
    let touched := (performAll 60 1 ops).2
    cache.keys = ["b"] ∧
    ((cache.size : ℤ) ≤ 1 ∧ cache.keys.Nodup) ∧
    (∀ now key value, (cache.get 60 now key).1 = some value →
      ∃ writtenAt, CacheOp.lastSet key ops = some (writtenAt, value) ∧ now - writtenAt < 60) ∧
    (∀ now key value writtenAt, (∀ op ∈ ops, op.now ≤ now) →
      CacheOp.lastSet key ops = some (writtenAt, value) → now - writtenAt < 60 →
      (distinctSince key touched : ℤ) < 1 → (cache.get 60 now key).1 = some value) ∧
    (∀ now later key value, (cache.get 60 now key).1 = some value →
      ((cache.get 60 now key).2.get 60 later key).1 = (cache.get 60 later key).1) ∧
    (∀ now key value, (cache.set 1 now key value).1 = .ok () ∧
      (key ∈ cache.keys → ∀ other ≠ key,
        (cache.set 1 now key value).2.get? other = cache.get? other)) :=
  ⟨by decide +kernel, cache_boundedMap (by decide) _⟩

end ResponseCache

end BedrockGateway
