/-
# The response cache

An ordered dictionary from keys to stamped responses, least recently used first.
A read refreshes an entry's position, or deletes the entry if it has outlived the
time to live. A write makes its key the newest and drops the oldest entries
until the bound is met.
-/

import BedrockGateway.Auth.Identity
import BedrockGateway.Foundation.Dict
import Mathlib.Data.Rat.Defs
import Mathlib.Algebra.Order.Ring.Rat

namespace BedrockGateway

open Foundation

/-- `CachedResponse` -/
structure CachedResponse where
  text : String
  stopReason : Option String
  inputTokens : ℤ
  outputTokens : ℤ
  modelId : String
  deriving DecidableEq

/-- `InMemoryResponseCache._entries` -/
abbrev ResponseCache := Dict String (ℚ × CachedResponse)

namespace ResponseCache

/-- `InMemoryResponseCache.get` -/
def get (cache : ResponseCache) (ttlS now : ℚ) (key : String) :
    Option CachedResponse × ResponseCache :=
  match cache.get? key with
  | none => (none, cache)
  | some (cachedAt, value) =>
      if ttlS ≤ now - cachedAt then (none, cache.erase key)
      else (some value, cache.moveToEnd key)

/-- The eviction loop of `set` on a cache of `size` entries. Popping from an
empty dictionary is a `KeyError`. -/
def evict (maxEntries : ℤ) : (size : ℕ) → ResponseCache → Except Exn Unit × ResponseCache
  | 0, cache =>
      if maxEntries < 0 then (.error (.other "'dictionary is empty'"), cache) else (.ok (), cache)
  | size + 1, cache =>
      if maxEntries < size + 1 then evict maxEntries size cache.dropFirst else (.ok (), cache)

/-- `InMemoryResponseCache.set` -/
def set (cache : ResponseCache) (maxEntries : ℤ) (now : ℚ) (key : String)
    (value : CachedResponse) : Except Exn Unit × ResponseCache :=
  let cache := (Dict.set cache key (now, value)).moveToEnd key
  evict maxEntries cache.size cache

/-- A read never changes what a key that is still there maps to. -/
theorem get?_of_get?_get {cache : ResponseCache} {ttlS now : ℚ} {key other : String}
    {entry : ℚ × CachedResponse} (h : (cache.get ttlS now key).2.get? other = some entry) :
    cache.get? other = some entry := by
  unfold get at h
  split at h
  · exact h
  · split at h
    · rw [Dict.get?_erase] at h
      split at h
      · cases h
      · exact h
    · rwa [Dict.get?_moveToEnd] at h

/-- What a hit returns is stored, and younger than the time to live. -/
theorem get_hit {cache : ResponseCache} {ttlS now : ℚ} {key : String} {value : CachedResponse}
    (h : (cache.get ttlS now key).1 = some value) :
    ∃ cachedAt, cache.get? key = some (cachedAt, value) ∧ now - cachedAt < ttlS := by
  unfold get at h
  split at h
  · cases h
  · rename_i cachedAt found hget
    split at h
    · cases h
    · rename_i hfresh
      cases h
      exact ⟨cachedAt, hget, not_le.mp hfresh⟩

theorem get?_of_get?_evict {maxEntries : ℤ} {size : ℕ} {cache : ResponseCache} {key : String}
    {entry : ℚ × CachedResponse} (h : (evict maxEntries size cache).2.get? key = some entry) :
    cache.get? key = some entry := by
  induction size generalizing cache with
  | zero =>
      rw [evict] at h
      split at h <;> exact h
  | succ size ih =>
      rw [evict] at h
      split at h
      · exact Dict.get?_of_get?_dropFirst (ih h)
      · exact h

/-- What a write leaves in the cache was there before, or is what was written. -/
theorem get?_of_get?_set {cache : ResponseCache} {maxEntries : ℤ} {now : ℚ} {key other : String}
    {value : CachedResponse} {entry : ℚ × CachedResponse}
    (h : (cache.set maxEntries now key value).2.get? other = some entry) :
    (other = key ∧ entry = (now, value)) ∨ cache.get? other = some entry := by
  have hkept := get?_of_get?_evict h
  rw [Dict.get?_moveToEnd, Dict.get?_set] at hkept
  split at hkept
  case isTrue heq =>
    cases hkept
    exact .inl ⟨heq, rfl⟩
  case isFalse => exact .inr hkept

end ResponseCache

end BedrockGateway
