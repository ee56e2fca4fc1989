/-
# Where cached responses come from

Whatever the response cache holds was written by an earlier `set`, at the instant
it is stamped with. Reads refresh, expire and never invent; evictions only drop.
-/

import BedrockGateway.EventLoop

namespace BedrockGateway

open Foundation

variable {J R : Type} {app : App} {M : Machine Query Answer GatewayState J R}
  {s s' : GatewayState}

/-- The entry wrote this response under this key at this instant. -/
def Writes (key : String) (cachedAt : ℚ) (value : CachedResponse)
    (entry : Entry Answer GatewayState J R) : Prop :=
  (∃ result, entry.action = .did ⟨.cacheSet key value, result⟩) ∧ entry.before.now = cachedAt

/-- Everything in the cache has been written. -/
def CacheWritten (past : List (Entry Answer GatewayState J R)) (s : GatewayState) : Prop :=
  ∀ key cachedAt value, s.responses.get? key = some (cachedAt, value) →
    ∃ entry ∈ past, Writes key cachedAt value entry

/-- Questions other than those to the cache leave it alone. -/
theorem Answers.responses_frame {q : Query} {a : Answer q} (h : Answers app s q a s')
    (hq : ∀ key, q ≠ .cacheGet key) (hq' : ∀ key value, q ≠ .cacheSet key value) :
    s'.responses = s.responses := by
  unfold Answers at h
  cases q with
  | cacheGet key => exact absurd rfl (hq key)
  | cacheSet key value => exact absurd rfl (hq' key value)
  | _ =>
      simp only [answer] at h
      first
        | rw [h]
        | rw [h.2]

theorem CacheWritten.mono {past more : List (Entry Answer GatewayState J R)}
    (h : CacheWritten past s) (hresponses : ∀ key found, s'.responses.get? key = some found →
      s.responses.get? key = some found) : CacheWritten (past ++ more) s' := by
  intro key cachedAt value hget
  obtain ⟨entry, hmem, hwrites⟩ := h key cachedAt value (hresponses key _ hget)
  exact ⟨entry, List.mem_append_left _ hmem, hwrites⟩

/-- One entry. -/
theorem CacheWritten.step (hM : OverGateway app M) {past : List (Entry Answer GatewayState J R)}
    {entry : Entry Answer GatewayState J R} (h : CacheWritten past entry.before)
    (hvalid : M.Valid entry) : CacheWritten (past ++ [entry]) entry.after := by
  rcases hM.valid_cases hvalid with ⟨q, a, haction, hanswers⟩ | ⟨_, heq⟩
  · by_cases hget : ∃ key, q = .cacheGet key
    · obtain ⟨key, rfl⟩ := hget
      obtain ⟨_, hafter⟩ := hanswers
      refine h.mono fun other found hfound => ?_
      rw [hafter] at hfound
      exact ResponseCache.get?_of_get?_get hfound
    · by_cases hset : ∃ key value, q = .cacheSet key value
      · obtain ⟨key, value, rfl⟩ := hset
        obtain ⟨_, hafter⟩ := hanswers
        intro other cachedAt found hfound
        rw [hafter] at hfound
        rcases ResponseCache.get?_of_get?_set hfound with ⟨rfl, hwritten⟩ | hold
        · cases hwritten
          exact ⟨entry, by simp, ⟨a, haction⟩, rfl⟩
        · obtain ⟨put, hmem, hwrites⟩ := h other cachedAt found hold
          exact ⟨put, List.mem_append_left _ hmem, hwrites⟩
      · have hframe := hanswers.responses_frame (fun key heq => hget ⟨key, heq⟩)
          fun key value heq => hset ⟨key, value, heq⟩
        exact h.mono fun other found hfound => hframe ▸ hfound
  · exact h.mono fun other found hfound => heq ▸ hfound

/-- **Everything in the cache has been written**, at every instant of a run that
starts with an empty one. -/
theorem OverGateway.cacheWritten (hM : OverGateway app M)
    {log : List (Entry Answer GatewayState J R)} (hreplay : M.Replay s log s')
    (hempty : s.responses = Dict.empty) :
    CacheWritten log s' ∧
      ∀ past entry future, log = past ++ entry :: future → CacheWritten past entry.before := by
  refine hreplay.invariant (fun key cachedAt value hget => ?_) (fun past s s₀ hs htime => ?_)
    fun past entry _ _ hbefore hvalid => hbefore.step hM hvalid
  · rw [hempty] at hget
    cases hget
  · rw [hM.passes_eq] at htime
    obtain ⟨now, _, rfl⟩ := htime
    exact hs

/-- A hit serves what was written under its key less than the time to live ago. -/
theorem OverGateway.hit_written (hM : OverGateway app M)
    {log past future : List (Entry Answer GatewayState J R)}
    {entry : Entry Answer GatewayState J R} {key : String} {value : CachedResponse}
    (hreplay : M.Replay s log s') (hempty : s.responses = Dict.empty)
    (hlog : log = past ++ entry :: future)
    (haction : entry.action = .did ⟨.cacheGet key, some value⟩) :
    ∃ put ∈ past, (∃ result, put.action = .did ⟨.cacheSet key value, result⟩) ∧
      entry.before.now - put.before.now < app.settings.responseCacheTtlS := by
  have hvalid := (hlog ▸ hreplay).suffix.1
  obtain ⟨hfound, _⟩ := hM.answers hvalid haction
  obtain ⟨cachedAt, hget, hfresh⟩ := ResponseCache.get_hit hfound.symm
  obtain ⟨put, hmem, hset, rfl⟩ :=
    (hM.cacheWritten hreplay hempty).2 past entry future hlog key cachedAt value hget
  exact ⟨put, hmem, hset, hfresh⟩

end BedrockGateway
