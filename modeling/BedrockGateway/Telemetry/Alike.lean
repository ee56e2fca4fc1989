/-
# Alike but for texts

Two runs may be compared although different texts reach them: the contents of a
request's messages and what the models say. The relations below say what else has
to be the same, for responses, for questions, for answers and for states, and that
the gateway's own state keeps them: alike questions in states that agree on
everything but texts are answered alike, and leave such states behind.

What is cached or captured belongs to the texts and may differ.
-/

import BedrockGateway.EventLoop
import BedrockGateway.Foundation.Lockstep
import BedrockGateway.Guardrails.Basic
import BedrockGateway.Telemetry.Masked

namespace BedrockGateway

open Foundation Py
open Machine (Moment)

/-! ## What texts may change -/

/-- Responses that differ in texts only. -/
def ResponsesAlike : Response → Response → Prop
  | .json statusCode _, .json statusCode' _ => statusCode = statusCode'
  | .stream ctx source, .stream ctx' source' => ctx = ctx' ∧ source.masked = source'.masked
  | _, _ => False

/-- Questions that differ in texts only. -/
def Query.Alike : Query → Query → Prop
  | .checkInput _ guardrailPolicy, .checkInput _ guardrailPolicy' =>
      guardrailPolicy = guardrailPolicy'
  | .checkOutput _ guardrailPolicy, .checkOutput _ guardrailPolicy' =>
      guardrailPolicy = guardrailPolicy'
  | .converse modelId _ maxTokens temperature, .converse modelId' _ maxTokens' temperature' =>
      modelId = modelId' ∧ maxTokens = maxTokens' ∧ temperature = temperature'
  | .converseStream modelId _ maxTokens temperature,
      .converseStream modelId' _ maxTokens' temperature' =>
      modelId = modelId' ∧ maxTokens = maxTokens' ∧ temperature = temperature'
  | .cacheGet _, .cacheGet _ => True
  | .cacheSet _ value, .cacheSet _ value' => value.masked = value'.masked
  | .debugCapture requestId tenantId _ _, .debugCapture requestId' tenantId' _ _ =>
      requestId = requestId' ∧ tenantId = tenantId'
  | .sendStart response headers, .sendStart response' headers' =>
      ResponsesAlike response response' ∧ headers = headers'
  | .sendBody _, .sendBody _ => True
  | q, q' => q = q'

/-- Bodies that differ in message contents only, or two bodies that cannot be read. -/
def BodyAnswersAlike (validation : Validation) : Except Exn Json → Except Exn Json → Prop
  | .ok body, .ok body' => BodiesAlike validation body body'
  | .error exn, .error exn' => exn = .cancelled ↔ exn' = .cancelled
  | _, _ => False

/-- Answers that differ in texts only. The guardrail is the basic one, and decides
the same about both texts; a lookup in the cache hits both times or misses both times. -/
def AnswersAlike (app : App) (classes : CharClasses) : Event Answer → Event Answer → Prop
  | ⟨.requestJson, body⟩, ⟨.requestJson, body'⟩ => BodyAnswersAlike app.validation body body'
  | ⟨.checkInput text _, decision⟩, ⟨.checkInput text' _, decision'⟩ =>
      decision = .ok (BasicGuardrail.check app.text classes text) ∧
        decision' = .ok (BasicGuardrail.check app.text classes text') ∧
        BasicGuardrail.check app.text classes text = BasicGuardrail.check app.text classes text'
  | ⟨.checkOutput text _, decision⟩, ⟨.checkOutput text' _, decision'⟩ =>
      decision = .ok (BasicGuardrail.check app.text classes text) ∧
        decision' = .ok (BasicGuardrail.check app.text classes text') ∧
        BasicGuardrail.check app.text classes text = BasicGuardrail.check app.text classes text'
  | ⟨.converse _ _ _ _, result⟩, ⟨.converse _ _ _ _, result'⟩ =>
      result.map ConverseResult.masked = result'.map ConverseResult.masked
  | ⟨.converseStream _ _ _ _, source⟩, ⟨.converseStream _ _ _ _, source'⟩ =>
      source.map ChunkSource.masked = source'.map ChunkSource.masked
  | ⟨.cacheGet _, found⟩, ⟨.cacheGet _, found'⟩ =>
      found.map CachedResponse.masked = found'.map CachedResponse.masked
  | event, event' => HEq event.answer event'.answer

/-- States that agree on everything but time and texts: what is cached and what is
captured may differ. -/
structure SameButTexts (s s' : GatewayState) : Prop where
  policies : s.policies = s'.policies
  snapshots : s.snapshots = s'.snapshots
  buckets : s.buckets = s'.buckets
  breakers : s.breakers = s'.breakers

/-- At these two moments everything the handler does not control is alike but for texts. -/
structure MomentsAlike (app : App) (classes : CharClasses) (m m' : Moment Answer GatewayState) :
    Prop where
  /-- The same time. -/
  now : m.before.now = m'.before.now
  /-- Requests that ran while this one waited have left the same behind. -/
  resumed : m.event.query.awaits = true → SameButTexts m.before m'.before
  /-- The outside world answers alike, and so does the cache. -/
  answered : (answer app m.before m.event.query = none ∨ ∃ key, m.event.query = .cacheGet key) →
    AnswersAlike app classes m.event m'.event

/-- Whether a write raises does not depend on what is cached. -/
theorem ResponseCache.evict_outcome (maxEntries : ℤ) (size : ℕ) (cache : ResponseCache) :
    (evict maxEntries size cache).1 =
      if maxEntries < 0 then .error (.other "'dictionary is empty'") else .ok () := by
  induction size generalizing cache with
  | zero =>
      unfold evict
      split <;> rfl
  | succ size ih =>
      unfold evict
      split
      · exact ih _
      · rw [if_neg (by omega)]

variable {app : App} {classes : CharClasses}

theorem Query.Alike.refl (q : Query) : q.Alike q := by
  cases q with
  | sendStart response headers =>
      cases response with
      | json statusCode content => exact ⟨rfl, rfl⟩
      | stream ctx source => exact ⟨⟨rfl, rfl⟩, rfl⟩
  | _ => simp [Query.Alike]

/-- Alike questions give up control together. -/
theorem Query.Alike.awaits {q q' : Query} (h : q.Alike q') : q.awaits = q'.awaits := by
  unfold Query.Alike at h
  split at h
  all_goals first | rfl | rw [h]

/-- Alike questions at alike moments are answered alike, and leave the same behind. -/
theorem answers_alike {s s' t t' : GatewayState} {q q' : Query} {a : Answer q} {a' : Answer q'}
    (hquery : q.Alike q') (hsame : SameButTexts s s')
    (halike : MomentsAlike app classes ⟨s, ⟨q, a⟩, t⟩ ⟨s', ⟨q', a'⟩, t'⟩)
    (h : Answers app s q a t) (h' : Answers app s' q' a' t') :
    AnswersAlike app classes ⟨q, a⟩ ⟨q', a'⟩ ∧ SameButTexts t t' := by
  obtain ⟨hnow, -, hanswered⟩ := halike
  obtain ⟨now, policies, snapshots, buckets, breakers, responses, debugRecords⟩ := s
  obtain ⟨now', policies', snapshots', buckets', breakers', responses', debugRecords'⟩ := s'
  obtain ⟨hpolicies, hsnapshots, hbuckets, hbreakers⟩ := hsame
  dsimp only at hnow hpolicies hsnapshots hbuckets hbreakers
  subst hnow hpolicies hsnapshots hbuckets hbreakers
  unfold Query.Alike at hquery
  split at hquery
  case h_5 =>
    -- A lookup: whether it hits is given.
    obtain ⟨-, rfl⟩ := h
    obtain ⟨-, rfl⟩ := h'
    exact ⟨hanswered (.inr ⟨_, rfl⟩), ⟨rfl, rfl, rfl, rfl⟩⟩
  case h_6 =>
    obtain ⟨rfl, rfl⟩ := h
    obtain ⟨rfl, rfl⟩ := h'
    refine ⟨heq_of_eq ?_, ⟨rfl, rfl, rfl, rfl⟩⟩
    exact (ResponseCache.evict_outcome ..).trans (ResponseCache.evict_outcome ..).symm
  case h_7 =>
    obtain ⟨rfl, rfl⟩ := h
    obtain ⟨rfl, rfl⟩ := h'
    exact ⟨HEq.rfl, ⟨rfl, rfl, rfl, rfl⟩⟩
  case h_10 hget hset _ _ _ =>
    -- The same question: what the state decides it decides the same.
    subst hquery
    cases q with
    | cacheGet key => exact (hget key key rfl rfl).elim
    | cacheSet key value => exact (hset key value key value rfl rfl).elim
    | _ =>
        first
          | (obtain ⟨rfl, rfl⟩ := h
             obtain ⟨rfl, rfl⟩ := h'
             exact ⟨HEq.rfl, ⟨rfl, rfl, rfl, rfl⟩⟩)
          | (obtain rfl := h
             obtain rfl := h'
             exact ⟨hanswered (.inl rfl), ⟨rfl, rfl, rfl, rfl⟩⟩)
  all_goals
    obtain rfl := h
    obtain rfl := h'
    exact ⟨hanswered (.inl rfl), ⟨rfl, rfl, rfl, rfl⟩⟩

/-- Alike moments keep two runs of the event loop alike. -/
theorem eventLoop_indistinct (app : App) (classes : CharClasses) :
    Machine.Indistinct (eventLoop app) Query.Alike (AnswersAlike app classes) SameButTexts
      (MomentsAlike app classes) where
  passes := by
    rintro s s' _ _ hsame ⟨now, _, rfl⟩ ⟨now', _, rfl⟩
    exact ⟨hsame.policies, hsame.snapshots, hsame.buckets, hsame.breakers⟩
  yields := by
    intro q q' halike
    show q.awaits = true ↔ q'.awaits = true
    rw [halike.awaits]
  resumes := fun halike hyields => halike.resumed hyields
  answers := fun hasked hsame halike h h' => answers_alike hasked hsame halike h h'

/-- What is emitted: a log record, or attributes of the request's span. -/
inductive Emission
  | log (record : LogRecord)
  | span (attributes : Fields)
  deriving DecidableEq

/-- What a question emits. -/
def Query.emission : Query → Option Emission
  | .log record => some (.log record)
  | .setSpanAttributes attributes => some (.span attributes)
  | _ => none

/-- Alike questions emit the same. -/
theorem Query.Alike.emission {q q' : Query} (h : q.Alike q') : q.emission = q'.emission := by
  unfold Query.Alike at h
  split at h
  all_goals first | rfl | rw [h]

end BedrockGateway
