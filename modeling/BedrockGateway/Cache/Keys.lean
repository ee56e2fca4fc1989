/-
# Cache keys

A key is the digest of a canonical document: the payload with its fields sorted,
rendered without blanks. The digest is a parameter. The document determines the
tenant, the application, the route set up to its default, the model, the
inference parameters, the messages, the guardrail policy and the policy epoch.
-/

import BedrockGateway.Inference.Bedrock
import BedrockGateway.Policy.Models

namespace BedrockGateway

open Foundation

/-- One entry of `normalize_messages`. -/
structure NormalizedMessage where
  role : String
  content : String
  deriving DecidableEq

/-- `<` on strings, which compares code points. -/
def precedes : List Char → List Char → Bool
  | _, [] => false
  | [], _ :: _ => true
  | c :: cs, d :: ds => c.toNat < d.toNat || (c.toNat == d.toNat && precedes cs ds)

/-- Insert a field before the first one with a larger name. -/
def insertField (field : String × Json) : List (String × Json) → List (String × Json)
  | [] => [field]
  | other :: fields =>
      if precedes field.1.toList other.1.toList then field :: other :: fields
      else other :: insertField field fields

mutual

/-- `sort_keys=True` -/
def sortKeys : Json → Json
  | .arr items => .arr (sortKeysItems items)
  | .obj fields => .obj (sortKeysFields fields)
  | value => value

/-- Sort the keys of every item. -/
def sortKeysItems : List Json → List Json
  | [] => []
  | item :: items => sortKeys item :: sortKeysItems items

/-- Sort the fields, and the keys of every value. -/
def sortKeysFields : List (String × Json) → List (String × Json)
  | [] => []
  | (name, value) :: fields => insertField (name, sortKeys value) (sortKeysFields fields)

end

/-- The arguments of `build_cache_key`. -/
structure CacheKeyFields where
  tenantId : String
  applicationId : String
  policy : TenantPolicy
  modelId : String
  maxTokens : ℤ
  temperature : PyFloat
  messages : List NormalizedMessage

namespace CacheKeyFields

/-- One message of the payload. -/
def messageJson (m : NormalizedMessage) : Json :=
  .obj [("role", .str m.role), ("content", .str m.content)]

/-- The `payload` of `build_cache_key`. -/
def payload (fields : CacheKeyFields) : Json :=
  .obj [
    ("tenant_id", .str fields.tenantId),
    ("application_id", .str fields.applicationId),
    ("model_route_id", .str (fields.policy.routeSet.filter (· ≠ "") |>.getD "default")),
    ("model_version", .str fields.modelId),
    ("inference_parameters",
      .obj [("max_tokens", .int fields.maxTokens), ("temperature", .num fields.temperature.repr)]),
    ("prompt_template_version", .null),
    ("normalized_messages", .arr (fields.messages.map messageJson)),
    ("tool_schema_version", .null),
    ("guardrail_version", .str fields.policy.guardrailPolicy),
    ("policy_epoch", .int fields.policy.policyEpoch),
    ("retrieval_context_hash", .null)]

/-- The `canonical` document of `build_cache_key`. -/
def canonical (fields : CacheKeyFields) : String :=
  Json.dumps .compact (sortKeys fields.payload)

end CacheKeyFields

/-- `build_cache_key`, over a digest. -/
def buildCacheKey (sha256 : String → String) (fields : CacheKeyFields) : String :=
  sha256 fields.canonical

/-! ## What a document determines -/

private theorem sortKeys_messageJson (m : NormalizedMessage) :
    sortKeys (CacheKeyFields.messageJson m) =
      .obj [("content", .str m.content), ("role", .str m.role)] := by
  simp +decide [CacheKeyFields.messageJson, sortKeys, sortKeysFields, insertField]

private theorem sortKeysItems_messages (messages : List NormalizedMessage) :
    sortKeysItems (messages.map CacheKeyFields.messageJson) =
      messages.map fun m => .obj [("content", .str m.content), ("role", .str m.role)] := by
  induction messages with
  | nil => rfl
  | cons m messages ih => rw [List.map_cons, sortKeysItems, ih, sortKeys_messageJson, List.map_cons]

/-- The payload with its fields sorted. -/
private theorem sortKeys_payload (fields : CacheKeyFields) :
    sortKeys fields.payload = .obj [
      ("application_id", .str fields.applicationId),
      ("guardrail_version", .str fields.policy.guardrailPolicy),
      ("inference_parameters",
        .obj [("max_tokens", .int fields.maxTokens),
          ("temperature", .num fields.temperature.repr)]),
      ("model_route_id", .str (fields.policy.routeSet.filter (· ≠ "") |>.getD "default")),
      ("model_version", .str fields.modelId),
      ("normalized_messages",
        .arr (sortKeysItems (fields.messages.map CacheKeyFields.messageJson))),
      ("policy_epoch", .int fields.policy.policyEpoch),
      ("prompt_template_version", .null),
      ("retrieval_context_hash", .null),
      ("tenant_id", .str fields.tenantId),
      ("tool_schema_version", .null)] := by
  simp +decide [CacheKeyFields.payload, sortKeys, sortKeysFields, insertField, Json.int]

private theorem messages_inj {xs ys : List NormalizedMessage}
    (h : xs.map (fun m => Json.obj [("content", .str m.content), ("role", .str m.role)]) =
      ys.map fun m => Json.obj [("content", .str m.content), ("role", .str m.role)]) : xs = ys := by
  refine List.map_injective_iff.mpr (fun m n hmn => ?_) h
  cases m
  cases n
  simp_all

/-- The route sets that stand for no route set. -/
def unroutedSets : List (Option String) := [none, some "", some "default"]

/-- The route sets a document does not tell apart: an absent one, the empty one and the
one called "default" are the same. -/
def sameRouteSet (x y : Option String) : Prop :=
  x = y ∨ (x ∈ unroutedSets ∧ y ∈ unroutedSets)

/-- A route set goes by its own name, or by the default's. -/
private theorem modelRouteId_cases (x : Option String) :
    ((x.filter (· ≠ "") |>.getD "default") = "default" ∧ x ∈ unroutedSets) ∨
      (x = some (x.filter (· ≠ "") |>.getD "default") ∧ x ∉ unroutedSets) := by
  cases x with
  | none => exact .inl ⟨rfl, by simp [unroutedSets]⟩
  | some name =>
      rw [Option.filter_some]
      by_cases hempty : name = ""
      · exact .inl (by simp [unroutedSets, hempty])
      · by_cases hdefault : name = "default"
        · exact .inl (by simp [unroutedSets, hdefault])
        · exact .inr (by simp [unroutedSets, hempty, hdefault])

private theorem modelRouteId_eq_iff (x y : Option String) :
    (x.filter (· ≠ "") |>.getD "default") = (y.filter (· ≠ "") |>.getD "default") ↔
      sameRouteSet x y := by
  have hdefault : some "default" ∈ unroutedSets := by simp [unroutedSets]
  rcases modelRouteId_cases x with ⟨hx, hmem⟩ | ⟨hx, hmem⟩ <;>
    rcases modelRouteId_cases y with ⟨hy, hmem'⟩ | ⟨hy, hmem'⟩
  · rw [hx, hy]
    exact ⟨fun _ => .inr ⟨hmem, hmem'⟩, fun _ => rfl⟩
  · constructor
    · intro heq
      rw [← heq, hx] at hy
      exact absurd (hy ▸ hdefault) hmem'
    · rintro (rfl | ⟨_, hin⟩)
      · rfl
      · exact absurd hin hmem'
  · constructor
    · intro heq
      rw [heq, hy] at hx
      exact absurd (hx ▸ hdefault) hmem
    · rintro (rfl | ⟨hin, _⟩)
      · rfl
      · exact absurd hin hmem
  · constructor
    · intro heq
      rw [← heq, ← hx] at hy
      exact .inl hy.symm
    · rintro (rfl | ⟨hin, _⟩)
      · rfl
      · exact absurd hin hmem

/-- What a document records, field by field. -/
private theorem canonical_fields {x y : CacheKeyFields} (h : x.canonical = y.canonical) :
    x.tenantId = y.tenantId ∧ x.applicationId = y.applicationId ∧ x.modelId = y.modelId ∧
      x.maxTokens = y.maxTokens ∧ x.temperature = y.temperature ∧ x.messages = y.messages ∧
      x.policy.guardrailPolicy = y.policy.guardrailPolicy ∧
      x.policy.policyEpoch = y.policy.policyEpoch ∧
      sameRouteSet x.policy.routeSet y.policy.routeSet := by
  have hsorted := Json.dumps_injective _ h
  rw [sortKeys_payload, sortKeys_payload, sortKeysItems_messages, sortKeysItems_messages] at hsorted
  simp only [Json.obj.injEq, List.cons.injEq, Prod.mk.injEq, Json.str.injEq, Json.arr.injEq,
    Json.int, Json.num.injEq, true_and, and_true] at hsorted
  obtain ⟨happlication, hguardrail, ⟨hmax, htemperature⟩, hroute, hmodel, hmessages, hepoch,
    htenant⟩ := hsorted
  have htemperature' : x.temperature = y.temperature := by
    cases hx : x.temperature
    cases hy : y.temperature
    simpa [hx, hy] using htemperature
  exact ⟨htenant, happlication, hmodel, Json.literal_ofInt_inj hmax, htemperature',
    messages_inj hmessages, hguardrail, Json.literal_ofInt_inj hepoch,
    (modelRouteId_eq_iff _ _).mp hroute⟩

/-- Equal documents agree on every field they record. -/
theorem CacheKeyFields.canonical_inj {x y : CacheKeyFields} (h : x.canonical = y.canonical) :
    x.tenantId = y.tenantId ∧ x.applicationId = y.applicationId ∧ x.modelId = y.modelId ∧
      x.maxTokens = y.maxTokens ∧ x.temperature = y.temperature ∧ x.messages = y.messages ∧
      x.policy.guardrailPolicy = y.policy.guardrailPolicy ∧
      x.policy.policyEpoch = y.policy.policyEpoch := by
  obtain ⟨htenant, happlication, hmodel, hmax, htemperature, hmessages, hguardrail, hepoch, _⟩ :=
    canonical_fields h
  exact ⟨htenant, happlication, hmodel, hmax, htemperature, hmessages, hguardrail, hepoch⟩

/-- **Documents collide exactly where they should**: two documents are equal exactly
when the requests agree on the tenant, the application, the model, the inference
parameters, the whole list of messages, the guardrail policy, the policy epoch and,
up to its default, the route set. -/
theorem CacheKeyFields.canonical_eq_iff (x y : CacheKeyFields) :
    x.canonical = y.canonical ↔
      x.tenantId = y.tenantId ∧ x.applicationId = y.applicationId ∧ x.modelId = y.modelId ∧
        x.maxTokens = y.maxTokens ∧ x.temperature = y.temperature ∧ x.messages = y.messages ∧
        x.policy.guardrailPolicy = y.policy.guardrailPolicy ∧
        x.policy.policyEpoch = y.policy.policyEpoch ∧
        sameRouteSet x.policy.routeSet y.policy.routeSet := by
  constructor
  · exact canonical_fields
  · rintro ⟨htenant, happlication, hmodel, hmax, htemperature, hmessages, hguardrail, hepoch,
      hroute⟩
    have hroute' := (modelRouteId_eq_iff _ _).mpr hroute
    have hpayload : x.payload = y.payload := by
      unfold CacheKeyFields.payload
      rw [htenant, happlication, hmodel, hmax, htemperature, hmessages, hguardrail, hepoch, hroute']
    rw [CacheKeyFields.canonical, CacheKeyFields.canonical, hpayload]

/-- Content cannot move from one message to the next, nor out of its quotes. -/
example (x : CacheKeyFields) :
    CacheKeyFields.canonical { x with messages := [⟨"user", "a"⟩, ⟨"user", "b"⟩] } ≠
      CacheKeyFields.canonical { x with messages := [⟨"user", "a\",\"b"⟩, ⟨"user", ""⟩] } := by
  intro h
  have hmessages := (CacheKeyFields.canonical_inj h).2.2.2.2.2.1
  simp at hmessages

end BedrockGateway
