/-
# Requests and results without their texts

What is left of a request's body when the contents of its messages are masked,
and of a model's output when its texts are. A stream keeps the number of its
chunks and which of them are empty.

Two bodies that differ in the contents of their messages only, and fare alike in
validation, become requests that agree on everything but the messages.
-/

import BedrockGateway.Api.Schemas
import BedrockGateway.Cache.Store

namespace BedrockGateway

open Foundation

/-! ## Outputs -/

/-- A result without its text. -/
def ConverseResult.masked (result : ConverseResult) : ConverseResult := { result with text := "" }

/-- A cached response without its text. -/
def CachedResponse.masked (cached : CachedResponse) : CachedResponse := { cached with text := "" }

/-- A chunk without its text, unless it has none. -/
def StreamChunk.masked (chunk : StreamChunk) : StreamChunk :=
  { chunk with textDelta := if chunk.textDelta = "" then "" else "*" }

/-- A stream without its texts. -/
def ChunkSource.masked (source : ChunkSource) : ChunkSource :=
  { source with chunks := source.chunks.map StreamChunk.masked }

/-- Chunks that differ only in text are empty together. -/
theorem StreamChunk.textDelta_eq_empty_iff {chunk chunk' : StreamChunk}
    (h : chunk.masked = chunk'.masked) : chunk.textDelta = "" ↔ chunk'.textDelta = "" := by
  have htext := congrArg StreamChunk.textDelta h
  simp only [StreamChunk.masked] at htext
  constructor
  · intro hempty
    by_contra hne
    simp [hempty, hne] at htext
  · intro hempty
    by_contra hne
    simp [hempty, hne] at htext

/-! ## Bodies -/

/-- A field of a message, its content masked. -/
def maskContent (field : String × Json) : String × Json :=
  (field.1, if field.1 = "content" then .null else field.2)

/-- A message without its content. -/
def maskMessage : Json → Json
  | .obj fields => .obj (fields.map maskContent)
  | value => value

/-- A field of a body, the contents of its messages masked. -/
def maskField (field : String × Json) : String × Json :=
  (field.1,
    if field.1 = "messages" then
      match field.2 with
      | .arr items => .arr (items.map maskMessage)
      | value => value
    else field.2)

/-- A body without the contents of its messages. -/
def maskBody : Json → Json
  | .obj fields => .obj (fields.map maskField)
  | value => value

/-- Accepted, or rejected with this issue. -/
def validationOutcome (validation : Validation) (body : Json) : Except ValidationIssue Unit :=
  (modelValidate validation body).map fun _ => ()

/-- The bodies differ in the contents of their messages only, and fare alike in validation. -/
def BodiesAlike (validation : Validation) (body body' : Json) : Prop :=
  maskBody body = maskBody body' ∧
    validationOutcome validation body = validationOutcome validation body'

/-- The requests agree on everything but their messages. -/
structure RequestsAlike (request request' : ChatRequest) : Prop where
  model : request.model = request'.model
  maxTokens : request.maxTokens = request'.maxTokens
  temperature : request.temperature = request'.temperature
  stream : request.stream = request'.stream

/-- The other fields are not masked. -/
theorem field_map_maskField {name : String} (hname : name ≠ "messages")
    (fields : List (String × Json)) :
    Json.field name (fields.map maskField) = Json.field name fields := by
  induction fields with
  | nil => rfl
  | cons field fields ih =>
      simp only [Json.field, List.map_cons, List.find?_cons] at ih ⊢
      by_cases hfield : field.1 = name
      · simp [maskField, hfield, hname]
      · simpa [maskField, hfield] using ih

theorem field_eq_of_maskBody {fields fields' : List (String × Json)} {name : String}
    (h : maskBody (.obj fields) = maskBody (.obj fields')) (hname : name ≠ "messages") :
    Json.field name fields = Json.field name fields' := by
  have hmasked : fields.map maskField = fields'.map maskField := by simpa [maskBody] using h
  rw [← field_map_maskField hname, hmasked, field_map_maskField hname]

/-- What an accepted body consists of, the messages left out. -/
theorem modelValidate_ok {validation : Validation} {body : Json} {request : ChatRequest}
    (h : modelValidate validation body = .ok request) :
    ∃ fields, body = .obj fields ∧
      validateModel (Json.field "model" fields) = .ok request.model ∧
      (validateMaxTokens validation (Json.field "max_tokens" fields)).map Subtype.val =
        .ok request.maxTokens ∧
      (validateTemperature validation (Json.field "temperature" fields)).map Subtype.val =
        .ok request.temperature ∧
      coerced validation.bool false (Json.field "stream" fields) = .ok request.stream := by
  unfold modelValidate at h
  split at h
  case h_2 => cases h
  rename_i fields
  refine ⟨fields, rfl, ?_⟩
  split at h
  · cases h
  rename_i model hmodel
  split at h
  · cases h
  split at h
  · cases h
  rename_i maxTokens hmaxTokens
  split at h
  · cases h
  rename_i temperature htemperature
  split at h
  · cases h
  rename_i stream hstream
  cases h
  rw [hmaxTokens, htemperature]
  exact ⟨hmodel, rfl, rfl, hstream⟩

/-- **Alike bodies** are rejected alike, or accepted as alike requests. -/
theorem BodiesAlike.modelValidate {validation : Validation} {body body' : Json}
    (h : BodiesAlike validation body body') :
    (∃ issue, modelValidate validation body = .error issue ∧
      modelValidate validation body' = .error issue) ∨
    ∃ request request', modelValidate validation body = .ok request ∧
      modelValidate validation body' = .ok request' ∧ RequestsAlike request request' := by
  obtain ⟨hmask, houtcome⟩ := h
  unfold validationOutcome at houtcome
  cases hbody : BedrockGateway.modelValidate validation body with
  | error issue =>
      rw [hbody] at houtcome
      cases hbody' : BedrockGateway.modelValidate validation body' with
      | error issue' =>
          rw [hbody'] at houtcome
          cases houtcome
          exact .inl ⟨issue, rfl, rfl⟩
      | ok request' =>
          rw [hbody'] at houtcome
          cases houtcome
  | ok request =>
      rw [hbody] at houtcome
      cases hbody' : BedrockGateway.modelValidate validation body' with
      | error issue' =>
          rw [hbody'] at houtcome
          cases houtcome
      | ok request' =>
          obtain ⟨fields, rfl, hmodel, hmax, htemperature, hstream⟩ := modelValidate_ok hbody
          obtain ⟨fields', rfl, hmodel', hmax', htemperature', hstream'⟩ := modelValidate_ok hbody'
          have hfield : ∀ name, name ≠ "messages" →
              Json.field name fields = Json.field name fields' :=
            fun name hname => field_eq_of_maskBody hmask hname
          rw [← hfield "model" (by decide), hmodel] at hmodel'
          rw [← hfield "max_tokens" (by decide), hmax] at hmax'
          rw [← hfield "temperature" (by decide), htemperature] at htemperature'
          rw [← hfield "stream" (by decide), hstream] at hstream'
          exact .inr ⟨request, request', rfl, rfl, Except.ok.inj hmodel', Except.ok.inj hmax',
            Except.ok.inj htemperature', Except.ok.inj hstream'⟩

end BedrockGateway
