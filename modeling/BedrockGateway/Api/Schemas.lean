/-
# Request and response models

A `ChatRequest` carries the proofs of its own constraints, so that a handler
holding one need not check anything again. Validation is the only way from a
parsed body to a request. It stops at the first violated rule, which is the one
whose text the gateway reports. How primitive values are coerced, and how the
violations are worded, is the validation library's business and a parameter.
-/

import BedrockGateway.Cache.Keys

namespace BedrockGateway

open Foundation

/-- `ChatMessage.role` -/
inductive Role
  | user
  | assistant
  deriving DecidableEq

/-- The literal of a role. -/
def Role.value : Role → String
  | .user => "user"
  | .assistant => "assistant"

/-- `ChatMessage` -/
structure ChatMessage where
  role : Role
  content : String
  /-- `min_length=1` -/
  nonempty : content ≠ ""

/-- `ChatRequest` -/
structure ChatRequest where
  model : Option String
  messages : List ChatMessage
  maxTokens : ℤ
  temperature : PyFloat
  stream : Bool
  /-- `ge=1, le=8192` -/
  maxTokensBounds : 1 ≤ maxTokens ∧ maxTokens ≤ 8192
  /-- `ge=0.0, le=1.0` -/
  temperatureBounds : 0 ≤ temperature.value ∧ temperature.value ≤ 1
  /-- `_last_message_is_user`, which includes `min_length=1`. -/
  lastMessageIsUser : messages.getLast?.map ChatMessage.role = some .user

/-- The rules a body can violate first. -/
inductive ValidationIssue
  | /-- Not an object where one of this class is expected. -/
    notAModel (className : String)
  | /-- A required field is absent. -/
    missing
  | /-- Not a string. -/
    notAString
  | /-- Not one of the literals. -/
    notALiteral (expected : List String)
  | /-- A string shorter than the bound. -/
    stringTooShort (minLength : ℕ)
  | /-- Not a list. -/
    notAList
  | /-- A list shorter than the bound. -/
    tooShort (minLength : ℕ)
  | /-- Below the inclusive bound, as the library prints it. -/
    lessThan (bound : String)
  | /-- Above the inclusive bound, as the library prints it. -/
    greaterThan (bound : String)
  | /-- A `ValueError` of a validator of the model. -/
    valueError (message : String)
  | /-- A primitive coercion failed. -/
    coercion (message : String)

/-- The validation library: its coercions to primitives and its wording. -/
structure Validation where
  int : Json → Except String ℤ
  float : Json → Except String PyFloat
  bool : Json → Except String Bool
  msg : ValidationIssue → String

/-- The value of a field of an object. -/
def Json.field (name : String) (fields : List (String × Json)) : Option Json :=
  (fields.find? fun field => field.1 = name).map Prod.snd

/-- The `role` of a message. -/
def validateRole : Option Json → Except ValidationIssue Role
  | none => .error .missing
  | some (.str "user") => .ok .user
  | some (.str "assistant") => .ok .assistant
  | some _ => .error (.notALiteral ["user", "assistant"])

/-- One item of `messages`. -/
def validateMessage : Json → Except ValidationIssue ChatMessage
  | .obj fields =>
      match validateRole (Json.field "role" fields) with
      | .error issue => .error issue
      | .ok role =>
          match Json.field "content" fields with
          | none => .error .missing
          | some (.str content) =>
              if h : content = "" then .error (.stringTooShort 1) else .ok ⟨role, content, h⟩
          | some _ => .error .notAString
  | _ => .error (.notAModel "ChatMessage")

/-- The items of `messages`, in order. -/
def validateMessages : List Json → Except ValidationIssue (List ChatMessage)
  | [] => .ok []
  | item :: items =>
      match validateMessage item with
      | .error issue => .error issue
      | .ok message =>
          match validateMessages items with
          | .error issue => .error issue
          | .ok messages => .ok (message :: messages)

/-- `messages`, with its own constraint and validator. -/
def validateMessageList : Option Json →
    Except ValidationIssue {ms : List ChatMessage // ms.getLast?.map ChatMessage.role = some .user}
  | none => .error .missing
  | some (.arr items) =>
      match validateMessages items with
      | .error issue => .error issue
      | .ok messages =>
          if messages.isEmpty then .error (.tooShort 1)
          else if h : messages.getLast?.map ChatMessage.role = some .user then .ok ⟨messages, h⟩
          else .error (.valueError "the last message must have role='user'")
  | some _ => .error .notAList

/-- `model` -/
def validateModel : Option Json → Except ValidationIssue (Option String)
  | none => .ok none
  | some .null => .ok none
  | some (.str model) => .ok (some model)
  | some _ => .error .notAString

/-- A coerced field, or its default. -/
def coerced {α : Type} (coerce : Json → Except String α) (default : α) :
    Option Json → Except ValidationIssue α
  | none => .ok default
  | some raw =>
      match coerce raw with
      | .ok value => .ok value
      | .error message => .error (.coercion message)

/-- `0.7`, the default temperature. -/
def defaultTemperature : PyFloat := ⟨['0', '.', '7'], by simp, by simp [isNumeric]⟩

/-- `max_tokens` -/
def validateMaxTokens (validation : Validation) (raw : Option Json) :
    Except ValidationIssue {n : ℤ // 1 ≤ n ∧ n ≤ 8192} :=
  match coerced validation.int 1024 raw with
  | .error issue => .error issue
  | .ok n =>
      if hlow : 1 ≤ n then
        if hhigh : n ≤ 8192 then .ok ⟨n, hlow, hhigh⟩ else .error (.greaterThan "8192")
      else .error (.lessThan "1")

/-- `temperature` -/
def validateTemperature (validation : Validation) (raw : Option Json) :
    Except ValidationIssue {x : PyFloat // 0 ≤ x.value ∧ x.value ≤ 1} :=
  match coerced validation.float defaultTemperature raw with
  | .error issue => .error issue
  | .ok x =>
      if hlow : 0 ≤ x.value then
        if hhigh : x.value ≤ 1 then .ok ⟨x, hlow, hhigh⟩ else .error (.greaterThan "1")
      else .error (.lessThan "0")

/-- `ChatRequest.model_validate`: the fields in declaration order. -/
def modelValidate (validation : Validation) : Json → Except ValidationIssue ChatRequest
  | .obj fields =>
      match validateModel (Json.field "model" fields) with
      | .error issue => .error issue
      | .ok model =>
      match validateMessageList (Json.field "messages" fields) with
      | .error issue => .error issue
      | .ok messages =>
      match validateMaxTokens validation (Json.field "max_tokens" fields) with
      | .error issue => .error issue
      | .ok maxTokens =>
      match validateTemperature validation (Json.field "temperature" fields) with
      | .error issue => .error issue
      | .ok temperature =>
      match coerced validation.bool false (Json.field "stream" fields) with
      | .error issue => .error issue
      | .ok stream => .ok {
          model := model
          messages := messages.val
          maxTokens := maxTokens.val
          temperature := temperature.val
          stream := stream
          maxTokensBounds := maxTokens.property
          temperatureBounds := temperature.property
          lastMessageIsUser := messages.property }
  | _ => .error (.notAModel "ChatRequest")

/-- The defaults of the schema pass its own checks. -/
theorem defaults_valid (validation : Validation) :
    (∃ n, validateMaxTokens validation none = .ok n) ∧
      ∃ x, validateTemperature validation none = .ok x := by
  constructor
  · exact ⟨⟨1024, by decide⟩, by simp [validateMaxTokens, coerced]⟩
  · have hlow : (0 : ℚ) ≤ defaultTemperature.value := by decide +kernel
    have hhigh : defaultTemperature.value ≤ 1 := by decide +kernel
    exact ⟨⟨defaultTemperature, hlow, hhigh⟩, by simp [validateTemperature, coerced, hlow, hhigh]⟩

/-- A valid request has a message. -/
theorem ChatRequest.messages_ne_nil (request : ChatRequest) : request.messages ≠ [] := by
  intro h
  have hlast := request.lastMessageIsUser
  simp [h] at hlast

/-- `normalize_messages` -/
def normalizeMessages (messages : List ChatMessage) : List NormalizedMessage :=
  messages.map fun m => ⟨m.role.value, m.content⟩

/-- The messages as the model client takes them. -/
def bedrockMessages (messages : List ChatMessage) : List BedrockChatMessage :=
  messages.map fun m => ⟨m.role.value, m.content⟩

/-- `Usage` -/
structure Usage where
  inputTokens : ℤ
  outputTokens : ℤ

/-- `ChatResponse` -/
structure ChatResponse where
  requestId : String
  model : String
  output : String
  stopReason : Option String
  usage : Usage
  latencyMs : PyFloat
  cacheHit : Bool := false
  fallback : Bool := false

/-- An optional string as JSON. -/
def Json.ofOption : Option String → Json
  | some s => .str s
  | none => .null

/-- `response.model_dump()` -/
def ChatResponse.modelDump (response : ChatResponse) : Json :=
  .obj [
    ("request_id", .str response.requestId),
    ("model", .str response.model),
    ("output", .str response.output),
    ("stop_reason", Json.ofOption response.stopReason),
    ("usage", .obj [("input_tokens", .int response.usage.inputTokens),
      ("output_tokens", .int response.usage.outputTokens)]),
    ("latency_ms", .num response.latencyMs.repr),
    ("cache_hit", .bool response.cacheHit),
    ("fallback", .bool response.fallback)]

/-- `ErrorResponse(...).model_dump()` -/
def errorBody (code message requestId : String) : Json :=
  .obj [("error", .obj [("code", .str code), ("message", .str message),
    ("request_id", .str requestId)])]

end BedrockGateway
