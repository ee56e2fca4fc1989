/-
# Telemetry records

What the gateway reports about a request: fields on a span, structured log
records, an estimated cost, a latency flag and, for tenants that opted in, a
redacted capture of the conversation. The redaction itself is a parameter.
-/

import BedrockGateway.Inference.Bedrock
import BedrockGateway.Policy.Models
import Mathlib.Data.Rat.Floor

namespace BedrockGateway

open Foundation

/-- The value of a span attribute or of a log field. -/
inductive FieldValue
  | none
  | str (text : String)
  | int (value : ℤ)
  | num (value : ℚ)
  | bool (value : Bool)
  deriving DecidableEq

/-- An optional string as a field value. -/
def FieldValue.ofOption : Option String → FieldValue
  | some text => .str text
  | .none => .none

/-- Keyword arguments. -/
abbrev Fields := List (String × FieldValue)

/-- The attributes `set_span_attributes` sets: those that are not `None`. -/
def spanAttributes (attributes : Fields) : Fields :=
  attributes.filter fun pair => pair.2 ≠ .none

/-- A call of `log_event`. -/
structure LogRecord where
  logger : String
  level : String
  message : String
  requestId : Option String
  error : Option String := none
  fields : Fields := []
  deriving DecidableEq

/-- The nearest integer, the even one of two. -/
def roundHalfEven (x : ℚ) : ℤ :=
  let whole := ⌊x⌋
  if x - whole < 1 / 2 then whole
  else if 1 / 2 < x - whole then whole + 1
  else if whole % 2 = 0 then whole else whole + 1

/-- `round(x, digits)` -/
def round (x : ℚ) (digits : ℕ) : ℚ := roundHalfEven (x * 10 ^ digits) / 10 ^ digits

/-- `round((time.perf_counter() - start) * 1000, 2)` -/
def elapsedMs (start stop : ℚ) : ℚ := round ((stop - start) * 1000) 2

/-- `ModelPricing` -/
structure ModelPricing where
  inputPer1k : ℚ
  outputPer1k : ℚ

/-- `DEFAULT_PRICING` -/
def defaultPricing : List (String × ModelPricing) := [
  ("us.amazon.nova-micro-v1:0", ⟨35 / 1000000, 14 / 100000⟩),
  ("us.amazon.nova-lite-v1:0", ⟨6 / 100000, 24 / 100000⟩),
  ("us.amazon.nova-pro-v1:0", ⟨8 / 10000, 32 / 10000⟩),
  ("anthropic.claude-3-5-sonnet-20241022-v2:0", ⟨3 / 1000, 15 / 1000⟩),
  ("anthropic.claude-3-haiku-20240307-v1:0", ⟨25 / 100000, 125 / 100000⟩)]

/-- `_FALLBACK_PRICING` -/
def fallbackPricing : ModelPricing := ⟨3 / 1000, 15 / 1000⟩

/-- `estimate_cost` with the default table. The exact value is rounded; the source rounds
the nearest float, which may differ at ties. -/
def estimateCost (modelId : String) (inputTokens outputTokens : ℤ) : ℚ :=
  let rates := (defaultPricing.lookup modelId).getD fallbackPricing
  round (inputTokens / 1000 * rates.inputPer1k + outputTokens / 1000 * rates.outputPer1k) 6

/-- `slo_breached` -/
def sloBreached (policy : TenantPolicy) (latencyMs : ℚ) : Bool :=
  match policy.slo.p95LatencyMs with
  | .none => false
  | some threshold => threshold < latencyMs

/-- `DebugRecord` -/
structure DebugRecord where
  requestId : String
  tenantId : String
  redactedInput : String
  redactedOutput : String
  capturedAt : ℚ
  deriving DecidableEq

/-- `DebugCaptureStore._records` -/
abbrev DebugRecords := Dict String DebugRecord

/-- `DebugCaptureStore.capture` -/
def DebugRecords.capture (records : DebugRecords) (redact : String → String) (now : ℚ)
    (requestId tenantId inputText outputText : String) : DebugRecords :=
  records.set requestId ⟨requestId, tenantId, redact inputText, redact outputText, now⟩

/-- `DebugCaptureStore.get` -/
def DebugRecords.get (records : DebugRecords) (ttlS now : ℚ) (requestId : String) :
    Option DebugRecord × DebugRecords :=
  match records.get? requestId with
  | none => (none, records)
  | some record =>
      if ttlS ≤ now - record.capturedAt then (none, records.erase requestId)
      else (some record, records)

end BedrockGateway
