/-
# The Bedrock client

The client behind the gateway's questions about models. It asks the SDK, sleeps
between attempts, and translates the SDK's events into chunks. With it in place
the gateway asks the questions below instead: its own, except for the two that the
client answers, and the client's.
-/

import BedrockGateway.Pipeline

namespace BedrockGateway

open Foundation

/-- An exception of the SDK: the code that `_extract_error_code` finds, and its text. -/
structure UpstreamError where
  code : Option String
  text : String
  deriving DecidableEq

/-- `_RETRYABLE_ERROR_CODES` -/
def retryableErrorCodes : List String :=
  ["ThrottlingException", "ServiceUnavailableException", "ModelTimeoutException",
    "InternalServerException"]

namespace UpstreamError

/-- `error_code in _RETRYABLE_ERROR_CODES` -/
def retryable (error : UpstreamError) : Bool := error.code.any (· ∈ retryableErrorCodes)

/-- `error_code or "UPSTREAM_ERROR"` -/
def codeOrDefault (error : UpstreamError) : String :=
  (error.code.filter (· ≠ "")).getD "UPSTREAM_ERROR"

end UpstreamError

/-- What the client reads of a response of the SDK. -/
structure UpstreamResponse where
  /-- The text of each block of the message that has one. -/
  content : List (Option String)
  inputTokens : Option ℤ := none
  outputTokens : Option ℤ := none
  stopReason : Option String := none

/-- An event of the SDK's stream. -/
inductive UpstreamEvent
  | contentBlockDelta (text : Option String)
  | messageStop (stopReason : Option String)
  | metadata (inputTokens outputTokens : Option ℤ)
  | other
  deriving DecidableEq

/-- An opened stream of the SDK: its events, and the exception it raises instead of
ending, if any. -/
structure UpstreamStream where
  events : List UpstreamEvent
  raises : Option UpstreamError := none

/-- The questions of the gateway together with its Bedrock client. -/
inductive ClientQuery
  | /-- A question of the gateway. -/
    gateway (query : Query)
  | /-- The SDK's `converse` and the reading of its response; an exception is one of
    either. The attempts before this one have failed. -/
    invoke (modelId : String) (messages : List BedrockChatMessage) (maxTokens : ℤ)
      (temperature : PyFloat) (attempt : ℕ)
  | /-- `round((time.perf_counter() - start) * 1000, 2)` -/
    latencyMs
  | /-- `time.sleep(random.uniform(0, sleep_s))` -/
    sleep (sleepS : ℚ)
  | /-- The SDK's `converse_stream`. -/
    invokeStream (modelId : String) (messages : List BedrockChatMessage) (maxTokens : ℤ)
      (temperature : PyFloat)
  | /-- `next` on the opened stream comes back with this. -/
    pull (next : Except UpstreamError (Option UpstreamEvent))

/-- The answers to a question. -/
@[reducible]
def ClientAnswer : ClientQuery → Type
  | .gateway query => Answer query
  | .invoke _ _ _ _ _ => Except UpstreamError UpstreamResponse
  | .latencyMs => PyFloat
  | .sleep _ => Unit
  | .invokeStream _ _ _ _ => Except UpstreamError UpstreamStream
  | .pull _ => Unit

/-- A piece of the gateway's code with the client in place. -/
abbrev ClientPy (α : Type) := Fallible ClientQuery ClientAnswer Exn α

/-- Ask one question. -/
abbrev ClientPy.ask (q : ClientQuery) : ClientPy (ClientAnswer q) := Fallible.ask q

/-- How a question may be answered with the client in place: the SDK may answer
anything and changes nothing the gateway owns. -/
def ClientAnswers (app : App) (s : GatewayState) (q : ClientQuery) (a : ClientAnswer q)
    (s' : GatewayState) : Prop :=
  match q, a with
  | .gateway query, a => Answers app s query a s'
  | _, _ => s' = s

/-- The constructor arguments of `BedrockClient`. -/
structure BedrockClient where
  maxRetries : ℕ := 2
  baseBackoffS : ℚ := 1 / 4

namespace BedrockClient

/-- The loop of `BedrockClient.converse`: `retries` of the retries are left after
`attempt` attempts. -/
def invokeLoop (client : BedrockClient) (modelId : String) (conversation : Conversation) :
    (retries attempt : ℕ) → ClientPy ConverseResult
  | retries, attempt => do
    match ← ClientPy.ask (.invoke modelId conversation.messages conversation.maxTokens
        conversation.temperature attempt) with
    | .ok response =>
        let latencyMs ← ClientPy.ask .latencyMs
        pure {
          text := String.join (response.content.map (·.getD ""))
          inputTokens := response.inputTokens.getD 0
          outputTokens := response.outputTokens.getD 0
          stopReason := response.stopReason
          latencyMs := latencyMs
          retryCount := attempt }
    | .error exc =>
        let failure : Exn := .bedrockInvocation
          ("Bedrock invocation failed after " ++ toString (attempt + 1) ++ " attempt(s): " ++
            exc.text) exc.codeOrDefault exc.retryable
        match retries with
        | 0 => throw failure
        | retries + 1 =>
            if exc.retryable then
              let _ ← ClientPy.ask (.sleep (client.baseBackoffS * 2 ^ attempt))
              client.invokeLoop modelId conversation retries (attempt + 1)
            else throw failure

/-- `BedrockClient.converse` -/
def converse (client : BedrockClient) (modelId : String) (conversation : Conversation) :
    ClientPy ConverseResult :=
  client.invokeLoop modelId conversation client.maxRetries 0

/-- What the gateway's questions become with the client in place. -/
def serves (client : BedrockClient) :
    (query : Query) → Program ClientQuery ClientAnswer (Answer query)
  | .converse modelId messages maxTokens temperature =>
      (client.converse modelId ⟨messages, maxTokens, temperature⟩).run
  | query => Program.query (ClientQuery.gateway query)

end BedrockClient

end BedrockGateway
