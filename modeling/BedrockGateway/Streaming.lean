/-
# Streaming a response

The upstream is called when the first chunk is asked for, by which time the start
of the response has been sent. The generator asks before every chunk whether the
client is still there. It records the outcome of the call when the stream ends or
fails, and nothing when it was cut short; the chunk iterator is closed in every case.
-/

import BedrockGateway.Pipeline

namespace BedrockGateway

open Foundation Py

/-- `_sse` -/
def sse (data : Json) (event : Option String := none) : String :=
  let line := "data: " ++ Json.dumps .spaced data
  match event.filter (· ≠ "") with
  | some event => "event: " ++ event ++ "\n" ++ line ++ "\n\n"
  | none => line ++ "\n\n"

/-- Send one piece of the body. -/
def sendText (text : String) : Py Unit := ask (.sendBody (.bytes text)) >>= settle

/-- What the chunk loop of `stream_chat_response` leaves behind. -/
structure StreamOutcome where
  generatedChunks : ℕ := 0
  aborted : Bool := false
  final : Option StreamChunk := none

/-- The chunk loop of `stream_chat_response`, over the chunks the iterator has yet to yield. -/
def consumeChunks (raises : Option Exn) : StreamOutcome → List StreamChunk → Py StreamOutcome
  | outcome, [] =>
      match raises with
      | some exn => throw exn
      | none => pure outcome
  | outcome, chunk :: rest => do
      let disconnected ← ask .isDisconnected >>= settle
      if disconnected then pure { outcome with aborted := true }
      else
        let final := if chunk.isFinal then some chunk else outcome.final
        if chunk.textDelta = "" then consumeChunks raises { outcome with final := final } rest
        else
          let _ ← sendText (sse (.obj [("delta", .str chunk.textDelta)]))
          consumeChunks raises
            { outcome with generatedChunks := outcome.generatedChunks + 1, final := final } rest

/-- The `for` statement of `stream_chat_response`. -/
def forChunks (source : ChunkSource) : Py StreamOutcome := do
  let _ ← ask .startStream
  consumeChunks source.raises {} source.chunks

/-- `try: body finally: cleanup` -/
def tryFinally {α : Type} (body : Py α) (cleanup : Py Unit) : Py α := do
  let outcome ← attempt body
  let _ ← cleanup
  settle outcome

/-- The `except BedrockInvocationError` clause of `stream_chat_response`. -/
def reportStreamFailure (ctx : StreamContext) (message : String) : Py Unit := do
  let _ ← ask (.recordFailure ctx.modelId)
  let _ ← sendText (sse (.obj [("error", .obj [("code", .str "UPSTREAM_ERROR"),
    ("message", .str message), ("request_id", .str ctx.requestId)])]))
  let _ ← sendText (sse (.obj []) (some "done"))
  ask (.log {
    logger := "gateway.chat.stream", level := "ERROR", message := "chat stream failed"
    requestId := some ctx.requestId, error := some message
    fields := [("model", .str ctx.modelId), ("tenant_id", .str ctx.tenantId)] })

/-- `if not aborted: circuit_breaker.record_success(model_id)` -/
def recordStreamEnd (ctx : StreamContext) (outcome : StreamOutcome) : Py Unit :=
  if outcome.aborted then pure () else ask (.recordSuccess ctx.modelId)

/-- The code of `stream_chat_response` after the loop. -/
def reportStreamEnd (ctx : StreamContext) (start : ℚ) (outcome : StreamOutcome) : Py Unit := do
  let _ ← recordStreamEnd ctx outcome
  let stop ← ask .perfCounter
  let tokens (count : StreamChunk → Option ℤ) : Json :=
    match outcome.final.bind count with
    | some n => .int n
    | none => .null
  let _ ← sendText (sse (.obj [("done", .bool true), ("aborted", .bool outcome.aborted),
    ("stop_reason", Json.ofOption (outcome.final.bind StreamChunk.stopReason)),
    ("usage", .obj [("input_tokens", tokens StreamChunk.inputTokens),
      ("output_tokens", tokens StreamChunk.outputTokens)])]))
  ask (.log {
    logger := "gateway.chat.stream", level := "INFO", message := "chat stream completed"
    requestId := some ctx.requestId
    fields := [("model", .str ctx.modelId), ("tenant_id", .str ctx.tenantId),
      ("client_disconnected", .bool outcome.aborted),
      ("generated_chunks", .int outcome.generatedChunks),
      ("stream_duration_ms", .num (elapsedMs start stop)), ("status", .int 200)] })

/-- The `try` statement of `stream_chat_response`; nothing is returned by the
clause that handles a failed stream. -/
def consumeOrReport (ctx : StreamContext) (source : ChunkSource) : Py (Option StreamOutcome) :=
  attempt (forChunks source) >>= fun
    | .ok outcome => pure (some outcome)
    | .error (.bedrockInvocation message _ _) => do
        let _ ← reportStreamFailure ctx message
        pure none
    | .error exn => throw exn

/-- `stream_chat_response`, each `yield` being a send. -/
def streamChatResponse (ctx : StreamContext) (source : ChunkSource) : Py Unit := do
  let start ← ask .perfCounter
  match ← tryFinally (consumeOrReport ctx source) (ask .closeChunks >>= settle) with
  | some outcome => reportStreamEnd ctx start outcome
  | none => pure ()

end BedrockGateway
