/-
# Streaming from the Bedrock client

A generator is a program two of whose questions are special: those it puts to the
upstream, and the giving of a chunk to its consumer, who answers by asking for the
next one or, to end the generator, never. `converse_stream` is such a program, and
`stream_chat_response` a consumer of it.
-/

import BedrockGateway.Inference.BedrockClient
import BedrockGateway.Streaming

namespace BedrockGateway

open Foundation Py

/-! ## The generator -/

/-- The questions of a generator of chunks. -/
inductive StreamQuery
  | /-- A question of the client. -/
    client (query : ClientQuery)
  | /-- `yield` -/
    yields (chunk : StreamChunk)

/-- The answers to a question. -/
@[reducible]
def StreamAnswer : StreamQuery → Type
  | .client query => ClientAnswer query
  | .yields _ => Unit

/-- A generator of chunks. -/
abbrev Generator := Fallible StreamQuery StreamAnswer Exn Unit

/-- Ask one question. -/
abbrev Generator.ask (q : StreamQuery) : Fallible StreamQuery StreamAnswer Exn (StreamAnswer q) :=
  Fallible.ask q

/-- What `converse_stream` has seen last. -/
structure StreamSummary where
  stopReason : Option String := none
  inputTokens : Option ℤ := none
  outputTokens : Option ℤ := none

/-- The chunk that ends a stream. -/
def StreamSummary.finalChunk (summary : StreamSummary) : StreamChunk where
  isFinal := true
  stopReason := summary.stopReason
  inputTokens := summary.inputTokens
  outputTokens := summary.outputTokens

/-- The exception of a stream that fails on the way. -/
def UpstreamError.midStream (exc : UpstreamError) : Exn :=
  .bedrockInvocation ("Bedrock stream failed mid-stream: " ++ exc.text) exc.codeOrDefault false

/-- The exception of a stream that cannot be opened. -/
def UpstreamError.onOpening (exc : UpstreamError) : Exn :=
  .bedrockInvocation ("Bedrock stream invocation failed: " ++ exc.text) exc.codeOrDefault false

/-- The loop of `converse_stream` and what follows it. -/
def translateEvents (raises : Option UpstreamError) :
    StreamSummary → List UpstreamEvent → Generator
  | summary, [] =>
      match raises with
      | some exc => do
          let _ ← Generator.ask (.client (.pull (.error exc)))
          throw exc.midStream
      | none => do
          let _ ← Generator.ask (.client (.pull (.ok none)))
          Generator.ask (.yields summary.finalChunk)
  | summary, event :: rest => do
      let _ ← Generator.ask (.client (.pull (.ok (some event))))
      match event with
      | .contentBlockDelta text =>
          match text.filter (· ≠ "") with
          | some text =>
              let _ ← Generator.ask (.yields { textDelta := text })
              translateEvents raises summary rest
          | none => translateEvents raises summary rest
      | .messageStop stopReason =>
          translateEvents raises { summary with stopReason := stopReason } rest
      | .metadata inputTokens outputTokens =>
          translateEvents raises
            { summary with inputTokens := inputTokens, outputTokens := outputTokens } rest
      | .other => translateEvents raises summary rest

/-- `BedrockClient.converse_stream` -/
def BedrockClient.converseStream (modelId : String) (conversation : Conversation) : Generator := do
  match ← Generator.ask (.client (.invokeStream modelId conversation.messages
      conversation.maxTokens conversation.temperature)) with
  | .error exc => throw exc.onOpening
  | .ok stream => translateEvents stream.raises {} stream.events

/-! ## The consumer -/

/-- A piece of the gateway's code, with the client in place. -/
def ClientPy.gateway {α : Type} (code : Py α) : ClientPy α :=
  ExceptT.mk (code.run.expand fun query => Program.query (ClientQuery.gateway query))

/-- The chunk loop of `stream_chat_response` over a generator. -/
def consumeGenerator :
    StreamOutcome → Program StreamQuery StreamAnswer (Except Exn Unit) → ClientPy StreamOutcome
  | outcome, .ret (.ok _) => pure outcome
  | _, .ret (.error exn) => throw exn
  | outcome, .ask (.client query) resume => do
      let answer ← ClientPy.ask query
      consumeGenerator outcome (resume answer)
  | outcome, .ask (.yields chunk) resume => do
      let disconnected ← ClientPy.gateway (ask .isDisconnected >>= settle)
      if disconnected then pure { outcome with aborted := true }
      else
        let final := if chunk.isFinal then some chunk else outcome.final
        if chunk.textDelta = "" then
          consumeGenerator { outcome with final := final } (resume ())
        else
          let _ ← ClientPy.gateway (sendText (sse (.obj [("delta", .str chunk.textDelta)])))
          consumeGenerator
            { outcome with generatedChunks := outcome.generatedChunks + 1, final := final }
            (resume ())

/-- The `try` statement of `stream_chat_response` over a generator. -/
def consumeGeneratorOrReport (ctx : StreamContext) (chunks : Generator) :
    ClientPy (Option StreamOutcome) :=
  Fallible.attempt (consumeGenerator {} chunks.run) >>= fun
    | .ok outcome => pure (some outcome)
    | .error (.bedrockInvocation message _ _) => do
        let _ ← ClientPy.gateway (reportStreamFailure ctx message)
        pure none
    | .error exn => throw exn

/-- `try: body finally: cleanup` -/
def ClientPy.tryFinally {α : Type} (body : ClientPy α) (cleanup : ClientPy Unit) : ClientPy α := do
  let outcome ← Fallible.attempt body
  let _ ← cleanup
  ClientPy.gateway (settle outcome)

/-- `stream_chat_response` over a generator. -/
def streamGenerator (ctx : StreamContext) (chunks : Generator) : ClientPy Unit := do
  let start ← ClientPy.gateway (ask .perfCounter)
  match ← ClientPy.tryFinally (consumeGeneratorOrReport ctx chunks)
      (ClientPy.gateway (ask .closeChunks >>= settle)) with
  | some outcome => ClientPy.gateway (reportStreamEnd ctx start outcome)
  | none => pure ()

end BedrockGateway
