/-
# From the upstream to the client

A streamed conversation is translated twice: the events of the upstream into chunks, the
chunks into server-sent events, which then travel as bytes in whatever pieces. What it
means stays the same: the client that takes the bytes apart hears the texts the upstream
spoke, in their order, and then how the stream ended.
-/

import BedrockGateway.Streaming.Composition
import BedrockGateway.Streaming.Framing

namespace BedrockGateway

open Foundation

/-! ## What is meant -/

/-- The text of an event; an empty text is none. -/
def UpstreamEvent.text? : UpstreamEvent → Option String
  | .contentBlockDelta text => text.filter (· ≠ "")
  | _ => none

/-- The texts an upstream speaks. -/
def spoken : Except UpstreamError UpstreamStream → List String
  | .error _ => []
  | .ok stream => stream.events.filterMap UpstreamEvent.text?

/-- A text as the client reads it. -/
def readDelta (text : String) : ReadEvent := ⟨[], [.obj [("delta", .str text)]]⟩

/-- The event that ends a stream that did not fail. -/
def readDone (aborted : Bool) (summary : StreamSummary) : ReadEvent :=
  ⟨[], [.obj [("done", .bool true), ("aborted", .bool aborted),
    ("stop_reason", Json.ofOption summary.stopReason),
    ("usage", .obj [("input_tokens", tokenCount summary.inputTokens),
      ("output_tokens", tokenCount summary.outputTokens)])]]⟩

/-- The events that end a stream that failed. -/
def readFailure (ctx : StreamContext) (message : String) : List ReadEvent := [
  ⟨[], [.obj [("error", .obj [("code", .str "UPSTREAM_ERROR"), ("message", .str message),
    ("request_id", .str ctx.requestId)])]]⟩,
  ⟨["done"], [.obj []]⟩]

/-- How the client is told that the stream ended: because it left, because the upstream
failed before or after opening, or because the upstream was done. -/
def readEnd (ctx : StreamContext) (opened : Except UpstreamError UpstreamStream) (left : Bool) :
    List ReadEvent :=
  if left then [readDone true {}]
  else
    match opened with
    | .error exc => readFailure ctx ("Bedrock stream invocation failed: " ++ exc.text)
    | .ok stream =>
        match stream.raises with
        | some exc => readFailure ctx ("Bedrock stream failed mid-stream: " ++ exc.text)
        | none => [readDone false (lastSummary stream.events)]

/-! ## The chunks say it -/

/-- The texts of chunks. -/
def textsOf (chunks : List StreamChunk) : List String :=
  (chunks.map StreamChunk.textDelta).filter (· ≠ "")

/-- An event is made into a chunk if and only if it has a text. -/
theorem chunk?_eq_map_text? (event : UpstreamEvent) :
    event.chunk? = event.text?.map fun text => { textDelta := text } := by
  cases event <;> rfl

theorem text?_ne {event : UpstreamEvent} {text : String} (h : event.text? = some text) :
    text ≠ "" := by
  cases event with
  | contentBlockDelta delta => simpa using (Option.filter_eq_some_iff.mp h).2
  | _ => cases h

theorem textsOf_filterMap (events : List UpstreamEvent) :
    textsOf (events.filterMap UpstreamEvent.chunk?) = events.filterMap UpstreamEvent.text? := by
  induction events with
  | nil => rfl
  | cons event rest ih =>
      have hchunk := chunk?_eq_map_text? event
      cases htext : event.text? with
      | none =>
          rw [htext] at hchunk
          rw [List.filterMap_cons_none hchunk, List.filterMap_cons_none htext, ih]
      | some text =>
          rw [htext] at hchunk
          rw [List.filterMap_cons_some hchunk, List.filterMap_cons_some htext, ← ih]
          exact List.filter_cons_of_pos (by simpa using text?_ne htext)

/-- The chunks of the client say what the upstream speaks. -/
theorem textsOf_chunkSource (opened : Except UpstreamError UpstreamStream) :
    textsOf (chunkSource opened).chunks = spoken opened := by
  cases opened with
  | error exc => rfl
  | ok stream =>
      obtain ⟨events, raises⟩ := stream
      have hfinal : ∀ summary : StreamSummary, textsOf [summary.finalChunk] = [] := fun _ => by
        simp [textsOf, StreamSummary.finalChunk]
      show textsOf (chunksOf {} (UpstreamStream.pulls ⟨events, raises⟩)) =
        events.filterMap UpstreamEvent.text?
      rw [chunksOf_pulls, ← textsOf_filterMap]
      cases raises with
      | some exc => rw [List.append_nil]
      | none =>
          rw [textsOf, List.map_append, List.filter_append]
          exact (congrArg _ (hfinal _)).trans (List.append_nil _)

/-- What was kept of the chunks is the beginning of what was spoken, all of it if the
client has not left. -/
theorem textsOf_kept {opened : Except UpstreamError UpstreamStream} {polls : List Bool}
    (hpolls : polls = List.replicate (chunkSource opened).chunks.length false ∨
      ∃ n, n < (chunkSource opened).chunks.length ∧ polls = List.replicate n false ++ [true]) :
    textsOf (keptChunks (chunkSource opened).chunks polls) <+: spoken opened ∧
      (true ∉ polls → textsOf (keptChunks (chunkSource opened).chunks polls) = spoken opened) := by
  rw [← textsOf_chunkSource]
  rcases hpolls with rfl | ⟨n, hlt, rfl⟩
  · rw [keptChunks_all]
    exact ⟨List.prefix_rfl, fun _ => rfl⟩
  · rw [keptChunks_left hlt]
    refine ⟨?_, fun hstayed => absurd hstayed (by simp)⟩
    exact ((List.take_prefix n _).map _).filter _

/-! ## The events say it -/

section Events

variable (breaks : LineBreaks)

/-- The frames of a list of events are read as what the events show. -/
theorem readStream_frames {breaks : LineBreaks} (events : List (SseEvent breaks))
    {frames : List String}
    (hframes : frames = events.map SseEvent.frame) {chunks : List (List UInt8)}
    (hchunks : chunks.flatten = frames.flatMap fun frame => encodeUtf8 frame.toList) :
    readStream breaks chunks = some (events.map SseEvent.shown) := by
  rw [readStream_flatten, hchunks, hframes, List.flatMap_map]
  exact readStream_encode events

/-- The deltas of chunks are events that show their texts. -/
theorem deltaFrames_eq (chunks : List StreamChunk) :
    ∃ events : List (SseEvent breaks), deltaFrames chunks = events.map SseEvent.frame ∧
      events.map SseEvent.shown = (textsOf chunks).map readDelta := by
  refine ⟨(chunks.filter (·.textDelta ≠ "")).map (deltaEvent breaks), ?_, ?_⟩
  · rw [deltaFrames, List.map_map]
    rfl
  · rw [textsOf, List.filter_map, List.map_map, List.map_map]
    rfl

/-- The event of a stream that did not fail. -/
theorem doneFrame_eq (aborted : Bool) (summary : StreamSummary) :
    ∃ e : SseEvent breaks, doneFrame aborted summary = e.frame ∧
      e.shown = readDone aborted summary :=
  ⟨.ofData breaks ⟨_, wellFormed_doneFrame aborted summary⟩, rfl, rfl⟩

/-- The events of a stream that failed. -/
theorem failedFrames_eq (ctx : StreamContext) (message : String) :
    ∃ events : List (SseEvent breaks),
      [errorFrame ctx message, failedFrame] = events.map SseEvent.frame ∧
      events.map SseEvent.shown = readFailure ctx message := by
  have herror : (Json.obj [("error", .obj [("code", .str "UPSTREAM_ERROR"),
      ("message", .str message), ("request_id", .str ctx.requestId)])]).wellFormed = true := by
    simp [Json.wellFormed, Json.wellFormedFields]
  have hdone : ∀ name ∈ some "done", ∀ c ∈ name.toList, breaks.isBreak c = false := by
    intro name hname
    obtain rfl := Option.some.inj hname
    exact SseEvent.isBreak_literal (by decide)
  exact ⟨[.ofData breaks ⟨_, herror⟩, ⟨some "done", ⟨[], rfl⟩, hdone⟩], rfl, rfl⟩

/-- The last frames are events that say how the stream ended. -/
theorem StreamEnd.read {ctx : StreamContext} {opened : Except UpstreamError UpstreamStream}
    {pulled : List Pull} {polls : List Bool} {terminal : List String} {records : List Query}
    (h : StreamEnd ctx opened pulled polls terminal records) :
    ∃ events : List (SseEvent breaks), terminal = events.map SseEvent.frame ∧
      events.map SseEvent.shown = readEnd ctx opened (decide (true ∈ polls)) := by
  cases h with
  | left polled =>
      obtain ⟨e, hframe, hshown⟩ := doneFrame_eq breaks true {}
      exact ⟨[e], by simp [hframe], by simp [hshown, readEnd, polled]⟩
  | notOpened exc opening polled =>
      obtain ⟨events, hframes, hshown⟩ := failedFrames_eq breaks ctx _
      exact ⟨events, hframes, by simp [hshown, readEnd, polled, opening]⟩
  | failed stream exc opening raised polled all =>
      obtain ⟨events, hframes, hshown⟩ := failedFrames_eq breaks ctx _
      exact ⟨events, hframes, by simp [hshown, readEnd, polled, opening, raised]⟩
  | completed stream opening ended polled all =>
      obtain ⟨e, hframe, hshown⟩ := doneFrame_eq breaks false (lastSummary stream.events)
      exact ⟨[e], by simp [hframe], by simp [hshown, readEnd, polled, opening, ended]⟩

end Events

/-! ## End to end -/

/-- **Streaming preserves the meaning.** Whatever the upstream answers, wherever it fails
and whenever the client leaves, and however the bytes that were sent are cut into pieces
and whatever else but the newline the client takes for line breaks: it reads the
beginning of the texts that were spoken, all of them if it has not left, and then how the
stream ended. -/
theorem streaming_preserves {ctx : StreamContext} {modelId : String} {conversation : Conversation}
    {trace : List (Event ClientAnswer)} {result : Except Exn Unit}
    (h : Program.Exec (streamGenerator ctx (BedrockClient.converseStream modelId conversation)).run
      trace result)
    (hdelivered : ∀ event ∈ gatewayTrace trace, delivered event = true) (breaks : LineBreaks)
    {chunks : List (List UInt8)} (hchunks : chunks.flatten =
      (framesOf (gatewayTrace trace)).flatMap fun frame => encodeUtf8 frame.toList) :
    ∃ opened heard, openingsOf trace = [opened] ∧ heard <+: spoken opened ∧
      (true ∉ pollsOf (gatewayTrace trace) → heard = spoken opened) ∧
      readStream breaks chunks = some (heard.map readDelta ++
        readEnd ctx opened (decide (true ∈ pollsOf (gatewayTrace trace)))) := by
  obtain ⟨opened, hpulls⟩ := streamGenerator_pulls h hdelivered
  have hopened := openedAs_of_openings hpulls.openings
  have hexec := streamGenerator_erases ctx modelId conversation opened trace result hopened h
  have haccount := streamChatResponse_account hexec hdelivered chunkSource_raises
  obtain ⟨terminal, hframes, hending⟩ := haccount.ending
  have hend := StreamEnd.of_ending haccount.polls hpulls.complete hending
  obtain ⟨hbeginning, hall⟩ := textsOf_kept haccount.polls
  obtain ⟨deltas, hdeltas, hsaid⟩ := deltaFrames_eq breaks
    (keptChunks (chunkSource opened).chunks (pollsOf (gatewayTrace trace)))
  obtain ⟨last, hlast, htold⟩ := hend.read breaks
  refine ⟨opened, _, hpulls.openings, hbeginning, hall, ?_⟩
  rw [readStream_frames (deltas ++ last) (by rw [hframes, hdeltas, hlast, List.map_append]) hchunks,
    List.map_append, hsaid, htold]

/-- The client of a greeting reads it byte by byte. -/
theorem streaming_preserves_greeting :
    let ctx : StreamContext := ⟨"m", "r", "t"⟩
    let trace := ((streamGenerator ctx
      (BedrockClient.converseStream "m" ⟨[], 1, zeroFloat⟩)).run.answerAll greetingUpstream).1
    let bytes := (framesOf (gatewayTrace trace)).flatMap fun frame => encodeUtf8 frame.toList
    readStream .universal (bytes.map ([·])) = some [readDelta "hel", readDelta "lo",
      readDone false ⟨some "end_turn", some 3, some 2⟩] := by
  intro ctx trace bytes
  have hdelivered : ∀ event ∈ gatewayTrace trace, delivered event = true := by decide +kernel
  have hbytes : (bytes.map ([·])).flatten = bytes := by
    generalize bytes = bytes
    induction bytes with
    | nil => rfl
    | cons byte bytes ih => exact congrArg (byte :: ·) ih
  have hstayed : true ∉ pollsOf (gatewayTrace trace) := by decide +kernel
  obtain ⟨opened, heard, hopenings, _, hall, hread⟩ := streaming_preserves
    (Program.exec_answerAll greetingUpstream _) hdelivered .universal hbytes
  obtain rfl : opened = _ := (List.singleton_inj.mp hopenings).symm
  rw [hread, hall hstayed, decide_eq_false hstayed]
  rfl

end BedrockGateway
