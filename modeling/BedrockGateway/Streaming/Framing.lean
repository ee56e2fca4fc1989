/-
# What a client reads

Each event of a stream is a line with the rendered payload, after a line with the event's
name if it has one, and a blank line ends it. A payload is rendered in printable ASCII, so
none of its texts can end the line, let alone the event, and the client that collects the
bytes in whatever pieces finds the events, their names and their payloads again. An empty
name is not sent.
-/

import BedrockGateway.Foundation.Framing
import BedrockGateway.Foundation.JsonReader
import BedrockGateway.Streaming.Accounting

namespace BedrockGateway

open Foundation

/-! ## Events -/

/-- The payload of an event. -/
structure JsonObject where
  fields : List (String × Json)
  wellFormed : (Json.obj fields).wellFormed = true

/-- The arguments of `_sse`; the name is one line for the reader. -/
structure SseEvent (breaks : LineBreaks) where
  event : Option String := none
  data : JsonObject
  unbroken : ∀ name ∈ event, ∀ c ∈ name.toList, breaks.isBreak c = false

/-- What is read of an event: its lines of either kind. -/
structure ReadEvent where
  events : List String
  data : List Json

variable {breaks : LineBreaks}

namespace SseEvent

/-- The text that `_sse` makes of an event. -/
def frame (e : SseEvent breaks) : String := sse (.obj e.data.fields) e.event

/-- The bytes that `_sse` returns. -/
def encode (e : SseEvent breaks) : List UInt8 := encodeUtf8 e.frame.toList

/-- The lines that are sent. -/
def lines (e : SseEvent breaks) : List (List Char) :=
  ((e.event.filter (· ≠ "")).toList.map fun name => "event: ".toList ++ name.toList) ++
    ["data: ".toList ++ (Json.dumps .spaced (.obj e.data.fields)).toList]

/-- What should be read; an empty name counts as none. -/
def shown (e : SseEvent breaks) : ReadEvent :=
  ⟨(e.event.filter (· ≠ "")).toList, [.obj e.data.fields]⟩

end SseEvent

/-! ## The client -/

/-- Takes the lines of a block apart. -/
def readBlock (breaks : LineBreaks) (block : List UInt8) : Option ReadEvent := do
  let text ← decodeUtf8 block
  let lines := breaks.splitlines text
  let data ← (lines.filterMap (·.dropPrefix? "data: ".toList)).mapM Json.loads
  some ⟨(lines.filterMap (·.dropPrefix? "event: ".toList)).map String.ofList, data⟩

/-- Collects the chunks of a stream and takes its blocks apart; the last one has to be
complete. -/
def readStream (breaks : LineBreaks) (chunks : List (List UInt8)) : Option (List ReadEvent) :=
  let reader := BlockReader.read 10 chunks
  if reader.pending = [] then reader.blocks.mapM (readBlock breaks) else none

/-! ## Lines -/

namespace SseEvent

variable (e : SseEvent breaks)

theorem frame_toList : e.frame.toList = ['\n'].intercalate e.lines ++ ['\n', '\n'] := by
  unfold frame sse lines
  cases e.event.filter (· ≠ "") with
  | none => simp [List.intercalate_singleton]
  | some name => simp [List.intercalate_cons_cons, List.intercalate_singleton]

theorem isBreak_dumps (value : Json) :
    ∀ c ∈ (Json.dumps .spaced value).toList, breaks.isBreak c = false := by
  intro c hc
  rw [Json.dumps, String.toList_ofList] at hc
  have hprintable := Json.isPrintable_render Json.Layout.printable_spaced value c hc
  simp only [Json.isPrintable, Bool.and_eq_true, decide_eq_true_eq] at hprintable
  exact breaks.printable c hprintable.1 hprintable.2

theorem isBreak_literal {text : List Char} (h : text.all Json.isPrintable = true) :
    ∀ c ∈ text, breaks.isBreak c = false := by
  intro c hc
  have hprintable := List.all_eq_true.mp h c hc
  simp only [Json.isPrintable, Bool.and_eq_true, decide_eq_true_eq] at hprintable
  exact breaks.printable c hprintable.1 hprintable.2

/-- **No line of an event has a break in it.** -/
theorem lines_unbroken : ∀ line ∈ e.lines,
    line ≠ [] ∧ ∀ c ∈ line, breaks.isBreak c = false := by
  intro line hline
  rcases List.mem_append.mp hline with hevent | hdata
  · obtain ⟨name, hname, rfl⟩ := List.mem_map.mp hevent
    have hname : name ∈ e.event := (Option.filter_eq_some_iff.mp (Option.mem_toList.mp hname)).1
    refine ⟨by simp, fun c hc => ?_⟩
    rcases List.mem_append.mp hc with htag | htext
    · exact isBreak_literal (by decide) c htag
    · exact e.unbroken name hname c htext
  · obtain rfl := List.mem_singleton.mp hdata
    refine ⟨by simp, fun c hc => ?_⟩
    rcases List.mem_append.mp hc with htag | htext
    · exact isBreak_literal (by decide) c htag
    · exact isBreak_dumps _ c htext

theorem isLine_encodeUtf8 {line : List Char} (hne : line ≠ [])
    (h : ∀ c ∈ line, breaks.isBreak c = false) : IsLine 10 (encodeUtf8 line) := by
  apply And.intro (encodeUtf8_ne_nil hne)
  intro hbyte
  have hbreak := h '\n' (newline_mem_encodeUtf8 hbyte)
  rw [breaks.newline] at hbreak
  cases hbreak

theorem encode_eq : e.encode = [10].intercalate (e.lines.map encodeUtf8) ++ [10, 10] := by
  rw [encode, frame_toList, encodeUtf8_append, encodeUtf8_intercalate]
  rfl

theorem lines_data : e.lines.filterMap (·.dropPrefix? "data: ".toList) =
    [(Json.dumps .spaced (.obj e.data.fields)).toList] := by
  have hevent : ∀ text : List Char, ("event: ".toList ++ text).dropPrefix? "data: ".toList = none :=
    fun _ => rfl
  have hnone : ∀ names : List String,
      (names.map fun name => "event: ".toList ++ name.toList).filterMap
        (·.dropPrefix? "data: ".toList) = [] := by
    intro names
    rw [List.filterMap_map, List.filterMap_eq_nil_iff]
    exact fun name _ => hevent name.toList
  rw [lines, List.filterMap_append, hnone, List.nil_append, List.filterMap_cons,
    Json.dropPrefix?_append]
  rfl

theorem lines_event : e.lines.filterMap (·.dropPrefix? "event: ".toList) =
    (e.event.filter (· ≠ "")).toList.map String.toList := by
  have hdata : ∀ text : List Char, ("data: ".toList ++ text).dropPrefix? "event: ".toList = none :=
    fun _ => rfl
  rw [lines, List.filterMap_append, List.filterMap_cons, hdata]
  show _ ++ [] = _
  rw [List.append_nil, List.filterMap_map]
  cases e.event.filter (· ≠ "") with
  | none => rfl
  | some name =>
      show [name].filterMap _ = [name.toList]
      rw [List.filterMap_cons, Function.comp_apply, Json.dropPrefix?_append]
      rfl

/-- The lines of an event show its name and its payload, and nothing else. -/
theorem readBlock_lines :
    readBlock breaks ([10].intercalate (e.lines.map encodeUtf8)) = some e.shown := by
  have hdata : Json.loads (Json.dumps .spaced (.obj e.data.fields)).toList =
      some (.obj e.data.fields) :=
    Json.loads_dumps Json.Layout.blank_spaced e.data.wellFormed
  rw [readBlock, ← encodeUtf8_intercalate, decodeUtf8_encodeUtf8]
  simp only [Option.bind_eq_bind, Option.bind_some,
    LineBreaks.splitlines_intercalate e.lines_unbroken, lines_data, lines_event, List.mapM_cons,
    List.mapM_nil, hdata, List.map_map]
  show some (ReadEvent.mk _ _) = _
  rw [shown]
  congr 2
  simp

end SseEvent

/-! ## Round trip -/

/-- Only the bytes matter, not the chunks. -/
theorem readStream_flatten (chunks : List (List UInt8)) :
    readStream breaks chunks = readStream breaks [chunks.flatten] := by
  unfold readStream
  rw [BlockReader.read_eq_feed, BlockReader.read_eq_feed, List.flatten_singleton]

theorem mapM_readBlock (events : List (SseEvent breaks)) :
    ((events.map fun e => e.lines.map encodeUtf8).map ([10].intercalate ·)).mapM
      (readBlock breaks) = some (events.map SseEvent.shown) := by
  induction events with
  | nil => rfl
  | cons e events ih =>
      rw [List.map_cons, List.map_cons, List.mapM_cons, e.readBlock_lines, ih]
      rfl

/-- The bytes of events in a row show the events. -/
theorem readStream_encode (events : List (SseEvent breaks)) :
    readStream breaks [events.flatMap SseEvent.encode] = some (events.map SseEvent.shown) := by
  have hblocks : BlockReader.read 10 [events.flatMap SseEvent.encode] =
      ⟨[], (events.map fun e => e.lines.map encodeUtf8).map ([10].intercalate ·)⟩ := by
    apply BlockReader.read_blocks
    · intro lines hlines
      obtain ⟨e, _, rfl⟩ := List.mem_map.mp hlines
      constructor
      · simp [SseEvent.lines]
      · intro line hline
        obtain ⟨text, htext, rfl⟩ := List.mem_map.mp hline
        obtain ⟨hne, hunbroken⟩ := e.lines_unbroken text htext
        exact SseEvent.isLine_encodeUtf8 hne hunbroken
    · rw [List.flatten_singleton, List.flatMap_map]
      exact List.flatMap_congr fun e _ => e.encode_eq
  rw [readStream, hblocks]
  exact (if_pos rfl).trans (mapM_readBlock events)

/-- **Framing round-trips.** However the bytes of a sequence of events are cut into chunks
on their way, and whatever their payloads say, exactly the events are read, an empty name
as none. -/
theorem readStream_events (events : List (SseEvent breaks)) {chunks : List (List UInt8)}
    (hchunks : chunks.flatten = events.flatMap SseEvent.encode) :
    readStream breaks chunks =
      some (events.map fun e => ⟨(e.event.filter (· ≠ "")).toList, [.obj e.data.fields]⟩) := by
  rw [readStream_flatten, hchunks]
  exact readStream_encode events

/-- A delta that looks like the end of an event and the beginning of another one. -/
def forgedDelta : SseEvent .universal where
  data := ⟨[("delta", .str "\r\n\ndata: {}\u2028event: done\n\n")], by decide⟩
  unbroken _ hname := by cases hname

/-- The event that ends a failed stream. -/
def doneEvent : SseEvent .universal where
  event := some "done"
  data := ⟨[], rfl⟩
  unbroken name hname := by
    obtain rfl := Option.some.inj hname
    exact SseEvent.isBreak_literal rfl

/-- Whole events may come byte by byte. -/
theorem readStream_events_forgedDelta :
    readStream .universal (([forgedDelta, doneEvent].flatMap SseEvent.encode).map ([·])) =
      some [⟨[], [.obj [("delta", .str "\r\n\ndata: {}\u2028event: done\n\n")]]⟩,
        ⟨["done"], [.obj []]⟩] := by
  have hchunks : (([forgedDelta, doneEvent].flatMap SseEvent.encode).map ([·])).flatten =
      [forgedDelta, doneEvent].flatMap SseEvent.encode := by
    generalize [forgedDelta, doneEvent].flatMap SseEvent.encode = bytes
    induction bytes with
    | nil => rfl
    | cons byte bytes ih => exact congrArg (byte :: ·) ih
  exact readStream_events [forgedDelta, doneEvent] hchunks

/-- An event with an empty name. -/
def namelessEvent : SseEvent .newlines where
  event := some ""
  data := ⟨[], rfl⟩
  unbroken name hname := by
    obtain rfl := Option.some.inj hname
    exact fun _ hc => nomatch hc

/-- **An empty name is lost**: the events that are read are not always those sent. -/
theorem empty_name_lost : ¬∀ (breaks : LineBreaks) (events : List (SseEvent breaks))
    (chunks : List (List UInt8)), chunks.flatten = events.flatMap SseEvent.encode →
      readStream breaks chunks =
        some (events.map fun e => ⟨e.event.toList, [.obj e.data.fields]⟩) := by
  intro h
  have hclaimed := h .newlines [namelessEvent] [[namelessEvent].flatMap SseEvent.encode]
    List.flatten_singleton
  rw [readStream_encode] at hclaimed
  have hevents : ([] : List String) = [""] :=
    congrArg (fun read => ((read.getD []).head?.elim [] ReadEvent.events)) hclaimed
  cases hevents

/-! ## A whole response -/

section Response

variable (breaks)

/-- An event without a name. -/
def SseEvent.ofData (data : JsonObject) : SseEvent breaks where
  data := data
  unbroken _ hname := by cases hname

/-- The event of a text delta. -/
def deltaEvent (chunk : StreamChunk) : SseEvent breaks :=
  .ofData breaks ⟨[("delta", .str chunk.textDelta)], rfl⟩

theorem wellFormed_tokenCount (count : Option ℤ) : (tokenCount count).wellFormed = true := by
  cases count with
  | none => rfl
  | some n => exact Json.isNumber_ofInt n

theorem wellFormed_ofOption (text : Option String) : (Json.ofOption text).wellFormed = true := by
  cases text <;> rfl

theorem wellFormed_doneFrame (aborted : Bool) (summary : StreamSummary) :
    (Json.obj [("done", .bool true), ("aborted", .bool aborted),
      ("stop_reason", Json.ofOption summary.stopReason),
      ("usage", .obj [("input_tokens", tokenCount summary.inputTokens),
        ("output_tokens", tokenCount summary.outputTokens)])]).wellFormed = true := by
  simp [Json.wellFormed, Json.wellFormedFields, wellFormed_tokenCount, wellFormed_ofOption]

/-- The value under the name of a text delta. -/
def deltaOf : Json → Option Json
  | .obj fields => entryOf "delta" fields
  | _ => none

/-- The frames that end a response are events that show no delta. -/
theorem exists_terminal {ctx : StreamContext} {polls : List Bool} {summary : StreamSummary}
    {raises : Option Exn} {frames : List String} {records : List Query}
    (h : StreamEnding ctx polls summary raises frames records) :
    ∃ terminal : List (SseEvent breaks), frames = terminal.map SseEvent.frame ∧
      ∀ e ∈ terminal, deltaOf (.obj e.data.fields) = none := by
  cases h with
  | left polled =>
      exact ⟨[.ofData breaks ⟨_, wellFormed_doneFrame true summary⟩], rfl,
        List.forall_mem_singleton.mpr rfl⟩
  | failed polled =>
      rename_i message code retryable
      have herror : (Json.obj [("error", .obj [("code", .str "UPSTREAM_ERROR"),
          ("message", .str message), ("request_id", .str ctx.requestId)])]).wellFormed = true := by
        simp [Json.wellFormed, Json.wellFormedFields]
      have hdone : ∀ name ∈ some "done", ∀ c ∈ name.toList, breaks.isBreak c = false := by
        intro name hname
        obtain rfl := Option.some.inj hname
        exact SseEvent.isBreak_literal (by decide)
      refine ⟨[.ofData breaks ⟨_, herror⟩, ⟨some "done", ⟨[], rfl⟩, hdone⟩], rfl, ?_⟩
      intro e he
      simp only [List.mem_cons, List.not_mem_nil, or_false] at he
      rcases he with rfl | rfl <;> rfl
  | completed polled =>
      exact ⟨[.ofData breaks ⟨_, wellFormed_doneFrame false summary⟩], rfl,
        List.forall_mem_singleton.mpr rfl⟩

variable {breaks}

/-- **What a client reads of a response**: the deltas of the chunks that were kept, each
once and as they are, and then nothing that is a delta. -/
theorem streamChatResponse_read {ctx : StreamContext} {source : ChunkSource}
    {trace : List (Event Answer)} {outcome : Except Exn Unit}
    (h : Program.Exec (streamChatResponse ctx source).run trace outcome)
    (hdelivered : ∀ event ∈ trace, delivered event = true)
    (hraises : ∀ exn, source.raises = some exn → exn.isInvocation = true)
    {chunks : List (List UInt8)} (hchunks : chunks.flatten =
      (framesOf trace).flatMap fun frame => encodeUtf8 frame.toList) :
    ∃ terminal, readStream breaks chunks =
        some (((keptChunks source.chunks (pollsOf trace)).filter (·.textDelta ≠ "")).map
          (fun chunk => ⟨[], [.obj [("delta", .str chunk.textDelta)]]⟩) ++ terminal) ∧
      ∀ read ∈ terminal, ∀ value ∈ read.data, deltaOf value = none := by
  obtain ⟨frames, hframes, hending⟩ := (streamChatResponse_account h hdelivered hraises).ending
  obtain ⟨terminal, rfl, hterminal⟩ := exists_terminal breaks hending
  let kept := (keptChunks source.chunks (pollsOf trace)).filter (·.textDelta ≠ "")
  have hdeltas : deltaFrames (keptChunks source.chunks (pollsOf trace)) =
      (kept.map (deltaEvent breaks)).map SseEvent.frame := by
    rw [deltaFrames, List.map_map]
    rfl
  have hbytes : chunks.flatten =
      (kept.map (deltaEvent breaks) ++ terminal).flatMap SseEvent.encode := by
    rw [hchunks, hframes, hdeltas, ← List.map_append, List.flatMap_map]
    rfl
  refine ⟨terminal.map SseEvent.shown, ?_, ?_⟩
  · rw [readStream_flatten, hbytes, readStream_encode, List.map_append, List.map_map]
    rfl
  · intro read hread
    obtain ⟨e, he, rfl⟩ := List.mem_map.mp hread
    exact List.forall_mem_singleton.mpr (hterminal e he)

end Response

end BedrockGateway
