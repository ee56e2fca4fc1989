/-
# Accounting for a stream

What `stream_chat_response` sends, records and closes is read off the answers of the
disconnect polls and the chunks it was handed: a chunk is passed on if its own poll
and all earlier ones answered that the client is there.

With the Bedrock client's generator in place, the handed chunks are those the
generator made of the upstream's events, and the consumer's part of what happens is
what it would have been with the chunks known beforehand.
-/

import BedrockGateway.Inference.BedrockStream
import BedrockGateway.Routing.FirstSuccess

namespace BedrockGateway

open Foundation Py

/-! ## What there is in a trace -/

/-- The answers of the disconnect polls. -/
def pollsOf (trace : List (Event Answer)) : List Bool :=
  trace.filterMap fun
    | ⟨.isDisconnected, .ok disconnected⟩ => some disconnected
    | _ => none

/-- The frames sent. -/
def framesOf (trace : List (Event Answer)) : List String :=
  trace.filterMap fun
    | ⟨.sendBody (.bytes text), _⟩ => some text
    | _ => none

/-- The outcomes recorded with the breaker. -/
def recordsOf (trace : List (Event Answer)) : List Query :=
  (trace.map Event.query).filter fun
    | .recordSuccess _ => true
    | .recordFailure _ => true
    | _ => false

/-- How often the chunk iterator was closed. -/
def closesOf (trace : List (Event Answer)) : ℕ :=
  trace.countP fun event =>
    match event.query with
    | .closeChunks => true
    | _ => false

/-- Polls and sends come back, and the iterator can be closed. -/
def delivered : Event Answer → Bool
  | ⟨.isDisconnected, .error _⟩ => false
  | ⟨.sendBody _, .error _⟩ => false
  | ⟨.closeChunks, .error _⟩ => false
  | _ => true

theorem pollsOf_append (first second : List (Event Answer)) :
    pollsOf (first ++ second) = pollsOf first ++ pollsOf second :=
  List.filterMap_append

theorem framesOf_append (first second : List (Event Answer)) :
    framesOf (first ++ second) = framesOf first ++ framesOf second :=
  List.filterMap_append

theorem recordsOf_append (first second : List (Event Answer)) :
    recordsOf (first ++ second) = recordsOf first ++ recordsOf second := by
  rw [recordsOf, List.map_append, List.filter_append, recordsOf, recordsOf]

theorem closesOf_append (first second : List (Event Answer)) :
    closesOf (first ++ second) = closesOf first + closesOf second :=
  List.countP_append

/-! ## The frames of a stream -/

/-- The frame of a text delta. -/
def deltaFrame (chunk : StreamChunk) : String := sse (.obj [("delta", .str chunk.textDelta)])

/-- A token count as a document. -/
def tokenCount : Option ℤ → Json
  | some n => .int n
  | none => .null

/-- The frame that ends a stream that did not fail. -/
def doneFrame (aborted : Bool) (summary : StreamSummary) : String :=
  sse (.obj [("done", .bool true), ("aborted", .bool aborted),
    ("stop_reason", Json.ofOption summary.stopReason),
    ("usage", .obj [("input_tokens", tokenCount summary.inputTokens),
      ("output_tokens", tokenCount summary.outputTokens)])])

/-- The frame that reports a failed stream. -/
def errorFrame (ctx : StreamContext) (message : String) : String :=
  sse (.obj [("error", .obj [("code", .str "UPSTREAM_ERROR"), ("message", .str message),
    ("request_id", .str ctx.requestId)])])

/-- The frame that ends a failed stream. -/
def failedFrame : String := sse (.obj []) (some "done")

/-- The chunks whose own poll, and all earlier ones, answered that the client is there. -/
def keptChunks (chunks : List StreamChunk) (polls : List Bool) : List StreamChunk :=
  ((chunks.zip polls).takeWhile fun pair => !pair.2).map Prod.fst

/-- The frames of the chunks that carry text. -/
def deltaFrames (chunks : List StreamChunk) : List String :=
  (chunks.filter (·.textDelta ≠ "")).map deltaFrame

theorem deltaFrames_cons (chunk : StreamChunk) (chunks : List StreamChunk) :
    deltaFrames (chunk :: chunks) = deltaFrames [chunk] ++ deltaFrames chunks := by
  rw [deltaFrames, ← List.singleton_append, List.filter_append, List.map_append]
  rfl

/-! ## The chunk loop -/

/-- What passing on a chunk leaves behind. -/
def StreamOutcome.pass (outcome : StreamOutcome) (chunk : StreamChunk) : StreamOutcome where
  generatedChunks := if chunk.textDelta = "" then outcome.generatedChunks
    else outcome.generatedChunks + 1
  aborted := outcome.aborted
  final := if chunk.isFinal then some chunk else outcome.final

/-- What the chunk loop does with the chunks it is handed. -/
structure LoopAccount (raises : Option Exn) (outcome : StreamOutcome) (chunks : List StreamChunk)
    (trace : List (Event Answer)) (result : Except Exn StreamOutcome) : Prop where
  polls : pollsOf trace = List.replicate chunks.length false ∨
    ∃ n, n < chunks.length ∧ pollsOf trace = List.replicate n false ++ [true]
  frames : framesOf trace = deltaFrames (keptChunks chunks (pollsOf trace))
  records : recordsOf trace = []
  closes : closesOf trace = 0
  result : result =
    if true ∈ pollsOf trace then
      .ok { (keptChunks chunks (pollsOf trace)).foldl StreamOutcome.pass outcome with
        aborted := true }
    else match raises with
      | some exn => .error exn
      | none => .ok ((keptChunks chunks (pollsOf trace)).foldl StreamOutcome.pass outcome)

/-- A poll that comes back, then the rest. -/
private theorem exec_poll_bind {β : Type} {f : Bool → Py β} {trace : List (Event Answer)}
    {outcome : Except Exn β}
    (h : Program.Exec ((ask .isDisconnected >>= settle) >>= f).run trace outcome)
    (hdelivered : ∀ event ∈ trace, delivered event = true) :
    ∃ disconnected rest, trace = ⟨.isDisconnected, .ok disconnected⟩ :: rest ∧
      Program.Exec (f disconnected).run rest outcome ∧
      ∀ event ∈ rest, delivered event = true := by
  obtain ⟨answer, rest, rfl, hrest⟩ := Program.exec_ask_iff.mp h
  obtain ⟨hpoll, hafter⟩ := List.forall_mem_cons.mp hdelivered
  cases answer with
  | ok disconnected => exact ⟨disconnected, rest, rfl, hrest, hafter⟩
  | error exn => cases hpoll

/-- A send that comes back, then the rest. -/
private theorem exec_send_bind {β : Type} {text : String} {f : Unit → Py β}
    {trace : List (Event Answer)} {outcome : Except Exn β}
    (h : Program.Exec (sendText text >>= f).run trace outcome)
    (hdelivered : ∀ event ∈ trace, delivered event = true) :
    ∃ rest, trace = ⟨.sendBody (.bytes text), .ok ()⟩ :: rest ∧
      Program.Exec (f ()).run rest outcome ∧ ∀ event ∈ rest, delivered event = true := by
  obtain ⟨answer, rest, rfl, hrest⟩ := Program.exec_ask_iff.mp h
  obtain ⟨hsend, hafter⟩ := List.forall_mem_cons.mp hdelivered
  cases answer with
  | ok sent => exact ⟨rest, rfl, hrest, hafter⟩
  | error exn => cases hsend

@[simp]
theorem keptChunks_nil (polls : List Bool) : keptChunks [] polls = [] := rfl

@[simp]
theorem keptChunks_stay (chunk : StreamChunk) (chunks : List StreamChunk) (polls : List Bool) :
    keptChunks (chunk :: chunks) (false :: polls) = chunk :: keptChunks chunks polls := rfl

@[simp]
theorem keptChunks_leave (chunk : StreamChunk) (chunks : List StreamChunk) (polls : List Bool) :
    keptChunks (chunk :: chunks) (true :: polls) = [] := rfl

/-- The client leaves. -/
private theorem LoopAccount.leave {raises : Option Exn} {outcome : StreamOutcome}
    {chunk : StreamChunk} {chunks : List StreamChunk} :
    LoopAccount raises outcome (chunk :: chunks) [⟨.isDisconnected, .ok true⟩]
      (.ok { outcome with aborted := true }) where
  polls := .inr ⟨0, by simp, rfl⟩
  frames := rfl
  records := rfl
  closes := rfl
  result := by simp [pollsOf]

/-- The client stays, and the chunk is passed on. -/
private theorem LoopAccount.stay {raises : Option Exn} {outcome : StreamOutcome}
    {chunk : StreamChunk} {chunks : List StreamChunk} {rest : List (Event Answer)}
    {result : Except Exn StreamOutcome}
    (h : LoopAccount raises (outcome.pass chunk) chunks rest result) (sent : List (Event Answer))
    (hpolls : pollsOf sent = []) (hframes : framesOf sent = deltaFrames [chunk])
    (hrecords : recordsOf sent = []) (hcloses : closesOf sent = 0) :
    LoopAccount raises outcome (chunk :: chunks)
      (⟨.isDisconnected, .ok false⟩ :: (sent ++ rest)) result := by
  have hall : pollsOf (⟨.isDisconnected, .ok false⟩ :: (sent ++ rest)) = false :: pollsOf rest := by
    show false :: pollsOf (sent ++ rest) = _
    rw [pollsOf_append, hpolls, List.nil_append]
  constructor
  · rw [hall]
    rcases h.polls with hstay | ⟨n, hlt, hleave⟩
    · exact .inl (by rw [hstay]; rfl)
    · exact .inr ⟨n + 1, by simpa using hlt, by rw [hleave]; rfl⟩
  · rw [hall, keptChunks_stay]
    show framesOf (sent ++ rest) = _
    rw [framesOf_append, hframes, h.frames, deltaFrames_cons chunk (keptChunks _ _)]
  · show recordsOf (sent ++ rest) = []
    rw [recordsOf_append, hrecords, h.records, List.nil_append]
  · show closesOf (sent ++ rest) = 0
    rw [closesOf_append, hcloses, h.closes]
  · rw [hall, keptChunks_stay, h.result]
    simp

/-- **The chunk loop.** -/
theorem consumeChunks_account {raises : Option Exn} {outcome : StreamOutcome}
    {chunks : List StreamChunk} {trace : List (Event Answer)} {result : Except Exn StreamOutcome}
    (h : Program.Exec (consumeChunks raises outcome chunks).run trace result)
    (hdelivered : ∀ event ∈ trace, delivered event = true) :
    LoopAccount raises outcome chunks trace result := by
  induction chunks generalizing outcome trace with
  | nil =>
      unfold consumeChunks at h
      cases raises with
      | none =>
          obtain ⟨rfl, rfl⟩ := Fallible.exec_pure_iff.mp h
          exact ⟨.inl rfl, rfl, rfl, rfl, rfl⟩
      | some exn =>
          obtain ⟨rfl, rfl⟩ := Fallible.exec_throw_iff.mp h
          exact ⟨.inl rfl, rfl, rfl, rfl, rfl⟩
  | cons chunk rest ih =>
      unfold consumeChunks at h
      obtain ⟨disconnected, more, rfl, hmore, hafter⟩ := exec_poll_bind h hdelivered
      cases disconnected with
      | true =>
          obtain ⟨rfl, rfl⟩ := Fallible.exec_pure_iff.mp hmore
          exact .leave
      | false =>
          by_cases htext : chunk.textDelta = ""
          · simp only [Bool.false_eq_true, if_false, htext, if_true] at hmore
            have hpass : outcome.pass chunk =
                { outcome with final := if chunk.isFinal then some chunk else outcome.final } := by
              simp [StreamOutcome.pass, htext]
            have hrest := ih hmore hafter
            rw [← hpass] at hrest
            exact hrest.stay [] rfl (by simp [framesOf, deltaFrames, htext]) rfl rfl
          · simp only [Bool.false_eq_true, if_false, htext] at hmore
            have hpass : outcome.pass chunk = { outcome with
                generatedChunks := outcome.generatedChunks + 1
                final := if chunk.isFinal then some chunk else outcome.final } := by
              simp [StreamOutcome.pass, htext]
            obtain ⟨last, rfl, hlast, hdone⟩ := exec_send_bind hmore hafter
            have hrest := ih hlast hdone
            rw [← hpass] at hrest
            exact hrest.stay [_] rfl
              (by simp [framesOf, deltaFrames, deltaFrame, htext]) rfl rfl

/-- The first `next` is neither a poll nor a send. -/
private theorem LoopAccount.started {raises : Option Exn} {outcome : StreamOutcome}
    {chunks : List StreamChunk} {trace : List (Event Answer)} {result : Except Exn StreamOutcome}
    (h : LoopAccount raises outcome chunks trace result) :
    LoopAccount raises outcome chunks (⟨.startStream, ()⟩ :: trace) result where
  polls := h.polls
  frames := h.frames
  records := h.records
  closes := h.closes
  result := h.result

/-- The `for` statement. -/
theorem forChunks_account {source : ChunkSource} {trace : List (Event Answer)}
    {result : Except Exn StreamOutcome} (h : Program.Exec (forChunks source).run trace result)
    (hdelivered : ∀ event ∈ trace, delivered event = true) :
    LoopAccount source.raises {} source.chunks trace result := by
  obtain ⟨_, rest, rfl, hrest⟩ := Program.exec_ask_iff.mp h
  exact (consumeChunks_account hrest (List.forall_mem_cons.mp hdelivered).2).started

/-! ## A whole response -/

/-- What the last chunk says. -/
def summaryOf : Option StreamChunk → StreamSummary
  | some chunk => ⟨chunk.stopReason, chunk.inputTokens, chunk.outputTokens⟩
  | none => {}

/-- How a response ends: its last frames, and what is recorded. -/
inductive StreamEnding (ctx : StreamContext) (polls : List Bool) (summary : StreamSummary) :
    Option Exn → List String → List Query → Prop
  | /-- The client has left. -/
    left {raises : Option Exn} (polled : true ∈ polls) :
      StreamEnding ctx polls summary raises [doneFrame true summary] []
  | /-- The upstream has failed before that. -/
    failed {message code : String} {retryable : Bool} (polled : true ∉ polls) :
      StreamEnding ctx polls summary (some (.bedrockInvocation message code retryable))
        [errorFrame ctx message, failedFrame] [.recordFailure ctx.modelId]
  | /-- The stream has come to its end. -/
    completed (polled : true ∉ polls) :
      StreamEnding ctx polls summary none [doneFrame false summary] [.recordSuccess ctx.modelId]

/-- What `stream_chat_response` does with the chunks it is handed. -/
structure ResponseAccount (ctx : StreamContext) (source : ChunkSource)
    (trace : List (Event Answer)) : Prop where
  polls : pollsOf trace = List.replicate source.chunks.length false ∨
    ∃ n, n < source.chunks.length ∧ pollsOf trace = List.replicate n false ++ [true]
  closes : closesOf trace = 1
  ending : ∃ terminal,
    framesOf trace = deltaFrames (keptChunks source.chunks (pollsOf trace)) ++ terminal ∧
    StreamEnding ctx (pollsOf trace)
      (summaryOf ((keptChunks source.chunks (pollsOf trace)).foldl StreamOutcome.pass {}).final)
      source.raises terminal (recordsOf trace)

/-- The report of a failure. -/
theorem exec_reportStreamFailure {ctx : StreamContext} {message : String}
    {trace : List (Event Answer)} {outcome : Except Exn Unit}
    (h : Program.Exec (reportStreamFailure ctx message).run trace outcome)
    (hdelivered : ∀ event ∈ trace, delivered event = true) :
    outcome = .ok () ∧ pollsOf trace = [] ∧ closesOf trace = 0 ∧
      framesOf trace = [errorFrame ctx message, failedFrame] ∧
      recordsOf trace = [.recordFailure ctx.modelId] := by
  obtain ⟨recorded, rest, rfl, hrest⟩ := Program.exec_ask_iff.mp h
  obtain ⟨more, rfl, hmore, hafter⟩ :=
    exec_send_bind hrest (List.forall_mem_cons.mp hdelivered).2
  obtain ⟨last, rfl, hlog, _⟩ := exec_send_bind hmore hafter
  obtain ⟨logged, rfl, rfl⟩ := Fallible.exec_ask_iff.mp hlog
  exact ⟨rfl, rfl, rfl, rfl, rfl⟩

/-- The report of an end. -/
theorem exec_reportStreamEnd {ctx : StreamContext} {start : ℚ} {ended : StreamOutcome}
    {trace : List (Event Answer)} {outcome : Except Exn Unit}
    (h : Program.Exec (reportStreamEnd ctx start ended).run trace outcome)
    (hdelivered : ∀ event ∈ trace, delivered event = true) :
    pollsOf trace = [] ∧ closesOf trace = 0 ∧
      framesOf trace = [doneFrame ended.aborted (summaryOf ended.final)] ∧
      recordsOf trace = if ended.aborted then [] else [.recordSuccess ctx.modelId] := by
  obtain ⟨generated, aborted, final⟩ := ended
  cases aborted with
  | true =>
      obtain ⟨stop, rest, rfl, hrest⟩ := Program.exec_ask_iff.mp h
      obtain ⟨last, rfl, hlog, _⟩ := exec_send_bind hrest (List.forall_mem_cons.mp hdelivered).2
      obtain ⟨logged, rfl, rfl⟩ := Fallible.exec_ask_iff.mp hlog
      cases final <;> exact ⟨rfl, rfl, rfl, rfl⟩
  | false =>
      obtain ⟨recorded, more, rfl, hmore⟩ := Program.exec_ask_iff.mp h
      obtain ⟨stop, rest, rfl, hrest⟩ := Program.exec_ask_iff.mp hmore
      have hafter := (List.forall_mem_cons.mp (List.forall_mem_cons.mp hdelivered).2).2
      obtain ⟨last, rfl, hlog, _⟩ := exec_send_bind hrest hafter
      obtain ⟨logged, rfl, rfl⟩ := Fallible.exec_ask_iff.mp hlog
      cases final <;> exact ⟨rfl, rfl, rfl, rfl⟩

/-- A `finally` clause that closes the chunk iterator. -/
private theorem exec_closing {α : Type} {body : Py α} {trace : List (Event Answer)}
    {result : Except Exn α}
    (h : Program.Exec (tryFinally body (ask .closeChunks >>= settle)).run trace result)
    (hdelivered : ∀ event ∈ trace, delivered event = true) :
    ∃ first, trace = first ++ [⟨.closeChunks, .ok ()⟩] ∧ Program.Exec body.run first result := by
  unfold tryFinally at h
  rw [Fallible.run_attempt_bind] at h
  obtain ⟨first, second, outcome, rfl, hbody, hrest⟩ := Program.exec_bind_iff.mp h
  obtain ⟨answer, last, rfl, hlast⟩ := Program.exec_ask_iff.mp hrest
  have hclosed := hdelivered ⟨.closeChunks, answer⟩ (by simp)
  cases answer with
  | ok closed =>
      obtain ⟨rfl, rfl⟩ := exec_settle hlast
      exact ⟨first, rfl, hbody⟩
  | error exn => cases hclosed

/-- The `try` statement: the loop comes to an end, or what it raises is reported. -/
private theorem exec_consumeOrReport {ctx : StreamContext} {source : ChunkSource}
    {trace : List (Event Answer)} {result : Except Exn (Option StreamOutcome)}
    (h : Program.Exec (consumeOrReport ctx source).run trace result)
    (hdelivered : ∀ event ∈ trace, delivered event = true)
    (hraises : ∀ exn, source.raises = some exn → exn.isInvocation = true) :
    (∃ ended, result = .ok (some ended) ∧
      LoopAccount source.raises {} source.chunks trace (.ok ended)) ∨
    ∃ loop rest message code retryable, trace = loop ++ rest ∧ result = .ok none ∧
      LoopAccount source.raises {} source.chunks loop
        (.error (.bedrockInvocation message code retryable)) ∧
      pollsOf rest = [] ∧ closesOf rest = 0 ∧
      framesOf rest = [errorFrame ctx message, failedFrame] ∧
      recordsOf rest = [.recordFailure ctx.modelId] := by
  unfold consumeOrReport at h
  rw [Fallible.run_attempt_bind] at h
  obtain ⟨loop, rest, outcome, rfl, hloop, hrest⟩ := Program.exec_bind_iff.mp h
  have haccount := forChunks_account hloop
    fun event hmem => hdelivered event (List.mem_append_left _ hmem)
  have hafter : ∀ event ∈ rest, delivered event = true :=
    fun event hmem => hdelivered event (List.mem_append_right _ hmem)
  cases outcome with
  | ok ended =>
      obtain ⟨rfl, rfl⟩ := Fallible.exec_pure_iff.mp hrest
      rw [List.append_nil]
      exact .inl ⟨ended, rfl, haccount⟩
  | error exn =>
      cases exn with
      | bedrockInvocation message code retryable =>
          rcases Fallible.exec_bind_iff.mp hrest with
            ⟨exn, hreport, _⟩ | ⟨reported, last, _, rfl, hreport, hnone⟩
          · obtain ⟨hne, _⟩ := exec_reportStreamFailure hreport hafter
            cases hne
          · obtain ⟨rfl, rfl⟩ := Fallible.exec_pure_iff.mp hnone
            rw [List.append_nil] at hafter ⊢
            obtain ⟨_, hfacts⟩ := exec_reportStreamFailure hreport hafter
            exact .inr ⟨loop, reported, message, code, retryable, rfl, rfl, haccount, hfacts⟩
      | _ =>
          -- Only the exception of the source could be raised, and it is not of this kind.
          have hresult := haccount.result
          split at hresult
          · cases hresult
          · cases hsource : source.raises with
            | none => simp [hsource] at hresult
            | some raised =>
                simp only [hsource, Except.error.injEq] at hresult
                have hkind := hraises raised hsource
                rw [← hresult] at hkind
                cases hkind

private theorem foldl_pass_aborted (chunks : List StreamChunk) (outcome : StreamOutcome) :
    (chunks.foldl StreamOutcome.pass outcome).aborted = outcome.aborted := by
  induction chunks generalizing outcome with
  | nil => rfl
  | cons chunk rest ih => exact ih (outcome.pass chunk)

/-- A response from its parts: what the `try` statement left, the closing of the
iterator, and what followed. -/
private theorem ResponseAccount.of_parts {ctx : StreamContext} {source : ChunkSource} {start : ℚ}
    {loop reported last : List (Event Answer)} {result : Except Exn StreamOutcome}
    {terminal : List String} (hloop : LoopAccount source.raises {} source.chunks loop result)
    (hpolls : pollsOf reported = [] ∧ pollsOf last = [])
    (hcloses : closesOf reported = 0 ∧ closesOf last = 0)
    (hframes : framesOf reported ++ framesOf last = terminal)
    (hending : StreamEnding ctx (pollsOf loop)
      (summaryOf ((keptChunks source.chunks (pollsOf loop)).foldl StreamOutcome.pass {}).final)
      source.raises terminal (recordsOf reported ++ recordsOf last)) :
    ResponseAccount ctx source
      (⟨.perfCounter, start⟩ :: (loop ++ reported ++ [⟨.closeChunks, .ok ()⟩] ++ last)) := by
  have hall : pollsOf (⟨.perfCounter, start⟩ ::
      (loop ++ reported ++ [⟨.closeChunks, .ok ()⟩] ++ last)) = pollsOf loop := by
    show pollsOf (loop ++ reported ++ [⟨.closeChunks, .ok ()⟩] ++ last) = _
    simp only [pollsOf_append, hpolls, List.append_nil]
    exact List.append_nil _
  constructor
  · rw [hall]
    exact hloop.polls
  · show closesOf (loop ++ reported ++ [⟨.closeChunks, .ok ()⟩] ++ last) = 1
    simp only [closesOf_append, hcloses, hloop.closes]
    rfl
  · rw [hall]
    refine ⟨terminal, ?_, ?_⟩
    · show framesOf (loop ++ reported ++ [⟨.closeChunks, .ok ()⟩] ++ last) = _
      simp only [framesOf_append, hloop.frames, List.append_assoc]
      rw [← hframes]
      rfl
    · have hrecords : recordsOf (⟨.perfCounter, start⟩ ::
          (loop ++ reported ++ [⟨.closeChunks, .ok ()⟩] ++ last)) =
          recordsOf reported ++ recordsOf last := by
        show recordsOf (loop ++ reported ++ [⟨.closeChunks, .ok ()⟩] ++ last) = _
        simp only [recordsOf_append, hloop.records, List.append_assoc]
        rfl
      rw [hrecords]
      exact hending

/-- **A response.** -/
theorem streamChatResponse_account {ctx : StreamContext} {source : ChunkSource}
    {trace : List (Event Answer)} {outcome : Except Exn Unit}
    (h : Program.Exec (streamChatResponse ctx source).run trace outcome)
    (hdelivered : ∀ event ∈ trace, delivered event = true)
    (hraises : ∀ exn, source.raises = some exn → exn.isInvocation = true) :
    ResponseAccount ctx source trace := by
  obtain ⟨start, more, rfl, hmore⟩ := Program.exec_ask_iff.mp h
  have hdelivered := (List.forall_mem_cons.mp hdelivered).2
  rcases Fallible.exec_bind_iff.mp hmore with
    ⟨exn, hbody, _⟩ | ⟨body, last, reported, rfl, hbody, hlast⟩
  · obtain ⟨first, rfl, hfirst⟩ := exec_closing hbody hdelivered
    rcases exec_consumeOrReport hfirst
      (fun event hmem => hdelivered event (List.mem_append_left _ hmem)) hraises with
      ⟨_, hne, _⟩ | ⟨_, _, _, _, _, _, hne, _⟩
    · cases hne
    · cases hne
  obtain ⟨first, rfl, hfirst⟩ := exec_closing hbody
    fun event hmem => hdelivered event (List.mem_append_left _ hmem)
  have hafter : ∀ event ∈ last, delivered event = true :=
    fun event hmem => hdelivered event (List.mem_append_right _ hmem)
  rcases exec_consumeOrReport hfirst (fun event hmem => hdelivered event (by simp [hmem]))
    hraises with ⟨ended, hended, haccount⟩ | ⟨loop, rest, message, code, retryable, rfl, hnone,
      haccount, hpolls, hcloses, hframes, hrecords⟩
  · cases hended
    obtain ⟨hpolls, hcloses, hframes, hrecords⟩ := exec_reportStreamEnd hlast hafter
    have hending : StreamEnding ctx (pollsOf first)
        (summaryOf ((keptChunks source.chunks (pollsOf first)).foldl StreamOutcome.pass {}).final)
        source.raises [doneFrame ended.aborted (summaryOf ended.final)]
        (recordsOf [] ++ recordsOf last) := by
      rw [hrecords]
      have hresult := haccount.result
      split at hresult
      case isTrue hleft =>
        cases hresult
        exact .left hleft
      case isFalse hstayed =>
        cases hsource : source.raises with
        | some exn => simp [hsource] at hresult
        | none =>
            simp only [hsource, Except.ok.injEq] at hresult
            have haborted : ended.aborted = false := by
              rw [hresult]
              exact foldl_pass_aborted _ _
            rw [haborted, hresult]
            exact .completed hstayed
    have hparts : ResponseAccount ctx source
        (⟨.perfCounter, start⟩ :: (first ++ [] ++ [⟨.closeChunks, .ok ()⟩] ++ last)) :=
      .of_parts haccount ⟨rfl, hpolls⟩ ⟨rfl, hcloses⟩ hframes hending
    rwa [List.append_nil] at hparts
  · cases hnone
    obtain ⟨rfl, rfl⟩ := Fallible.exec_pure_iff.mp hlast
    have hending : StreamEnding ctx (pollsOf loop)
        (summaryOf ((keptChunks source.chunks (pollsOf loop)).foldl StreamOutcome.pass {}).final)
        source.raises [errorFrame ctx message, failedFrame]
        (recordsOf rest ++ recordsOf []) := by
      rw [hrecords]
      have hresult := haccount.result
      split at hresult
      case isTrue => cases hresult
      case isFalse hstayed =>
        cases hsource : source.raises with
        | none => simp [hsource] at hresult
        | some exn =>
            simp only [hsource, Except.error.injEq] at hresult
            rw [← hresult]
            exact .failed hstayed
    exact .of_parts haccount ⟨hpolls, rfl⟩ ⟨hcloses, rfl⟩ (by rw [hframes]; rfl) hending

end BedrockGateway
