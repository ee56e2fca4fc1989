/-
# Erasing the upstream from a stream

The Bedrock client's generator and its consumer together. Erasing what the generator
asks the upstream, apart from the call that opens the stream, leaves the consumer's own
behaviour on the chunks the generator makes of the upstream's events.
-/

import BedrockGateway.Inference.BedrockStream

namespace BedrockGateway

open Foundation Py

/-- What `next` on an opened stream comes back with. -/
abbrev Pull := Except UpstreamError (Option UpstreamEvent)

/-- All that an opened stream comes back with. -/
def UpstreamStream.pulls (stream : UpstreamStream) : List Pull :=
  stream.events.map (fun event => .ok (some event)) ++
    [match stream.raises with
      | some exc => .error exc
      | none => .ok none]

/-! ## What there is in a trace -/

/-- The gateway's own questions. For the gateway, opening the stream is its start. -/
def gatewayTrace (trace : List (Event ClientAnswer)) : List (Event Answer) :=
  trace.filterMap fun
    | ⟨.gateway query, answer⟩ => some ⟨query, answer⟩
    | ⟨.invokeStream _ _ _ _, _⟩ => some ⟨.startStream, ()⟩
    | _ => none

/-- What was pulled. -/
def pullsOf (trace : List (Event ClientAnswer)) : List Pull :=
  trace.filterMap fun
    | ⟨.pull next, _⟩ => some next
    | _ => none

/-- How opening the stream came back. -/
def openingsOf (trace : List (Event ClientAnswer)) : List (Except UpstreamError UpstreamStream) :=
  trace.filterMap fun
    | ⟨.invokeStream _ _ _ _, opened⟩ => some opened
    | _ => none

/-- A poll that answers that the client has left. -/
def leaves : Event ClientAnswer → Bool
  | ⟨.gateway .isDisconnected, .ok true⟩ => true
  | _ => false

/-- From the first poll on that answers that the client has left. -/
def afterLeaving (trace : List (Event ClientAnswer)) : List (Event ClientAnswer) :=
  trace.dropWhile fun event => !leaves event

theorem gatewayTrace_append (first second : List (Event ClientAnswer)) :
    gatewayTrace (first ++ second) = gatewayTrace first ++ gatewayTrace second :=
  List.filterMap_append

theorem pullsOf_append (first second : List (Event ClientAnswer)) :
    pullsOf (first ++ second) = pullsOf first ++ pullsOf second :=
  List.filterMap_append

theorem openingsOf_append (first second : List (Event ClientAnswer)) :
    openingsOf (first ++ second) = openingsOf first ++ openingsOf second :=
  List.filterMap_append

/-! ## The chunks of a stream -/

/-- What an event says about the end of the message. -/
def StreamSummary.see (summary : StreamSummary) : UpstreamEvent → StreamSummary
  | .messageStop stopReason => { summary with stopReason := stopReason }
  | .metadata inputTokens outputTokens =>
      { summary with inputTokens := inputTokens, outputTokens := outputTokens }
  | _ => summary

/-- The chunk made of an event. -/
def UpstreamEvent.chunk? : UpstreamEvent → Option StreamChunk
  | .contentBlockDelta text => (text.filter (· ≠ "")).map fun text => { textDelta := text }
  | _ => none

/-- The chunks made of what was pulled. -/
def chunksOf : StreamSummary → List Pull → List StreamChunk
  | _, [] => []
  | summary, .ok (some event) :: rest => event.chunk?.toList ++ chunksOf (summary.see event) rest
  | summary, .ok none :: _ => [summary.finalChunk]
  | _, .error _ :: _ => []

/-- The chunks an opening leads to, and the exception after them. -/
def chunkSource : Except UpstreamError UpstreamStream → ChunkSource
  | .error exc => ⟨[], some exc.onOpening⟩
  | .ok stream => ⟨chunksOf {} stream.pulls, stream.raises.map UpstreamError.midStream⟩

/-- An event of the upstream, translated. -/
theorem translateEvents_cons (raises : Option UpstreamError) (summary : StreamSummary)
    (event : UpstreamEvent) (rest : List UpstreamEvent) :
    translateEvents raises summary (event :: rest) =
      (Generator.ask (.client (.pull (.ok (some event)))) >>= fun _ =>
        match event.chunk? with
        | some chunk => Generator.ask (.yields chunk) >>= fun _ =>
            translateEvents raises (summary.see event) rest
        | none => translateEvents raises (summary.see event) rest) := by
  cases event with
  | contentBlockDelta text =>
      rw [translateEvents]
      cases htext : text.filter (· ≠ "") with
      | none =>
          have hchunk : (UpstreamEvent.contentBlockDelta text).chunk? = none := by
            rw [UpstreamEvent.chunk?, htext]
            rfl
          simp only [hchunk]
          rfl
      | some delta =>
          have hchunk : (UpstreamEvent.contentBlockDelta text).chunk? =
              some { textDelta := delta } := by
            rw [UpstreamEvent.chunk?, htext]
            rfl
          simp only [hchunk]
          rfl
  | messageStop stopReason => rfl
  | metadata inputTokens outputTokens => rfl
  | other => rfl

/-! ## Erasing the upstream -/

/-- On traces of such events, the gateway's own questions of the first piece of code
are a run of the second. -/
def Erases {α : Type} (P : Event ClientAnswer → Prop) (p : ClientPy α) (q : Py α) : Prop :=
  ∀ trace result, (∀ event ∈ trace, P event) → Program.Exec p.run trace result →
    Program.Exec q.run (gatewayTrace trace) result

namespace Erases

variable {α β : Type} {P : Event ClientAnswer → Prop}

theorem pure (value : α) : Erases P (pure value) (pure value) := by
  intro trace result _ h
  obtain ⟨rfl, rfl⟩ := Fallible.exec_pure_iff.mp h
  exact Fallible.exec_pure_iff.mpr ⟨rfl, rfl⟩

theorem throw (exn : Exn) : Erases P (throw exn : ClientPy α) (throw exn) := by
  intro trace result _ h
  obtain ⟨rfl, rfl⟩ := Fallible.exec_throw_iff.mp h
  exact Fallible.exec_throw_iff.mpr ⟨rfl, rfl⟩

theorem bind {p : ClientPy α} {q : Py α} {f : α → ClientPy β} {g : α → Py β}
    (hp : Erases P p q) (hf : ∀ value, Erases P (f value) (g value)) :
    Erases P (p >>= f) (q >>= g) := by
  intro trace result hP h
  apply Fallible.exec_bind_iff.mpr
  rcases Fallible.exec_bind_iff.mp h with
    ⟨exn, hraised, rfl⟩ | ⟨first, second, value, rfl, hran, hrest⟩
  · exact .inl ⟨exn, hp _ _ hP hraised, rfl⟩
  · have hfirst := hp _ _ (fun event hmem => hP event (List.mem_append_left _ hmem)) hran
    have hsecond := hf value _ _ (fun event hmem => hP event (List.mem_append_right _ hmem)) hrest
    exact .inr ⟨_, _, value, gatewayTrace_append first second, hfirst, hsecond⟩

theorem attempt {p : ClientPy α} {q : Py α} (hp : Erases P p q) :
    Erases P (Fallible.attempt p) (Fallible.attempt q) := by
  intro trace result hP h
  obtain ⟨outcome, hran, rfl⟩ := Fallible.exec_attempt_iff.mp h
  exact Fallible.exec_attempt_iff.mpr ⟨outcome, hp _ _ hP hran, rfl⟩

/-- A question of the client's is erased. -/
theorem internal {q : ClientQuery} {f : ClientAnswer q → ClientPy α} {code : Py α}
    (hq : ∀ answer, gatewayTrace [⟨q, answer⟩] = [])
    (hf : ∀ answer, P ⟨q, answer⟩ → Erases P (f answer) code) :
    Erases P (ClientPy.ask q >>= f) code := by
  intro trace result hP h
  obtain ⟨answer, rest, rfl, hrest⟩ := Program.exec_ask_iff.mp h
  obtain ⟨hanswer, hafter⟩ := List.forall_mem_cons.mp hP
  rw [← List.singleton_append, gatewayTrace_append, hq, List.nil_append]
  exact hf answer hanswer rest result hafter hrest

/-- The opening of the stream is the start of it. -/
theorem opens {modelId : String} {messages : List BedrockChatMessage} {maxTokens : ℤ}
    {temperature : PyFloat}
    {f : Except UpstreamError UpstreamStream → ClientPy α} {code : Py α}
    (hf : ∀ opened, P ⟨.invokeStream modelId messages maxTokens temperature, opened⟩ →
      Erases P (f opened) code) :
    Erases P (ClientPy.ask (.invokeStream modelId messages maxTokens temperature) >>= f)
      (ask .startStream >>= fun _ => code) := by
  intro trace result hP h
  obtain ⟨opened, rest, rfl, hrest⟩ := Program.exec_ask_iff.mp h
  obtain ⟨hopened, hafter⟩ := List.forall_mem_cons.mp hP
  exact Program.exec_ask_iff.mpr ⟨(), _, rfl, hf opened hopened rest result hafter hrest⟩

end Erases

/-- A run of the gateway's own code asks the gateway's own questions. -/
private theorem exec_expand {β : Type} {code : Program Query Answer β}
    {trace : List (Event ClientAnswer)} {value : β}
    (h : Program.Exec (code.expand fun query => Program.query (ClientQuery.gateway query))
      trace value) :
    Program.Exec code (gatewayTrace trace) value ∧ pullsOf trace = [] ∧ openingsOf trace = [] := by
  induction code generalizing trace with
  | ret result =>
      obtain ⟨rfl, rfl⟩ := Program.exec_ret_iff.mp h
      exact ⟨.refl _, rfl, rfl⟩
  | ask query resume ih =>
      obtain ⟨answer, rest, rfl, hrest⟩ := Program.exec_ask_iff.mp h
      obtain ⟨hexec, hpulls, hopenings⟩ := ih answer hrest
      exact ⟨Program.exec_ask_iff.mpr ⟨answer, _, rfl, hexec⟩, hpulls, hopenings⟩

theorem exec_gateway {α : Type} {code : Py α} {trace : List (Event ClientAnswer)}
    {result : Except Exn α} (h : Program.Exec (ClientPy.gateway code).run trace result) :
    Program.Exec code.run (gatewayTrace trace) result ∧ pullsOf trace = [] ∧
      openingsOf trace = [] :=
  exec_expand h

theorem Erases.gateway {α : Type} {P : Event ClientAnswer → Prop} (code : Py α) :
    Erases P (ClientPy.gateway code) code :=
  fun _ _ _ h => (exec_gateway h).1

/-- All that a stream comes back with, from some event on. -/
def pullsFrom (raises : Option UpstreamError) (events : List UpstreamEvent) : List Pull :=
  UpstreamStream.pulls ⟨events, raises⟩

/-- The chunk loop over a chunk of the generator's, and the one over a chunk at hand. -/
private theorem erases_chunk {P : Event ClientAnswer → Prop} {raises : Option Exn}
    {outcome : StreamOutcome} {chunk : StreamChunk} {rest : List StreamChunk}
    {resume : Unit → Program StreamQuery StreamAnswer (Except Exn Unit)}
    (h : ∀ outcome, Erases P (consumeGenerator outcome (resume ()))
      (consumeChunks raises outcome rest)) :
    Erases P (consumeGenerator outcome (.ask (.yields chunk) resume))
      (consumeChunks raises outcome (chunk :: rest)) := by
  unfold consumeGenerator consumeChunks
  apply Erases.bind (Erases.gateway _)
  intro disconnected
  cases disconnected with
  | true => exact Erases.pure _
  | false =>
      by_cases htext : chunk.textDelta = ""
      · simp only [Bool.false_eq_true, if_false, htext, if_true]
        exact h _
      · simp only [Bool.false_eq_true, if_false, htext]
        exact Erases.bind (Erases.gateway _) fun _ => h _

/-- **The chunk loop over the generator** is the one over the chunks it makes. -/
theorem consumeGenerator_erases {P : Event ClientAnswer → Prop} {raises : Option UpstreamError}
    {summary : StreamSummary} {events : List UpstreamEvent} {outcome : StreamOutcome} :
    Erases P (consumeGenerator outcome (translateEvents raises summary events).run)
      (consumeChunks (raises.map UpstreamError.midStream) outcome
        (chunksOf summary (pullsFrom raises events))) := by
  induction events generalizing summary outcome with
  | nil =>
      cases raises with
      | some exc =>
          apply Erases.internal fun _ => rfl
          intro _ _
          exact Erases.throw _
      | none =>
          apply Erases.internal fun _ => rfl
          intro _ _
          apply erases_chunk
          intro outcome
          exact Erases.pure _
  | cons event rest ih =>
      rw [translateEvents_cons]
      apply Erases.internal fun _ => rfl
      intro _ _
      show Erases P _ (consumeChunks _ _ (event.chunk?.toList ++ _))
      cases event.chunk? with
      | none => exact ih
      | some chunk => exact erases_chunk fun _ => ih

/-- If the event opens the stream, it comes back so. -/
def OpenedAs (opened : Except UpstreamError UpstreamStream) : Event ClientAnswer → Prop
  | ⟨.invokeStream _ _ _ _, answer⟩ => answer = opened
  | _ => True

/-- **The response over the generator** is the one over the chunks it makes. -/
theorem streamGenerator_erases (ctx : StreamContext) (modelId : String)
    (conversation : Conversation) (opened : Except UpstreamError UpstreamStream) :
    Erases (OpenedAs opened)
      (streamGenerator ctx (BedrockClient.converseStream modelId conversation))
      (streamChatResponse ctx (chunkSource opened)) := by
  have hloop : Erases (OpenedAs opened)
      (consumeGenerator {} (BedrockClient.converseStream modelId conversation).run)
      (forChunks (chunkSource opened)) := by
    apply Erases.opens
    rintro answer rfl
    cases answer with
    | error exc => exact Erases.throw _
    | ok stream => exact consumeGenerator_erases
  have hbody : Erases (OpenedAs opened)
      (consumeGeneratorOrReport ctx (BedrockClient.converseStream modelId conversation))
      (consumeOrReport ctx (chunkSource opened)) := by
    apply Erases.bind (Erases.attempt hloop)
    intro outcome
    cases outcome with
    | ok ended => exact Erases.pure _
    | error exn =>
        cases exn with
        | bedrockInvocation message code retryable =>
            exact Erases.bind (Erases.gateway _) fun _ => Erases.pure _
        | _ => exact Erases.throw _
  have hended : Erases (OpenedAs opened)
      (ClientPy.tryFinally
        (consumeGeneratorOrReport ctx (BedrockClient.converseStream modelId conversation))
        (ClientPy.gateway (ask .closeChunks >>= settle)))
      (tryFinally (consumeOrReport ctx (chunkSource opened)) (ask .closeChunks >>= settle)) := by
    apply Erases.bind (Erases.attempt hbody)
    intro outcome
    exact Erases.bind (Erases.gateway _) fun _ => Erases.gateway _
  apply Erases.bind (Erases.gateway _)
  intro start
  apply Erases.bind hended
  intro ended
  cases ended with
  | some outcome => exact Erases.gateway _
  | none => exact Erases.pure _

end BedrockGateway
