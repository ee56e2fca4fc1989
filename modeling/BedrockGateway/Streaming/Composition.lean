/-
# Streaming end to end

What the generator pulls of the upstream is followed poll by poll. Together with the
consumer's account of the chunks it is handed, this says what becomes of every event
of the upstream, however the stream ends.
-/

import BedrockGateway.Streaming.Accounting
import BedrockGateway.Streaming.Erasure

namespace BedrockGateway

open Foundation Py

/-! ## What is pulled -/

/-- What a consumer that opens streams as in `opens`, of which the last comes back with
`pulls`, pulls of it. -/
structure PullAccount (summary : StreamSummary) (pulls : List Pull)
    (opens : List (Except UpstreamError UpstreamStream)) (trace : List (Event ClientAnswer)) :
    Prop where
  pulled : pullsOf trace <+: pulls
  polled : (chunksOf summary (pullsOf trace)).length = (pollsOf (gatewayTrace trace)).length
  left : pullsOf (afterLeaving trace) = []
  complete : true ∉ pollsOf (gatewayTrace trace) → pullsOf trace = pulls
  openings : openingsOf trace = opens

theorem afterLeaving_append {first second : List (Event ClientAnswer)}
    (h : ∀ event ∈ first, leaves event = false) :
    afterLeaving (first ++ second) = afterLeaving second := by
  apply List.dropWhile_append_of_pos
  intro event hmem
  rw [h event hmem]
  rfl

/-- An event is pulled and the client stays. -/
private theorem PullAccount.step {summary : StreamSummary} {event : UpstreamEvent}
    {pulls : List Pull} {rest : List (Event ClientAnswer)}
    (h : PullAccount (summary.see event) pulls [] rest) (sent : List (Event ClientAnswer))
    (hpulls : pullsOf sent = []) (hopenings : openingsOf sent = [])
    (hpolls : pollsOf (gatewayTrace sent) = event.chunk?.toList.map fun _ => false)
    (hstays : ∀ event ∈ sent, leaves event = false) :
    PullAccount summary (.ok (some event) :: pulls) []
      (⟨.pull (.ok (some event)), ()⟩ :: (sent ++ rest)) := by
  have hpulled : pullsOf (⟨.pull (.ok (some event)), ()⟩ :: (sent ++ rest)) =
      .ok (some event) :: pullsOf rest := by
    show .ok (some event) :: pullsOf (sent ++ rest) = _
    rw [pullsOf_append, hpulls, List.nil_append]
  have hpolled : pollsOf (gatewayTrace (⟨.pull (.ok (some event)), ()⟩ :: (sent ++ rest))) =
      (event.chunk?.toList.map fun _ => false) ++ pollsOf (gatewayTrace rest) := by
    show pollsOf (gatewayTrace (sent ++ rest)) = _
    rw [gatewayTrace_append, pollsOf_append, hpolls]
  constructor
  · rw [hpulled]
    exact List.cons_prefix_cons.mpr ⟨rfl, h.pulled⟩
  · rw [hpulled, hpolled]
    show (event.chunk?.toList ++ chunksOf (summary.see event) (pullsOf rest)).length = _
    rw [List.length_append, List.length_append, List.length_map, h.polled]
  · show pullsOf (afterLeaving (sent ++ rest)) = []
    rw [afterLeaving_append hstays]
    exact h.left
  · intro hnever
    rw [hpolled] at hnever
    rw [hpulled, h.complete fun hmem => hnever (List.mem_append_right _ hmem)]
  · show openingsOf (sent ++ rest) = []
    rw [openingsOf_append, hopenings, h.openings, List.nil_append]

/-- An event is pulled and the client has left. -/
private theorem PullAccount.leave {summary : StreamSummary} {event : UpstreamEvent}
    {pulls : List Pull} {chunk : StreamChunk} (hchunk : event.chunk? = some chunk) :
    PullAccount summary (.ok (some event) :: pulls) []
      [⟨.pull (.ok (some event)), ()⟩, ⟨.gateway .isDisconnected, .ok true⟩] where
  pulled := ⟨pulls, rfl⟩
  polled := by
    show (event.chunk?.toList ++ []).length = 1
    rw [hchunk]
    rfl
  left := rfl
  complete hnever := absurd (List.mem_singleton.mpr rfl) hnever
  openings := rfl

/-- A poll that comes back, then the rest. -/
private theorem exec_polled {β : Type} {f : Bool → ClientPy β} {trace : List (Event ClientAnswer)}
    {result : Except Exn β}
    (h : Program.Exec (ClientPy.gateway (ask .isDisconnected >>= settle) >>= f).run trace result)
    (hdelivered : ∀ event ∈ gatewayTrace trace, delivered event = true) :
    ∃ disconnected rest, trace = ⟨.gateway .isDisconnected, .ok disconnected⟩ :: rest ∧
      Program.Exec (f disconnected).run rest result ∧
      ∀ event ∈ gatewayTrace rest, delivered event = true := by
  obtain ⟨answer, rest, rfl, hrest⟩ := Program.exec_ask_iff.mp h
  obtain ⟨hpoll, hafter⟩ := List.forall_mem_cons.mp hdelivered
  cases answer with
  | ok disconnected => exact ⟨disconnected, rest, rfl, hrest, hafter⟩
  | error exn => cases hpoll

/-- A send that comes back, then the rest. -/
private theorem exec_sent {β : Type} {text : String} {f : Unit → ClientPy β}
    {trace : List (Event ClientAnswer)} {result : Except Exn β}
    (h : Program.Exec (ClientPy.gateway (sendText text) >>= f).run trace result)
    (hdelivered : ∀ event ∈ gatewayTrace trace, delivered event = true) :
    ∃ rest, trace = ⟨.gateway (.sendBody (.bytes text)), .ok ()⟩ :: rest ∧
      Program.Exec (f ()).run rest result ∧
      ∀ event ∈ gatewayTrace rest, delivered event = true := by
  obtain ⟨answer, rest, rfl, hrest⟩ := Program.exec_ask_iff.mp h
  obtain ⟨hsend, hafter⟩ := List.forall_mem_cons.mp hdelivered
  cases answer with
  | ok sent => exact ⟨rest, rfl, hrest, hafter⟩
  | error exn => cases hsend

/-- The upstream is asked, then the rest. -/
private theorem exec_upstream {outcome : StreamOutcome} {q : ClientQuery}
    {resume : ClientAnswer q → Program StreamQuery StreamAnswer (Except Exn Unit)}
    {trace : List (Event ClientAnswer)} {result : Except Exn StreamOutcome}
    (h : Program.Exec (consumeGenerator outcome (.ask (.client q) resume)).run trace result) :
    ∃ answer rest, trace = ⟨q, answer⟩ :: rest ∧
      Program.Exec (consumeGenerator outcome (resume answer)).run rest result := by
  obtain ⟨answer, rest, rfl, hrest⟩ := Program.exec_ask_iff.mp h
  exact ⟨answer, rest, rfl, hrest⟩

/-- The client is polled about a chunk: it has left, or the loop goes on. -/
private theorem exec_consume_chunk {outcome : StreamOutcome} {chunk : StreamChunk}
    {resume : Unit → Program StreamQuery StreamAnswer (Except Exn Unit)}
    {trace : List (Event ClientAnswer)} {result : Except Exn StreamOutcome}
    (h : Program.Exec (consumeGenerator outcome (.ask (.yields chunk) resume)).run trace result)
    (hdelivered : ∀ event ∈ gatewayTrace trace, delivered event = true) :
    trace = [⟨.gateway .isDisconnected, .ok true⟩] ∨
      ∃ sent rest outcome', trace = ⟨.gateway .isDisconnected, .ok false⟩ :: (sent ++ rest) ∧
        (sent = [] ∨ ∃ text, sent = [⟨.gateway (.sendBody (.bytes text)), .ok ()⟩]) ∧
        Program.Exec (consumeGenerator outcome' (resume ())).run rest result ∧
        ∀ event ∈ gatewayTrace rest, delivered event = true := by
  unfold consumeGenerator at h
  obtain ⟨disconnected, more, rfl, hmore, hafter⟩ := exec_polled h hdelivered
  cases disconnected with
  | true =>
      obtain ⟨rfl, rfl⟩ := Fallible.exec_pure_iff.mp hmore
      exact .inl rfl
  | false =>
      right
      by_cases htext : chunk.textDelta = ""
      · simp only [Bool.false_eq_true, if_false, htext, if_true] at hmore
        exact ⟨[], more, _, rfl, .inl rfl, hmore, hafter⟩
      · simp only [Bool.false_eq_true, if_false, htext] at hmore
        obtain ⟨rest, rfl, hrest, hlast⟩ := exec_sent hmore hafter
        exact ⟨[_], rest, _, rfl, .inr ⟨_, rfl⟩, hrest, hlast⟩

/-- **What the chunk loop pulls.** -/
theorem consumeGenerator_pulls {raises : Option UpstreamError} {summary : StreamSummary}
    {events : List UpstreamEvent} {outcome : StreamOutcome} {trace : List (Event ClientAnswer)}
    {result : Except Exn StreamOutcome}
    (h : Program.Exec (consumeGenerator outcome (translateEvents raises summary events).run).run
      trace result)
    (hdelivered : ∀ event ∈ gatewayTrace trace, delivered event = true) :
    PullAccount summary (pullsFrom raises events) [] trace := by
  induction events generalizing summary outcome trace with
  | nil =>
      cases raises with
      | some exc =>
          obtain ⟨_, rest, rfl, hrest⟩ := Program.exec_ask_iff.mp h
          obtain ⟨rfl, rfl⟩ := Fallible.exec_throw_iff.mp hrest
          exact ⟨List.prefix_rfl, rfl, rfl, fun _ => rfl, rfl⟩
      | none =>
          obtain ⟨_, rest, rfl, hrest⟩ := exec_upstream h
          have hyields : Program.Exec (consumeGenerator outcome
              (.ask (.yields summary.finalChunk) fun _ => .ret (.ok ()))).run rest result := hrest
          rcases exec_consume_chunk hyields hdelivered with
            rfl | ⟨sent, last, outcome', rfl, hsent, hlast, _⟩
          · exact ⟨List.prefix_rfl, rfl, rfl, fun _ => rfl, rfl⟩
          · obtain ⟨rfl, rfl⟩ := Fallible.exec_pure_iff.mp hlast
            rcases hsent with rfl | ⟨text, rfl⟩
            · exact ⟨List.prefix_rfl, rfl, rfl, fun _ => rfl, rfl⟩
            · exact ⟨List.prefix_rfl, rfl, rfl, fun _ => rfl, rfl⟩
  | cons event rest ih =>
      rw [translateEvents_cons] at h
      obtain ⟨_, more, rfl, hmore⟩ := exec_upstream h
      cases hchunk : event.chunk? with
      | none =>
          rw [hchunk] at hmore
          exact (ih hmore hdelivered).step [] rfl rfl (by rw [hchunk]; rfl) (by simp)
      | some chunk =>
          rw [hchunk] at hmore
          have hyields : Program.Exec (consumeGenerator outcome (.ask (.yields chunk) fun _ =>
              (translateEvents raises (summary.see event) rest).run)).run more result := hmore
          rcases exec_consume_chunk hyields hdelivered with
            rfl | ⟨sent, last, outcome', rfl, hsent, hlast, hafter⟩
          · exact .leave hchunk
          · have hrest := ih hlast hafter
            rcases hsent with rfl | ⟨text, rfl⟩
            · exact hrest.step [_] rfl rfl (by rw [hchunk]; rfl) (by simp [leaves])
            · exact hrest.step [_, _] rfl rfl (by rw [hchunk]; rfl) (by simp [leaves])

/-- Nothing is pulled, polled or opened. -/
structure Idle (trace : List (Event ClientAnswer)) : Prop where
  pulls : pullsOf trace = []
  polls : pollsOf (gatewayTrace trace) = []
  openings : openingsOf trace = []

theorem Idle.append {first second : List (Event ClientAnswer)} (hfirst : Idle first)
    (hsecond : Idle second) : Idle (first ++ second) where
  pulls := by rw [pullsOf_append, hfirst.pulls, hsecond.pulls, List.nil_append]
  polls := by
    rw [gatewayTrace_append, pollsOf_append, hfirst.polls, hsecond.polls, List.nil_append]
  openings := by rw [openingsOf_append, hfirst.openings, hsecond.openings, List.nil_append]

/-- The gateway's code that does not poll is idle. -/
private theorem idle_of_only {α : Type} {code : Py α} {trace : List (Event ClientAnswer)}
    {result : Except Exn α} (hcode : Program.Only (· ≠ .isDisconnected) code.run)
    (h : Program.Exec (ClientPy.gateway code).run trace result) : Idle trace := by
  obtain ⟨hexec, hpulls, hopenings⟩ := exec_gateway h
  have hnone := (hcode.reaches hexec).1
  constructor
  · exact hpulls
  · unfold pollsOf
    rw [List.filterMap_eq_nil_iff]
    intro event hmem
    have hne := hnone event hmem
    split
    · exact absurd rfl hne
    · rfl
  · exact hopenings

private theorem sendText_only (text : String) :
    Program.Only (· ≠ .isDisconnected) (sendText text).run := by
  apply Fallible.Only.bind
  · exact Fallible.Only.ask (by simp)
  · intro answer
    cases answer <;> trivial

private theorem reportStreamFailure_only (ctx : StreamContext) (message : String) :
    Program.Only (· ≠ .isDisconnected) (reportStreamFailure ctx message).run := by
  apply Fallible.Only.bind
  · exact Fallible.Only.ask (by simp)
  intro _
  apply Fallible.Only.bind (sendText_only _)
  intro _
  apply Fallible.Only.bind (sendText_only _)
  intro _
  exact Fallible.Only.ask (by simp)

private theorem reportStreamEnd_only (ctx : StreamContext) (start : ℚ) (ended : StreamOutcome) :
    Program.Only (· ≠ .isDisconnected) (reportStreamEnd ctx start ended).run := by
  apply Fallible.Only.bind
  · unfold recordStreamEnd
    split
    · trivial
    · exact Fallible.Only.ask (by simp)
  intro _
  apply Fallible.Only.bind
  · exact Fallible.Only.ask (by simp)
  intro _
  apply Fallible.Only.bind (sendText_only _)
  intro _
  exact Fallible.Only.ask (by simp)

/-- What follows changes nothing. -/
private theorem PullAccount.idle {summary : StreamSummary} {pulls : List Pull}
    {opens : List (Except UpstreamError UpstreamStream)} {trace after : List (Event ClientAnswer)}
    (h : PullAccount summary pulls opens trace) (hafter : Idle after) :
    PullAccount summary pulls opens (trace ++ after) := by
  have hpulled : pullsOf (trace ++ after) = pullsOf trace := by
    rw [pullsOf_append, hafter.pulls, List.append_nil]
  have hpolled : pollsOf (gatewayTrace (trace ++ after)) = pollsOf (gatewayTrace trace) := by
    rw [gatewayTrace_append, pollsOf_append, hafter.polls, List.append_nil]
  constructor
  · rw [hpulled]
    exact h.pulled
  · rw [hpulled, hpolled]
    exact h.polled
  · unfold afterLeaving
    rw [List.dropWhile_append]
    split
    · have hpulls := hafter.pulls
      rw [pullsOf, List.filterMap_eq_nil_iff] at hpulls ⊢
      intro event hmem
      exact hpulls event ((List.dropWhile_suffix _).subset hmem)
    · rw [pullsOf_append, hafter.pulls, List.append_nil]
      exact h.left
  · rw [hpulled, hpolled]
    exact h.complete
  · rw [openingsOf_append, hafter.openings, List.append_nil]
    exact h.openings

/-- All that an opening comes back with. -/
def openedPulls : Except UpstreamError UpstreamStream → List Pull
  | .error _ => []
  | .ok stream => stream.pulls

/-- The chunk loop opens the stream and pulls of it. -/
private theorem exec_loop {modelId : String} {conversation : Conversation}
    {outcome : StreamOutcome} {trace : List (Event ClientAnswer)}
    {result : Except Exn StreamOutcome}
    (h : Program.Exec
      (consumeGenerator outcome (BedrockClient.converseStream modelId conversation).run).run
      trace result)
    (hdelivered : ∀ event ∈ gatewayTrace trace, delivered event = true) :
    ∃ opened, PullAccount {} (openedPulls opened) [opened] trace := by
  obtain ⟨opened, rest, rfl, hrest⟩ := exec_upstream h
  refine ⟨opened, ?_⟩
  cases opened with
  | error exc =>
      obtain ⟨rfl, rfl⟩ := Fallible.exec_throw_iff.mp hrest
      exact ⟨List.prefix_rfl, rfl, rfl, fun _ => rfl, rfl⟩
  | ok stream =>
      have hpulls := consumeGenerator_pulls hrest (List.forall_mem_cons.mp hdelivered).2
      have hopenings : .ok stream :: openingsOf rest = [.ok stream] := by rw [hpulls.openings]
      exact ⟨hpulls.pulled, hpulls.polled, hpulls.left, hpulls.complete, hopenings⟩

/-- The `try` statement is the chunk loop, and a report that changes nothing. -/
private theorem exec_try {ctx : StreamContext} {chunks : Generator}
    {trace : List (Event ClientAnswer)} {result : Except Exn (Option StreamOutcome)}
    (h : Program.Exec (consumeGeneratorOrReport ctx chunks).run trace result) :
    ∃ loop rest outcome, trace = loop ++ rest ∧ Idle rest ∧
      Program.Exec (consumeGenerator {} chunks.run).run loop outcome := by
  unfold consumeGeneratorOrReport at h
  rw [Fallible.run_attempt_bind] at h
  obtain ⟨loop, rest, outcome, rfl, hloop, hrest⟩ := Program.exec_bind_iff.mp h
  refine ⟨loop, rest, outcome, rfl, ?_, hloop⟩
  cases outcome with
  | ok ended =>
      obtain ⟨rfl, rfl⟩ := Fallible.exec_pure_iff.mp hrest
      exact ⟨rfl, rfl, rfl⟩
  | error exn =>
      cases exn with
      | bedrockInvocation message code retryable =>
          rcases Fallible.exec_bind_iff.mp hrest with
            ⟨exn, hreport, _⟩ | ⟨reported, last, _, rfl, hreport, hnone⟩
          · exact idle_of_only (reportStreamFailure_only _ _) hreport
          · obtain ⟨rfl, rfl⟩ := Fallible.exec_pure_iff.mp hnone
            exact (idle_of_only (reportStreamFailure_only _ _) hreport).append ⟨rfl, rfl, rfl⟩
      | _ =>
          obtain ⟨rfl, rfl⟩ := Fallible.exec_throw_iff.mp hrest
          exact ⟨rfl, rfl, rfl⟩

/-- So is closing the iterator. -/
private theorem exec_finally {α : Type} {body : ClientPy α} {trace : List (Event ClientAnswer)}
    {result : Except Exn α}
    (h : Program.Exec
      (ClientPy.tryFinally body (ClientPy.gateway (ask .closeChunks >>= settle))).run
      trace result) :
    ∃ first rest outcome, trace = first ++ rest ∧ Idle rest ∧
      Program.Exec body.run first outcome := by
  unfold ClientPy.tryFinally at h
  rw [Fallible.run_attempt_bind] at h
  obtain ⟨first, rest, outcome, rfl, hbody, hrest⟩ := Program.exec_bind_iff.mp h
  refine ⟨first, rest, outcome, rfl, ?_, hbody⟩
  have hclose : Program.Only (· ≠ .isDisconnected) (ask .closeChunks >>= settle).run := by
    apply Fallible.Only.bind
    · exact Fallible.Only.ask (by simp)
    · intro answer
      cases answer <;> trivial
  rcases Fallible.exec_bind_iff.mp hrest with
    ⟨exn, hclosed, _⟩ | ⟨closed, last, _, rfl, hclosed, hsettled⟩
  · exact idle_of_only hclose hclosed
  · have hsettle : Program.Only (· ≠ Query.isDisconnected) (settle outcome).run := by
      cases outcome <;> trivial
    exact (idle_of_only hclose hclosed).append (idle_of_only hsettle hsettled)

/-- **What a response pulls.** -/
theorem streamGenerator_pulls {ctx : StreamContext} {modelId : String}
    {conversation : Conversation} {trace : List (Event ClientAnswer)} {result : Except Exn Unit}
    (h : Program.Exec (streamGenerator ctx (BedrockClient.converseStream modelId conversation)).run
      trace result)
    (hdelivered : ∀ event ∈ gatewayTrace trace, delivered event = true) :
    ∃ opened, PullAccount {} (openedPulls opened) [opened] trace := by
  obtain ⟨start, more, rfl, hmore⟩ := Program.exec_ask_iff.mp h
  have hdelivered : ∀ event ∈ gatewayTrace more, delivered event = true :=
    (List.forall_mem_cons.mp hdelivered).2
  suffices hpulls : ∃ opened, PullAccount {} (openedPulls opened) [opened] more by
    obtain ⟨opened, hpulls⟩ := hpulls
    exact ⟨opened, hpulls.pulled, hpulls.polled, hpulls.left, hpulls.complete, hpulls.openings⟩
  have hended : ∃ ended last outcome, more = ended ++ last ∧ Idle last ∧
      Program.Exec (ClientPy.tryFinally
        (consumeGeneratorOrReport ctx (BedrockClient.converseStream modelId conversation))
        (ClientPy.gateway (ask .closeChunks >>= settle))).run ended outcome := by
    rcases Fallible.exec_bind_iff.mp hmore with
      ⟨exn, hbody, _⟩ | ⟨ended, last, outcome, rfl, hbody, hlast⟩
    · exact ⟨more, [], _, (List.append_nil _).symm, ⟨rfl, rfl, rfl⟩, hbody⟩
    · refine ⟨ended, last, _, rfl, ?_, hbody⟩
      cases outcome with
      | some outcome => exact idle_of_only (reportStreamEnd_only _ _ _) hlast
      | none =>
          obtain ⟨rfl, _⟩ := Fallible.exec_pure_iff.mp hlast
          exact ⟨rfl, rfl, rfl⟩
  obtain ⟨ended, last, outcome, rfl, hlast, hended⟩ := hended
  obtain ⟨body, closed, outcome, rfl, hclosed, hbody⟩ := exec_finally hended
  obtain ⟨loop, reported, outcome, rfl, hreported, hloop⟩ := exec_try hbody
  obtain ⟨opened, hpulls⟩ := exec_loop hloop fun event hmem => hdelivered event (by
    simp only [gatewayTrace_append, List.mem_append]
    exact .inl (.inl (.inl hmem)))
  exact ⟨opened, ((hpulls.idle hreported).idle hclosed).idle hlast⟩

/-! ## The account -/

/-- What the last event of its kind said. -/
def lastSummary (events : List UpstreamEvent) : StreamSummary where
  stopReason := (events.filterMap fun
    | .messageStop stopReason => some stopReason
    | _ => none).getLast?.join
  inputTokens := (events.filterMap fun
    | .metadata inputTokens _ => some inputTokens
    | _ => none).getLast?.join
  outputTokens := (events.filterMap fun
    | .metadata _ outputTokens => some outputTokens
    | _ => none).getLast?.join

/-- The summary of a stream is made of what was seen last. -/
theorem foldl_see (events : List UpstreamEvent) :
    events.foldl StreamSummary.see {} = lastSummary events := by
  induction events using List.reverseRecOn with
  | nil => rfl
  | append_singleton events event ih =>
      rw [List.foldl_append, ih]
      cases event <;> simp [lastSummary, StreamSummary.see, List.filterMap_append]

/-- The chunks of a whole stream: those with text, and the final one. -/
theorem chunksOf_pulls (raises : Option UpstreamError) (summary : StreamSummary)
    (events : List UpstreamEvent) :
    chunksOf summary (UpstreamStream.pulls ⟨events, raises⟩) =
      events.filterMap UpstreamEvent.chunk? ++ match raises with
        | some _ => []
        | none => [(events.foldl StreamSummary.see summary).finalChunk] := by
  induction events generalizing summary with
  | nil => cases raises <;> rfl
  | cons event rest ih =>
      have hrest := ih (summary.see event)
      show event.chunk?.toList ++
        chunksOf (summary.see event) (UpstreamStream.pulls ⟨rest, raises⟩) = _
      rw [hrest]
      cases hchunk : event.chunk? with
      | none => rw [List.filterMap_cons_none hchunk]; rfl
      | some chunk => rw [List.filterMap_cons_some hchunk]; rfl

/-- What has been pulled so far makes the first of the chunks. -/
theorem chunksOf_prefix {pulled pulls : List Pull} (h : pulled <+: pulls)
    (summary : StreamSummary) : chunksOf summary pulled <+: chunksOf summary pulls := by
  induction pulled generalizing summary pulls with
  | nil => exact List.nil_prefix
  | cons first rest ih =>
      obtain ⟨more, rfl⟩ := h
      cases first with
      | error exc => exact List.prefix_rfl
      | ok next =>
          cases next with
          | none => exact List.prefix_rfl
          | some event =>
              have hrest := ih ⟨more, rfl⟩ (summary.see event)
              exact (List.prefix_append_right_inj _).mpr hrest

theorem chunk?_isFinal {event : UpstreamEvent} {chunk : StreamChunk}
    (h : event.chunk? = some chunk) : chunk.isFinal = false := by
  cases event with
  | contentBlockDelta text =>
      obtain ⟨delta, _, rfl⟩ := Option.map_eq_some_iff.mp h
      rfl
  | _ => cases h

/-- Passing on chunks that carry text leaves no final chunk. -/
theorem foldl_pass_final {chunks : List StreamChunk} (h : ∀ chunk ∈ chunks, chunk.isFinal = false)
    (outcome : StreamOutcome) :
    (chunks.foldl StreamOutcome.pass outcome).final = outcome.final := by
  induction chunks generalizing outcome with
  | nil => rfl
  | cons chunk rest ih =>
      obtain ⟨hchunk, hrest⟩ := List.forall_mem_cons.mp h
      rw [List.foldl_cons, ih hrest]
      simp [StreamOutcome.pass, hchunk]

theorem keptChunks_all (chunks : List StreamChunk) :
    keptChunks chunks (List.replicate chunks.length false) = chunks := by
  induction chunks with
  | nil => rfl
  | cons chunk rest ih =>
      show chunk :: keptChunks rest (List.replicate rest.length false) = _
      rw [ih]

theorem keptChunks_left {chunks : List StreamChunk} {n : ℕ} (h : n < chunks.length) :
    keptChunks chunks (List.replicate n false ++ [true]) = chunks.take n := by
  induction n generalizing chunks with
  | zero =>
      cases chunks with
      | nil => simp at h
      | cons chunk rest => rfl
  | succ n ih =>
      cases chunks with
      | nil => simp at h
      | cons chunk rest =>
          show chunk :: keptChunks rest (List.replicate n false ++ [true]) = _
          rw [ih (by simpa using h)]
          rfl

/-- Only the chunks polled about matter. -/
theorem keptChunks_prefix {first chunks : List StreamChunk} {polls : List Bool}
    (h : first <+: chunks) (hlength : first.length = polls.length) :
    keptChunks chunks polls = keptChunks first polls := by
  obtain ⟨rest, rfl⟩ := h
  have hzip : (first ++ rest).zip polls = first.zip polls := by
    conv_lhs => rw [← List.append_nil polls, List.zip_append hlength, List.zip_nil_right,
      List.append_nil]
  rw [keptChunks, hzip, keptChunks]

/-- How a response ends: its last frames, and what is recorded with the breaker. -/
inductive StreamEnd (ctx : StreamContext) (opened : Except UpstreamError UpstreamStream)
    (pulled : List Pull) (polls : List Bool) : List String → List Query → Prop
  | /-- The client has left. -/
    left (polled : true ∈ polls) : StreamEnd ctx opened pulled polls [doneFrame true {}] []
  | /-- The upstream fails on opening. -/
    notOpened (exc : UpstreamError) (opening : opened = .error exc) (polled : true ∉ polls) :
      StreamEnd ctx opened pulled polls
        [errorFrame ctx ("Bedrock stream invocation failed: " ++ exc.text), failedFrame]
        [.recordFailure ctx.modelId]
  | /-- The upstream fails on the way. -/
    failed (stream : UpstreamStream) (exc : UpstreamError) (opening : opened = .ok stream)
      (raised : stream.raises = some exc) (polled : true ∉ polls) (all : pulled = stream.pulls) :
      StreamEnd ctx opened pulled polls
        [errorFrame ctx ("Bedrock stream failed mid-stream: " ++ exc.text), failedFrame]
        [.recordFailure ctx.modelId]
  | /-- The stream has come to its end. -/
    completed (stream : UpstreamStream) (opening : opened = .ok stream)
      (ended : stream.raises = none) (polled : true ∉ polls) (all : pulled = stream.pulls) :
      StreamEnd ctx opened pulled polls [doneFrame false (lastSummary stream.events)]
        [.recordSuccess ctx.modelId]

/-- In a source of the client's, only the last chunk is final. -/
private theorem take_isFinal {opened : Except UpstreamError UpstreamStream} {n : ℕ}
    (h : n < (chunkSource opened).chunks.length) :
    ∀ chunk ∈ (chunkSource opened).chunks.take n, chunk.isFinal = false := by
  cases opened with
  | error exc => simp [chunkSource] at h
  | ok stream =>
      obtain ⟨events, raises⟩ := stream
      have hchunks := chunksOf_pulls raises {} events
      have htext : ∀ chunk ∈ events.filterMap UpstreamEvent.chunk?, chunk.isFinal = false := by
        intro chunk hmem
        obtain ⟨event, _, hchunk⟩ := List.mem_filterMap.mp hmem
        exact chunk?_isFinal hchunk
      intro chunk hmem
      unfold chunkSource at h hmem
      simp only [hchunks] at h hmem
      cases raises with
      | some exc =>
          rw [List.append_nil] at hmem
          exact htext chunk (List.mem_of_mem_take hmem)
      | none =>
          rw [List.length_append, List.length_singleton] at h
          rw [List.take_append_of_le_length (by omega)] at hmem
          exact htext chunk (List.mem_of_mem_take hmem)

/-- The end of a response over the client's chunks. -/
theorem StreamEnd.of_ending {ctx : StreamContext}
    {opened : Except UpstreamError UpstreamStream} {pulled : List Pull} {polls : List Bool}
    {terminal : List String} {records : List Query}
    (hpolls : polls = List.replicate (chunkSource opened).chunks.length false ∨
      ∃ n, n < (chunkSource opened).chunks.length ∧ polls = List.replicate n false ++ [true])
    (hcomplete : true ∉ polls → pulled = openedPulls opened)
    (h : StreamEnding ctx polls
      (summaryOf ((keptChunks (chunkSource opened).chunks polls).foldl StreamOutcome.pass {}).final)
      (chunkSource opened).raises terminal records) :
    StreamEnd ctx opened pulled polls terminal records := by
  have hstayed :
      true ∉ polls → polls = List.replicate (chunkSource opened).chunks.length false := by
    intro hnever
    apply hpolls.resolve_right
    rintro ⟨n, _, hleft⟩
    exact hnever (by simp [hleft])
  generalize hraises : (chunkSource opened).raises = raises at h
  cases h with
  | left polled =>
      obtain ⟨n, hlt, hleft⟩ : ∃ n, n < (chunkSource opened).chunks.length ∧
          polls = List.replicate n false ++ [true] := by
        apply hpolls.resolve_left
        intro hnever
        rw [hnever] at polled
        cases List.eq_of_mem_replicate polled
      rw [hleft, keptChunks_left hlt, foldl_pass_final (take_isFinal hlt)]
      exact .left (by simp)
  | failed polled =>
      cases opened with
      | error exc =>
          cases hraises
          exact .notOpened exc rfl polled
      | ok stream =>
          obtain ⟨exc, hexc, hexn⟩ := Option.map_eq_some_iff.mp hraises
          cases hexn
          exact .failed stream exc rfl hexc polled (hcomplete polled)
  | completed polled =>
      cases opened with
      | error exc => cases hraises
      | ok stream =>
          have hnone : stream.raises = none := Option.map_eq_none_iff.mp hraises
          have hsummary : summaryOf ((keptChunks (chunkSource (.ok stream)).chunks polls).foldl
              StreamOutcome.pass {}).final = lastSummary stream.events := by
            rw [hstayed polled, keptChunks_all]
            obtain ⟨events, raises⟩ := stream
            cases hnone
            show summaryOf ((chunksOf {} (UpstreamStream.pulls ⟨events, none⟩)).foldl
              StreamOutcome.pass {}).final = _
            rw [chunksOf_pulls, List.foldl_append, foldl_see]
            rfl
          rw [hsummary]
          exact .completed stream rfl hnone polled (hcomplete polled)

/-- The client raises nothing but its own exception. -/
theorem chunkSource_raises {opened : Except UpstreamError UpstreamStream} (exn : Exn)
    (h : (chunkSource opened).raises = some exn) : exn.isInvocation = true := by
  cases opened with
  | error exc =>
      cases h
      rfl
  | ok stream =>
      obtain ⟨exc, _, rfl⟩ := Option.map_eq_some_iff.mp h
      rfl

/-- With one opening in the trace, the stream opens as it did there. -/
theorem openedAs_of_openings {trace : List (Event ClientAnswer)}
    {opened : Except UpstreamError UpstreamStream} (h : openingsOf trace = [opened]) :
    ∀ event ∈ trace, OpenedAs opened event := by
  rintro ⟨q, answer⟩ hmem
  cases q with
  | invokeStream modelId messages maxTokens temperature =>
      have hopening : answer ∈ openingsOf trace := List.mem_filterMap.mpr ⟨_, hmem, rfl⟩
      rw [h] at hopening
      exact List.mem_singleton.mp hopening
  | _ => trivial

/-- What has been pulled makes the first of the source's chunks. -/
private theorem chunksOf_pulled {pulled : List Pull}
    {opened : Except UpstreamError UpstreamStream} (h : pulled <+: openedPulls opened) :
    chunksOf {} pulled <+: (chunkSource opened).chunks := by
  cases opened with
  | error exc =>
      rw [List.prefix_nil.mp h]
      exact List.prefix_rfl
  | ok stream => exact chunksOf_prefix h {}

/-- **Accounting for a stream, end to end.** The stream is opened once. The chunks
pulled are polled about one by one, up to the first poll that answers that the client
has left, after which nothing is pulled; the deltas sent are those of the chunks kept;
they are followed by what the way the stream ended calls for. The iterator is closed. -/
theorem stream_accounting {ctx : StreamContext} {modelId : String} {conversation : Conversation}
    {trace : List (Event ClientAnswer)} {result : Except Exn Unit}
    (h : Program.Exec (streamGenerator ctx (BedrockClient.converseStream modelId conversation)).run
      trace result)
    (hdelivered : ∀ event ∈ gatewayTrace trace, delivered event = true) :
    let polls := pollsOf (gatewayTrace trace)
    let chunks := chunksOf {} (pullsOf trace)
    ∃ opened terminal, openingsOf trace = [opened] ∧
      pullsOf trace <+: openedPulls opened ∧
      chunks.length = polls.length ∧
      (∃ n, polls = List.replicate n false ∨ polls = List.replicate n false ++ [true]) ∧
      pullsOf (afterLeaving trace) = [] ∧
      framesOf (gatewayTrace trace) = deltaFrames (keptChunks chunks polls) ++ terminal ∧
      StreamEnd ctx opened (pullsOf trace) polls terminal (recordsOf (gatewayTrace trace)) ∧
      closesOf (gatewayTrace trace) = 1 := by
  intro polls chunks
  obtain ⟨opened, hpulls⟩ := streamGenerator_pulls h hdelivered
  have hopened := openedAs_of_openings hpulls.openings
  have hexec := streamGenerator_erases ctx modelId conversation opened trace result hopened h
  have haccount := streamChatResponse_account hexec hdelivered chunkSource_raises
  obtain ⟨terminal, hframes, hending⟩ := haccount.ending
  have hkept : keptChunks (chunkSource opened).chunks polls = keptChunks chunks polls :=
    keptChunks_prefix (chunksOf_pulled hpulls.pulled) hpulls.polled
  refine ⟨opened, terminal, hpulls.openings, hpulls.pulled, hpulls.polled, ?_, hpulls.left, ?_,
    .of_ending haccount.polls hpulls.complete hending, haccount.closes⟩
  · rcases haccount.polls with hstayed | ⟨n, _, hleft⟩
    · exact ⟨_, .inl hstayed⟩
    · exact ⟨n, .inr hleft⟩
  · rw [hframes, hkept]

/-- An upstream that streams a greeting. -/
def greetingUpstream : (q : ClientQuery) → ClientAnswer q
  | .gateway query => failingWorld query
  | .invoke _ _ _ _ _ => .error ⟨none, "unavailable"⟩
  | .latencyMs => zeroFloat
  | .sleep _ => ()
  | .invokeStream _ _ _ _ => .ok {
      events := [.other, .contentBlockDelta (some "hel"), .contentBlockDelta none,
        .contentBlockDelta (some "lo"), .messageStop (some "end_turn"),
        .metadata (some 3) (some 2)] }
  | .pull _ => ()

/-- A greeting, streamed to a client that stays. -/
theorem stream_accounting_greeting :
    let ctx : StreamContext := ⟨"m", "r", "t"⟩
    let trace := ((streamGenerator ctx
      (BedrockClient.converseStream "m" ⟨[], 1, zeroFloat⟩)).run.answerAll greetingUpstream).1
    let polls := pollsOf (gatewayTrace trace)
    polls = [false, false, false] ∧ ∃ opened terminal, openingsOf trace = [opened] ∧
      framesOf (gatewayTrace trace) =
        deltaFrames (keptChunks (chunksOf {} (pullsOf trace)) polls) ++ terminal ∧
      StreamEnd ctx opened (pullsOf trace) polls terminal (recordsOf (gatewayTrace trace)) := by
  intro ctx trace polls
  have hdelivered : ∀ event ∈ gatewayTrace trace, delivered event = true := by decide +kernel
  obtain ⟨opened, terminal, hopenings, _, _, _, _, hframes, hend, _⟩ :=
    stream_accounting (Program.exec_answerAll greetingUpstream _) hdelivered
  exact ⟨by decide +kernel, opened, terminal, hopenings, hframes, hend⟩

end BedrockGateway
