/-
# Debug captures of neighbours

A captured record is kept under the id of its request, which is the one the client
sent if it sent one. The store holds the last record captured under each id, no
matter whose: a record is lost before its time exactly when another tenant's
request is captured under the same id.
-/

import BedrockGateway.Api.Handling
import Mathlib.Data.List.Induction
import Mathlib.Tactic.Linarith

namespace BedrockGateway

open Foundation Py
open Fallible (Only.bind Only.pure Only.attempt)

/-! ## The id of a record is the client's -/

/-- What is captured is captured under the given id. -/
def Query.capturesUnder (given : String) : Query → Prop
  | .debugCapture requestId _ _ _ => requestId = given
  | _ => True

/-- Whatever the program captures, it captures under the given id. -/
abbrev CapturesUnder (given : String) {α : Type} (p : Py α) : Prop :=
  Program.Only (Query.capturesUnder given) p.run

/-- A stage that captures nothing. -/
theorem CapturesUnder.of_asks {given : String} {α : Type} (kinds : List QueryKind) {p : Py α}
    (h : Asks kinds p) (hkinds : .debug ∉ kinds) : CapturesUnder given p := by
  apply Program.Only.mono h
  intro q hq
  cases q with
  | debugCapture requestId tenantId inputText outputText => exact absurd hq hkinds
  | _ => trivial

theorem Query.Own.capturesUnder {app : App} {a : Admitted} {q : Query} (h : q.Own app a) :
    q.capturesUnder a.requestId := by
  cases h with
  | capture => rfl
  | @service q h =>
      cases q with
      | debugCapture requestId tenantId inputText outputText => simp [Query.among, Query.kind] at h
      | _ => trivial
  | _ => trivial

section Handler

variable {app : App}

theorem capturesUnder_chat (request : HttpRequest) (requestId : String) :
    CapturesUnder requestId (chat app request requestId) := by
  have hhandles : Handles (Query.capturesUnder requestId) (fun _ => True)
      (chat app request requestId) := by
    refine handles_chat request (fun q hq => ?_) (fun _ => trivial) (fun _ _ _ => trivial)
      fun identity policy => ?_
    · cases q with
      | debugCapture requestId tenantId inputText outputText => simp [Query.among, Query.kind] at hq
      | _ => trivial
    · exact (owned_readBody ⟨requestId, identity, policy⟩).mono (fun _ h => h.capturesUnder)
        fun _ _ => trivial
  exact hhandles.only

/-- **A request that carries an id is captured under that id.** -/
theorem capturesUnder_job {request : HttpRequest} {given : String}
    (h : request.requestId.filter (· ≠ "") = some given) :
    CapturesUnder given ((Job.chat request).run app) := by
  have hid : requestIdOf request = pure given := by rw [requestIdOf, h]
  show CapturesUnder given (serve app request (chat app request))
  unfold serve
  rw [hid]
  apply Fallible.Only.pure_bind
  apply Only.bind (Fallible.Only.ask trivial)
  intro start
  apply Only.bind (Only.attempt (capturesUnder_chat request given))
  intro outcome
  have hlog : ∀ statusCode, CapturesUnder given (accessLog request given start statusCode) :=
    fun _ => CapturesUnder.of_asks _ (asks_accessLog ..) (by simp)
  cases outcome with
  | error exn =>
      apply Only.bind (hlog _)
      exact fun _ => CapturesUnder.of_asks _ (asks_unhandledError_unsent ..) (by simp)
  | ok response =>
      apply Only.bind (hlog _)
      intro _
      apply Only.bind (Only.attempt (CapturesUnder.of_asks _ (asks_sendResponse ..) (by simp)))
      intro sent
      cases sent with
      | error exn => exact CapturesUnder.of_asks _ (asks_unhandledError ..) (by simp)
      | ok _ => trivial

end Handler

/-! ## The last record captured under an id -/

section Store

variable {J R : Type} {app : App} {M : Machine Query Answer GatewayState J R}
  {s s' : GatewayState} {requestId : String}

/-- The record that an entry captures. -/
def capturedBy (app : App) (entry : Entry Answer GatewayState J R) : Option DebugRecord :=
  match entry.action with
  | .did ⟨.debugCapture requestId tenantId inputText outputText, _⟩ =>
      some ⟨requestId, tenantId, app.redact inputText, app.redact outputText, entry.before.now⟩
  | _ => none

/-- The last record captured under an id. -/
def lastCaptured (app : App) (requestId : String) (log : List (Entry Answer GatewayState J R)) :
    Option DebugRecord :=
  log.reverse.findSome? fun entry => (capturedBy app entry).filter (·.requestId = requestId)

theorem lastCaptured_snoc (past : List (Entry Answer GatewayState J R))
    (entry : Entry Answer GatewayState J R) :
    lastCaptured app requestId (past ++ [entry]) =
      ((capturedBy app entry).filter (·.requestId = requestId)).or
        (lastCaptured app requestId past) := by
  unfold lastCaptured
  rw [List.reverse_append, List.reverse_singleton, List.singleton_append, List.findSome?_cons]
  cases (capturedBy app entry).filter (·.requestId = requestId) <;> rfl

/-- Questions other than captures leave the store alone. -/
theorem Answers.debug_frame {q : Query} {a : Answer q} (h : Answers app s q a s')
    (hq : q.kind ≠ .debug) : s'.debugRecords = s.debugRecords := by
  unfold Answers at h
  cases q with
  | debugCapture requestId tenantId inputText outputText => exact absurd rfl hq
  | _ =>
      simp only [answer] at h
      first
        | rw [h]
        | rw [h.2]

theorem capturedBy_eq_none {entry : Entry Answer GatewayState J R}
    (h : ∀ event, entry.action = .did event → event.query.kind ≠ .debug) :
    capturedBy app entry = none := by
  unfold capturedBy
  split
  case h_1 haction => exact absurd rfl (h _ haction)
  case h_2 => rfl

/-- **The step.** -/
theorem OverGateway.captures (hM : OverGateway app M) {entry : Entry Answer GatewayState J R}
    (hvalid : M.Valid entry) (requestId : String) :
    entry.after.debugRecords.get? requestId =
      ((capturedBy app entry).filter (·.requestId = requestId)).or
        (entry.before.debugRecords.get? requestId) := by
  rcases hM.valid_cases hvalid with ⟨q, a, haction, hanswers⟩ | ⟨hnone, heq⟩
  · by_cases hq : q.kind = .debug
    · cases q with
      | debugCapture other tenantId inputText outputText =>
          obtain ⟨_, hafter⟩ := hanswers
          rw [hafter]
          by_cases hother : requestId = other
          · simp [capturedBy, haction, DebugRecords.capture, Option.filter, hother]
          · simp [capturedBy, haction, DebugRecords.capture, Option.filter, hother,
              Ne.symm hother]
      | _ => simp [Query.kind] at hq
    · have hcaptured : capturedBy app entry = none := capturedBy_eq_none fun event hevent => by
        rw [haction] at hevent
        cases hevent
        exact hq
      rw [hcaptured, hanswers.debug_frame hq]
      rfl
  · rw [capturedBy_eq_none fun event hevent => absurd hevent (hnone event), heq]
    rfl

/-- **The run.** The store holds the last record captured under each id. -/
theorem OverGateway.debugRecords_eq (hM : OverGateway app M)
    {log : List (Entry Answer GatewayState J R)} (hreplay : M.Replay s log s')
    (hempty : s.debugRecords = Dict.empty) (requestId : String) :
    s'.debugRecords.get? requestId = lastCaptured app requestId log := by
  let I (past : List (Entry Answer GatewayState J R)) (s : GatewayState) : Prop :=
    s.debugRecords.get? requestId = lastCaptured app requestId past
  apply (hreplay.invariant (I := I) _ _ _).1
  · show s.debugRecords.get? requestId = none
    rw [hempty]
    rfl
  · intro past s s₀ hI htime
    rw [hM.passes_eq] at htime
    obtain ⟨now, _, rfl⟩ := htime
    exact hI
  · intro past entry future _ hI hvalid
    show entry.after.debugRecords.get? requestId = _
    rw [hM.captures hvalid, lastCaptured_snoc]
    exact congrArg _ hI

/-- Tenants of this description capture nothing under the id. -/
def NoneUnder (app : App) (requestId : String) (who : String → Prop)
    (log : List (Entry Answer GatewayState J R)) : Prop :=
  ∀ entry ∈ log, ∀ record ∈ capturedBy app entry, who record.tenantId →
    record.requestId ≠ requestId

/-- After a capture, the last one under its id is the same if and only if there is
no other. -/
theorem lastCaptured_eq_iff {past later : List (Entry Answer GatewayState J R)}
    {capture : Entry Answer GatewayState J R} {record : DebugRecord}
    (hcapture : capturedBy app capture = some record)
    (hown : NoneUnder app record.requestId (· = record.tenantId) later) :
    lastCaptured app record.requestId (past ++ capture :: later) = some record ↔
      NoneUnder app record.requestId (· ≠ record.tenantId) later := by
  induction later using List.reverseRecOn with
  | nil => simp [lastCaptured_snoc, hcapture, NoneUnder]
  | append_singleton later entry ih =>
      have hearlier := ih fun other hmem => hown other (by simp [hmem])
      rw [← List.cons_append, ← List.append_assoc, lastCaptured_snoc]
      cases hentry : (capturedBy app entry).filter (·.requestId = record.requestId) with
      | none =>
          rw [Option.none_or, hearlier]
          constructor
          · intro hnone other hmem found hfound hwho
            rcases List.mem_append.mp hmem with hold | hnew
            · exact hnone other hold found hfound hwho
            · obtain rfl := List.mem_singleton.mp hnew
              have hfiltered := Option.filter_eq_none_iff.mp hentry found hfound
              simpa using hfiltered
          · exact fun hnone other hmem => hnone other (by simp [hmem])
      | some found =>
          obtain ⟨hfound, hid⟩ := Option.filter_eq_some_iff.mp hentry
          have hother : found.tenantId ≠ record.tenantId := fun heq =>
            hown entry (by simp) found hfound heq (by simpa using hid)
          constructor
          · intro heq
            cases heq
            exact absurd rfl hother
          · intro hnone
            exact absurd (by simpa using hid) (hnone entry (by simp) found hfound hother)

/-- Until its time is up a record is returned as long as it is there. -/
theorem DebugRecords.get_eq_some_iff {records : DebugRecords} {ttlS time : ℚ}
    {record : DebugRecord} (h : time < record.capturedAt + ttlS) :
    (records.get ttlS time requestId).1 = some record ↔ records.get? requestId = some record := by
  unfold DebugRecords.get
  cases hget : records.get? requestId with
  | none => simp
  | some found =>
      dsimp only
      split
      case isTrue hexpired =>
        simp only [reduceCtorEq, Option.some.injEq, false_iff]
        rintro rfl
        linarith
      case isFalse => rfl

end Store

/-! ## In runs -/

/-- Every request that carries an id is captured under that id. -/
def CapturedUnderHeader (app : App) (c : Process) : Prop :=
  ∀ entry ∈ c.log, ∀ record ∈ capturedBy app entry, ∀ thread request given,
    c.threads entry.tid = some thread → thread.job = .chat request →
    request.requestId.filter (· ≠ "") = some given → record.requestId = given

section Runs

variable {app : App} {c : Process} {now : ℚ} {policies : PolicyStore}

theorem capturedUnderHeader (h : (eventLoop app).Reachable (.fresh now policies) c) :
    CapturedUnderHeader app c := by
  intro entry hmem record hrecord thread request given hthread hjob hgiven
  unfold capturedBy at hrecord
  split at hrecord
  case h_1 haction =>
    obtain ⟨past, future, hlog⟩ := List.append_of_mem hmem
    obtain ⟨thread', hthread', hreaches⟩ := h.reaches_split hlog haction
    obtain rfl := Option.some.inj (hthread.symm.trans hthread')
    have honly : CapturesUnder given (thread.job.run app) := by
      rw [hjob]
      exact capturesUnder_job hgiven
    cases hrecord
    exact (honly.reaches hreaches).1 _ List.mem_append_cons_self
  case h_2 => cases hrecord

/-- **Whose captures last.** Requests are captured under the ids they carry, and a
record that its own tenant has not replaced is returned for its whole time if and
only if no other tenant's request was captured under its id since. -/
theorem debugCapture_kept_iff (h : (eventLoop app).Reachable (.fresh now policies) c)
    {past later : ProcessLog} {capture : Entry Answer GatewayState Job (Except Exn Unit)}
    {record : DebugRecord} (hlog : c.log = past ++ capture :: later)
    (hcapture : capturedBy app capture = some record)
    (hown : NoneUnder app record.requestId (· = record.tenantId) later) {ttlS time : ℚ}
    (htime : time < record.capturedAt + ttlS) :
    CapturedUnderHeader app c ∧
      ((c.state.debugRecords.get ttlS time record.requestId).1 = some record ↔
        NoneUnder app record.requestId (· ≠ record.tenantId) later) := by
  apply And.intro (capturedUnderHeader h)
  have hstore := (eventLoop_overGateway app).debugRecords_eq h.replay rfl record.requestId
  rw [DebugRecords.get_eq_some_iff htime, hstore, hlog]
  exact lastCaptured_eq_iff hcapture hown

end Runs

/-- A store with two tenants that opted in. -/
def twoCaptured : PolicyStore :=
  Dict.set (Dict.set Dict.empty "t" { tenantId := "t", debugCaptureEnabled := true }) "u"
    { tenantId := "u", debugCaptureEnabled := true }

/-- A request of the given tenant, answered. -/
def answeredTenant (tenantId : String) : (q : Query) → Answer q :=
  tenantWorld tenantId (servingWorld helloBody (.converse "" [] 0 zeroFloat))

/-- A plain application that keeps no response, so that digests do not matter. -/
def App.uncached : App := { App.oneKey with settings := { responseCacheMaxEntries := 0 } }

/-- A tenant's request is captured, then its neighbour's under the same id. -/
def sameId : Process :=
  (eventLoopDriver App.uncached).play (Machine.initial (.fresh 0 twoCaptured)) [
    { tid := 0, job := some (.chat operatorRequest), oracle := answeredTenant "t" },
    { tid := 0, oracle := answeredTenant "t" },
    { tid := 1, job := some (.chat operatorRequest), oracle := answeredTenant "u" },
    { tid := 1, oracle := answeredTenant "u" }]

theorem sameId_length : 24 < sameId.log.length := by decide +kernel

/-- The first of the two records. -/
def firstRecord : DebugRecord := ⟨"r", "t", "hi", "hello", 0⟩

theorem sameId_capture :
    capturedBy App.uncached (sameId.log.get ⟨24, sameId_length⟩) = some firstRecord := by
  decide +kernel

/-- Its tenant sends nothing else. -/
theorem sameId_own :
    NoneUnder App.uncached firstRecord.requestId (· = firstRecord.tenantId)
      (sameId.log.drop 25) := by
  unfold NoneUnder
  decide +kernel

/-- At once the first record is gone. -/
theorem capture_is_replaced : ∃ (c : Process) (past later : ProcessLog)
    (capture : Entry Answer GatewayState Job (Except Exn Unit)) (record : DebugRecord),
    (eventLoop App.uncached).Reachable (.fresh 0 twoCaptured) c ∧
      c.log = past ++ capture :: later ∧ capturedBy App.uncached capture = some record ∧
      NoneUnder App.uncached record.requestId (· = record.tenantId) later ∧
      c.state.now < record.capturedAt + 900 ∧
      (c.state.debugRecords.get 900 c.state.now record.requestId).1 ≠ some record :=
  ⟨sameId, _, _, _, firstRecord, Driver.play_reachable .., eq_take_append_one sameId_length,
    sameId_capture, sameId_own, by decide +kernel, by decide +kernel⟩

/-- In that run the neighbour's capture is what the first record's fate depends on. -/
theorem debugCapture_kept_iff_sameId :
    CapturedUnderHeader App.uncached sameId ∧
      ((sameId.state.debugRecords.get 900 1 "r").1 = some firstRecord ↔
        NoneUnder App.uncached "r" (· ≠ "t") (sameId.log.drop 25)) := by
  have hreach : (eventLoop App.uncached).Reachable (.fresh 0 twoCaptured) sameId :=
    Driver.play_reachable ..
  have hrecent : 1 < firstRecord.capturedAt + 900 := by decide +kernel
  exact debugCapture_kept_iff hreach (eq_take_append_one sameId_length) sameId_capture sameId_own
    hrecent

end BedrockGateway
