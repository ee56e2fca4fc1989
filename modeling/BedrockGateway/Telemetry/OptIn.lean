/-
# Debug capture is opt-in

A conversation is captured for a tenant whose policy says so. The policy a request
goes by is one it has resolved, and no change of state touches the opt-in, so a
record in the store belongs to a tenant that was loaded as one that opted in.
-/

import BedrockGateway.Api.CallBudget
import BedrockGateway.Telemetry.DebugCapture
import BedrockGateway.Telemetry.Redaction

namespace BedrockGateway

open Foundation Py
open Fallible (Along.call)

/-! ## What the handler captures -/

/-- A capture is for the tenant of the request, which has opted in. -/
def Query.capturesFor (a : Admitted) : Query → Prop
  | .debugCapture _ tenantId _ _ =>
      tenantId = a.identity.tenantId ∧ a.policy.debugCaptureEnabled = true
  | _ => True

theorem Query.Own.capturesFor {app : App} {a : Admitted} {q : Query} (h : q.Own app a) :
    q.capturesFor a := by
  cases h with
  | capture henabled => exact ⟨rfl, henabled⟩
  | @service q h =>
      cases q with
      | debugCapture requestId tenantId inputText outputText => simp [Query.among, Query.kind] at h
      | _ => trivial
  | _ => trivial

/-! ## The policy the request goes by -/

/-- A capture rests on a policy of its tenant that the request has resolved and that opts
in. -/
def OptedIn (history : History) (event : Event Answer) : Prop :=
  match event.query with
  | .debugCapture _ tenantId _ _ =>
      ∃ policy, Resolved history tenantId policy ∧ policy.debugCaptureEnabled = true
  | _ => True

section Walk

variable {app : App} {request : HttpRequest} {history : History}

theorem OptedIn.of_kind {q : Query} (h : q.kind ≠ .debug) (history : History)
    (answer : Answer q) : OptedIn history ⟨q, answer⟩ := by
  cases q with
  | debugCapture requestId tenantId inputText outputText => exact absurd rfl h
  | _ => trivial

theorem OptedIn.of_among {kinds : List QueryKind} (hkinds : .debug ∉ kinds) {q : Query}
    (hq : q.among kinds) (history : History) (answer : Answer q) : OptedIn history ⟨q, answer⟩ :=
  OptedIn.of_kind (fun hdebug => hkinds (hdebug ▸ hq)) history answer

/-- From the body on, the policy that was resolved decides. -/
theorem readBody_optedIn {a : Admitted}
    (hresolved : Resolved history a.identity.tenantId a.policy) :
    Program.Along OptedIn (fun _ _ => True) (readBody app a).run history := by
  have hwalk : Program.Along (fun _ event => event.query.capturesFor a) (fun _ _ => True)
      (readBody app a).run history :=
    (((owned_readBody a).along history).weaken fun _ _ h => h.capturesFor).mono
      fun _ _ _ => trivial
  refine ((hwalk.keeping (P := fun history => Resolved history a.identity.tenantId a.policy)
    (fun history event hP _ => ?_) hresolved).weaken fun history event hkept => ?_).mono
    fun _ _ _ => trivial
  · exact resolved_append_iff.mpr (.inl hP)
  · obtain ⟨hres, hcaptures⟩ := hkept
    obtain ⟨q, answer⟩ := event
    cases q with
    | debugCapture requestId tenantId inputText outputText =>
        obtain ⟨rfl, henabled⟩ := hcaptures
        exact ⟨a.policy, hres, henabled⟩
    | _ => trivial

theorem chat_optedIn {requestId : String} (hearly : Early history) :
    Program.Along OptedIn (fun _ _ => True) (chat app request requestId).run history := by
  have hfree : ∀ kinds, QueryKind.debug ∉ kinds → ∀ q : Query, q.among kinds →
      ∀ history (answer : Answer q), OptedIn history ⟨q, answer⟩ := fun _ hkinds _ hq =>
    OptedIn.of_among hkinds hq
  have hspan : ∀ attributes response history, Program.Along OptedIn (fun _ _ => True)
      (do
        let _ ← setSpan attributes
        pure response : Py Response).run history := fun _ _ _ =>
    Program.Along.of_only (asks_spanRejection ..) (hfree _ (by simp)) fun _ _ _ _ => trivial
  refine Along.call fun answer => ⟨OptedIn.of_kind (by simp [Query.kind]) _ _, ?_⟩
  have hspanned : Early (history ++ [⟨.setSpanAttributes _, answer⟩]) :=
    hearly.append (Early.of_among (single_among answer) (by simp [Query.kind]))
  refine along_exceptPipeline (GatesReturn app request) ?_ (fun history admitted hgates => ?_)
    (fun _ _ _ _ _ => hspan _ _ _) fun _ _ _ _ => trivial
  · exact Program.Along.of_only (asks_gates app request) (hfree _ (by simp))
      fun trace outcome hexec _ => (gates_along hspanned).exec hexec
  · have hresolved := (hgates requestId).isResolved
    refine Along.call fun answer => ⟨OptedIn.of_kind (by simp [Query.kind]) _ _, ?_⟩
    exact readBody_optedIn (resolved_append_iff.mpr (.inl hresolved))

/-- Around the handler nothing is captured. -/
theorem optedIn_serving : Serving OptedIn (fun _ _ => True) fun _ => True where
  free _ hq := OptedIn.of_among (by simp) hq
  keeps _ _ _ _ _ := trivial
  sends _ _ _ _ _ := ⟨trivial, trivial⟩
  fails _ _ _ _ _ _ := ⟨trivial, trivial⟩
  cancelled _ _ := trivial
  lasts _ _ _ _ := trivial
  pulls _ _ _ _ _ _ _ _ _ := trivial

theorem job_optedIn (job : Job) :
    Program.Along OptedIn (fun _ _ => True) ((eventLoop app).program job) [] := by
  cases job with
  | chat request =>
      exact optedIn_serving.along_serve fun _ _ hmem => chat_optedIn (Early.of_among hmem (by simp))
  | setTenantState request tenantId =>
      refine optedIn_serving.along_serve fun requestId history _ => ?_
      exact Program.Along.of_only (asks_setTenantState ..)
        (fun _ hq => OptedIn.of_among (by decide) hq) fun _ _ _ _ => trivial

end Walk

/-! ## In runs -/

section Runs

variable {app : App} {c : Process} {now : ℚ} {policies : PolicyStore}

/-- A capture is made for a tenant whose loaded policy opts in. -/
theorem optedIn_of_capture (h : (eventLoop app).Reachable (.fresh now policies) c)
    (hkeyed : policies.Keyed) {capture : Entry Answer GatewayState Job (Except Exn Unit)}
    (hmem : capture ∈ c.log) {record : DebugRecord}
    (hcaptured : capturedBy app capture = some record) :
    ∃ loaded, policies.get? record.tenantId = some loaded ∧
      loaded.debugCaptureEnabled = true := by
  unfold capturedBy at hcaptured
  split at hcaptured
  case h_1 haction =>
    cases hcaptured
    obtain ⟨past, future, hlog⟩ := List.append_of_mem hmem
    obtain ⟨thread, hthread⟩ := h.thread_of_mem hmem
    obtain ⟨policy, hresolved, henabled⟩ :=
      h.meets hlog haction hthread (job_optedIn thread.job)
    have hwithin : past ⊆ c.log := by
      rw [hlog]
      exact List.subset_append_left _ _
    -- a change of state leaves the opt-in as it was loaded
    obtain ⟨_, loaded, changes, hloaded, rfl⟩ := loaded_of_resolved h hkeyed hwithin hresolved
    exact ⟨loaded, hloaded, henabled⟩
  case h_2 => cases hcaptured

/-- **Captures are opted in and clean.** In every reachable configuration of a gateway that
has loaded its policies, a record in the store of debug captures is filed under its own
request id, belongs to a tenant whose loaded policy opts in, and shows no text with
personal data in it; whatever the kill switch did meanwhile. -/
theorem captures_opted_in {classes : CharClasses} (hredact : app.redact = redact classes)
    (h : (eventLoop app).Reachable (.fresh now policies) c) (hkeyed : policies.Keyed)
    {requestId : String} {record : DebugRecord}
    (hrecord : c.state.debugRecords.get? requestId = some record) :
    record.requestId = requestId ∧
    (∃ loaded, policies.get? record.tenantId = some loaded ∧ loaded.debugCaptureEnabled = true) ∧
    ∀ entry ∈ redactPatterns classes,
      Absent classes entry.1 record.redactedInput ∧
        Absent classes entry.1 record.redactedOutput := by
  have hstore := (eventLoop_overGateway app).debugRecords_eq h.replay rfl requestId
  rw [hstore, lastCaptured] at hrecord
  obtain ⟨capture, hmem, hlogged⟩ := List.exists_of_findSome?_eq_some hrecord
  obtain ⟨hcaptured, hid⟩ := Option.filter_eq_some_iff.mp hlogged
  have hmem := List.mem_reverse.mp hmem
  refine ⟨by simpa using hid, optedIn_of_capture h hkeyed hmem hcaptured, fun entry hentry => ?_⟩
  obtain ⟨inputText, outputText, hinput, houtput⟩ := capturedBy_redacted hcaptured
  rw [hinput, houtput, hredact]
  exact ⟨absent_redact inputText hentry, absent_redact outputText hentry⟩

end Runs

/-- An application that redacts texts in ASCII. -/
def App.redacting : App := { App.uncached with redact := BedrockGateway.redact .ascii }

/-- Two tenants, of which one has opted in. -/
def oneCaptured : PolicyStore :=
  Dict.set (Dict.set Dict.empty "t" { tenantId := "t", debugCaptureEnabled := true }) "u"
    { tenantId := "u" }

/-- An outside world with a caller of the given tenant who writes a mail address. -/
def mailingWorld (tenantId : String) : (q : Query) → Answer q
  | .requestJson => .ok (.obj [("messages", .arr [.obj [("role", .str "user"),
      ("content", .str "I am me@home.org")]])])
  | q => answeredTenant tenantId q

/-- Both tenants are answered, each under an id of its own. -/
def bothMailing : Process :=
  (eventLoopDriver App.redacting).play (Machine.initial (.fresh 0 oneCaptured)) [
    { tid := 0, job := some (.chat operatorRequest), oracle := mailingWorld "t" },
    { tid := 1, job := some (.chat { operatorRequest with requestId := some "s" }),
      oracle := mailingWorld "u" },
    { tid := 0, oracle := mailingWorld "t" },
    { tid := 1, oracle := mailingWorld "u" }]

/-- One conversation is captured, without the address. -/
theorem captures_opted_in_bothMailing :
    bothMailing.state.debugRecords.get? "s" = none ∧
    ∃ record, bothMailing.state.debugRecords.get? "r" = some record ∧
      (∃ loaded, oneCaptured.get? record.tenantId = some loaded ∧
        loaded.debugCaptureEnabled = true) ∧
      Absent .ascii BasicGuardrail.email record.redactedInput := by
  have hreach : (eventLoop App.redacting).Reachable (.fresh 0 oneCaptured) bothMailing :=
    Driver.play_reachable ..
  have hkeyed : oneCaptured.Keyed := by
    refine PolicyStore.Keyed.set ?_ rfl
    exact PolicyStore.Keyed.set PolicyStore.Keyed.empty rfl
  have hredact : App.redacting.redact = redact .ascii := rfl
  have hmail : (BasicGuardrail.email, "[REDACTED_EMAIL]") ∈ redactPatterns .ascii := by
    simp [redactPatterns]
  have hsome : (bothMailing.state.debugRecords.get? "r").isSome = true := by decide +kernel
  obtain ⟨record, hrecord⟩ := Option.isSome_iff_exists.mp hsome
  obtain ⟨_, hopted, habsent⟩ := captures_opted_in hredact hreach hkeyed hrecord
  exact ⟨by decide +kernel, record, hrecord, hopted, (habsent _ hmail).1⟩

end BedrockGateway
