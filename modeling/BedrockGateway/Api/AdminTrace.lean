/-
# The admin handler meets its obligations

A state change is asked for at most once in a request, for the tenant named in its
path, by a caller who holds the admin role and has sent a state. The snapshot is
evicted after a change that succeeded, and exactly then the answer is 200.
-/

import BedrockGateway.Api.ChatTrace

namespace BedrockGateway

open Foundation Py
open Fallible (Along.call Along.bind Along.attempt Along.bind_of_only)

/-- The state of the tenant has been changed. -/
def Changed (tenantId : String) (history : History) : Prop :=
  ∃ state updated, ⟨.storeSetState tenantId state, .ok updated⟩ ∈ history

/-- Neither a state change nor an eviction has been asked for. -/
def Untouched (history : History) : Prop := ∀ event ∈ history, event.query.kind ≠ .control

/-- A response with status 200 has been started. -/
def AnsweredOk (history : History) : Prop :=
  ∃ response headers answer, response.statusCode = 200 ∧
    ⟨.sendStart response headers, answer⟩ ∈ history

/-- What a state change rests on. -/
structure Entitled (app : App) (request : HttpRequest) (history : History) (state : TenantState) :
    Prop where
  authorized : ∃ identity, Ran (authenticate app request) history identity ∧
    identity.hasRole app.settings.adminRequiredRole = true
  requested : ∃ body, ⟨.requestJson, .ok body⟩ ∈ history ∧ requestedState body = some state

/-- What an admin request owes at each of its questions. -/
def AdminOwes (app : App) (request : HttpRequest) (tenantId : String) (history : History)
    (event : Event Answer) : Prop :=
  match event.query with
  | .storeSetState target state => target = tenantId ∧ Untouched history ∧
      Entitled app request history state
  | .snapshotInvalidate target => target = tenantId ∧ Changed tenantId history
  | .sendStart response _ => response.statusCode = 200 → Changed tenantId history ∧
      ⟨.snapshotInvalidate tenantId, ()⟩ ∈ history
  | q => q.among [.caller, .breaker, .client, .telemetry]

/-- What the handler hands back: 200 exactly after a change, and never a stream. -/
def AdminReturns (tenantId : String) (history : History) : Except Exn Response → Prop
  | .ok response => (Changed tenantId history → response.statusCode = 200) ∧
      (response.statusCode = 200 → Changed tenantId history ∧
        ⟨.snapshotInvalidate tenantId, ()⟩ ∈ history) ∧
      ∀ ctx source, response ≠ .stream ctx source
  | .error _ => ¬ Changed tenantId history

variable {app : App} {request : HttpRequest} {tenantId requestId : String} {history : History}

theorem AdminOwes.of_among {kinds : List QueryKind} {q : Query} (hq : q.among kinds)
    (hkinds : kinds ⊆ [.caller, .breaker, .client, .telemetry]) (history : History)
    (answer : Answer q) : AdminOwes app request tenantId history ⟨q, answer⟩ := by
  have hamong : q.among [.caller, .breaker, .client, .telemetry] := hkinds hq
  cases q <;> first | exact hamong | simp [Query.among, Query.kind] at hamong

theorem Untouched.append {trace : History} (h : Untouched history) {kinds : List QueryKind}
    (htrace : ∀ event ∈ trace, event.query.among kinds) (hkinds : .control ∉ kinds) :
    Untouched (history ++ trace) := by
  intro event hmem
  rcases List.mem_append.mp hmem with hold | hnew
  · exact h event hold
  · exact fun heq => hkinds (heq ▸ htrace event hnew)

theorem Untouched.unchanged (h : Untouched history) : ¬ Changed tenantId history := by
  rintro ⟨state, updated, hmem⟩
  exact h _ hmem rfl

/-- Only a state change changes the state. -/
theorem changed_append_iff {trace : History} {kinds : List QueryKind}
    (htrace : ∀ event ∈ trace, event.query.among kinds) (hkinds : .control ∉ kinds) :
    Changed tenantId (history ++ trace) ↔ Changed tenantId history := by
  refine ⟨?_, fun ⟨state, updated, hmem⟩ => ⟨state, updated, List.mem_append_left _ hmem⟩⟩
  rintro ⟨state, updated, hmem⟩
  rcases List.mem_append.mp hmem with hold | hnew
  · exact ⟨state, updated, hold⟩
  · exact absurd (htrace _ hnew) hkinds

/-- A rejection before anything was asked for. -/
theorem AdminReturns.rejection {status : ErrorStatus} {code message : String}
    (h : ¬ Changed tenantId history) :
    AdminReturns tenantId history (.ok (errorResponse status code message requestId)) := by
  refine ⟨fun hchanged => absurd hchanged h, fun hstatus => ?_, by simp [errorResponse]⟩
  have herror := status.isError
  have hcode : status.code = 200 := hstatus
  omega

/-- From the change itself on. -/
theorem applyState_along {identity : Identity} {state : TenantState} (hclean : Untouched history)
    (hentitled : Entitled app request history state) :
    Program.Along (AdminOwes app request tenantId) (AdminReturns tenantId)
      (applyState app requestId identity tenantId state).run history := by
  refine Along.call fun answer => ⟨⟨rfl, hclean, hentitled⟩, ?_⟩
  cases answer with
  | error exn =>
      have hfailed : ¬ Changed tenantId
          (history ++ [⟨.storeSetState tenantId state, .error exn⟩]) := by
        rintro ⟨state', updated, hmem⟩
        rcases List.mem_append.mp hmem with hold | hnew
        · exact hclean _ hold rfl
        · simp at hnew
      cases exn with
      | unknownTenant missing => exact AdminReturns.rejection hfailed
      | _ => exact hfailed
  | ok updated =>
      have hchanged : Changed tenantId
          (history ++ [⟨.storeSetState tenantId state, .ok updated⟩]) := ⟨state, updated, by simp⟩
      refine Along.call fun _ =>
        ⟨⟨rfl, hchanged⟩, Along.call fun _ => ⟨?_, fun _ => rfl, fun _ => ?_, by simp⟩⟩
      · exact AdminOwes.of_among (Query.among_kind _) (by simp [Query.kind]) _ _
      · exact ⟨⟨state, updated, by simp⟩, by simp⟩

/-- The caller of an admin request. -/
def CallerReturns (app : App) (request : HttpRequest) (history : History)
    (outcome : Except Exn Identity) : Prop :=
  Untouched history ∧ ∀ identity, outcome = .ok identity →
    Ran (authenticate app request) history identity ∧
      identity.hasRole app.settings.adminRequiredRole = true

theorem adminCaller_along (hclean : Untouched history) :
    Program.Along (AdminOwes app request tenantId) (CallerReturns app request)
      (do
        let identity ← authenticate app request
        let _ ← authorize identity app.settings.adminRequiredRole
        pure identity : Py Identity).run history := by
  refine Along.bind_of_only (asks_authenticate app request)
    (fun _ hq => AdminOwes.of_among hq (by simp)) (fun trace identity hcaller hmem => ?_)
    (fun trace exn _ hmem => ⟨hclean.append hmem (by decide), fun _ hok => nomatch hok⟩)
  have hcalled := hclean.append hmem (by decide)
  refine Along.bind_of_only (asks_authorize identity _)
    (fun _ hq => AdminOwes.of_among hq (by simp)) (fun _ _ hauthorized _ => ?_)
    (fun trace exn _ hmem => ⟨hcalled.append hmem (by simp), fun _ hok => nomatch hok⟩)
  obtain ⟨rfl, hrole⟩ := authorize_ok hauthorized
  rw [List.append_nil]
  refine ⟨hcalled, fun found hok => ?_⟩
  cases hok
  exact ⟨Ran.of_exec hcaller history, hrole⟩

/-- **The admin handler.** -/
theorem setTenantState_along (hclean : Untouched history) :
    Program.Along (AdminOwes app request tenantId) (AdminReturns tenantId)
      (setTenantState app request tenantId requestId).run history := by
  refine along_exceptPipeline (CallerReturns app request) (adminCaller_along hclean)
    (fun history identity hcaller => ?_)
    (fun history _ _ _ hcaller => AdminReturns.rejection hcaller.1.unchanged)
    (fun history exn hcaller _ => hcaller.1.unchanged)
  obtain ⟨hclean, hidentity⟩ := hcaller
  obtain ⟨hran, hrole⟩ := hidentity identity rfl
  refine Along.call fun answer => ⟨AdminOwes.of_among (Query.among_kind _)
    (by simp [Query.kind]) _ _, ?_⟩
  have hread : Untouched (history ++ [⟨.requestJson, answer⟩]) :=
    hclean.append (single_among _) (by simp [Query.kind])
  cases answer with
  | error exn =>
      cases exn with
      | cancelled => exact hread.unchanged
      | _ => exact AdminReturns.rejection hread.unchanged
  | ok body =>
      dsimp only
      split
      · exact AdminReturns.rejection hread.unchanged
      · rename_i state hstate
        exact applyState_along hread {
          authorized := ⟨identity, hran.append _, hrole⟩
          requested := ⟨body, by simp, hstate⟩ }

/-- The handler in its place: once a change has been made, a 200 is sent. -/
theorem setTenantState_serving (app : App) (request : HttpRequest) (tenantId : String) :
    Serving (AdminOwes app request tenantId) (AdminReturns tenantId)
      fun history => Changed tenantId history → AnsweredOk history where
  free _ hq := AdminOwes.of_among hq (by simp)
  keeps history trace outcome hreturns hmem := by
    have hchanged : Changed tenantId (history ++ trace) ↔ Changed tenantId history :=
      changed_append_iff hmem (by decide)
    cases outcome with
    | ok response =>
        exact ⟨fun h => hreturns.1 (hchanged.mp h), fun h =>
          ⟨hchanged.mpr (hreturns.2.1 h).1, List.mem_append_left _ (hreturns.2.1 h).2⟩,
          hreturns.2.2⟩
    | error exn => exact fun h => hreturns (hchanged.mp h)
  sends history response headers answer hreturns := by
    refine ⟨hreturns.2.1, fun hchanged => ⟨response, headers, answer, hreturns.1 ?_, by simp⟩⟩
    exact (changed_append_iff (single_among _) (by simp [Query.kind])).mp hchanged
  fails history exn requestId headers answer hreturns := by
    refine ⟨(AdminReturns.rejection hreturns).2.1, fun hchanged => absurd ?_ hreturns⟩
    exact (changed_append_iff (single_among _) (by simp [Query.kind])).mp hchanged
  cancelled _ hreturns hchanged := absurd hchanged hreturns
  lasts history trace hdone hmem hchanged := by
    obtain ⟨response, headers, answer, hstatus, hsent⟩ :=
      hdone ((changed_append_iff hmem (by decide)).mp hchanged)
    exact ⟨response, headers, answer, hstatus, List.mem_append_left _ hsent⟩
  pulls before ctx source _ _ _ _ hreturns _ := absurd rfl (hreturns.2.2 ctx source)

/-- **An admin request.** -/
theorem setTenantState_job (app : App) (request : HttpRequest) (tenantId : String) :
    Program.Along (AdminOwes app request tenantId)
      (fun history _ => Changed tenantId history → AnsweredOk history)
      ((Job.setTenantState request tenantId).run app).run [] := by
  refine (setTenantState_serving app request tenantId).along_serve fun _ history hmem =>
    setTenantState_along fun event hevent heq => ?_
  have hkind := hmem event hevent
  rw [Query.among, heq] at hkind
  exact absurd hkind (by decide)

/-- Every entry of an admin request has met its obligation. -/
theorem admin_meets {s : GatewayState} {c : Process} (h : (eventLoop app).Reachable s c)
    {past future : ProcessLog} {entry : Entry Answer GatewayState Job (Except Exn Unit)}
    {event : Event Answer} (hlog : c.log = past ++ entry :: future)
    (haction : entry.action = .did event) {thread : Thread Query Answer Job (Except Exn Unit)}
    (hthread : c.threads entry.tid = some thread)
    (hjob : thread.job = .setTenantState request tenantId) :
    AdminOwes app request tenantId (traceOf entry.tid past) event := by
  have halong : Program.Along (AdminOwes app request tenantId)
      (fun history _ => Changed tenantId history → AnsweredOk history)
      ((eventLoop app).program thread.job) [] := by
    rw [hjob]
    exact setTenantState_job app request tenantId
  exact h.meets hlog haction hthread halong

end BedrockGateway
