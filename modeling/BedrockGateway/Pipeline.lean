/-
# The request pipeline

The stages a request goes through before a model is called, the router that calls it,
and the output check after. A stage either returns what the next one needs or raises;
every rejection a client can see is a `PipelineError`, made from the exception of a
collaborator by the stage that called it.
-/

import BedrockGateway.Environment

namespace BedrockGateway

open Foundation

/-- A piece of the gateway's code. -/
abbrev Py (α : Type) := Fallible Query Answer Exn α

namespace Py

/-- Ask one question. -/
abbrev ask (q : Query) : Py (Answer q) := Fallible.ask q

/-- The body of a `try` statement. -/
abbrev attempt {α : Type} (body : Py α) : Py (Except Exn α) := Fallible.attempt body

/-- Return a value or raise an exception that is at hand. -/
def settle {α : Type} : Except Exn α → Py α
  | .ok value => pure value
  | .error exn => throw exn

/-- `try: body except ...: raise ...`: replace an exception by another. -/
def translate {α : Type} (exnOf : Exn → Exn) (body : Py α) : Py α :=
  attempt body >>= fun
    | .ok value => pure value
    | .error exn => throw (exnOf exn)

theorem exec_settle {α : Type} {given outcome : Except Exn α} {trace : List (Event Answer)}
    (h : Program.Exec (settle given).run trace outcome) : trace = [] ∧ outcome = given := by
  cases given with
  | ok value => exact Fallible.exec_pure_iff.mp h
  | error exn => exact Fallible.exec_throw_iff.mp h

/-- A replaced exception was raised by the body; a value is the body's. -/
theorem exec_translate {α : Type} {exnOf : Exn → Exn} {body : Py α} {trace : List (Event Answer)}
    {outcome : Except Exn α} (h : Program.Exec (translate exnOf body).run trace outcome) :
    ∃ inner, Program.Exec body.run trace inner ∧ outcome = inner.mapError exnOf := by
  rcases Fallible.exec_bind_iff.mp h with
    ⟨exn, hraised, _⟩ | ⟨first, second, inner, rfl, hran, hend⟩
  · obtain ⟨inner, _, hok⟩ := Fallible.exec_attempt_iff.mp hraised
    cases hok
  · obtain ⟨inner', hbody, heq⟩ := Fallible.exec_attempt_iff.mp hran
    cases heq
    cases inner with
    | ok value =>
        obtain ⟨rfl, rfl⟩ := Fallible.exec_pure_iff.mp hend
        exact ⟨.ok value, by simpa using hbody, rfl⟩
    | error exn =>
        obtain ⟨rfl, rfl⟩ := Fallible.exec_throw_iff.mp hend
        exact ⟨.error exn, by simpa using hbody, rfl⟩

theorem exec_translate_ok {α : Type} {exnOf : Exn → Exn} {body : Py α}
    {trace : List (Event Answer)} {value : α}
    (h : Program.Exec (translate exnOf body).run trace (.ok value)) :
    Program.Exec body.run trace (.ok value) := by
  obtain ⟨inner, hbody, heq⟩ := exec_translate h
  cases inner with
  | ok found =>
      cases heq
      exact hbody
  | error exn => cases heq

end Py

open Py

/-! ## Authentication -/

/-- The characters `str.strip` removes. -/
def isSpace (c : Char) : Bool :=
  let n := c.toNat
  (9 ≤ n && n ≤ 13) || (28 ≤ n && n ≤ 32) || n == 133 || n == 160 || n == 5760 ||
    (8192 ≤ n && n ≤ 8202) || n == 8232 || n == 8233 || n == 8239 || n == 8287 || n == 12288

/-- `text.strip()` -/
def strip (text : List Char) : List Char :=
  ((text.dropWhile isSpace).reverse.dropWhile isSpace).reverse

/-- The token of an `Authorization` header, if there is one. -/
def bearerToken : Option String → Option String
  | none => none
  | some header =>
      if "Bearer ".toList.isPrefixOf header.toList then
        match strip (header.toList.drop 7) with
        | [] => none
        | token => some (String.ofList token)
      else none

/-- `authenticate_iam` -/
def authenticateIam (principalArn : String) (accountId : Option String) : Py Identity := do
  let grant ← translate
    (fun | .auth message code => .pipeline .forbidden code message | exn => exn)
    (ask (.resolvePrincipal principalArn) >>= settle)
  pure ⟨principalArn, grant.tenantId, grant.applicationId, grant.roles, "aws_iam", accountId⟩

/-- The bearer-token path of `authenticate`. -/
def authenticateToken (token : String) : Py Identity :=
  translate (fun | .auth message code => .pipeline .unauthorized code message | exn => exn) do
    let claims ← ask (.verifyToken token) >>= settle
    settle (identityFromClaims claims)

/-- `authenticate` -/
def authenticate (app : App) (request : HttpRequest) : Py Identity :=
  match request.principalArn.filter (· ≠ "") with
  | some principalArn =>
      if app.iamConfigured then authenticateIam principalArn request.accountId
      else
        throw (.pipeline .internalServerError "IAM_AUTH_NOT_CONFIGURED"
          "aws_iam auth is not configured")
  | none =>
      match bearerToken request.authorization with
      | some token => authenticateToken token
      | none => throw (.pipeline .unauthorized "UNAUTHENTICATED" "missing bearer token")

/-- `authorize` -/
def authorize (identity : Identity) (requiredRole : String) : Py Unit :=
  translate
    (fun | .authorization message code => .pipeline .forbidden code message | exn => exn)
    (settle (requireRole identity requiredRole))

theorem authorize_ok {identity : Identity} {requiredRole : String} {trace : List (Event Answer)}
    (h : Program.Exec (authorize identity requiredRole).run trace (.ok ())) :
    trace = [] ∧ identity.hasRole requiredRole = true := by
  have hran := exec_translate_ok h
  unfold requireRole at hran
  split at hran
  case isTrue hrole => exact ⟨(Fallible.exec_pure_iff.mp hran).1, hrole⟩
  case isFalse =>
    obtain ⟨_, hraised⟩ := Fallible.exec_throw_iff.mp hran
    cases hraised

/-! ## Policy -/

/-- `PolicySnapshotCache.get`: a lookup, and on a miss a fetch outside the lock
followed by the write-back. -/
def snapshotGet (tenantId : String) : Py TenantPolicy := do
  let found ← ask (.snapshotLookup tenantId)
  match found with
  | some policy => pure policy
  | none =>
      let policy ← ask (.storeGet tenantId) >>= settle
      let _ ← ask (.snapshotWriteBack tenantId policy)
      pure policy

/-- A `get` that returns has hit, or has missed, fetched and written back. -/
theorem snapshotGet_exec {tenantId : String} {trace : List (Event Answer)} {policy : TenantPolicy}
    (h : Program.Exec (snapshotGet tenantId).run trace (.ok policy)) :
    trace = [⟨.snapshotLookup tenantId, some policy⟩] ∨
      trace = [⟨.snapshotLookup tenantId, none⟩, ⟨.storeGet tenantId, .ok policy⟩,
        ⟨.snapshotWriteBack tenantId policy, ()⟩] := by
  obtain ⟨found, tail, rfl, hfound⟩ := Program.exec_ask_iff.mp h
  cases found with
  | some hit =>
      obtain ⟨rfl, hpolicy⟩ := Fallible.exec_pure_iff.mp hfound
      cases hpolicy
      exact .inl rfl
  | none =>
      obtain ⟨fetched, tail, rfl, hfetched⟩ := Program.exec_ask_iff.mp hfound
      cases fetched with
      | error exn =>
          obtain ⟨_, hraised⟩ := Program.exec_ret_iff.mp hfetched
          cases hraised
      | ok current =>
          obtain ⟨_, tail, rfl, hwritten⟩ := Program.exec_ask_iff.mp hfetched
          obtain ⟨rfl, hpolicy⟩ := Program.exec_ret_iff.mp hwritten
          cases hpolicy
          exact .inr rfl

/-- A `get` that raises has missed, and failed to fetch. -/
theorem snapshotGet_error {tenantId : String} {trace : List (Event Answer)} {exn : Exn}
    (h : Program.Exec (snapshotGet tenantId).run trace (.error exn)) :
    trace = [⟨.snapshotLookup tenantId, none⟩, ⟨.storeGet tenantId, .error exn⟩] := by
  obtain ⟨found, tail, rfl, hfound⟩ := Program.exec_ask_iff.mp h
  cases found with
  | some hit =>
      obtain ⟨_, hraised⟩ := Fallible.exec_pure_iff.mp hfound
      cases hraised
  | none =>
      obtain ⟨fetched, tail, rfl, hfetched⟩ := Program.exec_ask_iff.mp hfound
      cases fetched with
      | error raised =>
          obtain ⟨rfl, hraised⟩ := Program.exec_ret_iff.mp hfetched
          cases hraised
          rfl
      | ok current =>
          obtain ⟨_, tail, rfl, hwritten⟩ := Program.exec_ask_iff.mp hfetched
          obtain ⟨_, hraised⟩ := Program.exec_ret_iff.mp hwritten
          cases hraised

/-- `resolve_policy` -/
def resolvePolicy (app : App) (identity : Identity) : Py TenantPolicy :=
  translate
    (fun | .unknownTenant tenantId =>
            .pipeline .forbidden "TENANT_NOT_PROVISIONED"
              ((Exn.unknownTenant tenantId).str app.text)
         | exn => exn)
    (snapshotGet identity.tenantId)

/-- A resolved policy was a hit, or was fetched and written back. -/
theorem resolvePolicy_ok {app : App} {identity : Identity} {trace : List (Event Answer)}
    {policy : TenantPolicy}
    (h : Program.Exec (resolvePolicy app identity).run trace (.ok policy)) :
    trace = [⟨.snapshotLookup identity.tenantId, some policy⟩] ∨
      trace = [⟨.snapshotLookup identity.tenantId, none⟩,
        ⟨.storeGet identity.tenantId, .ok policy⟩,
        ⟨.snapshotWriteBack identity.tenantId policy, ()⟩] :=
  snapshotGet_exec (exec_translate_ok h)

/-- A failed resolution has missed, and fetched nothing. -/
theorem resolvePolicy_error {app : App} {identity : Identity} {trace : List (Event Answer)}
    {exn : Exn} (h : Program.Exec (resolvePolicy app identity).run trace (.error exn)) :
    ∃ raised, trace = [⟨.snapshotLookup identity.tenantId, none⟩,
      ⟨.storeGet identity.tenantId, .error raised⟩] := by
  obtain ⟨inner, hbody, heq⟩ := exec_translate h
  cases inner with
  | ok found => cases heq
  | error raised => exact ⟨raised, snapshotGet_error hbody⟩

/-- `enforce_kill_switch` -/
def enforceKillSwitch (policy : TenantPolicy) : Py Unit :=
  if policy.blocked then
    throw (.pipeline .forbidden "TENANT_BLOCKED"
      s!"tenant '{policy.tenantId}' is {policy.state.value}")
  else pure ()

/-- The kill switch lets a policy through that is not blocked, and answers 403 to the others. -/
theorem enforceKillSwitch_cases {policy : TenantPolicy} {trace : List (Event Answer)}
    {outcome : Except Exn Unit} (h : Program.Exec (enforceKillSwitch policy).run trace outcome) :
    trace = [] ∧ ((outcome = .ok () ∧ policy.blocked = false) ∨
      ∃ message, outcome = .error (.pipeline .forbidden "TENANT_BLOCKED" message)) := by
  unfold enforceKillSwitch at h
  split at h
  case isTrue =>
    obtain ⟨rfl, rfl⟩ := Fallible.exec_throw_iff.mp h
    exact ⟨rfl, .inr ⟨_, rfl⟩⟩
  case isFalse hblocked =>
    obtain ⟨rfl, rfl⟩ := Fallible.exec_pure_iff.mp h
    exact ⟨rfl, .inl ⟨rfl, Bool.eq_false_iff.mpr hblocked⟩⟩

/-- `_THROTTLE_FACTOR` -/
def throttleFactor : ℤ := 5

/-- The `effective_limit` of `enforce_rate_limit`. -/
def effectiveLimit (policy : TenantPolicy) : ℤ :=
  if policy.state = .throttled then max 1 (policy.rpmLimit / throttleFactor) else policy.rpmLimit

/-- `TokenBucketRateLimiter.allow`: the capacity, a reading of the clock, then the locked
part. -/
def rateLimiterAllow (tenantId : String) (rpmLimit : ℤ) : Py Bool :=
  if floatOverflow ≤ rpmLimit then throw (.other "int too large to convert to float")
  else do
    let now ← ask .clock
    ask (.bucketTake tenantId rpmLimit now)

/-- `enforce_rate_limit` -/
def enforceRateLimit (policy : TenantPolicy) : Py Unit := do
  let allowed ← rateLimiterAllow policy.tenantId (effectiveLimit policy)
  if allowed then pure ()
  else
    throw (.pipeline .tooManyRequests "QUOTA_EXCEEDED"
      s!"tenant '{policy.tenantId}' exceeded its rate limit")

/-- `enforce_model_allowlist` -/
def enforceModelAllowlist (policy : TenantPolicy) (requestedModel : Option String)
    (defaultModel : String) : Except Exn String :=
  match requestedModel with
  | some model =>
      if policy.models ≠ [] ∧ model ∉ policy.models then
        .error (.pipeline .forbidden "MODEL_NOT_ALLOWED"
          s!"model '{model}' is not in tenant '{policy.tenantId}' allowlist")
      else .ok model
  | none =>
      match policy.models with
      | model :: _ => .ok model
      | [] => .ok defaultModel

/-! ## Guardrails -/

/-- `_run_guardrail` -/
def runGuardrail (app : App) (policy : TenantPolicy) (check : Py GuardrailDecision) :
    Py GuardrailDecision :=
  translate
    (fun | .guardrailUnavailable message =>
            .pipeline .serviceUnavailable "AI_SAFETY_SERVICE_UNAVAILABLE" message
         | exn => exn)
    (runGuardrailCheck app.text check policy.guardrailPolicy policy.allowGuardrailBypassOnError)

/-- Reject a completed check that says no. -/
def rejectBlock (status : ErrorStatus) (code fallback : String) (decision : GuardrailDecision) :
    Py GuardrailDecision :=
  if decision.action = .block then
    throw (.pipeline status code (decision.reason.filter (· ≠ "") |>.getD fallback))
  else pure decision

/-- What a guardrail that let a text through has seen: a check that allowed it, or
a failed check that may be bypassed. -/
theorem guardrail_ok {app : App} {policy : TenantPolicy} {check : Py GuardrailDecision}
    {status : ErrorStatus} {code fallback : String} {trace : List (Event Answer)}
    {decision : GuardrailDecision}
    (h : Program.Exec (runGuardrail app policy check >>= rejectBlock status code fallback).run trace
      (.ok decision)) :
    (decision.action = .allow ∧ Program.Exec check.run trace (.ok decision)) ∨
      ∃ message, Program.Exec check.run trace (.error (.guardrailCheck message)) ∧
        bypassesOnError app.text policy.guardrailPolicy policy.allowGuardrailBypassOnError =
          true := by
  rcases Fallible.exec_bind_iff.mp h with
    ⟨exn, _, hexn⟩ | ⟨first, second, found, rfl, hrun, hreject⟩
  · cases hexn
  · unfold rejectBlock at hreject
    split at hreject
    case isTrue =>
      obtain ⟨_, hraised⟩ := Fallible.exec_throw_iff.mp hreject
      cases hraised
    case isFalse hallowed =>
      obtain ⟨rfl, hfound⟩ := Fallible.exec_pure_iff.mp hreject
      cases hfound
      rw [List.append_nil]
      refine (runGuardrailCheck_ok (exec_translate_ok hrun)).imp_left fun hcheck => ⟨?_, hcheck⟩
      cases haction : decision.action with
      | allow => rfl
      | block => exact absurd haction hallowed

/-- `check_input_guardrail` -/
def checkInputGuardrail (app : App) (policy : TenantPolicy) (text : String) :
    Py GuardrailDecision :=
  runGuardrail app policy (ask (.checkInput text policy.guardrailPolicy) >>= settle) >>=
    rejectBlock .badRequest "INPUT_BLOCKED" "input blocked by guardrail"

/-- `check_output_guardrail` -/
def checkOutputGuardrail (app : App) (policy : TenantPolicy) (text : String) :
    Py GuardrailDecision :=
  runGuardrail app policy (ask (.checkOutput text policy.guardrailPolicy) >>= settle) >>=
    rejectBlock .badGateway "OUTPUT_BLOCKED" "output blocked by guardrail"

/-! ## The certified router

The candidates are tried in order, skipping those whose breaker refuses. The first
result is returned; a failed call is recorded and the next candidate tried; any other
exception ends the loop. When the candidates are exhausted the last failure is raised,
or, if no call was made at all, the exception that says so.
-/

/-- `RoutedResult` -/
structure RoutedResult where
  result : ConverseResult
  modelId : String
  fallback : Bool
  deriving DecidableEq

/-- What a call of a model is about. -/
structure Conversation where
  messages : List BedrockChatMessage
  maxTokens : ℤ
  temperature : PyFloat

/-- The loop of `CertifiedRouter.converse` over the remaining candidates. -/
def tryCandidates (routeSetName : Option String) (conversation : Conversation) :
    (index : ℕ) → (lastError : Option Exn) → List String → Py RoutedResult
  | _, lastError, [] => throw (lastError.getD (.allRoutesUnavailable routeSetName))
  | index, lastError, modelId :: rest => do
      if ← ask (.breakerAllow modelId) then
        match ← ask (.converse modelId conversation.messages conversation.maxTokens
            conversation.temperature) with
        | .ok result =>
            let _ ← ask (.recordSuccess modelId)
            pure ⟨result, modelId, 0 < index⟩
        | .error (.bedrockInvocation message code retryable) =>
            let _ ← ask (.recordFailure modelId)
            tryCandidates routeSetName conversation (index + 1)
              (some (.bedrockInvocation message code retryable)) rest
        | .error exn => throw exn
      else tryCandidates routeSetName conversation (index + 1) lastError rest

/-- `CertifiedRouter.converse` -/
def routerConverse (app : App) (primaryModelId : String) (routeSetName : Option String)
    (conversation : Conversation) : Py RoutedResult :=
  tryCandidates routeSetName conversation 0 none
    (app.routeSets.candidates primaryModelId routeSetName)

end BedrockGateway
