/-
# Which guardrail policies fail closed

The class of a guardrail policy is read off its id: `…-strict`, `…-lowrisk`, or
neither. The code looks for substrings where the convention speaks of components,
so an id like `yellow-v1` is of the low-risk class by accident. A check that cannot
be completed is a 503 exactly where that class, or the tenant's opt-in, is missing.
-/

import BedrockGateway.Api.Serving

namespace BedrockGateway

open Foundation Py

/-- The low-risk class by convention: one of the id's components names it. -/
def CarriesLow (text : PyText) (guardrailPolicy : String) : Prop :=
  ∃ component ∈ (text.lower guardrailPolicy).toList.splitOn '-',
    component = "low".toList ∨ component = "lowrisk".toList

instance (text : PyText) (guardrailPolicy : String) : Decidable (CarriesLow text guardrailPolicy) :=
  inferInstanceAs (Decidable (∃ component ∈ _, _))

/-! ## A guardrail stage, read as its check -/

/-- What a guardrail stage makes of the answer to its check. -/
def verdict (app : App) (policy : TenantPolicy) (status : ErrorStatus) (code fallback : String) :
    Except Exn GuardrailDecision → Except Exn GuardrailDecision
  | .ok decision =>
      if decision.action = .block then
        .error (.pipeline status code (decision.reason.filter (· ≠ "") |>.getD fallback))
      else .ok decision
  | .error (.guardrailCheck message) =>
      if bypassesOnError app.text policy.guardrailPolicy policy.allowGuardrailBypassOnError then
        .ok { action := .allow, reason := some s!"guardrail bypassed on error: {message}" }
      else .error (unavailable app policy message)
  | .error (.guardrailUnavailable message) =>
      .error (.pipeline .serviceUnavailable "AI_SAFETY_SERVICE_UNAVAILABLE" message)
  | .error exn => .error exn
where
  unavailable (app : App) (policy : TenantPolicy) (message : String) : Exn :=
    let classification := (classifySafety app.text policy.guardrailPolicy).value
    .pipeline .serviceUnavailable "AI_SAFETY_SERVICE_UNAVAILABLE"
      s!"guardrail check unavailable ({classification}): {message}"

/-- What the stage does once its check has been answered. -/
private theorem guardrail_settled (app : App) (policy : TenantPolicy) (status : ErrorStatus)
    (code fallback : String) (found : Except Exn GuardrailDecision) :
    (runGuardrail app policy (settle found) >>= rejectBlock status code fallback).run =
      .ret (verdict app policy status code fallback found) := by
  cases found with
  | ok decision =>
      show (rejectBlock status code fallback decision).run = _
      cases haction : decision.action with
      | allow =>
          simp only [rejectBlock, verdict, haction, reduceCtorEq, if_false]
          rfl
      | block =>
          simp only [rejectBlock, verdict, haction, if_true]
          rfl
  | error exn =>
      cases exn with
      | guardrailCheck message =>
          unfold runGuardrail runGuardrailCheck verdict
          cases hb : bypassesOnError app.text policy.guardrailPolicy
            policy.allowGuardrailBypassOnError <;> rfl
      | _ => rfl

theorem checkInputGuardrail_run (app : App) (policy : TenantPolicy) (text : String) :
    (checkInputGuardrail app policy text).run =
      .ask (.checkInput text policy.guardrailPolicy) fun answer => .ret
        (verdict app policy .badRequest "INPUT_BLOCKED" "input blocked by guardrail" answer) := by
  show Program.ask _ _ = _
  congr 1
  funext answer
  exact guardrail_settled app policy _ _ _ answer

theorem checkOutputGuardrail_run (app : App) (policy : TenantPolicy) (text : String) :
    (checkOutputGuardrail app policy text).run =
      .ask (.checkOutput text policy.guardrailPolicy) fun answer => .ret
        (verdict app policy .badGateway "OUTPUT_BLOCKED" "output blocked by guardrail" answer) := by
  show Program.ask _ _ = _
  congr 1
  funext answer
  exact guardrail_settled app policy _ _ _ answer

theorem exceptPipeline_run {α β : Type} (body : Py α)
    (rejected : ErrorStatus → String → String → Py β) (next : α → Py β) :
    (exceptPipeline body rejected next).run = body.run.bind fun
      | .ok value => (next value).run
      | .error (.pipeline status code message) => (rejected status code message).run
      | .error exn => .ret (.error exn) := by
  unfold exceptPipeline
  rw [Fallible.run_attempt_bind]
  congr 1

/-- A stage whose check is answered so that it raises a rejection is rejected. -/
private theorem rejected_of_exec {α β : Type} {body : Py α} {q : Query}
    {found : Answer q → Except Exn α} (hbody : body.run = .ask q fun answer => .ret (found answer))
    {rejected : ErrorStatus → String → String → Py β} {next : α → Py β} {answer : Answer q}
    {status : ErrorStatus} {code message : String}
    (hfound : found answer = .error (.pipeline status code message)) {trace : History}
    {outcome : Except Exn β}
    (h : Program.Exec (exceptPipeline body rejected next).run (⟨q, answer⟩ :: trace) outcome) :
    Program.Exec (rejected status code message).run trace outcome := by
  rw [exceptPipeline_run, hbody] at h
  obtain ⟨_, _, heq, hrest⟩ := Program.exec_ask_iff.mp h
  cases heq
  simpa only [Program.bind, hfound] using hrest

/-! ## The fail-closed rule -/

/-- A check that cannot be completed is a 503, before any model is called and before
any completion is returned. -/
structure FailsClosed (app : App) (policy : TenantPolicy) (text : String) : Prop where
  input : ∀ message, Program.Exec (checkInputGuardrail app policy text).run
    [⟨.checkInput text policy.guardrailPolicy, .error (.guardrailCheck message)⟩]
    (.error (verdict.unavailable app policy message))
  output : ∀ message, Program.Exec (checkOutputGuardrail app policy text).run
    [⟨.checkOutput text policy.guardrailPolicy, .error (.guardrailCheck message)⟩]
    (.error (verdict.unavailable app policy message))
  notCalled : ∀ (a : Accepted) (message : String) (span start : Event Answer) (trace : History)
    (outcome : Except Exn Response), a.policy = policy → a.combinedInputText = text →
    Program.Exec (screenInput app a).run (span :: start ::
      ⟨.checkInput text policy.guardrailPolicy, .error (.guardrailCheck message)⟩ :: trace)
      outcome →
    (∀ event ∈ trace, event.query.among [.telemetry]) ∧
      ∃ detail, outcome = .ok (errorResponse .serviceUnavailable "AI_SAFETY_SERVICE_UNAVAILABLE"
        detail a.requestId)
  notReturned : ∀ (s : Screened) (routed : RoutedResult) (cacheKey message : String)
    (start : Event Answer) (trace : History) (outcome : Except Exn Response),
    s.policy = policy → routed.result.text = text →
    Program.Exec (screenOutput app s cacheKey routed).run (start ::
      ⟨.checkOutput text policy.guardrailPolicy, .error (.guardrailCheck message)⟩ :: trace)
      outcome →
    (∀ event ∈ trace, event.query.among [.telemetry]) ∧
      ∃ detail, outcome = .ok (errorResponse .serviceUnavailable "AI_SAFETY_SERVICE_UNAVAILABLE"
        detail s.requestId)

/-- What a rejection by a guardrail asks and answers. -/
private theorem guardrailRejection_exec {a : Admitted} {modelId : String} {spanModel : Fields}
    {guardrailMs : ℚ} {status : ErrorStatus} {code message : String} {trace : History}
    {outcome : Except Exn Response}
    (h : Program.Exec
      (guardrailRejection a modelId spanModel guardrailMs status code message).run trace outcome) :
    (∀ event ∈ trace, event.query.among [.telemetry]) ∧
      outcome = .ok (errorResponse status code message a.requestId) := by
  refine ⟨((asks_guardrailRejection ..).reaches h).1, ?_⟩
  obtain ⟨_, _, _, hlog⟩ := Program.exec_ask_iff.mp h
  obtain ⟨_, _, _, hend⟩ := Program.exec_ask_iff.mp hlog
  exact (Program.exec_ret_iff.mp hend).2

/-- An incomplete check that is not bypassed is a 503. -/
private theorem verdict_unavailable {app : App} {policy : TenantPolicy} {status : ErrorStatus}
    {code fallback message : String}
    (h : bypassesOnError app.text policy.guardrailPolicy policy.allowGuardrailBypassOnError =
      false) :
    verdict app policy status code fallback (.error (.guardrailCheck message)) =
      .error (verdict.unavailable app policy message) := by
  simp only [verdict, h, Bool.false_eq_true, if_false]

/-- A rejection for an incomplete check is a 503 that asks nothing of consequence. -/
private theorem unavailable_answer {a : Admitted} {modelId : String} {spanModel : Fields}
    {guardrailMs : ℚ → ℚ} {message : String} {trace : History} {outcome : Except Exn Response}
    (h : Program.Exec (do
      let stop ← ask .perfCounter
      guardrailRejection a modelId spanModel (guardrailMs stop) .serviceUnavailable
        "AI_SAFETY_SERVICE_UNAVAILABLE" message : Py Response).run trace outcome) :
    (∀ event ∈ trace, event.query.among [.telemetry]) ∧
      ∃ detail, outcome = .ok (errorResponse .serviceUnavailable "AI_SAFETY_SERVICE_UNAVAILABLE"
        detail a.requestId) := by
  obtain ⟨stop, tail, rfl, hrejection⟩ := Program.exec_ask_iff.mp h
  obtain ⟨htail, rfl⟩ := guardrailRejection_exec hrejection
  refine ⟨fun event hmem => ?_, message, rfl⟩
  rcases List.mem_cons.mp hmem with rfl | hrest
  · exact Query.among_kind _
  · exact htail event hrest

/-- Without a bypass, everything fails closed. -/
theorem failsClosed_of_bypasses {app : App} {policy : TenantPolicy}
    (h : bypassesOnError app.text policy.guardrailPolicy policy.allowGuardrailBypassOnError =
      false) (text : String) : FailsClosed app policy text where
  input message := by
    rw [checkInputGuardrail_run, ← verdict_unavailable h]
    exact .step _ (.refl _)
  output message := by
    rw [checkOutputGuardrail_run, ← verdict_unavailable h]
    exact .step _ (.refl _)
  notCalled a message span start trace outcome hpolicy htext hexec := by
    subst hpolicy htext
    obtain ⟨_, _, heq, hstart⟩ := Program.exec_ask_iff.mp hexec
    cases heq
    obtain ⟨_, _, heq, hscreen⟩ := Program.exec_ask_iff.mp hstart
    cases heq
    have hrejected := rejected_of_exec (checkInputGuardrail_run app a.policy a.combinedInputText)
      (verdict_unavailable h) hscreen
    exact unavailable_answer hrejected
  notReturned s routed cacheKey message start trace outcome hpolicy htext hexec := by
    subst hpolicy htext
    obtain ⟨_, _, heq, hscreen⟩ := Program.exec_ask_iff.mp hexec
    cases heq
    have hrejected := rejected_of_exec
      (checkOutputGuardrail_run app s.policy routed.result.text) (verdict_unavailable h) hscreen
    exact unavailable_answer hrejected

/-- With a bypass, nothing does: the stage goes on where it should raise. -/
theorem not_failsClosed_of_bypasses {app : App} {policy : TenantPolicy}
    (h : bypassesOnError app.text policy.guardrailPolicy policy.allowGuardrailBypassOnError = true)
    (text : String) : ¬ FailsClosed app policy text := by
  intro hcloses
  have hraised := hcloses.input ""
  rw [checkInputGuardrail_run] at hraised
  obtain ⟨_, _, heq, hend⟩ := Program.exec_ask_iff.mp hraised
  cases heq
  have hverdict := (Program.exec_ret_iff.mp hend).2
  simp only [verdict, h, if_true] at hverdict
  cases hverdict

/-- **Fail-closed, by the convention and by the code**: the ids outside the low-risk
convention fail closed exactly where the code finds them strict, finds no `low` in
them, or the tenant has not opted in. -/
theorem failsClosed_iff (app : App) (policy : TenantPolicy) :
    (¬ CarriesLow app.text policy.guardrailPolicy → ∀ text, FailsClosed app policy text) ↔
      CarriesLow app.text policy.guardrailPolicy ∨ policy.allowGuardrailBypassOnError = false ∨
        occursIn "strict" (app.text.lower policy.guardrailPolicy) = true ∨
        occursIn "low" (app.text.lower policy.guardrailPolicy) = false := by
  constructor
  · intro hmeets
    by_contra hcondition
    simp only [not_or, Bool.not_eq_true, Bool.not_eq_false] at hcondition
    obtain ⟨hcarries, hoptin, hstrict, hlow⟩ := hcondition
    have hbypass : bypassesOnError app.text policy.guardrailPolicy
        policy.allowGuardrailBypassOnError = true := by
      simp [bypassesOnError, classifySafety, hstrict, hlow, hoptin]
    exact not_failsClosed_of_bypasses hbypass "" (hmeets hcarries "")
  · intro hcondition hcarries text
    apply failsClosed_of_bypasses
    rcases hcondition with hlow | hoptin | hstrict | hlow
    · exact absurd hlow hcarries
    · simp [bypassesOnError, hoptin]
    · simp [bypassesOnError, classifySafety, hstrict]
    · cases hstrict : occursIn "strict" (app.text.lower policy.guardrailPolicy) <;>
        simp [bypassesOnError, classifySafety, hstrict, hlow]

/-- An opted-in tenant under `yellow-v1`, which no convention calls low-risk. -/
def yellowPolicy : TenantPolicy :=
  { tenantId := "t", guardrailPolicy := "yellow-v1", allowGuardrailBypassOnError := true }

/-- Its checks are bypassed when they cannot be completed. -/
theorem yellow_is_bypassed :
    ¬ (¬ CarriesLow App.plain.text yellowPolicy.guardrailPolicy →
      ∀ text, FailsClosed App.plain yellowPolicy text) := by
  intro hmeets
  have hcarries : ¬ CarriesLow App.plain.text yellowPolicy.guardrailPolicy := by decide +kernel
  have hbypass : bypassesOnError App.plain.text yellowPolicy.guardrailPolicy
      yellowPolicy.allowGuardrailBypassOnError = true := by decide +kernel
  exact not_failsClosed_of_bypasses hbypass "hello" (hmeets hcarries "hello")

end BedrockGateway
