/-
# Guardrail decisions and the fail-closed rule

A check that completes decides. A check that cannot be completed is turned into
an exception, unless the tenant's guardrail policy is of the low-risk class and
the tenant has opted into being let through.
-/

import BedrockGateway.Auth.Identity
import BedrockGateway.Foundation.Program
import Mathlib.Data.List.Infix

namespace BedrockGateway

open Foundation

/-- `GuardrailAction` -/
inductive GuardrailAction
  | allow
  | block
  deriving DecidableEq

/-- `SafetyClass` -/
inductive SafetyClass
  | strict
  | standard
  | lowRisk
  deriving DecidableEq

/-- The value of the enumeration member. -/
def SafetyClass.value : SafetyClass → String
  | .strict => "STRICT"
  | .standard => "STANDARD"
  | .lowRisk => "LOW_RISK"

/-- `GuardrailDecision` -/
structure GuardrailDecision where
  action : GuardrailAction
  category : Option String := none
  reason : Option String := none
  deriving DecidableEq

/-- `needle in text` -/
def occursIn (needle text : String) : Bool := decide (needle.toList <:+: text.toList)

/-- `classify_safety` -/
def classifySafety (text : PyText) (guardrailPolicy : String) : SafetyClass :=
  let lowered := text.lower guardrailPolicy
  if occursIn "strict" lowered then .strict
  else if occursIn "low" lowered then .lowRisk
  else .standard

/-- Whether an incomplete check lets the text through. -/
def bypassesOnError (text : PyText) (guardrailPolicy : String) (allowBypassOnError : Bool) :
    Bool :=
  classifySafety text guardrailPolicy = .lowRisk && allowBypassOnError

variable {Q : Type} {A : Q → Type}

/-- `run_guardrail_check` -/
def runGuardrailCheck (text : PyText) (check : Fallible Q A Exn GuardrailDecision)
    (guardrailPolicy : String) (allowBypassOnError : Bool) :
    Fallible Q A Exn GuardrailDecision :=
  let safetyClass := classifySafety text guardrailPolicy
  Fallible.attempt check >>= fun
  | .ok decision => pure decision
  | .error (.guardrailCheck message) =>
      if bypassesOnError text guardrailPolicy allowBypassOnError then
        pure { action := .allow, reason := some s!"guardrail bypassed on error: {message}" }
      else
        throw (.guardrailUnavailable
          s!"guardrail check unavailable ({safetyClass.value}): {message}")
  | .error exn => throw exn

/-- What a completed `run_guardrail_check` has seen: the check's own decision, or
a failed check let through. -/
theorem runGuardrailCheck_ok {text : PyText} {check : Fallible Q A Exn GuardrailDecision}
    {guardrailPolicy : String} {allowBypassOnError : Bool} {trace : List (Event A)}
    {decision : GuardrailDecision}
    (h : Program.Exec (runGuardrailCheck text check guardrailPolicy allowBypassOnError).run
      trace (.ok decision)) :
    Program.Exec check.run trace (.ok decision) ∨
      ∃ message, Program.Exec check.run trace (.error (.guardrailCheck message)) ∧
        bypassesOnError text guardrailPolicy allowBypassOnError = true := by
  rcases Fallible.exec_bind_iff.mp h with
    ⟨exn, _, hexn⟩ | ⟨first, second, outcome, rfl, hcheck, hrest⟩
  · cases hexn
  · obtain ⟨outcome', hrun, heq⟩ := Fallible.exec_attempt_iff.mp hcheck
    cases heq
    cases outcome with
    | ok found =>
        obtain ⟨rfl, hfound⟩ := Fallible.exec_pure_iff.mp hrest
        cases hfound
        exact .inl (by simpa using hrun)
    | error exn =>
        cases exn with
        | guardrailCheck message =>
            by_cases hbypass : bypassesOnError text guardrailPolicy allowBypassOnError = true
            · simp only [if_pos hbypass] at hrest
              obtain ⟨rfl, _⟩ := Fallible.exec_pure_iff.mp hrest
              exact .inr ⟨message, by simpa using hrun, hbypass⟩
            · simp only [if_neg hbypass] at hrest
              obtain ⟨_, hraised⟩ := Fallible.exec_throw_iff.mp hrest
              cases hraised
        | _ =>
            obtain ⟨_, hraised⟩ := Fallible.exec_throw_iff.mp hrest
            cases hraised

end BedrockGateway
