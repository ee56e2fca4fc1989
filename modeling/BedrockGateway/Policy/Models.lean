/-
# Tenant policies and the policy store

A tenant's state is one of five, of which two are the kill switch. A policy is
immutable; the only way a stored policy changes at runtime is `set_state`, which
replaces the state and raises the epoch by one. Policies are loaded from a
configuration mapping, each under its own tenant id.
-/

import BedrockGateway.Auth.Identity
import BedrockGateway.Foundation.Dict
import Mathlib.Data.Rat.Defs

namespace BedrockGateway

open Foundation

/-- `TenantState` -/
inductive TenantState
  | active
  | throttled
  | readOnly
  | suspended
  | emergencyBlock
  deriving DecidableEq

/-- The value of the enumeration member. -/
def TenantState.value : TenantState → String
  | .active => "ACTIVE"
  | .throttled => "THROTTLED"
  | .readOnly => "READ_ONLY"
  | .suspended => "SUSPENDED"
  | .emergencyBlock => "EMERGENCY_BLOCK"

/-- The members in declaration order. -/
def TenantState.all : List TenantState :=
  [.active, .throttled, .readOnly, .suspended, .emergencyBlock]

/-- `TenantState(raw)`: look a member up by its value. -/
def TenantState.ofValue? (raw : String) : Option TenantState :=
  TenantState.all.find? fun state => state.value = raw

/-- A member is found under its own value, and only there. -/
theorem TenantState.ofValue?_eq_some_iff {raw : String} {state : TenantState} :
    TenantState.ofValue? raw = some state ↔ raw = state.value := by
  constructor
  · intro h
    have hvalue : state.value = raw := by simpa using List.find?_some h
    exact hvalue.symm
  · rintro rfl
    cases state <;> decide

/-- `BLOCKING_STATES` -/
def blockingStates : List TenantState := [.suspended, .emergencyBlock]

/-- `TenantSlo` -/
structure TenantSlo where
  p95LatencyMs : Option ℚ := none
  deriving DecidableEq

/-- `TenantPolicy` -/
structure TenantPolicy where
  tenantId : String
  state : TenantState := .active
  models : List String := []
  rpmLimit : ℤ := 60
  guardrailPolicy : String := "standard-v1"
  routeSet : Option String := none
  slo : TenantSlo := {}
  policyEpoch : ℤ := 1
  allowGuardrailBypassOnError : Bool := false
  debugCaptureEnabled : Bool := false
  deriving DecidableEq

/-- `policy.state in BLOCKING_STATES` -/
def TenantPolicy.blocked (policy : TenantPolicy) : Bool :=
  policy.state ∈ blockingStates

/-! ## The store -/

/-- `InMemoryPolicyStore._policies` -/
abbrev PolicyStore := Dict String TenantPolicy

namespace PolicyStore

/-- `InMemoryPolicyStore.get` -/
def get (store : PolicyStore) (tenantId : String) : Except Exn TenantPolicy :=
  match store.get? tenantId with
  | some policy => .ok policy
  | none => .error (.unknownTenant tenantId)

/-- `dataclasses.replace(current, state=state, policy_epoch=current.policy_epoch + 1)` -/
def withState (policy : TenantPolicy) (state : TenantState) : TenantPolicy :=
  { policy with state := state, policyEpoch := policy.policyEpoch + 1 }

/-- `InMemoryPolicyStore.set_state` -/
def setState (store : PolicyStore) (tenantId : String) (state : TenantState) :
    Except Exn TenantPolicy × PolicyStore :=
  match store.get tenantId with
  | .ok current =>
      let updated := withState current state
      (.ok updated, store.set tenantId updated)
  | .error exn => (.error exn, store)

theorem get_eq_ok_iff {store : PolicyStore} {tenantId : String} {policy : TenantPolicy} :
    store.get tenantId = .ok policy ↔ store.get? tenantId = some policy := by
  unfold get
  cases store.get? tenantId <;> simp

/-- What `set_state` can do: replace a stored policy, or leave the store alone
because there is none. -/
theorem setState_cases (store : PolicyStore) (tenantId : String) (state : TenantState) :
    (∃ current, store.get? tenantId = some current ∧
      store.setState tenantId state =
        (.ok (withState current state), store.set tenantId (withState current state))) ∨
    (store.get? tenantId = none ∧
      store.setState tenantId state = (.error (.unknownTenant tenantId), store)) := by
  cases h : store.get? tenantId with
  | some current => exact .inl ⟨current, rfl, by simp [setState, get, h]⟩
  | none => exact .inr ⟨rfl, by simp [setState, get, h]⟩

/-- Every policy is stored under its own tenant id. -/
def Keyed (store : PolicyStore) : Prop :=
  ∀ tenantId policy, store.get? tenantId = some policy → policy.tenantId = tenantId

theorem Keyed.empty : Keyed Dict.empty := by
  intro tenantId policy h
  simp at h

theorem Keyed.set {store : PolicyStore} (h : store.Keyed) {tenantId : String}
    {policy : TenantPolicy} (hid : policy.tenantId = tenantId) :
    Keyed (Dict.set store tenantId policy) := by
  intro other found hget
  rw [Dict.get?_set] at hget
  split at hget
  case isTrue heq =>
    cases hget
    exact hid.trans heq.symm
  case isFalse => exact h other found hget

theorem Keyed.setState {store : PolicyStore} (h : store.Keyed) (tenantId : String)
    (state : TenantState) : (store.setState tenantId state).2.Keyed := by
  rcases store.setState_cases tenantId state with ⟨current, hget, hset⟩ | ⟨_, hset⟩
  · rw [hset]
    exact h.set (h tenantId current hget)
  · rw [hset]
    exact h

end PolicyStore

/-! ## Loading -/

/-- One tenant's entry of the configuration mapping, as parsed. -/
structure TenantConfig where
  state : Option String := none
  models : List String := []
  rpmLimit : Option ℤ := none
  guardrailPolicy : Option String := none
  routeSet : Option String := none
  p95LatencyMs : Option ℚ := none
  policyEpoch : Option ℤ := none
  allowGuardrailBypassOnError : Bool := false
  debugCaptureEnabled : Bool := false

/-- The policy an entry describes; an unknown state is a `ValueError`. -/
def policyOfConfig (text : PyText) (tenantId : String) (cfg : TenantConfig) :
    Except Exn TenantPolicy :=
  let raw := cfg.state.getD "ACTIVE"
  match TenantState.ofValue? raw with
  | none => .error (.valueError s!"{text.reprStr raw} is not a valid TenantState")
  | some state => .ok {
      tenantId := tenantId
      state := state
      models := cfg.models
      rpmLimit := cfg.rpmLimit.getD 60
      guardrailPolicy := cfg.guardrailPolicy.getD "standard-v1"
      routeSet := cfg.routeSet
      slo := ⟨cfg.p95LatencyMs⟩
      policyEpoch := cfg.policyEpoch.getD 1
      allowGuardrailBypassOnError := cfg.allowGuardrailBypassOnError
      debugCaptureEnabled := cfg.debugCaptureEnabled }

/-- The loop of `load_policies_from_yaml` over the entries of the mapping. -/
def loadPolicies (text : PyText) (store : PolicyStore) :
    List (String × TenantConfig) → Except Exn PolicyStore
  | [] => .ok store
  | (tenantId, cfg) :: rest =>
      match policyOfConfig text tenantId cfg with
      | .ok policy => loadPolicies text (store.set tenantId policy) rest
      | .error exn => .error exn

/-- `load_policies_from_yaml`, from the parsed `tenants` mapping on. -/
def loadPoliciesFromYaml (text : PyText) (tenants : List (String × TenantConfig)) :
    Except Exn PolicyStore :=
  loadPolicies text Dict.empty tenants

theorem policyOfConfig_tenantId {text : PyText} {tenantId : String} {cfg : TenantConfig}
    {policy : TenantPolicy} (h : policyOfConfig text tenantId cfg = .ok policy) :
    policy.tenantId = tenantId := by
  simp only [policyOfConfig] at h
  split at h
  · cases h
  · cases h
    rfl

private theorem keyed_of_loadPolicies {text : PyText} {tenants : List (String × TenantConfig)}
    {start store : PolicyStore} (hstart : start.Keyed)
    (h : loadPolicies text start tenants = .ok store) : store.Keyed := by
  induction tenants generalizing start with
  | nil =>
      cases h
      exact hstart
  | cons entry rest ih =>
      rw [loadPolicies] at h
      cases hpolicy : policyOfConfig text entry.1 entry.2 with
      | error exn => simp [hpolicy] at h
      | ok policy =>
          simp only [hpolicy] at h
          exact ih (hstart.set (policyOfConfig_tenantId hpolicy)) h

/-- A loaded store holds every policy under its own tenant id. -/
theorem keyed_of_loadPoliciesFromYaml {text : PyText} {tenants : List (String × TenantConfig)}
    {store : PolicyStore} (h : loadPoliciesFromYaml text tenants = .ok store) : store.Keyed :=
  keyed_of_loadPolicies PolicyStore.Keyed.empty h

end BedrockGateway
