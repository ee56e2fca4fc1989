/-
# `PUT /v1/admin/tenants/{tenant_id}/state`

The kill switch's handler. The change to the store and the eviction of the
snapshot follow each other without an `await` in between.
-/

import BedrockGateway.Api.Routes

namespace BedrockGateway

open Foundation Py

/-- `body.get("state") if isinstance(body, dict) else None`, looked up among the
members of `TenantState`. -/
def requestedState : Json → Option TenantState
  | .obj fields =>
      match Json.field "state" fields with
      | some (.str raw) => TenantState.ofValue? raw
      | _ => none
  | _ => none

/-- The text for a state that is not one. -/
def invalidState : String :=
  "'state' must be one of ['ACTIVE', 'THROTTLED', 'READ_ONLY', 'SUSPENDED', 'EMERGENCY_BLOCK']"

/-- `set_tenant_state` from the change itself on. -/
def applyState (app : App) (requestId : String) (identity : Identity) (tenantId : String)
    (newState : TenantState) : Py Response := do
  let updated ← ask (.storeSetState tenantId newState)
  match updated with
  | .error (.unknownTenant tenantId) =>
      pure (errorResponse .notFound "TENANT_NOT_FOUND"
        ((Exn.unknownTenant tenantId).str app.text) requestId)
  | .error exn => throw exn
  | .ok updated => do
      let _ ← ask (.snapshotInvalidate tenantId)
      let _ ← ask (.log {
        logger := "gateway.admin", level := "INFO", message := "tenant state changed"
        requestId := some requestId
        fields := [("tenant_id", .str tenantId), ("actor", .str identity.sub),
          ("new_state", .str newState.value), ("policy_epoch", .int updated.policyEpoch)] })
      pure (.json 200 (.obj [("tenant_id", .str tenantId), ("state", .str updated.state.value),
        ("policy_epoch", .int updated.policyEpoch)]))

/-- `set_tenant_state` -/
def setTenantState (app : App) (request : HttpRequest) (tenantId requestId : String) :
    Py Response :=
  exceptPipeline
    (do
      let identity ← authenticate app request
      let _ ← authorize identity app.settings.adminRequiredRole
      pure identity)
    (fun status code message => pure (errorResponse status code message requestId))
    (fun identity => do
      let body ← ask .requestJson
      match body with
      | .error .cancelled => throw .cancelled
      | .error _ =>
          pure (errorResponse .badRequest "INVALID_JSON" "request body must be valid JSON"
            requestId)
      | .ok body =>
          match requestedState body with
          | none =>
              pure (errorResponse .badRequest "INVALID_REQUEST" invalidState requestId)
          | some newState => applyState app requestId identity tenantId newState)

end BedrockGateway
