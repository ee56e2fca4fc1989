/-
# Exceptions and the authenticated caller

Every exception the gateway raises or lets through is one constructor here. An
exception of a collaborator that no clause of the gateway names is `other`: it
is caught by a bare `except Exception` and by nothing else.

An identity is built from the claims of a verified token, or from the grant an
IAM principal is mapped to, and from nothing the client can write into a header.
-/

import BedrockGateway.Foundation.Json

namespace BedrockGateway

open Foundation

/-- An HTTP status that reports an error. -/
structure ErrorStatus where
  code : ℕ
  isError : 400 ≤ code
  deriving DecidableEq

namespace ErrorStatus

abbrev badRequest : ErrorStatus := ⟨400, by decide⟩
abbrev unauthorized : ErrorStatus := ⟨401, by decide⟩
abbrev forbidden : ErrorStatus := ⟨403, by decide⟩
abbrev notFound : ErrorStatus := ⟨404, by decide⟩
abbrev tooManyRequests : ErrorStatus := ⟨429, by decide⟩
abbrev internalServerError : ErrorStatus := ⟨500, by decide⟩
abbrev badGateway : ErrorStatus := ⟨502, by decide⟩
abbrev serviceUnavailable : ErrorStatus := ⟨503, by decide⟩
abbrev gatewayTimeout : ErrorStatus := ⟨504, by decide⟩

end ErrorStatus

/-- The exceptions of the gateway and of its collaborators. -/
inductive Exn
  | /-- `AuthError` -/
    auth (message code : String)
  | /-- `AuthorizationError` -/
    authorization (message code : String)
  | /-- `UnknownTenantError` -/
    unknownTenant (tenantId : String)
  | /-- `PipelineError`, whose `status_code` is always an error's. -/
    pipeline (status : ErrorStatus) (code message : String)
  | /-- `GuardrailCheckError` -/
    guardrailCheck (message : String)
  | /-- `GuardrailUnavailableError` -/
    guardrailUnavailable (message : String)
  | /-- `BedrockInvocationError` -/
    bedrockInvocation (message code : String) (retryable : Bool)
  | /-- `AllRoutesUnavailableError` -/
    allRoutesUnavailable (routeSetName : Option String)
  | /-- `ValueError` -/
    valueError (message : String)
  | /-- `asyncio.CancelledError`, which no `except Exception` catches. -/
    cancelled
  | /-- Any other exception. -/
    other (message : String)
  deriving DecidableEq

/-- What the platform's string type provides: its `repr` and its case folding,
both driven by Unicode tables. -/
structure PyText where
  /-- `repr(s)` -/
  reprStr : String → String
  /-- `s.lower()` -/
  lower : String → String

/-- `f"{x!r}"` for an optional string. -/
def PyText.reprOption (text : PyText) : Option String → String
  | some s => text.reprStr s
  | none => "None"

/-- `str(exc)` -/
def Exn.str (text : PyText) : Exn → String
  | .auth message _ => message
  | .authorization message _ => message
  | .unknownTenant tenantId => s!"no policy configured for tenant_id={text.reprStr tenantId}"
  | .pipeline _ _ message => message
  | .guardrailCheck message => message
  | .guardrailUnavailable message => message
  | .bedrockInvocation message _ _ => message
  | .allRoutesUnavailable routeSetName =>
      s!"all candidate models are circuit-open for route_set={text.reprOption routeSetName}"
  | .valueError message => message
  | .cancelled => ""
  | .other message => message

/-- The claims of a verified token that the gateway reads. -/
structure Claims where
  sub : Option String
  tenantId : Option String
  applicationId : Option String
  roles : Option Json

/-- The verified caller. -/
structure Identity where
  sub : String
  tenantId : String
  applicationId : String
  roles : List String
  authType : String
  accountId : Option String
  deriving DecidableEq

/-- What an IAM principal is mapped to. -/
structure IamPrincipalGrant where
  tenantId : String
  applicationId : String
  roles : List String
  deriving DecidableEq

/-- `role in self.roles` -/
def Identity.hasRole (identity : Identity) (role : String) : Bool :=
  role ∈ identity.roles

/-- Whether a JSON value is true in a Boolean context. A number is false when all
its digits are zeros. -/
def truthy : Json → Bool
  | .null => false
  | .bool value => value
  | .num literal => literal.text.any fun c => c.isDigit && c != '0'
  | .str text => text != ""
  | .arr items => !items.isEmpty
  | .obj fields => !fields.isEmpty

/-- The strings of a list that holds nothing else. -/
def stringItems : List Json → Option (List String)
  | [] => some []
  | .str text :: items => (stringItems items).map (text :: ·)
  | _ :: _ => none

/-- `roles = claims.get("roles") or []`, which must be a list of strings. -/
def rolesOfClaim : Option Json → Option (List String)
  | none => some []
  | some claim =>
      if truthy claim then
        match claim with
        | .arr items => stringItems items
        | _ => none
      else some []

/-- An empty string counts as a missing claim. -/
def presentClaim (claim : Option String) : Option String :=
  claim.filter (· ≠ "")

/-- `identity_from_claims` -/
def identityFromClaims (claims : Claims) : Except Exn Identity :=
  match presentClaim claims.sub, presentClaim claims.tenantId,
      presentClaim claims.applicationId with
  | some sub, some tenantId, some applicationId =>
      match rolesOfClaim claims.roles with
      | some roles => .ok ⟨sub, tenantId, applicationId, roles, "jwt", none⟩
      | none => .error (.auth "token 'roles' claim must be a list of strings" "UNAUTHENTICATED")
  | sub, tenantId, applicationId =>
      let missing := [("sub", sub), ("tenant_id", tenantId), ("application_id", applicationId)]
        |>.filterMap fun claim => if claim.2.isNone then some claim.1 else none
      let names := ", ".intercalate missing
      .error (.auth s!"token is missing required claim(s): {names}" "UNAUTHENTICATED")

/-- `require_role` -/
def requireRole (identity : Identity) (role : String) : Except Exn Unit :=
  if identity.hasRole role then .ok ()
  else .error (.authorization s!"role '{role}' is required for this operation" "FORBIDDEN")

end BedrockGateway
