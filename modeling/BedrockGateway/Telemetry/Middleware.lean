/-
# Around a handler

The request id is the client's if it sent one. The middleware logs one access
line for every request and stamps the id on the response; an exception a handler
lets through becomes the same opaque 500 for every route, unless a response is
already under way, and is raised again.
-/

import BedrockGateway.Api.AdminRoutes

namespace BedrockGateway

open Foundation Py

/-- `request.headers.get("x-request-id") or str(uuid.uuid4())` -/
def requestIdOf (request : HttpRequest) : Py String :=
  match request.requestId.filter (· ≠ "") with
  | some requestId => pure requestId
  | none => ask .newUuid

/-- The access line of `RequestContextMiddleware.dispatch`. -/
def accessLog (request : HttpRequest) (requestId : String) (start : ℚ) (statusCode : ℕ) :
    Py Unit := do
  let stop ← ask .perfCounter
  ask (.log {
    logger := "gateway.access", level := "INFO", message := "request completed"
    requestId := some requestId
    fields := [("method", .str request.method), ("path", .str request.path),
      ("status", .int statusCode), ("duration_ms", .num (elapsedMs start stop))] })

/-- The headers of a response, those of `headers` included. -/
def responseHeaders (headers : List (String × String)) : Response → List (String × String)
  | .json _ _ => ("content-type", "application/json") :: headers
  | .stream _ _ => ("content-type", "text/event-stream") :: ("cache-control", "no-cache") :: headers

/-- Start a response and send its body. -/
def sendResponse (headers : List (String × String)) (response : Response) : Py Unit := do
  let _ ← ask (.sendStart response (responseHeaders headers response)) >>= settle
  match response with
  | .json _ content => ask (.sendBody (.json content)) >>= settle
  | .stream ctx source => do
      let _ ← streamChatResponse ctx source
      sendText ""

/-- The response of `unhandled_error`, unless one is under way. -/
def sendUnlessStarted (requestId : String) (responseStarted : Bool) : Py Unit :=
  if responseStarted then pure ()
  else
    sendResponse []
      (errorResponse .internalServerError "INTERNAL_ERROR" "internal error" requestId)

/-- `unhandled_error`, and the exception again. -/
def unhandledError (app : App) (request : HttpRequest) (requestId : String)
    (responseStarted : Bool) : Exn → Py Unit
  | .cancelled => throw .cancelled
  | exn => do
      let _ ← ask (.log {
        logger := "gateway.main", level := "ERROR", message := "unhandled exception"
        requestId := some requestId, error := some (exn.str app.text)
        fields := [("path", .str request.path)] })
      let _ ← sendUnlessStarted requestId responseStarted
      throw exn

/-- `RequestContextMiddleware.dispatch` around a handler, then the response. -/
def serve (app : App) (request : HttpRequest) (handler : String → Py Response) : Py Unit := do
  let requestId ← requestIdOf request
  let start ← ask .perfCounter
  let outcome ← attempt (handler requestId)
  match outcome with
  | .error exn => do
      let _ ← accessLog request requestId start 500
      unhandledError app request requestId false exn
  | .ok response => do
      let _ ← accessLog request requestId start response.statusCode
      let sent ← attempt (sendResponse [("x-request-id", requestId)] response)
      match sent with
      | .error exn => unhandledError app request requestId true exn
      | .ok _ => pure ()

end BedrockGateway
