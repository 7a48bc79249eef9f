import IpCountryApi.Observability.Logging

/-! The error envelope, and the handlers that turn exceptions into responses. -/
namespace IpCountryApi.Http
open Library Domain Execution Observability

def envelope (code message requestId : String) : Json :=
  .object [("error", .object [("code", .str code), ("message", .str message), ("request_id", .str requestId)])]

/-- The body is an error envelope for this request id. -/
def Body.EnvelopeOf (body : Body) (requestId : String) : Prop :=
  ∃ code message, body = .json (envelope code message requestId)

def Body.Enveloped (body : Body) : Prop := ∃ requestId, body.EnvelopeOf requestId

/-- _envelope(code, message), which reads the request id from the context. -/
def envelopeInContext (code message : String) : Prog Json := do
  let requestId ← requestIdContextGet
  pure (envelope code message requestId)

def appErrorHandler (log : LogConfig) (e : AppError) : Prog Response := do
  log.log .warning "request_failed" [("error_type", .text e.code)]
  let content ← envelopeInContext e.code e.message
  pure (.jsonResponse e.statusCode content)

def validationErrorHandler : Prog Response := do
  let content ← envelopeInContext "INVALID_IP" "The request must contain one valid IP address."
  pure (.jsonResponse 422 content)

def unexpectedErrorHandler (log : LogConfig) : Prog Response := do
  log.log .error "unexpected_request_failure" [("error_type", .text "INTERNAL_ERROR")]
  let content ← envelopeInContext "INTERNAL_ERROR" "An unexpected error occurred."
  pure (.jsonResponse 500 content)

/-- The framework's own handler for HTTP errors, which the application leaves in place. -/
def httpExceptionHandler (e : HttpError) : Response :=
  .jsonResponse e.statusCode (.object [("detail", .str e.detail)])

/-- ExceptionMiddleware with the registered handlers; what has none is raised further. -/
def exceptionMiddleware (log : LogConfig) (app : Prog Response) : Prog Response :=
  tryCatch app fun e =>
    match e with
    | .app e => appErrorHandler log e
    | .requestValidation => validationErrorHandler
    | .http e => pure (httpExceptionHandler e)
    | e => throw e

end IpCountryApi.Http
