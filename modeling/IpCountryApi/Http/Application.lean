import IpCountryApi.Http.Errors
import IpCountryApi.Http.Routes
import IpCountryApi.Services.Lifespan

/-! The application: its endpoints, the middlewares around them, and the server that
runs it for one request. -/
namespace IpCountryApi.Http
open Library Domain Execution Observability Services

structure CorsOptions where
  allowOrigins : List String
  allowMethods : List String
  allowHeaders : List String

/-- What the web framework computes by itself. A URL built from a Host header need not
parse: then there is no path, and none with www. either. Of CORS it finds out what to refuse a
preflight request for, and the headers to set, which do not change the type of the content. -/
structure Framework where
  urlPath : Request → Option String
  wwwUrl : Request → Option String
  slashUrl : Request → String
  openapi : List (PyStr × Json)
  page : Endpoint → String
  isoformat : Datetime → String
  preflightFailures (options : CorsOptions) (request : Request) (origin requestedMethod : String) : List String
  preflightHeaders (options : CorsOptions) (origin : String) : List (String × String)
  simpleHeaders (options : CorsOptions) (request : Request) (origin : String) : List (String × String)
  contentType_kept : ∀ options request origin, "content-type" ∉ (simpleHeaders options request origin).map Prod.fst

structure Application where
  version : String
  trustedHosts : List String
  corsAllowedOrigins : List String
  replica : Replica
  framework : Framework

/-- A value the framework cannot compute raises a ValueError. -/
def orValueError : Option String → Prog String
  | some value => pure value
  | none => throw (.foreign (valueError "ValueError"))

namespace Application
variable (self : Application) (request : Request)

/-! Endpoints. -/

def live : Response :=
  .jsonResponse 200 (.object [("status", .str "alive"), ("version", .str self.version)])

def readiness (status : Nat) (summary database schema : String) : Response :=
  .jsonResponse status (.object [("status", .str summary), ("database", .str database), ("schema", .str schema),
    ("version", .str self.version)])

def ready : Prog Response :=
  tryCatch
    (do
      readinessCheck
      pure (self.readiness 200 "ready" "available" "available"))
    fun e =>
      match e with
      | .app .databaseSchemaUnavailable => pure (self.readiness 503 "not_ready" "available" "unavailable")
      | .app .databaseUnavailable => pure (self.readiness 503 "not_ready" "unavailable" "unknown")
      | e => throw e

/-- The payload parameter: the body is read and validated before the handler runs. -/
def payload : Prog LookupRequest :=
  match request.body with
  | .json value =>
    match LookupRequest.modelValidate value with
    | some payload => pure payload
    | none => throw .requestValidation
  | .absent | .bytes | .malformedJson => throw .requestValidation
  | .unreadable => throw (.http .unparsableBody)

def lookupResponse (result : LookupResult) : Json :=
  .object [("ip", .str (String.ofList result.ip.str)), ("country_code", .str result.countryCode),
    ("country_name", result.countryName.json), ("source", .str result.source.text),
    ("fetched_at", .str (self.framework.isoformat result.fetchedAt)),
    ("expires_at", .str (self.framework.isoformat result.expiresAt))]

def createLookup : Prog Response := do
  let payload ← payload request
  let result ← self.replica.service.lookup payload.ip
  -- the body of the answer is encoded
  if result.countryName.encodes then pure (.jsonResponse 200 (self.lookupResponse result))
  else throw (.foreign (valueError "UnicodeEncodeError"))

def metrics : Prog Response := do
  let metrics ← perform .scrape
  pure ⟨200, [("content-type", "text/plain; version=0.0.4; charset=utf-8")], .exposition metrics⟩

def html (content : String) : Response := ⟨200, [("content-type", "text/html; charset=utf-8")], .html content⟩

def index : Prog Response := do
  let rendered ← perform (.template "index.html")
  let content ← settle rendered
  pure (html content)

def handle : Endpoint → Prog Response
  | .openapi => pure (.jsonResponse 200 (.object (("openapi", .str "3.1.0") :: self.framework.openapi)))
  | .swaggerUi => pure (html (self.framework.page .swaggerUi))
  | .oauth2Redirect => pure (html (self.framework.page .oauth2Redirect))
  | .redoc => pure (html (self.framework.page .redoc))
  | .metrics => metrics
  | .live => pure self.live
  | .ready => self.ready
  | .createLookup => self.createLookup request
  | .index => index

/-- The answer with a file, or with what was wrong with the request for it. -/
def fileResponse (status : FileStatus) (content : String) : Response :=
  match status with
  | .whole | .partialContent => ⟨status.code, [], .file content⟩
  | .notModified => ⟨status.code, [], .empty⟩
  | .badRange | .rangeNotSatisfiable => .plainText status.code content

def staticFiles : Prog Response :=
  if request.method = "GET" ∨ request.method = "HEAD" then do
    let found ← perform (.staticFile request.method request.path)
    let answer ← settle found
    match answer with
    | .file status content => pure (fileResponse status content)
    | .error e => throw (.http e)
  else throw (.http .methodNotAllowed)

def router : Prog Response :=
  match destination request.method request.path with
  | .endpoint route => self.handle request route.endpoint
  | .static => staticFiles request
  | .methodNotAllowed _ => throw (.http .methodNotAllowed)
  | .redirect => pure ⟨307, [("location", self.framework.slashUrl request)], .empty⟩
  | .notFound => throw (.http .notFound)

/-! Middlewares, from the innermost to the outermost. -/

def host : Text := ((request.header "host").getD "").toList.takeWhile (· ≠ ':')

def hostMatches (host pattern : Text) : Bool :=
  host = pattern || pattern.head? = some '*' && (pattern.drop 1).isSuffixOf host

def trustedHost : Bool := self.trustedHosts.any fun pattern => hostMatches (host request) pattern.toList

def wwwHost : Bool := self.trustedHosts.any fun pattern => pattern.toList = "www.".toList ++ host request

def trustedHostMiddleware (app : Prog Response) : Prog Response :=
  if self.trustedHost request then app
  else if self.wwwHost request then do
    let url ← orValueError (self.framework.wwwUrl request)
    pure ⟨307, [("location", url)], .empty⟩
  else pure (.plainText 400 "Invalid host header")

/-- The arguments of CORSMiddleware. -/
def corsOptions : CorsOptions := ⟨self.corsAllowedOrigins, ["GET", "POST"], ["Content-Type", "X-Request-ID"]⟩

def preflightResponse (origin : String) (failures : List String) : Response :=
  let headers := self.framework.preflightHeaders self.corsOptions origin ++ [("content-type", "text/plain; charset=utf-8")]
  match failures with
  | [] => ⟨200, headers, .text "OK"⟩
  | failures => ⟨400, headers, .text ("Disallowed CORS " ++ ", ".intercalate failures)⟩

/-- The answer to a request from another origin. -/
def simpleResponse (origin : String) (response : Response) : Response :=
  response.setHeaders (self.framework.simpleHeaders self.corsOptions request origin)

/-- The origin and the method a preflight request asks for. -/
def preflight : Option (String × String) :=
  if self.corsAllowedOrigins ≠ [] ∧ request.method = "OPTIONS" then
    (request.header "origin").bind fun origin =>
      (request.header "access-control-request-method").map fun requestedMethod => (origin, requestedMethod)
  else none

def corsMiddleware (app : Prog Response) : Prog Response :=
  match self.preflight request with
  | some (origin, requestedMethod) =>
    pure (self.preflightResponse origin (self.framework.preflightFailures self.corsOptions request origin requestedMethod))
  | none => do
    let response ← app
    match request.header "origin" with
    | some origin => if self.corsAllowedOrigins ≠ [] then pure (self.simpleResponse request origin response) else pure response
    | none => pure response

/-- The path of the route in the scope once the inner middlewares have answered. -/
def routeLabel : String :=
  if (self.preflight request).isSome || !self.trustedHost request then unmatched
  else (destination request.method request.path).label

def excludedMetricPaths : List String := ["/metrics", "/health/live", "/health/ready"]

def requestObservability (callNext : Prog Response) : Prog Response := do
  let requestId ← requestIdOrNew (request.header "x-request-id")
  let token ← perform (.contextSet requestId)
  let started ← perform .perfCounter
  let response ← callNext.ensuring fun _ => perform (.contextReset token)
  let response := response.setHeader "x-request-id" requestId
  let finished ← perform .perfCounter
  let urlPath ← orValueError (self.framework.urlPath request)
  if urlPath ∉ excludedMetricPaths then
    record (.httpRequest request.method (self.routeLabel request) response.status (finished - started))
  self.replica.log.log .info "http_request"
    [("request_id", .text requestId), ("method", .text request.method), ("route", .text (self.routeLabel request)),
      ("status_code", .number response.status), ("duration_ms", .milliseconds (finished - started))]
  pure response

/-- ServerErrorMiddleware: the handler for Exception answers, then the exception goes on. -/
def serverErrorMiddleware (app : Prog Response) : Prog Unit :=
  tryCatch
    (do
      let response ← app
      perform (.send response))
    fun e => do
      if e.isException then
        let response ← unexpectedErrorHandler self.replica.log
        perform (.send response)
      throw e

/-- The application as an ASGI callable. -/
def asgi : Prog Unit :=
  self.serverErrorMiddleware <| self.requestObservability request <| self.corsMiddleware request <|
    self.trustedHostMiddleware request <| exceptionMiddleware self.replica.log <| self.router request

/-- run_asgi of the server: an exception that leaves the application is logged through the
root handler. Only a cancellation leaves it without a response started. -/
def serve : Prog Unit :=
  tryCatch (self.asgi request) fun e => do
    perform (.print ("Exception in ASGI application\n" ++ e.traceback))
    if !e.isException then perform (.send (.plainText 500 "Internal Server Error"))

end Application
end IpCountryApi.Http
