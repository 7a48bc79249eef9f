import IpCountryApi.Http.Requests

/-! The route table, and where the router sends a request. -/
namespace IpCountryApi.Http

inductive Endpoint where
  | openapi
  | swaggerUi
  | oauth2Redirect
  | redoc
  | metrics
  | live
  | ready
  | createLookup
  | index
  deriving DecidableEq, Repr

/-- Only the routes the application declares record themselves in the request scope. -/
structure Route where
  path : String
  methods : List String
  endpoint : Endpoint
  recorded : Bool
  deriving DecidableEq, Repr

def routes : List Route :=
  [⟨"/openapi.json", ["GET", "HEAD"], .openapi, false⟩,
    ⟨"/docs", ["GET", "HEAD"], .swaggerUi, false⟩,
    ⟨"/docs/oauth2-redirect", ["GET", "HEAD"], .oauth2Redirect, false⟩,
    ⟨"/redoc", ["GET", "HEAD"], .redoc, false⟩,
    ⟨"/metrics", ["GET"], .metrics, true⟩,
    ⟨"/health/live", ["GET"], .live, true⟩,
    ⟨"/health/ready", ["GET"], .ready, true⟩,
    ⟨"/api/v1/lookups", ["POST"], .createLookup, true⟩,
    ⟨"/", ["GET"], .index, true⟩]

/-- A compiled path pattern ends in $, which also matches before a final newline. -/
def pathMatches (pattern path : String) : Bool := path = pattern || path = pattern ++ "\n"

/-- The pattern of the mount at /static: its dot matches no newline. -/
def staticPath (path : String) : Bool :=
  "/static/".toList.isPrefixOf path.toList && !(path.toList.drop 8).dropLast.contains '\n'

/-- The path tried for a redirect: without its final slashes, or with one. -/
def otherSlash (path : String) : String :=
  if path.toList.getLast? = some '/' then String.ofList (path.toList.rdropWhile (· = '/')) else path ++ "/"

def anyMatch (path : String) : Bool := routes.any (fun r => pathMatches r.path path) || staticPath path

inductive Destination where
  | endpoint (route : Route)
  | static
  | methodNotAllowed (route : Route)
  | redirect
  | notFound
  deriving DecidableEq, Repr

def destination (method path : String) : Destination :=
  match routes.find? fun r => pathMatches r.path path && r.methods.contains method with
  | some route => .endpoint route
  | none =>
    if staticPath path then .static
    else
      match routes.find? fun r => pathMatches r.path path with
      | some route => .methodNotAllowed route
      | none => if path ≠ "/" && anyMatch (otherSlash path) then .redirect else .notFound

def unmatched : String := "unmatched"

/-- The path of the route in the scope. -/
def Destination.label : Destination → String
  | .endpoint route | .methodNotAllowed route => if route.recorded then route.path else unmatched
  | .static | .redirect | .notFound => unmatched

theorem mem_routes_of_endpoint {method path : String} {route : Route}
    (h : destination method path = .endpoint route) : route ∈ routes ∧ pathMatches route.path path = true := by
  unfold destination at h
  split at h
  · rename_i r hr
    cases h
    have hr' := List.find?_some hr
    exact ⟨List.mem_of_find?_eq_some hr, (Bool.and_eq_true_iff.mp hr').1⟩
  · split at h
    · cases h
    · split at h
      · cases h
      · split at h <;> cases h

/-- The route labels: one for each route that records itself, and one for all else. -/
def routeLabels : List String := unmatched :: (routes.filter Route.recorded).map Route.path

theorem label_mem (method path : String) : (destination method path).label ∈ routeLabels := by
  have recorded : ∀ route ∈ routes, (if route.recorded then route.path else unmatched) ∈ routeLabels := by decide
  unfold destination
  split
  · exact recorded _ (List.mem_of_find?_eq_some (by assumption))
  · split
    · exact List.mem_cons_self
    · split
      · exact recorded _ (List.mem_of_find?_eq_some (by assumption))
      · split <;> exact List.mem_cons_self

end IpCountryApi.Http
