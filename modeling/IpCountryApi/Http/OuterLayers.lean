import IpCountryApi.Http.Serving
import IpCountryApi.Services.LookupScope

/-! What the outermost middlewares and the server add to the calls of the layers inside them. -/
namespace IpCountryApi.Http
open Library Domain Execution Observability Services

/-- The calls of the middlewares and of logging. -/
def isOwnCall : Query → Bool
  | .uuid4 | .contextGet | .contextSet _ | .contextReset _ | .perfCounter | .timestamp | .print _ => true
  | _ => false

namespace Application
variable {app : Application} {request : Request} {asks : Query → Prop} {E : Except Exn Response → Prop}

/-- An exception may reach the outermost layers. -/
def MayFail (app : Application) (request : Request) (E : Except Exn Response → Prop) : Prop :=
  (∃ e, E (.error e)) ∨ app.framework.urlPath request = none

/-- What the layers inside may ask for, and how they may end, covers what is added outside. -/
structure Covers (app : Application) (request : Request) (asks : Query → Prop) (E : Except Exn Response → Prop) : Prop where
  own : ∀ q, isOwnCall q = true → asks q
  counted : ∀ status duration path, app.framework.urlPath request = some path → path ∉ excludedMetricPaths →
    asks (.metric (.httpRequest request.method (app.routeLabel request) status duration))
  answer : ∀ response requestId, E (.ok response) → asks (.send (response.setHeader "x-request-id" requestId))
  failure : app.MayFail request E → ∀ requestId,
    asks (.send (.jsonResponse 500 (envelope "INTERNAL_ERROR" "An unexpected error occurred." requestId)))
  crash : app.MayFail request E → asks (.send (.plainText 500 "Internal Server Error"))

theorem requestIdOrNew_within (own : ∀ q, isOwnCall q = true → asks q) (value : Option String) :
    Within asks (fun x => ∃ requestId, x = .ok requestId) (requestIdOrNew value) := by
  have fresh : Within asks (fun x => ∃ requestId, x = .ok requestId) requestIdOrNew.fresh := ⟨own _ rfl, fun _ => ⟨_, rfl⟩⟩
  cases value with
  | none => exact fresh
  | some text =>
    rw [requestIdOrNew]
    split
    · exact ⟨text, rfl⟩
    · exact fresh

theorem logs_within (own : ∀ q, isOwnCall q = true → asks q) (log : LogConfig) (level : LogLevel) (event : String) (fields : EventDict) :
    Within asks (fun x => x = .ok ()) (log.log level event fields) :=
  log_within (own _ rfl) (own _ rfl) (fun _ => own _ rfl) log level event fields

/-- How the outermost middleware leaves a request. -/
def Labelled (app : Application) (request : Request) (E : Except Exn Response → Prop) : Except Exn Response → Prop
  | .ok response => ∃ inner requestId, E (.ok inner) ∧ response = inner.setHeader "x-request-id" requestId
  | .error _ => app.MayFail request E

theorem requestObservability_within (h : app.Covers request asks E) {callNext : Prog Response} (inner : Within asks E callNext) :
    Within asks (app.Labelled request E) (app.requestObservability request callNext) := by
  rw [requestObservability]
  apply Within.bind (requestIdOrNew_within h.own _)
  · intro requestId _
    refine perform_within (h.own _ rfl) fun token => perform_within (h.own _ rfl) fun started => ?_
    apply Within.bind (E := E)
    · exact Within.ensuring inner fun _ _ => ⟨h.own _ rfl, fun _ => rfl⟩
    · intro response hresponse
      refine perform_within (h.own _ rfl) fun finished => ?_
      have logged : ∀ fields, Within asks (app.Labelled request E) (do
          app.replica.log.log .info "http_request" fields
          pure (response.setHeader "x-request-id" requestId)) := by
        intro fields
        apply Within.bind (logs_within h.own app.replica.log .info "http_request" fields)
        · exact fun _ _ => ⟨response, requestId, hresponse, rfl⟩
        · rintro _ ⟨⟩
      apply Within.bind (E := fun x => x.toOption = app.framework.urlPath request)
      · cases app.framework.urlPath request <;> rfl
      · intro path hpath
        split
        · rename_i hexcluded
          exact perform_within (h.counted _ _ path hpath.symm hexcluded) fun _ => logged _
        · exact logged _
      · exact fun e he => .inr he.symm
    · exact fun e he => .inl ⟨e, he⟩
  · rintro e ⟨_, ⟨⟩⟩

theorem serve_within_inner (h : app.Covers request asks E) (inner : Within asks E (app.corsMiddleware request
      (app.trustedHostMiddleware request (exceptionMiddleware app.replica.log (app.router request))))) :
    Within asks (fun x => app.MayFail request E ∨ x = .ok ()) (app.serve request) := by
  have raised : ∀ x : Except Exn Unit, app.MayFail request E → app.MayFail request E ∨ x = .ok () := fun _ h => .inl h
  rw [serve]
  apply Within.tryCatch (E := fun x => app.MayFail request E ∨ x = .ok ())
  · rw [asgi, serverErrorMiddleware]
    apply Within.tryCatch (E := fun x => app.MayFail request E ∨ x = .ok ())
    · apply Within.bind (requestObservability_within h inner)
      · rintro _ ⟨response, requestId, hresponse, rfl⟩
        exact ⟨h.answer response requestId hresponse, fun _ => .inr rfl⟩
      · exact fun e he => .inl he
    · exact fun _ h => h
    · intro e he
      have fails : app.MayFail request E := he.resolve_right (by rintro ⟨⟩)
      split
      · apply Within.bind (E := fun x => ∃ requestId, x = .ok
          (.jsonResponse 500 (envelope "INTERNAL_ERROR" "An unexpected error occurred." requestId)))
        · apply Within.bind (logs_within h.own app.replica.log .error _ _)
          · exact fun _ _ => ⟨h.own _ rfl, fun _ => ⟨_, rfl⟩⟩
          · rintro _ ⟨⟩
        · rintro _ ⟨requestId, ⟨⟩⟩
          exact ⟨h.failure fails requestId, fun _ => raised _ fails⟩
        · rintro _ ⟨_, ⟨⟩⟩
      · exact raised _ fails
  · exact fun _ h => h
  · intro e he
    have fails : app.MayFail request E := he.resolve_right (by rintro ⟨⟩)
    refine perform_within (h.own _ rfl) fun _ => ?_
    split
    · exact ⟨h.crash fails, fun _ => raised _ fails⟩
    · exact raised _ fails

end Application
end IpCountryApi.Http
