import IpCountryApi.Http.Application
import IpCountryApi.Http.ServiceRuns

/-! What the inner layers of the application answer: the router with its endpoints, the
exception handlers, the host check and CORS. -/
namespace IpCountryApi.Http
open Library Domain Execution Observability Services

def RequestBody.isUnreadable : RequestBody → Bool
  | .unreadable => true
  | _ => false

/-- The router turns the request away, or its body cannot be read. -/
def routerRefuses (request : Request) : Bool :=
  match destination request.method request.path with
  | .endpoint route => route.endpoint = .createLookup && request.body.isUnreadable
  | .static => !(request.method = "GET" || request.method = "HEAD")
  | .methodNotAllowed _ | .notFound => true
  | .redirect => false

/-- The request is turned away for what it is, before anything is asked. -/
def Application.refused (self : Application) (request : Request) : Bool :=
  match self.preflight request with
  | some (origin, requestedMethod) =>
    !(self.framework.preflightFailures self.corsOptions request origin requestedMethod).isEmpty
  | none => if self.trustedHost request then routerRefuses request else !self.wwwHost request

/-- The request is to be sent to the host with www. and there is no URL for it. -/
def Application.wwwFails (self : Application) (request : Request) : Bool :=
  (self.preflight request).isNone && !self.trustedHost request && self.wwwHost request &&
    (self.framework.wwwUrl request).isNone

def readyPath (request : Request) : Bool := pathMatches "/health/ready" request.path

/-- A response that no exception handler made. -/
structure Direct (request : Request) (refusal : Bool) (response : Response) : Prop where
  status : response.status ∈ statuses
  plain : ¬ response.body.Enveloped
  error : 400 ≤ response.status → refusal = true ∨ readyPath request = true
  refused : refusal = true → 400 ≤ response.status

/-- How the router leaves a request, where refusals are those of the router and of the files. -/
def RouterOutcome (request : Request) (older newer : Past) : Except Exn Response → Prop
  | .ok response => Extends tame older newer ∧ Direct request (routerRefuses request || newer.any refusedFile) response
  | .error (.app _) | .error .requestValidation => Extends calm older newer ∧ routerRefuses request = false
  | .error (.http _) => Extends tame older newer ∧ (routerRefuses request || newer.any refusedFile) = true
  | .error (.foreign f) => Faulted older newer f ∧ routerRefuses request = false
  | .error (.retryable _) => False

variable {method : String} {h : Past} {app : Application} {request : Request}

theorem object_plain {fields : List (PyStr × Json)} (hne : ∀ content, fields ≠ [(.text "error", content)]) :
    ¬ (Body.json (.object fields)).Enveloped := by
  rintro ⟨requestId, code, message, he⟩
  rw [envelope, Body.json.injEq, Json.object.injEq] at he
  exact hne _ he

section Endpoints

private theorem ready_outcome : Meets (requestContract method) app.ready h fun h' x =>
    match x with
    | .ok response => Extends calm h h' ∧ response.status ∈ [200, 503] ∧ ¬ response.body.Enveloped
    | .error e => ∃ f, e = .foreign f ∧ Faulted h h' f := by
  have plain : ∀ {status summary database schema}, ¬ (app.readiness status summary database schema).body.Enveloped :=
    fun {_ _ _ _} => object_plain (by simp)
  have raised : ∀ {e : Answered} {f : Foreign}, fault e = some f → Faulted h (e :: h) f :=
    fun hf => ⟨h, _, .refl, hf, .refl⟩
  rw [Application.ready, readinessCheck, Meets.tryCatch_iff, Meets.bind_iff, Meets.tryCatch_iff]
  refine perform_request (by simp) fun probed _ => settle_meets.mpr ?_
  match probed with
  | .ok _ => exact ⟨Extends.refl.push rfl, by simp [Application.readiness, Response.jsonResponse], plain⟩
  | .error ⟨.timeout, _, _⟩ | .error ⟨.operational, _, _⟩ =>
    exact ⟨Extends.refl.push rfl, by simp [Application.readiness, Response.jsonResponse], plain⟩
  | .error ⟨.sqlalchemy sqlstate, _, _⟩ =>
    show Meets _ (if sqlstate = some "42P01" ∨ sqlstate = some "3F000" then _ else _) _ _
    split
    · exact ⟨Extends.refl.push rfl, by simp [Application.readiness, Response.jsonResponse], plain⟩
    · exact ⟨Extends.refl.push rfl, by simp [Application.readiness, Response.jsonResponse], plain⟩
  | .error ⟨.request _, _, _⟩ | .error ⟨.value, _, _⟩ | .error ⟨.cancelled, _, _⟩ | .error ⟨.other, _, _⟩ =>
    exact ⟨_, rfl, raised rfl⟩

/-- How the lookup endpoint leaves a request. -/
private def LookupOutcome (request : Request) (older newer : Past) : Except Exn Response → Prop
  | .ok response => Extends calm older newer ∧ request.body.isUnreadable = false ∧ response.status = 200 ∧
      ¬ response.body.Enveloped
  | .error (.http _) => Extends calm older newer ∧ request.body.isUnreadable = true
  | .error .requestValidation => Extends calm older newer ∧ request.body.isUnreadable = false
  | .error e => Outcome IsApp older newer (.error e : Except Exn Response) ∧ request.body.isUnreadable = false

private theorem createLookup_outcome :
    Meets (requestContract method) (app.createLookup request) h (LookupOutcome request h) := by
  have valid : ∀ payload : LookupRequest, request.body.isUnreadable = false →
      Meets (requestContract method) (do
        let result ← app.replica.service.lookup payload.ip
        if result.countryName.encodes then pure (Response.jsonResponse 200 (app.lookupResponse result))
        else throw (.foreign (valueError "UnicodeEncodeError"))) h (LookupOutcome request h) := by
    intro payload hb
    rw [Meets.bind_iff]
    refine lookup_outcome.mono fun h' x hx => ?_
    obtain ⟨hx, encodes⟩ := hx
    match x with
    | .ok result =>
      dsimp only
      rw [if_pos (show result.countryName.encodes = true from encodes)]
      exact ⟨hx, hb, rfl, object_plain (by simp)⟩
    | .error (.app e) => exact ⟨hx, hb⟩
    | .error (.foreign f) => exact ⟨hx, hb⟩
    | .error .requestValidation | .error (.http e) | .error (.retryable _) =>
      rcases hx with ⟨⟨_, he⟩, _⟩ | ⟨_, he, _⟩ <;> cases he
  rw [Application.createLookup, Application.payload]
  cases hbody : request.body with
  | json value =>
    have readable : request.body.isUnreadable = false := by rw [hbody]; rfl
    dsimp only
    cases LookupRequest.modelValidate value with
    | some payload => exact valid payload readable
    | none => exact ⟨.refl, readable⟩
  | unreadable => exact ⟨.refl, by rw [hbody]; rfl⟩
  | absent | bytes | malformedJson => exact ⟨.refl, by rw [hbody]; rfl⟩

theorem fileResponse_status (status : FileStatus) (content : String) :
    (Application.fileResponse status content).status = status.code := by
  cases status <;> rfl

theorem fileResponse_plain (status : FileStatus) (content : String) :
    ¬ (Application.fileResponse status content).body.Enveloped := by
  rintro ⟨_, _, _, he⟩
  cases status <;> cases he

theorem code_mem_statuses (status : FileStatus) : status.code ∈ statuses := by
  cases status <;> decide

/-- Static files, from a history in which none was refused. -/
private theorem staticFiles_outcome (hh : h.any refusedFile = false) :
    Meets (requestContract method) (Application.staticFiles request) h fun h' x =>
      match x with
      | .ok response => Extends tame h h' ∧ (request.method = "GET" ∨ request.method = "HEAD") ∧
          response.status ∈ statuses ∧ ¬ response.body.Enveloped ∧ (400 ≤ response.status ↔ h'.any refusedFile = true)
      | .error (.http _) => Extends tame h h' ∧
          (¬ (request.method = "GET" ∨ request.method = "HEAD") ∨ h'.any refusedFile = true)
      | .error e => ∃ f, e = .foreign f ∧ Faulted h h' f ∧ (request.method = "GET" ∨ request.method = "HEAD") := by
  rw [Application.staticFiles]
  split
  · rename_i hm
    refine perform_request (by simp) fun found _ => settle_bind_meets.mpr ?_
    match found with
    | .error f => exact ⟨f, rfl, ⟨h, _, .refl, rfl, .refl⟩, hm⟩
    | .ok (.error e) => exact ⟨Extends.refl.push rfl, .inr (by simp [refusedFile])⟩
    | .ok (.file status content) =>
      refine ⟨Extends.refl.push rfl, hm, ?_, fileResponse_plain status content, ?_⟩
      · rw [fileResponse_status]
        exact code_mem_statuses status
      · rw [fileResponse_status]
        cases status <;> simp [refusedFile, hh, FileStatus.code]
  · rename_i hm
    exact ⟨.refl, .inl hm⟩

end Endpoints

/-- The ready endpoint is only reached under its path. -/
private theorem readyPath_of_endpoint {route : Route} (hd : destination request.method request.path = .endpoint route)
    (he : route.endpoint = .ready) : readyPath request = true := by
  obtain ⟨hr, hp⟩ := mem_routes_of_endpoint hd
  have path : ∀ route ∈ routes, route.endpoint = .ready → route.path = "/health/ready" := by decide
  rw [readyPath, ← path route hr he]
  exact hp

/-- A response without an error status to a request that is not refused. -/
private theorem Direct.success {refusal : Bool} {response : Response} (hs : response.status ∈ statuses)
    (hlt : response.status < 400) (hplain : ¬ response.body.Enveloped) (hr : refusal = false) :
    Direct request refusal response :=
  ⟨hs, hplain, fun he => by omega, fun ht => by rw [hr] at ht; cases ht⟩

private theorem refused_calm {h' : Past} (hh : h.any refusedFile = false) (hx : Extends calm h h') :
    h'.any refusedFile = false := (refusedFile_extends hx).trans hh

theorem tame_extends {h' : Past} (hx : Extends calm h h') : Extends tame h h' := hx.mono fun _ => tame_of_calm

private theorem handle_outcome (hh : h.any refusedFile = false) {route : Route}
    (hd : destination request.method request.path = .endpoint route) :
    Meets (requestContract method) (app.handle request route.endpoint) h (RouterOutcome request h) := by
  have refuses : routerRefuses request = (decide (route.endpoint = .createLookup) && request.body.isUnreadable) := by
    rw [routerRefuses, hd]
  have page : ∀ {content h'}, Extends calm h h' → routerRefuses request = false →
      RouterOutcome request h h' (.ok (Application.html content)) := by
    intro content h' hx hr
    refine ⟨tame_extends hx, .success (List.mem_cons_self) (by decide : 200 < 400) ?_ (by rw [hr, refused_calm hh hx]; rfl)⟩
    rintro ⟨_, _, _, he⟩
    cases he
  cases he : route.endpoint with
  | openapi =>
    have hr : routerRefuses request = false := by simp [refuses, he]
    exact ⟨.refl, .success List.mem_cons_self (by decide : 200 < 400) (object_plain (by simp)) (by rw [hr, hh]; rfl)⟩
  | live =>
    have hr : routerRefuses request = false := by simp [refuses, he]
    exact ⟨.refl, .success List.mem_cons_self (by decide : 200 < 400) (object_plain (by simp)) (by rw [hr, hh]; rfl)⟩
  | swaggerUi | oauth2Redirect | redoc => exact page .refl (by simp [refuses, he])
  | metrics =>
    have hr : routerRefuses request = false := by simp [refuses, he]
    refine perform_request (by simp) fun m _ => ?_
    have hx : Extends calm h (⟨.scrape, m⟩ :: h) := Extends.refl.push rfl
    refine ⟨tame_extends hx, .success List.mem_cons_self (by decide : 200 < 400) ?_ (by rw [hr, refused_calm hh hx]; rfl)⟩
    rintro ⟨_, _, _, he⟩
    cases he
  | index =>
    have hr : routerRefuses request = false := by simp [refuses, he]
    refine perform_request (by simp) fun rendered _ => settle_bind_meets.mpr ?_
    cases rendered with
    | error f => exact ⟨⟨h, _, .refl, rfl, .refl⟩, hr⟩
    | ok content => exact page (Extends.refl.push rfl) hr
  | ready =>
    have hr : routerRefuses request = false := by simp [refuses, he]
    refine ready_outcome.mono fun h' x hx => ?_
    cases x with
    | error e =>
      obtain ⟨f, rfl, hf⟩ := hx
      exact ⟨hf, hr⟩
    | ok response =>
      obtain ⟨hx, hs, hplain⟩ := hx
      refine ⟨tame_extends hx, ?_, hplain, fun _ => .inr (readyPath_of_endpoint hd he), fun ht => ?_⟩
      · exact (by decide : ∀ s ∈ [200, 503], s ∈ statuses) _ hs
      · rw [hr, refused_calm hh hx] at ht
        cases ht
  | createLookup =>
    refine createLookup_outcome.mono fun h' x hx => ?_
    have hr : routerRefuses request = request.body.isUnreadable := by simp [refuses, he]
    match x with
    | .ok response =>
      obtain ⟨hx, hb, hs, hplain⟩ := hx
      refine ⟨tame_extends hx, .success (hs ▸ List.mem_cons_self) (by omega) hplain ?_⟩
      rw [hr, hb, refused_calm hh hx]
      rfl
    | .error (.http e) => exact ⟨tame_extends hx.1, by rw [hr, hx.2]; rfl⟩
    | .error .requestValidation => exact ⟨hx.1, hr.trans hx.2⟩
    | .error (.app e) =>
      rcases hx with ⟨⟨_, hx⟩ | ⟨_, he, _⟩, hb⟩
      · exact ⟨hx, hr.trans hb⟩
      · cases he
    | .error (.foreign f) =>
      rcases hx with ⟨⟨⟨_, he⟩, _⟩ | ⟨_, he, _, hf⟩, hb⟩
      · cases he
      · cases he
        exact ⟨hf, hr.trans hb⟩
    | .error (.retryable t) =>
      rcases hx with ⟨⟨⟨_, he⟩, _⟩ | ⟨_, he, _⟩, _⟩ <;> cases he

theorem router_outcome (hh : h.any refusedFile = false) :
    Meets (requestContract method) (app.router request) h (RouterOutcome request h) := by
  rw [Application.router]
  cases hd : destination request.method request.path with
  | endpoint route => exact handle_outcome hh hd
  | redirect =>
    refine ⟨.refl, .success (by simp [statuses]) (by decide : 307 < 400) ?_ (by simp [routerRefuses, hd, hh])⟩
    rintro ⟨_, _, _, he⟩
    cases he
  | notFound | methodNotAllowed route => exact ⟨.refl, by simp [routerRefuses, hd]⟩
  | static =>
    have refuses : routerRefuses request = !(decide (request.method = "GET") || decide (request.method = "HEAD")) := by
      rw [routerRefuses, hd]
    refine (staticFiles_outcome hh).mono fun h' x hx => ?_
    match x with
    | .ok response =>
      obtain ⟨hx, hm, hs, hplain, hiff⟩ := hx
      have hr : routerRefuses request = false := by simpa [refuses, or_iff_not_imp_left] using hm
      exact ⟨hx, hs, hplain, fun he => .inl (by rw [hr, hiff.mp he]; rfl), fun ht => hiff.mpr (by simpa [hr] using ht)⟩
    | .error (.http e) => exact ⟨hx.1, by simpa [refuses] using hx.2⟩
    | .error (.foreign f) =>
      obtain ⟨_, he, hf, hm⟩ := hx
      cases he
      exact ⟨hf, by simpa [refuses, or_iff_not_imp_left] using hm⟩
    | .error .requestValidation | .error (.app e) | .error (.retryable t) =>
      obtain ⟨_, he, _⟩ := hx
      cases he

/-! The layers around the router. -/

/-- A response of the inner layers to a request whose id is in the context. -/
structure Answer (request : Request) (requestId : String) (refusal : Bool) (response : Response) : Prop where
  status : response.status ∈ statuses
  own : ∀ other, response.body.EnvelopeOf other → other = requestId
  served : refusal = false → 400 ≤ response.status → readyPath request = true ∨ response.body.Enveloped
  refused : refusal = true → 400 ≤ response.status ∧ ¬ response.body.Enveloped

theorem Direct.answer {requestId : String} {refusal : Bool} {response : Response} (hd : Direct request refusal response) :
    Answer request requestId refusal response where
  status := hd.status
  own other he := absurd ⟨other, he⟩ hd.plain
  served hr he := .inl ((hd.error he).resolve_left (by simp [hr]))
  refused hr := ⟨hd.refused hr, hd.plain⟩

/-- An envelope that an exception handler made for a request that was not refused. -/
theorem Answer.envelope {requestId code message : String} {status : Nat} {refusal : Bool} (hs : status ∈ statuses)
    (hr : refusal = false) :
    Answer request requestId refusal (.jsonResponse status (Http.envelope code message requestId)) where
  status := hs
  own other := by
    rintro ⟨code', message', he⟩
    simp only [Response.jsonResponse, Http.envelope, Body.json.injEq, Json.object.injEq, List.cons.injEq,
      Prod.mk.injEq, Json.str.injEq, and_true, true_and] at he
    exact he.2.2.symm
  served _ _ := .inr ⟨requestId, code, message, rfl⟩
  refused ht := by simp [hr] at ht

theorem appError_status (e : AppError) : e.statusCode ∈ statuses := by
  cases e <;> decide

theorem httpError_status (e : HttpError) : e.statusCode ∈ statuses ∧ 400 ≤ e.statusCode := by
  cases e <;> decide

/-- How the inner layers leave a request. -/
def InnerOutcome (request : Request) (refuses : Bool) (older newer : Past) : Except Exn Response → Prop
  | .ok response => Extends tame older newer ∧
      Answer request ((contextAfter older).getD "unknown") (refuses || newer.any refusedFile) response
  | .error e => refuses = false ∧ ∃ f, e = .foreign f ∧ Faulted older newer f

/-- A handler's last step: the envelope with the id in the context. -/
private theorem envelope_outcome (hh : h.any refusedFile = false) {h' : Past} (hx : Extends calm h h') {refuses : Bool}
    (hr : refuses = false) {status : Nat} (hs : status ∈ statuses) (code message : String) :
    Meets (requestContract method) (do
      let content ← envelopeInContext code message
      pure (Response.jsonResponse status content)) h' (InnerOutcome request refuses h) := by
  rw [envelopeInContext, Meets.bind_iff, Meets.bind_iff]
  have hx' : Extends calm h (⟨.contextGet, contextAfter h'⟩ :: h') := hx.push rfl
  rw [contextAfter_extends (tame_extends hx)] at hx'
  rw [requestIdContextGet, Meets.bind_iff]
  refine perform_request (by simp) fun value hv => ?_
  obtain rfl : value = contextAfter h := hv.trans (contextAfter_extends (tame_extends hx))
  exact ⟨tame_extends hx', .envelope hs (by rw [hr, refused_calm hh hx']; rfl)⟩

theorem exceptionMiddleware_outcome (hh : h.any refusedFile = false) :
    Meets (requestContract method) (exceptionMiddleware app.replica.log (app.router request)) h
      (InnerOutcome request (routerRefuses request) h) := by
  rw [exceptionMiddleware, Meets.tryCatch_iff]
  refine (router_outcome hh).mono fun h' x hx => ?_
  match x with
  | .ok response => exact ⟨hx.1, hx.2.answer⟩
  | .error (.foreign f) => exact ⟨hx.2, f, rfl, hx.1⟩
  | .error (.retryable t) => exact hx.elim
  | .error (.http e) =>
    refine ⟨hx.1, (httpError_status e).1, fun other he => ?_, fun ht => ?_, fun _ => ⟨(httpError_status e).2, ?_⟩⟩
    · exact absurd ⟨other, he⟩ (object_plain (by simp))
    · rw [hx.2] at ht
      cases ht
    · exact object_plain (by simp)
  | .error .requestValidation => exact envelope_outcome hh hx.1 hx.2 (by decide) _ _
  | .error (.app e) =>
    show Meets _ (appErrorHandler app.replica.log e) _ _
    rw [appErrorHandler, Meets.bind_iff]
    exact log_request fun time => envelope_outcome hh (hx.1.trans logged_extends) hx.2 (appError_status e) _ _

/-- How the layers inside the outermost middleware leave a request: as the inner ones do,
unless there is no URL to redirect it to. -/
def Responded (app : Application) (request : Request) (older newer : Past) : Except Exn Response → Prop
  | .ok response => app.wwwFails request = false ∧ Extends tame older newer ∧
      Answer request ((contextAfter older).getD "unknown") (app.refused request || newer.any refusedFile) response
  | .error e => app.refused request = false ∧ ∃ f, e = .foreign f ∧
      if app.wwwFails request then newer = older ∧ f = valueError "ValueError" else Faulted older newer f

theorem trustedHostMiddleware_outcome (hh : h.any refusedFile = false) (hp : app.preflight request = none) :
    Meets (requestContract method) (app.trustedHostMiddleware request
      (exceptionMiddleware app.replica.log (app.router request))) h (Responded app request h) := by
  have redirect : ∀ url, app.wwwFails request = false → app.refused request = false →
      Responded app request h h (.ok ⟨307, [("location", url)], .empty⟩) := by
    intro url hw hr
    have plain : ¬ Body.empty.Enveloped := by
      rintro ⟨_, _, _, he⟩
      cases he
    exact ⟨hw, .refl, (Direct.success (by simp [statuses]) (by decide : 307 < 400) plain (by rw [hr, hh]; rfl)).answer⟩
  rw [Application.trustedHostMiddleware]
  split
  · rename_i ht
    have hw : app.wwwFails request = false := by simp [Application.wwwFails, ht]
    have hr : app.refused request = routerRefuses request := by simp [Application.refused, hp, ht]
    refine (exceptionMiddleware_outcome hh).mono fun h' x hx => ?_
    cases x with
    | ok response => exact ⟨hw, hx.1, hr ▸ hx.2⟩
    | error e =>
      obtain ⟨hrouter, f, rfl, hf⟩ := hx
      exact ⟨hr.trans hrouter, f, rfl, by rw [hw]; exact hf⟩
  · rename_i ht
    split
    · rename_i hwww
      have hr : app.refused request = false := by simp [Application.refused, hp, ht, hwww]
      cases hurl : app.framework.wwwUrl request with
      | some url => exact redirect url (by simp [Application.wwwFails, hurl]) hr
      | none => exact ⟨hr, _, rfl, by simp [Application.wwwFails, hp, ht, hwww, hurl]⟩
    · rename_i hwww
      have hr : app.refused request = true := by simp [Application.refused, hp, ht, hwww]
      have plain : ¬ (Response.plainText 400 "Invalid host header").body.Enveloped := by
        rintro ⟨_, _, _, he⟩
        cases he
      refine ⟨by simp [Application.wwwFails, hwww], .refl, ?_⟩
      exact Direct.answer ⟨by decide, plain, fun _ => .inl (by rw [hr]; rfl), fun _ => by decide⟩

theorem Answer.simpleResponse {requestId origin : String} {refusal : Bool} {response : Response}
    (ha : Answer request requestId refusal response) :
    Answer request requestId refusal (app.simpleResponse request origin response) := by
  have hs : (app.simpleResponse request origin response).status = response.status := response.setHeaders_status _
  have hb : (app.simpleResponse request origin response).body = response.body := response.setHeaders_body _
  obtain ⟨status, own, served, refused⟩ := ha
  rw [← hs, ← hb] at *
  exact ⟨status, own, served, refused⟩

/-- The specification of all layers inside the outermost middleware. -/
theorem corsMiddleware_outcome (hh : h.any refusedFile = false) :
    Meets (requestContract method) (app.corsMiddleware request (app.trustedHostMiddleware request
      (exceptionMiddleware app.replica.log (app.router request)))) h (Responded app request h) := by
  rw [Application.corsMiddleware]
  cases hp : app.preflight request with
  | some asked =>
    obtain ⟨origin, requestedMethod⟩ := asked
    have hw : app.wwwFails request = false := by simp [Application.wwwFails, hp]
    have hr : app.refused request =
        !(app.framework.preflightFailures app.corsOptions request origin requestedMethod).isEmpty := by
      simp [Application.refused, hp]
    have plain : ∀ failures, ¬ (app.preflightResponse origin failures).body.Enveloped := by
      rintro (_ | _) ⟨_, _, _, he⟩ <;> cases he
    refine ⟨hw, .refl, Direct.answer ?_⟩
    cases hf : app.framework.preflightFailures app.corsOptions request origin requestedMethod with
    | nil => exact .success List.mem_cons_self (by decide : 200 < 400) (plain []) (by rw [hr, hf, hh]; rfl)
    | cons failure failures =>
      exact ⟨by simp [Application.preflightResponse, statuses], plain _, fun _ => .inl (by rw [hr, hf]; rfl), fun _ => by
        simp [Application.preflightResponse]⟩
  | none =>
    show Meets _ (app.trustedHostMiddleware request _ >>= _) _ _
    rw [Meets.bind_iff]
    refine (trustedHostMiddleware_outcome hh hp).mono fun h' x hx => ?_
    cases x with
    | error e => exact hx
    | ok response =>
      obtain ⟨hw, hx, ha⟩ := hx
      dsimp only
      cases request.header "origin" with
      | none => exact ⟨hw, hx, ha⟩
      | some origin =>
        show Meets _ (if app.corsAllowedOrigins ≠ [] then _ else _) _ _
        split
        · exact ⟨hw, hx, ha.simpleResponse⟩
        · exact ⟨hw, hx, ha⟩

end IpCountryApi.Http
