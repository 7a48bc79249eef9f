import IpCountryApi.Http.RouterRuns

/-! All finished runs of the server for one request: it was answered from inside, or an
exception left the application and the outermost layers answered. -/
namespace IpCountryApi.Http
open Library Domain Execution Observability Services

/-- What happens between an unguarded exception and the handler for it. -/
def mute (e : Answered) : Bool :=
  (fault e).isNone &&
    match e.query with
    | .send _ | .print _ | .timestamp => false
    | .metric call => !isHttpRequest call
    | _ => true

theorem mute_of_silent {e : Answered} (h : silent e = true) : mute e = true := by
  obtain ⟨q, r⟩ := e
  cases q <;> simp_all [silent, calm, tame, mute]

theorem sent_mute {older newer : Past} (hx : Extends mute older newer) : sent newer = sent older :=
  hx.filterMap_eq fun e he => by
    obtain ⟨q, r⟩ := e
    cases q <;> simp [mute] at he ⊢

theorem httpRequests_mute {older newer : Past} (hx : Extends mute older newer) :
    httpRequests newer = httpRequests older :=
  hx.filterMap_eq fun e he => by
    obtain ⟨q, r⟩ := e
    cases q <;> simp_all [mute, metricCall]

/-- An event with an unguarded exception is nothing else. -/
theorem views_of_fault {e : Answered} {f : Foreign} (hf : fault e = some f) (h : Past) :
    sent (e :: h) = sent h ∧ httpRequests (e :: h) = httpRequests h ∧ contextAfter (e :: h) = contextAfter h ∧
      refusedFile e = false := by
  obtain ⟨q, r⟩ := e
  cases q with
  | staticFile m p =>
    cases r with
    | error f => exact ⟨rfl, rfl, rfl, rfl⟩
    | ok answer => cases hf
  | scalar | execute | commit | clientGet | sleep | readinessProbe | template => exact ⟨rfl, rfl, rfl, rfl⟩
  | _ => cases hf

/-- Where an exception that leaves the application comes from: a call that raised it, or a
URL that does not parse. -/
inductive Origin (app : Application) (request : Request) (h : Past) (f : Foreign) : Prop
  | call {before : Past} {e : Answered} (raised : fault e = some f) (first : faults before = [])
      (rest : Extends mute (e :: before) h) (redirected : app.wwwFails request = false)
      (served : app.refused request = false ∧ h.any refusedFile = false)
  | redirect (fails : app.wwwFails request = true) (url : f = valueError "ValueError") (calls : faults h = [])
      (served : app.refused request = false ∧ h.any refusedFile = false)
  | path (fails : app.framework.urlPath request = none) (url : f = valueError "ValueError") (calls : faults h = [])
      (redirected : app.wwwFails request = false)

/-- A request that was answered from inside, with what the outermost middleware added. -/
structure Served (app : Application) (request : Request) (h : Past) (requestId path : String) (duration : Int)
    (inner : Response) : Prop where
  redirected : app.wwwFails request = false
  parsed : app.framework.urlPath request = some path
  calls : faults h = []
  pattern : requestIdPattern requestId.toList = true
  own : validRequestId (request.header "x-request-id") = true → request.header "x-request-id" = some requestId
  answer : Answer request requestId (app.refused request || h.any refusedFile) inner
  counted : httpRequests h = if path ∈ Application.excludedMetricPaths then []
    else [.httpRequest request.method (app.routeLabel request) inner.status duration]

/-- How the outermost middleware leaves a request. -/
def Observed (app : Application) (request : Request) (h : Past) : Except Exn Response → Prop
  | .ok response => sent h = [] ∧ ∃ requestId path duration inner, Served app request h requestId path duration inner ∧
      response = inner.setHeader "x-request-id" requestId
  | .error e => sent h = [] ∧ httpRequests h = [] ∧ contextAfter h = none ∧ ∃ f, e = .foreign f ∧ Origin app request h f

variable {app : Application} {request : Request} {h : Past}

private theorem requestIdOrNew_meets {value : Option String} {β : Type} {f : String → Prog β}
    {post : Past → Except Exn β → Prop} {method : String}
    (hp : ∀ requestId h, (h = [] ∨ ∃ random, h = [⟨.uuid4, random⟩]) → requestIdPattern requestId.toList = true →
      (validRequestId value = true → value = some requestId) → Meets (requestContract method) (f requestId) h post) :
    Meets (requestContract method) (requestIdOrNew value >>= f) [] post := by
  have fresh : validRequestId value = false → Meets (requestContract method) (requestIdOrNew.fresh >>= f) [] post := by
    intro hv
    rw [requestIdOrNew.fresh, Meets.bind_iff]
    refine perform_request (by simp) fun random _ => hp _ _ (.inr ⟨random, rfl⟩) ?_ (by simp [hv])
    rw [String.toList_ofList]
    exact requestIdPattern_uuid4 random
  cases value with
  | none => exact fresh rfl
  | some text =>
    show Meets _ ((if validRequestId (some text) then pure text else requestIdOrNew.fresh) >>= f) [] post
    split
    · rename_i hv
      exact hp text [] (.inl rfl) hv fun _ => rfl
    · rename_i hv
      exact fresh (by simpa using hv)

/-- How an exception of the inner layers leaves the outermost middleware. -/
private theorem observed_error {begun h' : Past} {e : Exn} (hsent : sent begun = []) (hhttp : httpRequests begun = [])
    (hfaults : faults begun = []) (hfile : begun.any refusedFile = false)
    (hx : Responded app request begun h' (.error e)) :
    Observed app request (⟨.contextReset none, ()⟩ :: h') (.error e) := by
  obtain ⟨hr, f, rfl, hf⟩ := hx
  split at hf
  · rename_i hw
    obtain ⟨rfl, rfl⟩ := hf
    exact ⟨hsent, hhttp, rfl, _, rfl, .redirect hw rfl hfaults ⟨hr, hfile⟩⟩
  · rename_i hw
    obtain ⟨before, raised, calm, hf, hs⟩ := hf
    obtain ⟨sentBefore, httpBefore, _, file⟩ := views_of_fault hf before
    have hmute : Extends mute (raised :: before) (⟨.contextReset none, ()⟩ :: h') :=
      (hs.mono fun _ => mute_of_silent).push rfl
    have hcalm := tame_extends calm
    refine ⟨?_, ?_, rfl, f, rfl, .call hf ?_ hmute (by simpa using hw) ⟨hr, ?_⟩⟩
    · rw [sent_mute hmute, sentBefore, sent_extends hcalm, hsent]
    · rw [httpRequests_mute hmute, httpBefore, httpRequests_extends hcalm, hhttp]
    · rw [faults_extends hcalm, hfaults]
    · show List.any h' refusedFile = false
      rw [refusedFile_extends (hs.mono fun _ => calm_of_silent), List.any_cons, file, refusedFile_extends calm, hfile]
      rfl

theorem Served.extends {h' : Past} {requestId path : String} {duration : Int} {inner : Response}
    (hs : Served app request h requestId path duration inner) (hx : Extends calm h h') :
    Served app request h' requestId path duration inner where
  redirected := hs.redirected
  parsed := hs.parsed
  calls := (faults_extends (tame_extends hx)).trans hs.calls
  pattern := hs.pattern
  own := hs.own
  answer := by
    rw [refusedFile_extends hx]
    exact hs.answer
  counted := (httpRequests_extends (tame_extends hx)).trans hs.counted

/-- The log line after the count. -/
private theorem logged_served (path : String) (duration : Int) {requestId : String} {inner : Response}
    {fields : EventDict} {method : String} (hsent : sent h = []) (hs : Served app request h requestId path duration inner) :
    Meets (requestContract method) (do
      app.replica.log.log .info "http_request" fields
      pure (inner.setHeader "x-request-id" requestId)) h (Observed app request) := by
  rw [Meets.bind_iff]
  refine log_request fun time => ⟨(sent_extends (tame_extends logged_extends)).trans hsent, ?_⟩
  exact ⟨requestId, path, duration, inner, hs.extends logged_extends, rfl⟩

theorem routeLabel_mem (app : Application) (request : Request) : app.routeLabel request ∈ routeLabels := by
  rw [Application.routeLabel]
  split
  · exact List.mem_cons_self
  · exact label_mem _ _

theorem requestObservability_outcome :
    Meets (requestContract request.method) (app.requestObservability request (app.corsMiddleware request
      (app.trustedHostMiddleware request (exceptionMiddleware app.replica.log (app.router request))))) []
      (Observed app request) := by
  rw [Application.requestObservability]
  refine requestIdOrNew_meets fun requestId h₀ hnew pattern own => ?_
  refine perform_request (by simp) fun token htoken => perform_request (by simp) fun started _ => ?_
  obtain rfl : token = none := by
    rcases hnew with rfl | ⟨random, rfl⟩ <;> exact htoken
  obtain ⟨hsent, hhttp, hfaults, hfile⟩ : sent (⟨.perfCounter, started⟩ :: ⟨.contextSet requestId, none⟩ :: h₀) = [] ∧
      httpRequests (⟨.perfCounter, started⟩ :: ⟨.contextSet requestId, none⟩ :: h₀) = [] ∧
      faults (⟨.perfCounter, started⟩ :: ⟨.contextSet requestId, none⟩ :: h₀) = [] ∧
      List.any (⟨.perfCounter, started⟩ :: ⟨.contextSet requestId, none⟩ :: h₀) refusedFile = false := by
    rcases hnew with rfl | ⟨random, rfl⟩ <;> exact ⟨rfl, rfl, rfl, rfl⟩
  have hcontext : contextAfter (⟨.perfCounter, started⟩ :: ⟨.contextSet requestId, none⟩ :: h₀) = some requestId := rfl
  generalize (⟨.perfCounter, started⟩ :: ⟨.contextSet requestId, none⟩ :: h₀ : Past) = begun at *
  rw [Meets.bind_iff, Meets.ensuring_iff]
  refine (corsMiddleware_outcome hfile).mono fun h' x hx => (Meets.call_seen rfl _ _).mpr ⟨fun _ he => (by cases he), fun _ _ => ?_⟩
  cases x with
  | error e => exact observed_error hsent hhttp hfaults hfile hx
  | ok inner =>
    obtain ⟨hw, hx, ha⟩ := hx
    rw [hcontext] at ha
    refine perform_request (by simp) fun finished _ => ?_
    have sentHere : sent h' = [] := (sent_extends hx).trans hsent
    have httpHere : httpRequests h' = [] := (httpRequests_extends hx).trans hhttp
    have faultsHere : faults h' = [] := (faults_extends hx).trans hfaults
    cases hpath : app.framework.urlPath request with
    | none => exact ⟨sentHere, httpHere, rfl, _, rfl, .path hpath rfl faultsHere hw⟩
    | some path =>
      show Meets _ (if path ∉ Application.excludedMetricPaths then _ else _) _ _
      split
      · rename_i hp
        refine record_request (by exact ⟨rfl, routeLabel_mem app request, ha.status⟩) ?_
        refine logged_served path (finished - started) (show sent h' = [] from sentHere) ?_
        exact ⟨hw, hpath, faultsHere, pattern, own, ha, by rw [if_neg hp, ← httpHere]; rfl⟩
      · rename_i hp
        refine logged_served path (finished - started) (show sent h' = [] from sentHere) ?_
        exact ⟨hw, hpath, faultsHere, pattern, own, ha, by rw [if_pos (not_not.mp hp), ← httpHere]; rfl⟩

/-- The answer to an unexpected exception, from outside the request context. -/
def internalError : Response :=
  .jsonResponse 500 (envelope "INTERNAL_ERROR" "An unexpected error occurred." "unknown")

/-- The server's own answer when nothing has been sent. -/
def serverError : Response := .plainText 500 "Internal Server Error"

def crashLine (f : Foreign) : String := "Exception in ASGI application\n" ++ f.traceback

/-- The history after an exception has left the outermost middleware of the application. -/
def Application.afterwards (self : Application) (f : Foreign) (time : Int) (before : Past) : Past :=
  if f.kind = .cancelled then ⟨.send serverError, ()⟩ :: ⟨.print (crashLine f), ()⟩ :: before
  else
    ⟨.print (crashLine f), ()⟩ :: ⟨.send internalError, ()⟩ :: ⟨.contextGet, none⟩ ::
      logged self.replica.log .error
        [("error_type", .text "INTERNAL_ERROR"), ("event", .text "unexpected_request_failure")] time before

/-- How the server is done with a request. -/
inductive ServeRun (app : Application) (request : Request) : Past → Prop
  | served {before : Past} {requestId path : String} {duration : Int} {inner : Response} (unsent : sent before = [])
      (served : Served app request before requestId path duration inner) :
      ServeRun app request (⟨.send (inner.setHeader "x-request-id" requestId), ()⟩ :: before)
  | failed {before : Past} {f : Foreign} (time : Int) (unsent : sent before = []) (uncounted : httpRequests before = [])
      (left : contextAfter before = none) (origin : Origin app request before f) :
      ServeRun app request (app.afterwards f time before)

/-- The specification of the server. -/
theorem serve_meets (app : Application) (request : Request) :
    Meets (requestContract request.method) (app.serve request) [] fun h _ => ServeRun app request h := by
  rw [Application.serve, Meets.tryCatch_iff, Application.asgi, Application.serverErrorMiddleware, Meets.tryCatch_iff,
    Meets.bind_iff]
  refine requestObservability_outcome.mono fun h x hx => ?_
  cases x with
  | ok response =>
    obtain ⟨hsent, requestId, path, duration, inner, served, rfl⟩ := hx
    exact (Meets.call_seen rfl _ _).mpr ⟨fun _ he => (by cases he), fun _ _ => .served hsent served⟩
  | error e =>
    obtain ⟨hsent, hhttp, hcontext, f, rfl, origin⟩ := hx
    have run := fun time => ServeRun.failed time hsent hhttp hcontext origin
    by_cases hk : f.kind = .cancelled
    · have hex : (Exn.foreign f).isException = false := by simp [Exn.isException, hk]
      simp only [Application.afterwards, hk, if_true] at run
      simp only [hex]
      refine perform_request (by simp) fun _ _ => ?_
      show Meets _ (if !(Exn.foreign f).isException then _ else _) _ _
      rw [hex]
      exact (Meets.call_seen rfl _ _).mpr ⟨fun _ he => (by cases he), fun _ _ => run 0⟩
    · have hex : (Exn.foreign f).isException = true := by simp [Exn.isException, hk]
      simp only [Application.afterwards, hk, if_false] at run
      simp only [hex, if_true]
      rw [unexpectedErrorHandler, Meets.bind_iff, Meets.bind_iff]
      refine log_request fun time => ?_
      rw [Meets.bind_iff, envelopeInContext, Meets.bind_iff]
      refine contextGet_request ?_
      rw [contextAfter_extends (tame_extends logged_extends), hcontext]
      refine perform_request (by simp) fun _ _ => perform_request (by simp) fun _ _ => ?_
      show Meets _ (if !(Exn.foreign f).isException then _ else _) _ _
      rw [hex]
      exact run time

end IpCountryApi.Http
