import IpCountryApi.Http.OuterLayers

/-! What a request can make the application do: which calls, of which tables and services,
with which arguments, and which answers to a lookup. -/
namespace IpCountryApi.Http
open Library Domain Execution Observability Services Providers

namespace Application
variable (self : Application) (request : Request)

/-- The middlewares hand the request on to the router. -/
def Routed : Prop := self.preflight request = none ∧ self.trustedHost request = true

def Reaches (endpoint : Endpoint) : Prop :=
  self.Routed request ∧ ∃ route, destination request.method request.path = .endpoint route ∧ route.endpoint = endpoint

/-- The text that the request wants looked up. -/
def Asked (text : String) : Prop :=
  ∃ value payload, request.body = .json value ∧ LookupRequest.modelValidate value = some payload ∧ payload.ip = text

/-- The request is a lookup of this public address. -/
def Submits (ip : IPAddress) : Prop :=
  self.Reaches request .createLookup ∧ ∃ text, Asked request text ∧ validatePublicIp text = .ok ip

/-- The JSON answers to a lookup: what was found for the address in the request, an error of the
service, or the refusal by the framework of a body that it cannot read. -/
inductive AnswersLookup : Nat → Json → Prop
  | found {text : String} {result : LookupResult} (asked : Asked request text) (ip : validatePublicIp text = .ok result.ip)
      (encodes : result.countryName.encodes = true) : AnswersLookup 200 (self.lookupResponse result)
  | failed (e : AppError) (requestId : String) : AnswersLookup e.statusCode (envelope e.code e.message requestId)
  | invalid (requestId : String) :
      AnswersLookup 422 (envelope "INVALID_IP" "The request must contain one valid IP address." requestId)
  | unexpected (requestId : String) :
      AnswersLookup 500 (envelope "INTERNAL_ERROR" "An unexpected error occurred." requestId)
  | refused (unreadable : request.body = .unreadable) :
      AnswersLookup 400 (.object [("detail", .str "There was an error parsing the body")])

/-- The response carries such an answer as JSON. -/
def IsLookupAnswer (response : Response) : Prop :=
  response.header "content-type" = some "application/json" ∧
    ∃ content, response.body = .json content ∧ self.AnswersLookup request response.status content

/-- What the request may make the application ask for and send. -/
def Permitted : Query → Prop
  | .uuid4 | .contextGet | .contextSet _ | .contextReset _ | .perfCounter | .timestamp | .print _ => True
  | .send response => self.Reaches request .createLookup →
      self.IsLookupAnswer request response ∨ response = .plainText 500 "Internal Server Error"
  | .metric (.httpRequest method route _ _) => method = request.method ∧ route = self.routeLabel request ∧
      ∃ path, self.framework.urlPath request = some path ∧ path ∉ excludedMetricPaths
  | .scrape => self.Reaches request .metrics
  | .readinessProbe => self.Reaches request .ready
  | .template name => self.Reaches request .index ∧ name = "index.html"
  | .staticFile method path => self.Routed request ∧ destination method path = .static ∧ method = request.method ∧
      path = request.path ∧ (method = "GET" ∨ method = "HEAD")
  | q => ∃ ip, self.Submits request ip ∧ LookupAsks self.replica.provider self.replica.ttlSeconds ip q

end Application

namespace Application
variable {app : Application} {request : Request} {response : Response}

theorem IsLookupAnswer.setHeader (h : app.IsLookupAnswer request response) {name : String} (hname : name ≠ "content-type")
    (value : String) : app.IsLookupAnswer request (response.setHeader name value) := by
  refine ⟨?_, h.2⟩
  rw [Response.header_setHeader_ne _ hname]
  exact h.1

theorem isLookupAnswer_json {status : Nat} {content : Json} (h : app.AnswersLookup request status content) :
    app.IsLookupAnswer request (.jsonResponse status content) := ⟨rfl, content, rfl, h⟩

/-- The framework refuses a lookup for its body only. -/
def Refusal (request : Request) : Exn → Prop
  | .http e => e = .unparsableBody ∧ request.body = .unreadable
  | _ => True

/-- How the inner layers leave a request. -/
def Inner (app : Application) (request : Request) : Except Exn Response → Prop
  | .ok response => app.Reaches request .createLookup → app.IsLookupAnswer request response
  | .error e => app.Reaches request .createLookup → Refusal request e

/-- An endpoint other than the lookup. -/
theorem Inner.of_not_reaches (hr : ¬ app.Reaches request .createLookup) (x : Except Exn Response) : Inner app request x := by
  cases x <;> exact fun h => absurd h hr

theorem permitted_lookup {ip : IPAddress} (h : app.Submits request ip) {q : Query}
    (hq : LookupAsks app.replica.provider app.replica.ttlSeconds ip q) : app.Permitted request q := by
  cases q with
  | metric call =>
    cases call with
    | httpRequest => exact hq.elim
    | _ => exact ⟨ip, h, hq⟩
  | contextGet | perfCounter | timestamp | print => trivial
  | uuid4 | contextSet | contextReset | send | scrape | readinessProbe | template | staticFile => exact hq.elim
  | _ => exact ⟨ip, h, hq⟩

theorem createLookup_within (hr : app.Reaches request .createLookup) :
    Within (app.Permitted request) (Inner app request) (app.createLookup request) := by
  have found : ∀ payload : LookupRequest, Asked request payload.ip →
      Within (app.Permitted request) (Inner app request) (do
        let result ← app.replica.service.lookup payload.ip
        if result.countryName.encodes then pure (Response.jsonResponse 200 (app.lookupResponse result))
        else throw (.foreign (valueError "UnicodeEncodeError"))) := by
    intro payload asked
    apply Within.bind
    · exact (lookup_within app.replica payload.ip).mono
        (fun q ⟨ip, hip, hq⟩ => permitted_lookup ⟨hr, payload.ip, asked, hip⟩ hq) fun _ h => h
    · intro result hresult
      split
      · rename_i encodes
        exact fun _ => isLookupAnswer_json (.found asked hresult encodes)
      · exact fun _ => trivial
    · intro e he _
      cases e with
      | http error => exact he.elim
      | app | requestValidation | retryable | foreign => trivial
  rw [createLookup, payload]
  cases hbody : request.body with
  | json value =>
    dsimp only
    cases hvalid : LookupRequest.modelValidate value with
    | none => exact fun _ => trivial
    | some payload => exact found payload ⟨value, payload, hbody, hvalid, rfl⟩
  | absent | bytes | malformedJson => exact fun _ => trivial
  | unreadable => exact fun _ => ⟨rfl, hbody⟩

theorem ready_within (hr : app.Reaches request .ready) :
    Within (app.Permitted request) (fun _ => True) app.ready := by
  rw [ready]
  apply Within.tryCatch (E := fun _ => True)
  · apply Within.bind (E := fun _ => True)
    · apply Within.tryCatch (E := fun _ => True)
      · exact perform_within hr fun probed => settle_within trivial
      · exact fun _ _ => trivial
      · intro e _
        rw [notReady.eq_def]
        repeat' split
        all_goals trivial
    · exact fun _ _ => trivial
    · exact fun _ _ => trivial
  · exact fun _ _ => trivial
  · intro e _
    split <;> trivial

theorem staticFiles_within (hr : app.Routed request) (hd : destination request.method request.path = .static) :
    Within (app.Permitted request) (fun _ => True) (staticFiles request) := by
  rw [staticFiles]
  split
  · rename_i hmethod
    refine perform_within ⟨hr, hd, rfl, rfl, hmethod⟩ fun found => ?_
    apply Within.bind (E := fun _ => True) (settle_within trivial)
    · intro answer _
      cases answer <;> trivial
    · exact fun _ _ => trivial
  · trivial

theorem handle_within {route : Route} (hr : app.Routed request) (hd : destination request.method request.path = .endpoint route) :
    Within (app.Permitted request) (Inner app request) (app.handle request route.endpoint) := by
  have reaches : ∀ endpoint, route.endpoint = endpoint → app.Reaches request endpoint := fun _ he => ⟨hr, route, hd, he⟩
  -- a request reaches one endpoint only
  have other : route.endpoint ≠ .createLookup → ∀ x, Inner app request x := by
    intro hne
    apply Inner.of_not_reaches
    rintro ⟨_, route', hd', he⟩
    rw [hd] at hd'
    cases hd'
    exact hne he
  cases he : route.endpoint with
  | createLookup => exact createLookup_within (reaches _ he)
  | openapi | swaggerUi | oauth2Redirect | redoc | live => exact other (by rw [he]; decide) _
  | metrics => exact perform_within (q := .scrape) (reaches _ he) fun _ => other (by rw [he]; decide) _
  | ready => exact (ready_within (reaches _ he)).mono (fun _ h => h) fun x _ => other (by rw [he]; decide) x
  | index =>
    refine perform_within ⟨reaches _ he, rfl⟩ fun rendered => ?_
    have index := other (by rw [he]; decide)
    exact Within.bind (E := fun _ => True) (settle_within trivial) (fun _ _ => index _) fun _ _ => index _

theorem router_within (hr : app.Routed request) : Within (app.Permitted request) (Inner app request) (app.router request) := by
  have other : (∀ route, destination request.method request.path ≠ .endpoint route) → ∀ x, Inner app request x := by
    intro hne
    apply Inner.of_not_reaches
    rintro ⟨_, route, hd, _⟩
    exact hne route hd
  rw [router]
  cases hd : destination request.method request.path with
  | endpoint route => exact handle_within hr hd
  | static => exact (staticFiles_within hr hd).mono (fun _ h => h) fun x _ => other (by simp [hd]) x
  | redirect => exact other (by simp [hd]) _
  | methodNotAllowed | notFound => exact other (by simp [hd]) _

theorem appErrorHandler_within (log : LogConfig) (e : AppError) :
    Within (app.Permitted request) (Inner app request) (appErrorHandler log e) := by
  apply Within.bind (log_within trivial trivial (fun _ => trivial) log .warning "request_failed" _)
  · intro _ _
    exact ⟨trivial, fun id _ => isLookupAnswer_json (.failed e _)⟩
  · rintro _ ⟨⟩

theorem exceptionMiddleware_within (log : LogConfig) (hr : app.Routed request) :
    Within (app.Permitted request) (Inner app request) (exceptionMiddleware log (app.router request)) := by
  apply Within.tryCatch (router_within hr)
  · exact fun _ h => h
  · intro e he
    cases e with
    | app e => exact appErrorHandler_within log e
    | requestValidation => exact ⟨trivial, fun id _ => isLookupAnswer_json (.invalid _)⟩
    | http e =>
      intro hreaches
      obtain ⟨rfl, unreadable⟩ := he hreaches
      exact isLookupAnswer_json (.refused unreadable)
    | retryable | foreign => exact fun _ => trivial

theorem trustedHostMiddleware_within (hp : app.preflight request = none) :
    Within (app.Permitted request) (Inner app request)
      (app.trustedHostMiddleware request (exceptionMiddleware app.replica.log (app.router request))) := by
  rw [trustedHostMiddleware]
  split
  · rename_i ht
    exact exceptionMiddleware_within app.replica.log ⟨hp, ht⟩
  · rename_i ht
    have unreached : ∀ x, Inner app request x := Inner.of_not_reaches fun hr => ht hr.1.2
    split
    · apply Within.bind (E := fun _ => True)
      · rw [orValueError.eq_def]
        split <;> trivial
      · exact fun _ _ => unreached _
      · exact fun _ _ => unreached _
    · exact unreached _

theorem Inner.simpleResponse {origin : String} (h : Inner app request (.ok response)) :
    Inner app request (.ok (app.simpleResponse request origin response)) := by
  intro hr
  obtain ⟨htype, content, hbody, hanswers⟩ := h hr
  refine ⟨?_, content, ?_, ?_⟩
  · rw [Application.simpleResponse, Response.header_setHeaders _ (app.framework.contentType_kept _ _ _), htype]
  · rw [Application.simpleResponse, Response.setHeaders_body, hbody]
  · rw [Application.simpleResponse, Response.setHeaders_status]
    exact hanswers

theorem corsMiddleware_within :
    Within (app.Permitted request) (Inner app request) (app.corsMiddleware request
      (app.trustedHostMiddleware request (exceptionMiddleware app.replica.log (app.router request)))) := by
  rw [corsMiddleware]
  cases hp : app.preflight request with
  | some asked =>
    intro hr
    rw [hr.1.1] at hp
    cases hp
  | none =>
    apply Within.bind (trustedHostMiddleware_within hp)
    · intro response hresponse
      split
      · split
        · exact hresponse.simpleResponse
        · exact hresponse
      · exact hresponse
    · exact fun _ h => h

theorem serve_within (app : Application) (request : Request) :
    Within (app.Permitted request) (fun _ => True) (app.serve request) := by
  have covers : app.Covers request (app.Permitted request) (Inner app request) := by
    refine ⟨?_, ?_, ?_, ?_, ?_⟩
    · intro q hq
      cases q with
      | uuid4 | contextGet | contextSet | contextReset | perfCounter | timestamp | print => trivial
      | _ => cases hq
    · exact fun status duration path hpath hexcluded => ⟨rfl, rfl, path, hpath, hexcluded⟩
    · exact fun response requestId h hr => .inl ((h hr).setHeader (by decide) requestId)
    · exact fun _ requestId _ => .inl (isLookupAnswer_json (.unexpected requestId))
    · exact fun _ _ => .inr rfl
  exact (serve_within_inner covers corsMiddleware_within).mono (fun _ h => h) fun _ _ => trivial

end Application

section Runs
variable {T : InetType} {apps : Nat → Application} {w : World T} {c : Config Query Reply Exn Unit HttpJob (World T)}

/-- In every interleaving, a request only makes calls that it permits: without a trusted host or
as a preflight none outside the task, and those of a lookup only for its own public address. -/
theorem calls_confined (hc : (serving T apps).Reachable w c) {t : Task Query Reply Exn Unit HttpJob} (ht : t ∈ c.tasks)
    {e : Answered} (he : e ∈ t.history) : (apps t.job.replica).Permitted t.job.request e.query :=
  (hc.within (fun j => Application.serve_within (apps j.replica) j.request) ht).2 e he

/-- The row is for the address of a lookup among the requests, with the provider and the lifetime
of its replica. -/
def Requested (apps : Nat → Application) (c : Config Query Reply Exn Unit HttpJob (World T)) (row : Row T) : Prop :=
  ∃ t ∈ c.tasks, ∃ ip, (apps t.job.replica).Submits t.job.request ip ∧ T.input ip.str = some row.ipAddress ∧
    row.provider = (apps t.job.replica).replica.provider.name ∧
    row.expiresAt = row.fetchedAt + (apps t.job.replica).replica.ttlSeconds * 1000000

theorem Requested.later {c' : Config Query Reply Exn Unit HttpJob (World T)} {row : Row T} (h : Requested apps c row)
    (hs : (serving T apps).Step c c') : Requested apps c' row := by
  obtain ⟨t, ht, ip, hrequested⟩ := h
  obtain ⟨i, hi⟩ := List.mem_iff_getElem?.mp ht
  obtain ⟨t', ht', hjob, -⟩ := System.Steps.task (.single hs) hi
  exact ⟨t', List.mem_of_getElem? ht', ip, hjob ▸ hrequested⟩

/-- The table holds its first rows and rows that were requested, and if no request is a lookup
of a public address, it stays as it was. -/
structure RowsRequested (apps : Nat → Application) (w : World T) (c : Config Query Reply Exn Unit HttpJob (World T)) : Prop where
  rows : ∀ row ∈ c.world.table, row ∈ w.table ∨ Requested apps c row
  untouched : (∀ t ∈ c.tasks, ∀ ip, ¬ (apps t.job.replica).Submits t.job.request ip) → c.world.table = w.table

theorem commit_submits (hc : (serving T apps).Reachable w c) {i : Nat} {j : HttpJob} {statement : UpsertStatement}
    {k : Reply (.commit statement) → Prog Unit} {h : Past} (hi : c.tasks[i]? = some ⟨j, .ask (.commit statement) k, h⟩) :
    ∃ ip, (apps j.replica).Submits j.request ip ∧
      Stores (apps j.replica).replica.provider (apps j.replica).replica.ttlSeconds ip statement :=
  (hc.within (fun j => Application.serve_within (apps j.replica) j.request) (List.mem_of_getElem? hi)).1.1

/-- An instant that is some time later. -/
theorem instant_add (value : Datetime) (delta : Int) : (value.add delta).instant = value.instant + delta := by
  rw [Datetime.add, Datetime.instant, Datetime.instant]
  ring

theorem table_requested (hw : (w.table.map Row.ipAddress).Nodup) (hc : (serving T apps).Reachable w c) :
    (c.world.table.map Row.ipAddress).Nodup ∧ RowsRequested apps w c := by
  refine hc.invariant (I := fun c => (c.world.table.map Row.ipAddress).Nodup ∧ RowsRequested apps w c)
    ⟨hw, fun row hrow => .inl hrow, fun _ => rfl⟩ fun c c' hc ih hs => ?_
  obtain ⟨hnodup, ih⟩ := ih
  have later : ∀ row, row ∈ w.table ∨ Requested apps c row → row ∈ w.table ∨ Requested apps c' row := fun row h =>
    h.imp_right fun h => h.later hs
  have same : c'.world.table = c.world.table → (c'.world.table.map Row.ipAddress).Nodup ∧ RowsRequested apps w c' := by
    intro htable
    rw [htable]
    refine ⟨hnodup, fun row hrow => later row (ih.rows row (htable ▸ hrow)), fun hnone => htable.trans (ih.untouched ?_)⟩
    intro t ht ip hsubmits
    obtain ⟨i, hi⟩ := List.mem_iff_getElem?.mp ht
    obtain ⟨t', ht', hjob, -⟩ := System.Steps.task (.single hs) hi
    exact hnone t' (List.mem_of_getElem? ht') ip (hjob ▸ hsubmits)
  cases hs with
  | launch j => exact same rfl
  | answer i j q k h r waiting enabled =>
    have htable : ((serving T apps).answer c i j q k h r).world.table = World.written ⟨q, r⟩ c.world.table :=
      World.after_table c.world i j.replica ⟨q, r⟩
    rcases World.written_cases ⟨q, r⟩ c.world.table with hsame | ⟨statement, he, hwritten⟩
    · exact same (htable.trans hsame)
    · cases he
      obtain ⟨ip, hsubmits, hstores⟩ := commit_submits hc waiting
      rw [hwritten] at htable
      obtain ⟨hi, -⟩ := List.getElem?_eq_some_iff.mp waiting
      have writer : (⟨j, k (.ok ()), ⟨.commit statement, .ok ()⟩ :: h⟩ : Task Query Reply Exn Unit HttpJob) ∈
          ((serving T apps).answer c i j (.commit statement) k h (.ok ())).tasks := List.mem_set hi _
      rw [htable]
      refine ⟨UpsertStatement.nodup_write hnodup, ?_, fun hnone => absurd hsubmits (hnone _ writer ip)⟩
      intro row hrow
      rw [htable] at hrow
      rcases UpsertStatement.mem_write_wrote hnodup hrow with hold | hwrote
      · exact later row (ih.rows row hold)
      · have hexpires : statement.expiresAt.instant = statement.fetchedAt.instant + (apps j.replica).replica.ttlSeconds * 1000000 := by
          rw [hstores.expiresAt, instant_add]
        refine .inr ⟨_, writer, ip, hsubmits, hstores.ipAddress ▸ hwrote.ipAddress, hwrote.provider.trans hstores.provider, ?_⟩
        rw [hwrote.expiresAt, hwrote.fetchedAt]
        exact hexpires

theorem rows_requested (hw : (w.table.map Row.ipAddress).Nodup) (hc : (serving T apps).Reachable w c) :
    RowsRequested apps w c := (table_requested hw hc).2

def isCommit (e : Answered) : Bool :=
  match e.query with
  | .commit _ => true
  | _ => false

/-- A lookup that misses the cache and writes its row. -/
def writtenRun : (serving hostAddresses fun _ => fakeApplication).Recording (.start hostAddresses "0.1.0" true)
    fun c => c.tasks.any (fun t => t.history.any isCommit) && decide (c.world.table ≠ []) where
  moves := .launch ⟨0, googleRequest⟩ :: List.replicate 40 (.reply 0 (serverReplies (some "a") (.ok none)))
  passes := by decide +kernel

theorem calls_confined_example : ∃ (c : Config Query Reply Exn Unit HttpJob (World hostAddresses)) (t : Task Query Reply Exn Unit HttpJob)
    (e : Answered), t ∈ c.tasks ∧ e ∈ t.history ∧ isCommit e = true ∧ fakeApplication.Permitted t.job.request e.query := by
  obtain ⟨c, hc, hp⟩ := writtenRun.reaches
  obtain ⟨t, ht, hcommit⟩ := List.any_eq_true.mp (Bool.and_eq_true_iff.mp hp).1
  obtain ⟨e, he, hcommit⟩ := List.any_eq_true.mp hcommit
  have permitted : ((fun _ => fakeApplication) t.job.replica : Application).Permitted t.job.request e.query :=
    @calls_confined _ (fun _ => fakeApplication) _ _ hc t ht e he
  exact ⟨c, t, e, ht, he, hcommit, permitted⟩

theorem rows_requested_example : ∃ c : Config Query Reply Exn Unit HttpJob (World hostAddresses), c.world.table ≠ [] ∧
    RowsRequested (fun _ => fakeApplication) (.start hostAddresses "0.1.0" true) c := by
  obtain ⟨c, hc, hp⟩ := writtenRun.reaches
  exact ⟨c, of_decide_eq_true (Bool.and_eq_true_iff.mp hp).2, rows_requested List.nodup_nil hc⟩

end Runs
end IpCountryApi.Http
