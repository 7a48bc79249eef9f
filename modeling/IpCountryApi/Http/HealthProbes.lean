import IpCountryApi.Http.OuterLayers

/-! The probes of the deployment: what their answers depend on. -/
namespace IpCountryApi.Http
open Library Domain Execution Observability Services

/-- A probe as the chart configures it. -/
structure Probe (path : String) (request : Request) : Prop where
  method : request.method = "GET"
  path : request.path = path
  host : request.header "host" = some "localhost"

/-- The calls outside the process and the responses, newest first. -/
def outside (h : Past) : Past := h.filter fun e => !isOwnCall e.query

def isSend : Query → Bool
  | .send _ => true
  | _ => false

def isSendOrProbe : Query → Bool
  | .send _ | .readinessProbe => true
  | _ => false

/-- Sees the calls outside the process, which are only such as are allowed. -/
def outsideContract (allows : Query → Prop) : Contract Query Reply where
  sees q := !isOwnCall q
  rely _ _ := True
  guar _ q := allows q

/-- The status that the server answers an outcome of the inner layers with. -/
def statusOf : Except Exn Response → Nat
  | .ok response => response.status
  | .error _ => 500

section Rules
variable {allows : Query → Prop} {h : Past} {α β : Type}

theorem own_meets {q : Query} (hq : isOwnCall q = true) {f : Reply q → Prog β} {post : Past → Except Exn β → Prop}
    (hf : ∀ r, Meets (outsideContract allows) (f r) h post) : Meets (outsideContract allows) (perform q >>= f) h post :=
  (perform_unseen (by simp [outsideContract, hq])).mpr hf

theorem outside_meets {q : Query} (hq : isOwnCall q = false) (hallowed : allows q) {f : Reply q → Prog β}
    {post : Past → Except Exn β → Prop} (hf : ∀ r, Meets (outsideContract allows) (f r) (⟨q, r⟩ :: h) post) :
    Meets (outsideContract allows) (perform q >>= f) h post :=
  (perform_seen (by simp [outsideContract, hq])).mpr ⟨hallowed, fun r _ => hf r⟩

/-- Logging stays in the process, and does not raise. -/
theorem log_meets {log : LogConfig} {level : LogLevel} {event : String} {fields : EventDict} {post : Past → Except Exn Unit → Prop}
    (hp : post h (.ok ())) : Meets (outsideContract allows) (log.log level event fields) h post := by
  rw [LogConfig.log]
  split
  · exact hp
  · rw [Meets.bind_iff, requestIdContextGet]
    refine own_meets rfl fun context => ?_
    show Meets _ (perform .timestamp >>= _) _ post
    exact own_meets rfl fun time => (Meets.call_unseen rfl _ _).mpr fun _ => hp

theorem requestIdOrNew_bind_meets {value : Option String} {f : String → Prog β} {post : Past → Except Exn β → Prop}
    (hf : ∀ requestId, Meets (outsideContract allows) (f requestId) h post) :
    Meets (outsideContract allows) (requestIdOrNew value >>= f) h post := by
  have fresh : Meets (outsideContract allows) (requestIdOrNew.fresh >>= f) h post := own_meets rfl fun random => hf _
  cases value with
  | none => exact fresh
  | some text =>
    show Meets _ ((if validRequestId (some text) then pure text else requestIdOrNew.fresh) >>= f) _ _
    split
    · exact hf text
    · exact fresh

end Rules

namespace Application
variable {app : Application} {request : Request} {allows : Query → Prop} {answered : Past → Nat → Prop}

/-- The layer's answer has a status as told by the calls before it. -/
abbrev Answers (allows : Query → Prop) (answered : Past → Nat → Prop) (layer : Prog Response) : Prop :=
  Meets (outsideContract allows) layer [] fun h x => answered h (statusOf x)

theorem answers_corsMiddleware (hp : app.preflight request = none) {layer : Prog Response} (inner : Answers allows answered layer) :
    Answers allows answered (app.corsMiddleware request layer) := by
  have status : ∀ origin response, (app.simpleResponse request origin response).status = response.status :=
    fun _ response => response.setHeaders_status _
  rw [Answers, corsMiddleware, hp, Meets.bind_iff]
  refine inner.mono fun h x hx => ?_
  cases x with
  | error e => exact hx
  | ok response =>
    dsimp only
    split
    · split
      · show answered h (app.simpleResponse request _ response).status
        rw [status]
        exact hx
      · exact hx
    · exact hx

theorem answers_requestObservability {path : String} (hpath : app.framework.urlPath request = some path)
    (hexcluded : path ∈ excludedMetricPaths) {layer : Prog Response} (inner : Answers allows answered layer) :
    Answers allows answered (app.requestObservability request layer) := by
  rw [Answers, requestObservability]
  refine requestIdOrNew_bind_meets fun requestId => own_meets rfl fun token => own_meets rfl fun started => ?_
  rw [Meets.bind_iff, Meets.ensuring_iff]
  refine inner.mono fun h x hx => (Meets.call_unseen rfl _ _).mpr fun _ => ?_
  cases x with
  | error e => exact hx
  | ok response =>
    refine own_meets rfl fun finished => ?_
    rw [hpath]
    show Meets _ (if path ∉ excludedMetricPaths then _ else _) _ _
    rw [if_neg (not_not.mpr hexcluded)]
    rw [Meets.bind_iff]
    exact log_meets hx

/-- Whatever happens inside, one response is sent. -/
theorem serve_answers (hsend : ∀ response, allows (.send response)) {path : String}
    (hpath : app.framework.urlPath request = some path) (hexcluded : path ∈ excludedMetricPaths)
    (inner : Answers allows answered (app.corsMiddleware request (app.trustedHostMiddleware request
      (exceptionMiddleware app.replica.log (app.router request))))) :
    Meets (outsideContract allows) (app.serve request) [] fun h _ =>
      ∃ before response, h = ⟨.send response, ()⟩ :: before ∧ answered before response.status := by
  have send : ∀ {before : Past} {response : Response}, answered before response.status →
      Meets (outsideContract allows) (perform (.send response)) before fun h _ =>
        ∃ before response, h = ⟨.send response, ()⟩ :: before ∧ answered before response.status :=
    fun h => (Meets.call_seen rfl _ _).mpr ⟨hsend _, fun _ _ => ⟨_, _, rfl, h⟩⟩
  rw [serve, Meets.tryCatch_iff, asgi, serverErrorMiddleware, Meets.tryCatch_iff, Meets.bind_iff]
  refine (answers_requestObservability hpath hexcluded inner).mono fun before x hx => ?_
  cases x with
  | ok response => exact send hx
  | error e =>
    cases he : e.isException with
    | true =>
      show Meets _ (if e.isException then _ else _) _ _
      rw [if_pos he, unexpectedErrorHandler, Meets.bind_iff, Meets.bind_iff]
      refine log_meets ?_
      rw [Meets.bind_iff, envelopeInContext, Meets.bind_iff, requestIdContextGet, Meets.bind_iff]
      refine own_meets rfl fun context => outside_meets rfl (hsend _) fun _ => own_meets rfl fun _ => ?_
      show Meets _ (if !e.isException then _ else _) _ _
      rw [if_neg (by simp [he])]
      exact ⟨_, _, rfl, hx⟩
    | false =>
      show Meets _ (if e.isException then _ else _) _ _
      rw [if_neg (by simp [he])]
      refine own_meets rfl fun _ => ?_
      show Meets _ (if !e.isException then _ else _) _ _
      rw [if_pos (by simp [he])]
      exact send hx

/-- The status that tells the kubelet how the readiness check ended. -/
def readyStatus : Except Foreign Unit → Nat
  | .ok _ => 200
  | .error f => if isNotReady f.kind then 503 else 500

/-- A layer whose exceptions are not the application's own. -/
def Raises (allows : Query → Prop) (answered : Past → Nat → Prop) (layer : Prog Response) : Prop :=
  Meets (outsideContract allows) layer [] fun h x => answered h (statusOf x) ∧ ∀ e, x = .error e → ∃ f, e = .foreign f

/-- The only call of a readiness check, and what it told. -/
def Reflected (h : Past) (status : Nat) : Prop := ∃ reply, h = [⟨.readinessProbe, reply⟩] ∧ status = readyStatus reply

theorem ready_raises (hprobe : allows .readinessProbe) : Raises allows Reflected app.ready := by
  rw [Raises, ready, readinessCheck, Meets.tryCatch_iff, Meets.bind_iff, Meets.tryCatch_iff]
  refine outside_meets rfl hprobe fun probed => settle_meets.mpr ?_
  have returned : ∀ (status : Nat) (h : Past), Reflected h status → ∀ response : Response, response.status = status →
      Reflected h (statusOf (.ok response)) ∧ ∀ e, (.ok response : Except Exn Response) = .error e → ∃ f, e = .foreign f := by
    rintro _ h hstatus response rfl
    refine ⟨hstatus, ?_⟩
    rintro _ ⟨⟩
  cases probed with
  | ok _ => exact returned 200 _ ⟨_, rfl, rfl⟩ _ rfl
  | error f =>
    obtain ⟨kind, shown, causes⟩ := f
    cases kind with
    | timeout | operational => exact returned 503 _ ⟨_, rfl, rfl⟩ _ rfl
    | sqlalchemy sqlstate =>
      show Meets _ (if sqlstate = some "42P01" ∨ sqlstate = some "3F000" then _ else _) _ _
      split
      · exact returned 503 _ ⟨_, rfl, rfl⟩ _ rfl
      · exact returned 503 _ ⟨_, rfl, rfl⟩ _ rfl
    | request _ | value | cancelled | other =>
      refine ⟨⟨_, rfl, rfl⟩, ?_⟩
      rintro _ ⟨⟩
      exact ⟨_, rfl⟩

theorem answers_exceptionMiddleware {log : LogConfig} {layer : Prog Response} (h : Raises allows answered layer) :
    Answers allows answered (exceptionMiddleware log layer) := by
  rw [Answers, exceptionMiddleware, Meets.tryCatch_iff]
  apply Meets.mono h
  rintro h x ⟨hx, hforeign⟩
  cases x with
  | ok response => exact hx
  | error e =>
    obtain ⟨f, rfl⟩ := hforeign e rfl
    exact hx

/-- A host that is not trusted is turned away before anything is asked. -/
theorem answers_untrusted (ht : app.trustedHost request = false) (layer : Prog Response) :
    Answers allows (fun h status => h = [] ∧ status ≠ 200) (app.trustedHostMiddleware request layer) := by
  rw [Answers, trustedHostMiddleware, if_neg (by simp [ht])]
  split
  · cases app.framework.wwwUrl request with
    | none => exact ⟨rfl, by decide⟩
    | some url => exact ⟨rfl, (by decide : (307 : Nat) ≠ 200)⟩
  · exact ⟨rfl, (by decide : (400 : Nat) ≠ 200)⟩

/-- No probe is a preflight. -/
theorem preflight_probe {path : String} (hp : Probe path request) : app.preflight request = none := by
  rw [preflight, if_neg]
  rintro ⟨-, hmethod⟩
  rw [hp.method] at hmethod
  exact absurd hmethod (by decide)

/-- What a liveness probe is told: nothing but whether its host is trusted. -/
def LiveAnswered (app : Application) (request : Request) (h : Past) : Prop :=
  ∃ response, h = [⟨.send response, ()⟩] ∧ (response.status = 200 ↔ app.trustedHost request = true)

/-- What a readiness probe is told: how its own check of the database went, if its host is trusted. -/
def ReadyAnswered (app : Application) (request : Request) (h : Past) : Prop :=
  ∃ before response, h = ⟨.send response, ()⟩ :: before ∧
    if app.trustedHost request then Reflected before response.status else before = [] ∧ response.status ≠ 200

theorem live_meets (hp : Probe "/health/live" request) (hpath : app.framework.urlPath request = some "/health/live") :
    Meets (outsideContract fun q => isSend q = true) (app.serve request) [] fun h _ => LiveAnswered app request h := by
  have hrouter : app.router request = pure app.live := by
    rw [router, hp.method, hp.path]
    rfl
  have inner : Answers (fun q => isSend q = true) (fun h status => h = [] ∧ (status = 200 ↔ app.trustedHost request = true))
      (app.trustedHostMiddleware request (exceptionMiddleware app.replica.log (app.router request))) := by
    cases ht : app.trustedHost request with
    | true =>
      rw [hrouter, trustedHostMiddleware, if_pos ht]
      exact ⟨rfl, iff_of_true rfl rfl⟩
    | false =>
      refine (answers_untrusted ht _).mono ?_
      rintro h x ⟨hh, hstatus⟩
      exact ⟨hh, iff_of_false hstatus Bool.false_ne_true⟩
  refine (serve_answers (fun _ => rfl) hpath (by decide) (answers_corsMiddleware (preflight_probe hp) inner)).mono ?_
  rintro h _ ⟨before, response, rfl, rfl, hstatus⟩
  exact ⟨response, rfl, hstatus⟩

theorem ready_meets (hp : Probe "/health/ready" request) (hpath : app.framework.urlPath request = some "/health/ready") :
    Meets (outsideContract fun q => isSendOrProbe q = true) (app.serve request) [] fun h _ => ReadyAnswered app request h := by
  have hrouter : app.router request = app.ready := by
    rw [router, hp.method, hp.path]
    rfl
  have inner : Answers (fun q => isSendOrProbe q = true)
      (fun h status => if app.trustedHost request then Reflected h status else h = [] ∧ status ≠ 200)
      (app.trustedHostMiddleware request (exceptionMiddleware app.replica.log (app.router request))) := by
    cases ht : app.trustedHost request with
    | true =>
      rw [hrouter, trustedHostMiddleware, if_pos ht]
      exact answers_exceptionMiddleware (ready_raises rfl)
    | false => exact answers_untrusted ht _
  refine (serve_answers (fun _ => rfl) hpath (by decide) (answers_corsMiddleware (preflight_probe hp) inner)).mono ?_
  rintro h _ ⟨before, response, rfl, hstatus⟩
  exact ⟨before, response, rfl, hstatus⟩

end Application

/-- The URL of a probe, which is built from a plain host name, has the path of the probe. -/
def Framework.ParsesProbes (self : Framework) : Prop :=
  ∀ path ∈ ["/health/live", "/health/ready"], ∀ request, Probe path request → self.urlPath request = some path

section Runs
variable {T : InetType} {apps : Nat → Application} {w : World T} {c : Config Query Reply Exn Unit HttpJob (World T)}

/-- What a probe may wait for outside the process. -/
def probeAllows (request : Request) (q : Query) : Prop :=
  (Probe "/health/live" request → isSend q = true) ∧ (Probe "/health/ready" request → isSendOrProbe q = true)

theorem meets_anything {allows : Query → Prop} (hallows : ∀ q, allows q) {α : Type} {post : Past → Except Exn α → Prop}
    (hpost : ∀ h x, post h x) (p : Prog α) (h : Past) : Meets (outsideContract allows) p h post := by
  induction p generalizing h with
  | done x => exact hpost h x
  | ask q k ih => exact ⟨fun _ => hallows q, fun r _ => ih r _⟩

theorem probe_meets {app : Application} (hparses : app.framework.ParsesProbes) (request : Request) :
    Meets (outsideContract (probeAllows request)) (app.serve request) [] fun h _ =>
      (Probe "/health/live" request → app.LiveAnswered request h) ∧ (Probe "/health/ready" request → app.ReadyAnswered request h) := by
  have apart : ¬ (Probe "/health/live" request ∧ Probe "/health/ready" request) := by
    rintro ⟨hlive, hready⟩
    exact absurd (hlive.path.symm.trans hready.path) (by decide)
  by_cases hlive : Probe "/health/live" request
  · have hready : ¬ Probe "/health/ready" request := fun hready => apart ⟨hlive, hready⟩
    have hmeets := Application.live_meets hlive (hparses _ List.mem_cons_self request hlive)
    have weaker : Meets (outsideContract (probeAllows request)) (app.serve request) [] _ :=
      hmeets.weaken rfl (fun _ _ _ => trivial) fun _ q hq => ⟨fun _ => hq, fun h => absurd h hready⟩
    refine weaker.mono ?_
    exact fun h _ answered => ⟨fun _ => answered, fun h => absurd h hready⟩
  · by_cases hready : Probe "/health/ready" request
    · have hmeets := Application.ready_meets hready (hparses _ (List.mem_cons_of_mem _ List.mem_cons_self) request hready)
      have weaker : Meets (outsideContract (probeAllows request)) (app.serve request) [] _ :=
        hmeets.weaken rfl (fun _ _ _ => trivial) fun _ q hq => ⟨fun h => absurd h hlive, fun _ => hq⟩
      refine weaker.mono ?_
      exact fun h _ answered => ⟨fun h => absurd h hlive, fun _ => answered⟩
    · exact meets_anything (fun _ => ⟨fun h => absurd h hlive, fun h => absurd h hready⟩)
        (fun _ _ => ⟨fun h => absurd h hlive, fun h => absurd h hready⟩) _ _

/-- The probes in a run. -/
structure ProbesAnswered (app : Application) (t : Task Query Reply Exn Unit HttpJob) : Prop where
  live : Probe "/health/live" t.job.request → ∀ x, t.Finished x → app.LiveAnswered t.job.request (outside t.history)
  ready : Probe "/health/ready" t.job.request → ∀ x, t.Finished x → app.ReadyAnswered t.job.request (outside t.history)
  liveWaits : Probe "/health/live" t.job.request → ∀ q k, t.residual = .ask q k → isOwnCall q = true ∨ isSend q = true
  readyWaits : Probe "/health/ready" t.job.request → ∀ q k, t.residual = .ask q k → isOwnCall q = true ∨ isSendOrProbe q = true

/-- However the database, the provider and other requests behave, a liveness probe waits for nothing
outside the process and is told 200 exactly if localhost is trusted; a readiness probe makes one
check of the database, and is told 200 exactly if that check went through. -/
theorem probes_answered (hparses : ∀ n, (apps n).framework.ParsesProbes) (hc : (serving T apps).Reachable w c)
    {t : Task Query Reply Exn Unit HttpJob} (ht : t ∈ c.tasks) : ProbesAnswered (apps t.job.replica) t := by
  obtain ⟨i, hi⟩ := List.mem_iff_getElem?.mp ht
  have hmeets := hc.meets (C := fun j => outsideContract (probeAllows j.request))
    (fun j => probe_meets (hparses j.replica) j.request) (fun _ _ _ _ _ _ _ _ _ _ _ _ => trivial) i t hi
  have waits : ∀ q k, t.residual = .ask q k → isOwnCall q = true ∨ probeAllows t.job.request q := by
    intro q k hq
    rw [hq] at hmeets
    cases hown : isOwnCall q with
    | true => exact .inl rfl
    | false => exact .inr (hmeets.1 (by simp [outsideContract, hown]))
  refine ⟨fun hp x hx => ?_, fun hp x hx => ?_, fun hp q k hq => ?_, fun hp q k hq => ?_⟩
  · rw [hx] at hmeets
    exact hmeets.1 hp
  · rw [hx] at hmeets
    exact hmeets.2 hp
  · exact (waits q k hq).imp_right fun h => h.1 hp
  · exact (waits q k hq).imp_right fun h => h.2 hp

end Runs

def readinessRequest : Request := ⟨"GET", "/health/ready", [("host", "localhost")], .absent⟩

/-- The database does not answer in time. -/
def timedOutReplies : (q : Query) → Option (Reply q)
  | .uuid4 => some 0
  | .readinessProbe => some (.error ⟨.timeout, ⟨"", "TimeoutError", ""⟩, []⟩)
  | q => serverReplies (some "a") (.ok none) q

def unreadyRun : (serving hostAddresses fun _ => fakeApplication).Recording (.start hostAddresses "0.1.0" true)
    fun c => c.tasks.any fun t => decide (t.job.request.path = "/health/ready") && (sent t.history).any fun response => response.status = 503 where
  moves := .launch ⟨0, readinessRequest⟩ :: List.replicate 20 (.reply 0 timedOutReplies)
  passes := by decide +kernel

theorem probes_answered_example : ∃ (c : Config Query Reply Exn Unit HttpJob (World hostAddresses))
    (t : Task Query Reply Exn Unit HttpJob), t ∈ c.tasks ∧ t.job.request.path = "/health/ready" ∧
    (∃ response ∈ sent t.history, response.status = 503) ∧ ProbesAnswered fakeApplication t := by
  obtain ⟨c, hc, hp⟩ := unreadyRun.reaches
  obtain ⟨t, ht, hp⟩ := List.any_eq_true.mp hp
  obtain ⟨hpath, hsent⟩ := Bool.and_eq_true_iff.mp hp
  obtain ⟨response, hresponse, hstatus⟩ := List.any_eq_true.mp hsent
  have parses : fakeApplication.framework.ParsesProbes := fun path _ request hp => congrArg some hp.path
  have answered : ProbesAnswered fakeApplication t :=
    @probes_answered hostAddresses (fun _ => fakeApplication) _ _ (fun _ => parses) hc t ht
  exact ⟨c, t, ht, of_decide_eq_true hpath, ⟨response, hresponse, of_decide_eq_true hstatus⟩, answered⟩

end IpCountryApi.Http
