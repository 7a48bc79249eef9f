import IpCountryApi.Http.Routes
import IpCountryApi.Library.Transcripts
import IpCountryApi.Observability.Logging

/-! Exceptions that no except clause of the application handles, and the contract under
which the runs of a request are told. -/
namespace IpCountryApi.Http
open Library Domain Execution Observability

def isSqlalchemy : Kind → Bool
  | .sqlalchemy _ => true
  | _ => false

/-- What client.get may raise that the provider turns into one of its own errors. -/
def isClientFailure : Kind → Bool
  | .request _ | .value => true
  | _ => false

def isInvalidResponse : Kind → Bool
  | .request .decoding | .value => true
  | _ => false

def isNotReady : Kind → Bool
  | .timeout | .operational | .sqlalchemy _ => true
  | _ => false

/-- The exception of a reply, if it is one that the call it answers is not guarded against. -/
def fault : Answered → Option Foreign
  | ⟨.scalar _, .error f⟩ | ⟨.execute _, .error f⟩ | ⟨.commit _, .error f⟩ => if isSqlalchemy f.kind then none else some f
  | ⟨.scalar _, .ok (some row)⟩ => if (ipAddress row.ipAddress).isNone then some (valueError "ValueError") else none
  | ⟨.clientGet _ _, .error f⟩ => if isClientFailure f.kind then none else some f
  | ⟨.clientGet _ _, .ok ⟨status, .error f⟩⟩ => if status < 400 && !isInvalidResponse f.kind then some f else none
  | ⟨.sleep _, .error f⟩ => if isInvalidResponse f.kind then none else some f
  | ⟨.readinessProbe, .error f⟩ => if isNotReady f.kind then none else some f
  | ⟨.template _, .error f⟩ | ⟨.staticFile _ _, .error f⟩ => some f
  | _ => none

def faults (h : Past) : List Foreign := h.filterMap fault

/-- Responses sent, newest first. -/
def sent (h : Past) : List Response :=
  h.filterMap fun e =>
    match e.query with
    | .send response => some response
    | _ => none

def isHttpRequest : MetricCall → Bool
  | .httpRequest .. => true
  | _ => false

/-- Calls of http_request, newest first. -/
def httpRequests (h : Past) : List MetricCall :=
  h.filterMap fun e => (metricCall e).filter isHttpRequest

/-- The value of the context variable after a history that began without one. -/
def contextAfter : Past → Option String
  | [] => none
  | ⟨.contextSet value, _⟩ :: _ => some value
  | ⟨.contextReset token, _⟩ :: _ => token
  | _ :: h => contextAfter h

/-- What happens below the outermost middlewares while nothing goes wrong. -/
def tame (e : Answered) : Bool :=
  (fault e).isNone &&
    match e.query with
    | .send _ | .contextSet _ | .contextReset _ => false
    | .metric call => !isHttpRequest call
    | _ => true

/-- The static files refuse a request: there is no file, or not the asked part of it. -/
def refusedFile : Answered → Bool
  | ⟨.staticFile _ _, .ok (.error _)⟩ | ⟨.staticFile _ _, .ok (.file .badRange _)⟩
  | ⟨.staticFile _ _, .ok (.file .rangeNotSatisfiable _)⟩ => true
  | _ => false

def calm (e : Answered) : Bool := tame e && !refusedFile e

/-- Calm, and nothing printed either. -/
def silent (e : Answered) : Bool :=
  calm e &&
    match e.query with
    | .print _ | .timestamp => false
    | _ => true

/-- An unguarded exception was raised after some calm events, and only silent ones followed. -/
def Faulted (older newer : Past) (f : Foreign) : Prop :=
  ∃ before e, Extends calm older before ∧ fault e = some f ∧ Extends silent (e :: before) newer

theorem tame_of_calm {e : Answered} (h : calm e = true) : tame e = true := (Bool.and_eq_true_iff.mp h).1

theorem calm_of_silent {e : Answered} (h : silent e = true) : calm e = true := (Bool.and_eq_true_iff.mp h).1

theorem Faulted.push {older newer : Past} {f : Foreign} {e : Answered} (h : Faulted older newer f)
    (he : silent e = true) : Faulted older (e :: newer) f := by
  obtain ⟨before, raised, calm, hf, hs⟩ := h
  exact ⟨before, raised, calm, hf, hs.push he⟩

theorem Faulted.after {oldest older newer : Past} {f : Foreign} (h : Faulted older newer f)
    (hx : Extends calm oldest older) : Faulted oldest newer f := by
  obtain ⟨before, raised, calm, hf, hs⟩ := h
  exact ⟨before, raised, hx.trans calm, hf, hs⟩

/-! Views that these events leave alone. -/
section Views
variable {older newer : Past}

theorem contextAfter_cons {e : Answered} {h : Past} (he : tame e = true) : contextAfter (e :: h) = contextAfter h := by
  obtain ⟨q, r⟩ := e
  cases q with
  | contextSet value => simp [tame] at he
  | contextReset token => simp [tame] at he
  | _ => rfl

theorem contextAfter_extends (hx : Extends tame older newer) : contextAfter newer = contextAfter older := by
  obtain ⟨added, rfl, hp⟩ := hx
  induction added with
  | nil => rfl
  | cons e added ih =>
    rw [List.cons_append, contextAfter_cons (hp e List.mem_cons_self), ih fun e he => hp e (List.mem_cons_of_mem _ he)]

theorem faults_extends (hx : Extends tame older newer) : faults newer = faults older :=
  hx.filterMap_eq fun e he => by simpa using (Bool.and_eq_true_iff.mp he).1

theorem sent_extends (hx : Extends tame older newer) : sent newer = sent older :=
  hx.filterMap_eq fun e he => by
    obtain ⟨q, r⟩ := e
    cases q <;> simp [tame] at he ⊢

theorem httpRequests_extends (hx : Extends tame older newer) : httpRequests newer = httpRequests older :=
  hx.filterMap_eq fun e he => by
    obtain ⟨q, r⟩ := e
    cases q <;> simp_all [tame, metricCall]

theorem refusedFile_extends (hx : Extends calm older newer) : newer.any refusedFile = older.any refusedFile := by
  obtain ⟨added, rfl, hp⟩ := hx
  have hnone : added.any refusedFile = false :=
    List.any_eq_false.mpr fun e he => by simpa using (Bool.and_eq_true_iff.mp (hp e he)).2
  rw [List.any_append, hnone, Bool.false_or]

end Views

/-- The status codes the inner application may answer with. -/
def statuses : List Nat := [200, 206, 304, 307, 400, 401, 404, 405, 416, 422, 500, 502, 503, 504]

/-- The metric calls of a request: all labels but its method come from fixed lists. -/
def Bounded (method : String) : MetricCall → Prop
  | .httpRequest m route status _ => m = method ∧ route ∈ routeLabels ∧ status ∈ statuses
  | .lookup source result => source ∈ ["database", "provider"] ∧ result ∈ ["success", "error"]
  | .providerRequest provider result _ => provider ∈ ["fake", "ipinfo"] ∧ result ∈ ["success", "error"]
  | .providerError provider errorType => provider ∈ ["fake", "ipinfo"] ∧
      errorType ∈ ["fixture_not_found", "authentication", "rate_limited", "invalid_response", "timeout", "unavailable"]
  | .databaseOperation operation _ => operation ∈ ["read", "upsert"]
  | .databaseError operation errorType => operation ∈ ["read", "upsert"] ∧ errorType ∈ ["unavailable"]

/-- A task reads its own context, no value without an encoding is sent to the database, and the
metric calls have bounded labels. -/
def requestContract (method : String) : Contract Query Reply where
  sees _ := true
  rely h e :=
    match e with
    | ⟨.contextGet, value⟩ => value = contextAfter h
    | ⟨.contextSet _, token⟩ => token = contextAfter h
    | ⟨.execute st, .ok _⟩ => st.countryName.encodes = true
    | _ => True
  guar _ q := ∀ call, q = .metric call → Bounded method call

section Rules
variable {method : String} {h : Past} {α β : Type}

theorem perform_request {q : Query} (hq : ∀ call, q ≠ .metric call) {f : Reply q → Prog β}
    {post : Past → Except Exn β → Prop}
    (hp : ∀ r, (requestContract method).rely h ⟨q, r⟩ → Meets (requestContract method) (f r) (⟨q, r⟩ :: h) post) :
    Meets (requestContract method) (perform q >>= f) h post :=
  (perform_seen rfl).mpr ⟨fun call he => absurd he (hq call), hp⟩

theorem record_request {call : MetricCall} (hcall : Bounded method call) {f : Unit → Prog β}
    {post : Past → Except Exn β → Prop}
    (hp : Meets (requestContract method) (f ()) (⟨.metric call, ()⟩ :: h) post) :
    Meets (requestContract method) (record call >>= f) h post :=
  (perform_seen rfl).mpr ⟨fun _ he => Query.metric.inj he ▸ hcall, fun _ _ => hp⟩

theorem record_request_end {call : MetricCall} (hcall : Bounded method call) {post : Past → Except Exn Unit → Prop}
    (hp : post (⟨.metric call, ()⟩ :: h) (.ok ())) : Meets (requestContract method) (record call) h post :=
  (Meets.call_seen rfl _ _).mpr ⟨fun _ he => Query.metric.inj he ▸ hcall, fun _ _ => hp⟩

/-- What logging adds to the history. -/
def logged (log : LogConfig) (level : LogLevel) (fields : EventDict) (time : Int) (h : Past) : Past :=
  if level.severity < log.level.severity then h
  else ⟨.print (log.process level ((contextAfter h).getD "unknown") time fields), ()⟩ :: ⟨.timestamp, time⟩ ::
    ⟨.contextGet, contextAfter h⟩ :: h

theorem log_request {log : LogConfig} {level : LogLevel} {event : String} {fields : EventDict}
    {post : Past → Except Exn Unit → Prop}
    (hp : ∀ time, post (logged log level (fields ++ [("event", .text event)]) time h) (.ok ())) :
    Meets (requestContract method) (log.log level event fields) h post := by
  rw [LogConfig.log]
  unfold logged at hp
  split
  · rename_i hl
    simp only [hl, if_true] at hp
    exact hp 0
  · rename_i hl
    simp only [hl, if_false] at hp
    rw [Meets.bind_iff, requestIdContextGet]
    refine perform_request (by simp) fun value hv => ?_
    cases hv
    show Meets _ (perform .timestamp >>= _) _ post
    refine perform_request (by simp) fun time _ => ?_
    exact (Meets.call_seen rfl _ _).mpr ⟨fun _ he => (by cases he), fun _ _ => hp time⟩

theorem logged_extends {log : LogConfig} {level : LogLevel} {fields : EventDict} {time : Int} :
    Extends calm h (logged log level fields time h) := by
  unfold logged
  split
  · exact .refl
  · exact ((Extends.refl.push rfl).push rfl).push rfl

/-- The request id in the context goes into the envelope. -/
theorem contextGet_request {f : String → Prog β} {post : Past → Except Exn β → Prop}
    (hp : Meets (requestContract method) (f ((contextAfter h).getD "unknown")) (⟨.contextGet, contextAfter h⟩ :: h) post) :
    Meets (requestContract method) (requestIdContextGet >>= f) h post := by
  rw [requestIdContextGet, Meets.bind_iff]
  refine perform_request (by simp) fun value hv => ?_
  cases hv
  exact hp

end Rules
end IpCountryApi.Http
