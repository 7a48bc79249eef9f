import IpCountryApi.Http.Serving
import IpCountryApi.Services.MetricRuns

/-! No request lets the event loop switch, or reads the metrics, between counting a
database error and counting the operation it belongs to. -/
namespace IpCountryApi.Http
open Library Domain Execution Observability Providers Repositories Services

/-- Metric calls, newest first, in which each database error is followed at once by its operation. -/
inductive Matched : List MetricCall → Prop
  | nil : Matched []
  | other {call : MetricCall} {calls : List MetricCall} (h : call.counter ≠ .databaseErrors) (rest : Matched calls) :
      Matched (call :: calls)
  | failed {operation errorType : String} {duration : Int} {calls : List MetricCall} (rest : Matched calls) :
      Matched (.databaseOperation operation duration :: .databaseError operation errorType :: calls)

/-- Database errors and operations under any labels. -/
def errorCount (calls : List MetricCall) : Nat := calls.countP (·.counts .databaseErrors fun _ => true)

def operationCount (calls : List MetricCall) : Nat := calls.countP (·.counts .databaseOperations fun _ => true)

/-- What was counted between two matched moments has no more errors than operations. -/
theorem Matched.newer_le {newer older : List MetricCall} (h : Matched (newer ++ older)) (holder : Matched older) :
    errorCount newer ≤ operationCount newer := by
  generalize hcalls : newer ++ older = calls at h
  induction h generalizing newer with
  | nil =>
    rw [List.append_eq_nil_iff] at hcalls
    rw [hcalls.1]
    exact le_rfl
  | @other call calls hcall rest ih =>
    cases newer with
    | nil => exact le_rfl
    | cons head newer =>
      rw [List.cons_append, List.cons.injEq] at hcalls
      obtain ⟨rfl, hcalls⟩ := hcalls
      have hle := ih hcalls
      simp only [errorCount, operationCount, List.countP_cons, MetricCall.counts, hcall, decide_false, Bool.false_and] at hle ⊢
      simp only [Bool.false_eq_true, if_false]
      omega
  | @failed operation errorType duration calls rest ih =>
    cases newer with
    | nil => exact le_rfl
    | cons head newer =>
      cases newer with
      | nil =>
        -- The window would begin between the error and its operation.
        rw [List.singleton_append, List.cons.injEq] at hcalls
        rw [hcalls.2] at holder
        cases holder with
        | other hcall _ => exact absurd rfl hcall
      | cons second newer =>
        rw [List.cons_append, List.cons_append, List.cons.injEq, List.cons.injEq] at hcalls
        obtain ⟨rfl, rfl, hcalls⟩ := hcalls
        have hle := ih hcalls
        simp only [errorCount, operationCount, List.countP_cons, MetricCall.counts, MetricCall.counter] at hle ⊢
        simpa using hle

/-- Every query is seen; where others may run or the metrics are read, errors are matched. -/
def countingContract : Contract Query Reply where
  sees _ := true
  rely _ _ := True
  guar h q := q.awaits = true ∨ q = .scrape → Matched (metricCalls h)

/-- The program only counts errors together with their operations. -/
abbrev Counting {α : Type} (p : Prog α) : Prop := Keeps countingContract (fun h => Matched (metricCalls h)) p

section Rules
variable {α β : Type}

theorem matched_cons {e : Answered} {h : Past} (hh : Matched (metricCalls h))
    (he : ∀ call, metricCall e = some call → call.counter ≠ .databaseErrors) : Matched (metricCalls (e :: h)) := by
  rw [metricCalls, List.filterMap_cons]
  cases hcall : metricCall e with
  | none => exact hh
  | some call => exact .other (he call hcall) hh

/-- A query that is no metric call. -/
theorem counting_perform {q : Query} (hq : ∀ r, metricCall ⟨q, r⟩ = none) : Counting (perform q) := by
  intro h hh
  refine (Meets.call_seen rfl h _).mpr ⟨fun _ => hh, fun r _ => matched_cons hh ?_⟩
  intro call he
  rw [hq r] at he
  cases he

theorem counting_record {call : MetricCall} (hcall : decide (call.counter = .databaseErrors) = false) :
    Counting (record call) := by
  intro h hh
  exact (Meets.call_seen rfl h _).mpr ⟨fun _ => hh, fun _ _ => .other (of_decide_eq_false hcall) hh⟩

theorem counting_settle {x : Except Foreign α} : Counting (settle x) := by
  cases x <;> exact .done _

theorem counting_raiseApp {x : Except AppError α} : Counting (raiseApp x) := by
  cases x <;> exact .done _

theorem counting_call {q : Query} {f : Reply q → Prog β} (hq : ∀ r, metricCall ⟨q, r⟩ = none) (hf : ∀ r, Counting (f r)) :
    Counting (perform q >>= f) :=
  .bind (counting_perform hq) hf

theorem counting_record_bind {call : MetricCall} {f : Unit → Prog β}
    (hcall : decide (call.counter = .databaseErrors) = false) (hf : Counting (f ())) : Counting (record call >>= f) :=
  .bind (counting_record hcall) fun _ => hf

end Rules

section Repository

/-- The finally clause counts the operation in the same turn. -/
private theorem counted_operation {operation : String} {started : Int} {h : Past}
    (hm : ∀ duration, Matched (.databaseOperation operation duration :: metricCalls h)) :
    Meets countingContract (do
      let finished ← perform .perfCounter
      record (.databaseOperation operation (finished - started))) h fun h' _ => Matched (metricCalls h') := by
  refine (perform_seen rfl).mpr ⟨?_, fun finished _ => (Meets.call_seen rfl _ _).mpr ⟨?_, fun _ _ => hm _⟩⟩
  · rintro (hq | hq) <;> cases hq
  · rintro (hq | hq) <;> cases hq

/-- The one place that counts errors. -/
theorem counting_observed {α : Type} {operation : String} {started : Int} {body : Prog α} (hbody : Counting body) :
    Counting (PostgreSQLLookupRepository.observed operation started body) := by
  intro h hh
  rw [PostgreSQLLookupRepository.observed]
  apply Meets.ensuring_state
  rw [Meets.tryCatch_iff]
  refine (hbody h hh).mono fun h' x hh' => ?_
  have unfailed : ∀ duration, Matched (.databaseOperation operation duration :: metricCalls h') :=
    fun _ => .other (by intro h; cases h) hh'
  cases x with
  | ok a => exact counted_operation unfailed
  | error e =>
    show Meets _ (PostgreSQLLookupRepository.unavailable operation e) h' _
    cases e with
    | foreign f =>
      obtain ⟨kind, shown, causes⟩ := f
      cases kind with
      | sqlalchemy sqlstate =>
        refine (perform_seen rfl).mpr ⟨?_, fun _ _ => counted_operation fun _ => .failed hh'⟩
        rintro (hq | hq) <;> cases hq
      | _ => exact counted_operation unfailed
    | _ => exact counted_operation unfailed

theorem counting_get (ip : IPAddress) : Counting (PostgreSQLLookupRepository.get ip) := by
  rw [PostgreSQLLookupRepository.get]
  apply counting_call fun _ => rfl
  intro started
  apply Keeps.bind
  · exact counting_observed (counting_call (fun _ => rfl) fun _ => counting_settle)
  · intro row
    cases row with
    | none => exact .pure _
    | some row =>
      apply Keeps.bind
      · rw [PostgreSQLLookupRepository.cacheRecord]
        split
        · exact .throw _
        · exact .pure _
      · exact fun _ => .pure _

theorem counting_upsert (written : CacheRecord) : Counting (PostgreSQLLookupRepository.upsert written) := by
  rw [PostgreSQLLookupRepository.upsert]
  apply counting_call fun _ => rfl
  intro started
  apply counting_call fun _ => rfl
  intro now
  apply counting_observed
  apply counting_call fun _ => rfl
  intro executed
  apply Keeps.bind counting_settle
  intro _
  exact counting_call (fun _ => rfl) fun _ => counting_settle

end Repository

section Provider

theorem counting_fake (ip : IPAddress) : Counting (FakeGeoIPProvider.lookup ip) := by
  rw [FakeGeoIPProvider.lookup]
  apply counting_call fun _ => rfl
  intro started
  split
  · apply counting_record_bind rfl
    apply counting_call fun _ => rfl
    exact fun finished => counting_record_bind rfl (.throw _)
  · apply counting_call fun _ => rfl
    exact fun finished => counting_record_bind rfl (.pure _)

private theorem counting_request {self : IPinfoLiteProvider} {ip : IPAddress} : Counting (self.request ip) := by
  rw [IPinfoLiteProvider.request]
  apply Keeps.bind
  · apply Keeps.tryCatch
    · exact counting_call (fun _ => rfl) fun _ => counting_settle
    · intro e
      rw [IPinfoLiteProvider.retryableRequest.eq_def]
      split <;> exact .throw _
  · intro response
    split_ifs
    · exact counting_record_bind rfl (.throw _)
    · exact counting_record_bind rfl (.throw _)
    · exact .throw _
    · exact counting_record_bind rfl (.throw _)
    · exact .pure _

private theorem counting_retrying {α : Type} {body : Prog α} (hbody : Counting body) (remaining : Nat) :
    ∀ attemptNumber, Counting (retrying body attemptNumber remaining) := by
  induction remaining with
  | zero => exact fun _ => hbody
  | succ remaining ih =>
    intro attemptNumber
    rw [retrying]
    apply hbody.tryCatch
    intro e
    split
    · apply counting_call fun _ => rfl
      exact fun slept => .bind counting_settle fun _ => ih _
    · exact .throw _

private theorem counting_failed {α : Type} (e : Exn) : Counting (IPinfoLiteProvider.failed e : Prog α) := by
  rw [IPinfoLiteProvider.failed.eq_def]
  split
  · exact counting_record_bind rfl (.throw _)
  · exact counting_record_bind rfl (.throw _)
  · exact counting_record_bind rfl (.throw _)
  · exact counting_record_bind rfl (.throw _)
  · exact .throw _

theorem counting_ipinfo (self : IPinfoLiteProvider) (ip : IPAddress) : Counting (self.lookup ip) := by
  rw [IPinfoLiteProvider.lookup]
  apply counting_call fun _ => rfl
  intro started
  apply Keeps.ensuring
  · apply Keeps.tryCatch _ counting_failed
    apply Keeps.bind (counting_retrying counting_request _ _)
    intro response
    apply Keeps.bind counting_settle
    intro payload
    apply Keeps.bind
    · rw [IPinfoLiteProvider.parse]
      split
      · exact .pure _
      · exact .throw _
    · exact fun _ => .pure _
  · intro outcome
    exact counting_call (fun _ => rfl) fun _ => counting_record rfl

theorem counting_provider (choice : ProviderChoice) (ip : IPAddress) : Counting (choice.lookup ip) := by
  cases choice with
  | fake => exact counting_fake ip
  | ipinfo provider => exact counting_ipinfo provider ip

end Provider

section Layers
variable {app : Application} {request : Request}

theorem counting_log {log : LogConfig} {level : LogLevel} {event : String} {fields : EventDict} :
    Counting (log.log level event fields) := by
  rw [LogConfig.log]
  split
  · exact .pure _
  · apply Keeps.bind (counting_call (fun _ => rfl) fun _ => .pure _)
    intro requestId
    apply counting_call fun _ => rfl
    exact fun time => counting_perform fun _ => rfl

private theorem counting_refresh {self : Replica} (ip : IPAddress) : Counting (self.service.refresh ip) := by
  rw [IPLookupService.refresh]
  apply Keeps.bind (counting_provider self.provider ip)
  intro result
  apply counting_call fun _ => rfl
  intro fetchedAt
  exact .bind (counting_upsert _) fun _ => .pure _

theorem counting_lookup (self : Replica) (value : String) : Counting (self.service.lookup value) := by
  rw [IPLookupService.lookup]
  apply Keeps.bind counting_raiseApp
  intro ip
  apply counting_call fun _ => rfl
  intro now
  apply Keeps.bind (counting_get ip)
  intro cached
  split
  · apply counting_record_bind rfl
    exact .bind counting_log fun _ => .pure _
  · apply Keeps.bind
    · rw [exceptException]
      apply Keeps.tryCatch (counting_refresh ip)
      intro e
      split
      · exact counting_record_bind rfl (.throw _)
      · exact .throw _
    · intro written
      apply counting_record_bind rfl
      exact .bind counting_log fun _ => .pure _

private theorem counting_ready : Counting app.ready := by
  rw [Application.ready, readinessCheck]
  apply Keeps.tryCatch
  · apply Keeps.bind
    · apply Keeps.tryCatch
      · exact counting_call (fun _ => rfl) fun _ => counting_settle
      · intro e
        rw [notReady.eq_def]
        split
        · exact .throw _
        · exact .throw _
        · split <;> exact .throw _
        · exact .throw _
    · exact fun _ => .pure _
  · intro e
    split
    · exact .pure _
    · exact .pure _
    · exact .throw _

private theorem counting_createLookup : Counting (app.createLookup request) := by
  rw [Application.createLookup]
  apply Keeps.bind
  · rw [Application.payload]
    split
    · split
      · exact .pure _
      · exact .throw _
    · exact .throw _
    · exact .throw _
    · exact .throw _
    · exact .throw _
  · intro payload
    refine .bind (counting_lookup app.replica payload.ip) fun result => ?_
    split
    · exact .pure _
    · exact .throw _

private theorem counting_handle (endpoint : Endpoint) : Counting (app.handle request endpoint) := by
  cases endpoint with
  | metrics => exact counting_call (fun _ => rfl) fun _ => .pure _
  | ready => exact counting_ready
  | createLookup => exact counting_createLookup
  | index => exact counting_call (fun _ => rfl) fun _ => .bind counting_settle fun _ => .pure _
  | _ => exact .pure _

private theorem counting_staticFiles : Counting (Application.staticFiles request) := by
  rw [Application.staticFiles]
  split
  · apply counting_call fun _ => rfl
    intro found
    apply Keeps.bind counting_settle
    intro answer
    cases answer with
    | file status content => exact .pure _
    | error e => exact .throw _
  · exact .throw _

private theorem counting_router : Counting (app.router request) := by
  rw [Application.router]
  split
  · exact counting_handle _
  · exact counting_staticFiles
  · exact .throw _
  · exact .pure _
  · exact .throw _

private theorem counting_envelope {code message : String} : Counting (envelopeInContext code message) := by
  rw [envelopeInContext, requestIdContextGet]
  apply Keeps.bind (counting_call (fun _ => rfl) fun _ => .pure _)
  exact fun _ => .pure _

private theorem counting_exceptions {inner : Prog Response} (h : Counting inner) (log : LogConfig) :
    Counting (exceptionMiddleware log inner) := by
  rw [exceptionMiddleware]
  apply h.tryCatch
  intro e
  split
  · exact .bind counting_log fun _ => .bind counting_envelope fun _ => .pure _
  · exact .bind counting_envelope fun _ => .pure _
  · exact .pure _
  · exact .throw _

private theorem counting_trustedHost {inner : Prog Response} (h : Counting inner) :
    Counting (app.trustedHostMiddleware request inner) := by
  rw [Application.trustedHostMiddleware]
  split_ifs
  · exact h
  · apply Keeps.bind
    · rw [orValueError.eq_def]
      split
      · exact .pure _
      · exact .throw _
    · exact fun _ => .pure _
  · exact .pure _

private theorem counting_cors {inner : Prog Response} (h : Counting inner) :
    Counting (app.corsMiddleware request inner) := by
  rw [Application.corsMiddleware]
  split
  · exact .pure _
  · apply h.bind
    intro response
    split
    · split <;> exact .pure _
    · exact .pure _

private theorem counting_requestId (value : Option String) : Counting (requestIdOrNew value) := by
  have fresh : Counting requestIdOrNew.fresh := counting_call (fun _ => rfl) fun _ => .pure _
  rw [requestIdOrNew.eq_def]
  split
  · split
    · exact .pure _
    · exact fresh
  · exact fresh

private theorem counting_observability {inner : Prog Response} (h : Counting inner) :
    Counting (app.requestObservability request inner) := by
  rw [Application.requestObservability]
  apply Keeps.bind (counting_requestId _)
  intro requestId
  apply counting_call fun _ => rfl
  intro token
  apply counting_call fun _ => rfl
  intro started
  apply Keeps.bind (h.ensuring fun _ => counting_perform fun _ => rfl)
  intro response
  apply counting_call fun _ => rfl
  intro finished
  apply Keeps.bind
  · rw [orValueError.eq_def]
    split
    · exact .pure _
    · exact .throw _
  · intro urlPath
    dsimp only
    split
    · apply counting_record_bind rfl
      exact .bind counting_log fun _ => .pure _
    · exact .bind counting_log fun _ => .pure _

/-- The specification of the server as far as it counts errors. -/
theorem counting_serve (app : Application) (request : Request) : Counting (app.serve request) := by
  rw [Application.serve, Application.asgi, Application.serverErrorMiddleware]
  apply Keeps.tryCatch
  · apply Keeps.tryCatch
    · apply Keeps.bind (counting_observability (counting_cors (counting_trustedHost (counting_exceptions counting_router _))))
      exact fun response => counting_perform fun _ => rfl
    · intro e
      split
      · apply Keeps.bind
        · rw [unexpectedErrorHandler]
          exact .bind counting_log fun _ => .bind counting_envelope fun _ => .pure _
        · intro response
          exact counting_call (fun _ => rfl) fun _ => .throw _
      · exact .throw _
  · intro e
    apply counting_call fun _ => rfl
    intro _
    split
    · exact counting_perform fun _ => rfl
    · exact .pure _

end Layers
end IpCountryApi.Http
