import IpCountryApi.Providers.IPinfo
import IpCountryApi.Services.IpLookup

/-! The metric calls of a lookup over either provider, while the libraries fail only in
the ways they document and nothing is cancelled. -/
namespace IpCountryApi.Services
open Library Domain Execution Observability Providers Repositories

/-- The metric calls of a history, newest first. -/
def metricCalls (h : Past) : List MetricCall := h.filterMap metricCall

/-- Metric calls, and every query at which the event loop may switch. -/
def metered (q : Query) : Bool :=
  q.awaits ||
    match q with
    | .metric _ => true
    | _ => false

/-- The libraries fail only as documented, and nothing is cancelled. -/
def Documented : Answered → Prop
  | ⟨.scalar _, .error f⟩ | ⟨.execute _, .error f⟩ | ⟨.commit _, .error f⟩ => ∃ sqlstate, f.kind = .sqlalchemy sqlstate
  | ⟨.clientGet _ _, .error f⟩ => ∃ e, f.kind = .request e
  | ⟨.clientGet _ _, .ok response⟩ => ∀ f, response.json = .error f → f.kind = .value
  | ⟨.sleep _, .error _⟩ => False
  | _ => True

instance (kind : Kind) : Decidable (∃ sqlstate, kind = .sqlalchemy sqlstate) :=
  match kind with
  | .sqlalchemy sqlstate => .isTrue ⟨sqlstate, rfl⟩
  | .operational | .timeout | .request _ | .value | .cancelled | .other => .isFalse fun ⟨_, h⟩ => by cases h

instance (kind : Kind) : Decidable (∃ e, kind = .request e) :=
  match kind with
  | .request e => .isTrue ⟨e, rfl⟩
  | .sqlalchemy _ | .operational | .timeout | .value | .cancelled | .other => .isFalse fun ⟨_, h⟩ => by cases h

instance (json : Except Foreign Json) : Decidable (∀ f, json = .error f → f.kind = .value) :=
  match json with
  | .error f => decidable_of_iff (f.kind = .value) ⟨fun h _ he => Except.error.inj he ▸ h, fun h => h f rfl⟩
  | .ok _ => .isTrue fun _ he => by cases he

instance (e : Answered) : Decidable (Documented e) :=
  match e with
  | ⟨.scalar _, .error f⟩ | ⟨.execute _, .error f⟩ | ⟨.commit _, .error f⟩ =>
    inferInstanceAs (Decidable (∃ sqlstate, f.kind = .sqlalchemy sqlstate))
  | ⟨.clientGet _ _, .error f⟩ => inferInstanceAs (Decidable (∃ e, f.kind = .request e))
  | ⟨.clientGet _ _, .ok response⟩ => inferInstanceAs (Decidable (∀ f, response.json = .error f → f.kind = .value))
  | ⟨.sleep _, .error _⟩ => .isFalse id
  | ⟨.scalar _, .ok _⟩ | ⟨.execute _, .ok _⟩ | ⟨.commit _, .ok _⟩ | ⟨.sleep _, .ok _⟩
  | ⟨.clock, _⟩ | ⟨.now, _⟩ | ⟨.perfCounter, _⟩ | ⟨.timestamp, _⟩ | ⟨.uuid4, _⟩ | ⟨.contextGet, _⟩
  | ⟨.contextSet _, _⟩ | ⟨.contextReset _, _⟩ | ⟨.metric _, _⟩ | ⟨.scrape, _⟩ | ⟨.print _, _⟩ | ⟨.provider _, _⟩
  | ⟨.readinessProbe, _⟩ | ⟨.template _, _⟩ | ⟨.staticFile _ _, _⟩ | ⟨.send _, _⟩ => .isTrue trivial

/-- A row that is read has an address for its key. -/
def AddressRead : Answered → Prop
  | ⟨.scalar _, .ok (some row)⟩ => (ipAddress row.ipAddress).isSome
  | _ => True

/-- Database errors counted so far never exceed the operations they belong to. -/
def Balanced (calls : List MetricCall) : Prop :=
  ∀ operation : String,
    calls.countP (·.counts .databaseErrors (MetricCall.labelled 0 operation)) ≤
      calls.countP (·.counts .databaseOperations (MetricCall.labelled 0 operation))

def meteredContract : Contract Query Reply where
  sees := metered
  rely _ e := Documented e ∧ AddressRead e
  guar h q := (q.awaits = true → Balanced (metricCalls h)) ∧ ∀ key, q = .scalar key → ∃ ip : IPAddress, key = ip.str

section Rules
variable {h : Past} {α β : Type}

theorem record_metered {call : MetricCall} {f : Unit → Prog β} {post : Past → Except Exn β → Prop} :
    Meets meteredContract (record call >>= f) h post ↔ Meets meteredContract (f ()) (⟨.metric call, ()⟩ :: h) post := by
  rw [record, perform_seen rfl]
  exact ⟨fun hp => hp.2 () ⟨trivial, trivial⟩, fun hp => ⟨⟨fun ha => (by cases ha), fun _ he => by cases he⟩, fun _ _ => hp⟩⟩

theorem record_metered_end {call : MetricCall} {post : Past → Except Exn Unit → Prop} :
    Meets meteredContract (record call) h post ↔ post (⟨.metric call, ()⟩ :: h) (.ok ()) := by
  rw [record, perform, Meets.call_seen rfl]
  exact ⟨fun hp => hp.2 () ⟨trivial, trivial⟩, fun hp => ⟨⟨fun ha => (by cases ha), fun _ he => by cases he⟩, fun _ _ => hp⟩⟩

/-- A query the contract does not see. -/
theorem hidden_metered {q : Query} (hq : metered q = false) {f : Reply q → Prog β}
    {post : Past → Except Exn β → Prop} :
    Meets meteredContract (perform q >>= f) h post ↔ ∀ r, Meets meteredContract (f r) h post :=
  perform_unseen hq

/-- An await between balanced counts. -/
theorem await_metered {q : Query} (hq : q.awaits = true) (hkey : ∀ key, q = .scalar key → ∃ ip : IPAddress, key = ip.str)
    (hb : Balanced (metricCalls h)) {f : Reply q → Prog β} {post : Past → Except Exn β → Prop}
    (hp : ∀ r, Documented ⟨q, r⟩ → AddressRead ⟨q, r⟩ → Meets meteredContract (f r) (⟨q, r⟩ :: h) post) :
    Meets meteredContract (perform q >>= f) h post :=
  (perform_seen (by simp [meteredContract, metered, hq])).mpr ⟨⟨fun _ => hb, hkey⟩, fun r hr => hp r hr.1 hr.2⟩

theorem log_metered {log : LogConfig} {level : LogLevel} {event : String} {fields : EventDict}
    {post : Past → Except Exn Unit → Prop} (hp : post h (.ok ())) :
    Meets meteredContract (log.log level event fields) h post := by
  rw [LogConfig.log]
  split
  · exact hp
  · rw [Meets.bind_iff, requestIdContextGet, hidden_metered rfl]
    intro value
    show Meets _ (perform .timestamp >>= _) h post
    rw [hidden_metered rfl]
    intro time
    exact (Meets.call_unseen rfl _ _).mpr fun _ => hp

end Rules

/-- What one provider call adds: a counted request, with one typed error if it failed. -/
def ProviderRun {α : Type} (name : String) (calls : List MetricCall) (h : Past) : Except Exn α → Prop
  | .ok _ => ∃ duration, metricCalls h = .providerRequest name "success" duration :: calls
  | .error e => e.isException = true ∧ ∃ duration errorType,
      metricCalls h = .providerRequest name "error" duration :: .providerError name errorType :: calls

theorem fake_metered {ip : IPAddress} {h : Past} :
    Meets meteredContract (FakeGeoIPProvider.lookup ip) h
      (ProviderRun FakeGeoIPProvider.name (metricCalls h)) := by
  rw [FakeGeoIPProvider.lookup, hidden_metered rfl]
  intro started
  split
  · rw [record_metered, hidden_metered rfl]
    intro finished
    rw [record_metered]
    exact ⟨rfl, _, _, rfl⟩
  · rw [hidden_metered rfl]
    intro finished
    rw [record_metered]
    exact ⟨_, rfl⟩

namespace IPinfo
variable {self : IPinfoLiteProvider} {ip : IPAddress} {h : Past} {calls : List MetricCall}

/-- One attempt: only the errors that end the loop are counted. -/
def AttemptRun (calls : List MetricCall) (h : Past) : Except Exn HttpResponse → Prop
  | .ok response => metricCalls h = calls ∧ ∀ f, response.json = .error f → f.kind = .value
  | .error (.retryable _) => metricCalls h = calls
  | .error (.app _) => ∃ errorType, metricCalls h = .providerError IPinfoLiteProvider.name errorType :: calls
  | .error _ => False

private theorem request_metered (hb : Balanced calls) (hh : metricCalls h = calls) :
    Meets meteredContract (self.request ip) h (AttemptRun calls) := by
  rw [IPinfoLiteProvider.request, Meets.bind_iff, Meets.tryCatch_iff]
  refine await_metered rfl (fun _ he => by cases he) (hh ▸ hb) fun answer expected _ => settle_meets.mpr ?_
  cases answer with
  | error f =>
    obtain ⟨kind, shown, causes⟩ := f
    obtain ⟨e, rfl⟩ := expected
    cases e <;> exact hh
  | ok response =>
    show Meets _ (if _ then _ else _) _ _
    split_ifs
    · rw [record_metered]
      exact ⟨_, congrArg _ hh⟩
    · rw [record_metered]
      exact ⟨_, congrArg _ hh⟩
    · exact hh
    · rw [record_metered]
      exact ⟨_, congrArg _ hh⟩
    · exact ⟨hh, expected⟩

/-- The loop around the attempts adds nothing of its own. -/
private theorem retrying_metered (hb : Balanced calls) {body : Prog HttpResponse}
    (hbody : ∀ h, metricCalls h = calls → Meets meteredContract body h (AttemptRun calls)) (remaining : Nat) :
    ∀ h attemptNumber, metricCalls h = calls →
      Meets meteredContract (retrying body attemptNumber remaining) h (AttemptRun calls) := by
  induction remaining with
  | zero => exact fun h _ hh => hbody h hh
  | succ remaining ih =>
    intro h attemptNumber hh
    rw [retrying, Meets.tryCatch_iff]
    refine (hbody h hh).mono fun h' x hx => ?_
    match x with
    | .ok response => exact hx
    | .error (.retryable timeout) =>
      refine await_metered rfl (fun _ he => by cases he) ((show metricCalls h' = calls from hx) ▸ hb) fun slept expected _ => ?_
      cases slept with
      | error f => exact expected.elim
      | ok _ => exact ih _ _ hx
    | .error (.app e) => exact hx
    | .error .requestValidation | .error (.http e) | .error (.foreign f) => exact hx.elim

/-- Before the request is counted: on failure exactly one typed error has been. -/
private def Tried {α : Type} (calls : List MetricCall) (h : Past) : Except Exn α → Prop
  | .ok _ => metricCalls h = calls
  | .error e => e.isException = true ∧
      ∃ errorType, metricCalls h = .providerError IPinfoLiteProvider.name errorType :: calls

private theorem finished_metered (started : Int) {x : Except Exn GeoIPResult} (hx : Tried calls h x) :
    Meets meteredContract (do
      let finished ← perform .perfCounter
      record (.providerRequest IPinfoLiteProvider.name (if x.isOk then "success" else "error") (finished - started)))
      h fun h' y =>
        match y with
        | .ok _ => ProviderRun IPinfoLiteProvider.name calls h' x
        | .error e => ProviderRun IPinfoLiteProvider.name calls h' (.error e : Except Exn GeoIPResult) := by
  rw [hidden_metered rfl]
  intro finished
  rw [record_metered_end]
  cases x with
  | ok result => exact ⟨_, congrArg _ hx⟩
  | error e =>
    obtain ⟨he, errorType, hx⟩ := hx
    exact ⟨he, _, errorType, congrArg _ hx⟩

/-- The except clauses count the failures that were not counted where they arose. -/
private theorem failed_metered {e : Exn} {post : Past → Except Exn GeoIPResult → Prop}
    (he : (∃ timeout, e = .retryable timeout) ∨ ∃ f, e = .foreign f ∧ f.kind = .value) (hh : metricCalls h = calls)
    (hp : ∀ h' e', Tried calls h' (.error e' : Except Exn GeoIPResult) → post h' (.error e')) :
    Meets meteredContract (IPinfoLiteProvider.failed e) h post := by
  rcases he with ⟨timeout, rfl⟩ | ⟨⟨kind, shown, causes⟩, rfl, rfl⟩
  · cases timeout <;>
    · rw [IPinfoLiteProvider.failed, record_metered]
      exact hp _ _ ⟨rfl, _, congrArg _ hh⟩
  · rw [IPinfoLiteProvider.failed, record_metered]
    exact hp _ _ ⟨rfl, _, congrArg _ hh⟩

theorem lookup_metered (hb : Balanced (metricCalls h)) :
    Meets meteredContract (self.lookup ip) h (ProviderRun IPinfoLiteProvider.name (metricCalls h)) := by
  generalize hh : metricCalls h = calls at hb ⊢
  rw [IPinfoLiteProvider.lookup, hidden_metered rfl]
  intro started
  rw [Meets.ensuring_iff, Meets.tryCatch_iff, Meets.bind_iff]
  have finish : ∀ h' e, Tried calls h' (.error e : Except Exn GeoIPResult) → _ := fun h' e hx =>
    finished_metered started hx
  refine (retrying_metered hb (fun _ => request_metered hb) _ _ _ hh).mono fun h' x hx => ?_
  match x with
  | .error (.retryable timeout) => exact failed_metered (.inl ⟨timeout, rfl⟩) hx finish
  | .error (.app e) => exact finish _ _ ⟨rfl, hx⟩
  | .error .requestValidation | .error (.http e) | .error (.foreign f) => exact hx.elim
  | .ok response =>
    obtain ⟨hh', hjson⟩ := hx
    refine settle_bind_meets.mpr ?_
    cases hj : response.json with
    | error f => exact failed_metered (.inr ⟨f, rfl, hjson f hj⟩) hh' finish
    | ok payload =>
      show Meets _ (self.parse payload >>= _) _ _
      rw [IPinfoLiteProvider.parse]
      split
      · exact finished_metered started hh'
      · exact failed_metered (.inr ⟨_, rfl, rfl⟩) hh' finish

end IPinfo

variable {h : Past} {calls : List MetricCall}

/-- What one repository call adds: a counted operation, with one error if it failed. -/
def RepositoryRun {α : Type} (operation : String) (calls : List MetricCall) (h : Past) : Except Exn α → Prop
  | .ok _ => ∃ duration, metricCalls h = .databaseOperation operation duration :: calls
  | .error e => e.isException = true ∧ ∃ duration,
      metricCalls h = .databaseOperation operation duration :: .databaseError operation "unavailable" :: calls

/-- The except and finally clauses count what the body's outcome calls for. -/
private theorem observed_metered {α : Type} (calls : List MetricCall) {operation : String} {started : Int} {body : Prog α}
    {post : Past → Except Exn α → Prop}
    (hbody : Meets meteredContract body h fun h' x => metricCalls h' = calls ∧
      match x with
      | .ok a => ∀ h'', RepositoryRun operation calls h'' (.ok a : Except Exn α) → post h'' (.ok a)
      | .error e => (∃ f sqlstate, e = .foreign f ∧ f.kind = .sqlalchemy sqlstate) ∧ ∀ h'' e',
          RepositoryRun operation calls h'' (.error e' : Except Exn α) → post h'' (.error e')) :
    Meets meteredContract (PostgreSQLLookupRepository.observed operation started body) h post := by
  rw [PostgreSQLLookupRepository.observed, Meets.ensuring_iff, Meets.tryCatch_iff]
  refine hbody.mono fun h' x ⟨hh, hx⟩ => ?_
  cases x with
  | ok a =>
    refine hidden_metered rfl |>.mpr fun finished => ?_
    rw [record_metered_end]
    exact hx _ ⟨_, congrArg _ hh⟩
  | error e =>
    obtain ⟨⟨⟨kind, shown, causes⟩, sqlstate, rfl, rfl⟩, hx⟩ := hx
    show Meets _ (PostgreSQLLookupRepository.unavailable operation _) _ _
    rw [PostgreSQLLookupRepository.unavailable, record_metered]
    show Meets _ (perform .perfCounter >>= _) _ _
    refine hidden_metered rfl |>.mpr fun finished => ?_
    rw [record_metered_end]
    exact hx _ _ ⟨rfl, _, congrArg _ (congrArg _ hh)⟩

private theorem get_metered {ip : IPAddress} (hb : Balanced calls) (hh : metricCalls h = calls) :
    Meets meteredContract (PostgreSQLLookupRepository.get ip) h (RepositoryRun "read" calls) := by
  rw [PostgreSQLLookupRepository.get, hidden_metered rfl]
  intro started
  rw [Meets.bind_iff]
  refine observed_metered calls (await_metered rfl (fun _ he => ⟨ip, (Query.scalar.inj he).symm⟩) (hh ▸ hb)
    fun answer expected address => settle_meets.mpr ⟨hh, ?_⟩)
  match answer with
  | .error f =>
    obtain ⟨sqlstate, hf⟩ := expected
    exact ⟨⟨f, sqlstate, rfl, hf⟩, fun _ _ hr => hr⟩
  | .ok none => exact fun _ hr => hr
  | .ok (some row) =>
    intro h' hr
    show Meets _ (PostgreSQLLookupRepository.cacheRecord row >>= _) _ _
    rw [PostgreSQLLookupRepository.cacheRecord]
    split
    · rename_i hnone
      have hsome : (ipAddress row.ipAddress).isSome := address
      simp [hnone] at hsome
    · exact hr

private theorem upsert_metered {written : CacheRecord} (hb : Balanced calls) (hh : metricCalls h = calls) :
    Meets meteredContract (PostgreSQLLookupRepository.upsert written) h (RepositoryRun "upsert" calls) := by
  rw [PostgreSQLLookupRepository.upsert, hidden_metered rfl]
  intro started
  rw [hidden_metered rfl]
  intro now
  refine observed_metered calls (await_metered rfl (fun _ he => by cases he) (hh ▸ hb)
    fun executed expected _ => settle_bind_meets.mpr ?_)
  cases executed with
  | error f =>
    obtain ⟨sqlstate, hf⟩ := expected
    exact ⟨hh, ⟨f, sqlstate, rfl, hf⟩, fun _ _ hr => hr⟩
  | ok _ =>
    refine await_metered rfl (fun _ he => by cases he) ((show metricCalls _ = calls from hh) ▸ hb)
      fun committed expected _ => settle_meets.mpr ⟨hh, ?_⟩
    cases committed with
    | error f =>
      obtain ⟨sqlstate, hf⟩ := expected
      exact ⟨⟨f, sqlstate, rfl, hf⟩, fun _ _ hr => hr⟩
    | ok _ => exact fun _ hr => hr

/-- All metric calls of a lookup, newest first. -/
inductive LookupCalls (name : String) : List MetricCall → Prop
  | rejected : LookupCalls name []
  | readFailed (read : Int) :
      LookupCalls name [.databaseOperation "read" read, .databaseError "read" "unavailable"]
  | hit (read : Int) : LookupCalls name [.lookup "database" "success", .databaseOperation "read" read]
  | providerFailed (read request : Int) (errorType : String) :
      LookupCalls name [.lookup "provider" "error", .providerRequest name "error" request,
        .providerError name errorType, .databaseOperation "read" read]
  | writeFailed (read request upsert : Int) :
      LookupCalls name [.lookup "provider" "error", .databaseOperation "upsert" upsert,
        .databaseError "upsert" "unavailable", .providerRequest name "success" request,
        .databaseOperation "read" read]
  | refreshed (read request upsert : Int) :
      LookupCalls name [.lookup "provider" "success", .databaseOperation "upsert" upsert,
        .providerRequest name "success" request, .databaseOperation "read" read]

theorem balanced_of_no_errors (h : ∀ call ∈ calls, call.counter ≠ .databaseErrors) : Balanced calls := by
  intro operation
  have hzero : calls.countP (·.counts .databaseErrors (MetricCall.labelled 0 operation)) = 0 :=
    List.countP_eq_zero.mpr fun call hc => by simp [MetricCall.counts, h call hc]
  omega

/-- What the refresh adds to the calls of a lookup that missed. -/
private theorem refresh_metered {service : IPLookupService} {name : String}
    (repository : service.repository = postgreSQLLookupRepository)
    (provider : ∀ ip h, Balanced (metricCalls h) →
      Meets meteredContract (service.provider ip) h (ProviderRun name (metricCalls h)))
    {ip : IPAddress} {read : Int} (hh : metricCalls h = [.databaseOperation "read" read]) :
    Meets meteredContract (service.refresh ip) h fun h' x =>
      match x with
      | .ok _ => LookupCalls name (.lookup "provider" "success" :: metricCalls h')
      | .error e => e.isException = true ∧ LookupCalls name (.lookup "provider" "error" :: metricCalls h') := by
  rw [IPLookupService.refresh, Meets.bind_iff, repository]
  refine (provider ip h (by rw [hh]; exact balanced_of_no_errors (by simp [MetricCall.counter]))).mono fun h' x hx => ?_
  rw [hh] at hx
  cases x with
  | error e =>
    obtain ⟨he, request, errorType, hx⟩ := hx
    exact ⟨he, hx ▸ .providerFailed read request errorType⟩
  | ok result =>
    obtain ⟨request, hx⟩ := hx
    refine hidden_metered rfl |>.mpr fun fetchedAt => ?_
    rw [Meets.bind_iff]
    refine (upsert_metered (balanced_of_no_errors (by simp [MetricCall.counter])) hx).mono fun h'' y hy => ?_
    cases y with
    | error e =>
      obtain ⟨he, upsert, hy⟩ := hy
      exact ⟨he, hy ▸ .writeFailed read request upsert⟩
    | ok _ =>
      obtain ⟨upsert, hy⟩ := hy
      show LookupCalls name (_ :: metricCalls h'')
      rw [hy]
      exact .refreshed read request upsert

/-- The metric calls of every lookup, and balanced counts wherever it awaits. -/
theorem lookup_calls {service : IPLookupService} {name : String}
    (repository : service.repository = postgreSQLLookupRepository)
    (provider : ∀ ip h, Balanced (metricCalls h) →
      Meets meteredContract (service.provider ip) h (ProviderRun name (metricCalls h))) (value : String) :
    Meets meteredContract (service.lookup value) [] fun h _ => LookupCalls name (metricCalls h) := by
  rw [IPLookupService.lookup, raiseApp_bind_meets]
  cases validatePublicIp value with
  | error e => exact .rejected
  | ok ip =>
    show Meets _ (perform .clock >>= _) _ _
    rw [hidden_metered rfl]
    intro now
    rw [Meets.bind_iff, repository]
    refine (get_metered (balanced_of_no_errors (by simp [metricCalls])) rfl).mono fun h x hx => ?_
    cases x with
    | error e =>
      obtain ⟨_, read, hx⟩ := hx
      exact hx ▸ .readFailed read
    | ok cached =>
      obtain ⟨read, hx⟩ := hx
      dsimp only
      split
      · rw [record_metered, Meets.bind_iff]
        refine log_metered ?_
        show LookupCalls name (_ :: metricCalls h)
        rw [hx]
        exact .hit read
      · rw [Meets.bind_iff, exceptException, Meets.tryCatch_iff]
        refine (refresh_metered repository provider hx).mono fun h' y hy => ?_
        cases y with
        | error e =>
          obtain ⟨he, hy⟩ := hy
          show Meets _ (if e.isException then _ else _) _ _
          rw [if_pos he, record_metered]
          exact hy
        | ok written =>
          show Meets _ (record _ >>= _) _ _
          rw [record_metered, Meets.bind_iff]
          exact log_metered hy

end IpCountryApi.Services
