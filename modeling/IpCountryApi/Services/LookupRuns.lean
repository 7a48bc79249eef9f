import IpCountryApi.Services.IpLookup

/-! All runs of a lookup over an external provider, told by its clocks, the database
and the provider: what it asks at each point, and how it ends. -/
namespace IpCountryApi.Services
open Library Domain Execution Observability Providers Repositories

/-- The queries that decide a lookup. -/
def caches : Query → Bool
  | .clock | .now | .scalar _ | .execute _ | .commit _ | .provider _ => true
  | _ => false

/-- How a repository method reports a failed database call. -/
def databaseFailure (f : Foreign) : Exn :=
  match f with
  | ⟨.sqlalchemy _, _, _⟩ => .app .databaseUnavailable
  | f => .foreign f

def readRow (row : LoadedRow) : Except Exn CacheRecord :=
  match ipAddress row.ipAddress with
  | none => .error (.foreign (valueError "ValueError"))
  | some ip =>
    .ok ⟨ip, row.countryCode, row.countryName, row.provider, utc row.fetchedAt, utc row.expiresAt⟩

/-- What get makes of the answer to its SELECT. -/
def readOutcome : Except Foreign (Option LoadedRow) → Except Exn (Option CacheRecord)
  | .error f => .error (databaseFailure f)
  | .ok none => .ok none
  | .ok (some row) => (readRow row).map some

def providerFailure : Except Foreign (Except AppError GeoIPResult) → Option Exn
  | .error f => some (.foreign f)
  | .ok (.error e) => some (.app e)
  | .ok (.ok _) => none

/-- The statement that stores a provider answer. -/
def statementOf (ttl : Int) (ip : IPAddress) (result : GeoIPResult) (fetchedAt now : Int) : UpsertStatement :=
  PostgreSQLLookupRepository.upsertStatement
    ⟨ip, result.countryCode, result.countryName, result.provider, .nowUtc fetchedAt,
      (Datetime.nowUtc fetchedAt).add ttl⟩ (.nowUtc now)

/-- The cache had no row, or one that had expired by the reading. -/
def Missed (now : Int) (reply : Except Foreign (Option LoadedRow)) : Prop :=
  ∃ cached, readOutcome reply = .ok cached ∧ ∀ c, cached = some c → c.expiresAt.instant ≤ now

def asked (ip : IPAddress) (now : Int) (reply : Except Foreign (Option LoadedRow)) : Past :=
  [⟨.scalar ip.str, reply⟩, ⟨.clock, now⟩]

def fetched (ip : IPAddress) (now : Int) (reply : Except Foreign (Option LoadedRow)) (result : GeoIPResult)
    (fetchedAt : Int) : Past :=
  ⟨.clock, fetchedAt⟩ :: ⟨.provider ip, .ok (.ok result)⟩ :: asked ip now reply

/-- Which query a lookup may issue after which history. -/
inductive LookupQuery (ttl : Int) (value : String) : Past → Query → Prop
  | clock {ip : IPAddress} (accepted : validatePublicIp value = .ok ip) : LookupQuery ttl value [] .clock
  | scalar {ip : IPAddress} (accepted : validatePublicIp value = .ok ip) (now : Int) :
      LookupQuery ttl value [⟨.clock, now⟩] (.scalar ip.str)
  | provider {ip : IPAddress} (accepted : validatePublicIp value = .ok ip) {now : Int}
      {reply : Except Foreign (Option LoadedRow)} (missed : Missed now reply) :
      LookupQuery ttl value (asked ip now reply) (.provider ip)
  | fetchedAt {ip : IPAddress} (accepted : validatePublicIp value = .ok ip) {now : Int}
      {reply : Except Foreign (Option LoadedRow)} (missed : Missed now reply) (result : GeoIPResult) :
      LookupQuery ttl value (⟨.provider ip, .ok (.ok result)⟩ :: asked ip now reply) .clock
  | now {ip : IPAddress} (accepted : validatePublicIp value = .ok ip) {now : Int}
      {reply : Except Foreign (Option LoadedRow)} (missed : Missed now reply) (result : GeoIPResult)
      (fetchedAt : Int) : LookupQuery ttl value (fetched ip now reply result fetchedAt) .now
  | execute {ip : IPAddress} (accepted : validatePublicIp value = .ok ip) {now : Int}
      {reply : Except Foreign (Option LoadedRow)} (missed : Missed now reply) (result : GeoIPResult)
      (fetchedAt written : Int) :
      LookupQuery ttl value (⟨.now, written⟩ :: fetched ip now reply result fetchedAt)
        (.execute (statementOf ttl ip result fetchedAt written))
  | commit {ip : IPAddress} (accepted : validatePublicIp value = .ok ip) {now : Int}
      {reply : Except Foreign (Option LoadedRow)} (missed : Missed now reply) (result : GeoIPResult)
      (fetchedAt written : Int) :
      LookupQuery ttl value
        (⟨.execute (statementOf ttl ip result fetchedAt written), .ok ()⟩ :: ⟨.now, written⟩ ::
          fetched ip now reply result fetchedAt)
        (.commit (statementOf ttl ip result fetchedAt written))

/-- How a lookup ends after which history. -/
inductive LookupRun (ttl : Int) (value : String) : Past → Except Exn LookupResult → Prop
  | rejected {e : AppError} (rejected : validatePublicIp value = .error e) :
      LookupRun ttl value [] (.error (.app e))
  | readFailed {ip : IPAddress} (accepted : validatePublicIp value = .ok ip) (now : Int)
      {reply : Except Foreign (Option LoadedRow)} {e : Exn} (failed : readOutcome reply = .error e) :
      LookupRun ttl value (asked ip now reply) (.error e)
  | hit {ip : IPAddress} (accepted : validatePublicIp value = .ok ip) {now : Int}
      {reply : Except Foreign (Option LoadedRow)} {cached : CacheRecord}
      (read : readOutcome reply = .ok (some cached)) (fresh : now < cached.expiresAt.instant) :
      LookupRun ttl value (asked ip now reply)
        (.ok ⟨ip, cached.countryCode, cached.countryName, .database, cached.fetchedAt, cached.expiresAt⟩)
  | providerFailed {ip : IPAddress} (accepted : validatePublicIp value = .ok ip) {now : Int}
      {reply : Except Foreign (Option LoadedRow)} (missed : Missed now reply)
      {answer : Except Foreign (Except AppError GeoIPResult)} {e : Exn} (failed : providerFailure answer = some e) :
      LookupRun ttl value (⟨.provider ip, answer⟩ :: asked ip now reply) (.error e)
  | executeFailed {ip : IPAddress} (accepted : validatePublicIp value = .ok ip) {now : Int}
      {reply : Except Foreign (Option LoadedRow)} (missed : Missed now reply) (result : GeoIPResult)
      (fetchedAt written : Int) (f : Foreign) :
      LookupRun ttl value
        (⟨.execute (statementOf ttl ip result fetchedAt written), .error f⟩ :: ⟨.now, written⟩ ::
          fetched ip now reply result fetchedAt)
        (.error (databaseFailure f))
  | commitFailed {ip : IPAddress} (accepted : validatePublicIp value = .ok ip) {now : Int}
      {reply : Except Foreign (Option LoadedRow)} (missed : Missed now reply) (result : GeoIPResult)
      (fetchedAt written : Int) (f : Foreign) :
      LookupRun ttl value
        (⟨.commit (statementOf ttl ip result fetchedAt written), .error f⟩ ::
          ⟨.execute (statementOf ttl ip result fetchedAt written), .ok ()⟩ :: ⟨.now, written⟩ ::
          fetched ip now reply result fetchedAt)
        (.error (databaseFailure f))
  | refreshed {ip : IPAddress} (accepted : validatePublicIp value = .ok ip) {now : Int}
      {reply : Except Foreign (Option LoadedRow)} (missed : Missed now reply) (result : GeoIPResult)
      (fetchedAt written : Int) :
      LookupRun ttl value
        (⟨.commit (statementOf ttl ip result fetchedAt written), .ok ()⟩ ::
          ⟨.execute (statementOf ttl ip result fetchedAt written), .ok ()⟩ :: ⟨.now, written⟩ ::
          fetched ip now reply result fetchedAt)
        (.ok ⟨ip, result.countryCode, result.countryName, .provider, .nowUtc fetchedAt,
          (Datetime.nowUtc fetchedAt).add ttl⟩)

def lookupContract (ttl : Int) (value : String) : Contract Query Reply where
  sees := caches
  rely _ _ := True
  guar := LookupQuery ttl value

/-! One rule for each part of the program, for any contract that sees these queries. -/
section Rules
variable {C : Contract Query Reply} {h : Past} {α : Type}
variable (hC : C.sees = caches)
include hC

private theorem unseen {q : Query} (hq : caches q = false) : C.sees q = false := by rw [hC, hq]
private theorem seen {q : Query} (hq : caches q = true) : C.sees q = true := by rw [hC, hq]

theorem record_meets {call : MetricCall} {post : Past → Except Exn Unit → Prop} :
    Meets C (record call) h post ↔ post h (.ok ()) := by
  rw [record, perform, Meets.call_unseen (unseen hC rfl)]
  exact ⟨fun hp => hp (), fun hp _ => hp⟩

theorem log_meets {log : LogConfig} {level : LogLevel} {event : String} {fields : EventDict}
    {post : Past → Except Exn Unit → Prop} (hp : post h (.ok ())) :
    Meets C (log.log level event fields) h post := by
  rw [LogConfig.log]
  split
  · exact hp
  · rw [Meets.bind_iff, requestIdContextGet, perform_unseen (unseen hC rfl)]
    intro value
    show Meets C (perform .timestamp >>= _) h post
    rw [perform_unseen (unseen hC rfl)]
    intro time
    rw [perform, Meets.call_unseen (unseen hC rfl)]
    exact fun _ => hp

/-- What the except clause of the repository raises instead. -/
private theorem unavailable_meets {operation : String} {e : Exn} {post : Past → Except Exn α → Prop} :
    Meets C (PostgreSQLLookupRepository.unavailable operation e) h post ↔
      post h (.error (match e with
        | .foreign f => databaseFailure f
        | e => e)) := by
  cases e with
  | foreign f =>
    obtain ⟨kind, shown, causes⟩ := f
    cases kind with
    | sqlalchemy sqlstate =>
      rw [PostgreSQLLookupRepository.unavailable, Meets.bind_iff, record_meets hC]
      rfl
    | _ => rfl
  | _ => rfl

/-- The clauses around a database call change its exception and nothing else. -/
theorem observed_meets {operation : String} {started : Int} {body : Prog α}
    {post : Past → Except Exn α → Prop}
    (hp : Meets C body h fun h' x => post h' (x.mapError fun e =>
      match e with
      | .foreign f => databaseFailure f
      | e => e)) :
    Meets C (PostgreSQLLookupRepository.observed operation started body) h post := by
  rw [PostgreSQLLookupRepository.observed, Meets.ensuring_iff, Meets.tryCatch_iff]
  refine hp.mono fun h' x hx => ?_
  have cleanup : ∀ y, post h' y → Meets C (do
      let finished ← perform .perfCounter
      record (.databaseOperation operation (finished - started))) h' fun h'' z =>
        match z with
        | .ok _ => post h'' y
        | .error e => post h'' (.error e) := by
    intro y hy
    rw [perform_unseen (unseen hC rfl)]
    exact fun r => (record_meets hC).mpr hy
  cases x with
  | ok a => exact cleanup (.ok a) hx
  | error e => exact (unavailable_meets hC).mpr (cleanup _ hx)

omit hC in
private theorem cacheRecord_eq (row : LoadedRow) :
    PostgreSQLLookupRepository.cacheRecord row = .done (readRow row) := by
  unfold PostgreSQLLookupRepository.cacheRecord readRow
  cases ipAddress row.ipAddress <;> rfl

theorem get_meets {ip : IPAddress} {post : Past → Except Exn (Option CacheRecord) → Prop}
    (guar : C.guar h (.scalar ip.str))
    (hp : ∀ reply, post (⟨.scalar ip.str, reply⟩ :: h) (readOutcome reply)) :
    Meets C (PostgreSQLLookupRepository.get ip) h post := by
  rw [PostgreSQLLookupRepository.get, perform_unseen (unseen hC rfl)]
  intro started
  rw [Meets.bind_iff]
  apply observed_meets hC
  rw [perform_seen (seen hC rfl)]
  refine ⟨guar, fun reply _ => settle_meets.mpr ?_⟩
  have hpost := hp reply
  cases reply with
  | error f => exact hpost
  | ok row =>
    cases row with
    | none => exact hpost
    | some row =>
      rw [readOutcome] at hpost
      show Meets C (PostgreSQLLookupRepository.cacheRecord row >>= fun record => pure (some record)) _ post
      rw [cacheRecord_eq]
      generalize readRow row = read at hpost
      cases read <;> exact hpost

/-- Both database calls of an upsert, and what a failure of either one raises. -/
theorem upsert_meets {written : CacheRecord} {post : Past → Except Exn Unit → Prop}
    (now : C.guar h .now)
    (execute : ∀ t st, st = PostgreSQLLookupRepository.upsertStatement written (.nowUtc t) →
      C.guar (⟨.now, t⟩ :: h) (.execute st) ∧
      (∀ f, post (⟨.execute st, .error f⟩ :: ⟨.now, t⟩ :: h) (.error (databaseFailure f))) ∧
      C.guar (⟨.execute st, .ok ()⟩ :: ⟨.now, t⟩ :: h) (.commit st) ∧
      (∀ f, post (⟨.commit st, .error f⟩ :: ⟨.execute st, .ok ()⟩ :: ⟨.now, t⟩ :: h)
        (.error (databaseFailure f))) ∧
      post (⟨.commit st, .ok ()⟩ :: ⟨.execute st, .ok ()⟩ :: ⟨.now, t⟩ :: h) (.ok ())) :
    Meets C (PostgreSQLLookupRepository.upsert written) h post := by
  rw [PostgreSQLLookupRepository.upsert, perform_unseen (unseen hC rfl)]
  intro started
  rw [perform_seen (seen hC rfl)]
  refine ⟨now, fun t _ => observed_meets hC ?_⟩
  obtain ⟨asked, failed, committing, lost, done⟩ := execute t _ rfl
  rw [perform_seen (seen hC rfl)]
  refine ⟨asked, fun reply _ => settle_bind_meets.mpr ?_⟩
  cases reply with
  | error f => exact failed f
  | ok _ =>
    show Meets C (perform (.commit _) >>= settle) _ _
    rw [perform_seen (seen hC rfl)]
    refine ⟨committing, fun reply _ => settle_meets.mpr ?_⟩
    cases reply with
    | error f => exact lost f
    | ok _ => exact done

end Rules

variable {ttl : Int} {value : String} {service : IPLookupService}

private theorem sees_lookup : (lookupContract ttl value).sees = caches := rfl

private theorem missed_of_filter {now : Int} {reply : Except Foreign (Option LoadedRow)}
    {cached : Option CacheRecord} (read : readOutcome reply = .ok cached)
    (hf : (cached.filter fun c => (Datetime.nowUtc now).instant < c.expiresAt.instant) = none) :
    Missed now reply := by
  refine ⟨cached, read, fun c hc => ?_⟩
  subst hc
  simpa using hf

private theorem refresh_meets (repository : service.repository = postgreSQLLookupRepository)
    (provider : service.provider = externalProvider) {ip : IPAddress} (accepted : validatePublicIp value = .ok ip)
    {now : Int} {reply : Except Foreign (Option LoadedRow)} (missed : Missed now reply) :
    Meets (lookupContract service.ttl value) (service.refresh ip) (asked ip now reply) fun h x =>
      LookupRun service.ttl value h (x.map fun written =>
        ⟨ip, written.countryCode, written.countryName, .provider, written.fetchedAt, written.expiresAt⟩) := by
  rw [IPLookupService.refresh, provider, externalProvider, repository, Meets.bind_iff, perform_seen rfl]
  refine ⟨.provider accepted missed, fun answer _ => settle_bind_meets.mpr ?_⟩
  match answer with
  | .error f => exact .providerFailed accepted missed rfl
  | .ok (.error e) => exact .providerFailed accepted missed rfl
  | .ok (.ok result) =>
    show Meets _ (perform .clock >>= _) _ _
    rw [perform_seen rfl]
    refine ⟨.fetchedAt accepted missed result, fun fetchedAt _ => ?_⟩
    rw [Meets.bind_iff]
    refine upsert_meets sees_lookup (.now accepted missed result fetchedAt) fun t st hst => ?_
    subst hst
    exact ⟨.execute accepted missed result fetchedAt t, .executeFailed accepted missed result fetchedAt t,
      .commit accepted missed result fetchedAt t, .commitFailed accepted missed result fetchedAt t,
      .refreshed accepted missed result fetchedAt t⟩

/-- The specification of lookup: all its runs, and every query on the way. -/
theorem lookup_meets (repository : service.repository = postgreSQLLookupRepository)
    (provider : service.provider = externalProvider) :
    Meets (lookupContract service.ttl value) (service.lookup value) [] (LookupRun service.ttl value) := by
  rw [IPLookupService.lookup, raiseApp_bind_meets]
  cases accepted : validatePublicIp value with
  | error e => exact .rejected accepted
  | ok ip =>
    show Meets _ (perform .clock >>= _) _ _
    rw [perform_seen rfl]
    refine ⟨.clock accepted, fun now _ => ?_⟩
    rw [Meets.bind_iff, repository]
    refine get_meets sees_lookup (.scalar accepted now) fun reply => ?_
    cases read : readOutcome reply with
    | error e => exact .readFailed accepted now read
    | ok cached =>
      dsimp only
      split
      · rename_i c hf
        obtain ⟨rfl, fresh⟩ := Option.filter_eq_some_iff.mp hf
        rw [Meets.bind_iff, record_meets sees_lookup]
        show Meets _ (LogConfig.log _ _ _ _ >>= _) _ _
        rw [Meets.bind_iff]
        exact log_meets sees_lookup (.hit accepted read (by simpa using fresh))
      · rename_i hf
        have missed := missed_of_filter read hf
        rw [Meets.bind_iff, exceptException_meets fun h e => by
          rw [Meets.bind_iff, record_meets sees_lookup]
          rfl]
        refine (refresh_meets repository provider accepted missed).mono fun h x run => ?_
        cases x with
        | error e => exact run
        | ok written =>
          show Meets _ (record _ >>= _) _ _
          rw [Meets.bind_iff, record_meets sees_lookup]
          show Meets _ (LogConfig.log _ _ _ _ >>= _) _ _
          rw [Meets.bind_iff]
          exact log_meets sees_lookup run

end IpCountryApi.Services
