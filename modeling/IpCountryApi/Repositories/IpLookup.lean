import IpCountryApi.Execution.Effects

/-! The PostgreSQL repository: reading one row, and the insert-or-update of one row. -/
namespace IpCountryApi.Repositories
open Library Domain Execution

structure LookupRepository where
  get : IPAddress → Prog (Option CacheRecord)
  upsert : CacheRecord → Prog Unit

def utc (value : Datetime) : Datetime :=
  match value.utcoffset with
  | none => { value with utcoffset := some 0 }
  | some _ => value.astimezoneUtc

namespace PostgreSQLLookupRepository

/-- The except clause for (DBAPIError, SQLAlchemyError). -/
def unavailable {α : Type} (operation : String) : Exn → Prog α
  | .foreign ⟨.sqlalchemy _, _, _⟩ => do
    record (.databaseError operation "unavailable")
    throw (.app .databaseUnavailable)
  | e => throw e

/-- A database call under the except and finally clauses both methods share. -/
def observed {α : Type} (operation : String) (started : Int) (body : Prog α) : Prog α :=
  Coro.ensuring (tryCatch body (unavailable operation)) fun _ => do
    let finished ← perform .perfCounter
    record (.databaseOperation operation (finished - started))

def cacheRecord (row : LoadedRow) : Prog CacheRecord :=
  match ipAddress row.ipAddress with
  | none => throw (.foreign (valueError "ValueError"))
  | some ip => pure ⟨ip, row.countryCode, row.countryName, row.provider, utc row.fetchedAt, utc row.expiresAt⟩

def get (ip : IPAddress) : Prog (Option CacheRecord) := do
  let started ← perform .perfCounter
  let row ← observed "read" started do
    let answer ← perform (.scalar ip.str)
    settle answer
  match row with
  | none => pure none
  | some row => do
    let record ← cacheRecord row
    pure (some record)

def upsertStatement (record : CacheRecord) (now : Datetime) : UpsertStatement where
  ipAddress := record.ip.str
  countryCode := record.countryCode
  countryName := record.countryName
  provider := record.provider
  fetchedAt := record.fetchedAt
  expiresAt := record.expiresAt
  createdAt := now
  updatedAt := now

def upsert (record : CacheRecord) : Prog Unit := do
  let started ← perform .perfCounter
  let now ← perform .now
  let statement := upsertStatement record (.nowUtc now)
  observed "upsert" started do
    let executed ← perform (.execute statement)
    settle executed
    let committed ← perform (.commit statement)
    settle committed

end PostgreSQLLookupRepository

def postgreSQLLookupRepository : LookupRepository where
  get := PostgreSQLLookupRepository.get
  upsert := PostgreSQLLookupRepository.upsert

@[simp] theorem instant_utc (value : Datetime) : (utc value).instant = value.instant := by
  obtain ⟨wall, utcoffset⟩ := value
  cases utcoffset <;> simp [utc, Datetime.instant, Datetime.astimezoneUtc]

end IpCountryApi.Repositories
