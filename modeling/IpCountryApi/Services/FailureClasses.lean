import IpCountryApi.Services.Lifespan
import IpCountryApi.Services.StorableAnswers

/-! How the lookup path and the readiness check report one and the same failure of the
database engine. -/
namespace IpCountryApi.Services
open Library Domain Execution Providers Repositories

/-- The engine raises this exception: on a read, on the statement or the commit of a write, and
on the probe. -/
structure Raising (f : Foreign) (env : Environment Query Reply) : Prop where
  scalar : ∀ h key, env h (.scalar key) = .error f
  upsert : ∀ h st, env h (.execute st) = .error f ∨ env h (.execute st) = .ok () ∧ ∀ h', env h' (.commit st) = .error f
  probe : ∀ h, env h .readinessProbe = .error f

/-- The exception a run ends with. -/
def raised {α : Type} : Except Exn α → Option Exn
  | .error e => some e
  | .ok _ => none

/-- The SQLSTATEs of a missing table and a missing schema. -/
def missingSchema (sqlstate : Option String) : Bool := sqlstate = some "42P01" || sqlstate = some "3F000"

variable {f : Foreign} {env : Environment Query Reply} {sqlstate : Option String}

theorem readiness_under (hf : f.kind = .sqlalchemy sqlstate) (raising : Raising f env) (h : Past) :
    raised (readinessCheck.under env h).2 =
      some (.app (if missingSchema sqlstate then .databaseSchemaUnavailable else .databaseUnavailable)) := by
  obtain ⟨kind, shown, causes⟩ := f
  obtain rfl : kind = .sqlalchemy sqlstate := hf
  have hprobe : (do
      let probed ← perform .readinessProbe
      settle probed : Prog Unit).under env h = (⟨.readinessProbe, env h .readinessProbe⟩ :: h,
        .error (.foreign ⟨.sqlalchemy sqlstate, shown, causes⟩)) := by
    rw [perform, Coro.under_call_bind, raising.probe]
    rfl
  rw [readinessCheck, Coro.under_tryCatch_error hprobe, notReady, missingSchema]
  by_cases hmissing : sqlstate = some "42P01" ∨ sqlstate = some "3F000"
  · rw [if_pos hmissing, if_pos (by simpa using hmissing)]
    rfl
  · rw [if_neg hmissing, if_neg (by simpa using hmissing)]
    rfl

/-- Every failing read is an unreachable database. -/
theorem get_under (hf : f.kind = .sqlalchemy sqlstate) (raising : Raising f env) (ip : IPAddress) (h : Past) :
    raised ((PostgreSQLLookupRepository.get ip).under env h).2 = some (.app .databaseUnavailable) := by
  obtain ⟨kind, shown, causes⟩ := f
  obtain rfl : kind = .sqlalchemy sqlstate := hf
  have hread : ∀ h, (do
      let answer ← perform (.scalar ip.str)
      settle answer : Prog (Option LoadedRow)).under env h = (⟨.scalar ip.str, env h (.scalar ip.str)⟩ :: h,
        .error (.foreign ⟨.sqlalchemy sqlstate, shown, causes⟩)) := by
    intro h
    rw [perform, Coro.under_call_bind, raising.scalar]
    rfl
  obtain ⟨h', hobserved⟩ := observed_under "read" (env h .perfCounter) (hread (⟨.perfCounter, env h .perfCounter⟩ :: h))
  rw [PostgreSQLLookupRepository.get, perform, Coro.under_call_bind, Coro.under_bind_error hobserved]
  rfl

/-- So is every failing write, whichever of its statements fails. -/
theorem upsert_raising (hf : f.kind = .sqlalchemy sqlstate) (raising : Raising f env) (record : CacheRecord) (h : Past) :
    raised ((PostgreSQLLookupRepository.upsert record).under env h).2 = some (.app .databaseUnavailable) := by
  obtain ⟨kind, shown, causes⟩ := f
  obtain rfl : kind = .sqlalchemy sqlstate := hf
  obtain ⟨now, h', hupsert⟩ := upsert_under record env h
  have hfailed : ∀ st, ((transaction st).under env h').2 = .error (.foreign ⟨.sqlalchemy sqlstate, shown, causes⟩) := by
    intro st
    rw [transaction, perform, Coro.under_call_bind]
    rcases raising.upsert h' st with hexecute | ⟨hexecute, hcommit⟩
    · rw [hexecute]
      rfl
    · rw [hexecute]
      show (Coro.under env (perform (.commit st) >>= settle) _).2 = _
      rw [perform, Coro.under_call_bind, hcommit]
      rfl
  rw [hupsert, hfailed]
  rfl

/-- Both paths report a failure by the same class exactly if its SQLSTATE is not that of a
missing table or schema. -/
theorem failureClasses_agree_iff (hf : f.kind = .sqlalchemy sqlstate) (raising : Raising f env) (ip : IPAddress)
    (record : CacheRecord) (h : Past) :
    (raised ((PostgreSQLLookupRepository.get ip).under env h).2 = raised (readinessCheck.under env h).2 ∧
      raised ((PostgreSQLLookupRepository.upsert record).under env h).2 = raised (readinessCheck.under env h).2) ↔
    sqlstate ≠ some "42P01" ∧ sqlstate ≠ some "3F000" := by
  have hmissing : missingSchema sqlstate = false ↔ sqlstate ≠ some "42P01" ∧ sqlstate ≠ some "3F000" := by
    simp [missingSchema]
  rw [get_under hf raising, upsert_raising hf raising, readiness_under hf raising, ← hmissing]
  cases missingSchema sqlstate with
  | false => exact iff_of_true ⟨rfl, rfl⟩ rfl
  | true => exact iff_of_false (fun h => absurd h.1 (by decide)) Bool.noConfusion

/-- An engine that raises the same exception on everything. -/
def failingEngine (f : Foreign) : Environment Query Reply
  | _, .scalar _ => (.error f : Except Foreign (Option LoadedRow))
  | _, .execute _ | _, .commit _ | _, .readinessProbe => (.error f : Except Foreign Unit)
  | h, q => answering (fun _ => numberAnswer) h q

theorem failingEngine_raising (f : Foreign) : Raising f (failingEngine f) where
  scalar _ _ := rfl
  upsert _ _ := .inl rfl
  probe _ := rfl

def operationalError : Foreign := ⟨.sqlalchemy (some "08006"), ⟨"", "OperationalError", "connection lost"⟩, []⟩

theorem failureClasses_agree_example :
    raised ((PostgreSQLLookupRepository.get googleAddress).under (failingEngine operationalError) []).2 =
      raised (readinessCheck.under (failingEngine operationalError) []).2 :=
  ((failureClasses_agree_iff rfl (failingEngine_raising operationalError) googleAddress
    ⟨googleAddress, "US", "United States", "ipinfo", .nowUtc 0, .nowUtc 1⟩ []).2 ⟨by decide, by decide⟩).1

def undefinedTable : Foreign :=
  ⟨.sqlalchemy (some "42P01"), ⟨"", "ProgrammingError", "relation ip_lookup_cache does not exist"⟩, []⟩

/-- A missing table is an unavailable schema to the readiness check alone. -/
theorem failureClasses_differ :
    raised ((PostgreSQLLookupRepository.get googleAddress).under (failingEngine undefinedTable) []).2 =
      some (.app .databaseUnavailable) ∧
    raised ((PostgreSQLLookupRepository.upsert ⟨googleAddress, "US", "United States", "ipinfo", .nowUtc 0,
      .nowUtc 1⟩).under (failingEngine undefinedTable) []).2 = some (.app .databaseUnavailable) ∧
    raised (readinessCheck.under (failingEngine undefinedTable) []).2 = some (.app .databaseSchemaUnavailable) := by
  have hkind : undefinedTable.kind = .sqlalchemy (some "42P01") := rfl
  have raising := failingEngine_raising undefinedTable
  refine ⟨get_under hkind raising googleAddress [], upsert_raising hkind raising _ [], ?_⟩
  rw [readiness_under hkind raising, if_pos (by decide)]

end IpCountryApi.Services
