import IpCountryApi.Execution.Deployment
import IpCountryApi.Library.Playback
import IpCountryApi.Services.LookupRuns

/-! The cache table under any interleaving of lookups on any number of replicas. -/
namespace IpCountryApi.Services
open Library Domain Execution Observability Providers Repositories

structure LookupJob where
  replica : Nat
  value : String

def lookupService (ttlSeconds : Int) (log : LogConfig) : IPLookupService :=
  ⟨postgreSQLLookupRepository, externalProvider, ttlSeconds, log⟩

/-- Replicas with one TTL over one database; each has its own log set-up. -/
def lookups (T : InetType) (allows : World T → Answered → Prop) (ttlSeconds : Int) (log : Nat → LogConfig) :
    System Query Reply Exn LookupResult LookupJob (World T) :=
  deployment T allows (fun j => (lookupService ttlSeconds (log j.replica)).lookup j.value) LookupJob.replica

instance (T : InetType) (allows : World T → Answered → Prop) [∀ w e, Decidable (allows w e)] (ttlSeconds : Int)
    (log : Nat → LogConfig) (w : World T) (i : Nat) (j : LookupJob) (e : Answered) :
    Decidable ((lookups T allows ttlSeconds log).enabled w i j e) :=
  inferInstanceAs (Decidable ((deployment _ _ _ _).enabled w i j e))

/-- What a task has done with its clocks, the database and the provider, newest first. -/
def told (h : Past) : Past := h.filter fun e => caches e.query

/-- All that a row says comes from one answer of the provider for the row's address,
and from the clock reading that followed it. -/
def Provided {T : InetType} (ttl : Int) (row : Row T) (h : Past) : Prop :=
  ∃ ip now reply result fetchedAt newer,
    told h = newer ++ fetched ip now reply result fetchedAt ∧
    T.input ip.str = some row.ipAddress ∧ row.countryCode = result.countryCode ∧
    result.countryName = row.countryName ∧ row.provider = result.provider ∧
    row.fetchedAt = fetchedAt ∧ row.expiresAt = fetchedAt + ttl

variable {T : InetType} {allows : World T → Answered → Prop} {ttlSeconds : Int} {log : Nat → LogConfig}
  {w : World T} {c c' : Config Query Reply Exn LookupResult LookupJob (World T)}

theorem lookups_meets (j : LookupJob) :
    Meets (lookupContract (ttlSeconds * 1000000) j.value) ((lookups T allows ttlSeconds log).program j) []
      (LookupRun (ttlSeconds * 1000000) j.value) := by
  show Meets (lookupContract (lookupService ttlSeconds (log j.replica)).ttl j.value)
    ((lookupService ttlSeconds (log j.replica)).lookup j.value) [] _
  exact lookup_meets rfl rfl

theorem waiting_query (hc : (lookups T allows ttlSeconds log).Reachable w c) {i : Nat} {j : LookupJob} {q : Query}
    {k : Reply q → Prog LookupResult} {h : Past} (hi : c.tasks[i]? = some ⟨j, .ask q k, h⟩)
    (hq : caches q = true) : LookupQuery (ttlSeconds * 1000000) j.value (told h) q := by
  have hm := hc.meets (C := fun j => lookupContract (ttlSeconds * 1000000) j.value) lookups_meets
    (fun _ _ _ _ _ _ _ _ _ _ _ _ => trivial) i _ hi
  exact hm.1 hq

theorem finished_run (hc : (lookups T allows ttlSeconds log).Reachable w c)
    {t : Task Query Reply Exn LookupResult LookupJob} (ht : t ∈ c.tasks) {x : Except Exn LookupResult}
    (hx : t.Finished x) : LookupRun (ttlSeconds * 1000000) t.job.value (told t.history) x :=
  hc.finished (C := fun j => lookupContract (ttlSeconds * 1000000) j.value) lookups_meets
    (fun _ _ _ _ _ _ _ _ _ _ _ _ => trivial) ht hx

theorem told_append (h h' : Past) : told (h ++ h') = told h ++ told h' := List.filter_append ..

theorem Provided.extend {ttl : Int} {row : Row T} {h : Past} (hp : Provided ttl row h) (newer : Past) :
    Provided ttl row (newer ++ h) := by
  obtain ⟨ip, now, reply, result, fetchedAt, newer', hh, rest⟩ := hp
  exact ⟨ip, now, reply, result, fetchedAt, told newer ++ newer', by rw [told_append, hh, List.append_assoc], rest⟩

/-- A row written by a statement that a task may commit is provided by that task. -/
private theorem provided_of_wrote {ttl : Int} {value : String} {h : Past} {st : UpsertStatement} {row : Row T}
    (hq : LookupQuery ttl value (told h) (.commit st)) (hw : st.Wrote row) : Provided ttl row h := by
  generalize ht : told h = past at hq
  cases hq with
  | commit accepted missed result fetchedAt written =>
    rename_i ip now reply
    refine ⟨ip, now, reply, result, fetchedAt, _ :: [_], ht, hw.ipAddress, hw.countryCode, hw.countryName,
      hw.provider, ?_, ?_⟩
    · simpa [statementOf, PostgreSQLLookupRepository.upsertStatement] using hw.fetchedAt
    · simpa [statementOf, PostgreSQLLookupRepository.upsertStatement] using hw.expiresAt

structure CacheSound (ttl : Int) (c : Config Query Reply Exn LookupResult LookupJob (World T)) : Prop where
  oneRow : (c.world.table.map Row.ipAddress).Nodup
  provided : ∀ row ∈ c.world.table, ∃ t ∈ c.tasks, Provided ttl row t.history

private theorem provided_steps {ttl : Int} {row : Row T} (hs : (lookups T allows ttlSeconds log).Steps c c')
    (hp : ∃ t ∈ c.tasks, Provided ttl row t.history) : ∃ t ∈ c'.tasks, Provided ttl row t.history := by
  obtain ⟨t, ht, hp⟩ := hp
  obtain ⟨i, hi⟩ := List.mem_iff_getElem?.mp ht
  obtain ⟨t', ht', _, newer, hh⟩ := hs.task hi
  exact ⟨t', List.mem_of_getElem? ht', hh ▸ hp.extend newer⟩

/-- The step from c to c' is the commit of a statement by a task that was waiting for it. -/
def Commits (c c' : Config Query Reply Exn LookupResult LookupJob (World T)) (st : UpsertStatement) : Prop :=
  ∃ (i : Nat) (j : LookupJob) (k : Reply (.commit st) → Prog LookupResult) (h : Past),
    c.tasks[i]? = some ⟨j, .ask (.commit st) k, h⟩ ∧ c'.world.table = st.write c.world.table ∧
    c'.tasks[i]? = some ⟨j, k (.ok ()), ⟨.commit st, .ok ()⟩ :: h⟩

/-- The step lemma of the table: a step leaves it alone or is a commit. -/
theorem table_step (hs : (lookups T allows ttlSeconds log).Step c c') :
    c'.world.table = c.world.table ∨ ∃ st, Commits c c' st := by
  cases hs with
  | launch j => exact .inl rfl
  | answer i j q k h r waiting _ =>
    have htable := c.world.after_table i j.replica ⟨q, r⟩
    rcases World.written_cases ⟨q, r⟩ c.world.table with ht | ⟨st, he, ht⟩
    · exact .inl (htable.trans ht)
    · cases he
      obtain ⟨hi, _⟩ := List.getElem?_eq_some_iff.mp waiting
      exact .inr ⟨st, i, j, k, h, waiting, htable, by rw [System.answer, List.getElem?_set_self hi]⟩

/-- A statement that waits for its commit was executed, so its values are admitted. -/
theorem commit_admitted (hc : (lookups T allows ttlSeconds log).Reachable w c) {i : Nat} {j : LookupJob}
    {st : UpsertStatement} {k : Reply (.commit st) → Prog LookupResult} {h : Past}
    (hi : c.tasks[i]? = some ⟨j, .ask (.commit st) k, h⟩) : st.Admitted T := by
  have hexecuted : (⟨.execute st, .ok ()⟩ : Answered) ∈ told h := by
    have hq := waiting_query hc hi rfl
    generalize told h = past at hq
    cases hq with
    | commit => exact List.mem_cons_self
  obtain ⟨newer, older, hsplit⟩ := List.append_of_mem (List.mem_filter.mp hexecuted).1
  obtain ⟨_, _, _, _, enabled, _⟩ := hc.origin hi hsplit
  exact enabled.2

/-- In every reachable configuration each address has at most one row, and every row
comes from one provider answer. -/
theorem cacheSound (hw : w.table = []) (hc : (lookups T allows ttlSeconds log).Reachable w c) :
    CacheSound (ttlSeconds * 1000000) c := by
  refine hc.invariant ⟨by simp [hw], by simp [hw]⟩ fun c c' hc ih hs => ?_
  have old : ∀ row ∈ c.world.table, ∃ t ∈ c'.tasks, Provided (ttlSeconds * 1000000) row t.history :=
    fun row hr => provided_steps (.single hs) (ih.provided row hr)
  rcases table_step hs with ht | ⟨st, i, j, k, h, hi, ht, hi'⟩
  · exact ⟨ht ▸ ih.oneRow, ht ▸ old⟩
  · refine ⟨ht ▸ UpsertStatement.nodup_write ih.oneRow, fun row hr => ?_⟩
    rcases UpsertStatement.mem_write_wrote ih.oneRow (ht ▸ hr) with hr | hw
    · exact old row hr
    · refine ⟨_, List.mem_of_getElem? hi', ?_⟩
      exact (provided_of_wrote (waiting_query hc hi rfl) hw).extend [_]

/-- No step removes a row or changes when it was created. -/
theorem rows_kept (hs : (lookups T allows ttlSeconds log).Steps c c') {row : Row T} (hr : row ∈ c.world.table) :
    ∃ row' ∈ c'.world.table, row'.ipAddress = row.ipAddress ∧ row'.createdAt = row.createdAt := by
  induction hs with
  | refl => exact ⟨row, hr, rfl, rfl⟩
  | tail _ hs ih =>
    obtain ⟨row₁, hr₁, hk, hcreated⟩ := ih
    rcases table_step hs with ht | ⟨st, _, _, _, _, _, ht, _⟩
    · exact ⟨row₁, ht ▸ hr₁, hk, hcreated⟩
    · obtain ⟨row₂, hr₂, hk', hcreated'⟩ := st.write_keeps hr₁
      exact ⟨row₂, ht ▸ hr₂, hk'.trans hk, hcreated'.trans hcreated⟩

/-- A database answer of task i: the data of a row that was in the table while the task
was running, not expired by the task's first clock reading. -/
def Served (S : System Query Reply Exn LookupResult LookupJob (World T)) (w : World T)
    (c : Config Query Reply Exn LookupResult LookupJob (World T)) (i : Nat) (job : LookupJob) (h : Past)
    (result : LookupResult) : Prop :=
  ∃ before q k past, ∃ row ∈ before.world.table, ∃ now newer,
    S.Reachable w before ∧ before.tasks[i]? = some ⟨job, .ask q k, past⟩ ∧ S.Steps before c ∧
    told h = newer ++ [⟨.clock, now⟩] ∧ T.input result.ip.str = some row.ipAddress ∧
    result.countryCode = row.countryCode ∧ result.countryName = row.countryName ∧
    result.fetchedAt.instant = row.fetchedAt ∧ result.expiresAt.instant = row.expiresAt ∧ now < row.expiresAt

/-- The record read from a loaded row. -/
private theorem readOutcome_some {reply : Except Foreign (Option LoadedRow)} {cached : CacheRecord}
    (h : readOutcome reply = .ok (some cached)) : ∃ loaded ip, reply = .ok (some loaded) ∧
      ipAddress loaded.ipAddress = some ip ∧
      cached = ⟨ip, loaded.countryCode, loaded.countryName, loaded.provider, utc loaded.fetchedAt, utc loaded.expiresAt⟩ := by
  match reply with
  | .error f => cases h
  | .ok none => cases h
  | .ok (some loaded) =>
    rw [readOutcome, readRow] at h
    cases hip : ipAddress loaded.ipAddress with
    | none =>
      rw [hip] at h
      cases h
    | some ip =>
      rw [hip] at h
      cases h
      exact ⟨loaded, ip, rfl, hip, rfl⟩

/-- Every database answer was served from a row of the table. -/
theorem served (hc : (lookups T allows ttlSeconds log).Reachable w c) {i : Nat}
    {t : Task Query Reply Exn LookupResult LookupJob} (ht : c.tasks[i]? = some t) {result : LookupResult}
    (hx : t.Finished (.ok result)) (source : result.source = .database) :
    Served (lookups T allows ttlSeconds log) w c i t.job t.history result := by
  have run := finished_run hc (List.mem_of_getElem? ht) hx
  generalize hh : told t.history = past at run
  cases run with
  | refreshed => cases source
  | @hit ip accepted now reply cached read fresh =>
    obtain ⟨newer, older, hsplit, _, _, _⟩ := List.filter_eq_cons_iff.mp hh
    obtain ⟨before, k, hb, waiting, enabled, hs⟩ := hc.origin ht hsplit
    obtain ⟨loaded, ip', rfl, _, rfl⟩ := readOutcome_some read
    obtain ⟨v, row, hv, hf, loads⟩ := Row.selects_some.mp enabled.2
    refine ⟨before, _, k, older, row, KeyedTable.fetch_mem hf, now, [_], hb, waiting,
      .head (.answer _ _ _ _ _ _ _ waiting enabled) hs, hh, ?_, loads.countryCode,
      congrArg PyStr.text loads.countryName, ?_, ?_, ?_⟩
    · rw [hv, KeyedTable.fetch_key hf]
    · rw [← loads.fetchedAt, instant_utc]
    · rw [← loads.expiresAt, instant_utc]
    · rwa [← loads.expiresAt, ← instant_utc]

/-- The cache under any interleaving of lookups, with any answers, failures and
cancellations: rows and database answers are what they should be, and rows stay. -/
theorem lookups_share_cache (hw : w.table = []) (hc : (lookups T allows ttlSeconds log).Reachable w c) :
    CacheSound (ttlSeconds * 1000000) c ∧
    (∀ c', (lookups T allows ttlSeconds log).Steps c c' → ∀ row ∈ c.world.table,
      ∃ row' ∈ c'.world.table, row'.ipAddress = row.ipAddress ∧ row'.createdAt = row.createdAt) ∧
    ∀ i t result, c.tasks[i]? = some t → t.Finished (.ok result) → result.source = .database →
      Served (lookups T allows ttlSeconds log) w c i t.job t.history result :=
  ⟨cacheSound hw hc, fun _ hs _ hr => rows_kept hs hr, fun _ _ _ ht hx source => served hc ht hx source⟩

/-- Replies for played runs: one clock reading, one answer to each kind of call. -/
def replies (time : Int) (loaded : Option LoadedRow) (result : GeoIPResult) : (q : Query) → Option (Reply q)
  | .clock => some time
  | .now => some time
  | .timestamp => some time
  | .perfCounter => some 0
  | .contextGet => some none
  | .metric _ => some ()
  | .print _ => some ()
  | .scalar _ => some (.ok loaded)
  | .provider _ => some (.ok (.ok result))
  | .execute _ => some (.ok ())
  | .commit _ => some (.ok ())
  | _ => none

def quietLog : LogConfig := ⟨.critical, fun _ => ""⟩

def unitedStates : GeoIPResult := ⟨"US", "United States", "ipinfo"⟩

/-- The row that a lookup of 8.8.8.8 at time zero loads after one at time zero stored it. -/
def googleRow (ttl : Int) : LoadedRow :=
  ⟨"8.8.8.8".toList, "US", "United States", "ipinfo", .nowUtc 0, .nowUtc ttl, .nowUtc 0, .nowUtc 0⟩

/-- The source of a finished answer. -/
def answeredFrom (t : Task Query Reply Exn LookupResult LookupJob) : Option Source :=
  match t.residual with
  | .done (.ok result) => some result.source
  | _ => none

/-- One replica stores an answer and another one serves it. -/
theorem lookups_share_cache_example : ∃ c, (lookups hostAddresses (fun _ _ => True) 60 fun _ => quietLog).Reachable
      (.start hostAddresses "0.1.0" true) c ∧
    (c.world.table.length = 1 ∧ c.tasks.map answeredFrom = [some .provider, some .database]) ∧
    CacheSound 60000000 c := by
  obtain ⟨c, hc, hp⟩ := System.play_reaches (lookups hostAddresses (fun _ _ => True) 60 fun _ => quietLog)
    (.start hostAddresses "0.1.0" true)
    ([.launch ⟨0, "8.8.8.8"⟩] ++ List.replicate 20 (.reply 0 (replies 0 none unitedStates)) ++
      [.launch ⟨1, " 8.8.8.8"⟩] ++ List.replicate 20 (.reply 1 (replies 1 (some (googleRow 60000000)) unitedStates)))
    (fun c => c.world.table.length = 1 ∧ c.tasks.map answeredFrom = [some .provider, some .database])
    (by decide +kernel)
  exact ⟨c, hc, of_decide_eq_true hp, (lookups_share_cache rfl hc).1⟩

end IpCountryApi.Services
