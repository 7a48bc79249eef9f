import IpCountryApi.Services.SharedCache

/-! Which of two concurrent refreshes a row ends up with: the one that commits last,
whatever its readings. -/
namespace IpCountryApi.Services
open Library Domain Execution Observability Providers Repositories

variable {T : InetType} {ttlSeconds : Int} {log : Nat → LogConfig} {w : World T}
  {c c' : Config Query Reply Exn LookupResult LookupJob (World T)}

/-- Lookups on replicas that share a clock that never goes back. -/
abbrev clockedLookups (T : InetType) (ttlSeconds : Int) (log : Nat → LogConfig) :=
  lookups T World.ClockForward ttlSeconds log

/-- The clock readings of a task, newest first. -/
def readings (h : Past) : List Int := h.filterMap World.reading

theorem readings_told (h : Past) : readings (told h) = readings h := by
  rw [readings, told, List.filterMap_filter]
  refine congrArg (List.filterMap · h) (funext fun e => ?_)
  obtain ⟨q, r⟩ := e
  cases q <;> rfl

/-- Readings come in order and none is ahead of the clock; rows are no newer than it. -/
structure Timely (c : Config Query Reply Exn LookupResult LookupJob (World T)) : Prop where
  ordered : ∀ t ∈ c.tasks, (readings t.history).Pairwise (· ≥ ·)
  past : ∀ t ∈ c.tasks, ∀ r ∈ readings t.history, r ≤ c.world.time
  rows : ∀ row ∈ c.world.table, row.fetchedAt ≤ row.updatedAt ∧ row.updatedAt ≤ c.world.time

/-- The readings in a statement that is about to be committed. -/
private theorem commit_readings {ttl : Int} {value : String} {h : Past} {st : UpsertStatement}
    (hq : LookupQuery ttl value (told h) (.commit st)) :
    st.expiresAt.instant = st.fetchedAt.instant + ttl ∧ st.createdAt = st.updatedAt ∧
      ∃ now, readings h = [st.updatedAt.instant, st.fetchedAt.instant, now] := by
  generalize ht : told h = past at hq
  cases hq with
  | @commit ip accepted now reply missed result fetchedAt written =>
    have hr := readings_told h
    rw [ht] at hr
    refine ⟨by simp [statementOf, PostgreSQLLookupRepository.upsertStatement], rfl, now, ?_⟩
    rw [← hr]
    simp only [statementOf, PostgreSQLLookupRepository.upsertStatement, Datetime.instant_nowUtc]
    rfl

private theorem readings_cons (e : Answered) (h : Past) :
    readings (e :: h) = (World.reading e).toList ++ readings h := by
  rw [readings, List.filterMap_cons]
  cases World.reading e <;> rfl

/-- What a commit leaves behind is no older than it was a moment ago. -/
private theorem rows_answer (hc : (clockedLookups T ttlSeconds log).Reachable w c) (ih : Timely c)
    (hn : (c.world.table.map Row.ipAddress).Nodup) {i : Nat}
    {j : LookupJob} {q : Query} {k : Reply q → Prog LookupResult} {h : Past} {r : Reply q}
    (waiting : c.tasks[i]? = some ⟨j, .ask q k, h⟩) {row : Row T}
    (hr : row ∈ (c.world.after i j.replica ⟨q, r⟩).table) :
    row.fetchedAt ≤ row.updatedAt ∧ row.updatedAt ≤ c.world.time := by
  rw [World.after_table] at hr
  rcases World.written_cases ⟨q, r⟩ c.world.table with ht | ⟨st, he, ht⟩
  · exact ih.rows row (ht ▸ hr)
  · cases he
    rcases UpsertStatement.mem_write_wrote hn hr with hr | hw
    · exact ih.rows row hr
    · obtain ⟨_, _, now, hread⟩ := commit_readings (waiting_query hc waiting rfl)
      have ordered := ih.ordered _ (List.mem_of_getElem? waiting)
      have past := ih.past _ (List.mem_of_getElem? waiting) st.updatedAt.instant
      simp only [hread, List.pairwise_cons, List.mem_cons, true_or, forall_const] at ordered past
      rw [hw.fetchedAt, hw.updatedAt]
      exact ⟨ordered.1 _ (.inl rfl), past⟩

theorem timely (hw : w.table = []) (hc : (clockedLookups T ttlSeconds log).Reachable w c) : Timely c := by
  refine hc.invariant ⟨by simp, by simp, by simp [hw]⟩ fun c c' hc ih hs => ?_
  cases hs with
  | launch j =>
    have hnew : ∀ t ∈ ((clockedLookups T ttlSeconds log).launch c j).tasks, t ∈ c.tasks ∨ readings t.history = [] := by
      intro t ht
      rcases List.mem_append.mp ht with ht | ht
      · exact .inl ht
      · exact .inr (by rw [List.mem_singleton.mp ht]; rfl)
    refine ⟨fun t ht => ?_, fun t ht => ?_, ih.rows⟩
    · rcases hnew t ht with ht | ht
      · exact ih.ordered t ht
      · exact ht ▸ .nil
    · rcases hnew t ht with ht | ht
      · exact ih.past t ht
      · simp [ht]
  | answer i j q k h r waiting enabled =>
    have hmem : ⟨j, .ask q k, h⟩ ∈ c.tasks := List.mem_of_getElem? waiting
    have htime := c.world.after_time i j.replica ⟨q, r⟩
    have forward : ∀ t, World.reading ⟨q, r⟩ = some t → c.world.time ≤ t := enabled.1
    have hle : c.world.time ≤ (c.world.after i j.replica ⟨q, r⟩).time := by
      rw [htime]
      cases hr : World.reading ⟨q, r⟩ with
      | none => exact le_rfl
      | some t => exact forward t hr
    have htask : ∀ t ∈ ((clockedLookups T ttlSeconds log).answer c i j q k h r).tasks,
        t ∈ c.tasks ∨ t.history = ⟨q, r⟩ :: h := by
      intro t ht
      rcases List.mem_or_eq_of_mem_set ht with ht | rfl
      · exact .inl ht
      · exact .inr rfl
    refine ⟨fun t ht => ?_, fun t ht => ?_, fun row hr => ?_⟩
    · rcases htask t ht with ht | ht
      · exact ih.ordered t ht
      · rw [ht, readings_cons]
        cases hr : World.reading ⟨q, r⟩ with
        | none => exact ih.ordered _ hmem
        | some t => exact .cons (fun r' hr' => (ih.past _ hmem r' hr').trans (forward t hr)) (ih.ordered _ hmem)
    · intro r' hr'
      rcases htask t ht with ht | ht
      · exact (ih.past t ht r' hr').trans hle
      · rw [ht, readings_cons, List.mem_append] at hr'
        rcases hr' with hr' | hr'
        · rw [Option.mem_toList] at hr'
          exact (htime.trans (by rw [hr']; rfl)).ge
        · exact (ih.past _ hmem r' hr').trans hle
    · obtain ⟨hf, hu⟩ := rows_answer hc ih (cacheSound hw hc).oneRow waiting hr
      exact ⟨hf, hu.trans hle⟩

/-- The statement's readings are no older than those of the row it replaces. -/
def InOrder (st : UpsertStatement) (table : List (Row T)) : Prop :=
  ∀ row ∈ table, T.input st.ipAddress = some row.ipAddress →
    row.fetchedAt ≤ st.fetchedAt.instant ∧ row.updatedAt ≤ st.updatedAt.instant

/-- Runs whose commits are all in order. -/
abbrev OrderedSteps (S : System Query Reply Exn LookupResult LookupJob (World T)) :=
  Relation.ReflTransGen fun c c' => S.Step c c' ∧ ∀ st, Commits c c' st → InOrder st c.world.table

private theorem expires_eq (hw : w.table = []) (hc : (clockedLookups T ttlSeconds log).Reachable w c) {row : Row T}
    (hr : row ∈ c.world.table) : row.expiresAt = row.fetchedAt + ttlSeconds * 1000000 := by
  obtain ⟨_, _, _, _, _, _, _, _, _, _, _, _, _, hf, he⟩ := (cacheSound hw hc).provided row hr
  rw [he, hf]

/-- A commit takes a row back exactly when its readings are older than the row's. -/
theorem commit_inOrder_iff (hw : w.table = []) (hc : (clockedLookups T ttlSeconds log).Reachable w c)
    {st : UpsertStatement} (hcommit : Commits c c' st) {row row' : Row T} (hr : row ∈ c.world.table)
    (hr' : row' ∈ c'.world.table) (hk : T.input st.ipAddress = some row.ipAddress)
    (hk' : row'.ipAddress = row.ipAddress) :
    row.fetchedAt ≤ row'.fetchedAt ∧ row.expiresAt ≤ row'.expiresAt ∧ row.updatedAt ≤ row'.updatedAt ↔
      row.fetchedAt ≤ st.fetchedAt.instant ∧ row.updatedAt ≤ st.updatedAt.instant := by
  obtain ⟨i, j, k, h, hi, ht, _⟩ := hcommit
  have wrote := UpsertStatement.wrote_of_mem (commit_admitted hc hi) (cacheSound hw hc).oneRow (ht ▸ hr') (hk' ▸ hk)
  obtain ⟨hexp, _⟩ := commit_readings (waiting_query hc hi rfl)
  have hold := expires_eq hw hc hr
  rw [wrote.fetchedAt, wrote.expiresAt, wrote.updatedAt, hexp, hold]
  omega

/-- In a run whose commits are in order no row was updated before it was created. -/
theorem created_le_updated (hw : w.table = []) (hs : OrderedSteps (clockedLookups T ttlSeconds log) ⟨w, []⟩ c) :
    (clockedLookups T ttlSeconds log).Reachable w c ∧ ∀ row ∈ c.world.table, row.createdAt ≤ row.updatedAt := by
  induction hs with
  | refl => exact ⟨.start, by simp [hw]⟩
  | @tail c c' _ hs ih =>
    obtain ⟨hc, ih⟩ := ih
    refine ⟨hc.tail hs.1, fun row hr => ?_⟩
    rcases table_step hs.1 with ht | ⟨st, hcommit⟩
    · exact ih row (ht ▸ hr)
    · have order := hs.2 st hcommit
      obtain ⟨i, j, k, h, hi, ht, _⟩ := hcommit
      obtain ⟨_, hcreated, _⟩ := commit_readings (waiting_query hc hi rfl)
      rcases UpsertStatement.mem_write (cacheSound hw hc).oneRow (ht ▸ hr) with
        hr | ⟨name, _, ⟨old, ho, hk, rfl⟩ | ⟨v, _, rfl⟩⟩
      · exact ih row hr
      · exact (ih old ho).trans (order old ho hk).2
      · exact (congrArg Datetime.instant hcreated).le

/-- Where a task about to commit read its fetched_at: after its provider had answered. -/
private theorem fetchedAt_split {ttl : Int} {value : String} {h : Past} {st : UpsertStatement}
    (hq : LookupQuery ttl value (told h) (.commit st)) :
    ∃ newer older ip result, h = newer ++ ⟨.clock, st.fetchedAt.instant⟩ :: older ∧
      (⟨.provider ip, .ok (.ok result)⟩ : Answered) ∈ older := by
  generalize ht : told h = past at hq
  cases hq with
  | @commit ip accepted now reply missed result fetchedAt written =>
    obtain ⟨a, b, rfl, _, hb⟩ := List.filter_eq_append_iff.mp
      (show told h = [_, _] ++ fetched ip now reply result fetchedAt from ht)
    obtain ⟨newer, older, rfl, _, _, hold⟩ := List.filter_eq_cons_iff.mp hb
    refine ⟨a ++ newer, older, ip, result, ?_, List.mem_of_mem_filter (p := fun e => caches e.query) ?_⟩
    · simp [statementOf, PostgreSQLLookupRepository.upsertStatement]
    · rw [hold]
      exact List.mem_cons_self

/-- A commit is in order when its row has not changed since the lookup read fetched_at. -/
theorem inOrder_of_undisturbed (hw : w.table = []) (hc : (clockedLookups T ttlSeconds log).Reachable w c) {i : Nat}
    {j : LookupJob} {st : UpsertStatement} {k : Reply (.commit st) → Prog LookupResult} {h : Past}
    (hi : c.tasks[i]? = some ⟨j, .ask (.commit st) k, h⟩) :
    ∃ before k' older ip result, (clockedLookups T ttlSeconds log).Reachable w before ∧
      before.tasks[i]? = some ⟨j, .ask .clock k', older⟩ ∧ (⟨.provider ip, .ok (.ok result)⟩ : Answered) ∈ older ∧
      (clockedLookups T ttlSeconds log).Steps
        ((clockedLookups T ttlSeconds log).answer before i j .clock k' older st.fetchedAt.instant) c ∧
      ((∀ row ∈ c.world.table, T.input st.ipAddress = some row.ipAddress → row ∈ before.world.table) →
        InOrder st c.world.table) := by
  obtain ⟨_, _, now, hread⟩ := commit_readings (waiting_query hc hi rfl)
  have ordered := (timely hw hc).ordered _ (List.mem_of_getElem? hi)
  simp only [hread, List.pairwise_cons, List.mem_cons] at ordered
  have hle : st.fetchedAt.instant ≤ st.updatedAt.instant := ordered.1 _ (.inl rfl)
  obtain ⟨newer, older, ip, result, hsplit, hprovider⟩ := fetchedAt_split (waiting_query hc hi rfl)
  obtain ⟨before, k', hb, hwait, enabled, hs⟩ := hc.origin hi hsplit
  refine ⟨before, k', older, ip, result, hb, hwait, hprovider, hs, fun same row hr hk => ?_⟩
  obtain ⟨hf, hu⟩ := (timely hw hb).rows row (same row hr hk)
  have hclock : before.world.time ≤ st.fetchedAt.instant := enabled.1 _ rfl
  omega

/-- A commit leaves one row under its key, with what the statement says. -/
theorem commit_wins (hw : w.table = []) (hc : (clockedLookups T ttlSeconds log).Reachable w c) {st : UpsertStatement}
    (hcommit : Commits c c' st) : (∃ row' ∈ c'.world.table, st.Wrote row') ∧
      ∀ row' ∈ c'.world.table, T.input st.ipAddress = some row'.ipAddress → st.Wrote row' := by
  obtain ⟨_, _, _, _, hi, ht, _⟩ := hcommit
  have admitted := commit_admitted hc hi
  rw [ht]
  exact ⟨UpsertStatement.exists_wrote admitted c.world.table, fun row' hr' hk =>
    UpsertStatement.wrote_of_mem admitted (cacheSound hw hc).oneRow hr' hk⟩

/-- What the cache does with concurrent refreshes: the last commit wins, so a row goes
back exactly when the winner's readings are the older ones. -/
theorem last_commit_wins (hw : w.table = []) (hc : (clockedLookups T ttlSeconds log).Reachable w c) :
    (∀ c' st, (clockedLookups T ttlSeconds log).Step c c' → Commits c c' st →
      ((∃ row' ∈ c'.world.table, st.Wrote row') ∧
        ∀ row' ∈ c'.world.table, T.input st.ipAddress = some row'.ipAddress → st.Wrote row') ∧
      ∀ row ∈ c.world.table, ∀ row' ∈ c'.world.table, T.input st.ipAddress = some row.ipAddress →
        row'.ipAddress = row.ipAddress →
        (row.fetchedAt ≤ row'.fetchedAt ∧ row.expiresAt ≤ row'.expiresAt ∧ row.updatedAt ≤ row'.updatedAt ↔
          row.fetchedAt ≤ st.fetchedAt.instant ∧ row.updatedAt ≤ st.updatedAt.instant)) ∧
    (∀ row ∈ c.world.table, row.fetchedAt ≤ row.updatedAt) ∧
    (OrderedSteps (clockedLookups T ttlSeconds log) ⟨w, []⟩ c → ∀ row ∈ c.world.table, row.createdAt ≤ row.updatedAt) ∧
    ∀ (i : Nat) (j : LookupJob) (st : UpsertStatement) (k : Reply (.commit st) → Prog LookupResult) (h : Past),
      c.tasks[i]? = some ⟨j, .ask (.commit st) k, h⟩ →
      ∃ before k' older ip result, (clockedLookups T ttlSeconds log).Reachable w before ∧
        before.tasks[i]? = some ⟨j, .ask .clock k', older⟩ ∧ (⟨.provider ip, .ok (.ok result)⟩ : Answered) ∈ older ∧
        (clockedLookups T ttlSeconds log).Steps
          ((clockedLookups T ttlSeconds log).answer before i j .clock k' older st.fetchedAt.instant) c ∧
        ((∀ row ∈ c.world.table, T.input st.ipAddress = some row.ipAddress → row ∈ before.world.table) →
          InOrder st c.world.table) := by
  refine ⟨fun c' st _ hcommit => ⟨commit_wins hw hc hcommit, fun row hr row' hr' hk hk' =>
    commit_inOrder_iff hw hc hcommit hr hr' hk hk'⟩, fun row hr => ((timely hw hc).rows row hr).1,
    fun hs => (created_le_updated hw hs).2, fun i j st k h hi => inOrder_of_undisturbed hw hc hi⟩

/-- No commit takes a row back, and no row is updated before it is created. -/
def NeverGoesBack (S : System Query Reply Exn LookupResult LookupJob (World T)) (w : World T) : Prop :=
  ∀ c, S.Reachable w c → (∀ row ∈ c.world.table, row.createdAt ≤ row.updatedAt) ∧
    ∀ c', S.Step c c' → ∀ row ∈ c.world.table, ∀ row' ∈ c'.world.table, row'.ipAddress = row.ipAddress →
      row.fetchedAt ≤ row'.fetchedAt ∧ row.expiresAt ≤ row'.expiresAt ∧ row.updatedAt ≤ row'.updatedAt

/-- Two misses of one address: the first to read its clocks has its statement executed when the
second one is done. -/
def lateCommit : List (Move Query Reply LookupJob) :=
  [.launch ⟨0, "8.8.8.8"⟩, .launch ⟨1, "8.8.8.8"⟩] ++ List.replicate 9 (.reply 0 (replies 1 none unitedStates)) ++
    List.replicate 20 (.reply 1 (replies 2 none unitedStates)) ++ [.reply 0 (replies 1 none unitedStates)]

theorem not_neverGoesBack :
    ¬ NeverGoesBack (clockedLookups hostAddresses 60 fun _ => quietLog) (.start hostAddresses "0.1.0" true) := by
  intro h
  obtain ⟨c, hc, hp⟩ := System.play_reaches (clockedLookups hostAddresses 60 fun _ => quietLog)
    (.start hostAddresses "0.1.0" true) lateCommit
    (fun c => System.waiting c 0 &&
      ((clockedLookups hostAddresses 60 fun _ => quietLog).play c [.reply 0 (replies 1 none unitedStates)]).any
        fun c' => c.world.table.any fun row => c'.world.table.any fun row' =>
          row'.ipAddress = row.ipAddress ∧ row'.fetchedAt < row.fetchedAt) (by decide +kernel)
  simp only [Bool.and_eq_true, Option.any_eq_true, List.any_eq_true, decide_eq_true_eq] at hp
  obtain ⟨hwait, c', hplay, row, hr, row', hr', hk, hlt⟩ := hp
  have hle := ((h c hc).2 c' (System.play_step hwait hplay) row hr row' hr' hk).1
  omega

/-- The late commit also leaves a row created after its last update. -/
theorem last_commit_wins_example : ∃ c,
    (clockedLookups hostAddresses 60 fun _ => quietLog).Reachable (.start hostAddresses "0.1.0" true) c ∧
    c.world.table.map (fun row => (row.createdAt, row.updatedAt)) = [(2, 1)] ∧
    ∀ row ∈ c.world.table, row.fetchedAt ≤ row.updatedAt := by
  obtain ⟨c, hc, hp⟩ := System.play_reaches (clockedLookups hostAddresses 60 fun _ => quietLog)
    (.start hostAddresses "0.1.0" true) (lateCommit ++ [.reply 0 (replies 1 none unitedStates)])
    (fun c => c.world.table.map (fun row => (row.createdAt, row.updatedAt)) = [(2, 1)]) (by decide +kernel)
  exact ⟨c, hc, of_decide_eq_true hp, (last_commit_wins rfl hc).2.1⟩

end IpCountryApi.Services
