import IpCountryApi.Services.SharedCache

/-! What a failing lookup leaves behind, and what it never starts, with any other lookups
in between. -/
namespace IpCountryApi.Services
open Library Domain Execution Observability Providers Repositories

/-- The stages of a lookup in their order; clocks, metrics and logs belong to none. -/
def stage : Query → Nat
  | .scalar _ => 1
  | .provider _ => 2
  | .execute _ => 3
  | .commit _ => 4
  | _ => 0

/-- The stage whose answer this is has failed. -/
def Failed : Answered → Prop
  | ⟨.scalar _, reply⟩ => ∃ e, readOutcome reply = .error e
  | ⟨.provider _, answer⟩ => ∃ e, providerFailure answer = some e
  | ⟨.execute _, reply⟩ => ∃ f, reply = .error f
  | ⟨.commit _, reply⟩ => ∃ f, reply = .error f
  | _ => False

/-- The task has asked this, whether or not it has its answer. -/
def Started (t : Task Query Reply Exn LookupResult LookupJob) (q : Query) : Prop :=
  (∃ e ∈ t.history, e.query = q) ∨ ∃ k, t.residual = .ask q k

/-- The row under the address of an answer holds its fields. -/
structure Holds {T : InetType} (row : Row T) (result : LookupResult) : Prop where
  ipAddress : T.input result.ip.str = some row.ipAddress
  countryCode : row.countryCode = result.countryCode
  countryName : result.countryName = row.countryName
  fetchedAt : row.fetchedAt = result.fetchedAt.instant
  expiresAt : row.expiresAt = result.expiresAt.instant

/-- A statement writes the fields of an answer. -/
structure Returned (st : UpsertStatement) (result : LookupResult) : Prop where
  ipAddress : st.ipAddress = result.ip.str
  countryCode : st.countryCode = result.countryCode
  countryName : st.countryName = result.countryName
  fetchedAt : st.fetchedAt = result.fetchedAt
  expiresAt : st.expiresAt = result.expiresAt

theorem caches_of_stage {q : Query} (h : stage q ≠ 0) : caches q = true := by
  cases q <;> first | rfl | exact absurd rfl h

theorem stage_of_failed {e : Answered} (h : Failed e) : stage e.query ≠ 0 := by
  obtain ⟨q, r⟩ := e
  cases q <;> first | exact Nat.succ_ne_zero _ | exact h.elim

section Histories
variable {ttl : Int} {value : String} {past : Past} {q : Query} {x : Except Exn LookupResult}

theorem Missed.succeeded {now : Int} {reply : Except Foreign (Option LoadedRow)} (missed : Missed now reply) (ip : IPAddress) :
    ∀ e ∈ asked ip now reply, ¬ Failed e := by
  obtain ⟨cached, read, _⟩ := missed
  intro e he
  simp only [asked, List.mem_cons, List.not_mem_nil, or_false] at he
  rcases he with rfl | rfl
  · rintro ⟨e, failed⟩
    cases read.symm.trans failed
  · exact id

theorem succeeded_fetched {ip : IPAddress} {now : Int} {reply : Except Foreign (Option LoadedRow)}
    (missed : Missed now reply) (result : GeoIPResult) (fetchedAt : Int) :
    ∀ e ∈ fetched ip now reply result fetchedAt, ¬ Failed e := by
  intro e he
  rw [fetched, List.mem_cons, List.mem_cons] at he
  rcases he with rfl | rfl | he
  · exact id
  · rintro ⟨e, failed⟩
    cases failed
  · exact missed.succeeded ip e he

/-- A lookup asks for something only while nothing has failed. -/
theorem LookupQuery.succeeded (h : LookupQuery ttl value past q) : ∀ e ∈ past, ¬ Failed e := by
  cases h with
  | clock => exact fun e he => absurd he List.not_mem_nil
  | scalar =>
    intro e he
    rw [List.mem_singleton] at he
    exact he ▸ id
  | provider _ missed => exact missed.succeeded _
  | fetchedAt _ missed result =>
    refine List.forall_mem_cons.2 ⟨?_, missed.succeeded _⟩
    rintro ⟨e, failed⟩
    cases failed
  | now _ missed result fetchedAt => exact succeeded_fetched missed result fetchedAt
  | execute _ missed result fetchedAt written =>
    exact List.forall_mem_cons.2 ⟨id, succeeded_fetched missed result fetchedAt⟩
  | commit _ missed result fetchedAt written =>
    refine List.forall_mem_cons.2 ⟨?_, List.forall_mem_cons.2 ⟨id, succeeded_fetched missed result fetchedAt⟩⟩
    rintro ⟨f, failed⟩
    cases failed

/-- The stages before one. -/
theorem LookupQuery.ordered (h : LookupQuery ttl value past q) (hq : stage q ≠ 0) :
    ∀ e ∈ past, stage e.query ≤ stage q := by
  cases h with
  | clock => exact absurd rfl hq
  | fetchedAt => exact absurd rfl hq
  | now => exact absurd rfl hq
  | _ => simp [asked, fetched, stage]

theorem LookupQuery.accepted (h : LookupQuery ttl value past q) : ∃ ip, validatePublicIp value = .ok ip := by
  cases h with
  | clock accepted | scalar accepted | provider accepted | fetchedAt accepted | now accepted | execute accepted
  | commit accepted => exact ⟨_, accepted⟩

/-- A lookup that returns has met no failure. -/
theorem LookupRun.succeeded {result : LookupResult} (run : LookupRun ttl value past (.ok result)) :
    ∀ e ∈ past, ¬ Failed e := by
  cases run with
  | hit _ read fresh =>
    refine List.forall_mem_cons.2 ⟨?_, List.forall_mem_cons.2 ⟨id, fun e he => absurd he List.not_mem_nil⟩⟩
    rintro ⟨e, failed⟩
    cases read.symm.trans failed
  | refreshed accepted missed result fetchedAt written =>
    refine List.forall_mem_cons.2 ⟨?_, (LookupQuery.commit accepted missed result fetchedAt written).succeeded⟩
    rintro ⟨f, failed⟩
    cases failed

/-- A lookup commits one statement, with the fields it returns, or none. -/
theorem LookupRun.commits (run : LookupRun ttl value past x) :
    (∀ st, ⟨.commit st, .ok ()⟩ ∉ past) ∧ (∀ result, x = .ok result → result.source = .database) ∨
    ∃ st result, x = .ok result ∧ Returned st result ∧ ⟨.execute st, .ok ()⟩ ∈ past ∧
      ∀ st', ⟨.commit st', .ok ()⟩ ∈ past ↔ st' = st := by
  cases run with
  | refreshed accepted missed result fetchedAt written =>
    refine .inr ⟨statementOf ttl _ result fetchedAt written, _, rfl, ⟨rfl, rfl, rfl, rfl, rfl⟩, by simp, fun st' => ?_⟩
    simp [fetched, asked]
  | hit => exact .inl ⟨by simp [asked], fun result h => by cases h; rfl⟩
  | _ => exact .inl ⟨by simp [asked, fetched], fun result h => by cases h⟩

end Histories

section Runs
variable {T : InetType} {allows : World T → Answered → Prop} {ttlSeconds : Int} {log : Nat → LogConfig} {w : World T}
  {c : Config Query Reply Exn LookupResult LookupJob (World T)} {i : Nat}
  {t : Task Query Reply Exn LookupResult LookupJob}

/-- The last thing a task has done was asked after what it had done before. -/
theorem told_cases (hc : (lookups T allows ttlSeconds log).Reachable w c) (ht : c.tasks[i]? = some t) :
    told t.history = [] ∨
      ∃ e rest, told t.history = e :: rest ∧ LookupQuery (ttlSeconds * 1000000) t.job.value rest e.query := by
  cases hpast : told t.history with
  | nil => exact .inl rfl
  | cons e rest =>
    obtain ⟨newer, older, hsplit, _, hcaches, hrest⟩ := List.filter_eq_cons_iff.mp hpast
    obtain ⟨before, k, hb, waiting, _, _⟩ := hc.origin ht hsplit
    exact .inr ⟨e, rest, rfl, hrest ▸ waiting_query hb waiting hcaches⟩

/-- A stage that was started is the one a task waits for, or among those it has an answer to. -/
theorem started_cases (hc : (lookups T allows ttlSeconds log).Reachable w c) (ht : c.tasks[i]? = some t) {q : Query}
    (hq : Started t q) (hstage : stage q ≠ 0) :
    LookupQuery (ttlSeconds * 1000000) t.job.value (told t.history) q ∨ ∃ e ∈ told t.history, e.query = q := by
  rcases hq with ⟨e, he, rfl⟩ | ⟨k, hk⟩
  · exact .inr ⟨e, List.mem_filter.2 ⟨he, caches_of_stage hstage⟩, rfl⟩
  · obtain ⟨j, residual, h⟩ := t
    obtain rfl : residual = .ask q k := hk
    exact .inl (waiting_query hc ht (caches_of_stage hstage))

theorem told_of_failed {e : Answered} (he : e ∈ t.history) (hf : Failed e) : e ∈ told t.history :=
  List.mem_filter.2 ⟨he, caches_of_stage (stage_of_failed hf)⟩

/-- No stage after a failed one is started. -/
theorem stops_at_failure (hc : (lookups T allows ttlSeconds log).Reachable w c) (ht : c.tasks[i]? = some t)
    {e : Answered} (he : e ∈ t.history) (hf : Failed e) {q : Query} (hq : Started t q) : stage q ≤ stage e.query := by
  by_cases hstage : stage q = 0
  · exact hstage ▸ Nat.zero_le _
  have htold := told_of_failed he hf
  rcases started_cases hc ht hq hstage with waiting | ⟨e', he', rfl⟩
  · exact absurd hf (waiting.succeeded e htold)
  · rcases told_cases hc ht with hnone | ⟨last, rest, hpast, hlast⟩
    · rw [hnone] at htold
      exact absurd htold List.not_mem_nil
    · rw [hpast, List.mem_cons] at htold he'
      rcases htold with rfl | hrest
      · rcases he' with rfl | he'
        · exact le_rfl
        · exact hlast.ordered (stage_of_failed hf) e' he'
      · exact absurd hf (hlast.succeeded e hrest)

/-- A rejected string starts no stage at all. -/
theorem rejected_starts_nothing (hc : (lookups T allows ttlSeconds log).Reachable w c) (ht : c.tasks[i]? = some t)
    {e : AppError} (rejected : validatePublicIp t.job.value = .error e) {q : Query} (hq : Started t q) : stage q = 0 := by
  by_contra hstage
  have no : ∀ past q, ¬ LookupQuery (ttlSeconds * 1000000) t.job.value past q := by
    intro past q h
    obtain ⟨ip, accepted⟩ := h.accepted
    cases accepted.symm.trans rejected
  rcases started_cases hc ht hq hstage with waiting | ⟨e', he', _⟩
  · exact no _ _ waiting
  · rcases told_cases hc ht with hnone | ⟨last, rest, _, hlast⟩
    · rw [hnone] at he'
      exact absurd he' List.not_mem_nil
    · exact no _ _ hlast

/-- A step that answered a task is part of its history ever after. -/
theorem answered_of_steps {b : Config Query Reply Exn LookupResult LookupJob (World T)} {j : LookupJob} {q : Query}
    {k : Reply q → Prog LookupResult} {h : Past} {r : Reply q} (hi : b.tasks[i]? = some ⟨j, .ask q k, h⟩)
    (hs : (lookups T allows ttlSeconds log).Steps ((lookups T allows ttlSeconds log).answer b i j q k h r) c)
    (ht : c.tasks[i]? = some t) : (⟨q, r⟩ : Answered) ∈ t.history := by
  obtain ⟨hlt, _⟩ := List.getElem?_eq_some_iff.mp hi
  have hnow : ((lookups T allows ttlSeconds log).answer b i j q k h r).tasks[i]? = some ⟨j, k r, ⟨q, r⟩ :: h⟩ := by
    rw [System.answer, List.getElem?_set_self hlt]
  obtain ⟨t', ht', _, newer, hh⟩ := hs.task hnow
  obtain rfl := Option.some.inj (ht.symm.trans ht')
  exact hh ▸ List.mem_append_right _ List.mem_cons_self

/-- A lookup that raises has left the table alone in each of its steps. -/
theorem raised_leaves_table (hc : (lookups T allows ttlSeconds log).Reachable w c) (ht : c.tasks[i]? = some t)
    {e : Exn} (hx : t.Finished (.error e)) {b : Config Query Reply Exn LookupResult LookupJob (World T)} {j : LookupJob}
    {q : Query} {k : Reply q → Prog LookupResult} {h : Past} {r : Reply q} (hi : b.tasks[i]? = some ⟨j, .ask q k, h⟩)
    (hs : (lookups T allows ttlSeconds log).Steps ((lookups T allows ttlSeconds log).answer b i j q k h r) c) :
    ((lookups T allows ttlSeconds log).answer b i j q k h r).world.table = b.world.table := by
  refine (b.world.after_table i j.replica ⟨q, r⟩).trans ?_
  rcases World.written_cases ⟨q, r⟩ b.world.table with hsame | ⟨st, hcommit, _⟩
  · exact hsame
  · have hmem := answered_of_steps hi hs ht
    rw [hcommit] at hmem
    have htold : ⟨.commit st, .ok ()⟩ ∈ told t.history := List.mem_filter.2 ⟨hmem, rfl⟩
    rcases (finished_run hc (List.mem_of_getElem? ht) hx).commits with ⟨none, _⟩ | ⟨_, _, hok, _⟩
    · exact absurd htold (none st)
    · cases hok

/-- The row that an executed statement leaves when it is committed. -/
theorem holds_of_write {st : UpsertStatement} {result : LookupResult} (hst : Returned st result)
    (admitted : st.Admitted T) (table : List (Row T)) : ∃ row ∈ st.write table, Holds row result := by
  obtain ⟨row, hrow, wrote⟩ := st.exists_wrote admitted table
  exact ⟨row, hrow, hst.ipAddress ▸ wrote.ipAddress, wrote.countryCode.trans hst.countryCode,
    hst.countryName.symm.trans wrote.countryName, wrote.fetchedAt.trans (congrArg Datetime.instant hst.fetchedAt),
    wrote.expiresAt.trans (congrArg Datetime.instant hst.expiresAt)⟩

/-- A lookup that returns a provider answer has committed one statement, and its commit left
a row with the fields it returns. -/
theorem returned_is_committed (hc : (lookups T allows ttlSeconds log).Reachable w c) (ht : c.tasks[i]? = some t)
    {result : LookupResult} (hx : t.Finished (.ok result)) (source : result.source = .provider) :
    ∃ st before k older, Returned st result ∧ (∀ st', ⟨.commit st', .ok ()⟩ ∈ t.history ↔ st' = st) ∧
      (lookups T allows ttlSeconds log).Reachable w before ∧
      before.tasks[i]? = some ⟨t.job, .ask (.commit st) k, older⟩ ∧
      (lookups T allows ttlSeconds log).Steps
        ((lookups T allows ttlSeconds log).answer before i t.job (.commit st) k older (.ok ())) c ∧
      ∃ row ∈ ((lookups T allows ttlSeconds log).answer before i t.job (.commit st) k older (.ok ())).world.table,
        Holds row result := by
  rcases (finished_run hc (List.mem_of_getElem? ht) hx).commits with ⟨_, hdatabase⟩ | ⟨st, _, hok, hst, hexecute, hcommit⟩
  · cases source.symm.trans (hdatabase result rfl)
  obtain rfl := Except.ok.inj hok
  obtain ⟨newer, older, hsplit⟩ := List.append_of_mem (List.mem_filter.1 ((hcommit st).2 rfl)).1
  obtain ⟨before, k, hb, waiting, _, hs⟩ := hc.origin ht hsplit
  obtain ⟨newer', older', hsplit'⟩ := List.append_of_mem (List.mem_filter.1 hexecute).1
  obtain ⟨_, _, _, _, enabled, _⟩ := hc.origin ht hsplit'
  refine ⟨st, before, k, older, hst, fun st' => ?_, hb, waiting, hs, ?_⟩
  · rw [← hcommit st']
    exact ⟨fun h => List.mem_filter.2 ⟨h, rfl⟩, fun h => (List.mem_filter.1 h).1⟩
  · exact holds_of_write hst enabled.2 before.world.table

/-- Failure atomicity and stage order, for any task of any run over any table. -/
theorem lookups_fail_atomically (hc : (lookups T allows ttlSeconds log).Reachable w c) (ht : c.tasks[i]? = some t) :
    (∀ e, validatePublicIp t.job.value = .error e → ∀ q, Started t q → stage q = 0) ∧
    (∀ e ∈ t.history, Failed e → (∀ q, Started t q → stage q ≤ stage e.query) ∧
      ∀ x, t.Finished x → ∃ raised, x = .error raised) ∧
    (∀ e, t.Finished (.error e) → ∀ b j q k h r, b.tasks[i]? = some ⟨j, .ask q k, h⟩ →
      (lookups T allows ttlSeconds log).Steps ((lookups T allows ttlSeconds log).answer b i j q k h r) c →
      ((lookups T allows ttlSeconds log).answer b i j q k h r).world.table = b.world.table) ∧
    ∀ result, t.Finished (.ok result) → result.source = .provider →
      ∃ st before k older, Returned st result ∧ (∀ st', ⟨.commit st', .ok ()⟩ ∈ t.history ↔ st' = st) ∧
        (lookups T allows ttlSeconds log).Reachable w before ∧
        before.tasks[i]? = some ⟨t.job, .ask (.commit st) k, older⟩ ∧
        (lookups T allows ttlSeconds log).Steps
          ((lookups T allows ttlSeconds log).answer before i t.job (.commit st) k older (.ok ())) c ∧
        ∃ row ∈ ((lookups T allows ttlSeconds log).answer before i t.job (.commit st) k older (.ok ())).world.table,
          Holds row result := by
  refine ⟨fun e rejected q hq => rejected_starts_nothing hc ht rejected hq, fun e he hf => ⟨fun q hq =>
    stops_at_failure hc ht he hf hq, fun x hx => ?_⟩, fun e hx b j q k h r hi hs => raised_leaves_table hc ht hx hi hs,
    fun result hx source => returned_is_committed hc ht hx source⟩
  rcases x with raised | result
  · exact ⟨raised, rfl⟩
  · exact absurd hf ((finished_run hc (List.mem_of_getElem? ht) hx).succeeded e (told_of_failed he hf))

end Runs

/-- Replies of a world whose provider times out. -/
def timeoutReplies : (q : Query) → Option (Reply q)
  | .provider _ => some (.ok (.error .providerTimeout))
  | q => replies 0 none unitedStates q

def timedOut : Answered → Bool
  | ⟨.provider _, .ok (.error e)⟩ => e = .providerTimeout
  | _ => false

theorem failed_of_timedOut {e : Answered} (h : timedOut e = true) : Failed e ∧ stage e.query = 2 := by
  obtain ⟨q, r⟩ := e
  cases q with
  | provider ip =>
    rcases r with f | r
    · cases h
    · rcases r with e | result
      · exact ⟨⟨_, rfl⟩, rfl⟩
      · cases h
  | _ => cases h

/-- One lookup times out while another one of the same address is stored. -/
theorem lookups_fail_atomically_example : ∃ c t,
    (lookups hostAddresses (fun _ _ => True) 60 fun _ => quietLog).Reachable (.start hostAddresses "0.1.0" true) c ∧
    c.tasks[0]? = some t ∧ c.world.table.length = 1 ∧ t.isDone = true ∧ ∀ q, Started t q → stage q ≤ 2 := by
  obtain ⟨c, hc, hp⟩ := System.play_reaches (lookups hostAddresses (fun _ _ => True) 60 fun _ => quietLog)
    (.start hostAddresses "0.1.0" true)
    ([.launch ⟨0, "8.8.8.8"⟩, .launch ⟨1, "8.8.8.8"⟩] ++
      (List.replicate 20 [.reply 0 timeoutReplies, .reply 1 (replies 0 none unitedStates)]).flatten)
    (fun c => c.world.table.length = 1 && c.tasks[0]?.any fun t => t.isDone && t.history.any timedOut)
    (by decide +kernel)
  rw [Bool.and_eq_true, decide_eq_true_eq, Option.any_eq_true] at hp
  obtain ⟨hlength, t, ht, hdone⟩ := hp
  obtain ⟨hdone, htimedOut⟩ := (Bool.and_eq_true _ _).mp hdone
  obtain ⟨e, he, htimedOut⟩ := List.any_eq_true.mp htimedOut
  obtain ⟨hf, hstage⟩ := failed_of_timedOut htimedOut
  exact ⟨c, t, hc, ht, hlength, hdone, fun q hq => hstage ▸ ((lookups_fail_atomically hc ht).2.1 e he hf).1 q hq⟩

end IpCountryApi.Services
