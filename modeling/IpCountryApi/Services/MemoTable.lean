import IpCountryApi.Library.SequentialRuns
import IpCountryApi.Library.TtlMemo
import IpCountryApi.Services.SharedCache

/-! One lookup at a time, the service and its repository are a memo table with expiry. -/
namespace IpCountryApi.Services
open Library Domain Execution Observability Providers Repositories

variable {T : InetType} {allows : World T → Answered → Prop} {ttlSeconds : Int} {log : Nat → LogConfig}

/-- What the commits of a history, newest first, make of a table. -/
def committed (h : Past) (table : List (Row T)) : List (Row T) := h.foldr World.written table

/-- What a database reply says about the table it was given from. -/
def Offered (table : List (Row T)) : Answered → Prop
  | ⟨.scalar key, .ok loaded⟩ => Row.selects table key loaded = true
  | ⟨.execute st, .ok _⟩ => st.Admitted T
  | _ => True

def memoContract (ttl : Int) (value : String) (table : List (Row T)) : Contract Query Reply where
  sees := caches
  rely h e := Offered (committed h table) e
  guar := LookupQuery ttl value

private theorem offered_of_offers {w : World T} {i replica : Nat} {e : Answered} (h : w.Offers i replica e) :
    Offered w.table e := by
  obtain ⟨q, r⟩ := e
  cases q with
  | scalar key => cases r <;> exact h
  | execute st => cases r <;> exact h
  | _ => trivial

private theorem written_unseen {e : Answered} (h : caches e.query = false) (table : List (Row T)) :
    World.written e table = table := by
  rcases World.written_cases e table with ht | ⟨st, rfl, _⟩
  · exact ht
  · cases h

private theorem committed_told (h : Past) (table : List (Row T)) : committed (told h) table = committed h table := by
  induction h with
  | nil => rfl
  | cons e h ih =>
    rw [told, List.filter_cons]
    cases hq : caches e.query with
    | true => exact congrArg (World.written e) ih
    | false => exact ih.trans (written_unseen hq _).symm

private theorem table_worldAfter (allows : World T → Answered → Prop) (ttlSeconds : Int) (log : Nat → LogConfig)
    (w : World T) (i : Nat) (j : LookupJob) (h : Past) :
    ((lookups T allows ttlSeconds log).worldAfter w i j h).table = committed h w.table := by
  induction h with
  | nil => rfl
  | cons e h ih =>
    show (((lookups T allows ttlSeconds log).worldAfter w i j h).after i j.replica e).table = _
    rw [World.after_table, ih]
    rfl

/-- A lookup that runs alone: how it ends, what its replies said about the table, and
the table it leaves. -/
theorem run_alone {w w' : World T} {i : Nat} {j : LookupJob} {h : Past} {x : Except Exn LookupResult}
    (run : (lookups T allows ttlSeconds log).Executes i j w ((lookups T allows ttlSeconds log).program j) [] w' h x) :
    LookupRun (ttlSeconds * 1000000) j.value (told h) x ∧
      (memoContract (ttlSeconds * 1000000) j.value w.table).Relied (told h) ∧
      w'.table = committed (told h) w.table := by
  have meets : Meets (memoContract (ttlSeconds * 1000000) j.value w.table)
      ((lookups T allows ttlSeconds log).program j) [] (LookupRun (ttlSeconds * 1000000) j.value) :=
    (lookups_meets j).weaken rfl (fun _ _ _ => trivial) fun _ _ hq => hq
  have relied : ∀ h e, (lookups T allows ttlSeconds log).enabled
      ((lookups T allows ttlSeconds log).worldAfter w i j h) i j e → caches e.query = true →
      Offered (committed (told h) w.table) e := by
    intro h e enabled _
    rw [committed_told, ← table_worldAfter allows ttlSeconds log w i j h]
    exact offered_of_offers enabled.2
  obtain ⟨⟨hrun, hrelied⟩, hw⟩ := run.meets rfl relied (meets.relied trivial)
  refine ⟨hrun, hrelied, ?_⟩
  rw [hw, table_worldAfter]
  exact (committed_told h w.table).symm

/-- What a completed lookup stores: the answer it took from the provider. -/
def stores (d : Completed Query Reply Exn LookupResult LookupJob) : Option (IPAddress × LookupResult) :=
  match d.outcome with
  | .ok result => if result.source = .provider then some (result.ip, result) else none
  | .error _ => none

/-- A row and the stored answer it stands for. -/
structure Keeps (row : Row T) (result : LookupResult) : Prop where
  countryCode : row.countryCode = result.countryCode
  countryName : result.countryName = row.countryName
  fetchedAt : row.fetchedAt = result.fetchedAt.instant
  expiresAt : row.expiresAt = result.expiresAt.instant

/-- The table is the memo table of a history. -/
def Represents (table : List (Row T)) (past : List (Completed Query Reply Exn LookupResult LookupJob)) : Prop :=
  ∀ a v, T.input a.str = some v →
    Option.Rel Keeps (KeyedTable.fetch Row.ipAddress table v) (TtlMemo.latest stores past a)

/-- A completed lookup that stored nothing committed nothing, and one that stored an
answer committed exactly that answer under the key of its address. -/
private theorem committed_run {ttl : Int} {d : Completed Query Reply Exn LookupResult LookupJob} {table : List (Row T)}
    (run : LookupRun ttl d.job.value (told d.history) d.outcome)
    (relied : (memoContract ttl d.job.value table).Relied (told d.history)) :
    (stores d = none ∧ committed (told d.history) table = table) ∨
    ∃ (st : UpsertStatement) (result : LookupResult), stores d = some (result.ip, result) ∧
      st.Admitted T ∧ committed (told d.history) table = st.write table ∧
      st.ipAddress = result.ip.str ∧ ∀ row : Row T, st.Wrote row → Keeps row result := by
  obtain ⟨j, h, x⟩ := d
  dsimp only at run relied ⊢
  generalize told h = past at run relied
  cases run with
  | @refreshed ip accepted now reply missed result fetchedAt written =>
    have admitted : (statementOf ttl ip result fetchedAt written).Admitted T := relied.2.1
    exact .inr ⟨_, _, rfl, admitted, rfl, rfl, fun row wrote =>
      ⟨wrote.countryCode, wrote.countryName, wrote.fetchedAt, wrote.expiresAt⟩⟩
  | _ => exact .inl ⟨rfl, rfl⟩

/-- Every sequential history leaves the table its memo describes. -/
theorem represents {w₀ w : World T} (hw : w₀.table = [])
    {past : List (Completed Query Reply Exn LookupResult LookupJob)}
    (hs : (lookups T allows ttlSeconds log).Sequentially w₀ past w) : Represents w.table past := by
  induction hs with
  | nil => exact fun a v _ => by simp [hw, KeyedTable.fetch]
  | @cons past w w' j h x before run ih =>
    obtain ⟨hrun, hrelied, ht⟩ := run_alone run
    rw [ht]
    rcases committed_run (d := ⟨j, h, x⟩) hrun hrelied with ⟨hnone, hsame⟩ | ⟨st, result, hsome, admitted, hwrite, hkey, hkeeps⟩
    · rw [hsame]
      exact fun a v ha => by rw [TtlMemo.latest_cons_none hnone]; exact ih a v ha
    · have hn : (w.table.map Row.ipAddress).Nodup := (cacheSound hw before.reachable).oneRow
      rw [hwrite]
      intro a v ha
      by_cases hip : result.ip = a
      · subst hip
        have hv' : T.input st.ipAddress = some v := hkey ▸ ha
        obtain ⟨row, hrow, wrote⟩ := UpsertStatement.exists_wrote admitted w.table
        obtain rfl : row.ipAddress = v := Option.some.inj (wrote.ipAddress.symm.trans hv')
        rw [TtlMemo.latest_cons_self hsome, KeyedTable.fetch_eq_some (UpsertStatement.nodup_write hn) hrow]
        exact .some (hkeeps row wrote)
      · have hne : T.input st.ipAddress ≠ some v := fun he => hip (InetType.input_injective (hkey ▸ he) ha)
        rw [TtlMemo.latest_cons_ne hsome hip, UpsertStatement.fetch_write_ne hne]
        exact ih a v ha

def providerCalls (h : Past) : Nat :=
  h.countP fun e =>
    match e.query with
    | .provider _ => true
    | _ => false

private theorem providerCalls_told (h : Past) : providerCalls (told h) = providerCalls h := by
  rw [providerCalls, told, List.countP_filter]
  refine congrArg (List.countP · h) (funext fun e => ?_)
  obtain ⟨q, r⟩ := e
  cases q <;> rfl

/-- A record as get returns it, and the stored answer it stands for. -/
structure Agrees (cached : CacheRecord) (stored : LookupResult) : Prop where
  countryCode : cached.countryCode = stored.countryCode
  countryName : cached.countryName = stored.countryName
  fetchedAt : cached.fetchedAt.instant = stored.fetchedAt.instant
  expiresAt : cached.expiresAt.instant = stored.expiresAt.instant

/-- The read path undoes the write path. -/
theorem read_represents {table : List (Row T)} {past : List (Completed Query Reply Exn LookupResult LookupJob)}
    (rep : Represents table past) {a : IPAddress} {loaded : Option LoadedRow}
    (hsel : Row.selects table a.str loaded = true) :
    ∃ cached, readOutcome (.ok loaded) = .ok cached ∧ Option.Rel Agrees cached (TtlMemo.latest stores past a) := by
  cases loaded with
  | none =>
    obtain ⟨v, hv, hf⟩ := Row.selects_none.mp hsel
    have hrel := rep a v hv
    rw [hf] at hrel
    generalize TtlMemo.latest stores past a = latest at hrel
    cases hrel
    exact ⟨none, rfl, .none⟩
  | some loaded =>
    obtain ⟨v, row, hv, hf, loads⟩ := Row.selects_some.mp hsel
    have hrel := rep a v hv
    rw [hf] at hrel
    have hkey : ipAddress loaded.ipAddress = some a := by
      rw [loads.ipAddress, KeyedTable.fetch_key hf]
      exact InetType.output_input (InetType.scopeId_of_input hv) hv
    refine ⟨some ⟨a, loaded.countryCode, loaded.countryName, loaded.provider, utc loaded.fetchedAt,
      utc loaded.expiresAt⟩, by simp [readOutcome, readRow, hkey, Except.map], ?_⟩
    generalize TtlMemo.latest stores past a = latest at hrel
    cases hrel with
    | some keeps =>
      exact .some ⟨loads.countryCode.trans keeps.countryCode,
        (congrArg PyStr.text loads.countryName).trans keeps.countryName.symm,
        by rw [instant_utc, loads.fetchedAt, keeps.fetchedAt], by rw [instant_utc, loads.expiresAt, keeps.expiresAt]⟩

/-- The first clock reading of a lookup and what its cache read returned, if it did not fail. -/
def cacheRead (h : Past) : Option (Int × Option LoadedRow) :=
  match (told h).reverse with
  | ⟨.clock, t⟩ :: ⟨.scalar _, .ok loaded⟩ :: _ => some (t, loaded)
  | _ => none

private theorem cacheRead_asked {h : Past} (es : Past) {ip : IPAddress} {now : Int} {reply : Except Foreign (Option LoadedRow)}
    (ht : told h = es ++ asked ip now reply) {t : Int} {loaded : Option LoadedRow}
    (read : cacheRead h = some (t, loaded)) : reply = .ok loaded ∧ now = t := by
  rw [cacheRead, ht, List.reverse_append] at read
  cases reply with
  | error f => cases read
  | ok loaded' =>
    cases read
    exact ⟨rfl, rfl⟩

private theorem stores_ip {d : Completed Query Reply Exn LookupResult LookupJob} {a : IPAddress} {r : LookupResult}
    (h : stores d = some (a, r)) : r.ip = a := by
  unfold stores at h
  split at h
  · split at h
    · cases h
      rfl
    · cases h
  · cases h

private theorem latest_cons_of_other {d : Completed Query Reply Exn LookupResult LookupJob}
    {past : List (Completed Query Reply Exn LookupResult LookupJob)} {a : IPAddress}
    (other : ∀ result, d.outcome = .ok result → result.source = .provider → result.ip ≠ a) :
    TtlMemo.latest stores (d :: past) a = TtlMemo.latest stores past a := by
  cases hd : stores d with
  | none => exact TtlMemo.latest_cons_none hd
  | some kv =>
    obtain ⟨ip, result⟩ := kv
    refine TtlMemo.latest_cons_ne hd fun he => ?_
    have hout : d.outcome = .ok result ∧ result.source = .provider := by
      unfold stores at hd
      split at hd
      · split at hd
        · cases hd
          exact ⟨‹_›, ‹_›⟩
        · cases hd
      · cases hd
    exact other result hout.1 hout.2 ((stores_ip hd).trans he)

/-- An accepted lookup whose cache read succeeded: it answers with a record that has not
expired, or it asks the provider. -/
private theorem run_of_read {ttl : Int} {value : String} {h : Past} {x : Except Exn LookupResult} {a : IPAddress}
    (run : LookupRun ttl value (told h) x) (accepted : validatePublicIp value = .ok a) {t : Int}
    {loaded : Option LoadedRow} (read : cacheRead h = some (t, loaded)) :
    (∃ newer, told h = newer ++ asked a t (.ok loaded)) ∧
    ∀ cached, readOutcome (.ok loaded) = .ok cached →
      (∃ c, cached = some c ∧ t < c.expiresAt.instant ∧ providerCalls h = 0 ∧
        x = .ok ⟨a, c.countryCode, c.countryName, .database, c.fetchedAt, c.expiresAt⟩) ∨
      ((∀ c, cached = some c → c.expiresAt.instant ≤ t) ∧ providerCalls h = 1 ∧
        ∀ result, x = .ok result → result.source = .provider) := by
  have same : ∀ ip, validatePublicIp value = .ok ip → ip = a := fun ip hip => by
    rw [accepted] at hip
    exact (Except.ok.inj hip).symm
  have stale : ∀ {cached}, Missed t (.ok loaded) → readOutcome (.ok loaded) = .ok cached →
      ∀ c, cached = some c → c.expiresAt.instant ≤ t := by
    rintro cached ⟨cached', hc, hexp⟩ hread
    rw [hread] at hc
    cases hc
    exact hexp
  rw [← providerCalls_told]
  generalize ht : told h = past at run
  cases run with
  | rejected hr =>
    rw [accepted] at hr
    cases hr
  | @readFailed ip hip now reply e failed =>
    obtain rfl := same ip hip
    obtain ⟨rfl, rfl⟩ := cacheRead_asked [] ht read
    exact ⟨⟨[], rfl⟩, fun cached hread => by rw [hread] at failed; cases failed⟩
  | @hit ip hip now reply c hc fresh =>
    obtain rfl := same ip hip
    obtain ⟨rfl, rfl⟩ := cacheRead_asked [] ht read
    refine ⟨⟨[], rfl⟩, fun cached hread => .inl ⟨c, ?_, fresh, rfl, rfl⟩⟩
    rw [hread] at hc
    exact Except.ok.inj hc
  | @providerFailed ip hip now reply hm answer e _ =>
    obtain rfl := same ip hip
    obtain ⟨rfl, rfl⟩ := cacheRead_asked [_] ht read
    exact ⟨⟨[_], rfl⟩, fun cached hread => .inr ⟨stale hm hread, rfl, fun _ he => by cases he⟩⟩
  | @executeFailed ip hip now reply hm result fetchedAt written f =>
    obtain rfl := same ip hip
    obtain ⟨rfl, rfl⟩ := cacheRead_asked [_, _, _, _] ht read
    exact ⟨⟨[_, _, _, _], rfl⟩, fun cached hread => .inr ⟨stale hm hread, rfl, fun _ he => by cases he⟩⟩
  | @commitFailed ip hip now reply hm result fetchedAt written f =>
    obtain rfl := same ip hip
    obtain ⟨rfl, rfl⟩ := cacheRead_asked [_, _, _, _, _] ht read
    exact ⟨⟨[_, _, _, _, _], rfl⟩, fun cached hread => .inr ⟨stale hm hread, rfl, fun _ he => by cases he⟩⟩
  | @refreshed ip hip now reply hm result fetchedAt written =>
    obtain rfl := same ip hip
    obtain ⟨rfl, rfl⟩ := cacheRead_asked [_, _, _, _, _] ht read
    exact ⟨⟨[_, _, _, _, _], rfl⟩, fun cached hread => .inr ⟨stale hm hread, rfl, fun _ he => by cases he; rfl⟩⟩

/-- A lookup of an accepted address whose cache read succeeded answers from the memo
table as it stood, or else asks the provider exactly once; and only an answer taken from
the provider for that address changes what the memo table says. -/
theorem lookup_memo {w₀ w w' : World T} (hw : w₀.table = [])
    {past : List (Completed Query Reply Exn LookupResult LookupJob)}
    (hs : (lookups T allows ttlSeconds log).Sequentially w₀ past w) {j : LookupJob} {h : Past}
    {x : Except Exn LookupResult}
    (run : (lookups T allows ttlSeconds log).Executes past.length j w
      ((lookups T allows ttlSeconds log).program j) [] w' h x)
    {a : IPAddress} (accepted : validatePublicIp j.value = .ok a) {t : Int} {loaded : Option LoadedRow}
    (read : cacheRead h = some (t, loaded)) :
    (match TtlMemo.live (fun r => r.expiresAt.instant) t (TtlMemo.latest stores past a) with
    | some stored => providerCalls h = 0 ∧ ∃ result, x = .ok result ∧ result.source = .database ∧
        result.ip = stored.ip ∧ result.countryCode = stored.countryCode ∧ result.countryName = stored.countryName ∧
        result.fetchedAt.instant = stored.fetchedAt.instant ∧ result.expiresAt.instant = stored.expiresAt.instant
    | none => providerCalls h = 1 ∧ ∀ result, x = .ok result → result.source = .provider) ∧
    ∀ d : Completed Query Reply Exn LookupResult LookupJob,
      (∀ result, d.outcome = .ok result → result.source = .provider → result.ip ≠ a) →
      TtlMemo.latest stores (d :: past) a = TtlMemo.latest stores past a := by
  obtain ⟨run, relied, _⟩ := run_alone run
  obtain ⟨⟨newer, ht⟩, ends⟩ := run_of_read run accepted read
  have hsel : Row.selects w.table a.str loaded = true := by
    rw [ht] at relied
    exact relied.older.1
  obtain ⟨cached, hread, hrel⟩ := read_represents (represents hw hs) hsel
  refine ⟨?_, fun d other => latest_cons_of_other other⟩
  rcases ends cached hread with ⟨c, rfl, fresh, calls, rfl⟩ | ⟨stale, calls, source⟩
  · generalize hl : TtlMemo.latest stores past a = latest at hrel
    cases hrel with
    | some agrees =>
      obtain ⟨d, _, hd⟩ := TtlMemo.stored_of_latest hl
      rw [TtlMemo.live_eq_some.mpr ⟨rfl, agrees.expiresAt ▸ fresh⟩]
      exact ⟨calls, _, rfl, rfl, (stores_ip hd).symm, agrees.countryCode, agrees.countryName, agrees.fetchedAt,
        agrees.expiresAt⟩
  · have hlive : TtlMemo.live (fun r : LookupResult => r.expiresAt.instant) t (TtlMemo.latest stores past a) = none := by
      refine TtlMemo.live_eq_none.mpr fun stored hl => ?_
      rw [hl] at hrel
      cases hrel with
      | some agrees => exact agrees.expiresAt ▸ stale _ rfl
    rw [hlive]
    exact ⟨calls, source⟩

/-- A miss that stores its answer, then a hit that returns it. -/
theorem lookup_memo_example :
    ∃ past w w' h x, (lookups hostAddresses (fun _ _ => True) 60 fun _ => quietLog).Sequentially
        (.start hostAddresses "0.1.0" true) past w ∧
      (lookups hostAddresses (fun _ _ => True) 60 fun _ => quietLog).Executes past.length ⟨1, " 8.8.8.8"⟩ w
        ((lookups hostAddresses (fun _ _ => True) 60 fun _ => quietLog).program ⟨1, " 8.8.8.8"⟩) [] w' h x ∧
      cacheRead h = some (1, some (googleRow 60000000)) ∧ ∃ result, x = .ok result ∧ result.source = .database := by
  let S := lookups hostAddresses (fun _ _ => True) 60 fun _ => quietLog
  have hplay : ((S.execute 0 ⟨0, "8.8.8.8"⟩ (replies 0 none unitedStates) (S.program ⟨0, "8.8.8.8"⟩)
      (.start hostAddresses "0.1.0" true) []).any fun first =>
        (S.execute 1 ⟨1, " 8.8.8.8"⟩ (replies 1 (some (googleRow 60000000)) unitedStates)
          (S.program ⟨1, " 8.8.8.8"⟩) first.1 []).any fun second =>
            cacheRead second.2.1 = some (1, some (googleRow 60000000)) ∧ providerCalls second.2.1 = 0) = true := by
    decide +kernel
  simp only [Option.any_eq_true, decide_eq_true_eq] at hplay
  obtain ⟨⟨w, h₁, x₁⟩, hfirst, ⟨w', h, x⟩, hsecond, read, calls⟩ := hplay
  have before : S.Sequentially (.start hostAddresses "0.1.0" true) [⟨⟨0, "8.8.8.8"⟩, h₁, x₁⟩] w :=
    .cons .nil (System.execute_executes hfirst)
  have run := System.execute_executes hsecond
  obtain ⟨a, accepted⟩ : ∃ a, validatePublicIp " 8.8.8.8" = .ok a := ⟨.v4 ⟨⟨0x08080808, by decide⟩⟩, by decide +kernel⟩
  have memo := (lookup_memo rfl before run accepted read).1
  refine ⟨_, w, w', h, x, before, run, read, ?_⟩
  split at memo
  · obtain ⟨_, result, hx, source, _⟩ := memo
    exact ⟨result, hx, source⟩
  · exact absurd (calls.symm.trans memo.1) (by decide)

end IpCountryApi.Services
