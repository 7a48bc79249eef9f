import IpCountryApi.Services.MetricRuns
import IpCountryApi.Services.Lifespan
import IpCountryApi.Services.SharedCache
import IpCountryApi.Execution.MetricTotals

/-! The counters of every replica under any interleaving of lookups: each counts what
the others of its replica say it must. -/
namespace IpCountryApi.Services
open Library Domain Execution Observability Providers Repositories

namespace ProviderChoice

theorem lookup_metered (choice : ProviderChoice) (ip : IPAddress) (h : Past) (hb : Balanced (metricCalls h)) :
    Meets meteredContract (choice.lookup ip) h (ProviderRun choice.name (metricCalls h)) := by
  cases choice with
  | fake => exact fake_metered
  | ipinfo provider => exact IPinfo.lookup_metered hb

end ProviderChoice

/-- Replicas over one database whose libraries fail as documented. -/
def meteredLookups (T : InetType) (replicas : Nat → Replica) :
    System Query Reply Exn LookupResult LookupJob (World T) :=
  deployment T (fun _ => Documented) (fun j => (replicas j.replica).service.lookup j.value) LookupJob.replica

instance (T : InetType) (replicas : Nat → Replica) (w : World T) (i : Nat) (j : LookupJob) (e : Answered) :
    Decidable ((meteredLookups T replicas).enabled w i j e) :=
  inferInstanceAs (Decidable ((deployment _ _ _ _).enabled w i j e))

variable {T : InetType} {replicas : Nat → Replica} {w : World T}
  {c : Config Query Reply Exn LookupResult LookupJob (World T)} {k : Counter} {p : List String → Bool}

theorem meteredLookups_meets (j : LookupJob) :
    Meets meteredContract ((meteredLookups T replicas).program j) [] fun h _ =>
      LookupCalls (replicas j.replica).provider.name (metricCalls h) :=
  lookup_calls rfl (replicas j.replica).provider.lookup_metered j.value

/-- The inet column gives back an address under a key that is one. -/
theorem addressRead_of_offers {i replica : Nat} {q : Query} {r : Reply q} (offers : w.Offers i replica ⟨q, r⟩)
    (hkey : ∀ key, q = .scalar key → ∃ ip : IPAddress, key = ip.str) : AddressRead ⟨q, r⟩ := by
  cases q with
  | scalar key =>
    match r with
    | .error _ | .ok none => trivial
    | .ok (some loaded) =>
      obtain ⟨ip, rfl⟩ := hkey key rfl
      obtain ⟨v, row, hv, hf, loads⟩ := Row.selects_some.mp offers
      show (ipAddress loaded.ipAddress).isSome
      rw [loads.ipAddress, KeyedTable.fetch_key hf, InetType.output_input (InetType.scopeId_of_input hv) hv]
      rfl
  | _ => trivial

private theorem metered_relied (c : Config Query Reply Exn LookupResult LookupJob (World T)) (i : Nat) (j : LookupJob)
    (q : Query) (k : Reply q → Prog LookupResult) (h : Past) (r : Reply q) (_ : (meteredLookups T replicas).Reachable w c)
    (_ : c.tasks[i]? = some ⟨j, .ask q k, h⟩) (enabled : (meteredLookups T replicas).enabled c.world i j ⟨q, r⟩)
    (_ : meteredContract.sees q = true) (guar : meteredContract.guar (meteredContract.seen h) q) :
    meteredContract.rely (meteredContract.seen h) ⟨q, r⟩ :=
  ⟨enabled.1, addressRead_of_offers enabled.2 guar.2⟩

theorem metricCalls_seen (h : Past) : metricCalls (meteredContract.seen h) = metricCalls h := by
  rw [metricCalls, metricCalls, Contract.seen, List.filterMap_filter]
  refine congrArg (List.filterMap · h) (funext fun e => ?_)
  obtain ⟨q, r⟩ := e
  cases q <;> rfl

/-- How often the metric calls of a history increment a counter under labels in p. -/
def countIn (k : Counter) (p : List String → Bool) (h : Past) : Nat := (metricCalls h).countP (·.counts k p)

/-- What one reply to a task of the replica adds to a counter. -/
def metricWeight (replica : Nat) (k : Counter) (p : List String → Bool) (j : LookupJob) (e : Answered) : Nat :=
  if j.replica = replica then countIn k p [e] else 0

theorem metricWeight_eq (replica : Nat) :
    metricWeight replica k p = callWeight LookupJob.replica replica true k p := by
  funext j e
  rw [metricWeight, callWeight]
  simp only [true_and]
  rfl

theorem tally_metricWeight {replica : Nat} (t : Task Query Reply Exn LookupResult LookupJob) :
    t.tally (metricWeight replica k p) = if t.job.replica = replica then countIn k p t.history else 0 := by
  rw [metricWeight_eq, tally_callWeight]
  simp only [true_and]
  rfl

/-- The counters of a replica are the metric calls of its lookups. -/
theorem counter_eq {replica : Nat} (hm : ∀ ρ, ∃ version, w.metrics ρ = .init version true)
    (hc : (meteredLookups T replicas).Reachable w c) :
    ((c.world.metrics replica).counter k).sumOver p = c.tally (metricWeight replica k p) := by
  obtain ⟨version, h⟩ := hm replica
  rw [metricWeight_eq]
  exact counter_tally h hc

/-- What the counters of a replica owe each other while none of its lookups runs. -/
structure Conserved (m : ApplicationMetrics) : Prop where
  reads : m.lookups.total + m.databaseErrors.sumOver (MetricCall.labelled 0 "read") =
    m.databaseOperations.sumOver (MetricCall.labelled 0 "read")
  attempts : m.lookups.sumOver (· = ["provider", "success"]) + m.lookups.sumOver (· = ["provider", "error"]) =
    m.providerRequests.total
  writes : m.providerRequests.sumOver (MetricCall.labelled 1 "success") =
    m.databaseOperations.sumOver (MetricCall.labelled 0 "upsert")
  failures : m.providerRequests.sumOver (MetricCall.labelled 1 "error") +
      m.databaseErrors.sumOver (MetricCall.labelled 0 "upsert") = m.lookups.sumOver (· = ["provider", "error"])
  typed : m.providerErrors.total = m.providerRequests.sumOver (MetricCall.labelled 1 "error")

/-- At no operation have more errors been counted than operations. -/
def ErrorsWithinOperations (m : ApplicationMetrics) : Prop :=
  ∀ operation, m.databaseErrors.sumOver (MetricCall.labelled 0 operation) ≤
    m.databaseOperations.sumOver (MetricCall.labelled 0 operation)

/-- The task has not begun, is over, or has given the event loop to others. -/
def Parked (t : Task Query Reply Exn LookupResult LookupJob) : Prop :=
  t.history = [] ∨ (∃ x, t.Finished x) ∨ ∃ q k, t.residual = .ask q k ∧ q.awaits = true

section Laws
variable {name : String} {calls : List MetricCall}

private theorem LookupCalls.reads (h : LookupCalls name calls) :
    calls.countP (·.counts .lookups fun _ => true) + calls.countP (·.counts .databaseErrors (MetricCall.labelled 0 "read")) =
      calls.countP (·.counts .databaseOperations (MetricCall.labelled 0 "read")) := by
  cases h <;> rfl

private theorem LookupCalls.attempts (h : LookupCalls name calls) :
    calls.countP (·.counts .lookups (· = ["provider", "success"])) +
        calls.countP (·.counts .lookups (· = ["provider", "error"])) =
      calls.countP (·.counts .providerRequests fun _ => true) := by
  cases h <;> rfl

private theorem LookupCalls.writes (h : LookupCalls name calls) :
    calls.countP (·.counts .providerRequests (MetricCall.labelled 1 "success")) =
      calls.countP (·.counts .databaseOperations (MetricCall.labelled 0 "upsert")) := by
  cases h <;> rfl

private theorem LookupCalls.failures (h : LookupCalls name calls) :
    calls.countP (·.counts .providerRequests (MetricCall.labelled 1 "error")) +
        calls.countP (·.counts .databaseErrors (MetricCall.labelled 0 "upsert")) =
      calls.countP (·.counts .lookups (· = ["provider", "error"])) := by
  cases h <;> rfl

private theorem LookupCalls.typed (h : LookupCalls name calls) :
    calls.countP (·.counts .providerErrors fun _ => true) =
      calls.countP (·.counts .providerRequests (MetricCall.labelled 1 "error")) := by
  cases h <;> rfl

private theorem LookupCalls.balanced (h : LookupCalls name calls) : Balanced calls := by
  intro operation
  cases h <;>
    simp only [List.countP_cons, List.countP_nil, MetricCall.counts, MetricCall.counter, MetricCall.labels,
      MetricCall.labelled] <;> grind

end Laws

variable {t : Task Query Reply Exn LookupResult LookupJob} {replica : Nat}

/-- Each task has added to the replica's counters what one run of a lookup adds; the
tasks of other replicas have added nothing. -/
def Accounted (replica : Nat) (c : Config Query Reply Exn LookupResult LookupJob (World T)) : Prop :=
  ∀ t ∈ c.tasks, ∃ name calls, LookupCalls name calls ∧
    ∀ k p, t.tally (metricWeight replica k p) = calls.countP (·.counts k p)

theorem accounted (hc : (meteredLookups T replicas).Reachable w c)
    (hdone : ∀ t ∈ c.tasks, t.job.replica = replica → ∃ x, t.Finished x) : Accounted replica c := by
  intro t ht
  by_cases hr : t.job.replica = replica
  · obtain ⟨x, hx⟩ := hdone t ht hr
    have hcalls := hc.finished (C := fun _ => meteredContract) meteredLookups_meets metered_relied ht hx
    rw [metricCalls_seen] at hcalls
    exact ⟨_, _, hcalls, fun k p => by rw [tally_metricWeight, if_pos hr, countIn]⟩
  · exact ⟨"", _, .rejected, fun k p => by rw [tally_metricWeight, if_neg hr, List.countP_nil]⟩

section Accounts
variable {k₁ k₂ k₃ : Counter} {p₁ p₂ p₃ : List String → Bool}

/-- An equation that every lookup keeps holds of the replica. -/
private theorem Accounted.tally_eq (h : Accounted replica c)
    (law : ∀ name calls, LookupCalls name calls → calls.countP (·.counts k₁ p₁) = calls.countP (·.counts k₂ p₂)) :
    c.tally (metricWeight replica k₁ p₁) = c.tally (metricWeight replica k₂ p₂) := by
  refine Config.tally_congr fun t ht => ?_
  obtain ⟨name, calls, hcalls, htally⟩ := h t ht
  rw [htally, htally, law name calls hcalls]

private theorem Accounted.tally_add_eq (h : Accounted replica c)
    (law : ∀ name calls, LookupCalls name calls →
      calls.countP (·.counts k₁ p₁) + calls.countP (·.counts k₂ p₂) = calls.countP (·.counts k₃ p₃)) :
    c.tally (metricWeight replica k₁ p₁) + c.tally (metricWeight replica k₂ p₂) =
      c.tally (metricWeight replica k₃ p₃) := by
  rw [← Config.tally_add]
  refine Config.tally_congr fun t ht => ?_
  obtain ⟨name, calls, hcalls, htally⟩ := h t ht
  rw [Task.tally_add, htally, htally, htally, law name calls hcalls]

end Accounts

private theorem parked_balanced (hc : (meteredLookups T replicas).Reachable w c) (ht : t ∈ c.tasks)
    (hparked : Parked t) : Balanced (metricCalls t.history) := by
  rcases hparked with hnew | ⟨x, hx⟩ | ⟨q, k, hq, awaits⟩
  · rw [hnew]
    exact (LookupCalls.rejected : LookupCalls "" []).balanced
  · have hcalls := hc.finished (C := fun _ => meteredContract) meteredLookups_meets metered_relied ht hx
    rw [metricCalls_seen] at hcalls
    exact hcalls.balanced
  · obtain ⟨i, hi⟩ := List.mem_iff_getElem?.mp ht
    have hm := hc.meets (C := fun _ => meteredContract) meteredLookups_meets metered_relied i t hi
    rw [hq] at hm
    have hsees : meteredContract.sees q = true := by simp [meteredContract, metered, awaits]
    have hb := (hm.1 hsees).1 awaits
    rwa [metricCalls_seen] at hb

/-- Metric conservation: with no lookup in progress on a replica its counters agree, and
whenever its event loop may scrape them no operation has more errors than attempts. -/
theorem metrics_conserved (hm : ∀ ρ, ∃ version, w.metrics ρ = .init version true)
    (hc : (meteredLookups T replicas).Reachable w c) (replica : Nat) :
    ((∀ t ∈ c.tasks, t.job.replica = replica → ∃ x, t.Finished x) → Conserved (c.world.metrics replica)) ∧
    ((∀ t ∈ c.tasks, t.job.replica = replica → Parked t) → ErrorsWithinOperations (c.world.metrics replica)) := by
  have read : ∀ k p, ((c.world.metrics replica).counter k).sumOver p = c.tally (metricWeight replica k p) :=
    fun k p => counter_eq hm hc
  constructor
  · intro hdone
    have account := accounted hc hdone
    constructor
    · have reads := account.tally_add_eq fun _ _ => LookupCalls.reads
      rwa [← read, ← read, ← read] at reads
    · have attempts := account.tally_add_eq fun _ _ => LookupCalls.attempts
      rwa [← read, ← read, ← read] at attempts
    · have writes := account.tally_eq fun _ _ => LookupCalls.writes
      rwa [← read, ← read] at writes
    · have failures := account.tally_add_eq fun _ _ => LookupCalls.failures
      rwa [← read, ← read, ← read] at failures
    · have typed := account.tally_eq fun _ _ => LookupCalls.typed
      rwa [← read, ← read] at typed
  · intro hparked operation
    refine (read .databaseErrors _).trans_le (.trans ?_ (read .databaseOperations _).ge)
    refine Config.tally_le fun t ht => ?_
    rw [tally_metricWeight, tally_metricWeight]
    split
    · rename_i hr
      exact parked_balanced hc ht (hparked t ht hr) operation
    · exact le_rfl

/-- The replies of a run whose provider answers each request in one way. -/
def clientReplies (response : HttpResponse) : (q : Query) → Option (Reply q)
  | .clientGet _ _ => some (.ok response)
  | .sleep _ => some (.ok ())
  | q => replies 0 none unitedStates q

def busyResponse : HttpResponse := ⟨503, .ok .null⟩

def australiaResponse : HttpResponse :=
  ⟨200, .ok (.object [("country_code", .str "au"), ("country", .str "Australia")])⟩

def fakeAndIpinfo : Nat → Replica
  | 0 => ⟨.fake, 60, quietLog⟩
  | _ => ⟨.ipinfo ⟨.ascii, "t", 1⟩, 60, quietLog⟩

private theorem finished_of_answered {t : Task Query Reply Exn LookupResult LookupJob} {source : Source}
    (h : answeredFrom t = some source) : ∃ x, t.Finished x := by
  unfold answeredFrom at h
  split at h
  · exact ⟨_, by assumption⟩
  · cases h

/-- A replica with the fake provider beside one whose provider answers at the second attempt. -/
theorem metrics_conserved_example : ∃ c, (meteredLookups hostAddresses fakeAndIpinfo).Reachable
      (.start hostAddresses "0.1.0" true) c ∧
    (c.tasks.map answeredFrom = [some .provider, some .provider] ∧ (c.world.metrics 1).providerRequests.total = 1) ∧
    ∀ replica, Conserved (c.world.metrics replica) := by
  obtain ⟨c, hc, hp⟩ := System.play_reaches (meteredLookups hostAddresses fakeAndIpinfo)
    (.start hostAddresses "0.1.0" true)
    ([.launch ⟨0, "8.8.8.8"⟩, .launch ⟨1, "1.1.1.1"⟩] ++ List.replicate 7 (.reply 1 (clientReplies busyResponse)) ++
      (List.replicate 30 [.reply 0 (replies 0 none unitedStates), .reply 1 (clientReplies australiaResponse)]).flatten)
    (fun c => c.tasks.map answeredFrom = [some .provider, some .provider] ∧
      (c.world.metrics 1).providerRequests.total = 1)
    (by decide +kernel)
  have hp := of_decide_eq_true hp
  refine ⟨c, hc, hp, fun replica => (metrics_conserved (fun _ => ⟨_, rfl⟩) hc replica).1 fun t ht _ => ?_⟩
  have hmem : answeredFrom t ∈ [some Source.provider, some Source.provider] := hp.1 ▸ List.mem_map_of_mem ht
  simp only [List.mem_cons, List.not_mem_nil, or_false, or_self] at hmem
  exact finished_of_answered hmem

end IpCountryApi.Services
