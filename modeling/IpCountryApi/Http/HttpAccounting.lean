import IpCountryApi.Execution.MetricTotals
import IpCountryApi.Http.ServeRuns

/-! HTTP accounting: the responses a replica has sent against those it has counted. -/
namespace IpCountryApi.Http
open Library Domain Execution Observability

/-- Undisturbed, and the path of the URL is one that is counted. -/
def Countable (app : Application) (request : Request) (h : Past) : Prop :=
  Undisturbed app request h ∧ ∀ path ∈ Application.excludedMetricPaths, app.framework.urlPath request ≠ some path

/-- Each request sends one response, which is counted once or not at all. -/
theorem ServeRun.accounted {app : Application} {request : Request} {h : Past} (hs : ServeRun app request h) :
    ∃ response, sent h = [response] ∧
      ((Countable app request h ∧ ∃ duration,
          httpRequests h = [.httpRequest request.method (app.routeLabel request) response.status duration]) ∨
        (¬ Countable app request h ∧ httpRequests h = [])) := by
  rcases hs.ending with ⟨hu, requestId, path, duration, inner, hsent, served⟩ | ⟨hu, f, _, _, _, hsent, hhttp, _⟩
  · refine ⟨_, hsent, ?_⟩
    have hcounted := served.counted
    split at hcounted
    · rename_i hp
      exact .inr ⟨fun hc => hc.2 path hp served.parsed, hcounted⟩
    · rename_i hp
      refine .inl ⟨⟨hu, fun excluded he hpath => hp ?_⟩, duration, hcounted⟩
      rw [served.parsed, Option.some.injEq] at hpath
      exact hpath ▸ he
  · exact ⟨_, hsent, .inr ⟨fun hc => hu hc.1, hhttp⟩⟩

/-- What one event of a task of the replica adds to the responses sent under labels in p. -/
def sentWeight (apps : Nat → Application) (replica : Nat) (p : List String → Bool) (j : HttpJob) (e : Answered) : Nat :=
  if j.replica = replica then
    (sent [e]).countP fun response => p [j.request.method, (apps j.replica).routeLabel j.request, toString response.status]
  else 0

variable {T : InetType} {apps : Nat → Application} {w : World T} {c : Config Query Reply Exn Unit HttpJob (World T)}
  {replica : Nat} {p : List String → Bool} {t : Task Query Reply Exn Unit HttpJob}

theorem tally_sentWeight : t.tally (sentWeight apps replica p) =
    if t.job.replica = replica then (sent t.history).countP fun response =>
      p [t.job.request.method, (apps t.job.replica).routeLabel t.job.request, toString response.status]
    else 0 := by
  obtain ⟨j, residual, h⟩ := t
  rw [Task.tally]
  induction h with
  | nil => simp [sent]
  | cons e h ih =>
    have happend : sent (e :: h) = sent [e] ++ sent h := List.filterMap_append (l := [e])
    rw [List.map_cons, List.sum_cons, ih, sentWeight, happend, List.countP_append]
    split <;> rfl

theorem httpRequests_eq (h : Past) : httpRequests h = (h.filterMap metricCall).filter isHttpRequest :=
  (List.filter_filterMap ..).symm

theorem counts_httpRequests (h : Past) :
    (h.filterMap metricCall).countP (·.counts .httpRequests p) = (httpRequests h).countP fun call => p call.labels := by
  rw [httpRequests_eq, List.countP_filter]
  refine List.countP_congr fun call _ => ?_
  cases call <;> simp [MetricCall.counts, MetricCall.counter, isHttpRequest]

/-- What a finished task has counted, and what it has sent. -/
private theorem finished_accounted (enabled : Bool) (hw : ∀ i, w.context i = none)
    (hc : (serving T apps).Reachable w c) (ht : t ∈ c.tasks) {x : Except Exn Unit} (hx : t.Finished x)
    (hr : t.job.replica = replica) : t.tally (sentWeight apps replica fun _ => true) = 1 ∧
      ((enabled = true ∧ Countable (apps t.job.replica) t.job.request t.history) ∧
          (∀ p, t.tally (callWeight HttpJob.replica replica enabled .httpRequests p) = t.tally (sentWeight apps replica p)) ∨
        ¬ (enabled = true ∧ Countable (apps t.job.replica) t.job.request t.history) ∧
          ∀ p, t.tally (callWeight HttpJob.replica replica enabled .httpRequests p) = 0) := by
  simp only [tally_callWeight, tally_sentWeight, hr, if_true, and_true, counts_httpRequests]
  obtain ⟨response, hsent, hcounted⟩ := (finished_serve hw hc ht hx).accounted
  rw [hsent, hr] at *
  refine ⟨rfl, ?_⟩
  rcases hcounted with ⟨hcount, duration, hhttp⟩ | ⟨hcount, hhttp⟩
  · cases enabled with
    | true => exact .inl ⟨⟨rfl, hcount⟩, fun p => by simp [hhttp, MetricCall.labels]⟩
    | false => exact .inr ⟨by simp, fun p => rfl⟩
  · exact .inr ⟨fun h => hcount h.2, fun p => by simp [hhttp]⟩

/-- Exact accounting: with no request in progress on a replica, the responses sent are
counted under the labels they were sent with if and only if metrics are enabled and every
request was undisturbed and had a countable URL. -/
theorem http_accounting {version : String} {enabled : Bool} (hw : ∀ i, w.context i = none)
    (hm : w.metrics replica = .init version enabled) (hc : (serving T apps).Reachable w c)
    (hdone : ∀ t ∈ c.tasks, t.job.replica = replica → ∃ x, t.Finished x) :
    (∀ p, (c.world.metrics replica).httpRequests.sumOver p = c.tally (sentWeight apps replica p)) ↔
      ∀ t ∈ c.tasks, t.job.replica = replica → enabled = true ∧ Countable (apps t.job.replica) t.job.request t.history := by
  have read : ∀ p, (c.world.metrics replica).httpRequests.sumOver p =
      c.tally (callWeight HttpJob.replica replica enabled .httpRequests p) := fun p => counter_tally (k := .httpRequests) hm hc
  have other : ∀ t : Task Query Reply Exn Unit HttpJob, t.job.replica ≠ replica → ∀ p,
      t.tally (callWeight HttpJob.replica replica enabled .httpRequests p) = t.tally (sentWeight apps replica p) := by
    intro t hr p
    simp [tally_callWeight, tally_sentWeight, hr]
  simp only [read]
  constructor
  · intro h t ht hr
    have hle : ∀ t ∈ c.tasks, t.tally (callWeight HttpJob.replica replica enabled .httpRequests fun _ => true) ≤
        t.tally (sentWeight apps replica fun _ => true) := by
      intro t ht
      by_cases hr : t.job.replica = replica
      · obtain ⟨x, hx⟩ := hdone t ht hr
        obtain ⟨_, ⟨_, heq⟩ | ⟨_, hzero⟩⟩ := finished_accounted enabled hw hc ht hx hr
        · exact (heq _).le
        · rw [hzero]
          exact Nat.zero_le _
      · exact (other t hr _).le
    have heach := (Config.tally_eq_iff hle).mp (h _) t ht
    obtain ⟨x, hx⟩ := hdone t ht hr
    obtain ⟨hone, ⟨hcount, _⟩ | ⟨_, hzero⟩⟩ := finished_accounted enabled hw hc ht hx hr
    · exact hcount
    · rw [hone, hzero] at heach
      cases heach
  · intro h p
    refine Config.tally_congr fun t ht => ?_
    by_cases hr : t.job.replica = replica
    · obtain ⟨x, hx⟩ := hdone t ht hr
      obtain ⟨_, ⟨_, heq⟩ | ⟨hcount, _⟩⟩ := finished_accounted enabled hw hc ht hx hr
      · exact heq p
      · exact absurd (h t ht hr) hcount
    · exact other t hr p

/-- A lookup whose database driver raises something undocumented is answered with 500, and
nothing is counted. -/
theorem not_http_accounting : ∃ c, (serving hostAddresses fun _ => fakeApplication).Reachable
      (.start hostAddresses "0.1.0" true) c ∧ c.Quiescent ∧
    (∀ t ∈ c.tasks, t.job.request.path ∉ Application.excludedMetricPaths) ∧
    c.tally (sentWeight (fun _ => fakeApplication) 0 (· = ["POST", "/api/v1/lookups", "500"])) = 1 ∧
    (c.world.metrics 0).httpRequests.total = 0 := by
  obtain ⟨c, hc, hp⟩ := System.play_reaches (serving hostAddresses fun _ => fakeApplication)
    (.start hostAddresses "0.1.0" true)
    (.launch ⟨0, googleRequest⟩ :: List.replicate 30 (.reply 0 (serverReplies none (.error (runtimeError "")))))
    (fun c => System.settled c && decide ((∀ t ∈ c.tasks, t.job.request.path ∉ Application.excludedMetricPaths) ∧
      c.tally (sentWeight (fun _ => fakeApplication) 0 (· = ["POST", "/api/v1/lookups", "500"])) = 1 ∧
      (c.world.metrics 0).httpRequests.total = 0))
    (by decide +kernel)
  obtain ⟨hsettled, hp⟩ := Bool.and_eq_true_iff.mp hp
  exact ⟨c, hc, System.quiescent_of_settled hsettled, of_decide_eq_true hp⟩

/-- A lookup that misses the cache is counted as it was answered. -/
theorem http_accounting_example : ∃ c, (serving hostAddresses fun _ => fakeApplication).Reachable
      (.start hostAddresses "0.1.0" true) c ∧ c.tasks.length = 1 ∧
    ∀ p, (c.world.metrics 0).httpRequests.sumOver p = c.tally (sentWeight (fun _ => fakeApplication) 0 p) := by
  obtain ⟨c, hc, hp⟩ := System.play_reaches (serving hostAddresses fun _ => fakeApplication)
    (.start hostAddresses "0.1.0" true)
    (.launch ⟨0, googleRequest⟩ :: List.replicate 40 (.reply 0 (serverReplies none (.ok none))))
    (fun c => System.settled c && decide (c.tasks.length = 1 ∧ ∀ t ∈ c.tasks, faults t.history = [] ∧
      fakeApplication.wwwFails t.job.request = false ∧ t.job.request.path ∉ Application.excludedMetricPaths))
    (by decide +kernel)
  obtain ⟨hsettled, hp⟩ := Bool.and_eq_true_iff.mp hp
  obtain ⟨hone, hp⟩ := of_decide_eq_true hp
  refine ⟨c, hc, hone, (http_accounting (fun _ => rfl) rfl hc fun t ht _ => ?_).mpr fun t ht _ => ⟨rfl, ?_⟩⟩
  · exact System.quiescent_of_settled hsettled t ht
  · obtain ⟨hf, hw, hpath⟩ := hp t ht
    exact ⟨⟨hf, hw, nofun⟩, fun path he hurl => hpath (Option.some.inj hurl ▸ he)⟩

end IpCountryApi.Http
