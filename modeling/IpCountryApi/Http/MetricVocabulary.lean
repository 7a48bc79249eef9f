import IpCountryApi.Http.HttpAccounting
import Mathlib.Data.Set.Finite.Lattice

/-! The metric vocabulary: which label tuples the registry of a replica can hold, whatever
requests come in. -/
namespace IpCountryApi.Http
open Library Domain Execution Observability

/-- The label tuples of requests with these methods. -/
def requestLabels (methods : List String) : List (List String) :=
  methods.flatMap fun method => routeLabels.flatMap fun route =>
    [method, route] :: statuses.map fun status => [method, route, toString status]

def errorTypes : List String :=
  ["fixture_not_found", "authentication", "rate_limited", "invalid_response", "timeout", "unavailable"]

/-- All other label tuples, which the source code fixes. -/
def fixedLabels : List (List String) :=
  (["database", "provider"].flatMap fun source => ["success", "error"].map fun result => [source, result]) ++
    (["fake", "ipinfo"].flatMap fun provider => [provider] ::
      (["success", "error"] ++ errorTypes).map fun result => [provider, result]) ++
    ["read", "upsert"].flatMap fun operation => [[operation], [operation, "unavailable"]]

theorem mem_requestLabels {methods : List String} {method route : String} {status : Nat} (hm : method ∈ methods)
    (hr : route ∈ routeLabels) (hs : status ∈ statuses) :
    [method, route, toString status] ∈ requestLabels methods ∧ [method, route] ∈ requestLabels methods := by
  constructor <;> refine List.mem_flatMap.mpr ⟨method, hm, List.mem_flatMap.mpr ⟨route, hr, ?_⟩⟩
  · exact List.mem_cons_of_mem _ (List.mem_map_of_mem hs)
  · exact List.mem_cons_self

/-- A call with bounded labels stays within the vocabulary of its method. -/
theorem Bounded.labels_mem {methods : List String} {method : String} {call : MetricCall} (hb : Bounded method call)
    (hm : method ∈ methods) : ∀ labels, labels = call.labels ∨ labels ∈ call.observed →
      labels ∈ requestLabels methods ++ fixedLabels := by
  intro labels hl
  refine List.mem_append.mpr ?_
  cases call with
  | httpRequest method' route status duration =>
    obtain ⟨rfl, hr, hs⟩ := hb
    obtain ⟨counted, observed⟩ := mem_requestLabels hm hr hs
    rcases hl with rfl | hl
    · exact .inl counted
    · exact .inl (List.mem_singleton.mp hl ▸ observed)
  | lookup source result =>
    have fixed : ∀ source ∈ ["database", "provider"], ∀ result ∈ ["success", "error"], [source, result] ∈ fixedLabels := by
      decide
    rcases hl with rfl | hl
    · exact .inr (fixed _ hb.1 _ hb.2)
    · cases hl
  | providerRequest provider result duration =>
    have fixed : ∀ provider ∈ ["fake", "ipinfo"], ∀ result ∈ ["success", "error"],
        [provider, result] ∈ fixedLabels ∧ [provider] ∈ fixedLabels := by
      decide
    obtain ⟨counted, observed⟩ := fixed _ hb.1 _ hb.2
    rcases hl with rfl | hl
    · exact .inr counted
    · exact .inr (List.mem_singleton.mp hl ▸ observed)
  | providerError provider errorType =>
    have fixed : ∀ provider ∈ ["fake", "ipinfo"], ∀ errorType ∈ errorTypes, [provider, errorType] ∈ fixedLabels := by
      decide
    rcases hl with rfl | hl
    · exact .inr (fixed _ hb.1 _ hb.2)
    · cases hl
  | databaseOperation operation duration =>
    have fixed : ∀ operation ∈ ["read", "upsert"], [operation] ∈ fixedLabels := by decide
    rcases hl with rfl | hl
    · exact .inr (fixed _ hb)
    · exact .inr (List.mem_singleton.mp hl ▸ fixed _ hb)
  | databaseError operation errorType =>
    have fixed : ∀ operation ∈ ["read", "upsert"], ∀ errorType ∈ ["unavailable"], [operation, errorType] ∈ fixedLabels := by
      decide
    rcases hl with rfl | hl
    · exact .inr (fixed _ hb.1 _ hb.2)
    · cases hl

section Bound
variable {T : InetType} {apps : Nat → Application} {w : World T} {c : Config Query Reply Exn Unit HttpJob (World T)}
  {replica : Nat} {version : String}

/-- The registry stays within the vocabulary of the methods that were sent. -/
theorem labelTuples_bounded {methods : List String} (hw : ∀ i, w.context i = none)
    (hm : w.metrics replica = .init version true) (hc : (serving T apps).Reachable w c)
    (hmethods : ∀ t ∈ c.tasks, t.job.request.method ∈ methods) :
    ∀ labels ∈ (c.world.metrics replica).labelTuples, labels ∈ [version] :: (requestLabels methods ++ fixedLabels) := by
  refine hc.invariant (I := fun c => (∀ t ∈ c.tasks, t.job.request.method ∈ methods) →
    ∀ labels ∈ (c.world.metrics replica).labelTuples, labels ∈ [version] :: (requestLabels methods ++ fixedLabels))
    ?_ ?_ hmethods
  · intro _ labels hl
    rw [hm, ApplicationMetrics.mem_labelTuples_init] at hl
    exact hl ▸ List.mem_cons_self
  · intro c c' hc ih hs hmethods labels hl
    cases hs with
    | launch j => exact ih (fun t ht => hmethods t (List.mem_append_left _ ht)) labels hl
    | answer i j q k h r waiting enabled =>
      obtain ⟨hi, _⟩ := List.getElem?_eq_some_iff.mp waiting
      have own : j.request.method ∈ methods := hmethods _ (List.mem_set hi _)
      have earlier : ∀ t ∈ c.tasks, t.job.request.method ∈ methods := by
        intro t ht
        obtain ⟨n, hn⟩ := List.mem_iff_getElem?.mp ht
        by_cases he : n = i
        · subst n
          rw [waiting, Option.some.injEq] at hn
          exact hn ▸ own
        · refine hmethods t (List.mem_iff_getElem?.mpr ⟨n, ?_⟩)
          rw [System.answer, List.getElem?_set_ne (Ne.symm he), hn]
      have hl : labels ∈ ((c.world.after i j.replica ⟨q, r⟩).metrics replica).labelTuples := hl
      rw [World.after_metrics] at hl
      cases q with
      | metric call =>
        simp only [metricCall] at hl
        split at hl
        · rcases ApplicationMetrics.mem_labelTuples_record _ _ hl with hl | hl
          · exact ih earlier labels hl
          · exact List.mem_cons_of_mem _ ((waiting_bounded hw hc waiting).labels_mem own labels hl)
        · exact ih earlier labels hl
      | _ => exact ih earlier labels hl

end Bound

/-- A reply that every world offers and that raises nothing unexpected. -/
def gentleReply {T : InetType} (i replica : Nat) (w : World T) : (q : Query) → Reply q
  | .clock | .now | .perfCounter | .timestamp => (0 : Int)
  | .uuid4 => (0 : BitVec 128)
  | .contextGet | .contextSet _ => w.context i
  | .contextReset _ | .metric _ | .print _ | .send _ => ()
  | .scrape => w.metrics replica
  | .scalar _ => .error ⟨.sqlalchemy none, ⟨"", "", ""⟩, []⟩
  | .execute _ | .commit _ => .error ⟨.sqlalchemy none, ⟨"", "", ""⟩, []⟩
  | .provider _ => .ok (.error .providerInvalidResponse)
  | .clientGet _ _ => .error ⟨.request .timeout, ⟨"", "", ""⟩, []⟩
  | .sleep _ | .readinessProbe => .ok ()
  | .template _ => .ok ""
  | .staticFile _ _ => .ok (.error .notFound)

theorem gentleReply_offered {T : InetType} (i replica : Nat) (w : World T) (q : Query) :
    w.Offers i replica ⟨q, gentleReply i replica w q⟩ := by
  cases q <;> trivial

theorem fault_gentleReply {T : InetType} {i replica : Nat} {w : World T} {e : Answered}
    (he : e.reply = gentleReply i replica w e.query) : fault e = none := by
  obtain ⟨q, r⟩ := e
  obtain rfl : r = gentleReply i replica w q := he
  cases q <;> rfl

/-- A request that no route matches, with any method. -/
def methodRequest (method : String) : Request := ⟨method, "/nowhere", [("host", "localhost")], .absent⟩

private theorem methodRequest_trusted (method : String) : fakeApplication.trustedHost (methodRequest method) = true := by
  have headers : (methodRequest method).headers = [("host", "localhost")] := rfl
  rw [Application.trustedHost, Application.host, Request.header, headers]
  decide

/-- A request with any method leaves that method in the registry. -/
theorem method_counted (version method : String) : ∃ c, (serving hostAddresses fun _ => fakeApplication).Reachable
      (.start hostAddresses version true) c ∧ (∀ t ∈ c.tasks, t.job.request.method = method) ∧
    ∃ labels ∈ (c.world.metrics 0).labelTuples, labels.head? = some method := by
  have start : (serving hostAddresses fun _ => fakeApplication).Reachable (.start hostAddresses version true)
      (System.launch _ ⟨.start hostAddresses version true, []⟩ ⟨0, methodRequest method⟩) := .tail .refl (.launch _ _)
  obtain ⟨world, newer, x, steps, hnewer⟩ := System.finishes (S := serving hostAddresses fun _ => fakeApplication)
    (i := 0) (gentleReply 0 0) (fun w q => ⟨trivial, gentleReply_offered 0 0 w q⟩)
    (c := System.launch _ ⟨.start hostAddresses version true, []⟩ ⟨0, methodRequest method⟩) rfl
  rw [List.append_nil] at steps
  have hc := start.trans steps
  have hfaults : faults newer = [] := List.filterMap_eq_nil_iff.mpr fun e he => by
    obtain ⟨w, hr⟩ := hnewer e he
    exact fault_gentleReply hr
  have countable : Countable fakeApplication (methodRequest method) newer :=
    ⟨⟨hfaults, by simp [Application.wwwFails, methodRequest_trusted], nofun⟩,
      (by decide : ∀ path ∈ Application.excludedMetricPaths, some "/nowhere" ≠ some path)⟩
  have run := finished_serve (fun _ => rfl) hc List.mem_cons_self rfl
  obtain ⟨response, _, ⟨_, duration, hhttp⟩ | ⟨hcount, _⟩⟩ := run.accounted
  · refine ⟨_, hc, by simp [System.launch, methodRequest], ?_⟩
    have hone : (world.metrics 0).httpRequests.sumOver (fun labels => labels.head? = some method) = 1 := by
      refine (counter_tally (k := .httpRequests) rfl hc).trans ?_
      rw [Config.tally, System.launch, List.nil_append, List.set_cons_zero, List.map_singleton, List.sum_singleton,
        tally_callWeight, counts_httpRequests, hhttp]
      simp [MetricCall.labels, methodRequest]
    obtain ⟨labels, hl, hhead⟩ := Family.exists_label (by rw [hone]; decide)
    exact ⟨labels, by simp [ApplicationMetrics.labelTuples, hl], of_decide_eq_true hhead⟩
  · exact absurd countable hcount

/-- A vocabulary of one registry bounds the methods of the requests it has seen. -/
private theorem methods_finite {version : String} {methods : Set String} {vocabulary : List (List String)}
    (h : ∀ c, (serving hostAddresses fun _ => fakeApplication).Reachable (.start hostAddresses version true) c →
      (∀ t ∈ c.tasks, t.job.request.method ∈ methods) → ∀ labels ∈ (c.world.metrics 0).labelTuples, labels ∈ vocabulary) :
    methods.Finite := by
  refine (List.finite_toSet (vocabulary.filterMap List.head?)).subset fun method hm => ?_
  obtain ⟨c, hc, hmethods, labels, hl, hhead⟩ := method_counted version method
  exact List.mem_filterMap.mpr ⟨labels, h c hc (fun t ht => by rwa [hmethods t ht]) labels hl, hhead⟩

/-- Bounded vocabulary: one finite set of label tuples, the same for all settings and all
runs, holds everything that requests with certain methods leave in a registry if and only
if there are finitely many such methods. -/
theorem vocabulary_bounded (version : String) (methods : Set String) :
    (∃ vocabulary : List (List String), ∀ (T : InetType) (apps : Nat → Application) (w : World T)
      (c : Config Query Reply Exn Unit HttpJob (World T)) (replica : Nat), (∀ i, w.context i = none) →
      w.metrics replica = .init version true → (serving T apps).Reachable w c →
      (∀ t ∈ c.tasks, t.job.request.method ∈ methods) →
      ∀ labels ∈ (c.world.metrics replica).labelTuples, labels ∈ vocabulary) ↔ methods.Finite := by
  constructor
  · rintro ⟨vocabulary, h⟩
    exact methods_finite fun c hc hmethods => h _ _ _ c 0 (fun _ => rfl) rfl hc hmethods
  · intro hfinite
    obtain ⟨list, rfl⟩ := hfinite.exists_finset_coe
    refine ⟨[version] :: (requestLabels list.toList ++ fixedLabels), ?_⟩
    intro T apps w c replica hw hm hc hmethods
    exact labelTuples_bounded hw hm hc fun t ht => Finset.mem_toList.mpr (hmethods t ht)

/-- Tokens made of the letter A alone already leave every finite vocabulary. -/
theorem not_vocabulary_bounded : ¬ ∃ vocabulary : List (List String), ∀ c,
    (serving hostAddresses fun _ => fakeApplication).Reachable (.start hostAddresses "0.1.0" true) c →
    (∀ t ∈ c.tasks, ∃ n, t.job.request.method = String.ofList (List.replicate (n + 1) 'A')) →
    ∀ labels ∈ (c.world.metrics 0).labelTuples, labels ∈ vocabulary := by
  rintro ⟨vocabulary, h⟩
  have hfinite : (Set.range fun n => String.ofList (List.replicate (n + 1) 'A')).Finite :=
    methods_finite fun c hc hmethods => h c hc fun t ht => by
      obtain ⟨n, hn⟩ := hmethods t ht
      exact ⟨n, hn.symm⟩
  refine Set.infinite_range_of_injective (fun n m he => ?_) hfinite
  have hlength := congrArg String.length he
  simpa using hlength

end IpCountryApi.Http
