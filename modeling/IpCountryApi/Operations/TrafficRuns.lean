import IpCountryApi.Operations.TrafficMix

/-! Runs of the traffic generator: what its summary says, in whatever order the threads get
their answers. -/
namespace IpCountryApi.Operations
open Library

/-- The result is one of the request with this number. -/
structure Planned (args : Args) (index : Nat) (item : Result) : Prop where
  baseUrl : item.baseUrl = baseUrlOf index args.baseUrl
  category : item.category = categoryOf index
  expected : item.expected = true ↔ item.error = none ∧ item.status ∈ expectedStatuses index
  unanswered : item.error ≠ none → item.status = 0
  latency : 0 ≤ item.latency

/-- A request that got no answer has status 0, which no category expects. -/
theorem Planned.expected_iff {args : Args} {index : Nat} {item : Result} (h : Planned args index item) :
    item.expected = true ↔ item.status ∈ item.category.statuses := by
  rw [h.expected, expectedStatuses_eq, ← h.category]
  refine and_iff_right_of_imp fun hmem => ?_
  by_contra herror
  rw [h.unanswered herror] at hmem
  cases hcategory : item.category <;> rw [hcategory] at hmem <;> revert hmem <;> decide

/-- The clock readings of one thread do not go back. -/
def clockContract : Contract Ask Answer where
  sees _ := true
  rely h e :=
    match e with
    | ⟨.perfCounter, t⟩ => ∀ t', ⟨.perfCounter, t'⟩ ∈ h → t' ≤ t
    | _ => True
  guar _ _ := True

/-- An error body that cannot be read, or an exception that is no OSError. -/
def Escapes (e : Raised) : History Ask Answer → Prop
  | ⟨.urlopen _ _, .error (.other typeName)⟩ :: _ => e = .other typeName
  | ⟨.read, .error (.other typeName)⟩ :: _ => e = .other typeName
  | ⟨.read, .error e'⟩ :: ⟨.urlopen _ _, .error (.httpError _)⟩ :: _ => e = e'
  | ⟨.read, .error e'⟩ :: ⟨.read, .error (.httpError _)⟩ :: _ => e = e'
  | _ => False

/-- How a request ends. -/
def Ended (args : Args) (index : Nat) (h : History Ask Answer) : Except Raised Result → Prop
  | .ok item => Planned args index item
  | .error e => Escapes e h

section Threads
variable {args : Args} {index : Nat} {h : History Ask Answer} {β : Type}

theorem ask_meets {q : Ask} {f : Answer q → Script β} {post : History Ask Answer → Except Raised β → Prop} :
    Meets clockContract (ask q >>= f) h post ↔ ∀ r, clockContract.rely h ⟨q, r⟩ → Meets clockContract (f r) (⟨q, r⟩ :: h) post := by
  rw [ask, Meets.call_bind_seen rfl]
  exact and_iff_right trivial

theorem settle_bind_meets {α : Type} {x : Except Raised α} {f : α → Script β}
    {post : History Ask Answer → Except Raised β → Prop} :
    Meets clockContract (settle x >>= f) h post ↔
      match x with
      | .ok a => Meets clockContract (f a) h post
      | .error e => post h (.error e) := by
  cases x <;> rfl

/-- The last reading of a request ends it. -/
private theorem timed_meets {started : Int} {result : Int → Result} (hstarted : ⟨.perfCounter, started⟩ ∈ h)
    (hresult : ∀ latency, 0 ≤ latency → Planned args index (result latency)) :
    Meets clockContract (do
      let finished ← ask .perfCounter
      pure (result (finished - started))) h (Ended args index) :=
  ask_meets.mpr fun _ ht => hresult _ (sub_nonneg.mpr (ht started hstarted))

private theorem answered_planned (status : Nat) (latency : Int) (hlatency : 0 ≤ latency) :
    Planned args index ⟨baseUrlOf index args.baseUrl, categoryOf index, status, latency,
      (expectedStatuses index).contains status, none⟩ :=
  ⟨rfl, rfl, by simp, fun h => absurd rfl h, hlatency⟩

private theorem failed_planned (typeName : String) (latency : Int) (hlatency : 0 ≤ latency) :
    Planned args index ⟨baseUrlOf index args.baseUrl, categoryOf index, 0, latency, false, some typeName⟩ :=
  ⟨rfl, rfl, by simp, fun _ => rfl, hlatency⟩

/-- The except clauses. -/
private theorem handled_meets {e : Raised} {started : Int} {before : History Ask Answer} (hstarted : ⟨.perfCounter, started⟩ ∈ before)
    (hraised : ∃ req timeout, h = ⟨.urlopen req timeout, .error e⟩ :: before ∨ h = ⟨.read, .error e⟩ :: before) :
    Meets clockContract (match e with
      | .httpError code => do
        let body ← ask .read
        settle body
        let finished ← ask .perfCounter
        pure ⟨baseUrlOf index args.baseUrl, categoryOf index, code, finished - started,
          (expectedStatuses index).contains code, none⟩
      | .osError typeName => do
        let finished ← ask .perfCounter
        pure ⟨baseUrlOf index args.baseUrl, categoryOf index, 0, finished - started, false, some typeName⟩
      | .other typeName => throw (.other typeName)) h (Ended args index) := by
  have hin : ⟨.perfCounter, started⟩ ∈ h := by
    obtain ⟨req, timeout, rfl | rfl⟩ := hraised <;> exact List.mem_cons_of_mem _ hstarted
  cases e with
  | osError typeName => exact timed_meets hin (failed_planned typeName)
  | other typeName =>
    obtain ⟨req, timeout, rfl | rfl⟩ := hraised
    · exact rfl
    · exact rfl
  | httpError code =>
    refine ask_meets.mpr fun body _ => settle_bind_meets.mpr ?_
    cases body with
    | ok _ => exact timed_meets (List.mem_cons_of_mem _ hin) (answered_planned code)
    | error e =>
      obtain ⟨req, timeout, rfl | rfl⟩ := hraised
      · cases e <;> rfl
      · cases e <;> rfl

theorem execute_meets (args : Args) (index : Nat) :
    Meets clockContract (execute index args.baseUrl args.cachedIp args.timeout) [] (Ended args index) := by
  have hplan := requestFor_snd index (baseUrlOf index args.baseUrl) args.cachedIp
  rw [execute]
  generalize requestFor index (baseUrlOf index args.baseUrl) args.cachedIp = planned at hplan ⊢
  obtain ⟨request, rest⟩ := planned
  cases hplan
  refine ask_meets.mpr fun started _ => ?_
  have hstarted : (⟨.perfCounter, started⟩ : Event Ask Answer) ∈ [⟨.perfCounter, started⟩] := List.mem_singleton_self _
  rw [Meets.tryCatch_iff]
  refine ask_meets.mpr fun opened _ => settle_bind_meets.mpr ?_
  cases opened with
  | error e => exact handled_meets hstarted ⟨request, args.timeout, .inl rfl⟩
  | ok status =>
    refine ask_meets.mpr fun body _ => settle_bind_meets.mpr ?_
    cases body with
    | error e => exact handled_meets (List.mem_cons_of_mem _ hstarted) ⟨request, args.timeout, .inr rfl⟩
    | ok _ => exact ask_meets.mpr fun finished ht =>
        answered_planned status _ (sub_nonneg.mpr (ht started (by simp)))

end Threads

section Runs
variable {args : Args} {start : Int} {c : Config Ask Answer Raised Result Nat Int} {results : List Result}

/-- No thread has read a time that is still to come. -/
theorem readings_le (hc : (threads args).Reachable start c) (i : Nat) (t : Task Ask Answer Raised Result Nat)
    (ht : c.tasks[i]? = some t) (time : Int) (hread : ⟨.perfCounter, time⟩ ∈ t.history) : time ≤ c.world := by
  refine hc.invariant (I := fun c => ∀ (i : Nat) t, c.tasks[i]? = some t →
    ∀ time, ⟨.perfCounter, time⟩ ∈ t.history → time ≤ c.world) ?_ ?_ i t ht time hread
  · intro i t ht
    simp at ht
  · intro c c' _ ih hs n t ht time hread
    cases hs with
    | launch j =>
      rcases System.launch_getElem? c j n t ht with ht | ⟨_, rfl⟩
      · exact ih n t ht time hread
      · cases hread
    | answer i j q k h r waiting enabled =>
      have later : c.world ≤ (threads args).apply c.world i j ⟨q, r⟩ := by
        cases q with
        | perfCounter => exact enabled
        | urlopen | read => exact le_rfl
      rcases System.answer_getElem? waiting n t ht with ⟨rfl, rfl⟩ | ⟨_, ht⟩
      · rcases List.mem_cons.mp hread with he | hread
        · cases he
          exact le_rfl
        · exact (ih n _ waiting time hread).trans later
      · exact (ih n t ht time hread).trans later

theorem ended (hc : (executor args).Reachable start c) {i : Nat} {t : Task Ask Answer Raised Result Nat}
    (ht : c.tasks[i]? = some t) {x : Except Raised Result} (hx : t.Finished x) : Ended args i t.history x := by
  have hend := hc.system.finished (C := fun _ => clockContract) (execute_meets args) ?_ (List.mem_of_getElem? ht) hx
  · rw [hc.jobs.2 i t ht] at hend
    rwa [show clockContract.seen t.history = t.history from List.filter_eq_self.mpr fun _ _ => rfl] at hend
  · intro c i j q k h r hc waiting enabled _ _
    rw [show clockContract.seen h = h from List.filter_eq_self.mpr fun _ _ => rfl]
    cases q with
    | perfCounter => exact fun time hread => (readings_le hc i _ waiting time hread).trans enabled
    | urlopen | read => trivial

theorem results_planned (hc : (executor args).Reachable start c)
    (hr : (executor args).results c = some (.ok results)) :
    results.length = args.requests ∧ ∀ (i : Nat) item, results[i]? = some item → Planned args i item := by
  obtain ⟨hlength, hfinished⟩ := Pool.results_eq_ok.mp hr
  refine ⟨hlength, fun i item hi => ?_⟩
  obtain ⟨t, ht, hx⟩ := hfinished i item hi
  exact ended hc ht hx

theorem results_expected (hplanned : ∀ (i : Nat) item, results[i]? = some item → Planned args i item) :
    ∀ item ∈ results, item.expected = true ↔ item.status ∈ item.category.statuses := by
  intro item hitem
  obtain ⟨i, hi⟩ := List.mem_iff_getElem?.mp hitem
  exact (hplanned i item hi).expected_iff

/-- What is the same for every result of a number is the same list in every run. -/
theorem map_results {γ : Type} (hlength : results.length = args.requests)
    (hplanned : ∀ (i : Nat) item, results[i]? = some item → Planned args i item) {f : Result → γ} {g : Nat → γ}
    (hfg : ∀ i item, Planned args i item → f item = g i) : results.map f = (List.range args.requests).map g := by
  apply List.ext_getElem?
  intro i
  rcases Nat.lt_or_ge i args.requests with hi | hi
  · have hitem := List.getElem?_eq_getElem (hlength.symm ▸ hi : i < results.length)
    rw [List.getElem?_map, List.getElem?_map, List.getElem?_range hi, hitem]
    exact congrArg some (hfg i _ (hplanned i _ hitem))
  · rw [List.getElem?_eq_none (by simpa [hlength] using hi), List.getElem?_eq_none (by simpa using hi)]

end Runs

theorem countP_expected (results : List Result) :
    results.countP (·.expected) + (unexpected results).length = results.length := by
  rw [unexpected, ← List.countP_eq_length_filter]
  simpa using (List.length_eq_countP_add_countP (fun item : Result => item.expected) (l := results)).symm

theorem exitStatus_eq_zero (results : List Result) : exitStatus results = 0 ↔ unexpected results = [] := by
  rw [exitStatus]
  split
  · rename_i h
    exact iff_of_true rfl h
  · rename_i h
    exact iff_of_false (by decide) h

section Expected
variable {results : List Result} (hexpected : ∀ item ∈ results, item.expected = true ↔ item.status ∈ item.category.statuses)
include hexpected

theorem unexpected_eq : unexpected results = results.filter fun item => item.status ∉ item.category.statuses := by
  apply List.filter_congr
  intro item hitem
  rw [Bool.eq_iff_iff, Bool.not_eq_true', ← Bool.not_eq_true, hexpected item hitem, decide_eq_true_iff]

theorem countP_expected4xx : (results.countP fun item => item.category = .expected4xx && item.expected) =
    (results.filter fun item => item.category = .expected4xx).countP fun item => item.status = 400 ∨ item.status = 422 := by
  rw [List.countP_filter]
  apply List.countP_congr
  intro item hitem
  by_cases hcategory : item.category = .expected4xx
  · have hstatus := hexpected item hitem
    rw [hcategory] at hstatus
    simp [hcategory, hstatus, Category.statuses]
  · simp [hcategory]

end Expected

/-- What a summary says of the requests that were sent: the results are theirs in order, all of it
adds up to their number, and a result is expected if its category expects the status it got. -/
structure Accounted (args : Args) (results : List Result) (summary : Summary) : Prop where
  requests : summary.requests = args.requests
  inOrder : results.map (fun item => (item.category, item.baseUrl)) =
    (List.range args.requests).map fun i => (categoryOf i, baseUrlOf i args.baseUrl)
  expected : ∀ item ∈ results, item.expected = true ↔ item.status ∈ item.category.statuses
  successes : summary.successfulRequests = results.countP fun item => item.status ∈ item.category.statuses
  outcomes : summary.successfulRequests + summary.unexpectedFailures = args.requests
  totals : summary.categories.total = args.requests ∧ summary.statusCodes.total = args.requests ∧
    summary.baseUrls.total = args.requests
  categories : ∀ category, (summary.categories.get? (Category.text category)).getD 0 = category.share args.requests
  statusCodes : ∀ code, (summary.statusCodes.get? code).getD 0 = results.countP fun item => toString item.status = code
  baseUrls : ∀ url, (summary.baseUrls.get? url).getD 0 =
    ∑ position ∈ (Finset.range args.baseUrl.length).filter fun j => rstripSlash (args.baseUrl.getD j "") = url,
      turns args.baseUrl.length args.requests position
  expected4xx : summary.expected4xxResponses =
    (results.filter fun item => item.category = .expected4xx).countP fun item => item.status = 400 ∨ item.status = 422
  expected4xx_le : summary.expected4xxResponses ≤ Category.share .expected4xx args.requests
  samples : summary.unexpectedFailureSamples.getD [] <+: results.filter fun item => item.status ∉ item.category.statuses
  sampled : (summary.unexpectedFailureSamples.getD []).length = min 10 summary.unexpectedFailures
  verdict : exitStatus results = 0 ↔ ∀ item ∈ results, item.status ∈ item.category.statuses

/-! A small run: two requests, the answers in the opposite order, the first one an error. -/

instance (args : Args) (now : Int) (i j : Nat) (e : Event Ask Answer) : Decidable ((executor args).system.enabled now i j e) :=
  match e with
  | ⟨.perfCounter, t⟩ => inferInstanceAs (Decidable (now ≤ t))
  | ⟨.urlopen _ _, _⟩ | ⟨.read, _⟩ => .isTrue trivial

def twoRequests : Args where
  baseUrl := ["http://localhost:8080/"]
  given := by decide
  requests := 2
  requestsRange := by decide
  concurrency := 2
  concurrencyRange := by decide
  cachedIp := "208.67.222.222"
  timeout := .finite 5
  timeoutRange := by decide +kernel
  schemes := by decide +kernel

/-- The clock at a time, and what every server answers. -/
def answering (time : Int) (opened : Except Raised Nat) : (q : Ask) → Option (Answer q)
  | .perfCounter => some time
  | .urlopen _ _ => some opened
  | .read => some (.ok ())

def twoMoves : List (Pool.Move Ask Answer) :=
  [.start, .start, .reply 0 (answering 1 (.ok 200)), .reply 1 (answering 2 (.ok 200))] ++
    List.replicate 3 (.reply 1 (answering 5 (.ok 200))) ++
    List.replicate 3 (.reply 0 (answering 7 (.error (.httpError 503))))

/-- Both requests have a result and can be summarized: the first one failed, and took longer. -/
def bothAnswered (c : Config Ask Answer Raised Result Nat Int) : Bool :=
  match (executor twoRequests).results c with
  | some (.ok results) => (summarize twoRequests results 8).isSome &&
      results.map (fun item => (item.status, item.latency)) = [(503, 6), (200, 3)]
  | _ => false

private theorem twoRequests_run : ∃ c results summary, (executor twoRequests).Reachable 0 c ∧
    (executor twoRequests).results c = some (.ok results) ∧ summarize twoRequests results 8 = some summary ∧
    results.map (fun item => (item.status, item.latency)) = [(503, 6), (200, 3)] := by
  obtain ⟨c, hc, hp⟩ := Pool.play_reaches (executor twoRequests) 0 twoMoves bothAnswered (by decide +kernel)
  rw [bothAnswered] at hp
  split at hp
  · rename_i results hresults
    obtain ⟨hsome, hitems⟩ := Bool.and_eq_true_iff.mp hp
    obtain ⟨summary, hsummary⟩ := Option.isSome_iff_exists.mp hsome
    exact ⟨c, results, summary, hc, hresults, hsummary, of_decide_eq_true hitems⟩
  · cases hp

section Summaries
variable {args : Args} {start : Int} {c : Config Ask Answer Raised Result Nat Int} {results : List Result}
  {duration : Int} {summary : Summary}

theorem summarize_eq_some (hs : summarize args results duration = some summary) :
    ∃ latency, latencies results = some latency ∧ summary = {
      profile := "controlled dashboard-population and functional performance traffic"
      requests := results.length
      concurrency := args.concurrency
      duration := duration
      throughput := results.length / duration
      latency := latency
      successfulRequests := results.countP (·.expected)
      expected4xxResponses := results.countP fun item => item.category = .expected4xx && item.expected
      unexpectedFailures := (unexpected results).length
      categories := Dict.sortedItems (Dict.counter (results.map (·.category.text)))
      statusCodes := Dict.sortedItems (Dict.counter (results.map fun item => toString item.status))
      baseUrls := Dict.sortedItems (Dict.counter (results.map (·.baseUrl)))
      unexpectedFailureSamples := if unexpected results = [] then none else some ((unexpected results).take 10) } := by
  obtain ⟨latency, hlatency, hs⟩ := Option.bind_eq_some_iff.mp hs
  refine ⟨latency, hlatency, ?_⟩
  split at hs
  · cases hs
  · exact (Option.some.inj hs).symm

private theorem getD_counter (keys : List String) (key : String) :
    ((Dict.sortedItems (Dict.counter keys)).get? key).getD 0 = keys.count key := by
  rw [Dict.get?_sorted_counter]
  split
  · rename_i h
    rw [h]
    rfl
  · rfl

/-- The account of every run of the threads that gets through. -/
theorem traffic_accounted (hc : (executor args).Reachable start c) (hr : (executor args).results c = some (.ok results))
    (hs : summarize args results duration = some summary) : Accounted args results summary := by
  obtain ⟨hlength, hplanned⟩ := results_planned hc hr
  obtain ⟨latency, _, rfl⟩ := summarize_eq_some hs
  have hcategories : results.map (·.category) = (List.range args.requests).map categoryOf :=
    map_results hlength hplanned fun _ _ h => h.category
  have hcategory : ∀ category, (results.map (·.category)).count category = category.share args.requests := fun category => by
    rw [hcategories, count_category]
  have hexpected := results_expected hplanned
  constructor
  · exact hlength
  · exact map_results hlength hplanned fun _ _ h => Prod.ext h.category h.baseUrl
  · exact hexpected
  · apply List.countP_congr
    intro item hitem
    rw [hexpected item hitem, decide_eq_true_iff]
  · exact (countP_expected results).trans hlength
  · simp only [Dict.total_sorted_counter, List.length_map]
    exact ⟨hlength, hlength, hlength⟩
  · intro category
    rw [getD_counter, ← hcategory, show results.map (·.category.text) = (results.map (·.category)).map Category.text by simp]
    exact List.count_map_of_injective _ _ (fun _ _ => Category.text_injective) _
  · intro code
    rw [getD_counter, List.count, List.countP_map]
    rfl
  · intro url
    rw [getD_counter, map_results hlength hplanned (g := fun i => baseUrlOf i args.baseUrl) fun _ _ h => h.baseUrl,
      count_baseUrl args.given]
  · exact countP_expected4xx hexpected
  · rw [← hcategory, List.count, List.countP_map]
    exact List.countP_mono_left fun item _ h => by simpa using (Bool.and_eq_true_iff.mp h).1
  · rw [← unexpected_eq hexpected]
    split
    · exact List.nil_prefix
    · exact List.take_prefix 10 _
  · split
    · rename_i h
      simp [h]
    · simp
  · rw [exitStatus_eq_zero, unexpected_eq hexpected]
    simp

theorem traffic_accounted_example : ∃ results summary,
    results.map (fun item => (item.status, item.latency)) = [(503, 6), (200, 3)] ∧ Accounted twoRequests results summary := by
  obtain ⟨c, results, summary, hc, hresults, hsummary, hitems⟩ := twoRequests_run
  exact ⟨results, summary, hitems, traffic_accounted hc hresults hsummary⟩

/-- The reported percentiles are measured latencies, the ones of nearest rank. -/
structure Ranked (results : List Result) (latency : Latencies) : Prop where
  p50 : NearestRank (results.map Result.latency) (1 / 2) latency.p50
  p95 : NearestRank (results.map Result.latency) (19 / 20) latency.p95
  p99 : NearestRank (results.map Result.latency) (99 / 100) latency.p99
  ordered : 0 ≤ latency.p50 ∧ latency.p50 ≤ latency.p95 ∧ latency.p95 ≤ latency.p99

theorem percentile_ranked {values : List Int} (hne : values ≠ []) {quantile : ℚ} (hpos : 0 < quantile) (hle : quantile ≤ 1)
    {v : Int} (hv : percentile values quantile = some v) : NearestRank values quantile v := by
  obtain ⟨w, hw, hrank⟩ := nearestRank_sorted hpos hle hne
  rw [percentile, if_neg hne, show (⌈quantile * values.length⌉ - 1).toNat = ⌈quantile * values.length⌉.toNat - 1 by omega, hw] at hv
  rwa [← Option.some.inj hv]

theorem percentiles_ranked (hc : (executor args).Reachable start c) (hr : (executor args).results c = some (.ok results))
    (hs : summarize args results duration = some summary) : Ranked results summary.latency := by
  obtain ⟨hlength, hplanned⟩ := results_planned hc hr
  obtain ⟨latency, hlatency, rfl⟩ := summarize_eq_some hs
  have hne : results.map Result.latency ≠ [] := by
    intro h
    have hrequests := args.requestsRange.1
    rw [List.map_eq_nil_iff.mp h, List.length_nil] at hlength
    omega
  obtain ⟨p50, h50, hlatency⟩ := Option.bind_eq_some_iff.mp hlatency
  obtain ⟨p95, h95, hlatency⟩ := Option.bind_eq_some_iff.mp hlatency
  obtain ⟨p99, h99, hlatency⟩ := Option.bind_eq_some_iff.mp hlatency
  cases hlatency
  have r50 := percentile_ranked hne (by norm_num) (by norm_num) h50
  have r95 := percentile_ranked hne (by norm_num) (by norm_num) h95
  have r99 := percentile_ranked hne (by norm_num) (by norm_num) h99
  have hnonneg : 0 ≤ p50 := by
    obtain ⟨item, hitem, rfl⟩ := List.mem_map.mp r50.mem
    obtain ⟨i, hi⟩ := List.mem_iff_getElem?.mp hitem
    exact (hplanned i item hi).latency
  norm_num at r50 r95 r99
  exact ⟨r50, r95, r99, hnonneg, r50.mono r95 (by norm_num), r95.mono r99 (by norm_num)⟩

theorem percentiles_ranked_example : ∃ results summary,
    results.map (fun item => (item.status, item.latency)) = [(503, 6), (200, 3)] ∧ Ranked results (Summary.latency summary) := by
  obtain ⟨c, results, summary, hc, hresults, hsummary, hitems⟩ := twoRequests_run
  exact ⟨results, summary, hitems, percentiles_ranked hc hresults hsummary⟩

/-- The run stops at the first request in order that raised, after none before it had: with an
error body that could not be read, or an exception that is no OSError. -/
structure Stopped (args : Args) (c : Config Ask Answer Raised Result Nat Int) (e : Raised) : Prop where
  raised : ∃ (i : Nat) (t : Task Ask Answer Raised Result Nat), i < args.requests ∧ c.tasks[i]? = some t ∧ t.Finished (.error e) ∧ Escapes e t.history ∧
    ∀ j < i, ∃ t item, c.tasks[j]? = some t ∧ t.Finished (.ok item) ∧ Planned args j item

/-- The threads at any time: no more requests than asked for are under way, the next answer can
be taken until all are over, and only some exceptions stop the run. -/
structure Orderly (args : Args) (c : Config Ask Answer Raised Result Nat Int) : Prop where
  submitted : c.tasks.length ≤ args.requests
  underWay : Pool.running c ≤ args.concurrency
  progress : (c.tasks.length = args.requests ∧ c.Quiescent) ∨ ∃ c', (executor args).Step c c'
  stopped : ∀ e, (executor args).results c = some (.error e) → Stopped args c e
  reported : c.tasks.length = args.requests → c.Quiescent → ((executor args).results c).isSome

theorem threads_orderly (hc : (executor args).Reachable start c) : Orderly args c := by
  have answers : ∀ now i j q, ∃ r, (threads args).enabled now i j ⟨q, r⟩ := by
    intro now i j q
    cases q with
    | perfCounter => exact ⟨now, le_refl now⟩
    | urlopen request timeout => exact ⟨.ok 200, trivial⟩
    | read => exact ⟨.ok (), trivial⟩
  constructor
  · exact hc.jobs.1
  · exact hc.running_le
  · exact (Pool.progress (P := executor args) args.concurrencyRange.1 answers c).imp_left fun ⟨hge, hidle⟩ =>
      ⟨le_antisymm hc.jobs.1 hge, hidle⟩
  · intro e he
    obtain ⟨i, hi, ⟨t, ht, hx⟩, hbefore⟩ := Pool.results_eq_error.mp he
    refine ⟨i, t, hi, ht, hx, ended hc ht hx, fun j hj => ?_⟩
    obtain ⟨t', item, ht', hx'⟩ := hbefore j hj
    exact ⟨t', item, ht', hx', ended hc ht' hx'⟩
  · exact Pool.isSome_results (P := executor args)

theorem threads_orderly_example : ∃ c, (executor twoRequests).Reachable 0 c ∧ Orderly twoRequests c := by
  obtain ⟨c, _, _, hc, _⟩ := twoRequests_run
  exact ⟨c, hc, threads_orderly hc⟩

end Summaries

end IpCountryApi.Operations
