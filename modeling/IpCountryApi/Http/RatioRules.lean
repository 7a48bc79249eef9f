import IpCountryApi.Execution.MetricTotals
import IpCountryApi.Http.ErrorCounting
import IpCountryApi.Observability.RecordingRules

/-! The ratio recording rules over the registries of running replicas. -/
namespace IpCountryApi.Http
open Library Domain Execution Observability Services

/-- The task has not begun, is over, has given the event loop to others, or is reading the metrics. -/
def Readable (t : Task Query Reply Exn Unit HttpJob) : Prop :=
  t.history = [] ∨ (∃ x, t.Finished x) ∨ ∃ q k, t.residual = .ask q k ∧ (q.awaits = true ∨ q = .scrape)

/-- The metrics of a replica are read by one of its own tasks, between the turns of the others. -/
def Scrapable {T : InetType} (replica : Nat) (c : Config Query Reply Exn Unit HttpJob (World T)) : Prop :=
  ∀ t ∈ c.tasks, t.job.replica = replica → Readable t

/-- The registry of one replica at two moments of one run. -/
def ScrapedIn {T : InetType} (apps : Nat → Application) (w : World T) (scrapes : Scrapes) : Prop :=
  ∃ replica version enabled b c, w.metrics replica = .init version enabled ∧ (serving T apps).Reachable w b ∧
    (serving T apps).Steps b c ∧ Scrapable replica b ∧ Scrapable replica c ∧
    scrapes = ⟨b.world.metrics replica, c.world.metrics replica⟩

variable {T : InetType} {apps : Nat → Application} {w : World T} {b c : Config Query Reply Exn Unit HttpJob (World T)}

theorem matched_of_readable (hc : (serving T apps).Reachable w c) {t : Task Query Reply Exn Unit HttpJob}
    (ht : t ∈ c.tasks) (hidle : Readable t) : Matched (metricCalls t.history) := by
  have program : ∀ j, Meets countingContract ((serving T apps).program j) [] fun h _ => Matched (metricCalls h) :=
    fun j => counting_serve (apps j.replica) j.request [] .nil
  have seen : countingContract.seen t.history = t.history := List.filter_eq_self.mpr fun _ _ => rfl
  rcases hidle with hnew | ⟨x, hx⟩ | ⟨q, k, hq, hturn⟩
  · rw [hnew]
    exact .nil
  · have hend := hc.finished (C := fun _ => countingContract) program (fun _ _ _ _ _ _ _ _ _ _ _ _ => trivial) ht hx
    rwa [seen] at hend
  · obtain ⟨i, hi⟩ := List.mem_iff_getElem?.mp ht
    have hm := hc.meets (C := fun _ => countingContract) program (fun _ _ _ _ _ _ _ _ _ _ _ _ => trivial) i t hi
    rw [hq, seen] at hm
    exact hm.1 rfl hturn

/-- Between two scrapes no more database errors are counted than operations. -/
theorem errors_within_operations {replica : Nat} {version : String} {enabled : Bool}
    (hm : w.metrics replica = .init version enabled) (hb : (serving T apps).Reachable w b)
    (hs : (serving T apps).Steps b c) (hbefore : Scrapable replica b) (hafter : Scrapable replica c) :
    (c.world.metrics replica).databaseErrors.total + (b.world.metrics replica).databaseOperations.total ≤
      (c.world.metrics replica).databaseOperations.total + (b.world.metrics replica).databaseErrors.total := by
  have hc := hb.trans hs
  have read : ∀ k c, (serving T apps).Reachable w c → ((c.world.metrics replica).counter k).sumOver (fun _ => true) =
      c.tally (callWeight HttpJob.replica replica enabled k fun _ => true) := fun k c hc => counter_tally hm hc
  have htally := hs.tally_le (callWeight HttpJob.replica replica enabled .databaseErrors fun _ => true)
    (callWeight HttpJob.replica replica enabled .databaseOperations fun _ => true) ?_ ?_
  · rw [← read _ _ hc, ← read _ _ hc, ← read _ _ hb, ← read _ _ hb] at htally
    exact htally
  · rintro t ht t' ht' hjob ⟨newer, hnewer⟩
    simp only [tally_callWeight, hjob]
    split
    · rename_i hown
      have hold := matched_of_readable hb ht (hbefore t ht hown.2)
      have hnew := matched_of_readable hc ht' (hafter t' ht' (hjob ▸ hown.2))
      rw [hnewer, metricCalls, List.filterMap_append] at hnew
      have hle := hnew.newer_le hold
      rw [hnewer, List.filterMap_append, List.countP_append, List.countP_append]
      rw [errorCount, operationCount] at hle
      omega
    · exact le_rfl
  · intro t ht
    rw [tally_callWeight, tally_callWeight]
    split
    · rename_i hown
      have hnew := matched_of_readable hc ht (hafter t ht hown.2)
      rw [← List.append_nil (metricCalls t.history)] at hnew
      exact hnew.newer_le .nil
    · exact le_rfl

theorem ScrapedIn.recorded {scrapes : Scrapes} (h : ScrapedIn apps w scrapes) : scrapes.Recorded := by
  obtain ⟨replica, version, enabled, b, c, _, _, hs, _, _, rfl⟩ := h
  exact metrics_recorded hs

theorem ScrapedIn.errors_le {scrapes : Scrapes} (h : ScrapedIn apps w scrapes) (buckets : List (Option Int)) :
    (scrapes.series buckets databaseErrors).sum ≤ (scrapes.series buckets databaseOperations).sum := by
  have herrors := h.recorded.growth buckets databaseErrors
  have hoperations := h.recorded.growth buckets databaseOperations
  obtain ⟨replica, version, enabled, b, c, hm, hb, hs, hbefore, hafter, rfl⟩ := h
  have hle := errors_within_operations hm hb hs hbefore hafter
  simp only [databaseErrors, databaseOperations, ApplicationMetrics.exposed, ApplicationMetrics.counter, Family.total] at *
  omega

/-- The ratio rules over any replicas and any window: each tracks its ratio, but for the
cache hit ratio while lookups succeed and no cache hit has ever been counted. -/
theorem ratioRules_track_iff {buckets : List (Option Int)} {target : Option Int} (htarget : target ∈ buckets)
    {registries : List Scrapes} (hscraped : ∀ scrapes ∈ registries, ScrapedIn apps w scrapes) (rule : RatioRule) :
    rule.Tracks buckets target registries ↔
      (rule = .cacheHitRatio → 0 < rule.denominatorGrowth buckets registries →
        ∃ scrapes ∈ registries, ∃ labels ∈ scrapes.after.lookups.labels, databaseHits.keeps labels = true) :=
  rule.tracks_iff_hits htarget (fun scrapes hs => (hscraped scrapes hs).recorded) fun scrapes hs =>
    (hscraped scrapes hs).errors_le buckets

/-- The upper bounds a histogram has if none are given: from 5 ms to 10 s, and none. -/
def defaultBuckets : List (Option Int) :=
  ([5, 10, 25, 50, 75, 100, 250, 500, 750, 1000, 2500, 5000, 7500, 10000].map fun ms => some (ms * 1000000)) ++ [none]

/-- A replica that has answered one lookup, scraped before and after. -/
private theorem scrapedIn_run (loaded : Except Foreign (Option LoadedRow)) {p : Scrapes → Bool}
    (h : ((serving hostAddresses fun _ => fakeApplication).play ⟨.start hostAddresses "0.1.0" true, []⟩
      (.launch ⟨0, googleRequest⟩ :: List.replicate 40 (.reply 0 (serverReplies (some "a") loaded)))).any (fun c =>
        System.settled c && p ⟨.init "0.1.0" true, c.world.metrics 0⟩) = true) :
    ∃ scrapes, ScrapedIn (fun _ => fakeApplication) (.start hostAddresses "0.1.0" true) scrapes ∧ p scrapes = true := by
  obtain ⟨c, hc, hp⟩ := System.play_reaches (serving hostAddresses fun _ => fakeApplication) _ _ _ h
  obtain ⟨hsettled, hp⟩ := Bool.and_eq_true_iff.mp hp
  refine ⟨_, ⟨0, "0.1.0", true, ⟨.start hostAddresses "0.1.0" true, []⟩, c, rfl, .start, hc, ?_, ?_, rfl⟩, hp⟩
  · intro t ht
    cases ht
  · intro t ht _
    exact .inr (.inl (System.quiescent_of_settled hsettled t ht))

/-- A lookup that the database fails: every rule tracks its ratio, and two have traffic. -/
theorem ratioRules_track_example : ∃ scrapes,
    ScrapedIn (fun _ => fakeApplication) (.start hostAddresses "0.1.0" true) scrapes ∧
    (RatioRule.databaseErrorRatio.denominatorGrowth defaultBuckets [scrapes] = 1 ∧
      (RatioRule.http5xxRatio .m5).denominatorGrowth defaultBuckets [scrapes] = 1) ∧
    ∀ rule : RatioRule, rule.Tracks defaultBuckets (some 500000000) [scrapes] := by
  obtain ⟨scrapes, hscraped, hp⟩ := scrapedIn_run (.error ⟨.sqlalchemy none, ⟨"", "", ""⟩, []⟩)
    (p := fun scrapes => decide ((RatioRule.databaseErrorRatio.denominatorGrowth defaultBuckets [scrapes] = 1 ∧
        (RatioRule.http5xxRatio .m5).denominatorGrowth defaultBuckets [scrapes] = 1) ∧
      RatioRule.cacheHitRatio.denominatorGrowth defaultBuckets [scrapes] = 0)) (by decide +kernel)
  obtain ⟨htraffic, hidle⟩ := of_decide_eq_true hp
  refine ⟨scrapes, hscraped, htraffic, fun rule => ?_⟩
  refine (ratioRules_track_iff (by decide) (fun s hs => List.mem_singleton.mp hs ▸ hscraped) rule).mpr ?_
  intro hrule hgrew
  rw [hrule, hidle] at hgrew
  exact absurd hgrew (lt_irrefl 0)

/-- One lookup that missed the cache: the traffic grew, no hit was ever counted, and the
hit ratio is not there. -/
theorem cacheHitRatio_not_tracked : ∃ scrapes,
    ScrapedIn (fun _ => fakeApplication) (.start hostAddresses "0.1.0" true) scrapes ∧
    RatioRule.cacheHitRatio.denominatorGrowth defaultBuckets [scrapes] = 1 ∧
    RatioRule.cacheHitRatio.sample defaultBuckets (some 500000000) [scrapes] = none ∧
    ¬ RatioRule.cacheHitRatio.Tracks defaultBuckets (some 500000000) [scrapes] := by
  obtain ⟨scrapes, hscraped, hp⟩ := scrapedIn_run (.ok none)
    (p := fun scrapes => decide (RatioRule.cacheHitRatio.denominatorGrowth defaultBuckets [scrapes] = 1 ∧
      RatioRule.cacheHitRatio.sample defaultBuckets (some 500000000) [scrapes] = none)) (by decide +kernel)
  obtain ⟨hgrew, hnone⟩ := of_decide_eq_true hp
  refine ⟨scrapes, hscraped, hgrew, hnone, fun tracks => ?_⟩
  have hsome := tracks.defined.mpr (by rw [hgrew]; decide)
  rw [hnone] at hsome
  cases hsome

end IpCountryApi.Http
