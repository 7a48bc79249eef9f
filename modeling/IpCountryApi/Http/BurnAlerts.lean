import IpCountryApi.Http.RatioRules
import IpCountryApi.Observability.ErrorBudget

/-! The alerts on the burn rates, over the registries of running replicas. -/
namespace IpCountryApi.Http
open Library Domain Execution Observability Services

/-- The rules are evaluated over scrapes of one run. -/
def EvaluatedIn {T : InetType} (apps : Nat → Application) (w : World T) (e : Evaluation) : Prop :=
  ∀ window, ∀ scrapes ∈ e.registries window, ScrapedIn apps w scrapes

/-- When an alert fires, and what it says. -/
structure FiresRightly (alert : BurnAlert) (buckets : List (Option Int)) (values : SloValues) (newest : Evaluation)
    (older : List Evaluation) : Prop where
  fires_iff : alert.firing buckets values (newest :: older) = true ↔
    ∃ e ∈ (newest :: older).takeWhile (alert.Burning buckets values ·), e.time + alert.duration ≤ newest.time
  missed : 1 ≤ alert.threshold → alert.firing buckets values (newest :: older) = true →
    ∀ e ∈ newest :: older, newest.time < e.time + alert.duration → ∀ window ∈ [alert.short, alert.long],
      (∃ x, badRatio buckets values alert.slo window e = some x ∧ values.allowance alert.slo < x) ∧
        (window ≠ .h6 → ∃ x, sli buckets values alert.slo window e = some x ∧ x < values.target alert.slo)
  silent : 1 ≤ alert.threshold * values.allowance alert.slo → alert.firing buckets values (newest :: older) = false

section Runs
variable {T : InetType} {apps : Nat → Application} {w : World T} {e newest : Evaluation} {older : List Evaluation}

theorem EvaluatedIn.recorded (h : EvaluatedIn apps w e) (window : Window) : ∀ scrapes ∈ e.registries window, scrapes.Recorded :=
  fun scrapes hs => (h window scrapes hs).recorded

theorem EvaluatedIn.errors_le (h : EvaluatedIn apps w e) (buckets : List (Option Int)) (window : Window) :
    ∀ scrapes ∈ e.registries window,
      (scrapes.series buckets databaseErrors).sum ≤ (scrapes.series buckets databaseOperations).sum :=
  fun scrapes hs => (h window scrapes hs).errors_le buckets

theorem EvaluatedIn.active_eq (h : EvaluatedIn apps w e) (alert : BurnAlert) (buckets : List (Option Int)) (values : SloValues) :
    alert.active buckets values e = decide (alert.Burning buckets values e) := by
  rw [Bool.eq_iff_iff, decide_eq_true_iff]
  exact BurnAlert.active_iff h.recorded (h.errors_le buckets)

/-- A burn alert fires exactly if, at all evaluations since one that is its duration ago, more
lookups were bad in both windows than its threshold allows. The objective is then missed, and
an alert whose threshold allows everything stays silent. -/
theorem burn_alert_fires_rightly (hevaluated : ∀ e ∈ newest :: older, EvaluatedIn apps w e)
    (hordered : (newest :: older).Pairwise fun newer older => older.time ≤ newer.time) (alert : BurnAlert)
    (buckets : List (Option Int)) (values : SloValues) : FiresRightly alert buckets values newest older := by
  have hactive : ∀ e ∈ newest :: older, alert.active buckets values e = decide (alert.Burning buckets values e) :=
    fun e he => (hevaluated e he).active_eq alert buckets values
  have hstreak : (alert.rule buckets values).streak (newest :: older) =
      (newest :: older).takeWhile (alert.Burning buckets values ·) := AlertingRule.streak_congr hactive
  have hordered : (alert.rule buckets values).Ordered (newest :: older) := hordered
  have hfires := AlertingRule.isFiring_iff hordered
  rw [AlertingRule.Sustained] at hfires
  constructor
  · rw [← hstreak]
    exact hfires
  · intro hthreshold hfiring e he hrecent window hwindow
    obtain ⟨first, hfirst, hlong⟩ := hfires.mp hfiring
    have hnewer : first.time < e.time := by
      have hlong : first.time + alert.duration ≤ newest.time := hlong
      omega
    have hmem := AlertingRule.mem_streak_of_newer hordered hfirst he hnewer
    obtain ⟨hmeasured, hshort, hlong⟩ := of_decide_eq_true ((hactive e he).symm.trans (AlertingRule.active_of_mem_streak hmem))
    have hrun := hevaluated e he
    have hexceeds : alert.Exceeds buckets values window e := by
      rcases List.mem_cons.mp hwindow with rfl | hwindow
      · exact hshort
      · exact List.mem_singleton.mp hwindow ▸ hlong
    obtain ⟨x, hx, hmore⟩ := badRatio_gt (hrun.recorded window) (hrun.errors_le buckets window) hthreshold hmeasured hexceeds
    exact ⟨⟨x, hx, hmore⟩, fun hrecorded => sli_lt_target hrecorded hx hmore⟩
  · intro hall
    apply AlertingRule.not_isFiring
    intro e he
    refine (hactive e he).trans (decide_eq_false fun hburning => ?_)
    have hrun := hevaluated e he
    exact not_exceeds (hrun.recorded alert.short) (hrun.errors_le buckets alert.short) hall hburning.2.1

/-- The week of each objective, after any run. -/
theorem budget_accounted (hevaluated : EvaluatedIn apps w e) {buckets : List (Option Int)} {values : SloValues} {slo : Slo}
    (hmeasured : slo = .latency → values.latencyTarget ∈ buckets) : BudgetAccounted buckets values slo e :=
  budgetAccounted hmeasured (hevaluated.recorded .d7) (hevaluated.errors_le buckets .d7)

end Runs

/-- The values of the chart. -/
def chartSlo : SloValues := ⟨0.995, some 500000000, 0.95, by norm_num, by norm_num⟩

/-- With these values no alert is silent, and each one says that its objective is missed. -/
theorem burnAlerts_apt {alert : BurnAlert} (h : alert ∈ burnAlerts) :
    1 ≤ alert.threshold ∧ alert.threshold * chartSlo.allowance alert.slo < 1 := by
  simp only [burnAlerts, List.mem_cons, List.not_mem_nil, or_false] at h
  rcases h with rfl | rfl | rfl | rfl
  · norm_num [ipCountryAPIAvailabilityFastBurn, chartSlo, SloValues.allowance, SloValues.target]
  · norm_num [ipCountryAPIAvailabilitySlowBurn, chartSlo, SloValues.allowance, SloValues.target]
  · norm_num [ipCountryAPILatencyFastBurn, chartSlo, SloValues.allowance, SloValues.target]
  · norm_num [ipCountryAPILatencySlowBurn, chartSlo, SloValues.allowance, SloValues.target]

/-- One replica scraped at its start and at the end of a run, in every window. -/
def sinceStart (time : Nat) (c : Config Query Reply Exn Unit HttpJob (World hostAddresses)) : Evaluation :=
  ⟨time, fun _ => [⟨.init "0.1.0" true, c.world.metrics 0⟩]⟩

/-- A lookup that the database fails. -/
def failedRun : (serving hostAddresses fun _ => fakeApplication).Recording (.start hostAddresses "0.1.0" true) fun c =>
    System.settled c && decide (ipCountryAPIAvailabilityFastBurn.Burning defaultBuckets chartSlo (sinceStart 0 c) ∧
      budgetRemainingRatio defaultBuckets chartSlo .availability (sinceStart 0 c) = some 0) where
  moves := .launch ⟨0, googleRequest⟩ ::
    List.replicate 40 (.reply 0 (serverReplies (some "a") (.error ⟨.sqlalchemy none, ⟨"", "", ""⟩, []⟩)))
  passes := by decide +kernel

theorem evaluatedIn_sinceStart {c : Config Query Reply Exn Unit HttpJob (World hostAddresses)}
    (hc : (serving hostAddresses fun _ => fakeApplication).Reachable (.start hostAddresses "0.1.0" true) c)
    (hsettled : System.settled c = true) (time : Nat) :
    EvaluatedIn (fun _ => fakeApplication) (.start hostAddresses "0.1.0" true) (sinceStart time c) := by
  intro window scrapes hs
  refine ⟨0, "0.1.0", true, ⟨.start hostAddresses "0.1.0" true, []⟩, c, rfl, .start, hc, ?_, ?_, List.mem_singleton.mp hs⟩
  · intro t ht
    cases ht
  · intro t ht _
    exact .inr (.inl (System.quiescent_of_settled hsettled t ht))

/-- The alert fires once the failed lookup has been in the windows for two minutes. -/
theorem burn_alert_fires_rightly_example : ∃ newest older, older ≠ [] ∧
    ipCountryAPIAvailabilityFastBurn.firing defaultBuckets chartSlo (newest :: older) = true := by
  obtain ⟨c, hc, hp⟩ := failedRun.reaches
  obtain ⟨hsettled, hburning⟩ := Bool.and_eq_true_iff.mp hp
  have hburning : ∀ time, ipCountryAPIAvailabilityFastBurn.Burning defaultBuckets chartSlo (sinceStart time c) :=
    fun _ => (of_decide_eq_true hburning).1
  have evaluated := evaluatedIn_sinceStart hc hsettled
  have fires : FiresRightly ipCountryAPIAvailabilityFastBurn defaultBuckets chartSlo (sinceStart 120 c)
      [sinceStart 60 c, sinceStart 0 c] :=
    burn_alert_fires_rightly (by simpa using ⟨evaluated 120, evaluated 60, evaluated 0⟩) (by simp [sinceStart]) _ _ _
  refine ⟨sinceStart 120 c, [sinceStart 60 c, sinceStart 0 c], by simp, fires.fires_iff.mpr ⟨sinceStart 0 c, ?_, ?_⟩⟩
  · simp [hburning]
  · exact le_rfl

/-- The failed lookup has spent the week. -/
theorem budget_accounted_example : ∃ e, budgetRemainingRatio defaultBuckets chartSlo .availability e = some 0 ∧
    ∀ slo, BudgetAccounted defaultBuckets chartSlo slo e := by
  obtain ⟨c, hc, hp⟩ := failedRun.reaches
  obtain ⟨hsettled, hspent⟩ := Bool.and_eq_true_iff.mp hp
  exact ⟨sinceStart 0 c, (of_decide_eq_true hspent).2, fun slo =>
    budget_accounted (evaluatedIn_sinceStart hc hsettled 0) fun _ => by decide⟩

end IpCountryApi.Http
