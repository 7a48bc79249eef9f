import IpCountryApi.Library.Alerting
import IpCountryApi.Observability.RecordingRules
import Mathlib.Algebra.Order.Field.Rat
import Mathlib.Tactic.Linarith
import Mathlib.Tactic.Ring

/-! The service level objectives: the recording rules for the error budget and its burn rates,
and the alerts on them. Samples are exact where Prometheus rounds to floats, and the alerts
change state as it documents. -/
namespace IpCountryApi.Observability
open Library

inductive Slo where
  | availability
  | latency
  deriving DecidableEq, Repr

/-- The share of the lookups that spends the budget of an objective. -/
def Slo.badRatio : Slo → Window → RatioRule
  | availability => .http5xxRatio
  | latency => .httpLatencyBadRatio

/-- The section slo of the values. An objective of everything would divide the burn rates by
zero. The target of the latency is a label of a bucket. -/
structure SloValues where
  availabilityTarget : ℚ
  latencyTarget : Option Int
  latencySuccessTarget : ℚ
  availability_lt : availabilityTarget < 1
  latencySuccess_lt : latencySuccessTarget < 1

namespace SloValues
variable (self : SloValues)

def target : Slo → ℚ
  | .availability => self.availabilityTarget
  | .latency => self.latencySuccessTarget

/-- The share that may be bad. -/
def allowance (slo : Slo) : ℚ := 1 - self.target slo

theorem allowance_pos (slo : Slo) : 0 < self.allowance slo := by
  cases slo with
  | availability => exact sub_pos.mpr self.availability_lt
  | latency => exact sub_pos.mpr self.latencySuccess_lt

end SloValues

/-- When the rules are evaluated: the scrapes at the ends of each window. -/
structure Evaluation where
  time : Nat
  registries : Window → List Scrapes

section Rules
variable (buckets : List (Option Int)) (values : SloValues) (slo : Slo) (window : Window) (e : Evaluation)

/-- http_5xx_ratio and http_latency_bad_ratio. -/
def badRatio : Option ℚ := (slo.badRatio window).sample buckets values.latencyTarget (e.registries window)

/-- availability_sli and latency_sli. There are none over six hours. -/
def sli : Option ℚ := if window = .h6 then none else (badRatio buckets values slo window e).map (1 - ·)

/-- availability_burn_rate and latency_burn_rate. There are none over seven days. -/
def burnRate : Option ℚ :=
  if window = .d7 then none else (badRatio buckets values slo window e).map (· / (1 - values.target slo))

def budgetConsumedRatio : Option ℚ := (badRatio buckets values slo .d7 e).map (· / (1 - values.target slo))

def budgetRemainingRatio : Option ℚ := (budgetConsumedRatio buckets values slo e).map fun consumed => max (1 - consumed) 0

/-- The lookups that were counted in a window, and the bad ones among them. -/
def lookups : Nat := (slo.badRatio window).denominatorGrowth buckets (e.registries window)

def badLookups : Nat := (slo.badRatio window).numeratorGrowth buckets values.latencyTarget (e.registries window)

end Rules

/-- An alert on the burn rates over two windows, for which they are recorded. -/
structure BurnAlert where
  slo : Slo
  short : Window
  long : Window
  threshold : ℚ
  duration : Nat
  recorded : .d7 ∉ [short, long]

def ipCountryAPIAvailabilityFastBurn : BurnAlert := ⟨.availability, .m5, .h1, 14.4, 120, by decide⟩

def ipCountryAPIAvailabilitySlowBurn : BurnAlert := ⟨.availability, .h1, .h6, 3, 900, by decide⟩

def ipCountryAPILatencyFastBurn : BurnAlert := ⟨.latency, .m5, .h1, 14.4, 120, by decide⟩

def ipCountryAPILatencySlowBurn : BurnAlert := ⟨.latency, .h1, .h6, 3, 900, by decide⟩

def burnAlerts : List BurnAlert :=
  [ipCountryAPIAvailabilityFastBurn, ipCountryAPIAvailabilitySlowBurn, ipCountryAPILatencyFastBurn, ipCountryAPILatencySlowBurn]

namespace BurnAlert
variable (self : BurnAlert) (buckets : List (Option Int)) (values : SloValues)

/-- A comparison keeps the samples for which it holds, and their conjunction needs both. -/
def active (e : Evaluation) : Bool :=
  (burnRate buckets values self.slo self.short e).any (self.threshold < ·) &&
    (burnRate buckets values self.slo self.long e).any (self.threshold < ·)

/-- The expression and the time that it has to hold for. -/
def rule : AlertingRule Evaluation := ⟨Evaluation.time, self.active buckets values, self.duration⟩

/-- The alert is firing after the evaluations, newest first. -/
def firing (evaluations : List Evaluation) : Bool := ((self.rule buckets values).after evaluations).isFiring

/-- More lookups of a window were bad than the threshold times the allowance. -/
def Exceeds (window : Window) (e : Evaluation) : Prop :=
  self.threshold * values.allowance self.slo * lookups buckets self.slo window e < badLookups buckets values self.slo window e

/-- The objective of an alert can be measured, and both of its windows exceed. -/
def Burning (e : Evaluation) : Prop :=
  (self.slo = .latency → values.latencyTarget ∈ buckets) ∧
    self.Exceeds buckets values self.short e ∧ self.Exceeds buckets values self.long e

instance (e : Evaluation) : Decidable (self.Burning buckets values e) :=
  inferInstanceAs (Decidable ((_ → _) ∧ _ < _ ∧ _ < _))

end BurnAlert

/-! The samples, over registries that have only seen metric calls. -/

section Samples
variable {buckets : List (Option Int)} {values : SloValues} {slo : Slo} {window : Window} {e : Evaluation}

/-- A bucket that the histogram does not have leaves the latency without samples. -/
theorem badRatio_unmeasured (h : values.latencyTarget ∉ buckets) : badRatio buckets values .latency window e = none := by
  have hnone : series buckets (e.registries window) (lookupDurationsWithin values.latencyTarget) = [] := by
    rw [series_eq_nil]
    intro scrapes _ labels hlabels
    rw [lookupDurationsWithin, ApplicationMetrics.exposed, if_neg h] at hlabels
    cases hlabels
  have hsub : ∀ seconds, (PromQL.Expression.sub (.sumRate lookupDurations) (.sumRate (lookupDurationsWithin values.latencyTarget))).eval
      seconds (series buckets (e.registries window)) = none := by
    intro seconds
    rw [PromQL.Expression.eval, PromQL.Expression.eval, PromQL.Expression.eval, hnone]
    exact Option.bind_fun_none _
  rw [badRatio, Slo.badRatio, RatioRule.sample, RatioRule.expression, RatioRule.numerator, PromQL.Expression.guardedRatio,
    PromQL.Expression.eval, PromQL.Expression.eval, PromQL.Expression.eval, hsub]
  exact ite_self none

variable (recorded : ∀ scrapes ∈ e.registries window, scrapes.Recorded)
  (errors : ∀ scrapes ∈ e.registries window,
    (scrapes.series buckets databaseErrors).sum ≤ (scrapes.series buckets databaseOperations).sum)
include recorded errors

theorem badRatio_eq (hmeasured : slo = .latency → values.latencyTarget ∈ buckets) :
    badRatio buckets values slo window e = if 0 < lookups buckets slo window e then
      some (badLookups buckets values slo window e / lookups buckets slo window e : ℚ) else none := by
  have tracks : (slo.badRatio window).Tracks buckets values.latencyTarget (e.registries window) := by
    cases slo with
    | availability =>
      -- No bucket takes part.
      have hany : (RatioRule.http5xxRatio window).Tracks [none] none (e.registries window) :=
        ((RatioRule.http5xxRatio window).tracks_iff_hits List.mem_cons_self recorded errors).mpr nofun
      exact ⟨hany.defined, hany.ratio⟩
    | latency => exact ((RatioRule.httpLatencyBadRatio window).tracks_iff_hits (hmeasured rfl) recorded errors).mpr nofun
  rw [badRatio]
  split
  · rename_i hgrew
    obtain ⟨x, hx⟩ := Option.isSome_iff_exists.mp (tracks.defined.mpr hgrew)
    rw [hx, (tracks.ratio x hx).1]
    rfl
  · rename_i hidle
    exact Option.not_isSome_iff_eq_none.mp fun h => hidle (tracks.defined.mp h)

theorem badLookups_le : badLookups buckets values slo window e ≤ lookups buckets slo window e :=
  (slo.badRatio window).numeratorGrowth_le recorded errors

omit errors recorded in
/-- The burn rate compared, in lookups. -/
private theorem lt_burn_iff {threshold bad all allowance : ℚ} (hall : 0 < all) (hallowance : 0 < allowance) :
    threshold < bad / all / allowance ↔ threshold * allowance * all < bad := by
  rw [lt_div_iff₀ hallowance, lt_div_iff₀ hall]

theorem burnRate_exceeds {self : BurnAlert} (hwindow : window ∈ [self.short, self.long])
    (hmeasured : self.slo = .latency → values.latencyTarget ∈ buckets) :
    (burnRate buckets values self.slo window e).any (self.threshold < ·) = true ↔ self.Exceeds buckets values window e := by
  have hrecorded : window ≠ .d7 := fun h => self.recorded (h ▸ hwindow)
  rw [burnRate, if_neg hrecorded, badRatio_eq recorded errors hmeasured]
  split
  · rename_i hgrew
    rw [Option.map_some, Option.any_some, decide_eq_true_iff]
    exact lt_burn_iff (Nat.cast_pos.mpr hgrew) (values.allowance_pos self.slo)
  · rename_i hidle
    have hall : lookups buckets self.slo window e = 0 := Nat.eq_zero_of_not_pos hidle
    have hbad : badLookups buckets values self.slo window e = 0 :=
      Nat.le_zero.mp ((badLookups_le recorded errors).trans_eq hall)
    rw [BurnAlert.Exceeds, hall, hbad, Nat.cast_zero, mul_zero]
    exact iff_of_false (by rintro ⟨⟩) (lt_irrefl 0)

/-- Where the budget burns faster than it lasts, more is bad than the objective allows. -/
theorem badRatio_gt {self : BurnAlert} (hthreshold : 1 ≤ self.threshold)
    (hmeasured : self.slo = .latency → values.latencyTarget ∈ buckets) (h : self.Exceeds buckets values window e) :
    ∃ x, badRatio buckets values self.slo window e = some x ∧ values.allowance self.slo < x := by
  have hratio := badRatio_eq recorded errors hmeasured
  have hallowance := values.allowance_pos self.slo
  have hmore : values.allowance self.slo * lookups buckets self.slo window e < badLookups buckets values self.slo window e := by
    refine lt_of_le_of_lt ?_ h
    rw [mul_assoc]
    exact le_mul_of_one_le_left (mul_nonneg hallowance.le (Nat.cast_nonneg _)) hthreshold
  have hbad : 0 < badLookups buckets values self.slo window e :=
    Nat.cast_pos.mp (lt_of_le_of_lt (mul_nonneg hallowance.le (Nat.cast_nonneg _)) hmore)
  have hgrew : 0 < lookups buckets self.slo window e := hbad.trans_le (badLookups_le recorded errors)
  exact ⟨_, by rw [hratio, if_pos hgrew], (lt_div_iff₀ (Nat.cast_pos.mpr hgrew)).mpr hmore⟩

omit errors recorded in
/-- An indicator that is recorded is then below the objective. -/
theorem sli_lt_target (hwindow : window ≠ .h6) {x : ℚ} (hx : badRatio buckets values slo window e = some x)
    (hmore : values.allowance slo < x) : ∃ y, sli buckets values slo window e = some y ∧ y < values.target slo := by
  refine ⟨1 - x, by rw [sli, if_neg hwindow, hx]; rfl, ?_⟩
  rw [SloValues.allowance] at hmore
  linarith

/-- A threshold of the whole traffic is not exceeded. -/
theorem not_exceeds {self : BurnAlert} (h : 1 ≤ self.threshold * values.allowance self.slo) :
    ¬ self.Exceeds buckets values window e := by
  have hle : (badLookups buckets values self.slo window e : ℚ) ≤ lookups buckets self.slo window e :=
    Nat.cast_le.mpr (badLookups_le recorded errors)
  exact not_lt.mpr (hle.trans (le_mul_of_one_le_left (Nat.cast_nonneg _) h))

end Samples

/-- What the week of an objective records. -/
structure BudgetAccounted (buckets : List (Option Int)) (values : SloValues) (slo : Slo) (e : Evaluation) : Prop where
  defined : (budgetRemainingRatio buckets values slo e).isSome = true ↔ 0 < lookups buckets slo .d7 e
  good : ∀ x, sli buckets values slo .d7 e = some x →
    x * lookups buckets slo .d7 e = lookups buckets slo .d7 e - badLookups buckets values slo .d7 e
  consumed : ∀ x, budgetConsumedRatio buckets values slo e = some x →
    x * (values.allowance slo * lookups buckets slo .d7 e) = badLookups buckets values slo .d7 e
  remaining : ∀ x, budgetRemainingRatio buckets values slo e = some x → 0 ≤ x ∧ x ≤ 1 ∧
    (x = 0 ↔ ∃ y, sli buckets values slo .d7 e = some y ∧ y ≤ values.target slo)

/-- A remainder of nothing is an indicator that is at its objective or below it. -/
private theorem remaining_eq_zero {bad target : ℚ} (h : target < 1) :
    max (1 - bad / (1 - target)) 0 = 0 ↔ 1 - bad ≤ target := by
  rw [max_eq_right_iff, sub_nonpos, one_le_div (sub_pos.mpr h)]
  constructor <;> intro h <;> linarith

theorem budgetAccounted {buckets : List (Option Int)} {values : SloValues} {slo : Slo} {e : Evaluation}
    (hmeasured : slo = .latency → values.latencyTarget ∈ buckets)
    (recorded : ∀ scrapes ∈ e.registries .d7, scrapes.Recorded)
    (errors : ∀ scrapes ∈ e.registries .d7,
      (scrapes.series buckets databaseErrors).sum ≤ (scrapes.series buckets databaseOperations).sum) :
    BudgetAccounted buckets values slo e := by
  have hratio := badRatio_eq recorded errors hmeasured
  have hallowance : 0 < 1 - values.target slo := values.allowance_pos slo
  rcases Nat.eq_zero_or_pos (lookups buckets slo .d7 e) with hidle | hgrew
  · rw [if_neg (by omega)] at hratio
    constructor
    · rw [budgetRemainingRatio, budgetConsumedRatio, hratio, hidle]
      exact iff_of_false (by rintro ⟨⟩) (lt_irrefl 0)
    · intro x hx
      rw [sli, if_neg (by decide), hratio] at hx
      cases hx
    · intro x hx
      rw [budgetConsumedRatio, hratio] at hx
      cases hx
    · intro x hx
      rw [budgetRemainingRatio, budgetConsumedRatio, hratio] at hx
      cases hx
  · rw [if_pos hgrew] at hratio
    have hall : (lookups buckets slo .d7 e : ℚ) ≠ 0 := Nat.cast_ne_zero.mpr hgrew.ne'
    have hsli : sli buckets values slo .d7 e =
        some (1 - badLookups buckets values slo .d7 e / lookups buckets slo .d7 e : ℚ) := by
      rw [sli, if_neg (by decide), hratio]
      rfl
    have hconsumed : budgetConsumedRatio buckets values slo e =
        some (badLookups buckets values slo .d7 e / lookups buckets slo .d7 e / (1 - values.target slo) : ℚ) := by
      rw [budgetConsumedRatio, hratio]
      rfl
    constructor
    · rw [budgetRemainingRatio, hconsumed]
      exact iff_of_true rfl hgrew
    · intro x hx
      rw [hsli, Option.some.injEq] at hx
      rw [← hx, sub_mul, div_mul_cancel₀ _ hall, one_mul]
    · intro x hx
      rw [hconsumed, Option.some.injEq] at hx
      rw [← hx, SloValues.allowance, ← mul_assoc, div_mul_cancel₀ _ hallowance.ne', div_mul_cancel₀ _ hall]
    · intro x hx
      rw [budgetRemainingRatio, hconsumed, Option.map_some, Option.some.injEq] at hx
      rw [← hx, hsli]
      refine ⟨le_max_right _ _, max_le (sub_le_self _ ?_) zero_le_one, ?_⟩
      · exact div_nonneg (div_nonneg (Nat.cast_nonneg _) (Nat.cast_nonneg _)) hallowance.le
      · rw [remaining_eq_zero (sub_pos.mp hallowance)]
        constructor
        · exact fun h => ⟨_, rfl, h⟩
        · rintro ⟨y, hy, hle⟩
          exact (Option.some.inj hy) ▸ hle

namespace BurnAlert
variable {self : BurnAlert} {buckets : List (Option Int)} {values : SloValues} {e : Evaluation}

theorem active_iff (recorded : ∀ window, ∀ scrapes ∈ e.registries window, scrapes.Recorded)
    (errors : ∀ window, ∀ scrapes ∈ e.registries window,
      (scrapes.series buckets databaseErrors).sum ≤ (scrapes.series buckets databaseOperations).sum) :
    self.active buckets values e = true ↔ self.Burning buckets values e := by
  rw [active, Bool.and_eq_true, Burning]
  by_cases hmeasured : self.slo = .latency → values.latencyTarget ∈ buckets
  · rw [burnRate_exceeds (recorded _) (errors _) (by simp) hmeasured, burnRate_exceeds (recorded _) (errors _) (by simp) hmeasured]
    exact (and_iff_right hmeasured).symm
  · have hslo : self.slo = .latency := by
      by_contra hslo
      exact hmeasured fun h => absurd h hslo
    refine iff_of_false (fun h => ?_) fun h => hmeasured h.1
    rw [burnRate, hslo, badRatio_unmeasured fun h => hmeasured fun _ => h, Option.map_none, ite_self] at h
    cases h.1

end BurnAlert
end IpCountryApi.Observability
