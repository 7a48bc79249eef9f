import IpCountryApi.Library.PromQL
import IpCountryApi.Observability.Metrics
import Mathlib.Algebra.Order.BigOperators.Group.List

/-! The ratios among the recording rules, over the registries that were scraped at the two
ends of a window. -/
namespace IpCountryApi.Observability
open Library PromQL

/-- What the exposition calls a metric. The bound of a bucket is in nanoseconds; the last
bucket has none. -/
inductive Metric where
  | counter (k : Counter)
  | httpDurationCount
  | httpDurationBucket (le : Option Int)
  deriving DecidableEq, Repr

/-- An observation counts in every bucket whose bound it does not exceed. -/
def within (le : Option Int) (duration : Int) : Bool := le.all fun bound => duration ≤ bound

/-- The labels and the duration that a call adds to the histogram of the requests. -/
def MetricCall.httpObservation : MetricCall → Option (List String × Int)
  | .httpRequest method route _ duration => some ([method, route], duration)
  | _ => none

/-- The series under a name. The buckets are those of the histogram. -/
def ApplicationMetrics.exposed (buckets : List (Option Int)) (self : ApplicationMetrics) :
    Metric → Family (List String) Nat
  | .counter k => self.counter k
  | .httpDurationCount => self.httpDuration.mapValues List.length
  | .httpDurationBucket le =>
    if le ∈ buckets then self.httpDuration.mapValues fun durations => durations.countP (within le) else .empty

structure Selector where
  metric : Metric
  keeps : List String → Bool

/-- The two scrapes of one registry. -/
structure Scrapes where
  before : ApplicationMetrics
  after : ApplicationMetrics

def Scrapes.series (buckets : List (Option Int)) (self : Scrapes) (selector : Selector) : List Nat :=
  (self.after.exposed buckets selector.metric).growths (self.before.exposed buckets selector.metric) selector.keeps

/-- The selected series of all registries in the namespace of the release. -/
def series (buckets : List (Option Int)) (registries : List Scrapes) (selector : Selector) : List Nat :=
  registries.flatMap fun scrapes => scrapes.series buckets selector

inductive Window where
  | m5
  | h1
  | h6
  | h24
  | d7
  deriving DecidableEq, Repr

def Window.seconds : Window → Nat
  | m5 => 300
  | h1 => 3600
  | h6 => 21600
  | h24 => 86400
  | d7 => 604800

/-! The selectors of the rules. -/

def route : String := "/api/v1/lookups"

/-- status_code=~"5.." -/
def serverErrorStatus (status : String) : Bool := status.toList.length = 3 && status.toList.head? = some '5'

def lookupRequests : Selector := ⟨.counter .httpRequests, MetricCall.labelled 1 route⟩

def lookupRequests5xx : Selector :=
  ⟨.counter .httpRequests, fun labels => MetricCall.labelled 1 route labels && labels[2]?.any serverErrorStatus⟩

def lookupDurations : Selector := ⟨.httpDurationCount, MetricCall.labelled 1 route⟩

def lookupDurationsWithin (le : Option Int) : Selector := ⟨.httpDurationBucket le, MetricCall.labelled 1 route⟩

def successfulLookups : Selector := ⟨.counter .lookups, MetricCall.labelled 1 "success"⟩

def databaseHits : Selector :=
  ⟨.counter .lookups, fun labels => MetricCall.labelled 0 "database" labels && MetricCall.labelled 1 "success" labels⟩

def databaseErrors : Selector := ⟨.counter .databaseErrors, fun _ => true⟩

def databaseOperations : Selector := ⟨.counter .databaseOperations, fun _ => true⟩

inductive RatioRule where
  | http5xxRatio (window : Window)
  | httpLatencyBadRatio (window : Window)
  | cacheHitRatio
  | databaseErrorRatio
  deriving DecidableEq, Repr

namespace RatioRule

def window : RatioRule → Window
  | http5xxRatio window | httpLatencyBadRatio window => window
  | cacheHitRatio | databaseErrorRatio => .m5

/-- The series whose growth is the traffic of a rule. -/
def denominator : RatioRule → Selector
  | http5xxRatio _ => lookupRequests
  | httpLatencyBadRatio _ => lookupDurations
  | cacheHitRatio => successfulLookups
  | databaseErrorRatio => databaseOperations

/-- The hits of the cache are the only numerator that is not filled up with zero. -/
def numerator (target : Option Int) : RatioRule → Expression Selector
  | http5xxRatio _ => .rateOrZero lookupRequests5xx
  | httpLatencyBadRatio _ => .clampMin (.sub (.sumRate lookupDurations) (.sumRate (lookupDurationsWithin target))) 0
  | cacheHitRatio => .sumRate databaseHits
  | databaseErrorRatio => .rateOrZero databaseErrors

def expression (target : Option Int) (rule : RatioRule) : Expression Selector :=
  .guardedRatio (1 / 1000000000000) (rule.numerator target) rule.denominator

section Samples
variable (buckets : List (Option Int)) (target : Option Int) (registries : List Scrapes) (rule : RatioRule)

/-- What the rule records at the end of its window. -/
def sample : Option ℚ := (rule.expression target).eval rule.window.seconds (series buckets registries)

def denominatorGrowth : Nat := (series buckets registries rule.denominator).sum

/-- A numerator whose series do not exist has not grown. -/
def numeratorGrowth : Nat :=
  match rule with
  | http5xxRatio _ => (series buckets registries lookupRequests5xx).sum
  | httpLatencyBadRatio _ =>
    (series buckets registries lookupDurations).sum - (series buckets registries (lookupDurationsWithin target)).sum
  | cacheHitRatio => (series buckets registries databaseHits).sum
  | databaseErrorRatio => (series buckets registries databaseErrors).sum

/-- The rule records a sample exactly if its denominator grew, namely the ratio of the
growths, between 0 and 1. -/
structure Tracks : Prop where
  defined : (rule.sample buckets target registries).isSome = true ↔ 0 < rule.denominatorGrowth buckets registries
  ratio : ∀ x, rule.sample buckets target registries = some x →
    x = rule.numeratorGrowth buckets target registries / rule.denominatorGrowth buckets registries ∧ 0 ≤ x ∧ x ≤ 1

end Samples
end RatioRule

/-! What metric calls add to the selected series. -/

/-- The call adds one to a series that the selector picks. -/
def MetricCall.feeds (buckets : List (Option Int)) (selector : Selector) (call : MetricCall) : Bool :=
  match selector.metric with
  | .counter k => call.counts k selector.keeps
  | .httpDurationCount => call.httpObservation.any fun observed => selector.keeps observed.1
  | .httpDurationBucket le =>
    le ∈ buckets && call.httpObservation.any fun observed => selector.keeps observed.1 && within le observed.2

variable {buckets : List (Option Int)} {selector : Selector} {m : ApplicationMetrics} {call : MetricCall}

namespace ApplicationMetrics

theorem record_of_disabled (hm : m.enabled = false) : m.record call = m := by
  cases call <;> simp [record, httpRequest, lookup, providerRequest, providerError, databaseOperation, databaseError, hm]

theorem httpDuration_record (hm : m.enabled = true) : (m.record call).httpDuration =
    call.httpObservation.elim m.httpDuration fun observed => m.httpDuration.observe observed.1 observed.2 := by
  cases call <;> simp [record, httpRequest, lookup, providerRequest, providerError, databaseOperation, databaseError,
    hm, MetricCall.httpObservation]

/-- The observations that satisfy q, one series for each label tuple. -/
private theorem sumOver_durations (hm : m.enabled = true) (q : Int → Bool) (keeps : List String → Bool) :
    ((m.record call).httpDuration.mapValues (List.countP q)).sumOver keeps =
      (m.httpDuration.mapValues (List.countP q)).sumOver keeps +
        if call.httpObservation.any fun observed => keeps observed.1 && q observed.2 then 1 else 0 := by
  rw [httpDuration_record hm]
  cases call.httpObservation with
  | none => rfl
  | some observed =>
    rw [Option.elim_some, Family.countP_observe, Family.sumOver_add, Option.any_some]
    cases keeps observed.1 <;> rfl

theorem exposed_durationCount :
    m.exposed buckets .httpDurationCount = m.httpDuration.mapValues (List.countP fun _ => true) := by
  rw [exposed]
  congr 1
  exact List.countP_true.symm

theorem sumOver_exposed_record (buckets : List (Option Int)) (selector : Selector) (hm : m.enabled = true)
    (call : MetricCall) : ((m.record call).exposed buckets selector.metric).sumOver selector.keeps =
    (m.exposed buckets selector.metric).sumOver selector.keeps + if call.feeds buckets selector then 1 else 0 := by
  rw [MetricCall.feeds]
  cases selector.metric with
  | counter k =>
    have hstep := sumOver_record m call k selector.keeps
    rwa [hm, Bool.true_and] at hstep
  | httpDurationCount =>
    rw [exposed_durationCount, exposed_durationCount, sumOver_durations hm]
    simp only [Bool.and_true]
  | httpDurationBucket le =>
    by_cases hle : le ∈ buckets
    · simp only [exposed, if_pos hle, decide_eq_true hle, Bool.true_and]
      exact sumOver_durations hm (within le) selector.keeps
    · simp only [exposed, if_neg hle, decide_eq_false hle, Bool.false_and]
      rfl

theorem sumOver_exposed_recordAll (buckets : List (Option Int)) (selector : Selector) (hm : m.enabled = true)
    (calls : List MetricCall) :
    ((m.recordAll calls).exposed buckets selector.metric).sumOver selector.keeps =
      (m.exposed buckets selector.metric).sumOver selector.keeps + calls.countP (·.feeds buckets selector) := by
  induction calls with
  | nil => rfl
  | cons call calls ih =>
    have hstep := sumOver_exposed_record buckets selector ((enabled_recordAll m calls).trans hm) call
    rw [List.countP_cons, ← Nat.add_assoc, ← ih]
    exact hstep

theorem recordAll_of_disabled (hm : m.enabled = false) (calls : List MetricCall) : m.recordAll calls = m := by
  induction calls with
  | nil => rfl
  | cons call calls ih => exact (congrArg (·.record call) ih).trans (record_of_disabled hm)

/-- No series ever falls. -/
theorem exposed_le (calls : List MetricCall) (metric : Metric) (labels : List String) :
    (m.exposed buckets metric).value labels ≤ ((m.recordAll calls).exposed buckets metric).value labels := by
  cases hm : m.enabled with
  | false => rw [recordAll_of_disabled hm]
  | true =>
    rw [Family.value_eq_sumOver, Family.value_eq_sumOver]
    exact (Nat.le_add_right _ _).trans_eq (sumOver_exposed_recordAll buckets ⟨metric, (· = labels)⟩ hm calls).symm

end ApplicationMetrics

/-- Between the scrapes the registry has only seen metric calls. -/
def Scrapes.Recorded (self : Scrapes) : Prop := ∃ calls, self.after = self.before.recordAll calls

namespace Scrapes
variable {scrapes : Scrapes} {calls : List MetricCall}

theorem Recorded.growth (h : scrapes.Recorded) (buckets : List (Option Int)) (selector : Selector) :
    (scrapes.series buckets selector).sum + (scrapes.before.exposed buckets selector.metric).sumOver selector.keeps =
      (scrapes.after.exposed buckets selector.metric).sumOver selector.keeps := by
  obtain ⟨calls, h⟩ := h
  apply Family.sum_growths
  intro labels
  rw [h]
  exact ApplicationMetrics.exposed_le calls selector.metric labels

/-- The growth of the selected series is the number of calls that feed them. -/
theorem sum_series (h : scrapes.after = scrapes.before.recordAll calls) : (scrapes.series buckets selector).sum =
    if scrapes.before.enabled then calls.countP (·.feeds buckets selector) else 0 := by
  have hgrowth := Recorded.growth ⟨calls, h⟩ buckets selector
  rw [h] at hgrowth
  cases hm : scrapes.before.enabled with
  | false =>
    rw [ApplicationMetrics.recordAll_of_disabled hm] at hgrowth
    simpa using hgrowth
  | true =>
    rw [ApplicationMetrics.sumOver_exposed_recordAll buckets selector hm] at hgrowth
    rw [if_pos rfl]
    omega

/-- Series that every call feeds together with others grow no faster than the others. -/
theorem Recorded.sum_series_le {other : Selector} (h : scrapes.Recorded)
    (hfeeds : ∀ call : MetricCall, call.feeds buckets selector = true → call.feeds buckets other = true) :
    (scrapes.series buckets selector).sum ≤ (scrapes.series buckets other).sum := by
  obtain ⟨calls, h⟩ := h
  rw [sum_series h, sum_series h]
  split
  · exact List.countP_mono_left fun call _ => hfeeds call
  · exact le_rfl

end Scrapes

section Registries
variable {registries : List Scrapes} {other : Selector}

theorem sum_series : (series buckets registries selector).sum =
    (registries.map fun scrapes => (scrapes.series buckets selector).sum).sum := by
  rw [series, List.flatMap, List.sum_flatten, List.map_map]
  rfl

theorem sum_series_le (h : ∀ scrapes ∈ registries,
      (scrapes.series buckets selector).sum ≤ (scrapes.series buckets other).sum) :
    (series buckets registries selector).sum ≤ (series buckets registries other).sum := by
  rw [sum_series, sum_series]
  exact List.sum_le_sum h

theorem series_eq_nil : series buckets registries selector = [] ↔
    ∀ scrapes ∈ registries, ∀ labels ∈ (scrapes.after.exposed buckets selector.metric).labels, selector.keeps labels = false := by
  rw [series, List.flatMap_eq_nil_iff]
  exact forall₂_congr fun _ _ => Family.growths_eq_nil

end Registries

/-! The values of the rules. -/

section Values
variable {registries : List Scrapes} {target : Option Int}

private theorem counted_narrower {k : Counter} {keeps keeps' : List String → Bool}
    (h : ∀ labels, keeps labels = true → keeps' labels = true) (call : MetricCall)
    (hfeeds : call.feeds buckets ⟨.counter k, keeps⟩ = true) : call.feeds buckets ⟨.counter k, keeps'⟩ = true := by
  obtain ⟨hk, hkeeps⟩ := (Bool.and_eq_true _ _).mp hfeeds
  exact (Bool.and_eq_true _ _).mpr ⟨hk, h _ hkeeps⟩

/-- A bucket is part of all observations. -/
private theorem bucket_narrower (call : MetricCall) (hfeeds : call.feeds buckets (lookupDurationsWithin target) = true) :
    call.feeds buckets lookupDurations = true := by
  have hobserved := ((Bool.and_eq_true _ _).mp hfeeds).2
  show call.httpObservation.any _ = true
  generalize call.httpObservation = observation at hobserved ⊢
  cases observation with
  | none => exact hobserved
  | some observed => exact ((Bool.and_eq_true _ _).mp hobserved).1

/-- The series of the bucket exist as soon as those of the histogram do. -/
private theorem bucket_exists (htarget : target ∈ buckets) (h : series buckets registries lookupDurations ≠ []) :
    series buckets registries (lookupDurationsWithin target) ≠ [] := by
  intro hnone
  apply h
  rw [series_eq_nil] at hnone ⊢
  intro scrapes hscrapes labels hlabels
  apply hnone scrapes hscrapes labels
  rw [lookupDurationsWithin, ApplicationMetrics.exposed, if_pos htarget, Family.labels_mapValues]
  rwa [lookupDurations, ApplicationMetrics.exposed, Family.labels_mapValues] at hlabels

/-- The numerator of the latency rule is the rate of the requests over the target. -/
private theorem eval_latency (htarget : target ∈ buckets) (recorded : ∀ scrapes ∈ registries, scrapes.Recorded)
    {seconds : Nat} (h : series buckets registries lookupDurations ≠ []) :
    (Expression.clampMin (.sub (.sumRate lookupDurations) (.sumRate (lookupDurationsWithin target))) 0).eval seconds
        (series buckets registries) =
      some (((series buckets registries lookupDurations).sum -
        (series buckets registries (lookupDurationsWithin target)).sum : Nat) / seconds : ℚ) := by
  have hle : (series buckets registries (lookupDurationsWithin target)).sum ≤ (series buckets registries lookupDurations).sum :=
    sum_series_le fun scrapes hs => (recorded scrapes hs).sum_series_le bucket_narrower
  rw [Expression.eval, Expression.eval, Expression.eval_sumRate h, Expression.eval_sumRate (bucket_exists htarget h),
    Option.bind_some, Option.map_some, Option.map_some, ← sub_div, ← Nat.cast_sub hle]
  exact congrArg some (max_eq_left (div_nonneg (Nat.cast_nonneg _) (Nat.cast_nonneg _)))

namespace RatioRule
variable (rule : RatioRule)

theorem seconds_pos (window : Window) : 0 < window.seconds := by
  cases window <;> decide

/-- In no window is the rate of a single event below the clamp. -/
private theorem clamp_le (window : Window) : (1 / 1000000000000 : ℚ) ≤ 1 / window.seconds := by
  cases window <;> norm_num [Window.seconds]

/-- The sample is the ratio whenever the numerator has a value. -/
private theorem sample_of_numerator (h : 0 < rule.denominatorGrowth buckets registries →
      (rule.numerator target).eval rule.window.seconds (series buckets registries) =
        some (rule.numeratorGrowth buckets target registries / rule.window.seconds : ℚ)) :
    rule.sample buckets target registries = if 0 < rule.denominatorGrowth buckets registries then
      some (rule.numeratorGrowth buckets target registries / rule.denominatorGrowth buckets registries : ℚ) else none :=
  Expression.eval_guardedRatio_of_rate (seconds_pos rule.window) (clamp_le rule.window) h

/-- Only the hits of the cache may leave a numerator without a value. -/
private theorem sample_eq (htarget : target ∈ buckets) (recorded : ∀ scrapes ∈ registries, scrapes.Recorded)
    (hhits : rule = cacheHitRatio → 0 < rule.denominatorGrowth buckets registries →
      series buckets registries databaseHits ≠ []) :
    rule.sample buckets target registries = if 0 < rule.denominatorGrowth buckets registries then
      some (rule.numeratorGrowth buckets target registries / rule.denominatorGrowth buckets registries : ℚ) else none := by
  apply sample_of_numerator
  intro hgrew
  cases rule with
  | http5xxRatio window => exact Expression.eval_rateOrZero
  | databaseErrorRatio => exact Expression.eval_rateOrZero
  | cacheHitRatio => exact Expression.eval_sumRate (hhits rfl hgrew)
  | httpLatencyBadRatio window =>
    apply eval_latency htarget recorded
    intro hnone
    rw [denominatorGrowth, denominator, hnone] at hgrew
    exact absurd hgrew (lt_irrefl 0)

theorem numeratorGrowth_le (recorded : ∀ scrapes ∈ registries, scrapes.Recorded)
    (herrors : ∀ scrapes ∈ registries,
      (scrapes.series buckets databaseErrors).sum ≤ (scrapes.series buckets databaseOperations).sum) :
    rule.numeratorGrowth buckets target registries ≤ rule.denominatorGrowth buckets registries := by
  have narrower : ∀ {k keeps keeps'}, (∀ labels, keeps labels = true → keeps' labels = true) →
      (series buckets registries ⟨.counter k, keeps⟩).sum ≤ (series buckets registries ⟨.counter k, keeps'⟩).sum :=
    fun h => sum_series_le fun scrapes hs => (recorded scrapes hs).sum_series_le (counted_narrower h)
  cases rule with
  | http5xxRatio window => exact narrower fun _ h => ((Bool.and_eq_true _ _).mp h).1
  | httpLatencyBadRatio window => exact Nat.sub_le _ _
  | cacheHitRatio => exact narrower fun _ h => ((Bool.and_eq_true _ _).mp h).2
  | databaseErrorRatio => exact sum_series_le herrors

/-- A rule whose numerator cannot outgrow its denominator is right exactly if it records
their ratio whenever there is one. -/
private theorem tracks_iff (hle : rule.numeratorGrowth buckets target registries ≤ rule.denominatorGrowth buckets registries) :
    rule.Tracks buckets target registries ↔
      rule.sample buckets target registries = if 0 < rule.denominatorGrowth buckets registries then
        some (rule.numeratorGrowth buckets target registries / rule.denominatorGrowth buckets registries : ℚ) else none := by
  constructor
  · intro ⟨defined, ratio⟩
    split
    · rename_i hgrew
      obtain ⟨x, hx⟩ := Option.isSome_iff_exists.mp (defined.mpr hgrew)
      rw [hx, (ratio x hx).1]
    · rename_i hidle
      exact Option.not_isSome_iff_eq_none.mp fun h => hidle (defined.mp h)
  · intro h
    constructor
    · rw [h]
      split <;> simp_all
    · intro x hx
      rw [h] at hx
      split at hx
      · cases hx
        refine ⟨rfl, div_nonneg (Nat.cast_nonneg _) (Nat.cast_nonneg _), ?_⟩
        exact div_le_one_of_le₀ (Nat.cast_le.mpr hle) (Nat.cast_nonneg _)
      · cases hx

/-- Every rule tracks its ratio, but for the cache hits before the first of them. -/
theorem tracks_iff_hits (htarget : target ∈ buckets) (recorded : ∀ scrapes ∈ registries, scrapes.Recorded)
    (herrors : ∀ scrapes ∈ registries,
      (scrapes.series buckets databaseErrors).sum ≤ (scrapes.series buckets databaseOperations).sum) :
    rule.Tracks buckets target registries ↔
      (rule = cacheHitRatio → 0 < rule.denominatorGrowth buckets registries →
        ∃ scrapes ∈ registries, ∃ labels ∈ scrapes.after.lookups.labels, databaseHits.keeps labels = true) := by
  have exists_iff : series buckets registries databaseHits ≠ [] ↔
      ∃ scrapes ∈ registries, ∃ labels ∈ scrapes.after.lookups.labels, databaseHits.keeps labels = true := by
    rw [Ne, series_eq_nil]
    push Not
    simp only [Bool.not_eq_false]
    rfl
  rw [tracks_iff rule (rule.numeratorGrowth_le recorded herrors), ← exists_iff]
  constructor
  · intro h hrule hgrew hnone
    subst hrule
    rw [if_pos hgrew, sample, expression, Expression.eval_guardedRatio (clamp_le _)] at h
    rw [denominatorGrowth] at hgrew
    rw [if_pos hgrew, numerator, Expression.eval, PromQL.sum, if_pos hnone] at h
    cases h
  · exact rule.sample_eq htarget recorded

end RatioRule
end Values
end IpCountryApi.Observability
