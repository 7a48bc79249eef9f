import IpCountryApi.Library.LabelledFamily

/-! The metrics of one application process. Durations are perf_counter differences
in nanoseconds. -/
namespace IpCountryApi.Observability
open Library

/-- The counter families of the registry. -/
inductive Counter where
  | httpRequests
  | lookups
  | providerRequests
  | providerErrors
  | databaseOperations
  | databaseErrors
  deriving DecidableEq, Repr

structure ApplicationMetrics where
  enabled : Bool
  httpRequests : Family (List String) Nat
  httpDuration : Family (List String) (List Int)
  lookups : Family (List String) Nat
  providerRequests : Family (List String) Nat
  providerDuration : Family (List String) (List Int)
  providerErrors : Family (List String) Nat
  databaseOperations : Family (List String) Nat
  databaseDuration : Family (List String) (List Int)
  databaseErrors : Family (List String) Nat
  buildInfo : Family (List String) Nat
  deriving DecidableEq

/-- One call of a method of ApplicationMetrics. -/
inductive MetricCall where
  | httpRequest (method route : String) (status : Nat) (duration : Int)
  | lookup (source result : String)
  | providerRequest (provider result : String) (duration : Int)
  | providerError (provider errorType : String)
  | databaseOperation (operation : String) (duration : Int)
  | databaseError (operation errorType : String)
  deriving DecidableEq, Repr

namespace ApplicationMetrics

def init (version : String) (enabled : Bool) : ApplicationMetrics where
  enabled := enabled
  httpRequests := .empty
  httpDuration := .empty
  lookups := .empty
  providerRequests := .empty
  providerDuration := .empty
  providerErrors := .empty
  databaseOperations := .empty
  databaseDuration := .empty
  databaseErrors := .empty
  buildInfo := Family.empty.update [version] 0 fun _ => 1

def httpRequest (self : ApplicationMetrics) (method route : String) (status : Nat) (duration : Int) :
    ApplicationMetrics :=
  if self.enabled then
    { self with
      httpRequests := self.httpRequests.inc [method, route, toString status]
      httpDuration := self.httpDuration.observe [method, route] duration }
  else self

def lookup (self : ApplicationMetrics) (source result : String) : ApplicationMetrics :=
  if self.enabled then { self with lookups := self.lookups.inc [source, result] } else self

def providerRequest (self : ApplicationMetrics) (provider result : String) (duration : Int) :
    ApplicationMetrics :=
  if self.enabled then
    { self with
      providerRequests := self.providerRequests.inc [provider, result]
      providerDuration := self.providerDuration.observe [provider] duration }
  else self

def providerError (self : ApplicationMetrics) (provider errorType : String) : ApplicationMetrics :=
  if self.enabled then { self with providerErrors := self.providerErrors.inc [provider, errorType] }
  else self

def databaseOperation (self : ApplicationMetrics) (operation : String) (duration : Int) :
    ApplicationMetrics :=
  if self.enabled then
    { self with
      databaseOperations := self.databaseOperations.inc [operation]
      databaseDuration := self.databaseDuration.observe [operation] duration }
  else self

def databaseError (self : ApplicationMetrics) (operation errorType : String) : ApplicationMetrics :=
  if self.enabled then { self with databaseErrors := self.databaseErrors.inc [operation, errorType] }
  else self

def record (self : ApplicationMetrics) : MetricCall → ApplicationMetrics
  | .httpRequest method route status duration => self.httpRequest method route status duration
  | .lookup source result => self.lookup source result
  | .providerRequest provider result duration => self.providerRequest provider result duration
  | .providerError provider errorType => self.providerError provider errorType
  | .databaseOperation operation duration => self.databaseOperation operation duration
  | .databaseError operation errorType => self.databaseError operation errorType

/-- The calls of a history, newest first. -/
def recordAll (self : ApplicationMetrics) (calls : List MetricCall) : ApplicationMetrics :=
  calls.foldr (fun call m => m.record call) self

def counter (self : ApplicationMetrics) : Counter → Family (List String) Nat
  | .httpRequests => self.httpRequests
  | .lookups => self.lookups
  | .providerRequests => self.providerRequests
  | .providerErrors => self.providerErrors
  | .databaseOperations => self.databaseOperations
  | .databaseErrors => self.databaseErrors

/-- Every label tuple in the registry. -/
def labelTuples (self : ApplicationMetrics) : List (List String) :=
  self.httpRequests.labels ++ self.httpDuration.labels ++ self.lookups.labels ++
    self.providerRequests.labels ++ self.providerDuration.labels ++ self.providerErrors.labels ++
    self.databaseOperations.labels ++ self.databaseDuration.labels ++ self.databaseErrors.labels ++
    self.buildInfo.labels

end ApplicationMetrics

namespace MetricCall

/-- The counter a call increments. -/
def counter : MetricCall → Counter
  | httpRequest .. => .httpRequests
  | lookup .. => .lookups
  | providerRequest .. => .providerRequests
  | providerError .. => .providerErrors
  | databaseOperation .. => .databaseOperations
  | databaseError .. => .databaseErrors

/-- The labels under which it is incremented. -/
def labels : MetricCall → List String
  | httpRequest method route status _ => [method, route, toString status]
  | lookup source result => [source, result]
  | providerRequest provider result _ => [provider, result]
  | providerError provider errorType => [provider, errorType]
  | databaseOperation operation _ => [operation]
  | databaseError operation errorType => [operation, errorType]

/-- The labels of the histogram a call feeds, if it feeds one. -/
def observed : MetricCall → List (List String)
  | httpRequest method route _ _ => [[method, route]]
  | lookup _ _ => []
  | providerRequest provider _ _ => [[provider]]
  | providerError _ _ => []
  | databaseOperation operation _ => [[operation]]
  | databaseError _ _ => []

/-- The call increments counter k under labels that satisfy p. -/
def counts (k : Counter) (p : List String → Bool) (call : MetricCall) : Bool :=
  call.counter = k && p call.labels

/-- The label at a position has the value. -/
def labelled (position : Nat) (value : String) (labels : List String) : Bool := labels[position]? = some value

end MetricCall

namespace ApplicationMetrics
variable (m : ApplicationMetrics) (call : MetricCall)

@[simp] theorem enabled_record : (m.record call).enabled = m.enabled := by
  cases call <;> simp only [record, httpRequest, lookup, providerRequest, providerError,
    databaseOperation, databaseError] <;> split <;> rfl

/-- Each call increments its own counter, under its own labels, and no other. -/
theorem sumOver_record (k : Counter) (p : List String → Bool) :
    ((m.record call).counter k).sumOver p =
      (m.counter k).sumOver p + if m.enabled && call.counts k p then 1 else 0 := by
  cases he : m.enabled
  · cases call <;> simp [record, httpRequest, lookup, providerRequest, providerError,
      databaseOperation, databaseError, he]
  · cases call <;> cases k <;> simp [record, httpRequest, lookup, providerRequest, providerError,
      databaseOperation, databaseError, he, counter, MetricCall.counts, MetricCall.counter,
      MetricCall.labels, Family.sumOver_inc]

@[simp] theorem enabled_recordAll (calls : List MetricCall) : (m.recordAll calls).enabled = m.enabled := by
  induction calls with
  | nil => rfl
  | cons call calls ih => exact (enabled_record _ _).trans ih

theorem sumOver_recordAll (he : m.enabled = true) (calls : List MetricCall) (k : Counter) (p : List String → Bool) :
    ((m.recordAll calls).counter k).sumOver p = (m.counter k).sumOver p + calls.countP (·.counts k p) := by
  induction calls with
  | nil => rfl
  | cons call calls ih =>
    have hstep := sumOver_record (m.recordAll calls) call k p
    rw [enabled_recordAll, he, ih, Bool.true_and] at hstep
    rw [List.countP_cons, ← Nat.add_assoc]
    exact hstep

theorem mem_labelTuples_record {labels : List String} (h : labels ∈ (m.record call).labelTuples) :
    labels ∈ m.labelTuples ∨ labels = call.labels ∨ labels ∈ call.observed := by
  cases he : m.enabled
  · cases call <;> simp_all [record, httpRequest, lookup, providerRequest, providerError,
      databaseOperation, databaseError]
  · cases call <;> simp only [record, httpRequest, lookup, providerRequest, providerError,
      databaseOperation, databaseError, he, if_true, labelTuples, List.mem_append,
      Family.mem_labels_inc, Family.mem_labels_observe, MetricCall.labels, MetricCall.observed,
      List.mem_singleton] at h ⊢ <;> grind

@[simp] theorem sumOver_init (version : String) (enabled : Bool) (k : Counter) (p : List String → Bool) :
    ((init version enabled).counter k).sumOver p = 0 := by
  cases k <;> rfl

theorem mem_labelTuples_init {version : String} {enabled : Bool} {labels : List String} :
    labels ∈ (init version enabled).labelTuples ↔ labels = [version] := by
  simp [init, labelTuples, Family.mem_labels_update]

end ApplicationMetrics
end IpCountryApi.Observability
