import IpCountryApi.Library.Interleaving
import IpCountryApi.Execution.CacheTable

/-! What the running tasks share: the cache table, the clock, the metrics of each
replica and the context of each task. -/
namespace IpCountryApi.Execution
open Library Domain Observability

variable {T : InetType}

structure World (T : InetType) where
  table : List (Row T)
  time : Int
  metrics : Nat → ApplicationMetrics
  context : Nat → Option String

namespace World
variable (w : World T) (i replica : Nat)

def start (T : InetType) (version : String) (enabled : Bool) : World T :=
  ⟨[], 0, fun _ => .init version enabled, fun _ => none⟩

/-- The replies a query can get in this world; failures are always possible. -/
def Offers : Answered → Prop
  | ⟨.contextGet, value⟩ => value = w.context i
  | ⟨.contextSet _, token⟩ => token = w.context i
  | ⟨.scrape, metrics⟩ => metrics = w.metrics replica
  | ⟨.scalar key, .ok loaded⟩ => Row.selects w.table key loaded = true
  | ⟨.execute st, .ok _⟩ => st.Admitted T
  | _ => True

instance (e : Answered) : Decidable (w.Offers i replica e) :=
  match e with
  | ⟨.contextGet, value⟩ => inferInstanceAs (Decidable (value = w.context i))
  | ⟨.contextSet _, token⟩ => inferInstanceAs (Decidable (token = w.context i))
  | ⟨.scrape, metrics⟩ => inferInstanceAs (Decidable (metrics = w.metrics replica))
  | ⟨.scalar key, .ok loaded⟩ => inferInstanceAs (Decidable (Row.selects w.table key loaded = true))
  | ⟨.execute st, .ok _⟩ => inferInstanceAs (Decidable (st.Admitted T))
  | ⟨.scalar _, .error _⟩ | ⟨.execute _, .error _⟩ => .isTrue trivial
  | ⟨.clock, _⟩ | ⟨.now, _⟩ | ⟨.perfCounter, _⟩ | ⟨.timestamp, _⟩ | ⟨.uuid4, _⟩ | ⟨.contextReset _, _⟩
  | ⟨.metric _, _⟩ | ⟨.print _, _⟩ | ⟨.commit _, _⟩ | ⟨.provider _, _⟩ | ⟨.clientGet _ _, _⟩
  | ⟨.sleep _, _⟩ | ⟨.readinessProbe, _⟩ | ⟨.template _, _⟩ | ⟨.staticFile _ _, _⟩ | ⟨.send _, _⟩ =>
    .isTrue trivial

def after : Answered → World T
  | ⟨.clock, t⟩ => { w with time := t }
  | ⟨.now, t⟩ => { w with time := t }
  | ⟨.contextSet value, _⟩ => { w with context := Function.update w.context i (some value) }
  | ⟨.contextReset token, _⟩ => { w with context := Function.update w.context i token }
  | ⟨.metric call, _⟩ =>
    { w with metrics := Function.update w.metrics replica ((w.metrics replica).record call) }
  | ⟨.commit st, .ok _⟩ => { w with table := st.write w.table }
  | _ => w

/-- Only a metric call changes metrics, and only those of its own replica. -/
theorem after_metrics (e : Answered) (ρ : Nat) : (w.after i replica e).metrics ρ =
    match metricCall e with
    | some call => if ρ = replica then (w.metrics ρ).record call else w.metrics ρ
    | none => w.metrics ρ := by
  obtain ⟨q, r⟩ := e
  cases q with
  | metric call =>
    simp only [after, metricCall, Function.update_apply]
    split
    · rename_i he
      rw [he]
    · rfl
  | commit st => cases r <;> rfl
  | _ => rfl

theorem after_enabled (e : Answered) (ρ : Nat) :
    ((w.after i replica e).metrics ρ).enabled = (w.metrics ρ).enabled := by
  rw [after_metrics]
  split
  · split
    · exact ApplicationMetrics.enabled_record ..
    · rfl
  · rfl

/-- Only a successful commit changes the table. -/
def written (e : Answered) (table : List (Row T)) : List (Row T) :=
  match e with
  | ⟨.commit st, .ok _⟩ => st.write table
  | _ => table

theorem after_table (e : Answered) : (w.after i replica e).table = written e w.table := by
  obtain ⟨q, r⟩ := e
  cases q with
  | commit st => cases r <;> rfl
  | _ => rfl

theorem written_cases (e : Answered) (table : List (Row T)) :
    written e table = table ∨ ∃ st, e = ⟨.commit st, .ok ()⟩ ∧ written e table = st.write table := by
  obtain ⟨q, r⟩ := e
  cases q with
  | commit st =>
    cases r with
    | error f => exact .inl rfl
    | ok u => exact .inr ⟨st, rfl, rfl⟩
  | _ => exact .inl rfl

/-- The reading a clock query gets. -/
def reading : Answered → Option Int
  | ⟨.clock, t⟩ => some t
  | ⟨.now, t⟩ => some t
  | _ => none

theorem after_time (e : Answered) : (w.after i replica e).time = (reading e).getD w.time := by
  obtain ⟨q, r⟩ := e
  cases q with
  | commit st => cases r <;> rfl
  | _ => rfl

/-- All replicas read one clock that never goes back. -/
def ClockForward (e : Answered) : Prop := ∀ t, reading e = some t → w.time ≤ t

instance (e : Answered) : Decidable (w.ClockForward e) :=
  match h : reading e with
  | none => .isTrue fun t ht => by rw [h] at ht; cases ht
  | some t => decidable_of_iff (w.time ≤ t) ⟨fun hle t' ht => by rw [h] at ht; cases ht; exact hle, fun hf => hf t h⟩

end World

/-- Replicas of a program over one database. What the libraries and the environment may
answer beyond the shared state is a parameter. -/
def deployment {α J : Type} (T : InetType) (allows : World T → Answered → Prop) (program : J → Prog α)
    (replica : J → Nat) : System Query Reply Exn α J (World T) where
  program := program
  enabled w i j e := allows w e ∧ w.Offers i (replica j) e
  apply w i j e := w.after i (replica j) e

instance {α J : Type} (T : InetType) (allows : World T → Answered → Prop) [∀ w e, Decidable (allows w e)]
    (program : J → Prog α) (replica : J → Nat) (w : World T) (i : Nat) (j : J) (e : Answered) :
    Decidable ((deployment T allows program replica).enabled w i j e) :=
  inferInstanceAs (Decidable (allows w e ∧ w.Offers i (replica j) e))

end IpCountryApi.Execution
