import Mathlib.Data.List.Sort
import Mathlib.Data.List.TakeWhile

/-! Alerting rules: a condition that is evaluated again and again, and an alert that fires once
the condition has held for a given time. -/
namespace IpCountryApi.Library

/-- The state of an alert, with the time its condition began to hold. -/
inductive Alert where
  | inactive
  | pending (activeAt : Nat)
  | firing (activeAt : Nat)
  deriving DecidableEq, Repr

namespace Alert

def isFiring : Alert → Bool
  | firing _ => true
  | _ => false

/-- The condition holds now. -/
def hold (duration now : Nat) : Alert → Alert
  | inactive => if duration ≤ 0 then .firing now else .pending now
  | pending activeAt => if duration ≤ now - activeAt then .firing activeAt else .pending activeAt
  | firing activeAt => .firing activeAt

end Alert

/-- Of every evaluation, a rule reads the time and the condition. -/
structure AlertingRule (E : Type) where
  time : E → Nat
  active : E → Bool
  holdDuration : Nat

namespace AlertingRule
variable {E : Type} (rule : AlertingRule E)

def step (alert : Alert) (e : E) : Alert := if rule.active e then alert.hold rule.holdDuration (rule.time e) else .inactive

/-- The alert after the given evaluations, newest first. -/
def after : List E → Alert
  | [] => .inactive
  | e :: older => rule.step (after older) e

/-- The evaluations since the condition began to hold. -/
def streak (evaluations : List E) : List E := evaluations.takeWhile rule.active

/-- The condition holds now, and has held at all evaluations since one that is long enough ago. -/
def Sustained (newest : E) (older : List E) : Prop :=
  ∃ e ∈ rule.streak (newest :: older), rule.time e + rule.holdDuration ≤ rule.time newest

/-- What an alert says about the evaluations so far. -/
def Reflects (evaluations : List E) : Alert → Prop
  | .inactive => rule.streak evaluations = []
  | .pending activeAt => ∃ first, (rule.streak evaluations).getLast? = some first ∧ rule.time first = activeAt ∧
      ∀ newest ∈ evaluations.head?, rule.time newest < activeAt + rule.holdDuration
  | .firing activeAt => ∃ first, (rule.streak evaluations).getLast? = some first ∧ rule.time first = activeAt ∧
      ∀ newest ∈ evaluations.head?, activeAt + rule.holdDuration ≤ rule.time newest

/-- Time does not go back from one evaluation to the next. -/
def Ordered (evaluations : List E) : Prop := evaluations.Pairwise fun newer older => rule.time older ≤ rule.time newer

variable {rule} {e : E} {older : List E}

theorem streak_active (h : rule.active e = true) : rule.streak (e :: older) = e :: rule.streak older := by
  rw [streak, List.takeWhile_cons_of_pos h]
  rfl

theorem streak_inactive (h : rule.active e = false) : rule.streak (e :: older) = [] := by
  rw [streak, List.takeWhile_cons_of_neg (by rw [h]; decide)]

/-- The streak began with the same evaluation as before. -/
theorem getLast?_streak (h : rule.active e = true) {first : E} (hfirst : (rule.streak older).getLast? = some first) :
    (rule.streak (e :: older)).getLast? = some first := by
  rw [streak_active h, List.getLast?_cons, hfirst]
  rfl

private theorem head_le (ordered : rule.Ordered (e :: older)) {newest : E} (h : newest ∈ older.head?) :
    rule.time newest ≤ rule.time e :=
  List.rel_of_pairwise_cons ordered (List.mem_of_mem_head? h)

/-- One evaluation. -/
theorem reflects_step (ordered : rule.Ordered (e :: older)) {alert : Alert} (h : rule.Reflects older alert) :
    rule.Reflects (e :: older) (rule.step alert e) := by
  rw [step]
  cases hactive : rule.active e with
  | false => exact streak_inactive hactive
  | true =>
    rw [if_pos rfl]
    cases alert with
    | inactive =>
      have hfirst : (rule.streak (e :: older)).getLast? = some e := by
        rw [streak_active hactive, show rule.streak older = [] from h]
        rfl
      rw [Alert.hold]
      split
      · refine ⟨e, hfirst, rfl, fun newest hnewest => ?_⟩
        cases hnewest
        omega
      · refine ⟨e, hfirst, rfl, fun newest hnewest => ?_⟩
        cases hnewest
        omega
    | pending activeAt =>
      obtain ⟨first, hfirst, htime, -⟩ := h
      have hle : rule.time first ≤ rule.time e :=
        List.rel_of_pairwise_cons ordered ((List.takeWhile_sublist _).subset (List.mem_of_getLast? hfirst))
      rw [Alert.hold]
      split
      · refine ⟨first, getLast?_streak hactive hfirst, htime, fun newest hnewest => ?_⟩
        cases hnewest
        omega
      · refine ⟨first, getLast?_streak hactive hfirst, htime, fun newest hnewest => ?_⟩
        cases hnewest
        omega
    | firing activeAt =>
      obtain ⟨first, hfirst, htime, hlong⟩ := h
      refine ⟨first, getLast?_streak hactive hfirst, htime, fun newest hnewest => ?_⟩
      cases hnewest
      -- An alert that fires has been evaluated before.
      obtain ⟨newest, hnewest⟩ : ∃ newest, newest ∈ older.head? := by
        cases older with
        | nil => cases hfirst
        | cons newest older => exact ⟨newest, rfl⟩
      exact (hlong newest hnewest).trans (head_le ordered hnewest)

/-- Any number of evaluations. -/
theorem reflects_after {evaluations : List E} (ordered : rule.Ordered evaluations) :
    rule.Reflects evaluations (rule.after evaluations) := by
  induction evaluations with
  | nil => exact rfl
  | cons e older ih => exact reflects_step ordered (ih (List.Pairwise.of_cons ordered))

/-- No evaluation of a streak is older than the one it began with. -/
private theorem first_le {evaluations : List E} (ordered : rule.Ordered evaluations) {first : E}
    (hfirst : (rule.streak evaluations).getLast? = some first) (he : e ∈ rule.streak evaluations) :
    rule.time first ≤ rule.time e := by
  have hstreak : (rule.streak evaluations).Pairwise fun newer older => rule.time older ≤ rule.time newer :=
    List.Pairwise.sublist (List.takeWhile_sublist _) ordered
  obtain ⟨front, hfront⟩ := List.getLast?_eq_some_iff.mp hfirst
  rw [hfront] at hstreak he
  rcases List.mem_append.mp he with he | he
  · exact (List.pairwise_append.mp hstreak).2.2 e he first List.mem_cons_self
  · exact (List.mem_singleton.mp he ▸ le_rfl)

/-- What is newer than a part of the streak belongs to it. -/
theorem mem_streak_of_newer {evaluations : List E} (ordered : rule.Ordered evaluations) {e' : E}
    (he : e ∈ rule.streak evaluations) (he' : e' ∈ evaluations) (hnewer : rule.time e < rule.time e') :
    e' ∈ rule.streak evaluations := by
  have hsplit : rule.streak evaluations ++ evaluations.dropWhile rule.active = evaluations := List.takeWhile_append_dropWhile
  rw [Ordered, ← hsplit] at ordered
  rw [← hsplit] at he'
  rcases List.mem_append.mp he' with he' | he'
  · exact he'
  · exact absurd ((List.pairwise_append.mp ordered).2.2 e he e' he') (not_le.mpr hnewer)

theorem active_of_mem_streak {evaluations : List E} (he : e ∈ rule.streak evaluations) : rule.active e = true :=
  List.mem_takeWhile_imp he

/-- An alert fires exactly if its condition is sustained. -/
theorem isFiring_iff {newest : E} (ordered : rule.Ordered (newest :: older)) :
    (rule.after (newest :: older)).isFiring = true ↔ rule.Sustained newest older := by
  have h := reflects_after ordered
  generalize rule.after (newest :: older) = alert at h
  constructor
  · intro hfiring
    cases alert with
    | firing activeAt =>
      obtain ⟨first, hfirst, rfl, hlong⟩ := h
      exact ⟨first, List.mem_of_getLast? hfirst, hlong newest rfl⟩
    | _ => cases hfiring
  · rintro ⟨e, he, hlong⟩
    cases alert with
    | firing activeAt => rfl
    | pending activeAt =>
      obtain ⟨first, hfirst, rfl, hshort⟩ := h
      have hle := first_le ordered hfirst he
      have hlt := hshort newest rfl
      omega
    | inactive =>
      rw [show rule.streak (newest :: older) = [] from h] at he
      cases he

/-- A condition that never holds. -/
theorem not_isFiring {evaluations : List E} (h : ∀ e ∈ evaluations, rule.active e = false) :
    (rule.after evaluations).isFiring = false := by
  cases evaluations with
  | nil => rfl
  | cons e older =>
    rw [after, step, h e List.mem_cons_self]
    rfl

/-- The streak, for a condition that agrees on the evaluations. -/
theorem streak_congr {active : E → Bool} {evaluations : List E} (h : ∀ e ∈ evaluations, rule.active e = active e) :
    rule.streak evaluations = evaluations.takeWhile active := by
  induction evaluations with
  | nil => rfl
  | cons e older ih =>
    rw [streak, List.takeWhile_cons, List.takeWhile_cons, h e List.mem_cons_self, ← ih fun e he => h e (.tail _ he)]
    rfl

end AlertingRule
end IpCountryApi.Library
