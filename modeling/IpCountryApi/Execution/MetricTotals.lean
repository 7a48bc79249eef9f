import IpCountryApi.Execution.Deployment

/-! What the counters of a replica add up to in every run of a deployment. -/
namespace IpCountryApi.Execution
open Library Domain Observability

/-- What one reply to a task adds to a counter of the replica, if it counts, under labels in p. -/
def callWeight {J : Type} (replicaOf : J → Nat) (replica : Nat) (enabled : Bool) (k : Counter)
    (p : List String → Bool) (j : J) (e : Answered) : Nat :=
  if enabled = true ∧ replicaOf j = replica then ([e].filterMap metricCall).countP (·.counts k p) else 0

variable {α J : Type} {T : InetType} {allows : World T → Answered → Prop} {program : J → Prog α}
  {replicaOf : J → Nat} {w : World T} {c : Config Query Reply Exn α J (World T)} {replica : Nat} {enabled : Bool}
  {k : Counter} {p : List String → Bool}

theorem tally_callWeight (t : Task Query Reply Exn α J) : t.tally (callWeight replicaOf replica enabled k p) =
    if enabled = true ∧ replicaOf t.job = replica then (t.history.filterMap metricCall).countP (·.counts k p) else 0 := by
  obtain ⟨j, residual, h⟩ := t
  rw [Task.tally]
  induction h with
  | nil => simp
  | cons e h ih =>
    rw [List.map_cons, List.sum_cons, ih, callWeight, ← List.singleton_append, List.filterMap_append, List.countP_append]
    split <;> rfl

theorem metrics_enabled_eq (hc : (deployment T allows program replicaOf).Reachable w c) :
    (c.world.metrics replica).enabled = (w.metrics replica).enabled := by
  refine hc.invariant (I := fun c => (c.world.metrics replica).enabled = (w.metrics replica).enabled) rfl
    fun c c' _ ih hs => ?_
  cases hs with
  | launch j => exact ih
  | answer i j q k h r _ _ => exact (c.world.after_enabled i (replicaOf j) ⟨q, r⟩ replica).trans ih

/-- A registry only ever sees metric calls. -/
theorem metrics_recorded {b : Config Query Reply Exn α J (World T)} (hs : (deployment T allows program replicaOf).Steps b c) :
    ∃ calls, c.world.metrics replica = (b.world.metrics replica).recordAll calls := by
  induction hs with
  | refl => exact ⟨[], rfl⟩
  | @tail c c' _ hs ih =>
    obtain ⟨calls, hcalls⟩ := ih
    cases hs with
    | launch j => exact ⟨calls, hcalls⟩
    | answer i j q k h r _ _ =>
      have hafter := c.world.after_metrics i (replicaOf j) ⟨q, r⟩ replica
      cases hcall : metricCall ⟨q, r⟩ with
      | none =>
        simp only [hcall] at hafter
        exact ⟨calls, hafter.trans hcalls⟩
      | some call =>
        simp only [hcall] at hafter
        by_cases hreplica : replica = replicaOf j
        · rw [if_pos hreplica, hcalls] at hafter
          exact ⟨call :: calls, hafter⟩
        · rw [if_neg hreplica] at hafter
          exact ⟨calls, hafter.trans hcalls⟩

/-- Every metric call is counted once, by the replica that made it. -/
private theorem after_counter {i : Nat} {j : J} {e : Answered} :
    (((w.after i (replicaOf j) e).metrics replica).counter k).sumOver p =
      ((w.metrics replica).counter k).sumOver p + callWeight replicaOf replica (w.metrics replica).enabled k p j e := by
  rw [World.after_metrics, callWeight]
  cases hcall : metricCall e with
  | none => simp [hcall]
  | some call =>
    by_cases hr : replica = replicaOf j
    · subst hr
      cases he : (w.metrics (replicaOf j)).enabled <;> simp [hcall, ApplicationMetrics.sumOver_record, he, List.countP_cons]
    · simp [hr, Ne.symm hr]

/-- The counters of a replica are the metric calls of its tasks. -/
theorem counter_tally {version : String} (hm : w.metrics replica = .init version enabled)
    (hc : (deployment T allows program replicaOf).Reachable w c) :
    ((c.world.metrics replica).counter k).sumOver p = c.tally (callWeight replicaOf replica enabled k p) := by
  have he : (w.metrics replica).enabled = enabled := by rw [hm, ApplicationMetrics.init]
  have htally := hc.tally_eq (m := fun w => ((w.metrics replica).counter k).sumOver p) fun c i j e hc =>
    (metrics_enabled_eq hc).trans he ▸ after_counter
  rwa [hm, ApplicationMetrics.sumOver_init, Nat.zero_add] at htally

end IpCountryApi.Execution
