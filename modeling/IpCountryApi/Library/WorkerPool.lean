import IpCountryApi.Library.Interleaving

/-! A pool of workers that runs numbered jobs in the order of their submission, and the
results in that order. -/
namespace IpCountryApi.Library
open Relation

/-- Job i is the i-th one submitted. -/
structure Pool (Q : Type) (R : Q → Type) (ε α W : Type) where
  system : System Q R ε α Nat W
  size : Nat
  workers : Nat

variable {Q : Type} {R : Q → Type} {ε α J W : Type}

def Task.outcome? (t : Task Q R ε α J) : Option (Except ε α) :=
  match t.residual with
  | .done x => some x
  | .ask _ _ => none

theorem Task.outcome?_eq_some {t : Task Q R ε α J} {x : Except ε α} : t.outcome? = some x ↔ t.Finished x := by
  unfold Task.outcome? Task.Finished
  split
  · rename_i y hy
    rw [hy, Option.some.injEq, Coro.done.injEq]
  · rename_i q k hq
    simp [hq]

def Task.isRunning (t : Task Q R ε α J) : Bool := t.outcome?.isNone

/-- Results as they are asked for one after another: nothing while one is missing, and
nothing but the exception from the first one that raised. -/
def gather : List (Option (Except ε α)) → Option (Except ε (List α))
  | [] => some (.ok [])
  | none :: _ => none
  | some (.error e) :: _ => some (.error e)
  | some (.ok a) :: rest => (gather rest).map (·.map (a :: ·))

theorem gather_eq_ok {outcomes : List (Option (Except ε α))} {results : List α} :
    gather outcomes = some (.ok results) ↔ outcomes = results.map fun a => some (.ok a) := by
  induction outcomes generalizing results with
  | nil => cases results <;> simp [gather]
  | cons outcome rest ih =>
    match outcome with
    | none => cases results <;> simp [gather]
    | some (.error e) => cases results <;> simp [gather]
    | some (.ok a) =>
      rw [gather]
      constructor
      · intro h
        obtain ⟨x, hx, he⟩ := Option.map_eq_some_iff.mp h
        cases x with
        | error e => cases he
        | ok tail =>
          cases he
          rw [ih.mp hx, List.map_cons]
      · intro h
        cases results with
        | nil => cases h
        | cons b tail =>
          simp only [List.map_cons, List.cons.injEq, Option.some.injEq, Except.ok.injEq] at h
          rw [ih.mpr h.2, h.1]
          rfl

/-- The exception is that of the first job that raised, not of the first that came to it. -/
theorem gather_eq_error {outcomes : List (Option (Except ε α))} {e : ε} :
    gather outcomes = some (.error e) ↔
      ∃ i : Nat, outcomes[i]? = some (some (.error e)) ∧ ∀ j : Nat, j < i → ∃ a, outcomes[j]? = some (some (.ok a)) := by
  induction outcomes with
  | nil => simp [gather]
  | cons outcome rest ih =>
    match outcome with
    | none =>
      refine iff_of_false (by simp [gather]) ?_
      rintro ⟨i, hi, hbefore⟩
      cases i with
      | zero => simp at hi
      | succ i => simpa using hbefore 0 (Nat.succ_pos i)
    | some (.error e') =>
      constructor
      · intro h
        cases h
        exact ⟨0, rfl, fun j hj => absurd hj (Nat.not_lt_zero j)⟩
      · rintro ⟨i, hi, hbefore⟩
        cases i with
        | zero =>
          simp only [List.getElem?_cons_zero, Option.some.injEq, Except.error.injEq] at hi
          rw [gather, hi]
        | succ i => simpa using hbefore 0 (Nat.succ_pos i)
    | some (.ok a) =>
      rw [gather]
      constructor
      · intro h
        obtain ⟨x, hx, he⟩ := Option.map_eq_some_iff.mp h
        cases x with
        | ok tail => cases he
        | error e' =>
          cases he
          obtain ⟨i, hi, hbefore⟩ := ih.mp hx
          refine ⟨i + 1, hi, fun j hj => ?_⟩
          cases j with
          | zero => exact ⟨a, rfl⟩
          | succ j => exact hbefore j (by omega)
      · rintro ⟨i, hi, hbefore⟩
        cases i with
        | zero => simp at hi
        | succ i =>
          rw [ih.mpr ⟨i, hi, fun j hj => hbefore (j + 1) (by omega)⟩]
          rfl

theorem isSome_gather {outcomes : List (Option (Except ε α))} (h : ∀ outcome ∈ outcomes, outcome.isSome = true) :
    (gather outcomes).isSome = true := by
  induction outcomes with
  | nil => rfl
  | cons outcome rest ih =>
    have hrest := ih fun o ho => h o (List.mem_cons_of_mem _ ho)
    match outcome, h outcome List.mem_cons_self with
    | some (.error e), _ => rfl
    | some (.ok a), _ =>
      rw [gather, Option.isSome_map]
      exact hrest

namespace Pool
variable (P : Pool Q R ε α W)

def running (c : Config Q R ε α Nat W) : Nat := c.tasks.countP Task.isRunning

/-- A free worker takes the next job, or a running job gets a reply. -/
inductive Step : Config Q R ε α Nat W → Config Q R ε α Nat W → Prop
  | start (c : Config Q R ε α Nat W) (submitted : c.tasks.length < P.size) (free : running c < P.workers) :
      Step c (P.system.launch c c.tasks.length)
  | answer (c : Config Q R ε α Nat W) (i j : Nat) (q : Q) (k : R q → Coro Q R ε α) (h : History Q R) (r : R q)
      (waiting : c.tasks[i]? = some ⟨j, .ask q k, h⟩) (enabled : P.system.enabled c.world i j ⟨q, r⟩) :
      Step c (P.system.answer c i j q k h r)

def Reachable (w : W) (c : Config Q R ε α Nat W) : Prop := ReflTransGen P.Step ⟨w, []⟩ c

/-- What asking for the results one after another gives. -/
def results (c : Config Q R ε α Nat W) : Option (Except ε (List α)) :=
  gather ((List.range P.size).map fun i => c.tasks[i]?.bind Task.outcome?)

variable {P} {w : W} {c c' : Config Q R ε α Nat W}

theorem Step.system (hs : P.Step c c') : P.system.Step c c' := by
  cases hs with
  | start => exact .launch _ _
  | answer i j q k h r waiting enabled => exact .answer _ i j q k h r waiting enabled

theorem Reachable.system (hc : P.Reachable w c) : P.system.Reachable w c := by
  induction hc with
  | refl => exact .refl
  | tail _ hs ih => exact ih.tail hs.system

/-- Jobs are started in order, each once. -/
theorem Reachable.jobs (hc : P.Reachable w c) :
    c.tasks.length ≤ P.size ∧ ∀ (i : Nat) t, c.tasks[i]? = some t → t.job = i := by
  induction hc with
  | refl => exact ⟨Nat.zero_le _, fun i t ht => by simp at ht⟩
  | tail _ hs ih =>
    cases hs with
    | start submitted free =>
      refine ⟨by simpa [System.launch] using Nat.succ_le_of_lt submitted, fun i t ht => ?_⟩
      rcases System.launch_getElem? _ _ i t ht with ht | ⟨rfl, rfl⟩
      · exact ih.2 i t ht
      · rfl
    | answer i j q k h r waiting enabled =>
      refine ⟨by simpa [System.answer] using ih.1, fun n t ht => ?_⟩
      rcases System.answer_getElem? waiting n t ht with ⟨rfl, rfl⟩ | ⟨_, ht⟩
      · exact ih.2 n ⟨j, .ask q k, h⟩ waiting
      · exact ih.2 n t ht

private theorem countP_set_le {l : List (Task Q R ε α Nat)} {i : Nat} {t t' : Task Q R ε α Nat} (hi : l[i]? = some t)
    (ht : t.isRunning = true) : (l.set i t').countP Task.isRunning ≤ l.countP Task.isRunning := by
  obtain ⟨hlt, rfl⟩ := List.getElem?_eq_some_iff.mp hi
  have hpos : 0 < l.countP Task.isRunning := List.countP_pos_iff.mpr ⟨l[i], List.getElem_mem hlt, ht⟩
  rw [List.countP_set hlt, if_pos ht]
  split <;> omega

/-- No more jobs run at a time than there are workers. -/
theorem Reachable.running_le (hc : P.Reachable w c) : running c ≤ P.workers := by
  induction hc with
  | refl => exact Nat.zero_le _
  | tail _ hs ih =>
    cases hs with
    | start submitted free =>
      rw [running, System.launch, List.countP_append]
      exact (Nat.add_le_add_left List.countP_le_length _).trans free
    | answer i j q k h r waiting enabled => exact (countP_set_le waiting rfl).trans ih

/-- As long as not all jobs are over, the pool can go on, if every query can be answered. -/
theorem progress (workers : 0 < P.workers) (answers : ∀ w i j q, ∃ r, P.system.enabled w i j ⟨q, r⟩)
    (c : Config Q R ε α Nat W) : (c.tasks.length ≥ P.size ∧ c.Quiescent) ∨ ∃ c', P.Step c c' := by
  by_cases hidle : ∀ t ∈ c.tasks, t.isRunning = false
  · rcases Nat.lt_or_ge c.tasks.length P.size with hlt | hge
    · have hnone : running c = 0 := List.countP_eq_zero.mpr fun t ht => by simp [hidle t ht]
      exact .inr ⟨_, .start c hlt (by omega)⟩
    · refine .inl ⟨hge, fun t ht => ?_⟩
      obtain ⟨x, hx⟩ := Option.isSome_iff_exists.mp (by simpa [Task.isRunning] using hidle t ht)
      exact ⟨x, Task.outcome?_eq_some.mp hx⟩
  · push Not at hidle
    obtain ⟨⟨j, residual, h⟩, ht, hrunning⟩ := hidle
    obtain ⟨i, hi⟩ := List.mem_iff_getElem?.mp ht
    cases residual with
    | done x => simp [Task.isRunning, Task.outcome?] at hrunning
    | ask q k =>
      obtain ⟨r, enabled⟩ := answers c.world i j q
      exact .inr ⟨_, .answer c i j q k h r hi enabled⟩

/-- All results, in the order of the jobs. -/
theorem results_eq_ok {l : List α} : P.results c = some (.ok l) ↔
    l.length = P.size ∧ ∀ (i : Nat) a, l[i]? = some a → ∃ t, c.tasks[i]? = some t ∧ t.Finished (.ok a) := by
  rw [results, gather_eq_ok]
  constructor
  · intro h
    have hlength : l.length = P.size := by simpa using (congrArg List.length h).symm
    refine ⟨hlength, fun i a ha => ?_⟩
    obtain ⟨hi, _⟩ := List.getElem?_eq_some_iff.mp ha
    have hget := congrArg (·[i]?) h
    simp only [List.getElem?_map, List.getElem?_range (hlength ▸ hi), ha, Option.map_some, Option.some.injEq] at hget
    obtain ⟨t, ht, hx⟩ := Option.bind_eq_some_iff.mp hget
    exact ⟨t, ht, Task.outcome?_eq_some.mp hx⟩
  · rintro ⟨hlength, h⟩
    apply List.ext_getElem?
    intro i
    rcases Nat.lt_or_ge i P.size with hi | hi
    · have ha := List.getElem?_eq_getElem (hlength.symm ▸ hi : i < l.length)
      obtain ⟨t, ht, hx⟩ := h i _ ha
      rw [List.getElem?_map, List.getElem?_map, List.getElem?_range hi, ha]
      simp [ht, Task.outcome?_eq_some.mpr hx]
    · rw [List.getElem?_eq_none (by simpa using hi), List.getElem?_eq_none (by simpa [hlength] using hi)]

/-- The exception of the first job in order that raised one. -/
theorem results_eq_error {e : ε} : P.results c = some (.error e) ↔
    ∃ i < P.size, (∃ t, c.tasks[i]? = some t ∧ t.Finished (.error e)) ∧
      ∀ j < i, ∃ t a, c.tasks[j]? = some t ∧ t.Finished (.ok a) := by
  have read : ∀ {i x}, ((List.range P.size).map fun i => c.tasks[i]?.bind Task.outcome?)[i]? = some (some x) ↔
      i < P.size ∧ ∃ t, c.tasks[i]? = some t ∧ t.Finished x := by
    intro i x
    rcases Nat.lt_or_ge i P.size with hi | hi
    · simp [Option.bind_eq_some_iff, Task.outcome?_eq_some, hi]
    · rw [List.getElem?_eq_none (by simpa using hi)]
      simp [Nat.not_lt.mpr hi]
  rw [results, gather_eq_error]
  simp only [read]
  constructor
  · rintro ⟨i, ⟨hi, ht⟩, hbefore⟩
    exact ⟨i, hi, ht, fun j hj => (hbefore j hj).elim fun a h => ⟨h.2.choose, a, h.2.choose_spec⟩⟩
  · rintro ⟨i, hi, ht, hbefore⟩
    refine ⟨i, ⟨hi, ht⟩, fun j hj => ?_⟩
    obtain ⟨t, a, h⟩ := hbefore j hj
    exact ⟨a, by omega, t, h⟩

/-- Once all jobs are over, there is an answer. -/
theorem isSome_results (hall : c.tasks.length = P.size) (hidle : c.Quiescent) : (P.results c).isSome = true := by
  apply isSome_gather
  intro outcome houtcome
  obtain ⟨i, hi, rfl⟩ := List.mem_map.mp houtcome
  rw [List.mem_range, ← hall] at hi
  obtain ⟨x, hx⟩ := hidle _ (List.getElem_mem hi)
  rw [List.getElem?_eq_getElem hi, Option.bind_some, Task.outcome?_eq_some.mpr hx]
  rfl

/-! Runs computed from a list of moves. -/

/-- The next job starts, or job i takes a reply to whatever it is waiting for. -/
inductive Move (Q : Type) (R : Q → Type) where
  | start
  | reply (i : Nat) (answer : (q : Q) → Option (R q))

/-- A move that is not possible ends the run without a result. -/
def play (P : Pool Q R ε α W) [∀ w i j e, Decidable (P.system.enabled w i j e)] (c : Config Q R ε α Nat W) :
    List (Move Q R) → Option (Config Q R ε α Nat W)
  | [] => some c
  | .start :: moves =>
    if c.tasks.length < P.size ∧ running c < P.workers then play P (P.system.launch c c.tasks.length) moves else none
  | .reply i answer :: moves =>
    match c.tasks[i]? with
    | some ⟨j, .ask q k, h⟩ =>
      match answer q with
      | none => none
      | some r => if P.system.enabled c.world i j ⟨q, r⟩ then play P (P.system.answer c i j q k h r) moves else none
    | _ => none

theorem play_steps [∀ w i j e, Decidable (P.system.enabled w i j e)] {moves : List (Move Q R)}
    (h : P.play c moves = some c') : ReflTransGen P.Step c c' := by
  fun_induction play P c moves with
  | case1 c =>
    cases h
    exact .refl
  | case2 c moves hstart ih => exact .head (.start c hstart.1 hstart.2) (ih h)
  | case3 => cases h
  | case4 => cases h
  | case5 c i answer moves j q k past waiting r _ enabled ih => exact .head (.answer c i j q k past r waiting enabled) (ih h)
  | case6 => cases h
  | case7 => cases h

/-- A played run reaches a configuration with the property its end was checked for. -/
theorem play_reaches (P : Pool Q R ε α W) [∀ w i j e, Decidable (P.system.enabled w i j e)] (w : W)
    (moves : List (Move Q R)) (p : Config Q R ε α Nat W → Bool) (h : (P.play ⟨w, []⟩ moves).any p = true) :
    ∃ c, P.Reachable w c ∧ p c = true := by
  obtain ⟨c, hplay, hp⟩ := (Option.any_eq_true _ _).mp h
  exact ⟨c, play_steps hplay, hp⟩

end Pool
end IpCountryApi.Library
