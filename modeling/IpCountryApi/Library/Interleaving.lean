import IpCountryApi.Library.Coroutine
import Mathlib.Logic.Relation
import Mathlib.Algebra.Order.BigOperators.Group.List
import Mathlib.Algebra.Order.Group.Nat
import Mathlib.Algebra.GroupWithZero.Nat
import Mathlib.Data.List.GetD

/-! Any number of suspendable programs over one shared world, interleaved at
single queries, with the rules that lift per-program contracts to whole runs. -/
namespace IpCountryApi.Library
open Relation

/-- Jobs start programs; the world says which replies it can give to task i and
what answering does to it. -/
structure System (Q : Type) (R : Q → Type) (ε α J W : Type) where
  program : J → Coro Q R ε α
  enabled : W → Nat → J → Event Q R → Prop
  apply : W → Nat → J → Event Q R → W

structure Task (Q : Type) (R : Q → Type) (ε α J : Type) where
  job : J
  residual : Coro Q R ε α
  history : History Q R

structure Config (Q : Type) (R : Q → Type) (ε α J W : Type) where
  world : W
  tasks : List (Task Q R ε α J)

variable {Q : Type} {R : Q → Type} {ε α J W : Type}

def Task.Finished (t : Task Q R ε α J) (x : Except ε α) : Prop := t.residual = .done x

/-- No task is waiting for a reply. -/
def Config.Quiescent (c : Config Q R ε α J W) : Prop := ∀ t ∈ c.tasks, ∃ x, t.Finished x

namespace System
variable (S : System Q R ε α J W)

def launch (c : Config Q R ε α J W) (j : J) : Config Q R ε α J W :=
  ⟨c.world, c.tasks ++ [⟨j, S.program j, []⟩]⟩

def answer (c : Config Q R ε α J W) (i : Nat) (j : J) (q : Q) (k : R q → Coro Q R ε α)
    (h : History Q R) (r : R q) : Config Q R ε α J W :=
  ⟨S.apply c.world i j ⟨q, r⟩, c.tasks.set i ⟨j, k r, ⟨q, r⟩ :: h⟩⟩

/-- One launch, or one reply to one waiting task. -/
inductive Step : Config Q R ε α J W → Config Q R ε α J W → Prop
  | launch (c : Config Q R ε α J W) (j : J) : Step c (S.launch c j)
  | answer (c : Config Q R ε α J W) (i : Nat) (j : J) (q : Q) (k : R q → Coro Q R ε α)
      (h : History Q R) (r : R q) (waiting : c.tasks[i]? = some ⟨j, .ask q k, h⟩)
      (enabled : S.enabled c.world i j ⟨q, r⟩) : Step c (S.answer c i j q k h r)

abbrev Steps := ReflTransGen S.Step

def Reachable (w : W) (c : Config Q R ε α J W) : Prop := S.Steps ⟨w, []⟩ c

variable {S} {w : W} {c c' : Config Q R ε α J W}

theorem Reachable.start : S.Reachable w ⟨w, []⟩ := .refl
theorem Reachable.tail (hc : S.Reachable w c) (hs : S.Step c c') : S.Reachable w c' :=
  ReflTransGen.tail hc hs
theorem Reachable.trans (hc : S.Reachable w c) (hs : S.Steps c c') : S.Reachable w c' :=
  ReflTransGen.trans hc hs

/-- The invariant rule: a fact of the start kept by every step out of a reachable
configuration holds in every reachable configuration. -/
theorem Reachable.invariant {I : Config Q R ε α J W → Prop} (hc : S.Reachable w c)
    (start : I ⟨w, []⟩) (step : ∀ c c', S.Reachable w c → I c → S.Step c c' → I c') : I c := by
  induction hc with
  | refl => exact start
  | tail hc hs ih => exact step _ _ hc ih hs

/-- A task after a launch. -/
theorem launch_getElem? (c : Config Q R ε α J W) (j : J) (i : Nat) (t : Task Q R ε α J)
    (ht : (S.launch c j).tasks[i]? = some t) :
    c.tasks[i]? = some t ∨ (i = c.tasks.length ∧ t = ⟨j, S.program j, []⟩) := by
  rw [launch, List.getElem?_append] at ht
  split at ht
  · exact .inl ht
  · rename_i hi
    rcases Nat.lt_or_ge c.tasks.length i with hlt | hle
    · rw [List.getElem?_eq_none (by simp; omega)] at ht
      cases ht
    · have he : i = c.tasks.length := by omega
      simp only [he, Nat.sub_self, List.getElem?_cons_zero, Option.some.injEq] at ht
      exact .inr ⟨he, ht.symm⟩

/-- A task after a reply. -/
theorem answer_getElem? {i : Nat} {j : J} {q : Q} {k : R q → Coro Q R ε α} {h : History Q R}
    {r : R q} (waiting : c.tasks[i]? = some ⟨j, .ask q k, h⟩) (n : Nat) (t : Task Q R ε α J)
    (ht : (S.answer c i j q k h r).tasks[n]? = some t) :
    (n = i ∧ t = ⟨j, k r, ⟨q, r⟩ :: h⟩) ∨ (n ≠ i ∧ c.tasks[n]? = some t) := by
  obtain ⟨hi, _⟩ := List.getElem?_eq_some_iff.mp waiting
  by_cases he : n = i
  · subst n
    rw [answer, List.getElem?_set_self hi] at ht
    exact .inl ⟨rfl, (Option.some.inj ht).symm⟩
  · rw [answer, List.getElem?_set_ne (Ne.symm he)] at ht
    exact .inr ⟨he, ht⟩

/-- Per-program contracts hold of every task of every reachable configuration,
provided the world only gives replies the contracts rely on to the queries they guarantee. -/
theorem Reachable.meets {C : J → Contract Q R} {post : J → History Q R → Except ε α → Prop}
    (program : ∀ j, Meets (C j) (S.program j) [] (post j))
    (relied : ∀ c i j q k h r, S.Reachable w c → c.tasks[i]? = some ⟨j, .ask q k, h⟩ →
      S.enabled c.world i j ⟨q, r⟩ → (C j).sees q = true → (C j).guar ((C j).seen h) q →
      (C j).rely ((C j).seen h) ⟨q, r⟩)
    (hc : S.Reachable w c) (i : Nat) (t : Task Q R ε α J) (ht : c.tasks[i]? = some t) :
    Meets (C t.job) t.residual ((C t.job).seen t.history) (post t.job) := by
  refine hc.invariant (I := fun c => ∀ i t, c.tasks[i]? = some t →
    Meets (C t.job) t.residual ((C t.job).seen t.history) (post t.job)) ?_ ?_ i t ht
  · intro i t ht
    simp at ht
  · intro c c' hc ih hs n t ht
    cases hs with
    | launch j =>
      rcases launch_getElem? c j n t ht with ht | ⟨_, rfl⟩
      · exact ih n t ht
      · exact program j
    | answer i j q k h r waiting enabled =>
      rcases answer_getElem? waiting n t ht with ⟨_, rfl⟩ | ⟨_, ht⟩
      · rw [Contract.seen_cons]
        obtain ⟨guar, rest⟩ := ih i _ waiting
        exact rest r fun hq => relied c i j q k h r hc waiting enabled hq (guar hq)
      · exact ih n t ht

/-- The postcondition of a finished task. -/
theorem Reachable.finished {C : J → Contract Q R} {post : J → History Q R → Except ε α → Prop}
    (program : ∀ j, Meets (C j) (S.program j) [] (post j))
    (relied : ∀ c i j q k h r, S.Reachable w c → c.tasks[i]? = some ⟨j, .ask q k, h⟩ →
      S.enabled c.world i j ⟨q, r⟩ → (C j).sees q = true → (C j).guar ((C j).seen h) q →
      (C j).rely ((C j).seen h) ⟨q, r⟩)
    (hc : S.Reachable w c) {t : Task Q R ε α J} (ht : t ∈ c.tasks) {x : Except ε α}
    (hx : t.Finished x) : post t.job ((C t.job).seen t.history) x := by
  obtain ⟨i, hi⟩ := List.mem_iff_getElem?.mp ht
  have hm := hc.meets program relied i t hi
  rw [hx] at hm
  exact hm

/-- Tasks are never dropped, keep their job, and only extend their history. -/
theorem Steps.task {i : Nat} {t : Task Q R ε α J} (hs : S.Steps c c') (ht : c.tasks[i]? = some t) :
    ∃ t', c'.tasks[i]? = some t' ∧ t'.job = t.job ∧ ∃ newer, t'.history = newer ++ t.history := by
  induction hs with
  | refl => exact ⟨t, ht, rfl, [], rfl⟩
  | tail _ hs ih =>
    obtain ⟨t₁, ht₁, hj, newer, hh⟩ := ih
    cases hs with
    | launch j =>
      obtain ⟨hi, _⟩ := List.getElem?_eq_some_iff.mp ht₁
      exact ⟨t₁, by rw [launch, List.getElem?_append_left hi, ht₁], hj, newer, hh⟩
    | answer n j q k h r waiting _ =>
      by_cases hn : n = i
      · subst n
        obtain ⟨hi, _⟩ := List.getElem?_eq_some_iff.mp ht₁
        rw [waiting] at ht₁
        cases ht₁
        refine ⟨⟨j, k r, ⟨q, r⟩ :: h⟩, by rw [answer, List.getElem?_set_self hi], hj,
          ⟨q, r⟩ :: newer, ?_⟩
        rw [List.cons_append, ← hh]
      · exact ⟨t₁, by rw [answer, List.getElem?_set_ne hn, ht₁], hj, newer, hh⟩

/-- Every recorded reply was given in an earlier reachable configuration, to this
very task, by a world in which it was enabled. -/
theorem Reachable.origin (hc : S.Reachable w c) {i : Nat} {t : Task Q R ε α J}
    (ht : c.tasks[i]? = some t) {newer older : History Q R} {e : Event Q R}
    (hh : t.history = newer ++ e :: older) :
    ∃ before k, S.Reachable w before ∧
      before.tasks[i]? = some ⟨t.job, .ask e.query k, older⟩ ∧
      S.enabled before.world i t.job e ∧
      S.Steps (S.answer before i t.job e.query k older e.reply) c := by
  induction hc generalizing t newer with
  | refl => simp at ht
  | @tail b d hb hs ih =>
    cases hs with
    | launch j =>
      rcases launch_getElem? b j i t ht with ht | ⟨_, rfl⟩
      · obtain ⟨before, k, hr, hw, he, hs⟩ := ih ht hh
        exact ⟨before, k, hr, hw, he, hs.tail (.launch b j)⟩
      · simp at hh
    | answer n j q k h r waiting enabled =>
      have last := Step.answer b n j q k h r waiting enabled
      rcases answer_getElem? waiting i t ht with ⟨rfl, rfl⟩ | ⟨_, ht⟩
      · cases newer with
        | nil =>
          obtain ⟨rfl, rfl⟩ := List.cons.inj hh
          exact ⟨b, k, hb, waiting, enabled, .refl⟩
        | cons e' newer =>
          obtain ⟨before, k', hr, hw, he, hs⟩ := ih waiting (List.cons.inj hh).2
          exact ⟨before, k', hr, hw, he, hs.tail last⟩
      · obtain ⟨before, k', hr, hw, he, hs⟩ := ih ht hh
        exact ⟨before, k', hr, hw, he, hs.tail last⟩

end System

/-! Adding up what the tasks did. -/

private theorem sum_set {l : List Nat} {i : Nat} {b : Nat} (hi : l[i]? = some b) (a : Nat) :
    (l.set i a).sum + b = l.sum + a := by
  induction l generalizing i with
  | nil => simp at hi
  | cons x l ih =>
    cases i with
    | zero =>
      simp only [List.getElem?_cons_zero, Option.some.injEq] at hi
      simp only [List.set_cons_zero, List.sum_cons]
      omega
    | succ i =>
      have := ih (by simpa using hi)
      simp only [List.set_cons_succ, List.sum_cons]
      omega

/-- The weight of everything one task did. -/
def Task.tally (wt : J → Event Q R → Nat) (t : Task Q R ε α J) : Nat :=
  (t.history.map (wt t.job)).sum

/-- The weight of everything all tasks did. -/
def Config.tally (wt : J → Event Q R → Nat) (c : Config Q R ε α J W) : Nat :=
  (c.tasks.map (Task.tally wt)).sum

theorem Task.tally_add (wt wt' : J → Event Q R → Nat) (t : Task Q R ε α J) :
    t.tally (fun j e => wt j e + wt' j e) = t.tally wt + t.tally wt' := List.sum_map_add

/-- Weights add up task by task. -/
theorem Config.tally_add (wt wt' : J → Event Q R → Nat) (c : Config Q R ε α J W) :
    c.tally (fun j e => wt j e + wt' j e) = c.tally wt + c.tally wt' := by
  simp only [Config.tally, ← List.sum_map_add]
  exact congrArg List.sum (List.map_congr_left fun t _ => t.tally_add wt wt')

/-- What holds of each task holds of all together. -/
theorem Config.tally_le {wt wt' : J → Event Q R → Nat} {c : Config Q R ε α J W}
    (h : ∀ t ∈ c.tasks, t.tally wt ≤ t.tally wt') : c.tally wt ≤ c.tally wt' :=
  List.sum_le_sum h

theorem Config.tally_congr {wt wt' : J → Event Q R → Nat} {c : Config Q R ε α J W}
    (h : ∀ t ∈ c.tasks, t.tally wt = t.tally wt') : c.tally wt = c.tally wt' :=
  Nat.le_antisymm (tally_le fun t ht => (h t ht).le) (tally_le fun t ht => (h t ht).ge)

private theorem sum_window {β : Type} {l l' : List β} {f g : β → Nat}
    (kept : ∀ (i : Nat) b, l[i]? = some b → ∃ b', l'[i]? = some b' ∧ f b' + g b ≤ g b' + f b) (fresh : ∀ b ∈ l', f b ≤ g b) :
    (l'.map f).sum + (l.map g).sum ≤ (l'.map g).sum + (l.map f).sum := by
  induction l generalizing l' with
  | nil => simpa using List.sum_le_sum fresh
  | cons b l ih =>
    obtain ⟨b', hb', hle⟩ := kept 0 b rfl
    cases l' with
    | nil => cases hb'
    | cons head l' =>
      obtain rfl := Option.some.inj hb'
      have hrest := ih (fun i => kept (i + 1)) fun b hb => fresh b (List.mem_cons_of_mem _ hb)
      simp only [List.map_cons, List.sum_cons]
      omega

/-- Between two configurations of a run one weight grows no more than another, if it does so
in every task. -/
theorem System.Steps.tally_le {S : System Q R ε α J W} {b c : Config Q R ε α J W} (hs : S.Steps b c)
    (wt wt' : J → Event Q R → Nat)
    (kept : ∀ t ∈ b.tasks, ∀ t' ∈ c.tasks, t'.job = t.job → (∃ newer, t'.history = newer ++ t.history) →
      t'.tally wt + t.tally wt' ≤ t'.tally wt' + t.tally wt)
    (fresh : ∀ t ∈ c.tasks, t.tally wt ≤ t.tally wt') : c.tally wt + b.tally wt' ≤ c.tally wt' + b.tally wt := by
  apply sum_window _ fresh
  intro i t ht
  obtain ⟨t', ht', hjob, hnewer⟩ := hs.task ht
  exact ⟨t', ht', kept t (List.mem_of_getElem? ht) t' (List.mem_of_getElem? ht') hjob hnewer⟩

private theorem sum_eq_iff {β : Type} {l : List β} {f g : β → Nat} (h : ∀ b ∈ l, f b ≤ g b) :
    (l.map f).sum = (l.map g).sum ↔ ∀ b ∈ l, f b = g b := by
  induction l with
  | nil => simp
  | cons b l ih =>
    have hb := h b List.mem_cons_self
    have hl : ∀ b ∈ l, f b ≤ g b := fun b hb => h b (List.mem_cons_of_mem _ hb)
    have hs := List.sum_le_sum hl
    simp only [List.map_cons, List.sum_cons, List.forall_mem_cons, ← ih hl]
    omega

/-- Totals agree only if they do so task by task, where no task exceeds the other total. -/
theorem Config.tally_eq_iff {wt wt' : J → Event Q R → Nat} {c : Config Q R ε α J W}
    (h : ∀ t ∈ c.tasks, t.tally wt ≤ t.tally wt') :
    c.tally wt = c.tally wt' ↔ ∀ t ∈ c.tasks, t.tally wt = t.tally wt' := sum_eq_iff h

/-- A measure of the world that every reply increases by its weight is the total
weight of the replies given so far. -/
theorem System.Reachable.tally_eq {S : System Q R ε α J W} {w : W} {c : Config Q R ε α J W}
    {m : W → Nat} {wt : J → Event Q R → Nat}
    (weigh : ∀ c i j e, S.Reachable w c → m (S.apply c.world i j e) = m c.world + wt j e)
    (hc : S.Reachable w c) : m c.world = m w + c.tally wt := by
  apply hc.invariant (I := fun c => m c.world = m w + c.tally wt)
  · simp [Config.tally]
  · intro c c' hc ih hs
    cases hs with
    | launch j => simpa [System.launch, Config.tally, Task.tally] using ih
    | answer i j q k h r waiting _ =>
      have hi : (c.tasks.map (Task.tally wt))[i]? = some ((h.map (wt j)).sum) := by
        rw [List.getElem?_map, waiting]
        rfl
      have hset := sum_set hi (wt j ⟨q, r⟩ + (h.map (wt j)).sum)
      have hw := weigh c i j ⟨q, r⟩ hc
      simp only [Config.tally] at ih
      simp only [System.answer, Config.tally, hw, ih, List.map_set, Task.tally, List.map_cons,
        List.sum_cons] at hset ⊢
      omega

end IpCountryApi.Library
