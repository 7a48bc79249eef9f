import IpCountryApi.Library.Interleaving

/-! Runs of one program at a time. They are interleavings without overlap. -/
namespace IpCountryApi.Library
open Relation

variable {Q : Type} {R : Q → Type} {ε α J W : Type}

/-- A run that is over: its job, all it did, and how it ended. -/
structure Completed (Q : Type) (R : Q → Type) (ε α J : Type) where
  job : J
  history : History Q R
  outcome : Except ε α

/-- Its task, in a configuration of the system. -/
def Completed.task (d : Completed Q R ε α J) : Task Q R ε α J := ⟨d.job, .done d.outcome, d.history⟩

namespace System

/-- Task i answers all remaining queries of its program with nothing in between. -/
inductive Executes (S : System Q R ε α J W) (i : Nat) (j : J) :
    W → Coro Q R ε α → History Q R → W → History Q R → Except ε α → Prop
  | done (w : W) (x : Except ε α) (h : History Q R) : Executes S i j w (.done x) h w h x
  | ask {w w' : W} {q : Q} {k : R q → Coro Q R ε α} {h h' : History Q R} {x : Except ε α} (r : R q)
      (enabled : S.enabled w i j ⟨q, r⟩)
      (rest : Executes S i j (S.apply w i j ⟨q, r⟩) (k r) (⟨q, r⟩ :: h) w' h' x) :
      Executes S i j w (.ask q k) h w' h' x

/-- Completed runs, newest first, each started when the one before was over. -/
inductive Sequentially (S : System Q R ε α J W) (w₀ : W) : List (Completed Q R ε α J) → W → Prop
  | nil : Sequentially S w₀ [] w₀
  | cons {past : List (Completed Q R ε α J)} {w w' : W} {j : J} {h : History Q R} {x : Except ε α}
      (before : Sequentially S w₀ past w)
      (run : S.Executes past.length j w (S.program j) [] w' h x) :
      Sequentially S w₀ (⟨j, h, x⟩ :: past) w'

variable (S : System Q R ε α J W)

/-- The world after the recorded replies of one task. -/
def worldAfter (w : W) (i : Nat) (j : J) (h : History Q R) : W :=
  h.foldr (fun e w => S.apply w i j e) w

variable {S}

/-- Contract rule for a run alone: what it relies on may be read off the world its
own history has produced. -/
theorem Executes.meets {i : Nat} {j : J} {w₀ w w' : W} {p : Coro Q R ε α} {h h' : History Q R}
    {x : Except ε α} {C : Contract Q R} {post : History Q R → Except ε α → Prop}
    (run : S.Executes i j w p h w' h' x) (start : w = S.worldAfter w₀ i j h)
    (relied : ∀ h e, S.enabled (S.worldAfter w₀ i j h) i j e → C.sees e.query = true →
      C.rely (C.seen h) e)
    (hp : Meets C p (C.seen h) post) : post (C.seen h') x ∧ w' = S.worldAfter w₀ i j h' := by
  induction run with
  | done w x h => exact ⟨hp, start⟩
  | @ask w w' q k h h' x r enabled _ ih =>
    subst start
    have rest := hp.2 r (relied h ⟨q, r⟩ enabled)
    rw [← Contract.seen_cons] at rest
    exact ih rfl rest

/-- A run alone is one of the system, in which nobody else moves. -/
theorem Executes.steps {i : Nat} {j : J} {w w' : W} {p : Coro Q R ε α} {h h' : History Q R}
    {x : Except ε α} (run : S.Executes i j w p h w' h' x) {c : Config Q R ε α J W}
    (hw : c.world = w) (ht : c.tasks[i]? = some ⟨j, p, h⟩) :
    S.Steps c ⟨w', c.tasks.set i ⟨j, .done x, h'⟩⟩ := by
  induction run generalizing c with
  | done w x h =>
    obtain ⟨hi, he⟩ := List.getElem?_eq_some_iff.mp ht
    rw [← he, List.set_getElem_self, ← hw]
  | @ask w w' q k h h' x r enabled _ ih =>
    subst hw
    obtain ⟨hi, _⟩ := List.getElem?_eq_some_iff.mp ht
    have first := Step.answer c i j q k h r ht enabled
    have rest := ih (c := S.answer c i j q k h r) rfl (by rw [answer, List.getElem?_set_self hi])
    rw [answer, List.set_set] at rest
    exact .head first rest

/-- So what holds of every run of the system holds after completed runs one by one. -/
theorem Sequentially.reachable {w₀ w : W} {past : List (Completed Q R ε α J)} (hs : S.Sequentially w₀ past w) :
    S.Reachable w₀ ⟨w, past.reverse.map Completed.task⟩ := by
  induction hs with
  | nil => exact .start
  | @cons past w w' j h x _ run ih =>
    have hlen : (past.reverse.map Completed.task).length = past.length := by simp
    have launched := ih.tail (Step.launch _ j)
    have ht : (S.launch ⟨w, past.reverse.map Completed.task⟩ j).tasks[past.length]? = some ⟨j, S.program j, []⟩ := by
      rw [launch, ← hlen, List.getElem?_concat_length]
    have ended := launched.trans (run.steps rfl ht)
    rw [launch, ← hlen, List.set_append_right _ _ (Nat.le_refl _), Nat.sub_self, List.set_cons_zero] at ended
    rw [List.reverse_cons, List.map_append]
    exact ended

/-- A run alone computed from its replies, where the system can decide which it allows. -/
def execute (S : System Q R ε α J W) [∀ w i j e, Decidable (S.enabled w i j e)] (i : Nat) (j : J)
    (answer : (q : Q) → Option (R q)) : Coro Q R ε α → W → History Q R → Option (W × History Q R × Except ε α)
  | .done x, w, h => some (w, h, x)
  | .ask q k, w, h =>
    match answer q with
    | none => none
    | some r =>
      if S.enabled w i j ⟨q, r⟩ then execute S i j answer (k r) (S.apply w i j ⟨q, r⟩) (⟨q, r⟩ :: h) else none

theorem execute_executes [∀ w i j e, Decidable (S.enabled w i j e)] {i : Nat} {j : J}
    {answer : (q : Q) → Option (R q)} {p : Coro Q R ε α} {w w' : W} {h h' : History Q R} {x : Except ε α}
    (he : S.execute i j answer p w h = some (w', h', x)) : S.Executes i j w p h w' h' x := by
  induction p generalizing w h with
  | done x =>
    cases he
    exact .done _ _ _
  | ask q k ih =>
    rw [execute] at he
    split at he
    · cases he
    · rename_i r _
      split at he
      · rename_i enabled
        exact .ask r enabled (ih r he)
      · cases he

end System
end IpCountryApi.Library
