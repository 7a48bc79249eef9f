import IpCountryApi.Library.Interleaving

/-! Runs computed from a list of moves, for systems that can decide which replies they
allow. -/
namespace IpCountryApi.Library

/-- Launch a job, or let task i take a reply to whatever it is waiting for. -/
inductive Move (Q : Type) (R : Q → Type) (J : Type) where
  | launch (j : J)
  | reply (i : Nat) (answer : (q : Q) → Option (R q))

def Task.isDone {Q : Type} {R : Q → Type} {ε α J : Type} (t : Task Q R ε α J) : Bool :=
  match t.residual with
  | .done _ => true
  | .ask _ _ => false

theorem Task.finished_of_isDone {Q : Type} {R : Q → Type} {ε α J : Type} (t : Task Q R ε α J)
    (h : t.isDone = true) : ∃ x, t.Finished x := by
  unfold Task.isDone at h
  split at h
  · exact ⟨_, by assumption⟩
  · cases h

namespace System
variable {Q : Type} {R : Q → Type} {ε α J W : Type} (S : System Q R ε α J W)
  [∀ w i j e, Decidable (S.enabled w i j e)]

/-- A move of a finished task is skipped; a reply that is missing or not allowed ends
the run without a result. -/
def play (c : Config Q R ε α J W) : List (Move Q R J) → Option (Config Q R ε α J W)
  | [] => some c
  | .launch j :: moves => play (S.launch c j) moves
  | .reply i answer :: moves =>
    match c.tasks[i]? with
    | none => none
    | some ⟨_, .done _, _⟩ => play c moves
    | some ⟨j, .ask q k, h⟩ =>
      match answer q with
      | none => none
      | some r => if S.enabled c.world i j ⟨q, r⟩ then play (S.answer c i j q k h r) moves else none

variable {S}

theorem play_steps {c c' : Config Q R ε α J W} {moves : List (Move Q R J)} (h : S.play c moves = some c') :
    S.Steps c c' := by
  fun_induction play S c moves with
  | case1 c =>
    cases h
    exact .refl
  | case2 c j moves ih => exact .head (.launch c j) (ih h)
  | case3 => cases h
  | case4 c i answer moves _ _ _ _ ih => exact ih h
  | case5 => cases h
  | case6 c i answer moves j q k past waiting r _ enabled ih =>
    exact .head (.answer c i j q k past r waiting enabled) (ih h)
  | case7 => cases h

/-- A played run reaches a configuration with the property its end was checked for. -/
theorem play_reaches (S : System Q R ε α J W) [∀ w i j e, Decidable (S.enabled w i j e)] (w : W)
    (moves : List (Move Q R J)) (p : Config Q R ε α J W → Bool)
    (h : (S.play ⟨w, []⟩ moves).any p = true) : ∃ c, S.Reachable w c ∧ p c = true := by
  cases hp : S.play ⟨w, []⟩ moves with
  | none => simp [hp] at h
  | some c => exact ⟨c, play_steps hp, by simpa [hp] using h⟩

/-- A run written down, with a test that its end passes. -/
structure Recording (S : System Q R ε α J W) [∀ w i j e, Decidable (S.enabled w i j e)] (w : W)
    (p : Config Q R ε α J W → Bool) where
  moves : List (Move Q R J)
  passes : (S.play ⟨w, []⟩ moves).any p = true

theorem Recording.reaches {S : System Q R ε α J W} [∀ w i j e, Decidable (S.enabled w i j e)] {w : W}
    {p : Config Q R ε α J W → Bool} (run : S.Recording w p) : ∃ c, S.Reachable w c ∧ p c = true :=
  play_reaches S w run.moves p run.passes

/-- No task waits for a reply, as a test. -/
def settled (c : Config Q R ε α J W) : Bool := c.tasks.all Task.isDone

theorem quiescent_of_settled {c : Config Q R ε α J W} (h : settled c = true) : c.Quiescent :=
  fun t ht => t.finished_of_isDone (List.all_eq_true.mp h t ht)

/-- Task i waits for a reply. -/
def waiting (c : Config Q R ε α J W) (i : Nat) : Bool :=
  match c.tasks[i]? with
  | some ⟨_, .ask _ _, _⟩ => true
  | _ => false

/-- A reply that a waiting task takes is one step. -/
theorem play_step {c c' : Config Q R ε α J W} {i : Nat} {answer : (q : Q) → Option (R q)}
    (hw : waiting c i = true) (h : S.play c [.reply i answer] = some c') : S.Step c c' := by
  unfold waiting at hw
  split at hw
  · rename_i j q k past hi
    simp only [play, hi] at h
    split at h
    · cases h
    · split at h
      · rename_i r _ enabled
        cases h
        exact .answer c i j q k past r hi enabled
      · cases h
  · cases hw

end System
end IpCountryApi.Library
