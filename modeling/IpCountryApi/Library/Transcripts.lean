import IpCountryApi.Library.Interleaving

/-! Transcripts: how the history of one program grows, and where two finished histories
of one program part. -/
namespace IpCountryApi.Library

variable {Q : Type} {R : Q → Type} {ε α : Type}

/-- Only events that satisfy p have been added to a history. -/
def Extends (p : Event Q R → Bool) (older newer : History Q R) : Prop :=
  ∃ added, newer = added ++ older ∧ ∀ e ∈ added, p e = true

namespace Extends
variable {p q : Event Q R → Bool} {h h' h'' : History Q R} {e : Event Q R}

theorem refl : Extends p h h := ⟨[], rfl, by simp⟩

theorem push (hx : Extends p h h') (he : p e = true) : Extends p h (e :: h') := by
  obtain ⟨added, rfl, hp⟩ := hx
  exact ⟨e :: added, rfl, by simpa using ⟨he, hp⟩⟩

theorem trans (hx : Extends p h h') (hx' : Extends p h' h'') : Extends p h h'' := by
  obtain ⟨added, rfl, hp⟩ := hx
  obtain ⟨added', rfl, hp'⟩ := hx'
  refine ⟨added' ++ added, (List.append_assoc ..).symm, fun e he => ?_⟩
  exact (List.mem_append.mp he).elim (hp' e) (hp e)

theorem mono (hx : Extends p h h') (hpq : ∀ e, p e = true → q e = true) : Extends q h h' := by
  obtain ⟨added, rfl, hp⟩ := hx
  exact ⟨added, rfl, fun e he => hpq e (hp e he)⟩

/-- A view that no added event contributes to stays as it was. -/
theorem filterMap_eq {β : Type} {f : Event Q R → Option β} (hx : Extends p h h') (hf : ∀ e, p e = true → f e = none) :
    h'.filterMap f = h.filterMap f := by
  obtain ⟨added, rfl, hp⟩ := hx
  rw [List.filterMap_append, List.filterMap_eq_nil_iff.mpr fun e he => hf e (hp e he), List.nil_append]

end Extends

namespace Coro

/-- The program finishes with an outcome after these events, oldest first. -/
def Runs : Coro Q R ε α → List (Event Q R) → Except ε α → Prop
  | .done x, events, outcome => events = [] ∧ outcome = x
  | .ask q k, events, outcome => ∃ r rest, events = ⟨q, r⟩ :: rest ∧ Runs (k r) rest outcome

/-- Two runs of one program are the same, or part at two replies to one query. -/
theorem Runs.part {p : Coro Q R ε α} {events₁ events₂ : List (Event Q R)} {x₁ x₂ : Except ε α}
    (h₁ : p.Runs events₁ x₁) (h₂ : p.Runs events₂ x₂) : (events₁ = events₂ ∧ x₁ = x₂) ∨
      ∃ common q r₁ r₂ rest₁ rest₂, r₁ ≠ r₂ ∧ events₁ = common ++ ⟨q, r₁⟩ :: rest₁ ∧
        events₂ = common ++ ⟨q, r₂⟩ :: rest₂ := by
  induction p generalizing events₁ events₂ with
  | done x =>
    obtain ⟨rfl, rfl⟩ := h₁
    obtain ⟨rfl, rfl⟩ := h₂
    exact .inl ⟨rfl, rfl⟩
  | ask q k ih =>
    obtain ⟨r₁, rest₁, rfl, h₁⟩ := h₁
    obtain ⟨r₂, rest₂, rfl, h₂⟩ := h₂
    by_cases hr : r₁ = r₂
    · subst r₂
      rcases ih r₁ h₁ h₂ with ⟨rfl, rfl⟩ | ⟨common, q', r₁', r₂', rest₁', rest₂', hne, rfl, rfl⟩
      · exact .inl ⟨rfl, rfl⟩
      · exact .inr ⟨⟨q, r₁⟩ :: common, q', r₁', r₂', rest₁', rest₂', hne, rfl, rfl⟩
    · exact .inr ⟨[], q, r₁, r₂, rest₁, rest₂, hr, rfl, rfl⟩

end Coro

variable {J W : Type} {S : System Q R ε α J W} {w : W} {c : Config Q R ε α J W}

/-- What is left of a task completes its history to a run of its program. -/
theorem System.Reachable.completes (hc : S.Reachable w c) (i : Nat) (t : Task Q R ε α J) (ht : c.tasks[i]? = some t) :
    ∀ events x, t.residual.Runs events x → (S.program t.job).Runs (t.history.reverse ++ events) x := by
  refine hc.invariant (I := fun c => ∀ i t, c.tasks[i]? = some t → ∀ events x, t.residual.Runs events x →
    (S.program t.job).Runs (t.history.reverse ++ events) x) (by simp) ?_ i t ht
  intro c c' _ ih hs n t ht events x hx
  cases hs with
  | launch j =>
    rcases launch_getElem? c j n t ht with ht | ⟨_, rfl⟩
    · exact ih n t ht events x hx
    · exact hx
  | answer i j q k h r waiting _ =>
    rcases answer_getElem? waiting n t ht with ⟨_, rfl⟩ | ⟨_, ht⟩
    · have hrun := ih i _ waiting (⟨q, r⟩ :: events) x ⟨r, events, rfl, hx⟩
      rwa [List.reverse_cons, List.append_assoc]
    · exact ih n t ht events x hx

/-- The history of a finished task is a run of its program. -/
theorem System.Reachable.runs (hc : S.Reachable w c) {t : Task Q R ε α J} (ht : t ∈ c.tasks) {x : Except ε α}
    (hx : t.Finished x) : (S.program t.job).Runs t.history.reverse x := by
  obtain ⟨i, hi⟩ := List.mem_iff_getElem?.mp ht
  have hrun := hc.completes i t hi [] x (by rw [hx]; exact ⟨rfl, rfl⟩)
  rwa [List.append_nil] at hrun

/-- A task that is always given an allowed reply finishes, and has seen only such replies. -/
theorem System.finishes (choose : W → (q : Q) → R q) {i : Nat} {j : J}
    (allowed : ∀ w q, S.enabled w i j ⟨q, choose w q⟩) {p : Coro Q R ε α} {h : History Q R}
    (hi : c.tasks[i]? = some ⟨j, p, h⟩) :
    ∃ world newer x, S.Steps c ⟨world, c.tasks.set i ⟨j, .done x, newer ++ h⟩⟩ ∧
      ∀ e ∈ newer, ∃ w, e.reply = choose w e.query := by
  induction p generalizing c h with
  | done x =>
    obtain ⟨hlt, heq⟩ := List.getElem?_eq_some_iff.mp hi
    exact ⟨c.world, [], x, by rw [List.nil_append, ← heq, List.set_getElem_self hlt], by simp⟩
  | ask q k ih =>
    obtain ⟨hlt, _⟩ := List.getElem?_eq_some_iff.mp hi
    have hs := Step.answer c i j q k h _ hi (allowed c.world q)
    obtain ⟨world, newer, x, steps, hnewer⟩ := ih _ (c := S.answer c i j q k h (choose c.world q)) (List.getElem?_set_self hlt)
    refine ⟨world, newer ++ [⟨q, choose c.world q⟩], x, ?_, fun e he => ?_⟩
    · rw [List.append_assoc, List.singleton_append]
      rw [System.answer, List.set_set] at steps
      exact .head hs steps
    · rcases List.mem_append.mp he with he | he
      · exact hnewer e he
      · rw [List.mem_singleton] at he
        exact ⟨c.world, by rw [he]⟩

end IpCountryApi.Library
