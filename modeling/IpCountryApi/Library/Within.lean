import IpCountryApi.Library.Interleaving

/-! What a program may ask and how it may end, whatever the replies. -/
namespace IpCountryApi.Library

/-- Every query of every run satisfies asks, and every outcome satisfies ends. -/
def Within {Q : Type} {R : Q → Type} {ε α : Type} (asks : Q → Prop) (ends : Except ε α → Prop) : Coro Q R ε α → Prop
  | .done x => ends x
  | .ask q k => asks q ∧ ∀ r, Within asks ends (k r)

namespace Within
variable {Q : Type} {R : Q → Type} {ε α β : Type} {asks asks' : Q → Prop} {E E' : Except ε α → Prop}
  {after : Except ε β → Prop} {p : Coro Q R ε α}

theorem mono (h : Within asks E p) (hasks : ∀ q, asks q → asks' q) (hends : ∀ x, E x → E' x) :
    Within asks' E' p := by
  induction p with
  | done x => exact hends x h
  | ask q k ih => exact ⟨hasks q h.1, fun r => ih r (h.2 r)⟩

theorem andThen {f : Except ε α → Coro Q R ε β} (hp : Within asks E p) (hf : ∀ x, E x → Within asks after (f x)) :
    Within asks after (p.andThen f) := by
  induction p with
  | done x => exact hf x hp
  | ask q k ih => exact ⟨hp.1, fun r => ih r (hp.2 r)⟩

theorem bind {f : α → Coro Q R ε β} (hp : Within asks E p) (hf : ∀ a, E (.ok a) → Within asks after (f a))
    (herror : ∀ e, E (.error e) → after (.error e)) : Within asks after (p >>= f) := by
  apply hp.andThen
  intro x hx
  cases x with
  | ok a => exact hf a hx
  | error e => exact herror e hx

theorem tryCatch {f : ε → Coro Q R ε α} (hp : Within asks E p) (hok : ∀ a, E (.ok a) → E' (.ok a))
    (hf : ∀ e, E (.error e) → Within asks E' (f e)) : Within asks E' (tryCatch p f) := by
  apply hp.andThen
  intro x hx
  cases x with
  | ok a => exact hok a hx
  | error e => exact hf e hx

/-- A cleanup that does not raise leaves the outcome as it is. -/
theorem ensuring {cleanup : Except ε α → Coro Q R ε Unit} (hp : Within asks E p)
    (hc : ∀ x, E x → Within asks (fun y => y = .ok ()) (cleanup x)) : Within asks E (p.ensuring cleanup) := by
  apply hp.andThen
  intro x hx
  apply (hc x hx).andThen
  intro y hy
  rw [hy]
  exact hx

end Within

variable {Q : Type} {R : Q → Type} {ε α J W : Type} {S : System Q R ε α J W} {w : W} {c : Config Q R ε α J W}

/-- What holds of all runs of a program holds of its part in every interleaving. -/
theorem System.Reachable.within {asks : J → Q → Prop} {ends : J → Except ε α → Prop}
    (program : ∀ j, Within (asks j) (ends j) (S.program j)) (hc : S.Reachable w c) {t : Task Q R ε α J} (ht : t ∈ c.tasks) :
    Within (asks t.job) (ends t.job) t.residual ∧ ∀ e ∈ t.history, asks t.job e.query := by
  refine hc.invariant (I := fun c => ∀ t ∈ c.tasks, Within (asks t.job) (ends t.job) t.residual ∧
    ∀ e ∈ t.history, asks t.job e.query) (by simp) ?_ t ht
  intro c c' _ ih hs t ht
  obtain ⟨n, hn⟩ := List.mem_iff_getElem?.mp ht
  cases hs with
  | launch j =>
    rcases launch_getElem? c j n t hn with hn | ⟨_, rfl⟩
    · exact ih t (List.mem_of_getElem? hn)
    · exact ⟨program j, by simp⟩
  | answer i j q k h r waiting _ =>
    rcases answer_getElem? waiting n t hn with ⟨_, rfl⟩ | ⟨_, hn⟩
    · obtain ⟨⟨hq, hrest⟩, hpast⟩ := ih _ (List.mem_of_getElem? waiting)
      refine ⟨hrest r, ?_⟩
      intro e he
      rcases List.mem_cons.mp he with rfl | he
      · exact hq
      · exact hpast e he
    · exact ih t (List.mem_of_getElem? hn)

end IpCountryApi.Library
