import IpCountryApi.Library.Coroutine

/-! Programs run against an environment that answers every query. Such a run always ends,
and the environment decides it. -/
namespace IpCountryApi.Library

/-- An answer to each query, after each history. -/
abbrev Environment (Q : Type) (R : Q → Type) := History Q R → (q : Q) → R q

namespace Coro
variable {Q : Type} {R : Q → Type} {ε α β : Type}

/-- The history and the outcome of the run that starts after a history. -/
def under (env : Environment Q R) : Coro Q R ε α → History Q R → History Q R × Except ε α
  | .done x, h => (h, x)
  | .ask q k, h => (k (env h q)).under env (⟨q, env h q⟩ :: h)

variable {env : Environment Q R} {p : Coro Q R ε α} {h h' h'' : History Q R}

theorem under_andThen (p : Coro Q R ε α) (f : Except ε α → Coro Q R ε β) (h : History Q R) :
    (p.andThen f).under env h = (f (p.under env h).2).under env (p.under env h).1 := by
  induction p generalizing h with
  | done x => rfl
  | ask q k ih => exact ih (env h q) (⟨q, env h q⟩ :: h)

/-- Sequencing: the second part runs on the value of the first, or not at all. -/
theorem under_bind_ok {a : α} (hp : p.under env h = (h', .ok a)) (f : α → Coro Q R ε β) :
    (p >>= f).under env h = (f a).under env h' := by
  rw [bind_eq, under_andThen, hp]
  rfl

theorem under_bind_error {e : ε} (hp : p.under env h = (h', .error e)) (f : α → Coro Q R ε β) :
    (p >>= f).under env h = (h', .error e) := by
  rw [bind_eq, under_andThen, hp]
  rfl

/-- A query and what follows. -/
theorem under_call_bind (q : Q) (f : R q → Coro Q R ε β) (h : History Q R) :
    (.call q >>= f : Coro Q R ε β).under env h = (f (env h q)).under env (⟨q, env h q⟩ :: h) := rfl

theorem under_tryCatch_ok {a : α} (hp : p.under env h = (h', .ok a)) (f : ε → Coro Q R ε α) :
    (tryCatch p f).under env h = (h', .ok a) := by
  rw [tryCatch_eq, under_andThen, hp]
  rfl

theorem under_tryCatch_error {e : ε} (hp : p.under env h = (h', .error e)) (f : ε → Coro Q R ε α) :
    (tryCatch p f).under env h = (f e).under env h' := by
  rw [tryCatch_eq, under_andThen, hp]
  rfl

/-- A cleanup that raises nothing leaves the outcome as it was. -/
theorem under_ensuring {x : Except ε α} {cleanup : Except ε α → Coro Q R ε Unit} (hp : p.under env h = (h', x))
    (hc : (cleanup x).under env h' = (h'', .ok ())) : (p.ensuring cleanup).under env h = (h'', x) := by
  rw [ensuring, under_andThen, hp, under_andThen, hc]
  rfl

end Coro
end IpCountryApi.Library
