import Mathlib.Data.List.Basic

/-! Suspendable programs with exceptions, and rely/guarantee contracts over the
queries one program issues and the replies it gets. A contract sees only some of
the queries; what it does not see leaves no trace in its history. -/
namespace IpCountryApi.Library

/-- A program that suspends on queries and finishes with a value or an exception.
Every tree is well founded, so a program that is always resumed finishes. -/
inductive Coro (Q : Type) (R : Q → Type) (ε α : Type) where
  | done (outcome : Except ε α)
  | ask (q : Q) (resume : R q → Coro Q R ε α)

/-- One answered query. -/
structure Event (Q : Type) (R : Q → Type) where
  query : Q
  reply : R query

/-- The answered queries of one program, newest first. -/
abbrev History (Q : Type) (R : Q → Type) := List (Event Q R)

namespace Coro
variable {Q : Type} {R : Q → Type} {ε α β : Type}

/-- Continue on either outcome. Sequencing, handlers and cleanup are instances. -/
def andThen : Coro Q R ε α → (Except ε α → Coro Q R ε β) → Coro Q R ε β
  | .done x, f => f x
  | .ask q k, f => .ask q fun r => (k r).andThen f

def call (q : Q) : Coro Q R ε (R q) := .ask q fun r => .done (.ok r)

def afterValue (f : α → Coro Q R ε β) : Except ε α → Coro Q R ε β
  | .ok a => f a
  | .error e => .done (.error e)

def afterError (handler : ε → Coro Q R ε α) : Except ε α → Coro Q R ε α
  | .ok a => .done (.ok a)
  | .error e => handler e

/-- Run the cleanup on either outcome; an exception of the cleanup replaces it. -/
def ensuring (p : Coro Q R ε α) (cleanup : Except ε α → Coro Q R ε Unit) : Coro Q R ε α :=
  p.andThen fun x => (cleanup x).andThen (afterValue fun _ => .done x)

instance : Monad (Coro Q R ε) where
  pure a := .done (.ok a)
  bind p f := p.andThen (afterValue f)

instance : MonadExcept ε (Coro Q R ε) where
  throw e := .done (.error e)
  tryCatch p handler := p.andThen (afterError handler)

theorem bind_eq (p : Coro Q R ε α) (f : α → Coro Q R ε β) : p >>= f = p.andThen (afterValue f) := rfl
theorem tryCatch_eq (p : Coro Q R ε α) (f : ε → Coro Q R ε α) :
    tryCatch p f = p.andThen (afterError f) := rfl

end Coro

/-- What a program may assume of a reply and what it promises of a query, each
relative to what the contract has seen of its history. -/
structure Contract (Q : Type) (R : Q → Type) where
  sees : Q → Bool
  rely : History Q R → Event Q R → Prop
  guar : History Q R → Q → Prop

namespace Contract
variable {Q : Type} {R : Q → Type} (C : Contract Q R)

def push (e : Event Q R) (h : History Q R) : History Q R := if C.sees e.query then e :: h else h

def seen (h : History Q R) : History Q R := h.filter fun e => C.sees e.query

theorem seen_cons (e : Event Q R) (h : History Q R) : C.seen (e :: h) = C.push e (C.seen h) := by
  rw [seen, push, List.filter_cons]
  rfl

/-- Every recorded reply was one the contract relies on when it came. -/
def Relied : History Q R → Prop
  | [] => True
  | e :: h => C.rely h e ∧ Relied h

theorem Relied.older {newer older : History Q R} (h : C.Relied (newer ++ older)) : C.Relied older := by
  induction newer with
  | nil => exact h
  | cons e newer ih => exact ih h.2

end Contract

/-- From the seen history h, every seen query keeps the guarantee and every run whose
replies are relied upon finishes in the postcondition. -/
def Meets {Q : Type} {R : Q → Type} {ε α : Type} (C : Contract Q R) :
    Coro Q R ε α → History Q R → (History Q R → Except ε α → Prop) → Prop
  | .done x, h, post => post h x
  | .ask q k, h, post => (C.sees q = true → C.guar h q) ∧
      ∀ r, (C.sees q = true → C.rely h ⟨q, r⟩) → Meets C (k r) (C.push ⟨q, r⟩ h) post

namespace Meets
variable {Q : Type} {R : Q → Type} {ε α β : Type} {C : Contract Q R}

theorem ask_iff (q : Q) (k : R q → Coro Q R ε α) (h : History Q R)
    (post : History Q R → Except ε α → Prop) :
    Meets C (.ask q k) h post ↔ (C.sees q = true → C.guar h q) ∧
      ∀ r, (C.sees q = true → C.rely h ⟨q, r⟩) → Meets C (k r) (C.push ⟨q, r⟩ h) post := Iff.rfl

theorem mono {p : Coro Q R ε α} {h : History Q R} {post post' : History Q R → Except ε α → Prop}
    (hp : Meets C p h post) (himp : ∀ h x, post h x → post' h x) : Meets C p h post' := by
  induction p generalizing h with
  | done x => exact himp h x hp
  | ask q k ih => exact ⟨hp.1, fun r hr => ih r (hp.2 r hr)⟩

theorem andThen_iff (p : Coro Q R ε α) (f : Except ε α → Coro Q R ε β) (h : History Q R)
    (post : History Q R → Except ε β → Prop) :
    Meets C (p.andThen f) h post ↔ Meets C p h fun h' x => Meets C (f x) h' post := by
  induction p generalizing h with
  | done x => rfl
  | ask q k ih =>
    simp only [Coro.andThen, ask_iff]
    exact and_congr_right fun _ => forall_congr' fun r => imp_congr_right fun _ => ih r _

theorem call_iff (q : Q) (h : History Q R) (post : History Q R → Except ε (R q) → Prop) :
    Meets C (.call q) h post ↔ (C.sees q = true → C.guar h q) ∧
      ∀ r, (C.sees q = true → C.rely h ⟨q, r⟩) → post (C.push ⟨q, r⟩ h) (.ok r) := Iff.rfl

/-- A query the contract sees. -/
theorem call_seen {q : Q} (hq : C.sees q = true) (h : History Q R)
    (post : History Q R → Except ε (R q) → Prop) :
    Meets C (.call q) h post ↔ C.guar h q ∧ ∀ r, C.rely h ⟨q, r⟩ → post (⟨q, r⟩ :: h) (.ok r) := by
  simp [call_iff, Contract.push, hq]

/-- A query the contract does not see. -/
theorem call_unseen {q : Q} (hq : C.sees q = false) (h : History Q R)
    (post : History Q R → Except ε (R q) → Prop) :
    Meets C (.call q) h post ↔ ∀ r, post h (.ok r) := by
  simp [call_iff, Contract.push, hq]

/-- Sequencing: the postcondition of the first part is the precondition of the second. -/
theorem bind_iff (p : Coro Q R ε α) (f : α → Coro Q R ε β) (h : History Q R)
    (post : History Q R → Except ε β → Prop) :
    Meets C (p >>= f) h post ↔ Meets C p h fun h' x =>
      match x with
      | .ok a => Meets C (f a) h' post
      | .error e => post h' (.error e) := by
  rw [Coro.bind_eq, andThen_iff]
  constructor <;> refine fun hp => hp.mono fun h' x hx => ?_ <;> cases x <;> exact hx

/-- A query the contract sees, and what follows. -/
theorem call_bind_seen {q : Q} (hq : C.sees q = true) (f : R q → Coro Q R ε β) (h : History Q R)
    (post : History Q R → Except ε β → Prop) :
    Meets C (.call q >>= f) h post ↔
      C.guar h q ∧ ∀ r, C.rely h ⟨q, r⟩ → Meets C (f r) (⟨q, r⟩ :: h) post := by
  rw [bind_iff, call_seen hq]

theorem call_bind_unseen {q : Q} (hq : C.sees q = false) (f : R q → Coro Q R ε β) (h : History Q R)
    (post : History Q R → Except ε β → Prop) :
    Meets C (.call q >>= f) h post ↔ ∀ r, Meets C (f r) h post := by
  rw [bind_iff, call_unseen hq]

theorem tryCatch_iff (p : Coro Q R ε α) (f : ε → Coro Q R ε α) (h : History Q R)
    (post : History Q R → Except ε α → Prop) :
    Meets C (tryCatch p f) h post ↔ Meets C p h fun h' x =>
      match x with
      | .ok a => post h' (.ok a)
      | .error e => Meets C (f e) h' post := by
  rw [Coro.tryCatch_eq, andThen_iff]
  constructor <;> refine fun hp => hp.mono fun h' x hx => ?_ <;> cases x <;> exact hx

/-- A handler that re-raises leaves the outcome as it was. -/
theorem tryCatch_reraise_iff (p : Coro Q R ε α) {f : ε → Coro Q R ε α} (h : History Q R)
    {post : History Q R → Except ε α → Prop}
    (reraises : ∀ e h, Meets C (f e) h post ↔ post h (.error e)) :
    Meets C (tryCatch p f) h post ↔ Meets C p h post := by
  rw [tryCatch_iff]
  constructor <;> refine fun hp => hp.mono fun h' x hx => ?_ <;> cases x
  · exact (reraises _ _).mp hx
  · exact hx
  · exact (reraises _ _).mpr hx
  · exact hx

theorem ensuring_iff (p : Coro Q R ε α) (cleanup : Except ε α → Coro Q R ε Unit) (h : History Q R)
    (post : History Q R → Except ε α → Prop) :
    Meets C (p.ensuring cleanup) h post ↔ Meets C p h fun h' x => Meets C (cleanup x) h' fun h'' y =>
      match y with
      | .ok _ => post h'' x
      | .error e => post h'' (.error e) := by
  rw [Coro.ensuring, andThen_iff]
  constructor <;> refine fun hp => hp.mono fun h' x hx => ?_
  · exact ((andThen_iff _ _ _ _).mp hx).mono fun h'' y hy => by cases y <;> exact hy
  · exact (andThen_iff _ _ _ _).mpr (hx.mono fun h'' y hy => by cases y <;> exact hy)

/-- A cleanup whose end is described by its history alone. -/
theorem ensuring_state {p : Coro Q R ε α} {cleanup : Except ε α → Coro Q R ε Unit} {h : History Q R}
    {post : History Q R → Prop}
    (hp : Meets C p h fun h' x => Meets C (cleanup x) h' fun h'' _ => post h'') :
    Meets C (p.ensuring cleanup) h fun h' _ => post h' := by
  rw [ensuring_iff]
  apply hp.mono
  intro h' x hx
  apply hx.mono
  intro h'' y hy
  cases y <;> exact hy

/-- A run that finishes has relied on every reply it has seen. -/
theorem relied {p : Coro Q R ε α} {h : History Q R} {post : History Q R → Except ε α → Prop}
    (hp : Meets C p h post) (hh : C.Relied h) : Meets C p h fun h' x => post h' x ∧ C.Relied h' := by
  induction p generalizing h with
  | done x => exact ⟨hp, hh⟩
  | ask q k ih =>
    refine ⟨hp.1, fun r hr => ih r (hp.2 r hr) ?_⟩
    rw [Contract.push]
    split
    · rename_i hq
      exact ⟨hr hq, hh⟩
    · exact hh

/-- A weaker reliance and a stronger guarantee may replace a contract. -/
theorem weaken {C' : Contract Q R} {p : Coro Q R ε α} {h : History Q R}
    {post : History Q R → Except ε α → Prop} (hp : Meets C p h post) (hsees : C'.sees = C.sees)
    (hrely : ∀ h e, C'.rely h e → C.rely h e) (hguar : ∀ h q, C.guar h q → C'.guar h q) :
    Meets C' p h post := by
  induction p generalizing h with
  | done x => exact hp
  | ask q k ih =>
    have hpush : ∀ e, C'.push e h = C.push e h := fun e => by simp only [Contract.push, hsees]
    rw [ask_iff, hsees]
    exact ⟨fun hq => hguar _ _ (hp.1 hq), fun r hr =>
      hpush ⟨q, r⟩ ▸ ih r (hp.2 r fun hq => hrely _ _ (hr hq))⟩

end Meets

/-- Begun wherever the invariant holds, the program meets the contract and ends where it holds. -/
def Keeps {Q : Type} {R : Q → Type} {ε α : Type} (C : Contract Q R) (invariant : History Q R → Prop)
    (p : Coro Q R ε α) : Prop :=
  ∀ h, invariant h → Meets C p h fun h' _ => invariant h'

namespace Keeps
variable {Q : Type} {R : Q → Type} {ε α β : Type} {C : Contract Q R} {invariant : History Q R → Prop}
  {p : Coro Q R ε α}

theorem done (x : Except ε α) : Keeps C invariant (.done x) := fun _ hh => hh

theorem pure (a : α) : Keeps C invariant (pure a : Coro Q R ε α) := done _

theorem throw (e : ε) : Keeps C invariant (throw e : Coro Q R ε α) := done _

theorem andThen {f : Except ε α → Coro Q R ε β} (hp : Keeps C invariant p) (hf : ∀ x, Keeps C invariant (f x)) :
    Keeps C invariant (p.andThen f) := by
  intro h hh
  rw [Meets.andThen_iff]
  exact (hp h hh).mono fun h' x hh' => hf x h' hh'

theorem bind {f : α → Coro Q R ε β} (hp : Keeps C invariant p) (hf : ∀ a, Keeps C invariant (f a)) :
    Keeps C invariant (p >>= f) := by
  apply hp.andThen
  intro x
  cases x with
  | ok a => exact hf a
  | error e => exact done _

theorem tryCatch {f : ε → Coro Q R ε α} (hp : Keeps C invariant p) (hf : ∀ e, Keeps C invariant (f e)) :
    Keeps C invariant (tryCatch p f) := by
  apply hp.andThen
  intro x
  cases x with
  | ok a => exact done _
  | error e => exact hf e

theorem ensuring {cleanup : Except ε α → Coro Q R ε Unit} (hp : Keeps C invariant p)
    (hc : ∀ x, Keeps C invariant (cleanup x)) : Keeps C invariant (p.ensuring cleanup) := by
  apply hp.andThen
  intro x
  apply (hc x).andThen
  intro y
  cases y <;> exact done _

end Keeps
end IpCountryApi.Library
