import IpCountryApi.Library.Interleaving
import Mathlib.Data.List.Forall2

/-! Programs that differ only in what some of their queries carry, and their runs side by
side. -/
namespace IpCountryApi.Library
open Relation

/-- Queries that count as the same. They are answered by values of one type. -/
structure Likeness (Q : Type) (R : Q → Type) where
  same : Q → Q → Prop
  refl : ∀ q, same q q
  replies : ∀ {q q' : Q}, same q q' → R q = R q'

variable {Q : Type} {R : Q → Type} {ε α β J W : Type} (L : Likeness Q R)

/-- One reply to queries that count as the same. -/
structure Likeness.SameEvent (e e' : Event Q R) : Prop where
  query : L.same e.query e'.query
  reply : HEq e.reply e'.reply

/-- The programs ask the same, and end alike, whatever the replies. -/
inductive Parallel : Coro Q R ε α → Coro Q R ε α → Prop
  | done (x : Except ε α) : Parallel (.done x) (.done x)
  | ask {q q' : Q} {k : R q → Coro Q R ε α} {k' : R q' → Coro Q R ε α} (query : L.same q q')
      (resume : ∀ r r', HEq r r' → Parallel (k r) (k' r')) : Parallel (.ask q k) (.ask q' k')

namespace Parallel
variable {L} {p p' : Coro Q R ε α}

theorem refl (p : Coro Q R ε α) : Parallel L p p := by
  induction p with
  | done x => exact .done x
  | ask q k ih =>
    refine .ask (L.refl q) fun r r' hr => ?_
    rw [← eq_of_heq hr]
    exact ih r

theorem andThen {f f' : Except ε α → Coro Q R ε β} (hp : Parallel L p p') (hf : ∀ x, Parallel L (f x) (f' x)) :
    Parallel L (p.andThen f) (p'.andThen f') := by
  induction hp with
  | done x => exact hf x
  | ask query _ ih => exact .ask query ih

theorem bind {f f' : α → Coro Q R ε β} (hp : Parallel L p p') (hf : ∀ a, Parallel L (f a) (f' a)) :
    Parallel L (p >>= f) (p' >>= f') := by
  apply hp.andThen
  intro x
  cases x with
  | ok a => exact hf a
  | error e => exact .done _

theorem tryCatch {f f' : ε → Coro Q R ε α} (hp : Parallel L p p') (hf : ∀ e, Parallel L (f e) (f' e)) :
    Parallel L (tryCatch p f) (tryCatch p' f') := by
  apply hp.andThen
  intro x
  cases x with
  | ok a => exact .done _
  | error e => exact hf e

theorem ensuring {cleanup : Except ε α → Coro Q R ε Unit} (hp : Parallel L p p') :
    Parallel L (p.ensuring cleanup) (p'.ensuring cleanup) := hp.andThen fun _ => refl _

/-- A query that differs, followed by the same. -/
theorem call {q q' : Q} (hq : L.same q q') {f : R q → Coro Q R ε β} {f' : R q' → Coro Q R ε β}
    (hf : ∀ r r', HEq r r' → Parallel L (f r) (f' r')) : Parallel L (Coro.call q >>= f) (Coro.call q' >>= f') := .ask hq hf

end Parallel

/-! Runs. -/

/-- One job, with programs that go on in parallel after the same events. -/
structure Likeness.SameTask (t t' : Task Q R ε α J) : Prop where
  job : t'.job = t.job
  residual : Parallel L t.residual t'.residual
  history : List.Forall₂ L.SameEvent t.history t'.history

variable {L}

theorem Likeness.SameTask.finished {t t' : Task Q R ε α J} (h : L.SameTask t t') {x : Except ε α} :
    t.Finished x ↔ t'.Finished x := by
  obtain ⟨j, p, past⟩ := t
  obtain ⟨j', p', past'⟩ := t'
  cases h.residual with
  | done x' => rfl
  | ask => exact iff_of_false nofun nofun

/-- What is read off events that count as the same. -/
theorem Likeness.filterMap_history {h h' : History Q R} (hs : List.Forall₂ L.SameEvent h h') {γ : Type}
    {view : Event Q R → Option γ} (hview : ∀ e e', L.SameEvent e e' → view e = view e') :
    h.filterMap view = h'.filterMap view := by
  induction hs with
  | nil => rfl
  | cons he _ ih => rw [List.filterMap_cons, List.filterMap_cons, hview _ _ he, ih]

theorem forall₂_set {γ : Type} {same : γ → γ → Prop} {l l' : List γ} (h : List.Forall₂ same l l') {i : Nat} {a a' : γ}
    (ha : same a a') : List.Forall₂ same (l.set i a) (l'.set i a') := by
  induction h generalizing i with
  | nil => exact .nil
  | cons hd htl ih =>
    cases i with
    | zero => exact .cons ha htl
    | succ i => exact .cons hd ih

theorem forall₂_getElem? {γ : Type} {same : γ → γ → Prop} {l l' : List γ} (h : List.Forall₂ same l l') {i : Nat} {a : γ}
    (hi : l[i]? = some a) : ∃ a', l'[i]? = some a' ∧ same a a' := by
  induction h generalizing i with
  | nil => cases hi
  | cons hd _ ih =>
    cases i with
    | zero =>
      cases hi
      exact ⟨_, rfl, hd⟩
    | succ i => exact ih hi

variable {S S' : System Q R ε α J W} {w : W} {c : Config Q R ε α J W}

/-- Systems of programs that are parallel, over a world that does not tell them apart, have the same
runs. -/
theorem System.Reachable.parallel (program : ∀ j, Parallel L (S.program j) (S'.program j))
    (enabled : ∀ w i j e e', L.SameEvent e e' → S.enabled w i j e → S'.enabled w i j e')
    (apply : ∀ w i j e e', L.SameEvent e e' → S'.apply w i j e' = S.apply w i j e) (hc : S.Reachable w c) :
    ∃ c', S'.Reachable w c' ∧ c'.world = c.world ∧ List.Forall₂ L.SameTask c.tasks c'.tasks := by
  induction hc with
  | refl => exact ⟨_, .start, rfl, .nil⟩
  | tail _ hs ih =>
    obtain ⟨c', hc', hworld, htasks⟩ := ih
    cases hs with
    | launch j =>
      refine ⟨_, hc'.tail (.launch c' j), hworld, List.rel_append htasks (.cons ⟨rfl, program j, .nil⟩ .nil)⟩
    | answer i j q k past r waiting henabled =>
      obtain ⟨⟨j', residual, past'⟩, hi, hjob, hparallel, hpast⟩ := forall₂_getElem? htasks waiting
      obtain rfl : j' = j := hjob
      cases hparallel with
      | @ask _ q' _ k' hq hresume =>
        have hreply : HEq r (cast (L.replies hq) r) := (cast_heq _ r).symm
        have hsame : L.SameEvent ⟨q, r⟩ ⟨q', cast (L.replies hq) r⟩ := ⟨hq, hreply⟩
        refine ⟨_, hc'.tail (.answer c' i j' q' k' past' (cast (L.replies hq) r) hi ?_), ?_, ?_⟩
        · rw [hworld]
          exact enabled _ i j' _ _ hsame henabled
        · show S'.apply c'.world i j' _ = _
          rw [hworld]
          exact apply _ i j' _ _ hsame
        · exact forall₂_set htasks ⟨rfl, hresume _ _ hreply, .cons hsame hpast⟩

end IpCountryApi.Library
