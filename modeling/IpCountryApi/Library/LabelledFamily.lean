import IpCountryApi.Library.KeyedTable
import Mathlib.Algebra.BigOperators.Group.Finset.Basic
import Mathlib.Algebra.GroupWithZero.Nat

/-! Metric families: one value for each label tuple used so far. A label tuple
comes into existence when it is first updated. -/
namespace IpCountryApi.Library

structure Family (κ β : Type) where
  children : List (κ × β)
  distinct : (children.map Prod.fst).Nodup
  deriving DecidableEq

namespace Family
variable {κ β : Type} [DecidableEq κ]

def empty : Family κ β := ⟨[], List.nodup_nil⟩

def labels (f : Family κ β) : List κ := f.children.map Prod.fst

def get? (f : Family κ β) (k : κ) : Option β := (KeyedTable.fetch Prod.fst f.children k).map Prod.snd

omit [DecidableEq κ] in
private theorem merge_key (g : β → β) (kb : κ × β) : Prod.fst (kb.1, g kb.2) = kb.1 := rfl

def update (f : Family κ β) (k : κ) (start : β) (g : β → β) : Family κ β :=
  ⟨KeyedTable.insertOrMerge Prod.fst (k, g start) (fun kb => (kb.1, g kb.2)) f.children,
    KeyedTable.nodup_insertOrMerge (merge_key g) f.distinct⟩

omit [DecidableEq κ] in
@[simp] theorem labels_empty : (empty : Family κ β).labels = [] := rfl

theorem mem_labels_update {f : Family κ β} {k k' : κ} {start : β} {g : β → β} :
    k' ∈ (f.update k start g).labels ↔ k' = k ∨ k' ∈ f.labels := by
  rw [labels, update, KeyedTable.keys_insertOrMerge (merge_key g)]
  split
  · rename_i hk
    exact (or_iff_right_of_imp fun he => he ▸ hk).symm
  · simp [labels, or_comm]

/-! Counters. -/

def add (f : Family κ Nat) (k : κ) (n : Nat) : Family κ Nat := f.update k 0 (· + n)

def inc (f : Family κ Nat) (k : κ) : Family κ Nat := f.update k 0 (· + 1)

/-- A series that does not exist reads as zero. -/
def value (f : Family κ Nat) (k : κ) : Nat := (f.get? k).getD 0

/-- The sum over the series whose labels satisfy p. -/
def sumOver (f : Family κ Nat) (p : κ → Bool) : Nat :=
  ((f.children.filter fun kn => p kn.1).map Prod.snd).sum

def total (f : Family κ Nat) : Nat := f.sumOver fun _ => true

theorem sumOver_add (f : Family κ Nat) (k : κ) (n : Nat) (p : κ → Bool) :
    (f.add k n).sumOver p = f.sumOver p + if p k then n else 0 := by
  obtain ⟨children, distinct⟩ := f
  simp only [sumOver, add, update]
  clear distinct
  induction children with
  | nil => cases hp : p k <;> simp [KeyedTable.insertOrMerge, hp]
  | cons kn children ih =>
    by_cases hk : kn.1 = k
    · subst hk
      cases hp : p kn.1
      · simp [KeyedTable.insertOrMerge, hp]
      · simp [KeyedTable.insertOrMerge, hp]
        omega
    · rw [KeyedTable.insertOrMerge, if_neg hk]
      cases hp : p kn.1
      · simpa [hp] using ih
      · simp only [List.filter_cons, hp, if_true, List.map_cons, List.sum_cons, ih]
        omega

theorem sumOver_inc (f : Family κ Nat) (k : κ) (p : κ → Bool) :
    (f.inc k).sumOver p = f.sumOver p + if p k then 1 else 0 := sumOver_add f k 1 p

omit [DecidableEq κ] in
theorem exists_label {f : Family κ Nat} {p : κ → Bool} (h : f.sumOver p ≠ 0) : ∃ k ∈ f.labels, p k = true := by
  by_contra hnone
  push Not at hnone
  refine h ?_
  have hfilter : (f.children.filter fun kn => p kn.1) = [] :=
    List.filter_eq_nil_iff.mpr fun kn hkn => hnone kn.1 (List.mem_map_of_mem hkn)
  rw [sumOver, hfilter]
  rfl

/-! How much the series have grown since an earlier reading. -/

/-- A series that did not exist has grown from zero. -/
def growths (after before : Family κ Nat) (p : κ → Bool) : List Nat :=
  (after.children.filter fun kn => p kn.1).map fun kn => kn.2 - before.value kn.1

theorem value_of_mem {f : Family κ Nat} {kn : κ × Nat} (h : kn ∈ f.children) : f.value kn.1 = kn.2 := by
  rw [value, get?, KeyedTable.fetch_eq_some f.distinct h]
  rfl

theorem value_of_not_mem {f : Family κ Nat} {k : κ} (h : k ∉ f.labels) : f.value k = 0 := by
  rw [value, get?, KeyedTable.fetch_none.mpr h]
  rfl

omit [DecidableEq κ] in
private theorem filter_children (f : Family κ Nat) (p : κ → Bool) :
    (f.children.filter fun kn => p kn.1).map Prod.fst = f.labels.filter p := by
  rw [labels, List.filter_map]
  rfl

/-- Series are selected by their labels alone. -/
theorem growths_eq_nil {after before : Family κ Nat} {p : κ → Bool} :
    after.growths before p = [] ↔ ∀ k ∈ after.labels, p k = false := by
  rw [growths, List.map_eq_nil_iff, ← List.map_eq_nil_iff (f := Prod.fst), filter_children, List.filter_eq_nil_iff]
  simp only [Bool.not_eq_true]

/-- A sum over series is one over labels. -/
private theorem sum_children {f : Family κ Nat} (p : κ → Bool) (weight : κ → Nat → Nat) :
    ((f.children.filter fun kn => p kn.1).map fun kn => weight kn.1 kn.2).sum =
      ∑ k ∈ f.labels.toFinset with p k, weight k (f.value k) := by
  have hvalue : ((f.children.filter fun kn => p kn.1).map fun kn => weight kn.1 kn.2) =
      (f.labels.filter p).map fun k => weight k (f.value k) := by
    rw [labels, List.filter_map, List.map_map]
    apply List.map_congr_left
    intro kn hkn
    rw [Function.comp_apply, value_of_mem (List.mem_of_mem_filter hkn)]
  rw [hvalue, ← List.toFinset_filter]
  exact (List.sum_toFinset _ (f.distinct.filter _)).symm

theorem sumOver_eq (f : Family κ Nat) (p : κ → Bool) : f.sumOver p = ∑ k ∈ f.labels.toFinset with p k, f.value k :=
  sum_children p fun _ n => n

/-- The value of a series is the sum over it alone. -/
theorem value_eq_sumOver (f : Family κ Nat) (k : κ) : f.value k = f.sumOver (· = k) := by
  rw [sumOver_eq]
  by_cases hk : k ∈ f.labels
  · rw [Finset.sum_eq_single_of_mem k (by simp [hk])]
    intro k' hk' hne
    exact absurd (by simpa using (Finset.mem_filter.mp hk').2) hne
  · rw [value_of_not_mem hk, Finset.sum_eq_zero]
    intro k' hk'
    obtain ⟨hin, he⟩ := Finset.mem_filter.mp hk'
    rw [of_decide_eq_true he] at hin
    exact absurd (List.mem_toFinset.mp hin) hk

/-- If no series has fallen, the growths lead from the earlier sum to the later one. -/
theorem sum_growths {before after : Family κ Nat} (h : ∀ k, before.value k ≤ after.value k) (p : κ → Bool) :
    (after.growths before p).sum + before.sumOver p = after.sumOver p := by
  have hbefore : before.sumOver p = ∑ k ∈ after.labels.toFinset with p k, before.value k := by
    rw [sumOver_eq]
    apply Finset.sum_congr_of_eq_on_inter
    · intro k hk hout
      have hn : k ∉ after.labels := fun hin => hout (by simp_all)
      have hle := h k
      rw [value_of_not_mem hn] at hle
      exact Nat.le_zero.mp hle
    · intro k hk hout
      exact value_of_not_mem fun hin => hout (by simp_all)
    · intro k _ _
      rfl
  rw [growths, sum_children p fun k n => n - before.value k, hbefore, sumOver_eq, ← Finset.sum_add_distrib]
  apply Finset.sum_congr rfl
  intro k _
  exact Nat.sub_add_cancel (h k)

/-! Histograms keep their observations, newest first. -/

def observe {δ : Type} (f : Family κ (List δ)) (k : κ) (d : δ) : Family κ (List δ) := f.update k [] (d :: ·)

theorem mem_labels_inc {f : Family κ Nat} {k k' : κ} : k' ∈ (f.inc k).labels ↔ k' = k ∨ k' ∈ f.labels :=
  mem_labels_update

theorem mem_labels_observe {δ : Type} {f : Family κ (List δ)} {k k' : κ} {d : δ} :
    k' ∈ (f.observe k d).labels ↔ k' = k ∨ k' ∈ f.labels := mem_labels_update

/-! Families read off another one. -/

def mapValues {γ : Type} (f : Family κ β) (g : β → γ) : Family κ γ :=
  ⟨f.children.map fun kb => (kb.1, g kb.2), by rw [List.map_map]; exact f.distinct⟩

omit [DecidableEq κ] in
@[simp] theorem labels_mapValues {γ : Type} (f : Family κ β) (g : β → γ) : (f.mapValues g).labels = f.labels := by
  rw [labels, mapValues, List.map_map]
  rfl

theorem mapValues_update {γ : Type} {φ : β → γ} {g : β → β} {g' : γ → γ} (h : ∀ b, φ (g b) = g' (φ b))
    (f : Family κ β) (k : κ) (start : β) : (f.update k start g).mapValues φ = (f.mapValues φ).update k (φ start) g' := by
  obtain ⟨children, distinct⟩ := f
  simp only [mapValues, update, mk.injEq]
  clear distinct
  induction children with
  | nil => simp [KeyedTable.insertOrMerge, h]
  | cons kb children ih =>
    by_cases hk : kb.1 = k
    · simp [KeyedTable.insertOrMerge, hk, h]
    · simpa [KeyedTable.insertOrMerge, hk] using ih

/-- The observations that satisfy q are counted series by series. -/
theorem countP_observe {δ : Type} (q : δ → Bool) (f : Family κ (List δ)) (k : κ) (d : δ) :
    (f.observe k d).mapValues (List.countP q) = (f.mapValues (List.countP q)).add k (if q d then 1 else 0) :=
  mapValues_update (fun _ => List.countP_cons) f k []

end Family
end IpCountryApi.Library
