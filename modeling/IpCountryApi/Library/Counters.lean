import IpCountryApi.Library.Overwrites
import Mathlib.Data.List.Sort
import Mathlib.Data.String.Basic

/-! Dictionaries that count, and their entries in the order of the keys. -/
namespace IpCountryApi.Library.Dict
variable {κ : Type} [DecidableEq κ]

def increment (d : Dict κ Nat) (k : κ) : Dict κ Nat := set d k ((get? d k).getD 0 + 1)

def counter (keys : List κ) : Dict κ Nat := keys.foldl increment []

/-- dict(sorted(d.items())), where no key is there twice. -/
def sortedItems {υ : Type} (d : Dict String υ) : Dict String υ := d.insertionSort fun a b => a.1 ≤ b.1

variable {d : Dict κ Nat} {k k' : κ}

theorem get?_increment : get? (increment d k) k' = if k = k' then some ((get? d k).getD 0 + 1) else get? d k' := by
  split
  · rename_i h
    rw [← h, increment, get?_set_self]
  · rename_i h
    exact get?_set_ne (Ne.symm h)

theorem total_increment : total (increment d k) = total d + 1 := by
  have h := total_set (d := d) (k := k) (v := (get? d k).getD 0 + 1)
  rw [increment]
  omega

theorem nodup_increment (h : (keys d).Nodup) : (keys (increment d k)).Nodup := nodup_set h

theorem counter_concat (ks : List κ) : counter (ks ++ [k]) = increment (counter ks) k := List.foldl_concat ..

theorem nodup_counter (ks : List κ) : (keys (counter ks)).Nodup := by
  induction ks using List.reverseRecOn with
  | nil => exact List.nodup_nil
  | append_singleton ks k ih =>
    rw [counter_concat]
    exact nodup_increment ih

theorem total_counter (ks : List κ) : total (counter ks) = ks.length := by
  induction ks using List.reverseRecOn with
  | nil => rfl
  | append_singleton ks k ih => rw [counter_concat, total_increment, ih, List.length_append, List.length_singleton]

/-- A key is there if it was counted at all. -/
theorem get?_counter (ks : List κ) : get? (counter ks) k = if ks.count k = 0 then none else some (ks.count k) := by
  induction ks using List.reverseRecOn with
  | nil => rfl
  | append_singleton ks k' ih =>
    rw [counter_concat, get?_increment, List.count_append, List.count_singleton]
    by_cases h : k' = k
    · subst h
      rw [ih]
      simp only [if_true, beq_self_eq_true, Nat.add_eq_zero_iff, one_ne_zero, and_false, if_false]
      split
      · rename_i hnone
        rw [hnone]
        rfl
      · rfl
    · simp [h, ih]

section Sorted
variable {υ : Type} {d : Dict String υ}

theorem perm_sortedItems : (sortedItems d).Perm d := List.perm_insertionSort _ d

theorem get?_sortedItems (h : (keys d).Nodup) (k : String) : get? (sortedItems d) k = get? d k :=
  get?_perm perm_sortedItems ((perm_sortedItems.map Prod.fst).nodup_iff.mpr h)

theorem total_sortedItems (d : Dict String Nat) : total (sortedItems d) = total d :=
  (perm_sortedItems.map Prod.snd).sum_nat

end Sorted

/-- The counts of a list under sorted keys. -/
theorem get?_sorted_counter (ks : List String) (k : String) :
    get? (sortedItems (counter ks)) k = if ks.count k = 0 then none else some (ks.count k) := by
  rw [get?_sortedItems (nodup_counter ks), get?_counter]

theorem total_sorted_counter (ks : List String) : total (sortedItems (counter ks)) = ks.length := by
  rw [total_sortedItems, total_counter]

end IpCountryApi.Library.Dict
