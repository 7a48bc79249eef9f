import IpCountryApi.Library.Dict
import Mathlib.Algebra.GroupWithZero.Nat
import Mathlib.Data.List.Induction

/-! Counts that are entered one after another in a dictionary, where a count under a key that is
there already replaces the earlier one. -/
namespace IpCountryApi.Library.Dict
variable {κ : Type} [DecidableEq κ] {d e : Dict κ Nat} {k : κ} {v : Nat} {a : κ × Nat}

def total (d : Dict κ Nat) : Nat := (d.map Prod.snd).sum

/-- The counts entered under one key. -/
def totalFor (e : Dict κ Nat) (k : κ) : Nat := total (e.filter fun kv => kv.1 = k)

/-- Nothing is lost: only the last count under a key is more than zero. -/
def LastCounts (e : Dict κ Nat) : Prop := e.Pairwise fun a b => a.1 = b.1 → a.2 = 0

omit [DecidableEq κ] in
@[simp] theorem total_append : total (d ++ e) = total d + total e := by simp [total]

omit [DecidableEq κ] in
@[simp] theorem total_singleton : total [a] = a.2 := by simp [total]

theorem totalFor_concat : totalFor (e ++ [a]) k = totalFor e k + if a.1 = k then a.2 else 0 := by
  rw [totalFor, List.filter_append, total_append, totalFor]
  by_cases h : a.1 = k <;> simp [h, total]

theorem totalFor_eq_zero : totalFor e k = 0 ↔ ∀ b ∈ e, b.1 = k → b.2 = 0 := by
  simp only [totalFor, total, List.sum_eq_zero_iff_forall_eq_nat, List.forall_mem_map, List.mem_filter, decide_eq_true_eq,
    and_imp]

theorem update_concat : update d (e ++ [a]) = set (update d e) a.1 a.2 := by
  rw [update, List.foldl_concat]
  rfl

theorem lastCounts_concat : LastCounts (e ++ [a]) ↔ LastCounts e ∧ totalFor e a.1 = 0 := by
  simp [LastCounts, List.pairwise_append, totalFor_eq_zero]

theorem get?_update_concat : get? (update d (e ++ [a])) k = if a.1 = k then some a.2 else get? (update d e) k := by
  rw [update_concat]
  split
  · rename_i h
    rw [← h, get?_set_self]
  · rename_i h
    exact get?_set_ne (Ne.symm h)

theorem total_set : total (set d k v) + (get? d k).getD 0 = total d + v := by
  induction d with
  | nil => simp [set, KeyedTable.insertOrMerge, get?, KeyedTable.fetch, total]
  | cons a d ih =>
    rw [get?_cons, set, KeyedTable.insertOrMerge]
    by_cases h : a.1 = k
    · simp only [h, if_true, total, List.map_cons, List.sum_cons, Option.getD_some]
      omega
    · rw [set] at ih
      simp only [h, if_false, total, List.map_cons, List.sum_cons] at ih ⊢
      omega

theorem get?_update_le (e : Dict κ Nat) (k : κ) : (get? (update [] e) k).getD 0 ≤ totalFor e k := by
  induction e using List.reverseRecOn with
  | nil => exact Nat.zero_le _
  | append_singleton e a ih =>
    rw [get?_update_concat, totalFor_concat]
    split
    · exact Nat.le_add_left _ _
    · exact ih

/-- Each key has what was entered under it. -/
theorem get?_update_iff : (∀ k, (get? (update [] e) k).getD 0 = totalFor e k) ↔ LastCounts e := by
  induction e using List.reverseRecOn with
  | nil => exact iff_of_true (fun _ => rfl) List.Pairwise.nil
  | append_singleton e a ih =>
    simp only [get?_update_concat, totalFor_concat, lastCounts_concat, ← ih]
    refine ⟨fun h => ?_, fun ⟨h, hzero⟩ k => ?_⟩
    · have hzero : totalFor e a.1 = 0 := by simpa using h a.1
      refine ⟨fun k => ?_, hzero⟩
      by_cases hk : a.1 = k
      · have hle := get?_update_le e k
        rw [← hk, hzero] at hle ⊢
        exact Nat.le_zero.mp hle
      · simpa [hk] using h k
    · by_cases hk : a.1 = k
      · rw [if_pos hk, if_pos hk, ← hk, hzero, Nat.zero_add, Option.getD_some]
      · simpa [hk] using h k

/-- The sum is that of what was entered. -/
theorem total_update_iff : total (update [] e) ≤ total e ∧ (total (update [] e) = total e ↔ LastCounts e) := by
  induction e using List.reverseRecOn with
  | nil => exact ⟨Nat.le_refl _, iff_of_true rfl List.Pairwise.nil⟩
  | append_singleton e a ih =>
    obtain ⟨hle, hiff⟩ := ih
    have hset := total_set (d := update [] e) (k := a.1) (v := a.2)
    rw [update_concat, total_append, total_singleton, lastCounts_concat]
    refine ⟨by omega, fun h => ?_, fun ⟨hlast, hzero⟩ => ?_⟩
    · have hlast : LastCounts e := hiff.mp (by omega)
      have hkey := get?_update_iff.mpr hlast a.1
      exact ⟨hlast, by omega⟩
    · have hkey := get?_update_iff.mpr hlast a.1
      have hsame := hiff.mpr hlast
      omega

omit [DecidableEq κ] in
/-- A dictionary made of a value for each key. -/
theorem get?_map_pair [DecidableEq κ] {υ : Type} (keys : List κ) (f : κ → υ) (k : κ) :
    get? (keys.map fun k => (k, f k)) k = if k ∈ keys then some (f k) else none := by
  induction keys with
  | nil => rfl
  | cons k' keys ih =>
    rw [List.map_cons, get?_cons, ih]
    by_cases h : k' = k
    · rw [if_pos h, if_pos (h ▸ .head keys), h]
    · simp [h, Ne.symm h]

end IpCountryApi.Library.Dict
