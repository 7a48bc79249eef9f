import IpCountryApi.Library.KeyedTable

/-! Dictionaries in the order of insertion; a key that is set again keeps its place. -/
namespace IpCountryApi.Library

abbrev Dict (κ υ : Type) := List (κ × υ)

namespace Dict
variable {κ υ : Type} [DecidableEq κ]

def get? (d : Dict κ υ) (k : κ) : Option υ := (KeyedTable.fetch Prod.fst d k).map Prod.snd

def set (d : Dict κ υ) (k : κ) (v : υ) : Dict κ υ := KeyedTable.insertOrMerge Prod.fst (k, v) (fun kv => (kv.1, v)) d

def keys (d : Dict κ υ) : List κ := d.map Prod.fst

/-- The entries of the second one win. -/
def update (d e : Dict κ υ) : Dict κ υ := e.foldl (fun d kv => set d kv.1 kv.2) d

variable {d e : Dict κ υ} {k k' : κ} {v : υ}

omit [DecidableEq κ] in
private theorem overwrite_key (v : υ) (kv : κ × υ) : Prod.fst (kv.1, v) = kv.1 := rfl

theorem get?_cons (a : κ × υ) : get? (a :: d) k = if a.1 = k then some a.2 else get? d k := by
  by_cases h : a.1 = k <;> simp [get?, KeyedTable.fetch, h]

/-- Of a dictionary without repeated keys, the order does not matter to a reader. -/
theorem get?_perm (h : d.Perm e) (hn : (keys d).Nodup) : get? d k = get? e k := by
  induction h with
  | nil => rfl
  | cons a _ ih => rw [get?_cons, get?_cons, ih (List.nodup_cons.mp hn).2]
  | swap a b d =>
    have hab : b.1 ≠ a.1 := fun h => (List.nodup_cons.mp hn).1 (h ▸ .head _)
    rw [get?_cons, get?_cons, get?_cons, get?_cons]
    by_cases ha : a.1 = k
    · rw [if_neg (ha ▸ hab), if_pos ha, if_pos ha]
    · rw [if_neg ha, if_neg ha]
  | trans h₁ _ ih₁ ih₂ =>
    have hn' := (h₁.map Prod.fst).nodup_iff.mp hn
    rw [ih₁ hn, ih₂ hn']

theorem get?_set_self : get? (set d k v) k = some v := by
  rw [get?, set, KeyedTable.fetch_insertOrMerge_self (overwrite_key v)]
  cases KeyedTable.fetch Prod.fst d k <;> rfl

theorem get?_set_ne (h : k' ≠ k) : get? (set d k v) k' = get? d k' :=
  congrArg (Option.map Prod.snd) (KeyedTable.fetch_insertOrMerge_ne (overwrite_key v) d h)

theorem nodup_set (h : (keys d).Nodup) : (keys (set d k v)).Nodup :=
  KeyedTable.nodup_insertOrMerge (overwrite_key v) h

/-- What an entry of the new dictionary was. -/
theorem mem_set {kv : κ × υ} (h : kv ∈ set d k v) : kv ∈ d ∨ kv.2 = v := by
  induction d with
  | nil => exact .inr (congrArg Prod.snd (List.mem_singleton.mp h))
  | cons a d ih =>
    rw [set, KeyedTable.insertOrMerge] at h
    split at h
    · rcases List.mem_cons.mp h with rfl | h
      · exact .inr rfl
      · exact .inl (.tail a h)
    · rcases List.mem_cons.mp h with rfl | h
      · exact .inl (.head d)
      · exact (ih h).imp_left (List.mem_cons_of_mem a)

theorem mem_update {kv : κ × υ} (h : kv ∈ update d e) : kv ∈ d ∨ ∃ kv' ∈ e, kv.2 = kv'.2 := by
  induction e generalizing d with
  | nil => exact .inl h
  | cons a e ih =>
    rcases ih h with h | ⟨kv', hmem, hv⟩
    · rcases mem_set h with h | hv
      · exact .inl h
      · exact .inr ⟨a, .head e, hv⟩
    · exact .inr ⟨kv', .tail a hmem, hv⟩

/-- Of the second dictionary, the last entry under a key counts. -/
theorem get?_update (hn : (keys e).Nodup) : get? (update d e) k = (get? e k).or (get? d k) := by
  induction e generalizing d with
  | nil => rfl
  | cons a e ih =>
    obtain ⟨hhead, htail⟩ := List.nodup_cons.mp hn
    rw [show update d (a :: e) = update (set d a.1 a.2) e from rfl, ih htail]
    by_cases ha : a.1 = k
    · have hnone : get? e k = none := by
        rw [get?, KeyedTable.fetch_none.mpr (ha ▸ hhead)]
        rfl
      have hself : get? (a :: e) k = some a.2 := by rw [get?_cons, if_pos ha]
      rw [hnone, hself, ← ha, get?_set_self]
      rfl
    · have hother : get? (a :: e) k = get? e k := by rw [get?_cons, if_neg ha]
      rw [hother, get?_set_ne (Ne.symm ha)]

end Dict
end IpCountryApi.Library
