import Mathlib.Data.List.Nodup

/-! Lists of records under a key, with the insert-or-merge of a relational upsert. -/
namespace IpCountryApi.Library.KeyedTable
variable {κ ρ : Type} [DecidableEq κ] (key : ρ → κ)

/-- Merge into the record that has the new record's key, or append the new record. -/
def insertOrMerge (new : ρ) (merge : ρ → ρ) : List ρ → List ρ
  | [] => [new]
  | r :: table => if key r = key new then merge r :: table else r :: insertOrMerge new merge table

def fetch (table : List ρ) (k : κ) : Option ρ := table.find? fun r => key r = k

variable {key}

theorem fetch_key {table : List ρ} {k : κ} {r : ρ} (h : fetch key table k = some r) : key r = k := by
  simpa using List.find?_some h

theorem fetch_mem {table : List ρ} {k : κ} {r : ρ} (h : fetch key table k = some r) : r ∈ table :=
  List.mem_of_find?_eq_some h

theorem fetch_none {table : List ρ} {k : κ} : fetch key table k = none ↔ k ∉ table.map key := by
  simp [fetch]

theorem fetch_eq_some {table : List ρ} (hn : (table.map key).Nodup) {r : ρ} (hr : r ∈ table) :
    fetch key table (key r) = some r := by
  induction table with
  | nil => simp at hr
  | cons a table ih =>
    rw [List.map_cons, List.nodup_cons] at hn
    by_cases ha : key a = key r
    · rcases List.mem_cons.mp hr with rfl | hr
      · simp [fetch]
      · exact absurd (List.mem_map.mpr ⟨r, hr, ha.symm⟩) hn.1
    · have hr' := (List.mem_cons.mp hr).resolve_left fun he => ha (by rw [he])
      rw [← ih hn.2 hr']
      simp [fetch, ha]

variable {new : ρ} {merge : ρ → ρ}

theorem keys_insertOrMerge (hm : ∀ r, key (merge r) = key r) (table : List ρ) :
    (insertOrMerge key new merge table).map key =
      if key new ∈ table.map key then table.map key else table.map key ++ [key new] := by
  induction table with
  | nil => simp [insertOrMerge]
  | cons a table ih =>
    by_cases ha : key a = key new
    · simp [insertOrMerge, ha, hm]
    · rw [insertOrMerge, if_neg ha, List.map_cons, ih]
      by_cases hk : key new ∈ table.map key
      · simp only [List.map_cons, List.mem_cons, hk, or_true, if_true]
      · have : key new ∉ (a :: table).map key := by
          rw [List.map_cons, List.mem_cons]
          exact fun h => h.elim (fun he => ha he.symm) hk
        rw [if_neg hk, if_neg this, List.map_cons, List.cons_append]

theorem nodup_insertOrMerge (hm : ∀ r, key (merge r) = key r) {table : List ρ}
    (hn : (table.map key).Nodup) : ((insertOrMerge key new merge table).map key).Nodup := by
  rw [keys_insertOrMerge hm]
  split
  · exact hn
  · rename_i hk
    exact List.nodup_append.mpr ⟨hn, by simp, fun a ha b hb he => hk (by simp_all)⟩

theorem fetch_insertOrMerge_self (hm : ∀ r, key (merge r) = key r) (table : List ρ) :
    fetch key (insertOrMerge key new merge table) (key new) =
      some (((fetch key table (key new)).map merge).getD new) := by
  induction table with
  | nil => simp [insertOrMerge, fetch]
  | cons a table ih =>
    by_cases ha : key a = key new
    · simp [insertOrMerge, ha, fetch, hm]
    · simp only [fetch] at ih
      simp [insertOrMerge, ha, fetch, ih]

theorem fetch_insertOrMerge_ne (hm : ∀ r, key (merge r) = key r) (table : List ρ) {k : κ} (hk : k ≠ key new) :
    fetch key (insertOrMerge key new merge table) k = fetch key table k := by
  induction table with
  | nil => simp [insertOrMerge, fetch, hk.symm]
  | cons a table ih =>
    by_cases ha : key a = key new
    · have hne : key a ≠ k := fun he => hk (by rw [← he, ha])
      simp [insertOrMerge, ha, fetch, hm, hk.symm]
    · simp only [fetch] at ih
      by_cases hak : key a = k
      · simp [insertOrMerge, fetch, hak]
        simp [← hak, ha]
      · simp [insertOrMerge, ha, fetch, hak, ih]

/-- A record of the new table is an old record under another key, or the one the
upsert wrote. -/
theorem mem_insertOrMerge (hm : ∀ r, key (merge r) = key r) {table : List ρ} (hn : (table.map key).Nodup)
    {r : ρ} (hr : r ∈ insertOrMerge key new merge table) :
    (r ∈ table ∧ key r ≠ key new) ∨ r = ((fetch key table (key new)).map merge).getD new := by
  have hn' : ((insertOrMerge key new merge table).map key).Nodup := nodup_insertOrMerge hm hn
  have hf := fetch_eq_some hn' hr
  by_cases hk : key r = key new
  · rw [hk, fetch_insertOrMerge_self hm] at hf
    exact .inr (Option.some.inj hf).symm
  · rw [fetch_insertOrMerge_ne hm _ hk] at hf
    exact .inl ⟨fetch_mem hf, hk⟩

/-- Every old record is still there, or its merge is. -/
theorem kept_insertOrMerge (key : ρ → κ) (new : ρ) (merge : ρ → ρ) {table : List ρ} {r : ρ} (hr : r ∈ table) :
    r ∈ insertOrMerge key new merge table ∨ merge r ∈ insertOrMerge key new merge table := by
  induction table with
  | nil => simp at hr
  | cons a table ih =>
    by_cases ha : key a = key new
    · rw [insertOrMerge, if_pos ha]
      rcases List.mem_cons.mp hr with rfl | hr
      · exact .inr List.mem_cons_self
      · exact .inl (List.mem_cons_of_mem _ hr)
    · rw [insertOrMerge, if_neg ha]
      rcases List.mem_cons.mp hr with rfl | hr
      · exact .inl List.mem_cons_self
      · exact (ih hr).imp (List.mem_cons_of_mem _) (List.mem_cons_of_mem _)

end IpCountryApi.Library.KeyedTable
