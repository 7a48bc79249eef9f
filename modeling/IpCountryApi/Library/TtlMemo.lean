import Mathlib.Order.Lattice

/-! Memo tables with expiry, told by their history: each past event may store a value
under a key, and a key answers with the value stored last, until that expires. -/
namespace IpCountryApi.Library.TtlMemo
variable {δ κ υ τ : Type} [DecidableEq κ] [LinearOrder τ]

/-- The value stored last under a key; the history is newest first. -/
def latest (stores : δ → Option (κ × υ)) (past : List δ) (k : κ) : Option υ :=
  past.findSome? fun d => (stores d).bind fun kv => if kv.1 = k then some kv.2 else none

/-- What the table answers at an instant. -/
def live (expires : υ → τ) (t : τ) (stored : Option υ) : Option υ := stored.filter fun v => t < expires v

variable {stores : δ → Option (κ × υ)} {past : List δ} {d : δ} {k k' : κ} {v : υ}

@[simp] theorem latest_nil : latest stores [] k = none := rfl

/-- An event that stores nothing never changes an answer. -/
theorem latest_cons_none (h : stores d = none) : latest stores (d :: past) k = latest stores past k := by
  simp [latest, h]

theorem latest_cons_self (h : stores d = some (k, v)) : latest stores (d :: past) k = some v := by
  simp [latest, h]

/-- Neither does one that stores under another key. -/
theorem latest_cons_ne (h : stores d = some (k', v)) (hk : k' ≠ k) :
    latest stores (d :: past) k = latest stores past k := by
  simp [latest, h, hk]

/-- An answer was stored by some event under that key. -/
theorem stored_of_latest (h : latest stores past k = some v) : ∃ d ∈ past, stores d = some (k, v) := by
  obtain ⟨d, hd, hv⟩ := List.exists_of_findSome?_eq_some h
  obtain ⟨⟨k', v'⟩, hs, hk⟩ := Option.bind_eq_some_iff.mp hv
  split at hk
  · rename_i he
    exact ⟨d, hd, by rw [hs, ← Option.some.inj hk, ← he]⟩
  · cases hk

variable {expires : υ → τ} {t : τ} {stored : Option υ}

theorem live_eq_some : live expires t stored = some v ↔ stored = some v ∧ t < expires v := by
  simp [live, Option.filter_eq_some_iff]

theorem live_eq_none : live expires t stored = none ↔ ∀ v, stored = some v → expires v ≤ t := by
  simp [live, Option.filter_eq_none_iff]

end IpCountryApi.Library.TtlMemo
