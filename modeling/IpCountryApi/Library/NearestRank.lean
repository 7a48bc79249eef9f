import Mathlib.Data.List.Sort
import Mathlib.Data.Rat.Floor

/-! Order statistics: the value at a position of a sorted list, told by how many values are
below it. -/
namespace IpCountryApi.Library
variable {α : Type} [LinearOrder α]

section Sorted
variable {sorted : List α} {i : Nat} (hs : sorted.Pairwise (· ≤ ·)) (hi : i < sorted.length)
include hs hi

theorem countP_lt_le_index : sorted.countP (· < sorted[i]) ≤ i := by
  have hdrop : (sorted.drop i).countP (· < sorted[i]) = 0 := by
    rw [List.countP_eq_zero]
    intro v hv
    obtain ⟨n, hn, rfl⟩ := List.mem_iff_getElem.mp hv
    rw [List.length_drop] at hn
    rw [List.getElem_drop]
    rcases Nat.eq_zero_or_pos n with rfl | hpos
    · simp
    · simpa using List.pairwise_iff_getElem.mp hs i (i + n) hi (by omega) (by omega)
  calc sorted.countP (· < sorted[i])
      = (sorted.take i).countP (· < sorted[i]) + (sorted.drop i).countP (· < sorted[i]) := by
        rw [← List.countP_append, List.take_append_drop]
    _ ≤ i := by
        rw [hdrop]
        exact List.countP_le_length.trans (List.length_take_le i sorted)

theorem index_lt_countP_le : i < sorted.countP (· ≤ sorted[i]) := by
  have htake : (sorted.take (i + 1)).countP (· ≤ sorted[i]) = i + 1 := by
    have hall : ∀ v ∈ sorted.take (i + 1), decide (v ≤ sorted[i]) = true := by
      intro v hv
      obtain ⟨n, hn, rfl⟩ := List.mem_iff_getElem.mp hv
      rw [List.length_take] at hn
      rw [List.getElem_take, decide_eq_true_eq]
      rcases Nat.lt_or_ge n i with hlt | hge
      · exact List.pairwise_iff_getElem.mp hs n i (by omega) hi hlt
      · obtain rfl : n = i := by omega
        exact le_rfl
    rw [List.countP_eq_length.mpr hall, List.length_take]
    omega
  have hle := (List.take_sublist (i + 1) sorted).countP_le (p := fun v => decide (v ≤ sorted[i]))
  omega

end Sorted

/-- The value of nearest rank: fewer values are below it than the quantile asks for, and as
many as that are not above it. -/
structure NearestRank (values : List α) (quantile : ℚ) (v : α) : Prop where
  mem : v ∈ values
  below : (values.countP (· < v) : ℚ) < quantile * values.length
  notAbove : quantile * values.length ≤ values.countP (· ≤ v)

namespace NearestRank
variable {values : List α} {quantile quantile' : ℚ} {v w : α}

/-- A larger quantile has no smaller value. -/
theorem mono (hv : NearestRank values quantile v) (hw : NearestRank values quantile' w) (hle : quantile ≤ quantile') :
    v ≤ w := by
  by_contra hlt
  have hcount : values.countP (· ≤ w) ≤ values.countP (· < v) := by
    apply List.countP_mono_left
    intro x _ hx
    exact decide_eq_true ((of_decide_eq_true hx).trans_lt (not_le.mp hlt))
  have hquantiles : quantile * values.length ≤ quantile' * values.length :=
    mul_le_mul_of_nonneg_right hle (Nat.cast_nonneg _)
  have habove := hw.notAbove
  have hbelow := hv.below
  have hcast : (values.countP (· ≤ w) : ℚ) ≤ values.countP (· < v) := by exact_mod_cast hcount
  exact absurd (hquantiles.trans (habove.trans hcast)) (not_le.mpr hbelow)

end NearestRank

/-- Sorting and counting positions finds the value of nearest rank. -/
theorem nearestRank_sorted {values : List α} {quantile : ℚ} (hpos : 0 < quantile) (hle : quantile ≤ 1)
    (hne : values ≠ []) : ∃ v, (values.insertionSort (· ≤ ·))[⌈quantile * values.length⌉.toNat - 1]? = some v ∧
      NearestRank values quantile v := by
  have hlength : (0 : ℚ) < values.length := by exact_mod_cast List.length_pos_iff.mpr hne
  have hceil : 0 < ⌈quantile * values.length⌉ := Int.ceil_pos.mpr (mul_pos hpos hlength)
  have hceil' : ⌈quantile * values.length⌉ ≤ (values.length : ℤ) := by
    apply Int.ceil_le.mpr
    exact_mod_cast mul_le_of_le_one_left hlength.le hle
  have hperm := List.perm_insertionSort (· ≤ ·) values
  have hi : ⌈quantile * values.length⌉.toNat - 1 < (values.insertionSort (· ≤ ·)).length := by
    rw [hperm.length_eq]
    omega
  have hs := List.pairwise_insertionSort (· ≤ ·) values
  have hbelow := countP_lt_le_index hs hi
  have habove := index_lt_countP_le hs hi
  rw [hperm.countP_eq] at hbelow habove
  refine ⟨_, List.getElem?_eq_getElem hi, hperm.mem_iff.mp (List.getElem_mem hi), ?_, ?_⟩
  · exact_mod_cast Int.lt_ceil.mp (lt_of_le_of_lt (Int.ofNat_le.mpr hbelow) (by omega))
  · exact_mod_cast Int.ceil_le.mp (le_trans (by omega) (Int.ofNat_le.mpr (Nat.succ_le_of_lt habove)))

end IpCountryApi.Library
