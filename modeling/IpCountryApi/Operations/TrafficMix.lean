import IpCountryApi.Operations.TrafficGenerator
import Mathlib.Algebra.Order.BigOperators.Group.Finset
import Mathlib.Data.Int.CardIntervalMod

/-! The mix of the traffic: what the requests with the first numbers are for, and where they
go. -/
namespace IpCountryApi.Operations
open Library

def categoryOf (index : Nat) : Category := (requestFor index "" "").2.1

def expectedStatuses (index : Nat) : List Nat := (requestFor index "" "").2.2

theorem requestFor_snd (index : Nat) (baseUrl cachedIp : String) :
    (requestFor index baseUrl cachedIp).2 = (categoryOf index, expectedStatuses index) := by
  simp only [categoryOf, expectedStatuses, requestFor]
  split_ifs <;> rfl

/-- The statuses that a request of a category may get. -/
def Category.statuses : Category → List Nat
  | .expected4xx => [400, 422]
  | _ => [200]

theorem expectedStatuses_eq (index : Nat) : expectedStatuses index = (categoryOf index).statuses := by
  simp only [expectedStatuses, categoryOf, requestFor]
  split_ifs <;> rfl

/-- The buckets of a category: from the first up to the last, without it. -/
def Category.buckets : Category → Nat × Nat
  | .cachedLookup => (0, 85)
  | .root => (85, 95)
  | .health => (95, 98)
  | .expected4xx => (98, 100)

/-- Requests of a category among the first n. -/
def Category.share (category : Category) (n : Nat) : Nat :=
  n / 100 * (category.buckets.2 - category.buckets.1) + (min (n % 100) category.buckets.2 - category.buckets.1)

theorem categoryOf_eq_iff (index : Nat) (category : Category) : categoryOf index = category ↔
    category.buckets.1 ≤ index % 100 ∧ index % 100 < category.buckets.2 := by
  have hlt := Nat.mod_lt index (show 0 < 100 by decide)
  simp only [categoryOf, requestFor]
  split_ifs <;> cases category <;> simp [Category.buckets] <;> omega

theorem count_category (category : Category) (n : Nat) :
    ((List.range n).map categoryOf).count category = category.share n := by
  induction n with
  | zero => cases category <;> rfl
  | succ n ih =>
    rw [List.range_succ, List.map_append, List.count_append, ih, List.map_singleton, List.count_singleton]
    have hiff := categoryOf_eq_iff n category
    by_cases h : categoryOf n = category
    · have hbucket := hiff.mp h
      rw [h, if_pos (beq_self_eq_true category)]
      cases category <;> simp only [Category.share, Category.buckets] at hbucket ⊢ <;> omega
    · have hbucket := mt hiff.mpr h
      rw [if_neg (by simpa using h)]
      cases category <;> simp only [Category.share, Category.buckets] at hbucket ⊢ <;> omega

/-- Requests to the base URL at a position among the first n, of so many base URLs. -/
def turns (urls n position : Nat) : Nat := n / urls + if position < n % urls then 1 else 0

theorem countP_turns {urls position : Nat} (hp : position < urls) (n : Nat) :
    (List.range n).countP (fun i => i % urls = position) = turns urls n position := by
  have hcount := Nat.count_modEq_card (b := n) (Nat.zero_lt_of_lt hp) position
  rw [Nat.mod_eq_of_lt hp] at hcount
  rw [turns, ← hcount, Nat.count]
  apply List.countP_congr
  intro i _
  simp [Nat.ModEq, Nat.mod_eq_of_lt hp]

/-- A base URL gets the turns of all positions at which it is given, slashes at its end aside. -/
theorem count_baseUrl {baseUrls : List String} (hne : baseUrls ≠ []) (url : String) (n : Nat) :
    ((List.range n).map fun i => baseUrlOf i baseUrls).count url =
      ∑ position ∈ (Finset.range baseUrls.length).filter fun j => rstripSlash (baseUrls.getD j "") = url,
        turns baseUrls.length n position := by
  have card : ∀ p : Nat → Prop, ∀ [DecidablePred p],
      ((Finset.range n).filter p).card = (List.range n).countP fun i => decide (p i) := by
    intro p _
    rw [← Nat.count_eq_card_filter_range, Nat.count]
  calc ((List.range n).map fun i => baseUrlOf i baseUrls).count url
      = ((Finset.range n).filter fun i => baseUrlOf i baseUrls = url).card := by
        rw [card, List.count, List.countP_map]
        rfl
    _ = ∑ position ∈ (Finset.range baseUrls.length).filter fun j => rstripSlash (baseUrls.getD j "") = url,
          (((Finset.range n).filter fun i => baseUrlOf i baseUrls = url).filter fun i => i % baseUrls.length = position).card := by
        apply Finset.card_eq_sum_card_fiberwise
        intro i hi
        have hurl := (Finset.mem_filter.mp hi).2
        exact Finset.mem_filter.mpr ⟨Finset.mem_range.mpr (Nat.mod_lt i (List.length_pos_iff.mpr hne)), hurl⟩
    _ = _ := by
        apply Finset.sum_congr rfl
        intro position hposition
        obtain ⟨hlt, hurl⟩ := Finset.mem_filter.mp hposition
        rw [← countP_turns (Finset.mem_range.mp hlt), ← card, Finset.filter_filter]
        apply congrArg Finset.card
        apply Finset.filter_congr
        intro i _
        rw [baseUrlOf]
        exact ⟨And.right, fun h => ⟨h ▸ hurl, h⟩⟩

theorem Category.text_injective {category category' : Category} (h : category.text = category'.text) : category = category' := by
  revert h
  cases category <;> cases category' <;> decide

end IpCountryApi.Operations
