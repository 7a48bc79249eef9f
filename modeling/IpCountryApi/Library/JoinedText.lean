import Mathlib.Algebra.GroupWithZero.Nat
import Mathlib.Data.List.Basic

/-! Texts joined by a separator, and lists read item by item. -/
namespace IpCountryApi.Library
variable {α β : Type}

theorem mem_joined {sep c : α} {parts : List (List α)} (hc : c ∈ [sep].intercalate parts) :
    c = sep ∨ ∃ part ∈ parts, c ∈ part := by
  induction parts with
  | nil => simp at hc
  | cons part parts ih =>
    cases parts with
    | nil =>
      rw [List.intercalate_singleton] at hc
      exact .inr ⟨part, by simp, hc⟩
    | cons next parts =>
      rw [List.intercalate_cons_cons, List.mem_append, List.mem_append, List.mem_singleton] at hc
      rcases hc with (hc | hc) | hc
      · exact .inr ⟨part, by simp, hc⟩
      · exact .inl hc
      · rcases ih hc with hc | ⟨p, hp, hc⟩
        · exact .inl hc
        · exact .inr ⟨p, by simp [hp], hc⟩

theorem sep_mem_joined {sep : α} {parts : List (List α)} (h : 2 ≤ parts.length) :
    sep ∈ [sep].intercalate parts := by
  match parts, h with
  | a :: b :: rest, _ => simp [List.intercalate_cons_cons]

theorem length_joined {sep : α} {parts : List (List α)} (h : parts ≠ []) :
    ([sep].intercalate parts).length + 1 = (parts.map List.length).sum + parts.length := by
  induction parts with
  | nil => exact absurd rfl h
  | cons part parts ih =>
    cases parts with
    | nil => simp
    | cons next parts =>
      have hrest := ih (List.cons_ne_nil next parts)
      simp only [List.intercalate_cons_cons, List.length_append, List.map_cons, List.sum_cons, List.length_cons,
        List.length_nil] at hrest ⊢
      omega

/-- Empty parts count for nothing. -/
theorem sum_length_le [DecidableEq α] {k : Nat} {parts : List (List α)} (h : ∀ part ∈ parts, part.length ≤ k) :
    (parts.map List.length).sum ≤ k * parts.countP (· ≠ []) := by
  induction parts with
  | nil => simp
  | cons part parts ih =>
    have hrest := ih fun p hp => h p (.tail _ hp)
    rw [List.map_cons, List.sum_cons, List.countP_cons]
    by_cases hpart : part = []
    · rw [if_neg (by simp [hpart]), hpart, List.length_nil, Nat.zero_add, Nat.add_zero]
      exact hrest
    · have hk := h part (.head _)
      rw [if_pos (by simp [hpart]), Nat.mul_succ]
      omega

theorem mapM_map_some {f : α → β} {g : β → Option α} {l : List α} (h : ∀ a ∈ l, g (f a) = some a) :
    (l.map f).mapM g = some l := by
  induction l with
  | nil => rfl
  | cons a l ih =>
    rw [List.map_cons, List.mapM_cons, h a (by simp), ih fun x hx => h x (by simp [hx])]
    rfl

theorem mapM_append_some {f : α → Option β} {l m : List α} {r : List β} (h : (l ++ m).mapM f = some r) :
    ∃ a b, l.mapM f = some a ∧ m.mapM f = some b ∧ r = a ++ b := by
  rw [List.mapM_append] at h
  obtain ⟨a, ha, h⟩ := Option.bind_eq_some_iff.mp h
  obtain ⟨b, hb, h⟩ := Option.bind_eq_some_iff.mp h
  exact ⟨a, b, ha, hb, (Option.some.inj h).symm⟩

theorem mapM_some_of_mem {f : α → Option β} {l : List α} {r : List β} (h : l.mapM f = some r) {a : α}
    (ha : a ∈ l) : ∃ b, f a = some b := by
  induction l generalizing r with
  | nil => simp at ha
  | cons x l ih =>
    rw [List.mapM_cons] at h
    obtain ⟨b, hb, h⟩ := Option.bind_eq_some_iff.mp h
    obtain ⟨bs, hbs, _⟩ := Option.bind_eq_some_iff.mp h
    rcases List.mem_cons.mp ha with rfl | ha
    · exact ⟨b, hb⟩
    · exact ih hbs ha

end IpCountryApi.Library
