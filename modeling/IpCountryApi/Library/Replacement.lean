import Mathlib.Data.List.Infix
import Mathlib.Data.List.Basic

/-! Substring replacement as Python's str.replace does it: from left to right, without overlaps.
The pattern must not be empty. -/
namespace IpCountryApi.Library
variable {α : Type} [DecidableEq α]

/-- Replace from here on, after dropping the rest of the last match. -/
def replaceFrom (old new : List α) : Nat → List α → List α
  | _, [] => []
  | skip + 1, _ :: rest => replaceFrom old new skip rest
  | 0, c :: rest =>
    if old <+: c :: rest then new ++ replaceFrom old new (old.length - 1) rest else c :: replaceFrom old new 0 rest

def replace (old new s : List α) : List α := replaceFrom old new 0 s

/-- With a count of one. -/
def replaceOnce (old new : List α) : List α → List α
  | [] => []
  | c :: rest => if old <+: c :: rest then new ++ (c :: rest).drop old.length else c :: replaceOnce old new rest

variable {old new s a b : List α} {c : α}

theorem replaceFrom_eq (skip : Nat) : replaceFrom old new skip s = replace old new (s.drop skip) := by
  induction s generalizing skip with
  | nil => cases skip <;> rfl
  | cons c rest ih =>
    cases skip with
    | zero => rfl
    | succ skip => exact ih skip

@[simp] theorem replace_nil : replace old new [] = [] := rfl

theorem replace_cons (h : ¬ old <+: c :: s) : replace old new (c :: s) = c :: replace old new s := by
  rw [replace, replaceFrom, if_neg h, replace]

/-- A match is replaced, and the scan goes on behind it. -/
theorem replace_match (hold : old ≠ []) (s : List α) : replace old new (old ++ s) = new ++ replace old new s := by
  cases old with
  | nil => exact absurd rfl hold
  | cons c old =>
    have hprefix : c :: old <+: c :: (old ++ s) := List.prefix_append (c :: old) s
    rw [replace, List.cons_append, replaceFrom, if_pos hprefix, replaceFrom_eq]
    simp

theorem replaceOnce_match (hold : old ≠ []) (s : List α) : replaceOnce old new (old ++ s) = new ++ s := by
  cases old with
  | nil => exact absurd rfl hold
  | cons c old =>
    have hprefix : c :: old <+: c :: (old ++ s) := List.prefix_append (c :: old) s
    rw [List.cons_append, replaceOnce, if_pos hprefix]
    simp

/-- Replacing one character is a map. -/
theorem replace_singleton (c : α) (new s : List α) :
    replace [c] new s = s.flatMap fun x => if x = c then new else [x] := by
  induction s with
  | nil => rfl
  | cons x s ih =>
    rw [List.flatMap_cons]
    by_cases hx : x = c
    · rw [if_pos hx, hx, ← ih]
      exact replace_match (List.cons_ne_nil c []) s
    · rw [if_neg hx, ← ih, replace_cons fun h => hx (List.cons_prefix_cons.mp h).1.symm]
      rfl

/-- Nothing comes in but what was there or is put in. -/
theorem mem_replace (h : c ∈ replace old new s) : c ∈ s ∨ c ∈ new := by
  suffices hfrom : ∀ skip, c ∈ replaceFrom old new skip s → c ∈ s ∨ c ∈ new from hfrom 0 h
  clear h
  induction s with
  | nil =>
    intro skip h
    cases skip <;> exact absurd h List.not_mem_nil
  | cons x s ih =>
    intro skip h
    cases skip with
    | succ skip => exact (ih skip h).imp_left (List.mem_cons_of_mem x)
    | zero =>
      rw [replaceFrom] at h
      split at h
      · rcases List.mem_append.mp h with h | h
        · exact .inr h
        · exact (ih _ h).imp_left (List.mem_cons_of_mem x)
      · rcases List.mem_cons.mp h with rfl | h
        · exact .inl (.head s)
        · exact (ih _ h).imp_left (List.mem_cons_of_mem x)

theorem replace_of_not_mem (hold : c ∈ old) (hs : c ∉ s) : replace old new s = s := by
  induction s with
  | nil => rfl
  | cons x s ih =>
    rw [replace_cons fun h => hs (h.subset hold), ih fun h => hs (.tail x h)]

omit [DecidableEq α] in
/-- No match crosses a character that the pattern does not have. -/
theorem prefix_barrier (hold : c ∉ old) : old <+: a ++ c :: b ↔ old <+: a := by
  refine ⟨fun h => ?_, fun h => h.trans (List.prefix_append a _)⟩
  rcases List.prefix_or_prefix_of_prefix h (List.prefix_append a (c :: b)) with hp | ⟨rest, rfl⟩
  · exact hp
  · rw [List.prefix_append_right_inj] at h
    cases rest with
    | nil => rw [List.append_nil]
    | cons x rest =>
      have hx : x = c := (List.cons_prefix_cons.mp h).1
      exact absurd (List.mem_append_right a (hx ▸ List.mem_cons_self)) hold

theorem replace_barrier (hne : old ≠ []) (hold : c ∉ old) :
    replace old new (a ++ c :: b) = replace old new a ++ c :: replace old new b := by
  suffices hfrom : ∀ skip ≤ a.length,
      replaceFrom old new skip (a ++ c :: b) = replaceFrom old new skip a ++ c :: replace old new b from hfrom 0 (Nat.zero_le _)
  induction a with
  | nil =>
    intro skip hskip
    rw [Nat.le_zero.mp hskip]
    exact replace_cons fun h => hne (List.prefix_nil.mp ((prefix_barrier (a := []) hold).mp h))
  | cons x a ih =>
    intro skip hskip
    cases skip with
    | succ skip => exact ih skip (Nat.le_of_succ_le_succ hskip)
    | zero =>
      have hmatch : old <+: x :: (a ++ c :: b) ↔ old <+: x :: a := prefix_barrier (a := x :: a) hold
      rw [List.cons_append, replaceFrom, replaceFrom]
      by_cases h : old <+: x :: a
      · have hlength : old.length - 1 ≤ a.length := Nat.sub_le_of_le_add h.length_le
        rw [if_pos h, if_pos (hmatch.mpr h), ih _ hlength, List.append_assoc]
      · rw [if_neg h, if_neg (hmatch.not.mpr h), ih 0 (Nat.zero_le _), List.cons_append]

/-- A stretch that no match touches: it lacks a character of the pattern, and its ends are none. -/
theorem replace_solid {d x : α} {inside : List α} (hx : x ∈ old) (hinside : x ∉ inside) (hc : c ∉ old) (hd : d ∉ old) :
    replace old new (a ++ c :: inside ++ d :: b) = replace old new a ++ c :: inside ++ d :: replace old new b := by
  have hne : old ≠ [] := List.ne_nil_of_mem hx
  rw [List.append_assoc, List.cons_append, replace_barrier hne hc, replace_barrier hne hd, replace_of_not_mem hx hinside,
    List.append_assoc, List.cons_append]

omit [DecidableEq α] in
/-- A pattern that cannot go on behind the end of a text matches inside it. -/
theorem prefix_closed (hend : c ∉ old.dropLast) (h : old <+: a ++ [c] ++ b) : old <+: a ++ [c] := by
  rcases List.prefix_or_prefix_of_prefix h (List.prefix_append (a ++ [c]) b) with hp | ⟨rest, rfl⟩
  · exact hp
  · rcases List.eq_nil_or_concat' rest with rfl | ⟨start, x, rfl⟩
    · rw [List.append_nil]
    · rw [← List.append_assoc, List.dropLast_concat] at hend
      exact absurd (by simp) hend

omit [DecidableEq α] in
/-- Words up to their delimiters. -/
theorem prefix_delimited {p : α → Prop} {v w s t : List α} {d e : α} (hv : ∀ c ∈ v, p c) (hw : ∀ c ∈ w, p c) (hd : ¬ p d)
    (he : ¬ p e) : v ++ d :: s <+: w ++ e :: t ↔ v = w ∧ d = e ∧ s <+: t := by
  induction v generalizing w with
  | nil =>
    cases w with
    | nil => simp [List.cons_prefix_cons]
    | cons y w =>
      refine iff_of_false (fun h => ?_) (by simp)
      exact hd ((List.cons_prefix_cons.mp h).1 ▸ hw y (.head w))
  | cons x v ih =>
    cases w with
    | nil =>
      refine iff_of_false (fun h => ?_) (by simp)
      exact he ((List.cons_prefix_cons.mp h).1 ▸ hv x (.head v))
    | cons y w =>
      rw [List.cons_append, List.cons_append, List.cons_prefix_cons,
        ih (fun c hc => hv c (.tail x hc)) fun c hc => hw c (.tail y hc), List.cons_eq_cons, and_assoc]

/-! Patterns with a marker, a character that they have once. -/

section Marker
variable {m : α} {front back : List α}

omit [DecidableEq α] in
theorem prefix_marker (hfront : m ∉ front) (ha : m ∉ a) : front ++ m :: back <+: a ++ m :: b ↔ a = front ∧ back <+: b := by
  induction front generalizing a with
  | nil =>
    cases a with
    | nil => simp [List.cons_prefix_cons]
    | cons x a =>
      refine iff_of_false (fun h => ?_) (by simp)
      exact ha ((List.cons_prefix_cons.mp h).1 ▸ .head a)
  | cons y front ih =>
    cases a with
    | nil =>
      refine iff_of_false (fun h => ?_) (by simp)
      exact hfront ((List.cons_prefix_cons.mp h).1 ▸ .head front)
    | cons x a =>
      rw [List.cons_append, List.cons_append, List.cons_prefix_cons,
        ih (fun h => hfront (.tail y h)) fun h => ha (.tail x h), List.cons_eq_cons, and_assoc, eq_comm]

/-- The first marker of a text, when it is not that of a match. -/
theorem replace_unmarked (new : List α) (hfront : m ∉ front) (ha : m ∉ a) (h : ¬ (front <:+ a ∧ back <+: b)) :
    replace (front ++ m :: back) new (a ++ m :: b) = a ++ m :: replace (front ++ m :: back) new b := by
  induction a with
  | nil =>
    refine replace_cons fun hprefix => h ?_
    obtain ⟨rfl, hback⟩ := (prefix_marker (a := []) hfront ha).mp hprefix
    exact ⟨List.suffix_rfl, hback⟩
  | cons x a ih =>
    have hhead : ¬ front ++ m :: back <+: x :: a ++ m :: b := by
      intro hprefix
      obtain ⟨rfl, hback⟩ := (prefix_marker hfront ha).mp hprefix
      exact h ⟨List.suffix_rfl, hback⟩
    have hrest : ¬ (front <:+ a ∧ back <+: b) := fun hr => h ⟨hr.1.trans (List.suffix_cons x a), hr.2⟩
    rw [List.cons_append] at hhead ⊢
    rw [replace_cons hhead, ih (fun hm => ha (.tail x hm)) hrest, List.cons_append]

theorem replace_marked (back new : List α) (hfront : m ∉ front) (ha : m ∉ a) (b : List α) :
    replace (front ++ m :: back) new (a ++ front ++ m :: back ++ b) = a ++ new ++ replace (front ++ m :: back) new b := by
  induction a with
  | nil =>
    have hne : front ++ m :: back ≠ [] := by simp
    have hmatch : replace (front ++ m :: back) new (front ++ m :: back ++ b) = new ++ replace (front ++ m :: back) new b :=
      replace_match hne b
    simpa using hmatch
  | cons x a ih =>
    have hhead : ¬ front ++ m :: back <+: x :: a ++ front ++ m :: back ++ b := by
      have hmarker : m ∉ x :: a ++ front := by
        rw [List.mem_append, not_or]
        exact ⟨ha, hfront⟩
      rw [List.append_assoc, List.cons_append (a := m), prefix_marker hfront hmarker]
      rintro ⟨hlength, _⟩
      have hlength := congrArg List.length hlength
      simp only [List.length_append, List.length_cons] at hlength
      omega
    have hrest := ih fun hm => ha (.tail x hm)
    simp only [List.cons_append, List.append_assoc] at hhead hrest ⊢
    rw [replace_cons hhead, hrest]

end Marker
end IpCountryApi.Library
