import Mathlib.Algebra.Order.Field.Basic
import Mathlib.Algebra.Order.Field.Rat
import Mathlib.Data.Nat.Cast.Order.Ring
import Mathlib.Tactic.NormNum

/-! A fragment of PromQL: expressions whose value is one sample without labels, or nothing.
A series is given by how much it grew in the window of the expression. -/
namespace IpCountryApi.Library.PromQL

/-- Expressions over the series that a selector picks. -/
inductive Expression (σ : Type) where
  | sumRate (selector : σ)
  | sumIncrease (selector : σ)
  | vector (value : ℚ)
  | orElse (left right : Expression σ)
  | andOn (left right : Expression σ)
  | sub (left right : Expression σ)
  | div (left right : Expression σ)
  | clampMin (operand : Expression σ) (least : ℚ)
  | positive (operand : Expression σ)
  deriving DecidableEq

/-- A sum over no series is nothing. -/
def sum (growths : List Nat) : Option ℚ := if growths = [] then none else some growths.sum

namespace Expression
variable {σ : Type}

/-- The value over a window of some seconds. -/
def eval (seconds : Nat) (series : σ → List Nat) : Expression σ → Option ℚ
  | sumRate selector => (sum (series selector)).map (· / seconds)
  | sumIncrease selector => sum (series selector)
  | vector value => some value
  | orElse left right => (left.eval seconds series).or (right.eval seconds series)
  | andOn left right => if (right.eval seconds series).isSome then left.eval seconds series else none
  | sub left right => (left.eval seconds series).bind fun x => (right.eval seconds series).map (x - ·)
  | div left right => (left.eval seconds series).bind fun x => (right.eval seconds series).map (x / ·)
  | clampMin operand least => (operand.eval seconds series).map (max · least)
  | positive operand => (operand.eval seconds series).filter (0 < ·)

/-- A ratio of rates that is there only if the denominator grew. The clamp keeps the
division defined. -/
def guardedRatio (least : ℚ) (numerator : Expression σ) (denominator : σ) : Expression σ :=
  .andOn (.div numerator (.clampMin (.sumRate denominator) least)) (.positive (.sumIncrease denominator))

/-- The rate of a sum whose series may not exist yet. -/
def rateOrZero (selector : σ) : Expression σ := .orElse (.sumRate selector) (.vector 0)

section Values
variable {seconds : Nat} {series : σ → List Nat} {selector denominator : σ} {numerator : Expression σ}
  {least : ℚ}

theorem eval_sumRate (h : series selector ≠ []) :
    (sumRate selector).eval seconds series = some ((series selector).sum / seconds : ℚ) := by
  rw [eval, sum, if_neg h]
  rfl

theorem eval_rateOrZero :
    (rateOrZero selector).eval seconds series = some ((series selector).sum / seconds : ℚ) := by
  rw [rateOrZero, eval]
  by_cases h : series selector = []
  · rw [eval, sum, if_pos h, h, List.sum_nil, Nat.cast_zero, zero_div]
    rfl
  · rw [eval_sumRate h]
    rfl

/-- The guard of a ratio: the denominator grew. -/
theorem isSome_positive :
    ((positive (sumIncrease denominator)).eval seconds series).isSome = decide (0 < (series denominator).sum) := by
  rw [eval, eval, sum]
  by_cases h : series denominator = []
  · rw [if_pos h, h]
    rfl
  · rw [if_neg h, Option.filter_some]
    by_cases hgrew : 0 < (series denominator).sum
    · rw [if_pos (decide_eq_true (Nat.cast_pos.mpr hgrew)), decide_eq_true hgrew]
      rfl
    · rw [if_neg fun h => hgrew (Nat.cast_pos.mp (of_decide_eq_true h)), decide_eq_false hgrew]
      rfl

/-- A sum that grew at all is clamped to itself. -/
private theorem clamp_idle {growth : Nat} (hleast : least ≤ 1 / seconds) (hgrew : 0 < growth) :
    max (growth / seconds : ℚ) least = growth / seconds := by
  apply max_eq_left
  have hone : (1 : ℚ) ≤ growth := by exact_mod_cast hgrew
  exact hleast.trans (div_le_div_of_nonneg_right hone (Nat.cast_nonneg seconds))

/-- A guarded ratio is there exactly if its numerator is and its denominator grew, and then
it is the ratio of the rates. -/
theorem eval_guardedRatio (hleast : least ≤ 1 / seconds) :
    (guardedRatio least numerator denominator).eval seconds series =
      if 0 < (series denominator).sum then
        (numerator.eval seconds series).map (· / ((series denominator).sum / seconds : ℚ))
      else none := by
  rw [guardedRatio, eval, isSome_positive]
  by_cases hgrew : 0 < (series denominator).sum
  · have hne : series denominator ≠ [] := by
      intro h
      rw [h] at hgrew
      exact absurd hgrew (lt_irrefl 0)
    rw [if_pos (decide_eq_true hgrew), if_pos hgrew, eval, eval, eval_sumRate hne, Option.map_some,
      clamp_idle hleast hgrew]
    cases numerator.eval seconds series <;> rfl
  · rw [if_neg fun h => hgrew (of_decide_eq_true h), if_neg hgrew]

/-- The ratio of two growths, over a numerator that is the rate of one. -/
theorem eval_guardedRatio_of_rate (hseconds : 0 < seconds) (hleast : least ≤ 1 / seconds) {growth : Nat}
    (h : 0 < (series denominator).sum → numerator.eval seconds series = some (growth / seconds : ℚ)) :
    (guardedRatio least numerator denominator).eval seconds series =
      if 0 < (series denominator).sum then some (growth / (series denominator).sum : ℚ) else none := by
  have hne : (seconds : ℚ) ≠ 0 := Nat.cast_ne_zero.mpr hseconds.ne'
  rw [eval_guardedRatio hleast]
  split
  · rename_i hgrew
    rw [h hgrew, Option.map_some, div_div_div_cancel_right₀ hne]
  · rfl

end Values
end Expression
end IpCountryApi.Library.PromQL
