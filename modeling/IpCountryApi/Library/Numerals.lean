import Mathlib.Data.Nat.Digits.Defs
import Mathlib.Data.List.Induction
import Mathlib.Data.List.Basic
import Mathlib.Tactic.Ring
import Mathlib.Tactic.IntervalCases

/-! Positional numerals: fixed-width big-endian digit lists, and digit strings in
bases up to sixteen read back to the number that was written. -/
namespace IpCountryApi.Library

/-- The value of a digit list, most significant digit first. -/
def ofBigEndian (b : Nat) (l : List Nat) : Nat := l.foldl (fun n d => b * n + d) 0

/-- The k lowest base-b digits, most significant first. -/
def bigEndian (b : Nat) : Nat → Nat → List Nat
  | 0, _ => []
  | k + 1, n => bigEndian b k (n / b) ++ [n % b]

theorem ofBigEndian_concat (b : Nat) (l : List Nat) (d : Nat) :
    ofBigEndian b (l ++ [d]) = b * ofBigEndian b l + d := by
  simp [ofBigEndian]

@[simp] theorem bigEndian_length (b k n : Nat) : (bigEndian b k n).length = k := by
  induction k generalizing n with
  | zero => rfl
  | succ k ih => simp [bigEndian, ih]

theorem mem_bigEndian {b : Nat} (hb : 0 < b) {k n d : Nat} (hd : d ∈ bigEndian b k n) : d < b := by
  induction k generalizing n with
  | zero => simp [bigEndian] at hd
  | succ k ih =>
    rcases List.mem_append.mp hd with hd | hd
    · exact ih hd
    · rw [List.mem_singleton.mp hd]
      exact Nat.mod_lt n hb

theorem ofBigEndian_bigEndian {b : Nat} {k n : Nat} (hn : n < b ^ k) : ofBigEndian b (bigEndian b k n) = n := by
  induction k generalizing n with
  | zero =>
    simp only [pow_zero, Nat.lt_one_iff] at hn
    simp [bigEndian, ofBigEndian, hn]
  | succ k ih =>
    rw [bigEndian, ofBigEndian_concat, ih, Nat.div_add_mod]
    exact Nat.div_lt_of_lt_mul (by rwa [pow_succ, Nat.mul_comm] at hn)

def isHexDigit (c : Char) : Bool := c.isDigit || ('a' ≤ c && c ≤ 'f') || ('A' ≤ c && c ≤ 'F')

/-- The value of a hexadecimal digit of either case. -/
def digitValue (c : Char) : Nat :=
  if c.isDigit then c.toNat - 48 else if c.toNat < 97 then c.toNat - 55 else c.toNat - 87

/-- The number a digit string writes in base b. -/
def numeral (b : Nat) (l : List Char) : Nat := l.foldl (fun n c => b * n + digitValue c) 0

theorem digitChar_digit {n : Nat} (hn : n < 16) :
    digitValue n.digitChar = n ∧ isHexDigit n.digitChar = true := by
  interval_cases n <;> decide

theorem mem_toDigits {b n : Nat} (hb : 1 < b) {c : Char} (hc : c ∈ Nat.toDigits b n) :
    ∃ d < b, c = d.digitChar := by
  induction n using Nat.strong_induction_on with
  | _ n ih =>
    rw [Nat.toDigits_eq_if hb] at hc
    split at hc
    · rename_i hn
      exact ⟨n, hn, List.mem_singleton.mp hc⟩
    · rename_i hn
      rcases List.mem_append.mp hc with hc | hc
      · exact ih (n / b) (Nat.div_lt_self (by omega) hb) hc
      · exact ⟨n % b, Nat.mod_lt n (by omega), List.mem_singleton.mp hc⟩

theorem numeral_toDigits {b : Nat} (hb : 1 < b) (hb' : b ≤ 16) (n : Nat) : numeral b (Nat.toDigits b n) = n := by
  induction n using Nat.strong_induction_on with
  | _ n ih =>
    rw [Nat.toDigits_eq_if hb]
    split
    · rename_i hn
      simp [numeral, (digitChar_digit (show n < 16 by omega)).1]
    · rename_i hn
      have hd : n % b < 16 := (Nat.mod_lt n (by omega)).trans_le hb'
      rw [numeral, List.foldl_append, ← numeral, ih (n / b) (Nat.div_lt_self (by omega) hb)]
      simp only [List.foldl_cons, List.foldl_nil, (digitChar_digit hd).1, Nat.div_add_mod]

theorem isHexDigit_of_mem_toDigits {b n : Nat} (hb : 1 < b) (hb' : b ≤ 16) {c : Char}
    (hc : c ∈ Nat.toDigits b n) : isHexDigit c = true := by
  obtain ⟨d, hd, rfl⟩ := mem_toDigits hb hc
  exact (digitChar_digit (hd.trans_le hb')).2

/-- A written number has no leading zero. -/
theorem toDigits_leading_zero {b n : Nat} (hb : 1 < b) (h : (Nat.toDigits b n).head? = some '0') : n = 0 := by
  induction n using Nat.strong_induction_on with
  | _ n ih =>
    rw [Nat.toDigits_eq_if hb] at h
    split at h
    · simpa using h
    · rename_i hn
      rw [List.head?_append_of_ne_nil _ Nat.toDigits_ne_nil] at h
      have hz := ih (n / b) (Nat.div_lt_self (by omega) hb) h
      rcases Nat.div_eq_zero_iff.mp hz with hb' | hb' <;> omega

end IpCountryApi.Library
