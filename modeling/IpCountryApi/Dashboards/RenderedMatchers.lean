import IpCountryApi.Dashboards.Matchers

/-! What render_expression makes of matchers on variables. -/
namespace IpCountryApi.Dashboards
open Library

variable {c : Clause} {name value : Text}

namespace Clause

/-- The part of a matcher that has the dollar sign. -/
def piece (c : Clause) : Piece Char := .marked c.left c.right

theorem operator_plain (operator : Operator) : '$' ∉ operator.text ∧ 'A' ∉ operator.text := by
  cases operator <;> decide

theorem left_plain (c : Clause) {x : Char} (hblank : isBlank x = false) (hquote : isQuote x = false)
    (hoperator : x ∉ c.operator.text) : x ∉ c.left := by
  intro h
  rw [left, List.mem_append, List.mem_append, List.mem_singleton] at h
  rcases h with (h | h) | rfl
  · exact hoperator h
  · rw [c.space_blank h] at hblank
    cases hblank
  · rw [c.quoted] at hquote
    cases hquote

theorem body_plain (form : Form) (hname : ∀ y ∈ name, isNameChar y = true) {x : Char} (hx : isNameChar x = false)
    (hother : x ∉ "{:regex}".toList) : x ∉ form.body name := by
  have hno : x ∉ name := fun h => by rw [hname x h] at hx; cases hx
  cases form <;> simp_all [Form.body]

theorem right_plain (c : Clause) {x : Char} (hx : isNameChar x = false) (hother : x ∉ "{:regex}".toList)
    (hquote : isQuote x = false) : x ∉ c.right := by
  intro h
  rw [right, List.mem_append, List.mem_singleton] at h
  rcases h with h | rfl
  · exact body_plain c.form c.name_chars hx hother h
  · rw [c.quoted] at hquote
    cases hquote

/-- The quote closes every pattern there is. -/
theorem body_unquoted (form : Form) (hname : ∀ y ∈ name, isNameChar y = true) : c.quote ∉ form.body name := by
  exact body_plain form hname (quote_not_nameChar c.quoted).1 (c.quote_not_mem (by decide))

theorem fits_back {back : Text} (hback : c.quote ∉ back) : c.piece.Fits '$' ⟨[], back, value⟩ := by
  refine ⟨c.left_plain (by decide) (by decide) (operator_plain _).1, c.right_plain (by decide) (by decide) (by decide),
    fun _ _ => List.nil_suffix, fun after h => ?_⟩
  have hend : c.quote ∉ back.dropLast := fun h => hback (List.dropLast_subset _ h)
  exact prefix_closed hend h

theorem fits_token (form : Form) (hname : ∀ y ∈ name, isNameChar y = true) : c.piece.Fits '$' (tokenRule form name value) :=
  fits_back (body_unquoted form hname)

theorem fits_quoted {front : Text} (hfront : front = "=~\"".toList ∨ front = "=\"".toList) (form : Form)
    (hname : ∀ y ∈ name, isNameChar y = true) : c.piece.Fits '$' (quotedRule front form name value) := by
  refine ⟨c.left_plain (by decide) (by decide) (operator_plain _).1, c.right_plain (by decide) (by decide) (by decide),
    fun before h => ?_, fun after h => ?_⟩
  · rcases hfront with rfl | rfl
    · exact (front_match []).mpr ((front_match before).mp h)
    · exact (front_equal []).mpr ((front_equal before).mp h)
  · have hend : c.quote ∉ (form.body name ++ ['"']).dropLast := by
      rw [List.dropLast_concat]
      exact body_unquoted form hname
    exact prefix_closed hend h

/-- Which rule of its variable rewrites a matcher. -/
def rule (c : Clause) (value : Text) : Rule Char :=
  if c.form = .regex ∨ c.quote ≠ '"' ∨ c.space ≠ [] then tokenRule c.form c.name value
  else
    match c.operator with
    | .regexMatch => quotedRule "=~\"".toList c.form c.name value
    | .equal | .notEqual => quotedRule "=\"".toList c.form c.name value
    | .regexNoMatch => tokenRule c.form c.name value

theorem matching_token (form : Form) :
    c.piece.matching (tokenRule form name value) = decide (form.body name <+: c.right) := by
  simp [piece, Piece.matching, tokenRule]

theorem matching_quoted (front : Text) (form : Form) : c.piece.matching (quotedRule front form name value) =
    decide (front <:+ c.left ∧ form.body name ++ ['"'] <+: c.right) := rfl

/-- The rules of other variables leave it alone. -/
theorem matching_other (hknown : name ∈ genericVariables.keys) (hne : name ≠ c.name) {rule : Rule Char}
    (hrule : rule ∈ variableRules (name, value)) : c.piece.matching rule = false := by
  have hname := (names_plain hknown).2
  rcases variableRules_cases hrule with ⟨front, form, _, hform, rfl⟩ | ⟨form, rfl⟩
  · cases form with
    | regex => exact absurd rfl hform
    | braced => simp [matching_quoted, back_braced_quoted hname, hne]
    | plain => simp [matching_quoted, back_plain_quoted hname, hne]
  · cases form with
    | regex => simp [matching_token, back_regex hname, hne]
    | braced => simp [matching_token, back_braced hname, hne]
    | plain => simp [matching_token, back_plain hknown, hne]

theorem find_variableRules (c : Clause) (value : Text) :
    (variableRules (c.name, value)).find? c.piece.matching = some (c.rule value) := by
  have hequal := front_equal (c := c) []
  have hmatch := front_match (c := c) []
  rw [List.nil_append] at hequal hmatch
  simp only [variableRules, List.find?_cons, matching_quoted, matching_token, back_braced_quoted c.name_chars,
    back_plain_quoted c.name_chars, back_regex c.name_chars, back_braced c.name_chars, back_plain c.known, hequal, hmatch]
  cases hform : c.form with
  | regex => simp [rule, hform]
  | braced =>
    by_cases hquoted : c.quote = '"' ∧ c.space = []
    · cases hoperator : c.operator <;> simp [rule, hform, hquoted, hoperator]
    · have hrule : c.rule value = tokenRule .braced c.name value := by
        rw [rule, if_pos (.inr (Decidable.not_and_iff_not_or_not.mp hquoted)), hform]
      rw [hrule]
      simp [← and_assoc, hquoted]
  | plain =>
    by_cases hquoted : c.quote = '"' ∧ c.space = []
    · cases hoperator : c.operator <;> simp [rule, hform, hquoted, hoperator]
    · have hrule : c.rule value = tokenRule .plain c.name value := by
        rw [rule, if_pos (.inr (Decidable.not_and_iff_not_or_not.mp hquoted)), hform]
      rw [hrule]
      simp [← and_assoc, hquoted]

/-- What render_expression makes of a matcher whose variable stands for a value. -/
def written (c : Clause) (value : Text) : Text :=
  let operator := if c.form ≠ .regex ∧ c.quote = '"' ∧ c.space = [] then c.operator.rewritten else c.operator.text
  operator ++ c.space ++ c.quote :: (value ++ [c.quote])

/-- The matcher that selects every value the variable stands for. -/
def expected (c : Clause) (value : Text) : Text :=
  let operator := if c.form = .regex then c.operator else c.operator.regex
  operator.text ++ c.space ++ c.quote :: (value ++ [c.quote])

theorem rewrite_token (c : Clause) (value : Text) :
    c.piece.rewrite (tokenRule c.form c.name value) = .plain (c.left ++ value ++ [c.quote]) := by
  have hmatch : [] <:+ c.left ∧ c.form.body c.name <+: c.right := ⟨List.nil_suffix, List.prefix_append _ _⟩
  rw [piece, Piece.rewrite, tokenRule, if_pos hmatch, List.length_nil, Nat.sub_zero, List.take_length, right, List.drop_left]

theorem rewrite_quoted (c : Clause) (start : Text) {front : Text} (hquote : c.quote = '"') (hleft : c.left = start ++ front)
    (value : Text) : c.piece.rewrite (quotedRule front c.form c.name value) = .plain (start ++ ("=~\"".toList ++ value ++ ['"'])) := by
  have hright : c.right = c.form.body c.name ++ ['"'] := by rw [right, hquote]
  have hmatch : front <:+ c.left ∧ c.form.body c.name ++ ['"'] <+: c.right := ⟨⟨start, hleft.symm⟩, hright ▸ List.prefix_rfl⟩
  rw [piece, Piece.rewrite, quotedRule, if_pos hmatch, hleft, hright, List.length_append, Nat.add_sub_cancel, List.take_left,
    List.drop_length, List.append_nil]

theorem rewrite_rule (c : Clause) (value : Text) : c.piece.rewrite (c.rule value) = .plain (c.written value) := by
  rw [rule]
  split
  · rename_i hother
    rw [rewrite_token, written, if_neg (by tauto), left]
    simp
  · rename_i hquoted
    obtain ⟨hform, hquote, hspace⟩ : c.form ≠ .regex ∧ c.quote = '"' ∧ c.space = [] := by tauto
    have hwritten : c.written value = c.operator.rewritten ++ '"' :: (value ++ ['"']) := by
      rw [written, if_pos ⟨hform, hquote, hspace⟩, hspace, hquote, List.append_nil]
    have hleft : c.left = c.operator.text ++ ['"'] := by rw [left, hspace, hquote, List.append_nil]
    cases hoperator : c.operator with
    | equal =>
      rw [c.rewrite_quoted [] hquote (by rw [hleft, hoperator]; rfl), hwritten, hoperator]
      simp [Operator.rewritten, Operator.regex, Operator.text]
    | notEqual =>
      rw [c.rewrite_quoted ['!'] hquote (by rw [hleft, hoperator]; rfl), hwritten, hoperator]
      simp [Operator.rewritten]
    | regexMatch =>
      rw [c.rewrite_quoted [] hquote (by rw [hleft, hoperator]; rfl), hwritten, hoperator]
      simp [Operator.rewritten, Operator.regex, Operator.text]
    | regexNoMatch =>
      rw [rewrite_token, hleft, hwritten, hoperator, hquote]
      simp [Operator.rewritten, Operator.regex, Operator.text]

/-- The matchers that come out as they should. -/
def Regular (c : Clause) : Prop :=
  c.form = .regex ∨ c.operator = .regexMatch ∨ c.operator = .regexNoMatch ∨ c.operator = .equal ∧ c.space = [] ∧ c.quote = '"'

theorem written_eq (h : c.Regular) (value : Text) : c.written value = c.expected value := by
  rw [written, expected]
  rcases h with hform | hoperator | hoperator | ⟨hoperator, hspace, hquote⟩
  · simp [hform]
  · simp [hoperator, Operator.rewritten, Operator.regex, Operator.text]
  · simp [hoperator, Operator.rewritten, Operator.regex, Operator.text]
  · by_cases hform : c.form = .regex
    · simp [hform]
    · simp [hform, hoperator, hspace, hquote, Operator.rewritten, Operator.regex, Operator.text]

/-- Any other one differs in the second character of its operator. -/
theorem regular_of_eq {a b : Text} (h : c.written value ++ a = c.expected value ++ b) : c.Regular := by
  by_contra hnot
  obtain ⟨hform, hmatch, hnoMatch, hequal⟩ : c.form ≠ .regex ∧ c.operator ≠ .regexMatch ∧ c.operator ≠ .regexNoMatch ∧
      ¬ (c.operator = .equal ∧ c.space = [] ∧ c.quote = '"') := by
    simpa only [Regular, not_or] using hnot
  rw [written, expected, if_neg hform] at h
  cases hoperator : c.operator with
  | regexMatch => exact hmatch hoperator
  | regexNoMatch => exact hnoMatch hoperator
  | notEqual =>
    have hsecond := congrArg (fun s => s.tail.head?) h
    by_cases hquoted : c.form ≠ .regex ∧ c.quote = '"' ∧ c.space = []
    · simp [hoperator, hquoted, Operator.rewritten, Operator.regex, Operator.text] at hsecond
    · simp [hoperator, hquoted, Operator.regex, Operator.text] at hsecond
  | equal =>
    have hquoted : ¬ (c.form ≠ .regex ∧ c.quote = '"' ∧ c.space = []) := fun hq => hequal ⟨hoperator, hq.2.2, hq.2.1⟩
    rw [if_neg hquoted, hoperator] at h
    cases hspace : c.space with
    | nil =>
      have hquote : c.quote = '~' := by simpa [hspace, Operator.regex, Operator.text] using congrArg (fun s => s.tail.head?) h
      have hno := c.quoted
      rw [hquote] at hno
      exact absurd hno (by decide)
    | cons x space =>
      have hx : x = '~' := by simpa [hspace, Operator.regex, Operator.text] using congrArg (fun s => s.tail.head?) h
      have hno := c.space_blank (x := x) (hspace ▸ .head space)
      rw [hx] at hno
      exact absurd hno (by decide)

end Clause
end IpCountryApi.Dashboards
