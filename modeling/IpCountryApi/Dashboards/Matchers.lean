import IpCountryApi.Dashboards.Expressions

/-! Expressions of literal text and label matchers on variables, and which of the replacements
of render_expression touch which matcher. -/
namespace IpCountryApi.Dashboards
open Library

/-- The matching operators of PromQL. -/
inductive Operator where
  | equal
  | notEqual
  | regexMatch
  | regexNoMatch
  deriving DecidableEq, Repr

def Operator.text : Operator → Text
  | equal => "=".toList
  | notEqual => "!=".toList
  | regexMatch => "=~".toList
  | regexNoMatch => "!~".toList

/-- The regex operator of the same polarity. -/
def Operator.regex : Operator → Operator
  | equal | regexMatch => regexMatch
  | notEqual | regexNoMatch => regexNoMatch

/-- What stands for an operator whose variable was right behind it in double quotes. -/
def Operator.rewritten : Operator → Text
  | notEqual => "!=~".toList
  | operator => operator.regex.text

def isLabelChar (c : Char) : Bool := c.isAlphanum || c = '_'

def isBlank (c : Char) : Bool := c = ' ' || c = '\t' || c = '\n' || c = '\r'

/-- Double, single and back quotes. -/
def isQuote (c : Char) : Bool := c = '"' || c = '\'' || c = Char.ofNat 96

def isNameChar (c : Char) : Bool := c.isLower || c = '_'

/-- A label matcher whose value is one variable, behind the literal text that leads to it. -/
structure Clause where
  before : Text
  label : Text
  gap : Text
  operator : Operator
  space : Text
  quote : Char
  form : Form
  name : Text
  literal : '$' ∉ before ++ label
  /-- a name, or a quoted one -/
  labelled : label.getLast?.any (fun c => isLabelChar c || isQuote c) = true
  blank : (gap ++ space).all isBlank = true
  quoted : isQuote quote = true
  known : name ∈ genericVariables.keys

namespace Clause
variable (c : Clause)

def lead : Text := c.before ++ c.label ++ c.gap

/-- What stands on the two sides of the dollar sign. -/
def left : Text := c.operator.text ++ c.space ++ [c.quote]

def right : Text := c.form.body c.name ++ [c.quote]

def text : Text := c.lead ++ (c.left ++ '$' :: c.right)

end Clause

structure Expression where
  clauses : List Clause
  rest : Text
  literal : '$' ∉ rest

def Expression.text (e : Expression) : Text := e.clauses.flatMap Clause.text ++ e.rest

/-! The replacements as rules. -/

def rateRule : Rule Char := ⟨[], "__rate_interval".toList, "5m".toList⟩

def tokenRule (form : Form) (name value : Text) : Rule Char := ⟨[], form.body name, value⟩

def quotedRule (front : Text) (form : Form) (name value : Text) : Rule Char :=
  ⟨front, form.body name ++ ['"'], "=~\"".toList ++ value ++ ['"']⟩

def variableRules (entry : Text × Text) : List (Rule Char) :=
  [quotedRule "=~\"".toList .braced entry.1 entry.2, quotedRule "=\"".toList .braced entry.1 entry.2,
    quotedRule "=~\"".toList .plain entry.1 entry.2, quotedRule "=\"".toList .plain entry.1 entry.2,
    tokenRule .regex entry.1 entry.2, tokenRule .braced entry.1 entry.2, tokenRule .plain entry.1 entry.2]

def applyRules (rules : List (Rule Char)) (s : Text) : Text :=
  rules.foldl (fun s rule => replace (rule.pattern '$') rule.new s) s

theorem renderVariable_rules (entry : Text × Text) (s : Text) :
    renderVariable s entry = applyRules (variableRules entry) s := by
  simp [renderVariable, applyRules, variableRules, quotedRule, tokenRule, Rule.pattern, Form.token]

/-- The quoted rules are about the tokens that a matcher may have in place of a value. -/
theorem variableRules_cases {entry : Text × Text} {rule : Rule Char} (h : rule ∈ variableRules entry) :
    (∃ front form, (front = "=~\"".toList ∨ front = "=\"".toList) ∧ form ≠ .regex ∧
      rule = quotedRule front form entry.1 entry.2) ∨
    ∃ form, rule = tokenRule form entry.1 entry.2 := by
  simp only [variableRules, List.mem_cons, List.not_mem_nil, or_false] at h
  rcases h with h | h | h | h | h | h | h
  · exact .inl ⟨_, .braced, .inl rfl, by decide, h⟩
  · exact .inl ⟨_, .braced, .inr rfl, by decide, h⟩
  · exact .inl ⟨_, .plain, .inl rfl, by decide, h⟩
  · exact .inl ⟨_, .plain, .inr rfl, by decide, h⟩
  · exact .inr ⟨.regex, h⟩
  · exact .inr ⟨.braced, h⟩
  · exact .inr ⟨.plain, h⟩

/-! The names. -/

theorem names_plain {name : Text} (h : name ∈ genericVariables.keys) : name ≠ [] ∧ ∀ c ∈ name, isNameChar c = true := by
  have hall : (genericVariables.keys.all fun name => name ≠ [] && name.all isNameChar) = true := by decide
  have hname := List.all_eq_true.mp hall name h
  simpa using hname

/-- No name is the beginning of another one. -/
theorem names_apart {name other : Text} (hname : name ∈ genericVariables.keys)
    (hother : other ∈ genericVariables.keys) (h : name <+: other) : name = other := by
  have hall : (genericVariables.keys.all fun name => genericVariables.keys.all fun other =>
      !name.isPrefixOf other || name = other) = true := by decide
  have hpair := List.all_eq_true.mp (List.all_eq_true.mp hall name hname) other hother
  simpa [List.isPrefixOf_iff_prefix.mpr h] using hpair

theorem quote_not_nameChar {c : Char} (h : isQuote c = true) : isNameChar c = false ∧ c ≠ ':' ∧ c ≠ '}' ∧ c ≠ '$' := by
  simp only [isQuote, Bool.or_eq_true, decide_eq_true_eq] at h
  rcases h with (rfl | rfl) | rfl <;> decide

namespace Clause
variable {c : Clause} {name value : Text} (hname : ∀ x ∈ name, isNameChar x = true)

theorem name_chars (c : Clause) : ∀ x ∈ c.name, isNameChar x = true := (names_plain c.known).2

theorem quote_not_mem (c : Clause) {s : Text} (h : (s.all fun x => !isQuote x) = true) : c.quote ∉ s := by
  intro hquote
  have hx := List.all_eq_true.mp h c.quote hquote
  rw [c.quoted] at hx
  cases hx

theorem quote_no_name (c : Clause) : ¬ isNameChar c.quote = true := by
  rw [(quote_not_nameChar c.quoted).1]
  exact Bool.false_ne_true

/-- What follows the dollar sign begins with a brace, or with the name. -/
theorem right_cases (c : Clause) : (c.form = .regex ∧ c.right = '{' :: c.name ++ ':' :: ("regex\x7d".toList ++ [c.quote])) ∨
    (c.form = .braced ∧ c.right = '{' :: c.name ++ '}' :: [c.quote]) ∨
    (c.form = .plain ∧ c.right = c.name ++ c.quote :: []) := by
  cases hform : c.form with
  | regex => exact .inl ⟨rfl, by simp [right, hform, Form.body]⟩
  | braced => exact .inr (.inl ⟨rfl, by simp [right, hform, Form.body]⟩)
  | plain => exact .inr (.inr ⟨rfl, by simp [right, hform, Form.body]⟩)

include hname

/-- A pattern that begins with a brace reads the name up to the delimiter. -/
theorem back_brace {d : Char} {s : Text} (hd : ¬ isNameChar d = true) : '{' :: name ++ d :: s <+: c.right ↔
    name = c.name ∧ (c.form = .regex ∧ d :: s <+: ":regex\x7d".toList ++ [c.quote] ∨
      c.form = .braced ∧ d :: s <+: ['}', c.quote]) := by
  have hcolon : ¬ isNameChar ':' = true := by decide
  have hbrace : ¬ isNameChar '}' = true := by decide
  rcases c.right_cases with ⟨hform, hright⟩ | ⟨hform, hright⟩ | ⟨hform, hright⟩
  · have h := prefix_delimited (s := s) (t := "regex\x7d".toList ++ [c.quote]) hname c.name_chars hd hcolon
    rw [hright, List.cons_append, List.cons_append, List.cons_prefix_cons, h, hform]
    simp [List.cons_prefix_cons]
  · have h := prefix_delimited (s := s) (t := [c.quote]) hname c.name_chars hd hbrace
    rw [hright, List.cons_append, List.cons_append, List.cons_prefix_cons, h, hform]
    simp [List.cons_prefix_cons]
  · -- a brace begins no name
    obtain ⟨x, xs, hcons⟩ := List.exists_cons_of_ne_nil (names_plain c.known).1
    rw [hright, hform, hcons]
    refine iff_of_false (fun h => ?_) (by simp)
    rw [List.cons_append, List.cons_append, List.cons_prefix_cons] at h
    have hx := c.name_chars x (hcons ▸ .head xs)
    rw [← h.1] at hx
    exact absurd hx (by decide)

theorem back_regex : Form.regex.body name <+: c.right ↔ c.form = .regex ∧ name = c.name := by
  have h := back_brace (c := c) (d := ':') (s := "regex\x7d".toList) hname (by decide)
  simpa [Form.body, List.cons_prefix_cons, and_comm] using h

theorem back_braced : Form.braced.body name <+: c.right ↔ c.form = .braced ∧ name = c.name := by
  have h := back_brace (c := c) (d := '}') (s := []) hname (by decide)
  simpa [Form.body, List.cons_prefix_cons, and_comm] using h

theorem back_braced_quoted : Form.braced.body name ++ ['"'] <+: c.right ↔
    c.form = .braced ∧ name = c.name ∧ c.quote = '"' := by
  have h := back_brace (c := c) (d := '}') (s := ['"']) hname (by decide)
  simpa [Form.body, List.cons_prefix_cons, and_left_comm, eq_comm] using h

/-- A name that is plain is read up to the quote. -/
theorem back_plain_quoted : Form.plain.body name ++ ['"'] <+: c.right ↔ c.form = .plain ∧ name = c.name ∧ c.quote = '"' := by
  have hquote : ¬ isNameChar '"' = true := by decide
  have hopen : ¬ isNameChar '{' = true := by decide
  have hbraced : ∀ t, ¬ name ++ ['"'] <+: '{' :: t := by
    intro t h
    have h' := (prefix_delimited (w := []) (s := []) (t := t) hname (by simp) hquote hopen).mp h
    exact absurd h'.2.1 (by decide)
  rcases c.right_cases with ⟨hform, hright⟩ | ⟨hform, hright⟩ | ⟨hform, hright⟩
  · rw [hright, hform]
    exact iff_of_false (hbraced _) (by simp)
  · rw [hright, hform]
    exact iff_of_false (hbraced _) (by simp)
  · have h := prefix_delimited (s := []) (t := []) hname c.name_chars hquote c.quote_no_name
    rw [hright, hform, Form.body, h]
    simp [eq_comm]

omit hname in
theorem back_plain (hknown : name ∈ genericVariables.keys) :
    Form.plain.body name <+: c.right ↔ c.form = .plain ∧ name = c.name := by
  obtain ⟨hne, hname⟩ := names_plain hknown
  have hbraced : ∀ t, ¬ name <+: '{' :: t := by
    intro t h
    obtain ⟨x, xs, hcons⟩ := List.exists_cons_of_ne_nil hne
    rw [hcons, List.cons_prefix_cons] at h
    have hx := hname x (hcons ▸ .head xs)
    rw [h.1] at hx
    exact absurd hx (by decide)
  rcases c.right_cases with ⟨hform, hright⟩ | ⟨hform, hright⟩ | ⟨hform, hright⟩
  · rw [hright, hform]
    exact iff_of_false (hbraced _) (by simp)
  · rw [hright, hform]
    exact iff_of_false (hbraced _) (by simp)
  · have hquote : c.quote ∉ name := fun hq => c.quote_no_name (hname _ hq)
    rw [hright, hform, Form.body, prefix_barrier hquote]
    exact ⟨fun h => ⟨rfl, names_apart hknown c.known h⟩, fun h => h.2 ▸ List.prefix_rfl⟩

/-! The left sides. -/

omit hname

theorem space_blank (c : Clause) {x : Char} (h : x ∈ c.space) : isBlank x = true :=
  List.all_eq_true.mp c.blank x (List.mem_append_right _ h)

theorem concat_suffix_concat {a b : Text} {x y : Char} : a ++ [x] <:+ b ++ [y] ↔ x = y ∧ a <:+ b := by
  rw [← List.reverse_prefix]
  simp [List.cons_prefix_cons]

/-- A quoted pattern needs its operator right before a double quote. -/
theorem front_left {y : Char} (front before : Text) (hy : isBlank y = false) :
    front ++ [y] ++ ['"'] <:+ before ++ c.left ↔ c.quote = '"' ∧ c.space = [] ∧
      front ++ [y] <:+ before ++ c.operator.text := by
  rw [left, ← List.append_assoc, concat_suffix_concat, eq_comm]
  rcases List.eq_nil_or_concat' c.space with hspace | ⟨start, b, hspace⟩
  · simp [hspace]
  · have hb : isBlank b = true := c.space_blank (by simp [hspace])
    have hne : y ≠ b := fun he => by rw [← he, hy] at hb; cases hb
    rw [hspace, ← List.append_assoc, ← List.append_assoc, concat_suffix_concat]
    simp [hne]

theorem front_equal (before : Text) : "=\"".toList <:+ before ++ c.left ↔
    c.quote = '"' ∧ c.space = [] ∧ (c.operator = .equal ∨ c.operator = .notEqual) := by
  have h := front_left (c := c) (y := '=') [] before (by decide)
  have hend : [] ++ ['='] <:+ before ++ c.operator.text ↔ c.operator = .equal ∨ c.operator = .notEqual := by
    cases c.operator with
    | equal => simp [Operator.text]
    | notEqual => exact iff_of_true ⟨before ++ ['!'], by simp [Operator.text]⟩ (by simp)
    | regexMatch =>
      rw [show before ++ Operator.text .regexMatch = before ++ ['='] ++ ['~'] by simp [Operator.text], concat_suffix_concat]
      simp
    | regexNoMatch =>
      rw [show before ++ Operator.text .regexNoMatch = before ++ ['!'] ++ ['~'] by simp [Operator.text], concat_suffix_concat]
      simp
  rw [hend] at h
  exact h

theorem front_match (before : Text) : "=~\"".toList <:+ before ++ c.left ↔
    c.quote = '"' ∧ c.space = [] ∧ c.operator = .regexMatch := by
  have h := front_left (c := c) (y := '~') ['='] before (by decide)
  have hend : ['='] ++ ['~'] <:+ before ++ c.operator.text ↔ c.operator = .regexMatch := by
    cases c.operator with
    | equal =>
      rw [show Operator.text .equal = ['='] from rfl, concat_suffix_concat]
      simp
    | notEqual =>
      rw [show before ++ Operator.text .notEqual = before ++ ['!'] ++ ['='] by simp [Operator.text], concat_suffix_concat]
      simp
    | regexMatch => exact iff_of_true ⟨before, by simp [Operator.text]⟩ rfl
    | regexNoMatch =>
      have hother : ¬ ['='] <:+ before ++ ['!'] := fun hs => absurd (concat_suffix_concat (a := []).mp hs).1 (by decide)
      rw [show before ++ Operator.text .regexNoMatch = before ++ ['!'] ++ ['~'] by simp [Operator.text], concat_suffix_concat]
      simp [hother]
  rw [hend] at h
  exact h

end Clause
end IpCountryApi.Dashboards
