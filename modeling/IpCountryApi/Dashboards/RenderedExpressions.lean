import IpCountryApi.Dashboards.RenderedMatchers

/-! What render_expression makes of an expression. -/
namespace IpCountryApi.Dashboards
open Library

/-- The value of a matcher's variable on a dashboard. -/
def Clause.value (uid : String) (c : Clause) : Text :=
  let generic := (genericVariables.get? c.name).getD []
  if c.form = .regex then ((substitutionsOf uid).get? (Form.regex.token c.name)).getD generic else generic

/-- The literal text of an expression. -/
def inNamespace (appNamespace text : Text) : Text := replace "__APP_NAMESPACE__".toList appNamespace text

/-- The expression with a matcher for every variable. -/
def Expression.expected (uid : String) (appNamespace : Text) (e : Expression) : Text :=
  (e.clauses.flatMap fun c => inNamespace appNamespace c.lead ++ c.expected (c.value uid)) ++ inNamespace appNamespace e.rest

def substitutionRule (entry : Text × Text) : Rule Char := ⟨[], entry.1.tail, entry.2⟩

/-- Every replacement behind the one of the namespace. -/
def rulesOf (replacements generic : Table) : List (Rule Char) :=
  rateRule :: (replacements.map substitutionRule ++ generic.flatMap variableRules)

/-- An entry of a dashboard's own table. -/
structure OfDashboard (entry : Text × Text) : Prop where
  keyed : ∃ name, entry.1 = Form.regex.token name ∧ ∀ x ∈ name, isNameChar x = true
  plain : '$' ∉ entry.2

/-- An entry of the table for every dashboard. -/
structure OfVariable (entry : Text × Text) : Prop where
  known : entry.1 ∈ genericVariables.keys
  plain : '$' ∉ entry.2

variable {replacements generic : Table} {appNamespace : Text} {e : Expression} {value : Clause → Text}

theorem substitutionsOf_mem (uid : String) : substitutionsOf uid = [] ∨ substitutionsOf uid ∈ substitutions.map Prod.snd := by
  rw [substitutionsOf]
  cases h : substitutions.get? uid with
  | none => exact .inl rfl
  | some table =>
    obtain ⟨entry, hentry, rfl⟩ := Option.map_eq_some_iff.mp h
    exact .inr (List.mem_map_of_mem (KeyedTable.fetch_mem hentry))

theorem ofDashboard {uid : String} {entry : Text × Text} (h : entry ∈ substitutionsOf uid) : OfDashboard entry := by
  have hall : ((substitutions.map Prod.snd).all fun table => table.all fun entry =>
      entry.1 = Form.regex.token ((entry.1.drop 2).takeWhile isNameChar) && !entry.2.contains '$') = true := by decide
  rcases substitutionsOf_mem uid with hnil | hmem
  · rw [hnil] at h
    cases h
  · have hentry := List.all_eq_true.mp (List.all_eq_true.mp hall _ hmem) entry h
    simp only [Bool.and_eq_true, decide_eq_true_eq, Bool.not_eq_true', List.contains_eq_mem,
      decide_eq_false_iff_not] at hentry
    exact ⟨⟨_, hentry.1, fun x hx => List.all_eq_true.mp List.all_takeWhile x hx⟩, hentry.2⟩

theorem substitutions_nodup (uid : String) : (substitutionsOf uid).keys.Nodup := by
  have hall : ∀ table ∈ substitutions.map Prod.snd, (Dict.keys table).Nodup := by decide
  rcases substitutionsOf_mem uid with hnil | hmem
  · rw [hnil]
    exact List.nodup_nil
  · exact hall _ hmem

theorem ofVariable {entry : Text × Text} (h : entry ∈ genericVariables) : OfVariable entry := by
  have hall : (genericVariables.all fun entry => !entry.2.contains '$') = true := by decide
  exact ⟨List.mem_map_of_mem h, by simpa using List.all_eq_true.mp hall entry h⟩

/-! The replacements as a chain of rules. -/

theorem substitutionRule_pattern {entry : Text × Text} (h : OfDashboard entry) :
    (substitutionRule entry).pattern '$' = entry.1 := by
  obtain ⟨name, hkey, _⟩ := h.keyed
  rw [substitutionRule, Rule.pattern, hkey]
  rfl

theorem renderWith_rules (hreplacements : ∀ entry ∈ replacements, OfDashboard entry) (s : Text) :
    renderWith replacements generic s appNamespace =
      applyRules (rulesOf replacements generic) (inNamespace appNamespace s) := by
  have hown : ∀ s : Text, replacements.foldl (fun rendered entry => replace entry.1 entry.2 rendered) s =
      applyRules (replacements.map substitutionRule) s := by
    intro s
    rw [applyRules, List.foldl_map]
    exact List.foldl_ext _ _ _ fun s entry h => by rw [substitutionRule_pattern (hreplacements entry h), substitutionRule]
  have hgeneric : ∀ s : Text, generic.foldl renderVariable s = applyRules (generic.flatMap variableRules) s := by
    intro s
    rw [applyRules, List.foldl_flatMap]
    exact List.foldl_ext _ _ _ fun s entry _ => renderVariable_rules entry s
  rw [renderWith, hgeneric, hown, rulesOf, applyRules, applyRules, applyRules, List.foldl_cons, List.foldl_append]
  rfl

namespace Clause

/-- The rate interval is no variable. -/
theorem matching_rate (c : Clause) : c.piece.matching rateRule = false := by
  have hall : (genericVariables.keys.all fun name => name.head? ≠ some '_') = true := by decide
  have hname : c.name.head? ≠ some '_' := by simpa using List.all_eq_true.mp hall c.name c.known
  obtain ⟨x, xs, hcons⟩ := List.exists_cons_of_ne_nil (names_plain c.known).1
  have hx : '_' ≠ x := by
    rintro rfl
    exact hname (by rw [hcons]; rfl)
  have hback : ¬ rateRule.back <+: c.right := by
    rcases c.right_cases with ⟨_, hright⟩ | ⟨_, hright⟩ | ⟨_, hright⟩
    · simp [hright, rateRule, List.cons_prefix_cons]
    · simp [hright, rateRule, List.cons_prefix_cons]
    · simp [hright, hcons, rateRule, List.cons_prefix_cons, hx]
  exact decide_eq_false fun h => hback h.2

theorem find_replacements (c : Clause) (h : ∀ entry ∈ replacements, OfDashboard entry) :
    (replacements.map substitutionRule).find? c.piece.matching =
      if c.form = .regex then (replacements.get? (Form.regex.token c.name)).map c.rule else none := by
  induction replacements with
  | nil => simp [Dict.get?, KeyedTable.fetch]
  | cons entry replacements ih =>
    obtain ⟨name, hkey, hname⟩ := (h entry (.head _)).keyed
    have hrule : substitutionRule entry = tokenRule .regex name entry.2 := by rw [substitutionRule, hkey]; rfl
    have hsame : Form.regex.token name = Form.regex.token c.name ↔ name = c.name := by simp [Form.token, Form.body]
    rw [List.map_cons, List.find?_cons, hrule, matching_token, ih fun entry h' => h entry (.tail _ h')]
    simp only [back_regex hname, Dict.get?_cons, hkey, hsame]
    by_cases hform : c.form = .regex
    · by_cases hc : name = c.name
      · simp [hform, hc, rule]
      · simp [hc]
    · simp [hform]

theorem find_generic (c : Clause) (h : ∀ entry ∈ generic, OfVariable entry) :
    (generic.flatMap variableRules).find? c.piece.matching = (generic.get? c.name).map c.rule := by
  induction generic with
  | nil => rfl
  | cons entry generic ih =>
    rw [List.flatMap_cons, List.find?_append, ih fun entry h' => h entry (.tail _ h'), Dict.get?_cons]
    by_cases hc : entry.1 = c.name
    · have hfind := c.find_variableRules entry.2
      rw [← hc] at hfind
      rw [hfind, if_pos hc]
      rfl
    · have hnone : (variableRules entry).find? c.piece.matching = none :=
        List.find?_eq_none.mpr fun rule hrule => by simp [matching_other (h entry (.head _)).known hc hrule]
      rw [hnone, if_neg hc]
      rfl

/-- The rule that rewrites a matcher, with the two tables in any order. -/
theorem find_rules (c : Clause) {uid : String} (hreplacements : replacements.Perm (substitutionsOf uid))
    (hgeneric : generic.Perm genericVariables) :
    (rulesOf replacements generic).find? c.piece.matching = some (c.rule (c.value uid)) := by
  have hown := Dict.get?_perm (k := Form.regex.token c.name) hreplacements.symm (substitutions_nodup uid)
  have hvariable := Dict.get?_perm (k := c.name) hgeneric.symm (by decide)
  have hsome : (genericVariables.get? c.name).isSome = true := by
    have hall : (genericVariables.keys.all fun name => (genericVariables.get? name).isSome) = true := by decide
    exact List.all_eq_true.mp hall c.name c.known
  obtain ⟨known, hknown⟩ := Option.isSome_iff_exists.mp hsome
  rw [rulesOf, List.find?_cons, matching_rate, List.find?_append,
    c.find_replacements fun entry h => ofDashboard (hreplacements.subset h),
    c.find_generic fun entry h => ofVariable (hgeneric.subset h), ← hown, ← hvariable, value, hknown]
  by_cases hform : c.form = .regex
  · cases hvalue : (substitutionsOf uid).get? (Form.regex.token c.name) <;> simp [hform]
  · simp [hform]

end Clause

/-! Whole expressions. -/

theorem Clause.lead_plain (c : Clause) : '$' ∉ c.lead := by
  have hgap : '$' ∉ c.gap := fun h => absurd (List.all_eq_true.mp c.blank _ (List.mem_append_left _ h)) (by decide)
  rw [lead, List.mem_append, not_or]
  exact ⟨c.literal, hgap⟩

theorem Clause.fits_rules (c : Clause) {rule : Rule Char} (hreplacements : ∀ entry ∈ replacements, OfDashboard entry)
    (hgeneric : ∀ entry ∈ generic, OfVariable entry) (h : rule ∈ rulesOf replacements generic) : c.piece.Fits '$' rule := by
  rcases List.mem_cons.mp h with rfl | h
  · exact fits_back (c.quote_not_mem (by decide))
  · rcases List.mem_append.mp h with h | h
    · obtain ⟨entry, hentry, rfl⟩ := List.mem_map.mp h
      obtain ⟨name, hkey, hname⟩ := (hreplacements entry hentry).keyed
      have hfits : c.piece.Fits '$' (tokenRule .regex name entry.2) := fits_token .regex hname
      rw [substitutionRule, hkey]
      exact hfits
    · obtain ⟨entry, hentry, hrule⟩ := List.mem_flatMap.mp h
      have hname := (names_plain (hgeneric entry hentry).known).2
      rcases variableRules_cases hrule with ⟨front, form, hfront, _, rfl⟩ | ⟨form, rfl⟩
      · exact fits_quoted hfront form hname
      · exact fits_token form hname

theorem rulesOf_plain {rule : Rule Char} (hreplacements : ∀ entry ∈ replacements, OfDashboard entry)
    (hgeneric : ∀ entry ∈ generic, OfVariable entry) (h : rule ∈ rulesOf replacements generic) :
    '$' ∉ rule.front ∧ '$' ∉ rule.new := by
  rcases List.mem_cons.mp h with rfl | h
  · decide
  · rcases List.mem_append.mp h with h | h
    · obtain ⟨entry, hentry, rfl⟩ := List.mem_map.mp h
      exact ⟨List.not_mem_nil, (hreplacements entry hentry).plain⟩
    · obtain ⟨entry, hentry, hrule⟩ := List.mem_flatMap.mp h
      have hvalue := (hgeneric entry hentry).plain
      rcases variableRules_cases hrule with ⟨front, form, hfront, _, rfl⟩ | ⟨form, rfl⟩
      · rcases hfront with rfl | rfl <;> simp [quotedRule, hvalue]
      · exact ⟨List.not_mem_nil, hvalue⟩

theorem inNamespace_plain (hns : '$' ∉ appNamespace) {s : Text} (hs : '$' ∉ s) : '$' ∉ inNamespace appNamespace s :=
  fun hmem => (mem_replace hmem).elim hs hns

/-- The placeholder of the namespace is found in literal text only. -/
theorem Clause.inNamespace_append (c : Clause) (appNamespace rest : Text) :
    inNamespace appNamespace (c.text ++ rest) = inNamespace appNamespace c.lead ++ Piece.text '$' c.piece ++
      inNamespace appNamespace rest := by
  have hquote : c.quote ∉ "__APP_NAMESPACE__".toList := c.quote_not_mem (by decide)
  obtain ⟨x, xs, hoperator, hx⟩ : ∃ x xs, c.operator.text = x :: xs ∧ x ∉ "__APP_NAMESPACE__".toList := by
    cases c.operator with
    | equal => exact ⟨'=', [], rfl, by decide⟩
    | notEqual => exact ⟨'!', ['='], rfl, by decide⟩
    | regexMatch => exact ⟨'=', ['~'], rfl, by decide⟩
    | regexNoMatch => exact ⟨'!', ['~'], rfl, by decide⟩
  have hinside : 'A' ∉ xs ++ c.space ++ c.quote :: '$' :: c.form.body c.name := by
    have hleft : 'A' ∉ c.left := c.left_plain (by decide) (by decide) (operator_plain _).2
    have hbody : 'A' ∉ c.form.body c.name := body_plain c.form c.name_chars (by decide) (by decide)
    rw [left, hoperator] at hleft
    simp only [List.mem_append, List.mem_cons, List.not_mem_nil, or_false, not_or] at hleft ⊢
    exact ⟨⟨hleft.1.1.2, hleft.1.2⟩, hleft.2, by decide, hbody⟩
  have htext : c.text ++ rest =
      c.lead ++ x :: (xs ++ c.space ++ c.quote :: '$' :: c.form.body c.name) ++ c.quote :: rest := by
    simp [text, left, right, hoperator]
  rw [inNamespace, htext, replace_solid (by decide : 'A' ∈ "__APP_NAMESPACE__".toList) hinside hx hquote]
  simp [inNamespace, piece, Piece.text, left, right, hoperator]

/-- The pieces between which no replacement acts. -/
def Expression.pieces (appNamespace : Text) (e : Expression) : List (Piece Char) :=
  (e.clauses.flatMap fun c => [.plain (inNamespace appNamespace c.lead), c.piece]) ++
    [.plain (inNamespace appNamespace e.rest)]

theorem inNamespace_pieces (appNamespace : Text) (clauses : List Clause) (rest : Text) :
    inNamespace appNamespace (clauses.flatMap Clause.text ++ rest) =
      (clauses.flatMap fun c => inNamespace appNamespace c.lead ++ Piece.text '$' c.piece) ++
        inNamespace appNamespace rest := by
  induction clauses with
  | nil => rfl
  | cons c clauses ih =>
    rw [List.flatMap_cons, List.append_assoc, c.inNamespace_append, ih, List.flatMap_cons,
      List.append_assoc _ _ (inNamespace _ rest)]

theorem Expression.inNamespace_text (e : Expression) (appNamespace : Text) :
    inNamespace appNamespace e.text = (e.pieces appNamespace).flatMap (Piece.text '$') := by
  rw [text, inNamespace_pieces, pieces, List.flatMap_append, List.flatMap_assoc]
  simp [Piece.text]

theorem Expression.fits_pieces (e : Expression) {rule : Rule Char} (hns : '$' ∉ appNamespace)
    (hreplacements : ∀ entry ∈ replacements, OfDashboard entry) (hgeneric : ∀ entry ∈ generic, OfVariable entry)
    (h : rule ∈ rulesOf replacements generic) : ∀ p ∈ e.pieces appNamespace, p.Fits '$' rule := by
  intro p hp
  rcases List.mem_append.mp hp with hp | hp
  · obtain ⟨c, _, hp⟩ := List.mem_flatMap.mp hp
    simp only [List.mem_cons, List.not_mem_nil, or_false] at hp
    rcases hp with rfl | rfl
    · exact inNamespace_plain hns c.lead_plain
    · exact c.fits_rules hreplacements hgeneric h
  · rw [List.mem_singleton.mp hp]
    exact inNamespace_plain hns e.literal

/-- The chain of replacements, one matcher at a time. -/
theorem renderWith_text (e : Expression) {uid : String} (hns : '$' ∉ appNamespace)
    (hreplacements : replacements.Perm (substitutionsOf uid)) (hgeneric : generic.Perm genericVariables) :
    renderWith replacements generic e.text appNamespace =
      (e.clauses.flatMap fun c => inNamespace appNamespace c.lead ++ c.written (c.value uid)) ++
        inNamespace appNamespace e.rest := by
  have hown : ∀ entry ∈ replacements, OfDashboard entry := fun entry h => ofDashboard (hreplacements.subset h)
  have hvariables : ∀ entry ∈ generic, OfVariable entry := fun entry h => ofVariable (hgeneric.subset h)
  have hchain := Piece.replace_chain (fun rule h => rulesOf_plain hown hvariables h)
    fun rule h => e.fits_pieces hns hown hvariables h
  have hpiece : ∀ c : Clause,
      (rulesOf replacements generic).foldl Piece.rewrite c.piece = .plain (c.written (c.value uid)) := by
    intro c
    rw [Piece.foldl_rewrite, c.find_rules hreplacements hgeneric]
    exact c.rewrite_rule _
  have hplain : ∀ s : Text, (rulesOf replacements generic).foldl Piece.rewrite (.plain s) = .plain s := by
    intro s
    have hnone : (rulesOf replacements generic).find? (Piece.plain s).matching = none :=
      List.find?_eq_none.mpr fun _ _ => Bool.false_ne_true
    rw [Piece.foldl_rewrite, hnone]
    rfl
  rw [renderWith_rules hown, e.inNamespace_text, applyRules, hchain, Expression.pieces, List.map_append, List.flatMap_append,
    List.map_flatMap, List.flatMap_assoc]
  simp [hpiece, hplain, Piece.text]

/-- What render_expression should make of an expression: no token is left, every variable is
matched, and the order of the tables does not matter. -/
structure Rendered (uid : String) (appNamespace : Text) (e : Expression) : Prop where
  resolved : '$' ∉ renderExpression uid e.text appNamespace
  matchers : renderExpression uid e.text appNamespace = e.expected uid appNamespace
  unordered : ∀ replacements generic : Table, replacements.Perm (substitutionsOf uid) → generic.Perm genericVariables →
    renderWith replacements generic e.text appNamespace = renderExpression uid e.text appNamespace

theorem value_plain (uid : String) (c : Clause) : '$' ∉ c.value uid := by
  have hget : ∀ {table : Table} {k : Text}, (∀ entry ∈ table, '$' ∉ entry.2) → ∀ v, table.get? k = some v → '$' ∉ v := by
    intro table k htable v hv
    obtain ⟨entry, hentry, rfl⟩ := Option.map_eq_some_iff.mp hv
    exact htable entry (KeyedTable.fetch_mem hentry)
  have hgeneric : '$' ∉ (genericVariables.get? c.name).getD [] := by
    cases hv : genericVariables.get? c.name with
    | none => exact List.not_mem_nil
    | some v => exact hget (fun entry h => (ofVariable h).plain) v hv
  rw [Clause.value]
  split
  · cases hv : (substitutionsOf uid).get? (Form.regex.token c.name) with
    | none => exact hgeneric
    | some v => exact hget (fun entry h => (ofDashboard h).plain) v hv
  · exact hgeneric

theorem Clause.written_plain (c : Clause) {value : Text} (h : '$' ∉ value) : '$' ∉ c.written value := by
  have hspace : '$' ∉ c.space := fun hm => absurd (c.space_blank hm) (by decide)
  have hquote : '$' ≠ c.quote := fun he => absurd c.quoted (by rw [← he]; decide)
  have hrewritten : '$' ∉ c.operator.rewritten := by cases c.operator <;> decide
  have hoperator :
      '$' ∉ (if c.form ≠ .regex ∧ c.quote = '"' ∧ c.space = [] then c.operator.rewritten else c.operator.text) := by
    split
    · exact hrewritten
    · exact (operator_plain _).1
  simp only [written, List.mem_append, List.mem_cons, List.not_mem_nil, or_false, not_or]
  exact ⟨⟨hoperator, hspace⟩, hquote, h, hquote⟩

/-- Two renderings of the same matchers that agree are regular throughout. -/
theorem regular_of_flatMap_eq {clauses : List Clause} {lead value : Clause → Text} {a : Text}
    (h : (clauses.flatMap fun c => lead c ++ c.written (value c)) ++ a =
      (clauses.flatMap fun c => lead c ++ c.expected (value c)) ++ a) :
    ∀ c ∈ clauses, c.Regular := by
  induction clauses with
  | nil => simp
  | cons c clauses ih =>
    simp only [List.flatMap_cons, List.append_assoc, List.append_cancel_left_eq] at h
    have hregular := Clause.regular_of_eq h
    rw [Clause.written_eq hregular, List.append_cancel_left_eq] at h
    exact List.forall_mem_cons.mpr ⟨hregular, ih h⟩

/-- Exactly the regular matchers are rendered as they should be. -/
theorem rendered_iff (uid : String) (e : Expression) (hns : '$' ∉ appNamespace) :
    Rendered uid appNamespace e ↔ ∀ c ∈ e.clauses, c.Regular := by
  have hown : List.Perm (substitutionsOf uid) (substitutionsOf uid) := .refl _
  have htext := renderWith_text e hns hown (.refl genericVariables)
  refine ⟨fun h => ?_, fun h => ⟨?_, ?_, fun replacements generic hreplacements hgeneric => ?_⟩⟩
  · have hmatchers := h.matchers
    rw [renderExpression, htext, Expression.expected] at hmatchers
    exact regular_of_flatMap_eq hmatchers
  · rw [renderExpression, htext, List.mem_append, List.mem_flatMap]
    rintro (⟨c, _, hc⟩ | hrest)
    · rcases List.mem_append.mp hc with hc | hc
      · exact inNamespace_plain hns c.lead_plain hc
      · exact c.written_plain (value_plain uid c) hc
    · exact inNamespace_plain hns e.literal hrest
  · have hclauses : (e.clauses.flatMap fun c => inNamespace appNamespace c.lead ++ c.written (c.value uid)) =
        e.clauses.flatMap fun c => inNamespace appNamespace c.lead ++ c.expected (c.value uid) :=
      List.flatMap_congr fun c hc => by rw [Clause.written_eq (h c hc)]
    rw [renderExpression, htext, hclauses, Expression.expected]
  · rw [renderExpression, htext]
    exact renderWith_text e hns hreplacements hgeneric

/-- A matcher on the namespace, as a dashboard would write it. -/
def upIn (operator : Operator) : Expression :=
  ⟨[⟨"up\x7b".toList, "namespace".toList, [], operator, [], '"', .plain, "namespace".toList, by decide, by decide, by decide,
    by decide, by decide +kernel⟩], "\x7d".toList, by decide⟩

theorem rendered_up : Rendered "k3s-reliability-capacity" "ip-country-api".toList (upIn .equal) :=
  (rendered_iff _ _ (by decide)).mpr (by simp [upIn, Clause.Regular])

/-- A negative matcher gets an operator that PromQL does not have. -/
theorem notEqual_not_rendered : ¬ Rendered "k3s-reliability-capacity" "ip-country-api".toList (upIn .notEqual) ∧
    renderExpression "k3s-reliability-capacity" (upIn .notEqual).text "ip-country-api".toList =
      "up\x7bnamespace!=~\".*\"\x7d".toList := by
  have hrender : renderExpression "k3s-reliability-capacity" (upIn .notEqual).text "ip-country-api".toList =
      "up\x7bnamespace!=~\".*\"\x7d".toList := by decide +kernel
  refine ⟨fun h => ?_, hrender⟩
  have hmatchers := h.matchers
  rw [hrender] at hmatchers
  exact absurd hmatchers (by decide)

end IpCountryApi.Dashboards
