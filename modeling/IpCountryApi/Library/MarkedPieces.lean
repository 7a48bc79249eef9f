import IpCountryApi.Library.Replacement

/-! Replacements in texts of pieces that have at most one marker each, with patterns that have
one: each piece is rewritten by itself. -/
namespace IpCountryApi.Library
variable {α : Type} [DecidableEq α]

/-- A replacement whose pattern has one marker, between front and back. -/
structure Rule (α : Type) where
  front : List α
  back : List α
  new : List α

inductive Piece (α : Type) where
  | plain (text : List α)
  | marked (left right : List α)

def Rule.pattern (rule : Rule α) (m : α) : List α := rule.front ++ m :: rule.back

namespace Piece
variable {m : α} {rule : Rule α} {p : Piece α}

def text (m : α) : Piece α → List α
  | .plain text => text
  | .marked left right => left ++ m :: right

def matching (p : Piece α) (rule : Rule α) : Bool :=
  match p with
  | .plain _ => false
  | .marked left right => decide (rule.front <:+ left ∧ rule.back <+: right)

def rewrite (p : Piece α) (rule : Rule α) : Piece α :=
  match p with
  | .plain text => .plain text
  | .marked left right =>
    if rule.front <:+ left ∧ rule.back <+: right then
      .plain (left.take (left.length - rule.front.length) ++ rule.new ++ right.drop rule.back.length)
    else .marked left right

/-- The marker is the one of the piece, and whether a rule matches there is told by the piece. -/
def Fits (m : α) (rule : Rule α) : Piece α → Prop
  | .plain text => m ∉ text
  | .marked left right => m ∉ left ∧ m ∉ right ∧ (∀ before, rule.front <:+ before ++ left → rule.front <:+ left) ∧
      ∀ after, rule.back <+: right ++ after → rule.back <+: right

theorem Fits.rewrite (h : p.Fits m rule) {other : Rule α} (hnew : m ∉ other.new) : (p.rewrite other).Fits m rule := by
  cases p with
  | plain text => exact h
  | marked left right =>
    rw [Piece.rewrite]
    split
    · intro hm
      rcases List.mem_append.mp hm with hm | hm
      · rcases List.mem_append.mp hm with hm | hm
        · exact h.1 (List.mem_of_mem_take hm)
        · exact hnew hm
      · exact h.2.1 (List.mem_of_mem_drop hm)
    · exact h

/-- One piece, behind a text without a marker that no match may start in, and before pieces that
are rewritten as they should be whatever such text comes before them. -/
theorem replace_step (hfront : m ∉ rule.front) (hp : p.Fits m rule) {rest rest' : List α}
    (hrest : ∀ carried, m ∉ carried → replace (rule.pattern m) rule.new (carried ++ rest) = carried ++ rest')
    {carried : List α} (hcarried : m ∉ carried) :
    replace (rule.pattern m) rule.new (carried ++ (p.text m ++ rest)) = carried ++ ((p.rewrite rule).text m ++ rest') := by
  cases p with
  | plain t =>
    have hboth : m ∉ carried ++ t := by
      rw [List.mem_append, not_or]
      exact ⟨hcarried, hp⟩
    have hstep := hrest (carried ++ t) hboth
    rw [List.append_assoc, List.append_assoc] at hstep
    exact hstep
  | marked left right =>
    obtain ⟨hleft, hright, hbefore, hafter⟩ := hp
    have hboth : m ∉ carried ++ left := by
      rw [List.mem_append, not_or]
      exact ⟨hcarried, hleft⟩
    have htext : carried ++ (text m (.marked left right) ++ rest) = (carried ++ left) ++ m :: (right ++ rest) := by
      simp [text]
    rw [htext, rewrite]
    split
    · rename_i hmatch
      obtain ⟨⟨start, rfl⟩, stop, rfl⟩ := hmatch
      have hstart : m ∉ carried ++ start := fun hm => hboth (by
        rw [← List.append_assoc]
        exact List.mem_append_left _ hm)
      have hstop : m ∉ stop := fun hm => hright (List.mem_append_right _ hm)
      have hmarked := replace_marked rule.back rule.new hfront hstart (stop ++ rest)
      rw [← Rule.pattern, hrest stop hstop] at hmarked
      have htake : (start ++ rule.front).take ((start ++ rule.front).length - rule.front.length) = start := by
        rw [List.length_append, Nat.add_sub_cancel, List.take_left]
      rw [htake, List.drop_left]
      simp only [Rule.pattern, text, List.append_assoc, List.cons_append] at hmarked ⊢
      exact hmarked
    · rename_i hmatch
      have hno : ¬ (rule.front <:+ carried ++ left ∧ rule.back <+: right ++ rest) :=
        fun hm => hmatch ⟨hbefore _ hm.1, hafter _ hm.2⟩
      have hunmarked := replace_unmarked rule.new hfront hboth hno
      rw [← Rule.pattern, hrest right hright] at hunmarked
      rw [hunmarked]
      simp [text]

/-- A replacement acts on each piece by itself. -/
theorem replace_pieces (hfront : m ∉ rule.front) {pieces : List (Piece α)} (h : ∀ p ∈ pieces, p.Fits m rule) :
    replace (rule.pattern m) rule.new (pieces.flatMap (text m)) = (pieces.map fun p => p.rewrite rule).flatMap (text m) := by
  suffices hcarried : ∀ carried, m ∉ carried → replace (rule.pattern m) rule.new (carried ++ pieces.flatMap (text m)) =
      carried ++ (pieces.map fun p => p.rewrite rule).flatMap (text m) from hcarried [] List.not_mem_nil
  induction pieces with
  | nil =>
    intro carried hcarried
    have hmarker : m ∈ rule.pattern m := List.mem_append_right _ (.head _)
    simp only [List.flatMap_nil, List.map_nil, List.append_nil]
    exact replace_of_not_mem hmarker hcarried
  | cons p pieces ih =>
    intro carried hcarried
    rw [List.flatMap_cons, List.map_cons, List.flatMap_cons]
    exact replace_step hfront (h p (.head pieces)) (ih fun q hq => h q (.tail p hq)) hcarried

/-- The rules one after another: the first one that matches a piece rewrites it for good. -/
theorem foldl_rewrite (p : Piece α) (rules : List (Rule α)) :
    rules.foldl rewrite p = ((rules.find? p.matching).map p.rewrite).getD p := by
  induction rules generalizing p with
  | nil => rfl
  | cons rule rules ih =>
    rw [List.foldl_cons, List.find?_cons]
    cases p with
    | plain text =>
      have hplain : rules.find? (matching (.plain text)) = none := List.find?_eq_none.mpr fun _ _ => Bool.false_ne_true
      rw [ih, show rewrite (.plain text) rule = .plain text from rfl, hplain]
      rfl
    | marked left right =>
      by_cases hmatch : rule.front <:+ left ∧ rule.back <+: right
      · have hrewrite : rewrite (.marked left right) rule =
            .plain (left.take (left.length - rule.front.length) ++ rule.new ++ right.drop rule.back.length) := if_pos hmatch
        have hplain : ∀ text : List α, rules.find? (matching (.plain text)) = none :=
          fun _ => List.find?_eq_none.mpr fun _ _ => Bool.false_ne_true
        have hyes : matching (.marked left right) rule = true := decide_eq_true hmatch
        rw [ih, hrewrite, hplain, hyes]
        exact hrewrite.symm
      · have hno : matching (.marked left right) rule = false := decide_eq_false hmatch
        rw [show rewrite (.marked left right) rule = .marked left right from if_neg hmatch, ih, hno]

/-- A chain of replacements acts on each piece by itself. -/
theorem replace_chain {rules : List (Rule α)} (hrules : ∀ rule ∈ rules, m ∉ rule.front ∧ m ∉ rule.new)
    {pieces : List (Piece α)} (h : ∀ rule ∈ rules, ∀ p ∈ pieces, p.Fits m rule) :
    rules.foldl (fun s rule => replace (rule.pattern m) rule.new s) (pieces.flatMap (text m)) =
      (pieces.map fun p => rules.foldl rewrite p).flatMap (text m) := by
  induction rules generalizing pieces with
  | nil => simp
  | cons rule rules ih =>
    obtain ⟨hfront, hnew⟩ := hrules rule (.head rules)
    have hfits : ∀ other ∈ rules, ∀ p ∈ pieces.map fun p => p.rewrite rule, p.Fits m other := by
      intro other hother p hp
      obtain ⟨q, hq, rfl⟩ := List.mem_map.mp hp
      exact (h other (.tail rule hother) q hq).rewrite hnew
    rw [List.foldl_cons, replace_pieces hfront (h rule (.head rules)), ih (fun r hr => hrules r (.tail rule hr)) hfits,
      List.map_map]
    rfl

end Piece
end IpCountryApi.Library
