import IpCountryApi.Library.Dict
import IpCountryApi.Library.Replacement

/-! Python's ConfigParser with its basic interpolation, as far as options are set and read
back. Errors are told apart from results only. -/
namespace IpCountryApi.Library.ConfigParser

/-- What the match of _KEYCRE at the beginning of a text gives: the name in %(name)s and the rest. -/
def keyMatch : List Char → Option (List Char × List Char)
  | '%' :: '(' :: rest =>
    match rest.takeWhile (· ≠ ')'), rest.dropWhile (· ≠ ')') with
    | c :: name, ')' :: 's' :: rest => some (c :: name, rest)
    | _, _ => none
  | _ => none

theorem keyMatch_suffix {text name rest : List Char} (h : keyMatch text = some (name, rest)) :
    rest <:+ text ∧ rest.length < text.length := by
  unfold keyMatch at h
  split at h
  · rename_i tail
    split at h
    · rename_i hdrop
      cases h
      have hsuffix := List.dropWhile_suffix (l := tail) (· ≠ ')')
      rw [hdrop] at hsuffix
      have hrest : rest <:+ tail := ((List.suffix_cons 's' rest).trans (List.suffix_cons ')' _)).trans hsuffix
      refine ⟨(hrest.trans (List.suffix_cons '(' tail)).trans (List.suffix_cons '%' _), ?_⟩
      have hle := hrest.length_le
      simp only [List.length_cons]
      omega
    · cases h
  · cases h

/-- _KEYCRE.sub("", text) -/
def dropKeys (text : List Char) : List Char :=
  match _hmatch : keyMatch text with
  | some (_, rest) => dropKeys rest
  | none =>
    match text with
    | [] => []
    | c :: rest => c :: dropKeys rest
termination_by text.length
decreasing_by
  · exact (keyMatch_suffix ‹_›).2
  · exact Nat.lt_succ_self _

theorem mem_dropKeys {c : Char} {text : List Char} (h : c ∈ dropKeys text) : c ∈ text := by
  induction text using dropKeys.induct with
  | case1 text name rest hmatch ih =>
    rw [dropKeys] at h
    split at h
    · rename_i hmatch'
      cases hmatch.symm.trans hmatch'
      exact (keyMatch_suffix hmatch).1.subset (ih h)
    · rename_i hmatch'
      cases hmatch.symm.trans hmatch'
  | case2 hmatch =>
    rw [dropKeys] at h
    simp [keyMatch] at h
  | case3 x rest hmatch ih =>
    rw [dropKeys] at h
    split at h
    · rename_i hmatch'
      cases hmatch.symm.trans hmatch'
    · rcases List.mem_cons.mp h with rfl | h
      · exact .head rest
      · exact .tail x (ih h)

/-- BasicInterpolation.before_set -/
def beforeSet (value : List Char) : Option (List Char) :=
  if '%' ∈ dropKeys (replace ['%', '%'] [] value) then none else some value

section Interpolation
variable (optionxform : String → String) (map : Dict String (List Char))

/-- The loop of _interpolate_some; deeper stands for the call at the next depth. -/
def interpolateLoop (deeper : List Char → Option (List Char)) (text : List Char) : Option (List Char) :=
  match text with
  | [] => some []
  | c :: rest =>
    if c ≠ '%' then (interpolateLoop deeper rest).map (c :: ·)
    else
      match rest with
      | '%' :: rest => (interpolateLoop deeper rest).map ('%' :: ·)
      | '(' :: tail =>
        match _hmatch : keyMatch ('%' :: '(' :: tail) with
        | none => none
        | some (name, rest) =>
          match map.get? (optionxform (String.ofList name)) with
          | none => none
          | some value =>
            (if '%' ∈ value then deeper value else some value).bind fun text => (interpolateLoop deeper rest).map (text ++ ·)
      | _ => none
termination_by text.length
decreasing_by
  · exact Nat.lt_succ_self _
  · simp only [List.length_cons]
    omega
  · have hlength := (keyMatch_suffix ‹_›).2
    exact hlength

/-- _interpolate_some with the depths that are left of MAX_INTERPOLATION_DEPTH. -/
def interpolateSome : Nat → List Char → Option (List Char)
  | 0, _ => none
  | depth + 1, text => interpolateLoop optionxform map (interpolateSome depth) text

/-- BasicInterpolation.before_get -/
def beforeGet (value : List Char) : Option (List Char) := interpolateSome optionxform map 10 value

end Interpolation

/-- The options of the default section, and those of the others. -/
structure Parser where
  defaults : Dict String (List Char)
  sections : Dict String (Dict String (List Char))

namespace Parser
variable (self : Parser) (optionxform : String → String)

def hasSection (name : String) : Bool := (self.sections.get? name).isSome

def addSection (name : String) : Parser := { self with sections := self.sections.set name [] }

/-- Parser.set(section, option, value) -/
def set (name option : String) (value : List Char) : Option Parser :=
  (beforeSet value).bind fun value =>
    (self.sections.get? name).map fun options =>
      { self with sections := self.sections.set name (options.set (optionxform option) value) }

/-- Parser.items(section) -/
def items (name : String) : Option (Dict String (List Char)) :=
  (self.sections.get? name).bind fun options =>
    let map := self.defaults.update options
    map.mapM fun kv => (beforeGet optionxform map kv.2).map (kv.1, ·)

end Parser

/-! Values with every percent sign doubled. -/

/-- value.replace("%", "%%") -/
def escape (value : List Char) : List Char := replace ['%'] ['%', '%'] value

theorem escape_cons (c : Char) (value : List Char) :
    escape (c :: value) = (if c = '%' then ['%', '%'] else [c]) ++ escape value := by
  rw [escape, replace_singleton, List.flatMap_cons, ← replace_singleton, escape]

/-- No percent sign is left once the doubled ones are taken away. -/
theorem percent_unpaired (value : List Char) : '%' ∉ replace ['%', '%'] [] (escape value) := by
  induction value with
  | nil => exact List.not_mem_nil
  | cons c value ih =>
    rw [escape_cons]
    split
    · rw [replace_match (by decide)]
      exact ih
    · rename_i hc
      rw [List.singleton_append, replace_cons fun h => hc (List.cons_prefix_cons.mp h).1.symm]
      exact fun h => (List.mem_cons.mp h).elim (fun he => hc he.symm) ih

theorem beforeSet_escape (value : List Char) : beforeSet (escape value) = some (escape value) :=
  if_neg fun h => percent_unpaired value (mem_dropKeys h)

section Reading
variable {optionxform : String → String} {map : Dict String (List Char)} {deeper : List Char → Option (List Char)}

theorem interpolateLoop_cons {c : Char} (hc : c ≠ '%') (rest : List Char) : interpolateLoop optionxform map deeper (c :: rest) =
    (interpolateLoop optionxform map deeper rest).map (c :: ·) := by
  rw [interpolateLoop.eq_def]
  exact if_pos hc

theorem interpolateLoop_percent (rest : List Char) : interpolateLoop optionxform map deeper ('%' :: '%' :: rest) =
    (interpolateLoop optionxform map deeper rest).map ('%' :: ·) := by
  rw [interpolateLoop.eq_def]
  exact if_neg (not_not.mpr rfl)

theorem interpolateLoop_plain {text : List Char} (h : '%' ∉ text) : interpolateLoop optionxform map deeper text = some text := by
  induction text with
  | nil => rw [interpolateLoop]
  | cons c text ih =>
    rw [interpolateLoop_cons fun he => h (he ▸ .head text), ih fun ht => h (.tail c ht)]
    rfl

theorem interpolateLoop_escape (value : List Char) : interpolateLoop optionxform map deeper (escape value) = some value := by
  induction value with
  | nil => rw [show escape [] = [] from rfl, interpolateLoop]
  | cons c value ih =>
    rw [escape_cons]
    split
    · rename_i hc
      rw [List.cons_append, List.singleton_append, interpolateLoop_percent, ih, hc]
      rfl
    · rename_i hc
      rw [List.singleton_append, interpolateLoop_cons hc, ih]
      rfl

theorem beforeGet_plain {value : List Char} (h : '%' ∉ value) : beforeGet optionxform map value = some value :=
  interpolateLoop_plain h

/-- What was doubled reads back. -/
theorem beforeGet_escape (value : List Char) : beforeGet optionxform map (escape value) = some value :=
  interpolateLoop_escape value

end Reading

/-- The values of a dictionary read one by one. -/
theorem get?_mapM {d : Dict String (List Char)} {f : List Char → Option (List Char)} (h : ∀ kv ∈ d, (f kv.2).isSome = true) :
    ∃ out : Dict String (List Char), d.mapM (fun kv => (f kv.2).map (kv.1, ·)) = some out ∧
      ∀ k, out.get? k = (d.get? k).bind f := by
  induction d with
  | nil => exact ⟨[], rfl, fun _ => rfl⟩
  | cons kv d ih =>
    obtain ⟨k, v⟩ := kv
    obtain ⟨out, hout, hget⟩ := ih fun kv hkv => h kv (.tail _ hkv)
    obtain ⟨v', hv⟩ := Option.isSome_iff_exists.mp (h (k, v) (.head d))
    refine ⟨(k, v') :: out, ?_, fun k' => ?_⟩
    · rw [List.mapM_cons, hv, hout]
      rfl
    · have hk := hget k'
      simp only [Dict.get?, KeyedTable.fetch, List.find?_cons] at hk ⊢
      by_cases he : k = k'
      · simp [he, hv]
      · simp [he, hk]

theorem Parser.hasSection_of_items {parser : Parser} {optionxform : String → String} {name : String}
    {out : Dict String (List Char)} (h : parser.items optionxform name = some out) : parser.hasSection name = true := by
  obtain ⟨options, hoptions, _⟩ := Option.bind_eq_some_iff.mp h
  rw [Parser.hasSection, hoptions]
  rfl

/-- An option that was set to an escaped value, in a section whose other values are plain. -/
theorem Parser.items_set_escape (optionxform : String → String) (option : String) {parser : Parser} {name : String}
    {options : Dict String (List Char)} (hsection : parser.sections.get? name = some options)
    (hkeys : (Dict.keys options).Nodup) (hplain : ∀ kv ∈ parser.defaults ++ options, '%' ∉ kv.2) (value : List Char) :
    ∃ after out, parser.set optionxform name option (escape value) = some after ∧ after.items optionxform name = some out ∧
      out.get? (optionxform option) = some value := by
  have hset : parser.set optionxform name option (escape value) =
      some ⟨parser.defaults, parser.sections.set name (options.set (optionxform option) (escape value))⟩ := by
    rw [Parser.set, beforeSet_escape, Option.bind_some, hsection]
    rfl
  have hread : ∀ kv ∈ parser.defaults.update (options.set (optionxform option) (escape value)),
      (beforeGet optionxform (parser.defaults.update (options.set (optionxform option) (escape value))) kv.2).isSome = true := by
    intro kv hkv
    have hvalue : '%' ∉ kv.2 ∨ kv.2 = escape value := by
      rcases Dict.mem_update hkv with hmem | ⟨kv', hmem, hv⟩
      · exact .inl (hplain kv (List.mem_append_left _ hmem))
      · rw [hv]
        exact (Dict.mem_set hmem).imp_left fun hmem => hplain kv' (List.mem_append_right _ hmem)
    rcases hvalue with hvalue | hvalue
    · rw [beforeGet_plain hvalue]
      rfl
    · rw [hvalue, beforeGet_escape]
      rfl
  obtain ⟨out, hout, hget⟩ := get?_mapM hread
  refine ⟨_, out, hset, ?_, ?_⟩
  · rw [Parser.items, Dict.get?_set_self, Option.bind_some]
    exact hout
  · rw [hget, Dict.get?_update (Dict.nodup_set hkeys), Dict.get?_set_self]
    exact beforeGet_escape value

end IpCountryApi.Library.ConfigParser
