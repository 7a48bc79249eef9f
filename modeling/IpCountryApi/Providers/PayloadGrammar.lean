import IpCountryApi.Providers.IPinfo

/-! The payloads that the validation of IPinfoLiteResponse accepts, and what it makes of
them. -/
namespace IpCountryApi.Providers
open Domain

/-- Exactly two ASCII letters in either case. -/
def twoLetters (code : String) : Bool := code.toList.length = 2 && code.toList.all Char.isAlpha

def asciiUpper (code : String) : String := String.ofList (code.toList.map Char.toUpper)

/-- 1 to 128 characters without the whitespace around them. -/
def usableName (country : PyStr) : Bool := 1 ≤ country.strip.length && country.strip.length ≤ 128

/-- Both fields of the payload are strings, namely these. -/
structure Fields (payload : Json) (code country : PyStr) : Prop where
  code : payload.get? "country_code" = some code.json
  country : payload.get? "country" = some country.json

theorem Fields.unique {payload : Json} {code country code' country' : PyStr} (h : Fields payload code country)
    (h' : Fields payload code' country') : code = code' ∧ country = country' :=
  ⟨PyStr.json_injective (Option.some.inj (h.code.symm.trans h'.code)),
    PyStr.json_injective (Option.some.inj (h.country.symm.trans h'.country))⟩

/-- An object with two letters and a usable name. -/
def Grammatical (payload : Json) : Prop :=
  ∃ (code : String) (country : PyStr), Fields payload code country ∧ twoLetters code = true ∧ usableName country = true

/-- The parsed fields as a payload. -/
def IPinfoLiteResponse.payload (parsed : IPinfoLiteResponse) : Json :=
  .object [("country_code", .str parsed.countryCode), ("country", parsed.country.json)]

/-- The validation accepts the payload exactly if it is grammatical, normalises its fields,
and leaves normalised fields alone. -/
def FollowsGrammar (unicode : UnicodeTables) (payload : Json) : Prop :=
  ((IPinfoLiteResponse.modelValidate unicode payload).isSome = true ↔ Grammatical payload) ∧
  ∀ parsed, IPinfoLiteResponse.modelValidate unicode payload = some parsed →
    (∃ (code : String) (country : PyStr), Fields payload code country ∧ parsed.countryCode = asciiUpper code ∧
      parsed.country = country.strip) ∧
    IPinfoLiteResponse.modelValidate unicode parsed.payload = some parsed

/-- A code with a letter beyond ASCII whose upper case consists of two letters. -/
def foreignCode (unicode : UnicodeTables) (code : String) : Bool :=
  code.toList.any (fun c => 128 ≤ c.toNat) && (code.toList.flatMap unicode.upper).length = 2 &&
    (code.toList.flatMap unicode.upper).all unicode.isAlpha

private theorem ascii_table : ∀ n < 128, (Char.ofNat n).toUpper.toNat < 128 ∧
    (Char.ofNat n).toUpper.isAlpha = (Char.ofNat n).isAlpha ∧
    (Char.ofNat n).toUpper.toUpper = (Char.ofNat n).toUpper := by decide +kernel

theorem ascii_toUpper {c : Char} (hc : c.toNat < 128) :
    c.toUpper.toNat < 128 ∧ c.toUpper.isAlpha = c.isAlpha ∧ c.toUpper.toUpper = c.toUpper := by
  have h := ascii_table c.toNat hc
  rwa [Char.ofNat_toNat] at h

private theorem alpha_ascii {c : Char} (hc : c.isAlpha = true) : c.toNat < 128 := by
  have hcase : (c.isUpper || c.isLower) = true := hc
  rcases (Bool.or_eq_true _ _).mp hcase with hupper | hlower
  · have hrange : decide ('A'.val ≤ c.val ∧ c.val ≤ 'Z'.val) = true := hupper
    exact Nat.lt_of_le_of_lt (of_decide_eq_true hrange).2 (by decide)
  · have hrange : (decide ('a'.val ≤ c.val) && decide (c.val ≤ 'z'.val)) = true := hlower
    exact Nat.lt_of_le_of_lt (of_decide_eq_true ((Bool.and_eq_true _ _).mp hrange).2) (by decide)

namespace UnicodeTables
variable (unicode : UnicodeTables) {text : Text}

theorem upper_of_ascii (h : ∀ c ∈ text, c.toNat < 128) : text.flatMap unicode.upper = text.map Char.toUpper := by
  induction text with
  | nil => rfl
  | cons c text ih =>
    rw [List.flatMap_cons, List.map_cons, unicode.upper_ascii c (h c List.mem_cons_self),
      ih fun d hd => h d (List.mem_cons_of_mem _ hd)]
    rfl

theorem all_isAlpha_of_ascii (h : ∀ c ∈ text, c.toNat < 128) :
    (text.map Char.toUpper).all unicode.isAlpha = text.all Char.isAlpha := by
  induction text with
  | nil => rfl
  | cons c text ih =>
    obtain ⟨hsmall, halpha, _⟩ := ascii_toUpper (h c List.mem_cons_self)
    rw [List.map_cons, List.all_cons, List.all_cons, unicode.isAlpha_ascii _ hsmall, halpha,
      ih fun d hd => h d (List.mem_cons_of_mem _ hd)]

end UnicodeTables

namespace IPinfoLiteResponse
variable {unicode : UnicodeTables} {code : String} {country : PyStr}

theorem countryCode_accepted (unicode : UnicodeTables) (code : String) : countryCodeIsIsoLike unicode code =
    if (code.toList.flatMap unicode.upper).length = 2 ∧ (code.toList.flatMap unicode.upper).all unicode.isAlpha = true
    then some (String.ofList (code.toList.flatMap unicode.upper)) else none := by
  rw [countryCodeIsIsoLike]
  generalize code.toList.flatMap unicode.upper = value
  by_cases hlength : value.length = 2
  · cases value.all unicode.isAlpha <;> simp [hlength]
  · simp [hlength]

/-- ASCII codes are accepted by the grammar. -/
theorem countryCode_ascii (h : ∀ c ∈ code.toList, c.toNat < 128) :
    countryCodeIsIsoLike unicode code = if twoLetters code = true then some (asciiUpper code) else none := by
  rw [countryCode_accepted, unicode.upper_of_ascii h, unicode.all_isAlpha_of_ascii h, List.length_map, twoLetters, asciiUpper]
  simp only [Bool.and_eq_true, decide_eq_true_eq]

theorem countryName_accepted (country : PyStr) : countryNameIsUsable country =
    if usableName country = true then some country.strip else none := by
  rw [countryNameIsUsable, usableName]
  by_cases hempty : country.strip = .text ""
  · rw [if_pos (by simp [hempty]), if_neg (by simp [PyStr.length_eq_zero.mpr hempty])]
  · have hpos : 1 ≤ country.strip.length := Nat.one_le_iff_ne_zero.mpr fun h => hempty (PyStr.length_eq_zero.mp h)
    by_cases hlong : 128 < country.strip.length
    · rw [if_pos (by simp [hlong]), if_neg (by simp [hlong])]
    · rw [if_neg (by simp [hempty, Nat.le_of_not_lt hlong]), if_pos (by simp [hpos, Nat.le_of_not_lt hlong])]

theorem modelValidate_of_fields {payload : Json} {code : PyStr} (fields : Fields payload code country) :
    modelValidate unicode payload = (countryCodeIsIsoLike unicode code).bind fun countryCode =>
      (countryNameIsUsable country).bind fun country => some ⟨countryCode, country⟩ := by
  rw [modelValidate, strField, strField, fields.code, fields.country, Option.bind_some, Option.bind_some,
    Json.pyStr?_eq_some.mpr rfl, Json.pyStr?_eq_some.mpr rfl]
  rfl

/-- A field that the validation lets through is a str, and the code is one without surrogates. -/
theorem modelValidate_some {payload : Json} {parsed : IPinfoLiteResponse}
    (h : modelValidate unicode payload = some parsed) : ∃ (code : String) (country : PyStr), Fields payload code country ∧
      countryCodeIsIsoLike unicode code = some parsed.countryCode ∧ countryNameIsUsable country = some parsed.country := by
  obtain ⟨countryCode, hcode, hrest⟩ := Option.bind_eq_some_iff.mp h
  obtain ⟨name, hname, hparsed⟩ := Option.bind_eq_some_iff.mp hrest
  obtain rfl := Option.some.inj hparsed
  obtain ⟨code, hfield, hcode⟩ := Option.bind_eq_some_iff.mp hcode
  obtain ⟨country, hfield', hname⟩ := Option.bind_eq_some_iff.mp hname
  obtain ⟨value, hvalue, hstr⟩ := Option.bind_eq_some_iff.mp hfield
  obtain ⟨value', hvalue', hstr'⟩ := Option.bind_eq_some_iff.mp hfield'
  rw [Json.pyStr?_eq_some.mp hstr] at hvalue
  rw [Json.pyStr?_eq_some.mp hstr'] at hvalue'
  cases code with
  | text code => exact ⟨code, country, ⟨hvalue, hvalue'⟩, hcode, hname⟩
  | broken => cases hcode

/-- Without two such fields a payload is neither accepted nor grammatical. -/
theorem modelValidate_fields (unicode : UnicodeTables) (payload : Json) :
    (∃ (code : String) (country : PyStr), Fields payload code country) ∨
      IPinfoLiteResponse.modelValidate unicode payload = none ∧ ¬ Grammatical payload := by
  by_cases hfields : ∃ (code : String) (country : PyStr), Fields payload code country
  · exact .inl hfields
  · refine .inr ⟨?_, fun ⟨code, country, fields, _⟩ => hfields ⟨code, country, fields⟩⟩
    rw [Option.eq_none_iff_forall_ne_some]
    intro parsed hparsed
    obtain ⟨code, country, fields, _⟩ := modelValidate_some hparsed
    exact hfields ⟨code, country, fields⟩

theorem payload_fields (parsed : IPinfoLiteResponse) : Fields parsed.payload parsed.countryCode parsed.country :=
  ⟨rfl, rfl⟩

/-- Two letters and a usable name are accepted, in upper case and stripped. -/
theorem modelValidate_grammatical (unicode : UnicodeTables) {payload : Json} (fields : Fields payload code country)
    (hcode : twoLetters code = true) (hcountry : usableName country = true) :
    modelValidate unicode payload = some ⟨asciiUpper code, country.strip⟩ := by
  have hascii : ∀ c ∈ code.toList, c.toNat < 128 := by
    intro c hc
    exact alpha_ascii (List.all_eq_true.mp ((Bool.and_eq_true _ _).mp hcode).2 c hc)
  rw [modelValidate_of_fields fields, countryCode_ascii hascii, if_pos hcode, countryName_accepted, if_pos hcountry]
  rfl

theorem twoLetters_asciiUpper (hcode : twoLetters code = true) :
    twoLetters (asciiUpper code) = true ∧ asciiUpper (asciiUpper code) = asciiUpper code := by
  obtain ⟨hlength, hall⟩ := (Bool.and_eq_true _ _).mp hcode
  have hletter := List.all_eq_true.mp hall
  constructor
  · rw [twoLetters, asciiUpper, String.toList_ofList, List.length_map, hlength, Bool.true_and, List.all_map,
      List.all_eq_true]
    intro c hc
    exact (ascii_toUpper (alpha_ascii (hletter c hc))).2.1.trans (hletter c hc)
  · rw [asciiUpper, asciiUpper, String.toList_ofList, List.map_map]
    refine congrArg String.ofList (List.map_congr_left fun c hc => ?_)
    exact (ascii_toUpper (alpha_ascii (hletter c hc))).2.2

theorem usableName_strip (hcountry : usableName country = true) : usableName country.strip = true := by
  rwa [usableName, PyStr.strip_strip]

/-- A grammatical payload follows the grammar. -/
theorem followsGrammar_of_twoLetters {payload : Json} (fields : Fields payload code country)
    (hcode : twoLetters code = true) (hcountry : usableName country = true) : FollowsGrammar unicode payload := by
  have haccepted := modelValidate_grammatical unicode fields hcode hcountry
  refine ⟨iff_of_true (by rw [haccepted]; rfl) ⟨code, country, fields, hcode, hcountry⟩, fun parsed hparsed => ?_⟩
  obtain rfl := Option.some.inj (haccepted.symm.trans hparsed)
  refine ⟨⟨code, country, fields, rfl, rfl⟩, ?_⟩
  obtain ⟨hupper, hagain⟩ := twoLetters_asciiUpper hcode
  have hname := usableName_strip hcountry
  rw [modelValidate_grammatical unicode (payload_fields ⟨asciiUpper code, country.strip⟩) hupper hname, hagain,
    PyStr.strip_strip]

/-- A payload that is neither accepted nor grammatical follows it too. -/
theorem followsGrammar_of_none {payload : Json} (hnone : modelValidate unicode payload = none)
    (hnot : ¬ Grammatical payload) : FollowsGrammar unicode payload := by
  refine ⟨iff_of_false (by rw [hnone]; exact Bool.false_ne_true) hnot, fun parsed hparsed => ?_⟩
  cases hnone.symm.trans hparsed

/-- What the validation does with a code that is not two ASCII letters. -/
theorem countryCode_foreign (unicode : UnicodeTables) (hcode : twoLetters code = false) :
    (countryCodeIsIsoLike unicode code).isSome = foreignCode unicode code := by
  by_cases hascii : ∀ c ∈ code.toList, c.toNat < 128
  · have hnone : code.toList.any (fun c => 128 ≤ c.toNat) = false := by
      rw [List.any_eq_false]
      intro c hc
      simpa using hascii c hc
    rw [countryCode_ascii hascii, hcode, foreignCode, hnone]
    rfl
  · have hsome : code.toList.any (fun c => 128 ≤ c.toNat) = true := by
      rw [List.any_eq_true]
      simpa using hascii
    rw [countryCode_accepted, foreignCode, hsome, Bool.true_and]
    generalize code.toList.flatMap unicode.upper = value
    split
    · rename_i h
      simp [h.1, h.2]
    · rename_i h
      rw [not_and_or] at h
      rcases h with h | h <;> simp [h]

end IPinfoLiteResponse

/-- The validation follows the grammar exactly if the payload has no usable name beside a code
with a letter beyond ASCII whose upper case consists of two letters. -/
theorem followsGrammar_iff (unicode : UnicodeTables) (payload : Json) : FollowsGrammar unicode payload ↔
    ∀ (code : String) (country : PyStr), Fields payload code country → usableName country = true →
      foreignCode unicode code = false := by
  constructor
  · intro h code country fields hcountry
    rw [Bool.eq_false_iff]
    intro hforeign
    have hcode : twoLetters code = false := by
      rw [Bool.eq_false_iff]
      intro hcode
      obtain ⟨c, hc, hlarge⟩ := List.any_eq_true.mp ((Bool.and_eq_true _ _).mp ((Bool.and_eq_true _ _).mp hforeign).1).1
      have hsmall := alpha_ascii (List.all_eq_true.mp ((Bool.and_eq_true _ _).mp hcode).2 c hc)
      exact absurd hsmall (Nat.not_lt.2 (of_decide_eq_true hlarge))
    obtain ⟨upper, hupper⟩ := Option.isSome_iff_exists.mp ((IPinfoLiteResponse.countryCode_foreign unicode hcode).trans hforeign)
    have haccepted : (IPinfoLiteResponse.modelValidate unicode payload).isSome = true := by
      rw [IPinfoLiteResponse.modelValidate_of_fields fields, hupper, IPinfoLiteResponse.countryName_accepted, if_pos hcountry]
      rfl
    obtain ⟨code', country', fields', hcode', _⟩ := h.1.1 haccepted
    rw [PyStr.text.inj (fields.unique fields').1, hcode'] at hcode
    exact Bool.noConfusion hcode
  · intro h
    rcases IPinfoLiteResponse.modelValidate_fields unicode payload with ⟨code, country, fields⟩ | ⟨hnone, hnot⟩
    · cases hcountry : usableName country with
      | false =>
        refine IPinfoLiteResponse.followsGrammar_of_none ?_ ?_
        · rw [IPinfoLiteResponse.modelValidate_of_fields fields, IPinfoLiteResponse.countryName_accepted, hcountry]
          cases IPinfoLiteResponse.countryCodeIsIsoLike unicode code <;> rfl
        · rintro ⟨code', country', fields', _, hcountry'⟩
          rw [(fields.unique fields').2, hcountry'] at hcountry
          exact Bool.noConfusion hcountry
      | true =>
        cases hcode : twoLetters code with
        | true => exact IPinfoLiteResponse.followsGrammar_of_twoLetters fields hcode hcountry
        | false =>
          refine IPinfoLiteResponse.followsGrammar_of_none ?_ ?_
          · have hnone := (IPinfoLiteResponse.countryCode_foreign unicode hcode).trans (h code country fields hcountry)
            rw [IPinfoLiteResponse.modelValidate_of_fields fields, Option.isNone_iff_eq_none.mp (Option.isSome_eq_false_iff.mp hnone)]
            rfl
          · rintro ⟨code', country', fields', hcode', _⟩
            rw [PyStr.text.inj (fields.unique fields').1, hcode'] at hcode
            exact Bool.noConfusion hcode
    · exact IPinfoLiteResponse.followsGrammar_of_none hnone hnot

/-- One sharp s is accepted as the code SS. -/
theorem eszett_accepted :
    IPinfoLiteResponse.modelValidate .ascii (.object [("country_code", .str "ß"), ("country", .str "Germany")]) =
      some ⟨"SS", "Germany"⟩ ∧
    ¬ Grammatical (.object [("country_code", .str "ß"), ("country", .str "Germany")]) ∧
    ¬ FollowsGrammar .ascii (.object [("country_code", .str "ß"), ("country", .str "Germany")]) := by
  have fields : Fields (.object [("country_code", .str "ß"), ("country", .str "Germany")]) "ß" "Germany" := ⟨rfl, rfl⟩
  have hnot : ¬ Grammatical (.object [("country_code", .str "ß"), ("country", .str "Germany")]) := by
    rintro ⟨code, country, fields', hcode, _⟩
    rw [← PyStr.text.inj (fields.unique fields').1] at hcode
    exact absurd hcode (by decide)
  exact ⟨by decide +kernel, hnot, fun h => hnot (h.1.1 (by decide +kernel))⟩

end IpCountryApi.Providers
