import IpCountryApi.Domain.Strings

/-! JSON values as Python's decoder returns them. -/
namespace IpCountryApi.Domain

/-- A str is a Unicode text, or it has an unpaired surrogate. -/
inductive Json where
  | null
  | bool (value : Bool)
  | number (literal : String)
  | str (text : String)
  | brokenStr (value : BrokenText)
  | array (items : List Json)
  | object (fields : List (PyStr × Json))

def PyStr.json : PyStr → Json
  | .text value => .str value
  | .broken value => .brokenStr value

namespace Json

/-- The value as a str. -/
def pyStr? : Json → Option PyStr
  | .str text => some (.text text)
  | .brokenStr value => some (.broken value)
  | _ => none

/-- The value under a key; of equal keys the last one counts. -/
def get? (key : String) : Json → Option Json
  | .object fields => (fields.reverse.find? fun field => field.1 = .text key).map Prod.snd
  | _ => none

def keys : Json → List PyStr
  | .object fields => fields.map Prod.fst
  | _ => []

theorem pyStr?_eq_some {self : Json} {value : PyStr} : self.pyStr? = some value ↔ self = value.json := by
  cases self <;> cases value <;> simp [pyStr?, PyStr.json]

end Json

theorem PyStr.json_injective {value other : PyStr} (h : value.json = other.json) : value = other := by
  have hvalue : other.json.pyStr? = some value := Json.pyStr?_eq_some.mpr h.symm
  exact Option.some.inj (hvalue.symm.trans (Json.pyStr?_eq_some.mpr rfl))

end IpCountryApi.Domain
