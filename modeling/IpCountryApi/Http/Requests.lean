import IpCountryApi.Domain.AddressLengths
import IpCountryApi.Domain.Json

/-! Requests as the server hands them to the application, and the payload of a lookup. -/
namespace IpCountryApi.Http
open Domain

/-- What reading a body by its content type gives: nothing, decoded JSON, other bytes, or
one of two failures. -/
inductive RequestBody where
  | absent
  | json (value : Json)
  | bytes
  | malformedJson
  | unreadable

structure Request where
  method : String
  path : String
  headers : List (String × String)
  body : RequestBody

/-- Header names are in lower case; of equal names the first one counts. -/
def Request.header (self : Request) (name : String) : Option String :=
  (self.headers.find? fun h => h.1 = name).map Prod.snd

structure LookupRequest where
  ip : String
  minLength : 2 ≤ ip.length
  maxLength : ip.length ≤ 45

def LookupRequest.modelValidate (payload : Json) : Option LookupRequest :=
  match payload.get? "ip" with
  | some (.str ip) =>
    if h : 2 ≤ ip.length ∧ ip.length ≤ 45 then
      if payload.keys.all (· = "ip") then some ⟨ip, h.1, h.2⟩ else none
    else none
  | _ => none

/-- The bounds on the length admit every spelling of an address that the validation accepts. -/
theorem spelling_admitted {s : String} {a : IPAddress} (hstrip : strip s.toList = s.toList) (hzone : '%' ∉ s.toList)
    (h : validatePublicIp s = .ok a) : 2 ≤ s.length ∧ s.length ≤ 45 ∧
    ∃ request, LookupRequest.modelValidate (.object [("ip", .str s)]) = some request ∧ request.ip = s := by
  have haddress := validatePublicIp_ok h
  rw [hstrip] at haddress
  have hlength := length_ipAddress haddress hzone
  rw [String.length_toList] at hlength
  refine ⟨hlength.1, hlength.2, ⟨s, hlength.1, hlength.2⟩, ?_, rfl⟩
  have hip : Json.get? "ip" (.object [("ip", .str s)]) = some (.str s) := rfl
  rw [LookupRequest.modelValidate, hip]
  exact dif_pos hlength

/-- Six full groups and a full dotted quad take all 45 characters. -/
theorem spelling_admitted_longest :
    2 ≤ "2001:4860:4860:0000:0000:0000:255.255.255.255".length ∧
    "2001:4860:4860:0000:0000:0000:255.255.255.255".length ≤ 45 ∧
    ∃ request, LookupRequest.modelValidate (.object [("ip", .str "2001:4860:4860:0000:0000:0000:255.255.255.255")]) =
      some request ∧ request.ip = "2001:4860:4860:0000:0000:0000:255.255.255.255" :=
  spelling_admitted (a := .v6 ⟨0x200148604860000000000000ffffffff, none⟩) (by decide +kernel) (by decide) (by decide +kernel)

end IpCountryApi.Http
