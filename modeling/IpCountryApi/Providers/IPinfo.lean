import IpCountryApi.Providers.GeoIPProvider

/-! The IPinfo Lite client: one request, the retry loop around it, and the payload
validation. -/
namespace IpCountryApi.Providers
open Library Domain Execution

/-- Python's str.upper and str.isalpha, character by character. -/
structure UnicodeTables where
  upper : Char → List Char
  isAlpha : Char → Bool
  upper_ascii : ∀ c : Char, c.toNat < 128 → upper c = [c.toUpper]
  isAlpha_ascii : ∀ c : Char, c.toNat < 128 → isAlpha c = c.isAlpha
  upper_eszett : upper 'ß' = ['S', 'S']

/-- The ASCII part of the tables. -/
def UnicodeTables.ascii : UnicodeTables where
  upper c := if c = 'ß' then ['S', 'S'] else [c.toUpper]
  isAlpha := Char.isAlpha
  upper_ascii c hc := by
    rw [if_neg]
    rintro rfl
    exact absurd hc (by decide)
  isAlpha_ascii _ _ := rfl
  upper_eszett := rfl

structure IPinfoLiteResponse where
  countryCode : String
  country : PyStr
  deriving DecidableEq, Repr

namespace IPinfoLiteResponse
variable (unicode : UnicodeTables)

def countryCodeIsIsoLike : PyStr → Option String
  | .text value =>
    let value := value.toList.flatMap unicode.upper
    if value.length ≠ 2 || !value.all unicode.isAlpha then none else some (String.ofList value)
  -- upper leaves a surrogate as it is, and isalpha is false for it
  | .broken _ => none

def countryNameIsUsable (value : PyStr) : Option PyStr :=
  let value := value.strip
  if value = .text "" || 128 < value.length then none else some value

/-- A field of type str, with its validator. -/
def strField {α : Type} (payload : Json) (key : String) (validator : PyStr → Option α) : Option α :=
  ((payload.get? key).bind Json.pyStr?).bind validator

def modelValidate (payload : Json) : Option IPinfoLiteResponse := do
  let countryCode ← strField payload "country_code" (countryCodeIsIsoLike unicode)
  let country ← strField payload "country" countryNameIsUsable
  some ⟨countryCode, country⟩

end IPinfoLiteResponse

/-- wait_exponential(multiplier=0.1, min=0.1, max=1) after an attempt, in milliseconds. -/
def waitExponential (attemptNumber : Nat) : Nat := max 100 (min 1000 (100 * 2 ^ (attemptNumber - 1)))

/-- AsyncRetrying: while attempts remain a retryable failure is followed by a wait and
another attempt; the failure of the last attempt is raised. -/
def retrying {α : Type} (body : Prog α) (attemptNumber : Nat) : Nat → Prog α
  | 0 => body
  | remaining + 1 => tryCatch body fun e =>
      match e with
      | .retryable _ => do
        let slept ← perform (.sleep (waitExponential attemptNumber))
        settle slept
        retrying body (attemptNumber + 1) remaining
      | e => throw e

structure IPinfoLiteProvider where
  unicode : UnicodeTables
  token : String
  maxRetries : Nat

namespace IPinfoLiteProvider

def name : String := "ipinfo"

/-- Which httpx failures are worth another attempt. -/
def retryableRequest {α : Type} : Exn → Prog α
  | .foreign ⟨.request .timeout, _, _⟩ => throw (.retryable true)
  | .foreign ⟨.request _, _, _⟩ => throw (.retryable false)
  | e => throw e

def request (self : IPinfoLiteProvider) (ip : IPAddress) : Prog HttpResponse := do
  let response ← tryCatch
    (do
      let answer ← perform (.clientGet ("/lite/".toList ++ ip.str) ("Bearer " ++ self.token))
      settle answer)
    retryableRequest
  if response.status = 401 ∨ response.status = 403 then
    record (.providerError name "authentication")
    throw (.app .providerAuthentication)
  else if response.status = 429 then
    record (.providerError name "rate_limited")
    throw (.app .providerRateLimited)
  else if 500 ≤ response.status then throw (.retryable false)
  else if 400 ≤ response.status then
    record (.providerError name "invalid_response")
    throw (.app .providerInvalidResponse)
  else pure response

/-- pydantic's ValidationError is a ValueError. -/
def parse (self : IPinfoLiteProvider) (payload : Json) : Prog IPinfoLiteResponse :=
  match IPinfoLiteResponse.modelValidate self.unicode payload with
  | some parsed => pure parsed
  | none => throw (.foreign (valueError "ValidationError"))

/-- The except clauses of lookup. -/
def failed {α : Type} : Exn → Prog α
  | .retryable true => do
    record (.providerError name "timeout")
    throw (.app .providerTimeout)
  | .retryable false => do
    record (.providerError name "unavailable")
    throw (.app .providerUnavailable)
  | .foreign ⟨.request .decoding, _, _⟩ | .foreign ⟨.value, _, _⟩ => do
    record (.providerError name "invalid_response")
    throw (.app .providerInvalidResponse)
  | e => throw e

def lookup (self : IPinfoLiteProvider) : GeoIPProvider := fun ip => do
  let started ← perform .perfCounter
  Coro.ensuring
    (tryCatch
      (do
        let response ← retrying (self.request ip) 1 self.maxRetries
        let payload ← settle response.json
        let parsed ← self.parse payload
        pure ⟨parsed.countryCode, parsed.country, name⟩)
      failed)
    fun outcome => do
      let finished ← perform .perfCounter
      record (.providerRequest name (if outcome.isOk then "success" else "error") (finished - started))

end IPinfoLiteProvider
end IpCountryApi.Providers
