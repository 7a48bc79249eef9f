import IpCountryApi.Execution.Effects

/-! The provider protocol, a provider outside the repository, and the fake provider. -/
namespace IpCountryApi.Providers
open Library Domain Execution

abbrev GeoIPProvider := IPAddress → Prog GeoIPResult

/-- Any provider, seen only through its answers and exceptions. -/
def externalProvider : GeoIPProvider := fun ip => do
  let answer ← perform (.provider ip)
  let result ← settle answer
  raiseApp result

def fixtures : List (Text × String × String) :=
  [("8.8.8.8".toList, "US", "United States"), ("1.1.1.1".toList, "AU", "Australia"),
    ("2001:4860:4860::8888".toList, "US", "United States")]

namespace FakeGeoIPProvider

def name : String := "fake"

def lookup : GeoIPProvider := fun ip => do
  let started ← perform .perfCounter
  match fixtures.lookup ip.str with
  | none =>
    record (.providerError name "fixture_not_found")
    let finished ← perform .perfCounter
    record (.providerRequest name "error" (finished - started))
    throw (.app .providerInvalidResponse)
  | some (countryCode, countryName) =>
    let finished ← perform .perfCounter
    record (.providerRequest name "success" (finished - started))
    pure ⟨countryCode, countryName, name⟩

end FakeGeoIPProvider
end IpCountryApi.Providers
