import IpCountryApi.Domain.IpValidation
import IpCountryApi.Observability.Logging
import IpCountryApi.Providers.GeoIPProvider
import IpCountryApi.Repositories.IpLookup

/-! The lookup use case: validate, read the cache, and on a miss ask the provider and
write what it said. -/
namespace IpCountryApi.Services
open Library Domain Execution Observability Providers Repositories

structure IPLookupService where
  repository : LookupRepository
  provider : GeoIPProvider
  ttlSeconds : Int
  log : LogConfig

namespace IPLookupService

/-- timedelta(seconds=ttl_seconds), in microseconds. -/
def ttl (self : IPLookupService) : Int := self.ttlSeconds * 1000000

/-- The body of the try statement. -/
def refresh (self : IPLookupService) (ip : IPAddress) : Prog CacheRecord := do
  let providerResult ← self.provider ip
  let fetchedAt ← perform .clock
  let fetchedAt := Datetime.nowUtc fetchedAt
  let record : CacheRecord := {
    ip := ip
    countryCode := providerResult.countryCode
    countryName := providerResult.countryName
    provider := providerResult.provider
    fetchedAt := fetchedAt
    expiresAt := fetchedAt.add self.ttl }
  self.repository.upsert record
  pure record

def lookup (self : IPLookupService) (value : String) : Prog LookupResult := do
  let ip ← raiseApp (validatePublicIp value)
  let now ← perform .clock
  let now := Datetime.nowUtc now
  let cached ← self.repository.get ip
  match cached.filter fun cached => now.instant < cached.expiresAt.instant with
  | some cached =>
    record (.lookup "database" "success")
    self.log.log .info "lookup_completed" [("lookup_source", .text "database")]
    pure ⟨ip, cached.countryCode, cached.countryName, .database, cached.fetchedAt, cached.expiresAt⟩
  | none =>
    let written ← exceptException (self.refresh ip) fun e => do
      record (.lookup "provider" "error")
      throw e
    record (.lookup "provider" "success")
    self.log.log .info "lookup_completed" [("lookup_source", .text "provider")]
    pure ⟨ip, written.countryCode, written.countryName, .provider, written.fetchedAt, written.expiresAt⟩

end IPLookupService
end IpCountryApi.Services
