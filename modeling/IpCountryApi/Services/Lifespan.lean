import IpCountryApi.Providers.IPinfo
import IpCountryApi.Services.IpLookup

/-! What the lifespan of a process sets up: the lookup service with the provider of its
settings, and the readiness check. -/
namespace IpCountryApi.Services
open Library Domain Execution Observability Providers Repositories

inductive ProviderChoice where
  | fake
  | ipinfo (provider : IPinfoLiteProvider)

namespace ProviderChoice

def name : ProviderChoice → String
  | fake => FakeGeoIPProvider.name
  | ipinfo _ => IPinfoLiteProvider.name

def lookup : ProviderChoice → GeoIPProvider
  | fake => FakeGeoIPProvider.lookup
  | ipinfo provider => provider.lookup

end ProviderChoice

/-- The settings of one process that its lookups depend on. -/
structure Replica where
  provider : ProviderChoice
  ttlSeconds : Int
  log : LogConfig

def Replica.service (self : Replica) : IPLookupService :=
  ⟨postgreSQLLookupRepository, self.provider.lookup, self.ttlSeconds, self.log⟩

/-- The except clauses of the readiness check. -/
def notReady {α : Type} : Exn → Prog α
  | .foreign ⟨.timeout, _, _⟩ | .foreign ⟨.operational, _, _⟩ => throw (.app .databaseUnavailable)
  | .foreign ⟨.sqlalchemy sqlstate, _, _⟩ =>
    if sqlstate = some "42P01" ∨ sqlstate = some "3F000" then throw (.app .databaseSchemaUnavailable)
    else throw (.app .databaseUnavailable)
  | e => throw e

def readinessCheck : Prog Unit :=
  tryCatch
    (do
      let probed ← perform .readinessProbe
      settle probed)
    notReady

end IpCountryApi.Services
