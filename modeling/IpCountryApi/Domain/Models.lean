import IpCountryApi.Domain.Strings

/-! Values that travel between the layers, with the datetimes they carry. -/
namespace IpCountryApi.Domain

/-- A Python datetime in microseconds: the wall reading and, when it is aware, the
offset of its zone from UTC. -/
structure Datetime where
  wall : Int
  utcoffset : Option Int
  deriving DecidableEq, Repr

namespace Datetime

/-- datetime.now(UTC) at an instant. -/
def nowUtc (t : Int) : Datetime := ⟨t, some 0⟩

/-- The point of time meant; a naive value is read as UTC. -/
def instant (d : Datetime) : Int := d.wall - d.utcoffset.getD 0

def add (d : Datetime) (delta : Int) : Datetime := { d with wall := d.wall + delta }

def astimezoneUtc (d : Datetime) : Datetime := ⟨d.instant, some 0⟩

@[simp] theorem instant_nowUtc (t : Int) : (nowUtc t).instant = t := by simp [nowUtc, instant]
@[simp] theorem add_nowUtc (t delta : Int) : (nowUtc t).add delta = nowUtc (t + delta) := rfl

end Datetime

structure GeoIPResult where
  countryCode : String
  countryName : PyStr
  provider : String
  deriving DecidableEq, Repr

structure CacheRecord where
  ip : IPAddress
  countryCode : String
  countryName : PyStr
  provider : String
  fetchedAt : Datetime
  expiresAt : Datetime
  deriving DecidableEq

inductive Source where
  | database
  | provider
  deriving DecidableEq, Repr

def Source.text : Source → String
  | .database => "database"
  | .provider => "provider"

structure LookupResult where
  ip : IPAddress
  countryCode : String
  countryName : PyStr
  source : Source
  fetchedAt : Datetime
  expiresAt : Datetime
  deriving DecidableEq

end IpCountryApi.Domain
