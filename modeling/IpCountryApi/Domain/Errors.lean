import Mathlib.Data.Option.Basic

/-! The application's own errors: code, message and HTTP status of each class. -/
namespace IpCountryApi.Domain

inductive AppError where
  | app
  | invalidIP
  | nonPublicIP
  | databaseUnavailable
  | databaseSchemaUnavailable
  | providerTimeout
  | providerAuthentication
  | providerRateLimited
  | providerInvalidResponse
  | providerUnavailable
  deriving DecidableEq, Repr

namespace AppError

def code : AppError → String
  | app => "INTERNAL_ERROR"
  | invalidIP => "INVALID_IP"
  | nonPublicIP => "NON_PUBLIC_IP"
  | databaseUnavailable => "DATABASE_UNAVAILABLE"
  | databaseSchemaUnavailable => "DATABASE_SCHEMA_UNAVAILABLE"
  | providerTimeout => "PROVIDER_TIMEOUT"
  | providerAuthentication => "PROVIDER_AUTHENTICATION_FAILED"
  | providerRateLimited => "PROVIDER_RATE_LIMITED"
  | providerInvalidResponse => "PROVIDER_INVALID_RESPONSE"
  | providerUnavailable => "PROVIDER_UNAVAILABLE"

def message : AppError → String
  | app => "An unexpected error occurred."
  | invalidIP => "The supplied value is not a valid IP address."
  | nonPublicIP => "Country lookup is supported only for public IP addresses."
  | databaseUnavailable => "The database is temporarily unavailable."
  | databaseSchemaUnavailable => "The required database schema is unavailable."
  | providerTimeout => "The country provider timed out."
  | providerAuthentication => "The country provider rejected authentication."
  | providerRateLimited => "The country provider rate limit was reached."
  | providerInvalidResponse => "The country provider returned an unusable response."
  | providerUnavailable => "The country provider is temporarily unavailable."

def statusCode : AppError → Nat
  | app => 500
  | invalidIP => 422
  | nonPublicIP => 422
  | databaseUnavailable => 503
  | databaseSchemaUnavailable => 503
  | providerTimeout => 504
  | providerAuthentication => 503
  | providerRateLimited => 503
  | providerInvalidResponse => 502
  | providerUnavailable => 503

/-- Every application error answers with an error status. -/
theorem statusCode_error (e : AppError) : 400 ≤ e.statusCode ∧ e.statusCode < 600 := by
  cases e <;> decide

end AppError
end IpCountryApi.Domain
