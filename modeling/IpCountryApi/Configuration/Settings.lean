import IpCountryApi.Database.Urls
import IpCountryApi.Domain.Json
import IpCountryApi.Library.Validated
import IpCountryApi.Observability.Logging
import IpCountryApi.Providers.BaseUrl
import Mathlib.Algebra.Order.Field.Rat
import Mathlib.Data.Rat.Cast.Order

/-! The settings of a process, read from its environment. -/
namespace IpCountryApi.Configuration
open Library Domain Observability

/-- What pydantic reads a text as. -/
inductive Number where
  | finite (value : ℚ)
  | infinite (negative : Bool)
  | nan

structure Pydantic where
  int : Text → Option Int
  float : Text → Option Number
  bool : Text → Option Bool
  json : Text → Option Json

structure FieldError where
  loc : List String
  message : String
  deriving DecidableEq, Repr

/-- The variables, under the names of the fields. -/
abbrev Environment := String → Option Text

/-! Constraints of numbers: ge or gt, and le. -/

structure Constraint where
  strict : Bool
  least : Int
  greatest : Int

namespace Constraint
variable (self : Constraint)

def Admits (x : ℚ) : Prop := (if self.strict then (self.least : ℚ) < x else self.least ≤ x) ∧ x ≤ self.greatest

def tooGreat : String := s!"Input should be less than or equal to {self.greatest}"

def tooSmall : String :=
  if self.strict then s!"Input should be greater than {self.least}"
  else s!"Input should be greater than or equal to {self.least}"

/-- What is wrong with a number; the upper bound is checked first. -/
def refusal (x : ℚ) : Option String :=
  if self.greatest < x then some self.tooGreat
  else if self.strict then if x ≤ self.least then some self.tooSmall else none
  else if x < self.least then some self.tooSmall else none

theorem admits_of_refusal {x : ℚ} (h : self.refusal x = none) : self.Admits x := by
  rw [refusal] at h
  split at h
  · cases h
  · rename_i hgreatest
    refine ⟨?_, not_lt.mp hgreatest⟩
    split at h
    · rename_i hstrict
      split at h
      · cases h
      · rename_i hleast
        rw [if_pos hstrict]
        exact not_le.mp hleast
    · rename_i hstrict
      split at h
      · cases h
      · rename_i hleast
        rw [if_neg hstrict]
        exact not_lt.mp hleast

def checkInt (n : Int) : Except String { n : Int // self.Admits n } :=
  match h : self.refusal n with
  | none => .ok ⟨n, self.admits_of_refusal h⟩
  | some message => .error message

def checkFloat : Number → Except String { x : ℚ // self.Admits x }
  | .finite x =>
    match h : self.refusal x with
    | none => .ok ⟨x, self.admits_of_refusal h⟩
    | some message => .error message
  | .infinite negative => .error (if negative then self.tooSmall else self.tooGreat)
  | .nan => .error self.tooGreat

end Constraint

/-- One field: how its text is read, and the check that its value and its default must pass. -/
structure Field (α β : Type) where
  name : String
  default : Option α
  read : Text → Except String α
  check : α → Except String β

/-- The errors of a field are located at its name. -/
def Field.validate {α β : Type} (self : Field α β) (environment : Environment) : Validated FieldError β :=
  match environment self.name with
  | some text =>
    match self.read text with
    | .ok value => .ofExcept ((self.check value).mapError (⟨[self.name], ·⟩))
    | .error message => .invalid ⟨[self.name], message⟩ []
  | none =>
    match self.default with
    | some value => .ofExcept ((self.check value).mapError (⟨[self.name], ·⟩))
    | none => .invalid ⟨[self.name], "Field required"⟩ []

/-! The kinds of fields. -/

section Kinds
variable (pydantic : Pydantic) (name : String)

def orMessage {α : Type} (message : String) : Option α → Except String α
  | some value => .ok value
  | none => .error message

def textField (default : Option Text) : Field Text Text := ⟨name, default, .ok, .ok⟩

def intField (default : Int) (bounds : Constraint) : Field Int { n : Int // bounds.Admits n } :=
  ⟨name, some default,
    fun text => orMessage "Input should be a valid integer, unable to parse string as an integer" (pydantic.int text),
    bounds.checkInt⟩

def floatField (default : ℚ) (bounds : Constraint) : Field Number { x : ℚ // bounds.Admits x } :=
  ⟨name, some (.finite default),
    fun text => orMessage "Input should be a valid number, unable to parse string as a number" (pydantic.float text),
    bounds.checkFloat⟩

def boolField (default : Bool) : Field Bool Bool :=
  ⟨name, some default,
    fun text => orMessage "Input should be a valid boolean, unable to interpret input" (pydantic.bool text), .ok⟩

/-- A Literal: one of some texts. -/
def literalField {α : Type} (default : α) (choices : List (Text × α)) (expected : String) : Field α α :=
  ⟨name, some default,
    fun text => orMessage s!"Input should be {expected}" ((choices.find? fun choice => choice.1 = text).map Prod.snd), .ok⟩

/-- A field with a validator of its own. -/
def urlField (default : Option Text) (validate : Text → Option Text) (message : String) :
    Field Text { url : Text // ∃ value, validate value = some url } :=
  ⟨name, default, .ok, fun value =>
    match h : validate value with
    | some url => .ok ⟨url, value, h⟩
    | none => .error s!"Value error, {message}"⟩

/-- An item of a list is located at its index. -/
def stringItem (item : Nat × Json) : Validated FieldError String :=
  match item.2 with
  | .str text => .valid text
  | _ => .invalid ⟨[name, toString item.1], "Input should be a valid string"⟩ []

/-- A list of strings, from JSON that has been decoded; null is as good as unset. -/
def listField (default : List String) : Option Json → Validated FieldError (List String)
  | none | some .null => .valid default
  | some (.array items) => Validated.traverse (stringItem name) (items.zipIdx.map Prod.swap)
  | some _ => .invalid ⟨[name], "Input should be a valid list"⟩ []

end Kinds

inductive LogFormat where
  | json
  | console
  deriving DecidableEq, Repr

inductive GeoipProvider where
  | fake
  | ipinfo
  deriving DecidableEq, Repr

def portRange : Constraint := ⟨false, 1, 65535⟩
def poolSizeRange : Constraint := ⟨false, 1, 100⟩
def maxOverflowRange : Constraint := ⟨false, 0, 100⟩
def databaseTimeoutRange : Constraint := ⟨true, 0, 60⟩
def providerTimeoutRange : Constraint := ⟨true, 0, 30⟩
def maxRetriesRange : Constraint := ⟨false, 0, 5⟩
def ttlRange : Constraint := ⟨false, 60, 31536000⟩

/-- The fields, each with the checks it has passed. -/
structure Fields where
  appName : Text
  appEnv : Text
  appVersion : Text
  appHost : Text
  appPort : { n : Int // portRange.Admits n }
  logLevel : LogLevel
  logFormat : LogFormat
  databaseUrl : { url : Text // ∃ value, Database.validateDatabaseUrl value = some url }
  databasePoolSize : { n : Int // poolSizeRange.Admits n }
  databaseMaxOverflow : { n : Int // maxOverflowRange.Admits n }
  databasePoolTimeoutSeconds : { x : ℚ // databaseTimeoutRange.Admits x }
  databaseConnectTimeoutSeconds : { n : Int // databaseTimeoutRange.Admits n }
  geoipProvider : GeoipProvider
  geoipProviderBaseUrl : { url : Text // ∃ value, Providers.validateProviderUrl value = some url }
  ipinfoToken : Option Text
  geoipProviderTimeoutSeconds : { x : ℚ // providerTimeoutRange.Admits x }
  geoipProviderMaxRetries : { n : Int // maxRetriesRange.Admits n }
  geoipCacheTtlSeconds : { n : Int // ttlRange.Admits n }
  metricsEnabled : Bool
  corsAllowedOrigins : List String
  trustedHosts : List String

/-- What require_ipinfo_token checks between the fields. -/
structure Settings extends Fields where
  authorized : geoipProvider = .ipinfo → ∃ token, ipinfoToken = some token ∧ strip token ≠ []
  genuine : appEnv = "production".toList → geoipProvider ≠ .fake

inductive LoadError where
  /-- The text of a list is no JSON. -/
  | settings (field : String)
  | validation (errors : List FieldError)
  deriving DecidableEq, Repr

section Load
variable (pydantic : Pydantic) (environment : Environment)

/-- Lists are decoded before anything is validated. -/
def decoded (name : String) : Except LoadError (Option Json) :=
  match environment name with
  | none => .ok none
  | some text =>
    match pydantic.json text with
    | some value => .ok (some value)
    | none => .error (.settings name)

def logLevels : List (Text × LogLevel) :=
  [("DEBUG".toList, .debug), ("INFO".toList, .info), ("WARNING".toList, .warning), ("ERROR".toList, .error),
    ("CRITICAL".toList, .critical)]

def logFormats : List (Text × LogFormat) := [("json".toList, .json), ("console".toList, .console)]

def geoipProviders : List (Text × GeoipProvider) := [("fake".toList, .fake), ("ipinfo".toList, .ipinfo)]

def fields (corsAllowedOrigins trustedHosts : Option Json) : Validated FieldError Fields :=
  Validated.valid Fields.mk
    |>.andAlso ((textField "app_name" (some "IP Country API".toList)).validate environment)
    |>.andAlso ((textField "app_env" (some "production".toList)).validate environment)
    |>.andAlso ((textField "app_version" (some "0.1.0".toList)).validate environment)
    |>.andAlso ((textField "app_host" (some "127.0.0.1".toList)).validate environment)
    |>.andAlso ((intField pydantic "app_port" 8080 portRange).validate environment)
    |>.andAlso ((literalField "log_level" .info logLevels
      "'DEBUG', 'INFO', 'WARNING', 'ERROR' or 'CRITICAL'").validate environment)
    |>.andAlso ((literalField "log_format" .json logFormats "'json' or 'console'").validate environment)
    |>.andAlso ((urlField "database_url" none Database.validateDatabaseUrl
      "DATABASE_URL must use PostgreSQL with psycopg").validate environment)
    |>.andAlso ((intField pydantic "database_pool_size" 5 poolSizeRange).validate environment)
    |>.andAlso ((intField pydantic "database_max_overflow" 5 maxOverflowRange).validate environment)
    |>.andAlso ((floatField pydantic "database_pool_timeout_seconds" 5 databaseTimeoutRange).validate environment)
    |>.andAlso ((intField pydantic "database_connect_timeout_seconds" 5 databaseTimeoutRange).validate environment)
    |>.andAlso ((literalField "geoip_provider" .ipinfo geoipProviders "'fake' or 'ipinfo'").validate environment)
    |>.andAlso ((urlField "geoip_provider_base_url" (some "https://api.ipinfo.io".toList) Providers.validateProviderUrl
      "provider URL must use HTTPS (except local test endpoints)").validate environment)
    |>.andAlso (Field.validate ⟨"ipinfo_token", some none, fun text => .ok (some text), .ok⟩ environment)
    |>.andAlso ((floatField pydantic "geoip_provider_timeout_seconds" 3 providerTimeoutRange).validate environment)
    |>.andAlso ((intField pydantic "geoip_provider_max_retries" 2 maxRetriesRange).validate environment)
    |>.andAlso ((intField pydantic "geoip_cache_ttl_seconds" 2592000 ttlRange).validate environment)
    |>.andAlso ((boolField pydantic "metrics_enabled" true).validate environment)
    |>.andAlso (listField "cors_allowed_origins" [] corsAllowedOrigins)
    |>.andAlso (listField "trusted_hosts" ["localhost", "127.0.0.1"] trustedHosts)

end Load

def blank : Option Text → Bool
  | none => true
  | some token => strip token = []

theorem exists_of_not_blank {token : Option Text} (h : ¬ blank token = true) : ∃ text, token = some text ∧ strip text ≠ [] := by
  cases token with
  | none => exact absurd rfl h
  | some text => exact ⟨text, rfl, fun hblank => h (decide_eq_true hblank)⟩

def requireIpinfoToken (fields : Fields) : Except String Settings :=
  if hblank : fields.geoipProvider = .ipinfo ∧ blank fields.ipinfoToken = true then
    .error "Value error, IPINFO_TOKEN is required when GEOIP_PROVIDER=ipinfo"
  else if hfake : fields.appEnv = "production".toList ∧ fields.geoipProvider = .fake then
    .error "Value error, the fake provider cannot be enabled in production"
  else .ok
    { fields with
      authorized := fun hprovider => exists_of_not_blank fun h => hblank ⟨hprovider, h⟩
      genuine := fun hproduction hprovider => hfake ⟨hproduction, hprovider⟩ }

/-- The check between the fields is made only if every field is valid. -/
def Settings.ofFields : Validated FieldError Fields → Except LoadError Settings
  | .invalid first more => .error (.validation (first :: more))
  | .valid fields => (requireIpinfoToken fields).mapError fun message => .validation [⟨[], message⟩]

/-- Settings(). -/
def Settings.load (pydantic : Pydantic) (environment : Environment) : Except LoadError Settings := do
  let corsAllowedOrigins ← decoded pydantic environment "cors_allowed_origins"
  let trustedHosts ← decoded pydantic environment "trusted_hosts"
  Settings.ofFields (fields pydantic environment corsAllowedOrigins trustedHosts)

/-! What a failed load reports. -/

def fieldNames : List String :=
  ["app_name", "app_env", "app_version", "app_host", "app_port", "log_level", "log_format", "database_url", "database_pool_size",
    "database_max_overflow", "database_pool_timeout_seconds", "database_connect_timeout_seconds", "geoip_provider",
    "geoip_provider_base_url", "ipinfo_token", "geoip_provider_timeout_seconds", "geoip_provider_max_retries",
    "geoip_cache_ttl_seconds", "metrics_enabled", "cors_allowed_origins", "trusted_hosts"]

/-- Every error is located at a field. -/
def Located {α : Type} (x : Validated FieldError α) : Prop := ∀ e ∈ x.errors, ∃ name ∈ fieldNames, e.loc.head? = some name

section Located
variable {α β : Type}

theorem Located.andAlso {f : Validated FieldError (α → β)} {x : Validated FieldError α} (hf : Located f) (hx : Located x) :
    Located (f.andAlso x) := by
  intro e he
  rw [Validated.errors_andAlso] at he
  rcases List.mem_append.mp he with he | he
  · exact hf e he
  · exact hx e he

theorem located_ofExcept {name : String} (h : name ∈ fieldNames) (x : Except String α) :
    Located (.ofExcept (x.mapError (⟨[name], ·⟩))) := by
  intro e he
  cases x with
  | ok value => cases he
  | error message =>
    obtain rfl := List.mem_singleton.mp he
    exact ⟨name, h, rfl⟩

theorem located_validate (self : Field α β) (h : self.name ∈ fieldNames) (environment : Environment) :
    Located (self.validate environment) := by
  have single : ∀ message, Located (.invalid ⟨[self.name], message⟩ [] : Validated FieldError β) :=
    fun message => located_ofExcept h (.error message)
  rw [Field.validate]
  split
  · split
    · exact located_ofExcept h _
    · exact single _
  · split
    · exact located_ofExcept h _
    · exact single _

theorem located_list {name : String} (h : name ∈ fieldNames) (default : List String) (value : Option Json) :
    Located (listField name default value) := by
  intro e he
  rw [listField.eq_def] at he
  split at he
  · cases he
  · cases he
  · rw [Validated.errors_traverse] at he
    obtain ⟨item, -, he⟩ := List.mem_flatMap.mp he
    rw [stringItem] at he
    split at he
    · cases he
    · obtain rfl := List.mem_singleton.mp he
      exact ⟨name, h, rfl⟩
  · obtain rfl := List.mem_singleton.mp he
    exact ⟨name, h, rfl⟩

theorem located_fields (pydantic : Pydantic) (environment : Environment) (corsAllowedOrigins trustedHosts : Option Json) :
    Located (fields pydantic environment corsAllowedOrigins trustedHosts) := by
  rw [fields]
  refine (Located.andAlso ?_ (located_list (by decide) _ _)).andAlso (located_list (by decide) _ _)
  repeat
    refine Located.andAlso ?_ (located_validate _ (by simp [fieldNames, textField, intField, floatField, boolField, literalField, urlField]) _)
  rintro e ⟨⟩

end Located

/-- A failed validation reports at least one error. Either all of them are located at fields,
or every field is valid, and the check between the fields is the only one that has failed. -/
theorem load_reports {pydantic : Pydantic} {environment : Environment} {errors : List FieldError}
    (h : Settings.load pydantic environment = .error (.validation errors)) :
    errors ≠ [] ∧ ((∀ e ∈ errors, ∃ name ∈ fieldNames, e.loc.head? = some name) ∨ ∃ message, errors = [⟨[], message⟩]) := by
  have undecodable : ∀ name name', decoded pydantic environment name ≠ .error (.validation name') := by
    intro name name' h
    rw [decoded] at h
    split at h
    · cases h
    · split at h <;> cases h
  rw [Settings.load] at h
  cases hcors : decoded pydantic environment "cors_allowed_origins" with
  | error e =>
    rw [hcors] at h
    cases h
    exact absurd hcors (undecodable _ _)
  | ok corsAllowedOrigins =>
    cases hhosts : decoded pydantic environment "trusted_hosts" with
    | error e =>
      rw [hcors, hhosts] at h
      cases h
      exact absurd hhosts (undecodable _ _)
    | ok trustedHosts =>
      have hlocated := located_fields pydantic environment corsAllowedOrigins trustedHosts
      rw [hcors, hhosts] at h
      change Settings.ofFields (fields pydantic environment corsAllowedOrigins trustedHosts) = _ at h
      cases hfields : fields pydantic environment corsAllowedOrigins trustedHosts with
      | invalid first more =>
        rw [hfields] at h hlocated
        cases h
        exact ⟨List.cons_ne_nil _ _, .inl hlocated⟩
      | valid fields =>
        rw [hfields, Settings.ofFields] at h
        cases hrequired : requireIpinfoToken fields with
        | ok settings =>
          rw [hrequired] at h
          cases h
        | error message =>
          rw [hrequired] at h
          cases h
          exact ⟨List.cons_ne_nil _ _, .inr ⟨message, rfl⟩⟩

/-- The two variables without a default are enough: every default passes its check. -/
example : (Settings.load ⟨fun _ => none, fun _ => none, fun _ => none, fun _ => none⟩ fun name =>
    [("database_url", "postgresql://db/ip_country".toList), ("ipinfo_token", "one".toList)].lookup name).toBool = true := by
  decide +kernel

end IpCountryApi.Configuration
