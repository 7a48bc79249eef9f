import IpCountryApi.Domain.AddressText
import IpCountryApi.Library.ConfigParser
import Mathlib.Data.Rat.Defs

/-! The setting DATABASE_URL on its two ways to SQLAlchemy: from the application, and through
the configuration of Alembic. -/
namespace IpCountryApi.Database
open Library Domain ConfigParser

def acceptedPrefixes : List Text := ["postgresql+psycopg://".toList, "postgresql://".toList]

/-- Settings.validate_database_url. -/
def validateDatabaseUrl (value : Text) : Option Text :=
  if !acceptedPrefixes.any (·.isPrefixOf value) then none else some value

structure Settings where
  databaseUrl : Text
  databasePoolSize : Nat
  databaseMaxOverflow : Nat
  databasePoolTimeoutSeconds : Rat
  databaseConnectTimeoutSeconds : Nat
  validated : validateDatabaseUrl databaseUrl = some databaseUrl

/-- The arguments of create_async_engine. -/
structure EngineArguments where
  url : Text
  poolSize : Nat
  maxOverflow : Nat
  poolTimeout : Rat
  poolPrePing : Bool
  connectTimeout : Nat

def createDatabaseEngine (settings : Settings) : EngineArguments where
  url :=
    if "postgresql://".toList.isPrefixOf settings.databaseUrl then
      replaceOnce "postgresql://".toList "postgresql+psycopg://".toList settings.databaseUrl
    else settings.databaseUrl
  poolSize := settings.databasePoolSize
  maxOverflow := settings.databaseMaxOverflow
  poolTimeout := settings.databasePoolTimeoutSeconds
  poolPrePing := true
  connectTimeout := settings.databaseConnectTimeoutSeconds

/-! The script env.py of the migrations. -/

/-- The module variable database_url. -/
def migrationUrl (settings : Settings) : Text :=
  let url := settings.databaseUrl
  if "postgresql://".toList.isPrefixOf url then replaceOnce "postgresql://".toList "postgresql+psycopg://".toList url else url

/-- The section alembic of alembic.ini. Option names are ASCII. -/
def alembicOptions : Dict String Text :=
  [("script_location", "migrations".toList), ("prepend_sys_path", "src".toList), ("path_separator", "os".toList)]

/-- Alembic adds the directory of alembic.ini as a default. -/
def alembicIni (here : Text) : Parser := ⟨[("here", here)], [("alembic", alembicOptions)]⟩

/-- Config.set_main_option of Alembic. -/
def setMainOption (config : Parser) (name : String) (value : Text) : Option Parser :=
  let config := if config.hasSection "alembic" then config else config.addSection "alembic"
  config.set String.toLower "alembic" name value

/-- Config.get_section of Alembic, with an empty default. -/
def getSection (config : Parser) (name : String) : Option (Dict String Text) :=
  if config.hasSection name then config.items String.toLower name else some []

def configured (here : Text) (settings : Settings) : Option Parser :=
  setMainOption (alembicIni here) "sqlalchemy.url" (replace ['%'] ['%', '%'] (migrationUrl settings))

/-- run_migrations_offline. -/
def offlineUrl (settings : Settings) : Text := migrationUrl settings

/-- run_async_migrations: the engine takes its URL from the option that has the name url
behind the prefix. -/
def onlineUrl (here : Text) (settings : Settings) : Option Text := do
  let config ← configured here settings
  let options ← getSection config "alembic"
  options.get? ("sqlalchemy." ++ "url")

/-! One URL on all ways. -/

theorem validated_cases (settings : Settings) :
    (∃ rest, settings.databaseUrl = "postgresql+psycopg://".toList ++ rest) ∨
    ∃ rest, settings.databaseUrl = "postgresql://".toList ++ rest := by
  have h := settings.validated
  rw [validateDatabaseUrl] at h
  split at h
  · cases h
  · rename_i haccepted
    simp only [Bool.not_eq_true', Bool.not_eq_false, List.any_eq_true, acceptedPrefixes, List.mem_cons, List.not_mem_nil,
      or_false, List.isPrefixOf_iff_prefix] at haccepted
    obtain ⟨front, rfl | rfl, rest, hrest⟩ := haccepted
    · exact .inl ⟨rest, hrest.symm⟩
    · exact .inr ⟨rest, hrest.symm⟩

/-- The driver is named in the URL, or is put there. -/
theorem migrationUrl_driver (settings : Settings) : "postgresql+psycopg://".toList <+: migrationUrl settings := by
  rw [migrationUrl]
  rcases validated_cases settings with ⟨rest, hurl⟩ | ⟨rest, hurl⟩
  · have hother : "postgresql://".toList.isPrefixOf settings.databaseUrl = false := by
      rw [hurl]
      rfl
    rw [hother, hurl]
    exact List.prefix_append _ rest
  · have hplain : "postgresql://".toList.isPrefixOf settings.databaseUrl = true := by
      rw [hurl, List.isPrefixOf_iff_prefix]
      exact List.prefix_append _ rest
    rw [hplain, hurl, if_pos rfl, replaceOnce_match (by decide)]
    exact List.prefix_append _ rest

/-- What Alembic reads back, in a directory whose name needs no interpolation. -/
theorem onlineUrl_eq {here : Text} (hhere : '%' ∉ here) (settings : Settings) :
    onlineUrl here settings = some (migrationUrl settings) := by
  have hplain : ∀ kv ∈ (alembicIni here).defaults ++ alembicOptions, '%' ∉ kv.2 := by
    intro kv hkv
    rcases List.mem_cons.mp hkv with rfl | hkv
    · exact hhere
    · have hini : ∀ kv ∈ alembicOptions, '%' ∉ kv.2 := by decide
      exact hini kv hkv
  have hsection : (alembicIni here).sections.get? "alembic" = some alembicOptions := rfl
  obtain ⟨config, options, hset, hitems, hget⟩ := Parser.items_set_escape String.toLower "sqlalchemy.url" hsection (by decide)
    hplain (migrationUrl settings)
  have hhas : (alembicIni here).hasSection "alembic" = true := by
    rw [Parser.hasSection, hsection]
    rfl
  have hconfigured : configured here settings = some config := by
    rw [configured, setMainOption, if_pos hhas]
    exact hset
  have hsame : getSection config "alembic" = some options := by
    rw [getSection, if_pos (Parser.hasSection_of_items hitems), hitems]
  have hname : "sqlalchemy.url".toLower = "sqlalchemy." ++ "url" := by decide +kernel
  rw [hname] at hget
  rw [onlineUrl, hconfigured, Option.bind_eq_bind, Option.bind_some, hsame]
  exact hget

/-- The application, the online run and the offline run of the migrations use one database,
through the driver that is installed. -/
theorem same_database {here : Text} (hhere : '%' ∉ here) (settings : Settings) :
    onlineUrl here settings = some (createDatabaseEngine settings).url ∧
    offlineUrl settings = (createDatabaseEngine settings).url ∧
    "postgresql+psycopg://".toList <+: (createDatabaseEngine settings).url :=
  ⟨onlineUrl_eq hhere settings, rfl, migrationUrl_driver settings⟩

/-- Credentials with percent escapes, and the directory of the container. -/
def escapedSettings : Settings :=
  ⟨"postgresql://app:p%40ss%25@db/ip_country".toList, 5, 5, 5, 5, by decide⟩

theorem same_database_escaped :
    onlineUrl "/app".toList escapedSettings = some "postgresql+psycopg://app:p%40ss%25@db/ip_country".toList ∧
    offlineUrl escapedSettings = "postgresql+psycopg://app:p%40ss%25@db/ip_country".toList ∧
    "postgresql+psycopg://".toList <+: "postgresql+psycopg://app:p%40ss%25@db/ip_country".toList :=
  same_database (by decide) escapedSettings

end IpCountryApi.Database
