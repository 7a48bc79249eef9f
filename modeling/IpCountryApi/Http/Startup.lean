import IpCountryApi.Configuration.Settings
import IpCountryApi.Http.Confinement

/-! Replicas that were started with validated settings. -/
namespace IpCountryApi.Http
open Library Domain Execution Observability Services Providers IpCountryApi.Configuration

section Startup
variable (unicode : UnicodeTables) (renderer : LogFormat → EventDict → String) (framework : Framework) (settings : Settings)

/-- The provider that the lifespan sets up; without a token it would raise a RuntimeError. -/
def startProvider : Option ProviderChoice :=
  match settings.geoipProvider with
  | .fake => some .fake
  | .ipinfo => settings.ipinfoToken.map fun token =>
    .ipinfo ⟨unicode, String.ofList token, settings.geoipProviderMaxRetries.val.toNat⟩

/-- create_app, and the lifespan of the application. -/
def createApp : Option Application :=
  (startProvider unicode settings).map fun provider =>
    { version := String.ofList settings.appVersion
      trustedHosts := settings.trustedHosts
      corsAllowedOrigins := settings.corsAllowedOrigins
      replica := ⟨provider, settings.geoipCacheTtlSeconds.val, ⟨settings.logLevel, renderer settings.logFormat⟩⟩
      framework := framework }

/-- Validated settings have the token that the provider needs. -/
theorem createApp_isSome : (createApp unicode renderer framework settings).isSome = true := by
  rw [createApp, Option.isSome_map, startProvider]
  cases hprovider : settings.geoipProvider with
  | fake => rfl
  | ipinfo =>
    obtain ⟨token, htoken, -⟩ := settings.authorized hprovider
    rw [htoken]
    rfl

variable {unicode renderer framework settings} {app : Application}

/-- In production the provider is IPinfo, with a token that is not blank. -/
theorem createApp_production (h : createApp unicode renderer framework settings = some app)
    (hproduction : settings.appEnv = "production".toList) : ∃ token, settings.ipinfoToken = some token ∧ strip token ≠ [] ∧
      app.replica.provider = .ipinfo ⟨unicode, String.ofList token, settings.geoipProviderMaxRetries.val.toNat⟩ := by
  cases hprovider : settings.geoipProvider with
  | fake => exact absurd hprovider (settings.genuine hproduction)
  | ipinfo =>
    obtain ⟨token, htoken, hblank⟩ := settings.authorized hprovider
    rw [createApp, startProvider, hprovider, htoken] at h
    cases h
    exact ⟨token, htoken, hblank, rfl⟩

theorem createApp_ttl (h : createApp unicode renderer framework settings = some app) :
    app.replica.ttlSeconds = settings.geoipCacheTtlSeconds.val := by
  obtain ⟨provider, -, rfl⟩ := Option.map_eq_some_iff.mp h
  rfl

end Startup

/-- The lifetimes that the settings admit: from a minute to a year. -/
theorem ttl_bounds (settings : Settings) :
    60 ≤ settings.geoipCacheTtlSeconds.val ∧ settings.geoipCacheTtlSeconds.val ≤ 31536000 := by
  obtain ⟨hleast, hgreatest⟩ := settings.geoipCacheTtlSeconds.property
  exact ⟨Int.cast_le.mp hleast, Int.cast_le.mp hgreatest⟩

/-- What holds of a deployment in production that began with an empty table. -/
structure Produced {T : InetType} (settings : Nat → Settings) (apps : Nat → Application)
    (c : Config Query Reply Exn Unit HttpJob (World T)) : Prop where
  provider : ∀ row ∈ c.world.table, row.provider = "ipinfo"
  lifetime : ∀ row ∈ c.world.table, row.fetchedAt + 60 * 1000000 ≤ row.expiresAt ∧
    row.expiresAt ≤ row.fetchedAt + 31536000 * 1000000
  requested : ∀ row ∈ c.world.table, Requested apps c row
  authorized : ∀ t ∈ c.tasks, ∀ e ∈ t.history, ∀ path authorization, e.query = .clientGet path authorization →
    ∃ token, (settings t.job.replica).ipinfoToken = some token ∧ strip token ≠ [] ∧
      authorization = "Bearer " ++ String.ofList token

section Runs
variable {T : InetType} {settings : Nat → Settings} {apps : Nat → Application} {w : World T}
  {c : Config Query Reply Exn Unit HttpJob (World T)}

/-- Whatever validated settings the replicas of a production deployment are started with, its cache
only ever holds what IPinfo was asked for, for a minute to a year, and IPinfo is only asked with a
token. -/
theorem production_rows {unicode : UnicodeTables} {renderer : LogFormat → EventDict → String} {framework : Framework}
    (hproduction : ∀ n, (settings n).appEnv = "production".toList)
    (happs : ∀ n, createApp unicode renderer framework (settings n) = some (apps n)) (hw : w.table = [])
    (hc : (serving T apps).Reachable w c) : Produced settings apps c := by
  have hrows : ∀ row ∈ c.world.table, Requested apps c row := by
    intro row hrow
    have hrequested := (table_requested (by rw [hw]; exact List.nodup_nil) hc).2.rows row hrow
    rw [hw] at hrequested
    exact hrequested.resolve_left List.not_mem_nil
  constructor
  · intro row hrow
    obtain ⟨t, -, ip, -, -, hprovider, -⟩ := hrows row hrow
    obtain ⟨token, -, -, hipinfo⟩ := createApp_production (happs t.job.replica) (hproduction t.job.replica)
    rw [hprovider, hipinfo]
    rfl
  · intro row hrow
    obtain ⟨t, -, ip, -, -, -, hexpires⟩ := hrows row hrow
    obtain ⟨hleast, hgreatest⟩ := ttl_bounds (settings t.job.replica)
    rw [createApp_ttl (happs t.job.replica)] at hexpires
    constructor <;> omega
  · exact hrows
  · intro t ht e he path authorization hquery
    have permitted := (hc.within (fun j => Application.serve_within (apps j.replica) j.request) ht).2 e he
    rw [hquery] at permitted
    obtain ⟨ip, -, provider, hprovider, -, hauthorization⟩ := permitted
    obtain ⟨token, htoken, hblank, hipinfo⟩ := createApp_production (happs t.job.replica) (hproduction t.job.replica)
    rw [hipinfo] at hprovider
    cases hprovider
    exact ⟨token, htoken, hblank, hauthorization⟩

end Runs

def productionSettings : Settings where
  appName := "IP Country API".toList
  appEnv := "production".toList
  appVersion := "0.1.0".toList
  appHost := "0.0.0.0".toList
  appPort := ⟨8080, portRange.admits_of_refusal (by decide +kernel)⟩
  logLevel := .critical
  logFormat := .json
  databaseUrl := ⟨"postgresql://db/ip_country".toList, "postgresql://db/ip_country".toList, by decide⟩
  databasePoolSize := ⟨5, poolSizeRange.admits_of_refusal (by decide +kernel)⟩
  databaseMaxOverflow := ⟨5, maxOverflowRange.admits_of_refusal (by decide +kernel)⟩
  databasePoolTimeoutSeconds := ⟨5, databaseTimeoutRange.admits_of_refusal (by decide +kernel)⟩
  databaseConnectTimeoutSeconds := ⟨5, databaseTimeoutRange.admits_of_refusal (by decide +kernel)⟩
  geoipProvider := .ipinfo
  geoipProviderBaseUrl := ⟨"https://api.ipinfo.io".toList, "https://api.ipinfo.io".toList, by decide⟩
  ipinfoToken := some "one".toList
  geoipProviderTimeoutSeconds := ⟨3, providerTimeoutRange.admits_of_refusal (by decide +kernel)⟩
  geoipProviderMaxRetries := ⟨2, maxRetriesRange.admits_of_refusal (by decide +kernel)⟩
  geoipCacheTtlSeconds := ⟨2592000, ttlRange.admits_of_refusal (by decide +kernel)⟩
  metricsEnabled := true
  corsAllowedOrigins := []
  trustedHosts := ["localhost"]
  authorized _ := ⟨"one".toList, rfl, by decide⟩
  genuine _ := by decide

def productionApplication : Application :=
  ⟨"0.1.0", ["localhost"], [], ⟨.ipinfo ⟨.ascii, "one", 2⟩, 2592000, quietLog⟩, plainFramework⟩

/-- Replies to a lookup for which IPinfo has an answer. -/
def foundReplies : (q : Query) → Option (Reply q)
  | .clientGet _ _ => some (.ok ⟨200, .ok (.object [("country_code", .str "us"), ("country", .str "United States")])⟩)
  | q => serverReplies (some "a") (.ok none) q

/-- A lookup that asks IPinfo and writes the answer. -/
def productionRun : (serving hostAddresses fun _ => productionApplication).Recording (.start hostAddresses "0.1.0" true)
    fun c => decide (c.world.table ≠ []) where
  moves := .launch ⟨0, googleRequest⟩ :: List.replicate 40 (.reply 0 foundReplies)
  passes := by decide +kernel

theorem production_rows_example : ∃ c : Config Query Reply Exn Unit HttpJob (World hostAddresses), c.world.table ≠ [] ∧
    Produced (fun _ => productionSettings) (fun _ => productionApplication) c := by
  obtain ⟨c, hc, hp⟩ := productionRun.reaches
  have started : createApp .ascii (fun _ _ => "") plainFramework productionSettings = some productionApplication := by
    rfl
  exact ⟨c, of_decide_eq_true hp, production_rows (fun _ => rfl) (fun _ => started) rfl hc⟩

end IpCountryApi.Http
