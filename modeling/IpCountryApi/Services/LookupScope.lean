import IpCountryApi.Library.Within
import IpCountryApi.Services.Lifespan

/-! What a lookup may ask for, and what it may answer, whatever the libraries reply. -/
namespace IpCountryApi.Services
open Library Domain Execution Observability Providers Repositories

/-- What the statement stores: the answer of this provider for the address, for this many seconds. -/
structure Stores (choice : ProviderChoice) (ttlSeconds : Int) (ip : IPAddress) (statement : UpsertStatement) : Prop where
  ipAddress : statement.ipAddress = ip.str
  provider : statement.provider = choice.name
  expiresAt : statement.expiresAt = statement.fetchedAt.add (ttlSeconds * 1000000)

/-- What the lookup of an address may ask for: the row of this address, and this address of
the provider. -/
def LookupAsks (choice : ProviderChoice) (ttlSeconds : Int) (ip : IPAddress) : Query → Prop
  | .clock | .now | .perfCounter | .timestamp | .contextGet | .print _ | .sleep _ => True
  | .metric (.httpRequest _ _ _ _) => False
  | .metric _ => True
  | .scalar key => key = ip.str
  | .execute statement | .commit statement => Stores choice ttlSeconds ip statement
  | .clientGet path authorization => ∃ provider, choice = .ipinfo provider ∧ path = "/lite/".toList ++ ip.str ∧
      authorization = "Bearer " ++ provider.token
  | _ => False

/-- None of the exceptions that the framework raises for itself. -/
def IsOurs : Exn → Prop
  | .http _ => False
  | _ => True

/-- How a part of a lookup ends. -/
def Ending {α : Type} (good : α → Prop) : Except Exn α → Prop
  | .ok a => good a
  | .error e => IsOurs e

variable {choice : ProviderChoice} {ttlSeconds : Int} {ip : IPAddress} {α : Type} {ends : Except Exn α → Prop}
  {good : α → Prop}

theorem settle_within {asks : Query → Prop} {x : Except Foreign α} (h : ends (x.mapError .foreign)) :
    Within asks ends (settle x) := by
  cases x <;> exact h

theorem settle_ending {asks : Query → Prop} {x : Except Foreign α} : Within asks (Ending fun _ => True) (settle x) := by
  cases x <;> trivial

theorem perform_within {asks : Query → Prop} {q : Query} {f : Reply q → Prog α} (hq : asks q)
    (hf : ∀ r, Within asks ends (f r)) : Within asks ends (perform q >>= f) :=
  ⟨hq, hf⟩

/-- Logging asks for the time and the context at most, and does not raise. -/
theorem log_within {asks : Query → Prop} (hcontext : asks .contextGet) (htime : asks .timestamp) (hprint : ∀ line, asks (.print line))
    (log : LogConfig) (level : LogLevel) (event : String) (fields : EventDict) :
    Within asks (fun x => x = .ok ()) (log.log level event fields) := by
  rw [LogConfig.log]
  split
  · rfl
  · exact ⟨hcontext, fun _ => ⟨htime, fun _ => ⟨hprint _, fun _ => rfl⟩⟩⟩

theorem observed_within {operation : String} {started : Int} {body : Prog α}
    (hbody : Within (LookupAsks choice ttlSeconds ip) (Ending good) body) :
    Within (LookupAsks choice ttlSeconds ip) (Ending good) (PostgreSQLLookupRepository.observed operation started body) := by
  apply Within.ensuring
  · apply Within.tryCatch hbody
    · exact fun a ha => ha
    · intro e he
      rw [PostgreSQLLookupRepository.unavailable.eq_def]
      split
      · exact ⟨trivial, fun _ => trivial⟩
      · exact he
  · exact fun x _ => ⟨trivial, fun _ => ⟨trivial, fun _ => rfl⟩⟩

theorem get_within :
    Within (LookupAsks choice ttlSeconds ip) (Ending fun _ => True) (PostgreSQLLookupRepository.get ip) := by
  refine perform_within trivial fun started => ?_
  apply Within.bind (E := Ending fun _ => True)
  · exact observed_within (perform_within rfl fun answer => settle_ending)
  · intro row _
    cases row with
    | none => trivial
    | some row =>
      apply Within.bind (E := Ending fun _ => True)
      · rw [PostgreSQLLookupRepository.cacheRecord]
        split <;> trivial
      · exact fun _ _ => trivial
      · exact fun _ h => h
  · exact fun _ h => h

theorem upsert_within {cached : CacheRecord} (hip : cached.ip = ip) (hprovider : cached.provider = choice.name)
    (hexpires : cached.expiresAt = cached.fetchedAt.add (ttlSeconds * 1000000)) :
    Within (LookupAsks choice ttlSeconds ip) (Ending fun _ => True) (PostgreSQLLookupRepository.upsert cached) := by
  refine perform_within trivial fun started => perform_within trivial fun now => ?_
  have statement : Stores choice ttlSeconds ip (PostgreSQLLookupRepository.upsertStatement cached (.nowUtc now)) :=
    ⟨congrArg IPAddress.str hip, hprovider, hexpires⟩
  apply observed_within
  refine perform_within statement fun executed => ?_
  apply Within.bind settle_ending
  · exact fun _ _ => ⟨statement, fun _ => settle_ending⟩
  · exact fun _ h => h

/-- An answer of a provider carries its name. -/
def Named (choice : ProviderChoice) : Except Exn GeoIPResult → Prop := Ending fun result => result.provider = choice.name

theorem fake_within : Within (LookupAsks .fake ttlSeconds ip) (Named .fake) (FakeGeoIPProvider.lookup ip) := by
  refine ⟨trivial, fun started => ?_⟩
  cases fixtures.lookup ip.str with
  | none => exact ⟨trivial, fun _ => ⟨trivial, fun _ => ⟨trivial, fun _ => trivial⟩⟩⟩
  | some fixture => exact ⟨trivial, fun _ => ⟨trivial, fun _ => rfl⟩⟩

variable {provider : IPinfoLiteProvider}

theorem request_within :
    Within (LookupAsks (.ipinfo provider) ttlSeconds ip) (Ending fun _ => True) (provider.request ip) := by
  apply Within.bind (E := Ending fun _ => True)
  · apply Within.tryCatch (E := Ending fun _ => True)
    · exact ⟨⟨provider, rfl, rfl, rfl⟩, fun answer => settle_ending⟩
    · exact fun _ _ => trivial
    · intro e he
      rw [IPinfoLiteProvider.retryableRequest.eq_def]
      split
      · trivial
      · trivial
      · exact he
  · intro response _
    repeat' split
    all_goals first | trivial | exact ⟨trivial, fun _ => trivial⟩
  · exact fun _ h => h

theorem retrying_within {body : Prog α} (hbody : Within (LookupAsks choice ttlSeconds ip) (Ending fun _ => True) body)
    (attempt remaining : Nat) :
    Within (LookupAsks choice ttlSeconds ip) (Ending fun _ => True) (retrying body attempt remaining) := by
  induction remaining generalizing attempt with
  | zero => exact hbody
  | succ remaining ih =>
    apply Within.tryCatch hbody
    · exact fun _ _ => trivial
    · intro e he
      cases e with
      | retryable timeout =>
        refine perform_within trivial fun slept => ?_
        exact Within.bind settle_ending (fun _ _ => ih (attempt + 1)) fun _ h => h
      | http error => exact he
      | _ => trivial

theorem ipinfo_within : Within (LookupAsks (.ipinfo provider) ttlSeconds ip) (Named (.ipinfo provider)) (provider.lookup ip) := by
  refine perform_within trivial fun started => ?_
  apply Within.ensuring
  · apply Within.tryCatch (E := Named (.ipinfo provider))
    · apply Within.bind (retrying_within request_within 1 provider.maxRetries)
      · intro response _
        apply Within.bind settle_ending
        · intro payload _
          apply Within.bind (E := Ending fun _ => True)
          · rw [IPinfoLiteProvider.parse]
            split <;> trivial
          · exact fun _ _ => rfl
          · exact fun _ h => h
        · exact fun _ h => h
      · exact fun _ h => h
    · exact fun _ h => h
    · intro e he
      rw [IPinfoLiteProvider.failed.eq_def]
      split
      all_goals first | exact he | exact ⟨trivial, fun _ => trivial⟩
  · exact fun _ _ => ⟨trivial, fun _ => ⟨trivial, fun _ => rfl⟩⟩

theorem provider_within (choice : ProviderChoice) (ttlSeconds : Int) (ip : IPAddress) : Within (LookupAsks choice ttlSeconds ip) (Named choice) (choice.lookup ip) := by
  cases choice with
  | fake => exact fake_within
  | ipinfo provider => exact ipinfo_within

/-- A result is for the address that was asked for. -/
def ResultFor (value : String) : Except Exn LookupResult → Prop :=
  Ending fun result => validatePublicIp value = .ok result.ip

/-- What a lookup of some text may ask for: nothing, unless the text is an address. -/
def TextAsks (self : Replica) (value : String) (q : Query) : Prop :=
  ∃ ip, validatePublicIp value = .ok ip ∧ LookupAsks self.provider self.ttlSeconds ip q

theorem lookup_within (self : Replica) (value : String) :
    Within (TextAsks self value) (ResultFor value) (self.service.lookup value) := by
  rw [IPLookupService.lookup]
  cases hip : validatePublicIp value with
  | error e => trivial
  | ok ip =>
    have own : ∀ q, LookupAsks self.provider self.ttlSeconds ip q → TextAsks self value q := fun q hq => ⟨ip, hip, hq⟩
    have logged := fun level event fields => (log_within trivial trivial (fun _ => trivial) self.log level event fields :
      Within (LookupAsks self.provider self.ttlSeconds ip) _ _)
    have found : ∀ {result : LookupResult}, result.ip = ip → ResultFor value (.ok result) := fun h => by rw [ResultFor, Ending, h, hip]
    refine perform_within (own _ trivial) fun now => Within.mono ?_ own fun _ h => h
    apply Within.bind get_within
    · intro cached _
      split
      · refine perform_within trivial fun _ => ?_
        exact Within.bind (logged _ _ _) (fun _ _ => found rfl) (by rintro _ ⟨⟩)
      · apply Within.bind (E := Ending fun _ => True)
        · apply Within.tryCatch (E := Ending fun _ => True)
          · apply Within.bind (provider_within self.provider self.ttlSeconds ip)
            · intro result hname
              refine perform_within trivial fun fetchedAt => ?_
              exact Within.bind (upsert_within rfl hname rfl) (fun _ _ => trivial) fun _ h => h
            · exact fun _ h => h
          · exact fun _ _ => trivial
          · intro e he
            split
            · exact ⟨trivial, fun _ => he⟩
            · exact he
        · intro written _
          refine perform_within trivial fun _ => ?_
          exact Within.bind (logged _ _ _) (fun _ _ => found rfl) (by rintro _ ⟨⟩)
        · exact fun _ h => h
    · exact fun _ h => h

end IpCountryApi.Services
