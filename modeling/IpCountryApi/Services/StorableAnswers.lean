import IpCountryApi.Library.Environments
import IpCountryApi.Providers.PayloadGrammar
import IpCountryApi.Providers.ProviderOutcomes
import IpCountryApi.Repositories.CanonicalKeys
import IpCountryApi.Services.LookupRuns

/-! The limits of the provider validation against those of the columns of ip_lookup_cache. -/
namespace IpCountryApi.Services
open Library Domain Execution Providers Repositories

/-- A database that is up and has the table: it takes the statements whose values its columns
accept, refuses the others, and commits. A value without an encoding is refused by the driver,
with a UnicodeEncodeError, which is a ValueError. -/
structure Healthy (T : InetType) (env : Environment Query Reply) : Prop where
  accepts : ∀ h st, st.Admitted T → env h (.execute st) = .ok ()
  refuses : ∀ h st, ¬ st.Admitted T → st.countryName.encodes = true →
    ∃ sqlstate shown causes, env h (.execute st) = .error ⟨.sqlalchemy sqlstate, shown, causes⟩
  unencodable : ∀ h st, st.countryName.encodes = false → ∃ shown causes, env h (.execute st) = .error ⟨.value, shown, causes⟩
  commits : ∀ h st, env h (.commit st) = .ok ()

/-- Whenever the record is upserted its values are accepted, and on a healthy database the
upsert succeeds. -/
def Storable (T : InetType) (record : CacheRecord) : Prop :=
  (∀ now, (PostgreSQLLookupRepository.upsertStatement record now).Admitted T) ∧
  ∀ env h, Healthy T env → ((PostgreSQLLookupRepository.upsert record).under env h).2 = .ok ()

/-- How an upsert of a name ends that a healthy database does not take. -/
def Refused (name : PyStr) (x : Except Exn Unit) : Prop :=
  match name with
  | .text _ => x = .error (.app .databaseUnavailable)
  | .broken _ => ∃ f : Foreign, f.kind = .value ∧ x = .error (.foreign f)

section Environments
variable {T : InetType} {record : CacheRecord} {env : Environment Query Reply} {h : Past}

/-- What an except clause for database errors leaves of an outcome. -/
def databaseOutcome {α : Type} (x : Except Exn α) : Except Exn α :=
  x.mapError fun e =>
    match e with
    | .foreign f => databaseFailure f
    | e => e

/-- The except and finally clauses around a database call. -/
theorem observed_under {α : Type} (operation : String) (started : Int) {body : Prog α} {h' : Past} {x : Except Exn α}
    (hbody : body.under env h = (h', x)) :
    ∃ h'', (PostgreSQLLookupRepository.observed operation started body).under env h = (h'', databaseOutcome x) := by
  rw [PostgreSQLLookupRepository.observed]
  rcases x with e | a
  · cases e with
    | foreign f =>
      obtain ⟨kind, shown, causes⟩ := f
      cases kind <;> exact ⟨_, Coro.under_ensuring (Coro.under_tryCatch_error hbody _) rfl⟩
    | _ => exact ⟨_, Coro.under_ensuring (Coro.under_tryCatch_error hbody _) rfl⟩
  · exact ⟨_, Coro.under_ensuring (Coro.under_tryCatch_ok hbody _) rfl⟩

/-- The body of the try statement of an upsert. -/
def transaction (st : UpsertStatement) : Prog Unit := do
  let executed ← perform (.execute st)
  settle executed
  let committed ← perform (.commit st)
  settle committed

/-- An upsert ends as its transaction does, under the clauses around it. -/
theorem upsert_under (record : CacheRecord) (env : Environment Query Reply) (h : Past) : ∃ now h',
    ((PostgreSQLLookupRepository.upsert record).under env h).2 =
      databaseOutcome ((transaction (PostgreSQLLookupRepository.upsertStatement record now)).under env h').2 := by
  have hobserved : ∀ started st h', ∃ h'', (PostgreSQLLookupRepository.observed "upsert" started (transaction st)).under env h' =
      (h'', databaseOutcome ((transaction st).under env h').2) := fun started st h' => observed_under "upsert" started rfl
  obtain ⟨h'', hrun⟩ := hobserved (env h .perfCounter) (PostgreSQLLookupRepository.upsertStatement record
      (.nowUtc (env (⟨.perfCounter, env h .perfCounter⟩ :: h) .now)))
    (⟨.now, env (⟨.perfCounter, env h .perfCounter⟩ :: h) .now⟩ :: ⟨.perfCounter, env h .perfCounter⟩ :: h)
  exact ⟨_, _, congrArg Prod.snd hrun⟩

private theorem transaction_accepted (healthy : Healthy T env) (st : UpsertStatement) (admitted : st.Admitted T) (h : Past) :
    ((transaction st).under env h).2 = .ok () := by
  rw [transaction, perform, Coro.under_call_bind, healthy.accepts h st admitted]
  show (Coro.under env (perform (.commit st) >>= settle) _).2 = _
  rw [perform, Coro.under_call_bind, healthy.commits]
  rfl

private theorem transaction_refused (healthy : Healthy T env) (st : UpsertStatement) (refused : ¬ st.Admitted T) (h : Past) :
    Refused st.countryName (databaseOutcome ((transaction st).under env h).2) := by
  rw [transaction, perform, Coro.under_call_bind]
  cases hname : st.countryName with
  | text name =>
    obtain ⟨sqlstate, shown, causes, hreply⟩ := healthy.refuses h st refused (by rw [hname]; rfl)
    rw [hreply]
    rfl
  | broken name =>
    obtain ⟨shown, causes, hreply⟩ := healthy.unencodable h st (by rw [hname]; rfl)
    rw [hreply]
    exact ⟨_, rfl, rfl⟩

/-- On a healthy database an upsert succeeds with values its columns accept. -/
theorem upsert_accepted (healthy : Healthy T env) (now : Datetime)
    (admitted : (PostgreSQLLookupRepository.upsertStatement record now).Admitted T) (h : Past) :
    ((PostgreSQLLookupRepository.upsert record).under env h).2 = .ok () := by
  obtain ⟨now', h', hupsert⟩ := upsert_under record env h
  rw [hupsert, transaction_accepted healthy (PostgreSQLLookupRepository.upsertStatement record now') admitted]
  rfl

/-- With other values it fails. -/
theorem upsert_refused (healthy : Healthy T env) (now : Datetime)
    (refused : ¬ (PostgreSQLLookupRepository.upsertStatement record now).Admitted T) (h : Past) :
    Refused record.countryName ((PostgreSQLLookupRepository.upsert record).under env h).2 := by
  obtain ⟨now', h', hupsert⟩ := upsert_under record env h
  rw [hupsert]
  exact transaction_refused healthy (PostgreSQLLookupRepository.upsertStatement record now') refused h'

/-- The columns look at the fields of the record, not at the time of the upsert. -/
theorem storable_iff (T : InetType) (record : CacheRecord) : Storable T record ↔
    (T.input record.ip.str).isSome = true ∧ UpsertStatement.fits 2 record.countryCode = true ∧
      UpsertStatement.fits 128 record.countryName = true ∧ UpsertStatement.fits 32 record.provider = true := by
  constructor
  · exact fun h => h.1 (.nowUtc 0)
  · intro h
    exact ⟨fun now => h, fun env past healthy => upsert_accepted healthy (.nowUtc 0) h past⟩

end Environments

section Answers
variable {T : InetType} {unicode : UnicodeTables} {payload : Json} {parsed : IPinfoLiteResponse} {value : String}
  {ip : IPAddress}

/-- The driver sends the code point, and PostgreSQL stores it. -/
def storable : CodePoint → Bool
  | .scalar c => c ≠ Char.ofNat 0
  | .surrogate _ => false

/-- What cannot be stored is no whitespace. -/
theorem not_space_of_not_storable {point : CodePoint} (h : storable point = false) : point.isSpace = false := by
  cases point with
  | surrogate => rfl
  | scalar c =>
    obtain rfl : c = Char.ofNat 0 := by simpa [storable] using h
    decide

theorem fits_iff {n : Nat} {value : PyStr} :
    UpsertStatement.fits n value = true ↔ value.length ≤ n ∧ ∀ point ∈ value.points, storable point = true := by
  cases value with
  | text value =>
    rw [UpsertStatement.fits, Bool.and_eq_true, decide_eq_true_eq, PyStr.length_text, String.length_toList, PyStr.points_text,
      List.forall_mem_map]
    refine and_congr_right fun _ => ?_
    simp only [storable, Bool.not_eq_true', List.contains_eq_mem, decide_eq_false_iff_not, ne_eq, decide_eq_true_eq]
    exact ⟨fun h c hc hnul => h (hnul ▸ hc), fun h hnul => h _ hnul rfl⟩
  | broken value =>
    refine iff_of_false Bool.false_ne_true fun h => ?_
    cases h.2 (.surrogate value.surrogate) (List.mem_append_right _ List.mem_cons_self)

/-- The parsed code fits its column. -/
theorem fits_countryCode {code : String} (hcode : IPinfoLiteResponse.countryCodeIsIsoLike unicode code = some parsed.countryCode) :
    UpsertStatement.fits 2 parsed.countryCode = true := by
  rw [IPinfoLiteResponse.countryCode_accepted] at hcode
  split at hcode
  · rename_i h
    rw [← Option.some.inj hcode, fits_iff, PyStr.length_text, PyStr.points_text, String.toList_ofList]
    refine ⟨h.1.le, List.forall_mem_map.mpr fun c hc => ?_⟩
    rw [storable, decide_eq_true_eq]
    rintro rfl
    have halpha := List.all_eq_true.mp h.2 _ hc
    rw [unicode.isAlpha_ascii _ (by decide)] at halpha
    exact absurd halpha (by decide)
  · cases hcode

/-- The parsed name fits its column exactly if all of the payload's name can be stored. -/
theorem fits_country {country : PyStr} (hname : IPinfoLiteResponse.countryNameIsUsable country = some parsed.country) :
    UpsertStatement.fits 128 parsed.country = true ↔ ∀ point ∈ country.points, storable point = true := by
  rw [IPinfoLiteResponse.countryName_accepted] at hname
  split at hname
  · rename_i h
    have hlength : country.strip.length ≤ 128 := of_decide_eq_true ((Bool.and_eq_true _ _).mp h).2
    rw [← Option.some.inj hname, fits_iff, and_iff_right hlength, PyStr.points_strip]
    refine ⟨fun hall point hpoint => ?_, fun hall point hpoint => hall point ?_⟩
    · by_contra hnot
      have hspace := not_space_of_not_storable (Bool.eq_false_iff.mpr hnot)
      exact hnot (hall point ((mem_stripBy_iff hspace _).mpr hpoint))
    · exact List.dropWhile_subset _ ((List.rdropWhile_prefix _ _).subset hpoint)
  · cases hname

/-- The column type accepts the text of an address exactly if it has no zone. -/
theorem input_isSome_iff : (T.input ip.str).isSome = true ↔ ip.scopeId = none := by
  constructor
  · intro h
    obtain ⟨v, hv⟩ := Option.isSome_iff_exists.mp h
    exact InetType.scopeId_of_input hv
  · intro h
    obtain ⟨v, hv, _⟩ := T.plain ip h
    exact Option.isSome_iff_exists.mpr ⟨v, hv⟩

/-- An accepted payload for an accepted address can be stored exactly if its country has no NUL
character and no unpaired surrogate, and the request string writes no zone; otherwise a healthy
database is reported as unavailable, or the driver's UnicodeEncodeError is raised. -/
theorem answer_storable_iff (hvalue : validatePublicIp value = .ok ip)
    (hpayload : IPinfoLiteResponse.modelValidate unicode payload = some parsed) (fetchedAt expiresAt : Datetime) :
    (Storable T ⟨ip, parsed.countryCode, parsed.country, IPinfoLiteProvider.name, fetchedAt, expiresAt⟩ ↔
      (∀ country : PyStr, payload.get? "country" = some country.json → ∀ point ∈ country.points, storable point = true) ∧
        '%' ∉ value.toList) ∧
    (¬ Storable T ⟨ip, parsed.countryCode, parsed.country, IPinfoLiteProvider.name, fetchedAt, expiresAt⟩ →
      ∀ env h, Healthy T env → Refused parsed.country ((PostgreSQLLookupRepository.upsert
        ⟨ip, parsed.countryCode, parsed.country, IPinfoLiteProvider.name, fetchedAt, expiresAt⟩).under env h).2) := by
  obtain ⟨code, country, fields, hcode, hname⟩ := IPinfoLiteResponse.modelValidate_some hpayload
  constructor
  · have hprovider : UpsertStatement.fits 32 IPinfoLiteProvider.name = true := by decide
    have hcountry : (∀ country : PyStr, payload.get? "country" = some country.json →
        ∀ point ∈ country.points, storable point = true) ↔ ∀ point ∈ country.points, storable point = true := by
      refine ⟨fun h => h country fields.country, fun h other hother => ?_⟩
      rwa [← (fields.unique ⟨fields.code, hother⟩).2]
    rw [storable_iff, input_isSome_iff, fits_country hname, hcountry, percent_accepted hvalue, not_not]
    exact ⟨fun ⟨hip, _, hfits, _⟩ => ⟨hfits, hip⟩, fun ⟨hfits, hip⟩ => ⟨hip, fits_countryCode hcode, hfits, hprovider⟩⟩
  · intro hnot env h healthy
    exact upsert_refused healthy (.nowUtc 0) (fun admitted => hnot ((storable_iff _ _).2 admitted)) h

end Answers

theorem answer_storable_example : Storable hostAddresses
    ⟨.v4 ⟨0x08080808⟩, "US", "United States", IPinfoLiteProvider.name, .nowUtc 0, .nowUtc 1⟩ := by
  have hvalue : validatePublicIp "8.8.8.8" = .ok (.v4 ⟨0x08080808⟩) := by decide +kernel
  have hpayload : IPinfoLiteResponse.modelValidate .ascii (.object [("country_code", .str "us"), ("country", .str "United States")]) =
      some ⟨"US", "United States"⟩ := by decide +kernel
  refine (answer_storable_iff hvalue hpayload (.nowUtc 0) (.nowUtc 1)).1.2 ⟨?_, by decide⟩
  intro country hcountry
  obtain rfl : PyStr.text "United States" = country := PyStr.json_injective (Option.some.inj hcountry)
  decide

/-- A database with the table, and the driver's refusal of values it cannot send. -/
def healthyDatabase (T : InetType) : Environment Query Reply
  | _, .execute st =>
    (if st.Admitted T then .ok ()
      else if st.countryName.encodes then .error ⟨.sqlalchemy none, ⟨"", "DataError", ""⟩, []⟩
      else .error (valueError "UnicodeEncodeError") : Except Foreign Unit)
  | h, q => answering (fun _ => numberAnswer) h q

theorem healthyDatabase_healthy (T : InetType) : Healthy T (healthyDatabase T) where
  accepts _ _ admitted := if_pos admitted
  refuses _ _ refused encodes := ⟨none, _, _, (if_neg refused).trans (if_pos encodes)⟩
  unencodable _ st fails := by
    have refused : ¬ st.Admitted T := fun admitted => Bool.false_ne_true (fails.symm.trans admitted.encodes)
    exact ⟨_, _, (if_neg refused).trans (if_neg (by rw [fails]; exact Bool.false_ne_true))⟩
  commits _ _ := rfl

/-- A name of one NUL character is accepted, and no column takes it. -/
theorem nul_not_storable : ∃ ip, validatePublicIp "8.8.8.8" = .ok ip ∧
    IPinfoLiteResponse.modelValidate .ascii
      (.object [("country_code", .str "us"), ("country", .str (String.ofList [Char.ofNat 0]))]) =
        some ⟨"US", String.ofList [Char.ofNat 0]⟩ ∧
    ¬ Storable hostAddresses
      ⟨ip, "US", String.ofList [Char.ofNat 0], IPinfoLiteProvider.name, .nowUtc 0, .nowUtc 1⟩ ∧
    ((PostgreSQLLookupRepository.upsert
      ⟨ip, "US", String.ofList [Char.ofNat 0], IPinfoLiteProvider.name, .nowUtc 0, .nowUtc 1⟩).under
        (healthyDatabase hostAddresses) []).2 = .error (.app .databaseUnavailable) := by
  have hnul : ¬ (PostgreSQLLookupRepository.upsertStatement ⟨.v4 ⟨0x08080808⟩, "US", String.ofList [Char.ofNat 0],
      IPinfoLiteProvider.name, .nowUtc 0, .nowUtc 1⟩ (.nowUtc 0)).Admitted hostAddresses := by decide +kernel
  exact ⟨.v4 ⟨0x08080808⟩, by decide +kernel, by decide +kernel, fun h => hnul (h.1 _),
    upsert_refused (healthyDatabase_healthy hostAddresses) (.nowUtc 0) hnul []⟩

end IpCountryApi.Services
