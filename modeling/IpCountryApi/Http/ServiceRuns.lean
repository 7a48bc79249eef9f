import IpCountryApi.Http.Faults
import IpCountryApi.Services.Lifespan
import IpCountryApi.Services.LookupRuns

/-! What a lookup leaves in the history of its request: calm events if it returns or raises
an application error, and an unguarded exception otherwise. -/
namespace IpCountryApi.Http
open Library Domain Execution Observability Providers Repositories Services

/-- A part of the program returned, raised one of the exceptions that are handled around
it, or let an unguarded one through. -/
def Outcome {α : Type} (handled : Exn → Prop) (older newer : Past) : Except Exn α → Prop
  | .ok _ => Extends calm older newer
  | .error e => (handled e ∧ Extends calm older newer) ∨ ∃ f, e = .foreign f ∧ ¬ handled e ∧ Faulted older newer f

def IsApp (e : Exn) : Prop := ∃ error, e = .app error

theorem not_isApp (f : Foreign) : ¬ IsApp (.foreign f) := fun ⟨_, h⟩ => by cases h

section Outcomes
variable {α β : Type} {handled : Exn → Prop} {oldest older newer : Past}

theorem Outcome.app {error : AppError} (hx : Extends calm older newer) :
    Outcome IsApp older newer (.error (.app error) : Except Exn α) := .inl ⟨⟨error, rfl⟩, hx⟩

theorem Outcome.faulted {f : Foreign} (hf : Faulted older newer f) :
    Outcome IsApp older newer (.error (.foreign f) : Except Exn α) := .inr ⟨f, rfl, not_isApp f, hf⟩

/-- The outcome of the second of two parts is that of both. -/
theorem Outcome.after {x : Except Exn α} (h : Outcome handled older newer x) (hx : Extends calm oldest older) :
    Outcome handled oldest newer x := by
  cases x with
  | ok a => exact hx.trans h
  | error e =>
    rcases h with ⟨he, h⟩ | ⟨f, rfl, hn, hf⟩
    · exact .inl ⟨he, hx.trans h⟩
    · exact .inr ⟨f, rfl, hn, hf.after hx⟩

/-- What is returned, if anything. -/
def Returns (good : α → Prop) : Except Exn α → Prop
  | .ok a => good a
  | .error _ => True

/-- An exception passes through what follows. -/
theorem Outcome.error {e : Exn} (h : Outcome handled older newer (.error e : Except Exn α)) :
    Outcome handled older newer (.error e : Except Exn β) := h

end Outcomes

variable {method : String} {h : Past}

section Repository

/-- The finally clause around a database call. -/
private theorem cleanup_request {operation : String} {started : Int} {post : Past → Except Exn Unit → Prop}
    (hop : operation ∈ ["read", "upsert"]) (hp : ∀ h', Extends silent h h' → post h' (.ok ())) :
    Meets (requestContract method) (do
      let finished ← perform .perfCounter
      record (.databaseOperation operation (finished - started))) h post :=
  perform_request (by simp) fun _ _ => record_request_end (by exact hop) (hp _ ((Extends.refl.push rfl).push rfl))

/-- The clauses around a database call add silent events. -/
private theorem observed_request {α : Type} {operation : String} {started : Int} {body : Prog α}
    {post : Past → Except Exn α → Prop} (hop : operation ∈ ["read", "upsert"])
    (hp : Meets (requestContract method) body h fun h' x => ∀ h'', Extends silent h' h'' →
      post h'' (x.mapError fun e =>
        match e with
        | .foreign f => databaseFailure f
        | e => e)) :
    Meets (requestContract method) (PostgreSQLLookupRepository.observed operation started body) h post := by
  rw [PostgreSQLLookupRepository.observed, Meets.ensuring_iff, Meets.tryCatch_iff]
  refine hp.mono fun h' x hx => ?_
  cases x with
  | ok a => exact cleanup_request hop hx
  | error e =>
    show Meets _ (PostgreSQLLookupRepository.unavailable operation e) h' _
    cases e with
    | foreign f =>
      obtain ⟨kind, shown, causes⟩ := f
      cases kind with
      | sqlalchemy sqlstate =>
        refine record_request (by exact ⟨hop, List.mem_singleton_self _⟩) (cleanup_request hop fun h'' hs => ?_)
        exact hx _ ((Extends.refl.push rfl).trans hs)
      | _ => exact cleanup_request hop hx
    | _ => exact cleanup_request hop hx

/-- How a database call that failed leaves the repository. -/
private theorem database_outcome {α : Type} {older newer : Past} {e : Answered} {f : Foreign}
    (hcalm : isSqlalchemy f.kind = true → calm e = true) (hfault : isSqlalchemy f.kind = false → fault e = some f)
    (hx : Extends calm older h) (hs : Extends silent (e :: h) newer) :
    Outcome IsApp older newer (.error (databaseFailure f) : Except Exn α) := by
  obtain ⟨kind, shown, causes⟩ := f
  cases kind with
  | sqlalchemy sqlstate => exact .app ((hx.push (hcalm rfl)).trans (hs.mono fun _ => calm_of_silent))
  | _ => exact .faulted ⟨h, e, hx, hfault rfl, hs⟩

/-- A name that was loaded or stored has an encoding. -/
theorem get_outcome {ip : IPAddress} :
    Meets (requestContract method) (PostgreSQLLookupRepository.get ip) h fun h' x => Outcome IsApp h h' x ∧
      Returns (fun cached => ∀ c : CacheRecord, cached = some c → c.countryName.encodes = true) x := by
  rw [PostgreSQLLookupRepository.get]
  refine perform_request (by simp) fun started _ => ?_
  rw [Meets.bind_iff]
  refine observed_request (by simp) (perform_request (by simp) fun answer _ => settle_meets.mpr fun h' hs => ?_)
  have started : Extends calm h (⟨.perfCounter, started⟩ :: h) := Extends.refl.push rfl
  rcases answer with f | row
  · exact ⟨database_outcome (fun hk => by simp [calm, tame, refusedFile, fault, hk]) (fun hk => by simp [fault, hk]) started hs,
      trivial⟩
  · cases row with
    | none => exact ⟨(started.push rfl).trans (hs.mono fun _ => calm_of_silent), by rintro c ⟨⟩⟩
    | some row =>
      show Meets _ (PostgreSQLLookupRepository.cacheRecord row >>= _) h' _
      rw [PostgreSQLLookupRepository.cacheRecord]
      cases hip : ipAddress row.ipAddress with
      | none => exact ⟨.faulted ⟨_, _, started, by simp [fault, hip], hs⟩, trivial⟩
      | some ip =>
        refine ⟨(started.push (by simp [calm, tame, refusedFile, fault, hip])).trans (hs.mono fun _ => calm_of_silent), ?_⟩
        rintro c ⟨⟩
        rfl

theorem upsert_outcome {written : CacheRecord} :
    Meets (requestContract method) (PostgreSQLLookupRepository.upsert written) h fun h' x => Outcome IsApp h h' x ∧
      Returns (fun _ => written.countryName.encodes = true) x := by
  rw [PostgreSQLLookupRepository.upsert]
  refine perform_request (by simp) fun started _ => perform_request (by simp) fun now _ => ?_
  have started : Extends calm h (⟨.now, now⟩ :: ⟨.perfCounter, started⟩ :: h) := (Extends.refl.push rfl).push rfl
  refine observed_request (by simp) (perform_request (by simp) fun executed relied => settle_bind_meets.mpr ?_)
  cases executed with
  | error f =>
    exact fun h' hs => ⟨database_outcome (fun hk => by simp [calm, tame, refusedFile, fault, hk])
      (fun hk => by simp [fault, hk]) started hs, trivial⟩
  | ok _ =>
    have executed := started.push (e := ⟨.execute (PostgreSQLLookupRepository.upsertStatement written (.nowUtc now)), .ok ()⟩) rfl
    refine perform_request (by simp) fun committed _ => settle_meets.mpr fun h' hs => ?_
    cases committed with
    | error f =>
      exact ⟨database_outcome (fun hk => by simp [calm, tame, refusedFile, fault, hk]) (fun hk => by simp [fault, hk])
        executed hs, trivial⟩
    | ok _ => exact ⟨(executed.push rfl).trans (hs.mono fun _ => calm_of_silent), relied⟩

end Repository

section Provider
variable {self : IPinfoLiteProvider} {ip : IPAddress}

theorem fake_outcome : Meets (requestContract method) (FakeGeoIPProvider.lookup ip) h (Outcome IsApp h) := by
  rw [FakeGeoIPProvider.lookup]
  refine perform_request (by simp) fun started _ => ?_
  split
  · refine record_request (by exact ⟨by decide, by decide⟩) (perform_request (by simp) fun finished _ => ?_)
    refine record_request (by exact ⟨by decide, by decide⟩) ?_
    exact .app ((((Extends.refl.push rfl).push rfl).push rfl).push rfl)
  · refine perform_request (by simp) fun finished _ => record_request (by exact ⟨by decide, by decide⟩) ?_
    exact ((Extends.refl.push rfl).push rfl).push rfl

/-- The exceptions that the except clauses of the provider are for. -/
def IsProviderFailure : Exn → Prop
  | .app _ | .retryable _ => True
  | .foreign f => isInvalidResponse f.kind = true
  | _ => False

/-- The response of an attempt: reading its body as JSON may still raise. -/
def AttemptOutcome (older newer : Past) : Except Exn HttpResponse → Prop
  | .ok ⟨_, .error f⟩ => if isInvalidResponse f.kind then Extends calm older newer else Faulted older newer f
  | .ok ⟨_, .ok _⟩ => Extends calm older newer
  | .error e => Outcome IsProviderFailure older newer (.error e : Except Exn HttpResponse)

private theorem request_outcome :
    Meets (requestContract method) (self.request ip) h (AttemptOutcome h) := by
  rw [IPinfoLiteProvider.request, Meets.bind_iff, Meets.tryCatch_iff]
  refine perform_request (by simp) fun answer _ => settle_meets.mpr ?_
  match answer with
  | .error ⟨.request .timeout, _, _⟩ | .error ⟨.request .decoding, _, _⟩ | .error ⟨.request .transport, _, _⟩ =>
    exact .inl ⟨trivial, Extends.refl.push rfl⟩
  | .error ⟨.value, _, _⟩ => exact .inl ⟨rfl, Extends.refl.push rfl⟩
  | .error ⟨.sqlalchemy _, _, _⟩ | .error ⟨.operational, _, _⟩ | .error ⟨.timeout, _, _⟩ | .error ⟨.cancelled, _, _⟩
  | .error ⟨.other, _, _⟩ => exact .inr ⟨_, rfl, by simp [IsProviderFailure, isInvalidResponse], _, _, .refl, rfl, .refl⟩
  | .ok ⟨status, json⟩ =>
    have refused : 400 ≤ status →
        Extends calm h (⟨.clientGet ("/lite/".toList ++ ip.str) ("Bearer " ++ self.token), .ok ⟨status, json⟩⟩ :: h) := by
      intro hs
      refine Extends.refl.push ?_
      cases json with
      | ok payload => rfl
      | error f =>
        simp only [calm, tame, refusedFile, fault]
        simp
        omega
    show Meets _ (if status = 401 ∨ status = 403 then _ else if status = 429 then _ else if 500 ≤ status then _ else
      if 400 ≤ status then _ else _) _ _
    split_ifs with h₁ h₂ h₃ h₄
    · exact record_request (by exact ⟨by decide, by decide⟩) (.inl ⟨trivial, (refused (by omega)).push rfl⟩)
    · exact record_request (by exact ⟨by decide, by decide⟩) (.inl ⟨trivial, (refused (by omega)).push rfl⟩)
    · exact .inl ⟨trivial, refused (by omega)⟩
    · exact record_request (by exact ⟨by decide, by decide⟩) (.inl ⟨trivial, (refused h₄).push rfl⟩)
    · cases json with
      | ok payload => exact Extends.refl.push rfl
      | error f =>
        show if isInvalidResponse f.kind then _ else _
        split
        · rename_i hk
          exact Extends.refl.push (by simp [calm, tame, refusedFile, fault, hk])
        · rename_i hk
          exact ⟨_, _, .refl, by simp [fault, hk]; omega, .refl⟩

private theorem AttemptOutcome.after {oldest older newer : Past} {x : Except Exn HttpResponse}
    (h : AttemptOutcome older newer x) (hx : Extends calm oldest older) : AttemptOutcome oldest newer x := by
  match x with
  | .error e => exact Outcome.after (show Outcome _ older newer (.error e : Except Exn HttpResponse) from h) hx
  | .ok ⟨status, .ok payload⟩ => exact hx.trans h
  | .ok ⟨status, .error f⟩ =>
    by_cases hk : isInvalidResponse f.kind = true
    · simp only [AttemptOutcome, hk, if_true] at h ⊢
      exact hx.trans h
    · simp only [AttemptOutcome, hk, Bool.false_eq_true, if_false] at h ⊢
      exact h.after hx

/-- The loop around the attempts only adds its waits. -/
private theorem retrying_outcome {body : Prog HttpResponse}
    (hbody : ∀ h, Meets (requestContract method) body h (AttemptOutcome h)) (remaining : Nat) :
    ∀ h attemptNumber, Meets (requestContract method) (retrying body attemptNumber remaining) h (AttemptOutcome h) := by
  induction remaining with
  | zero => exact fun h _ => hbody h
  | succ remaining ih =>
    intro h attemptNumber
    rw [retrying, Meets.tryCatch_iff]
    refine (hbody h).mono fun h' x hx => ?_
    match x with
    | .ok response => exact hx
    | .error (.retryable timeout) =>
      have calm : Extends calm h h' := by
        rcases hx with ⟨_, hx⟩ | ⟨f, hf, _⟩
        · exact hx
        · cases hf
      refine perform_request (by simp) fun slept _ => settle_bind_meets.mpr ?_
      cases slept with
      | ok _ => exact (ih _ _).mono fun h'' y hy => AttemptOutcome.after hy (calm.push rfl)
      | error f =>
        by_cases hk : isInvalidResponse f.kind = true
        · exact .inl ⟨hk, calm.push (by simp [Http.calm, tame, refusedFile, fault, hk])⟩
        · exact .inr ⟨f, rfl, hk, h', _, calm, by simp [fault, hk], .refl⟩
    | .error (.app e) => exact hx
    | .error .requestValidation | .error (.http e) | .error (.foreign f) => exact hx

/-- The except clauses of the provider leave application errors and unguarded exceptions. -/
private theorem failed_outcome {older : Past} {e : Exn}
    (he : Outcome IsProviderFailure older h (.error e : Except Exn GeoIPResult)) :
    Meets (requestContract method) (IPinfoLiteProvider.failed e : Prog GeoIPResult) h (Outcome IsApp older) := by
  rcases he with ⟨he, hx⟩ | ⟨f, rfl, hk, hf⟩
  · match e with
    | .app e => exact .app hx
    | .retryable true | .retryable false | .foreign ⟨.value, _, _⟩ | .foreign ⟨.request .decoding, _, _⟩ =>
      exact record_request (by exact ⟨by decide, by decide⟩) (.app (hx.push rfl))
    | .foreign ⟨.request .timeout, _, _⟩ | .foreign ⟨.request .transport, _, _⟩ | .foreign ⟨.sqlalchemy _, _, _⟩
    | .foreign ⟨.operational, _, _⟩ | .foreign ⟨.timeout, _, _⟩ | .foreign ⟨.cancelled, _, _⟩ | .foreign ⟨.other, _, _⟩ =>
      cases he
  · match f with
    | ⟨.value, _, _⟩ | ⟨.request .decoding, _, _⟩ => exact absurd rfl hk
    | ⟨.request .timeout, _, _⟩ | ⟨.request .transport, _, _⟩ | ⟨.sqlalchemy _, _, _⟩ | ⟨.operational, _, _⟩
    | ⟨.timeout, _, _⟩ | ⟨.cancelled, _, _⟩ | ⟨.other, _, _⟩ => exact .faulted hf

private theorem finished_outcome {older : Past} {started : Int} {x : Except Exn GeoIPResult} (hx : Outcome IsApp older h x) :
    Meets (requestContract method) (do
      let finished ← perform .perfCounter
      record (.providerRequest IPinfoLiteProvider.name (if x.isOk then "success" else "error") (finished - started)))
      h fun h' y =>
        match y with
        | .ok _ => Outcome IsApp older h' x
        | .error e => Outcome IsApp older h' (.error e : Except Exn GeoIPResult) := by
  refine perform_request (by simp) fun finished _ => record_request_end (by exact ⟨by decide, by split <;> decide⟩) ?_
  cases x with
  | ok result => exact (Extends.push hx rfl).push rfl
  | error e =>
    rcases hx with ⟨he, hx⟩ | ⟨f, rfl, hn, hf⟩
    · exact .inl ⟨he, (hx.push rfl).push rfl⟩
    · exact .inr ⟨f, rfl, hn, (hf.push rfl).push rfl⟩

theorem ipinfo_outcome : Meets (requestContract method) (self.lookup ip) h (Outcome IsApp h) := by
  rw [IPinfoLiteProvider.lookup]
  refine perform_request (by simp) fun started _ => ?_
  have begun : Extends calm h (⟨.perfCounter, started⟩ :: h) := Extends.refl.push rfl
  rw [Meets.ensuring_iff, Meets.tryCatch_iff, Meets.bind_iff]
  refine (retrying_outcome (fun _ => request_outcome) _ _ _).mono fun h' x hx => ?_
  replace hx := hx.after begun
  match x with
  | .error e => exact (failed_outcome hx).mono fun h'' y hy => finished_outcome hy
  | .ok ⟨status, .error f⟩ =>
    refine (failed_outcome ?_).mono fun h'' y hy => finished_outcome hy
    by_cases hk : isInvalidResponse f.kind = true
    · exact .inl ⟨hk, by simpa [AttemptOutcome, hk] using hx⟩
    · exact .inr ⟨f, rfl, hk, by simpa [AttemptOutcome, hk] using hx⟩
  | .ok ⟨status, .ok payload⟩ =>
    show Meets _ (self.parse payload >>= _) _ _
    rw [IPinfoLiteProvider.parse]
    split
    · exact finished_outcome hx
    · have invalid : Outcome IsProviderFailure h h' (.error (.foreign (valueError "ValidationError")) : Except Exn GeoIPResult) :=
        .inl ⟨rfl, hx⟩
      exact (failed_outcome invalid).mono fun h'' y hy => finished_outcome hy

theorem provider_outcome (choice : ProviderChoice) (ip : IPAddress) :
    Meets (requestContract method) (choice.lookup ip) h (Outcome IsApp h) := by
  cases choice with
  | fake => exact fake_outcome
  | ipinfo provider => exact ipinfo_outcome

end Provider

section Service
variable {self : Replica}

private theorem refresh_outcome {ip : IPAddress} :
    Meets (requestContract method) (self.service.refresh ip) h fun h' x => Outcome IsApp h h' x ∧
      Returns (fun written : CacheRecord => written.countryName.encodes = true) x := by
  rw [IPLookupService.refresh, Meets.bind_iff]
  refine (provider_outcome self.provider ip).mono fun h' x hx => ?_
  cases x with
  | error e => exact ⟨hx.error, trivial⟩
  | ok result =>
    refine perform_request (by simp) fun fetchedAt _ => ?_
    rw [Meets.bind_iff]
    refine upsert_outcome.mono fun h'' y hy => ?_
    obtain ⟨hy, encodes⟩ := hy
    replace hy := hy.after (Extends.push hx rfl)
    cases y with
    | error e => exact ⟨hy.error, trivial⟩
    | ok _ => exact ⟨hy, encodes⟩

/-- The specification of lookup for the layers around it. -/
theorem lookup_outcome {value : String} :
    Meets (requestContract method) (self.service.lookup value) h fun h' x => Outcome IsApp h h' x ∧
      Returns (fun result : LookupResult => result.countryName.encodes = true) x := by
  rw [IPLookupService.lookup, raiseApp_bind_meets]
  cases validatePublicIp value with
  | error e => exact ⟨.app .refl, trivial⟩
  | ok ip =>
    refine perform_request (by simp) fun now _ => ?_
    have read : Extends calm h (⟨.clock, now⟩ :: h) := Extends.refl.push rfl
    rw [Meets.bind_iff]
    refine get_outcome.mono fun h' x hx => ?_
    obtain ⟨hx, hloaded⟩ := hx
    replace hx := hx.after read
    cases x with
    | error e => exact ⟨hx.error, trivial⟩
    | ok cached =>
      dsimp only
      split
      · rename_i c hc
        refine record_request (by exact ⟨by decide, by decide⟩) ?_
        rw [Meets.bind_iff]
        exact log_request fun time => ⟨(Extends.push hx rfl).trans logged_extends, hloaded c (Option.filter_eq_some_iff.mp hc).1⟩
      · rw [Meets.bind_iff, exceptException, Meets.tryCatch_iff]
        refine refresh_outcome.mono fun h'' y hy => ?_
        obtain ⟨hy, encodes⟩ := hy
        replace hy := hy.after hx
        cases y with
        | error e =>
          show Meets _ (if e.isException then _ else _) _ _
          split
          · refine record_request (by exact ⟨by decide, by decide⟩) ⟨?_, trivial⟩
            rcases hy with ⟨he, hy⟩ | ⟨f, rfl, hn, hf⟩
            · exact .inl ⟨he, hy.push rfl⟩
            · exact .inr ⟨f, rfl, hn, hf.push rfl⟩
          · exact ⟨hy, trivial⟩
        | ok written =>
          show Meets _ (record _ >>= _) _ _
          refine record_request (by exact ⟨by decide, by decide⟩) ?_
          rw [Meets.bind_iff]
          exact log_request fun time => ⟨(Extends.push hy rfl).trans logged_extends, encodes⟩

end Service
end IpCountryApi.Http
