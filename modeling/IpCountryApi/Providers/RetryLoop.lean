import IpCountryApi.Library.Environments
import IpCountryApi.Providers.IPinfo

/-! The retry loop of the IPinfo client under any sequence of answers of the provider: which
answer decides, how many requests are sent, and what is counted. -/
namespace IpCountryApi.Providers
open Library Domain Execution Observability

def isRequest (e : Answered) : Bool :=
  match e.query with
  | .clientGet _ _ => true
  | _ => false

/-- Requests sent to the provider. -/
def requestsSent (h : Past) : Nat := (h.filter isRequest).length

/-- Metric calls, newest first. -/
def callsMade (h : Past) : List MetricCall := h.filterMap metricCall

/-- The provider gives these answers in this order, and no wait is cut short. -/
structure AnswersWith (answers : Nat → Except Foreign HttpResponse) (env : Environment Query Reply) : Prop where
  request : ∀ h path authorization, env h (.clientGet path authorization) = answers (requestsSent h)
  sleep : ∀ h milliseconds, env h (.sleep milliseconds) = .ok ()

/-- A failure of the request as such, or a server error. -/
def retryable : Except Foreign HttpResponse → Bool
  | .error ⟨.request _, _, _⟩ => true
  | .error _ => false
  | .ok response => 500 ≤ response.status

/-- What one request makes of an answer. -/
def requested : Except Foreign HttpResponse → Except Exn HttpResponse
  | .error ⟨.request .timeout, _, _⟩ => .error (.retryable true)
  | .error ⟨.request _, _, _⟩ => .error (.retryable false)
  | .error f => .error (.foreign f)
  | .ok response =>
    if response.status = 401 ∨ response.status = 403 then .error (.app .providerAuthentication)
    else if response.status = 429 then .error (.app .providerRateLimited)
    else if 500 ≤ response.status then .error (.retryable false)
    else if 400 ≤ response.status then .error (.app .providerInvalidResponse)
    else .ok response

/-- The error_type under which an error is counted. -/
def errorType : AppError → String
  | .providerAuthentication => "authentication"
  | .providerRateLimited => "rate_limited"
  | .providerTimeout => "timeout"
  | .providerUnavailable => "unavailable"
  | _ => "invalid_response"

/-- The calls that count an outcome as an error. -/
def errorCalls {α : Type} : Except Exn α → List MetricCall
  | .error (.app e) => [.providerError IPinfoLiteProvider.name (errorType e)]
  | _ => []

/-- What the body of an answer that is not refused gives. -/
def payloadResult (unicode : UnicodeTables) (response : HttpResponse) : Except Exn GeoIPResult :=
  match response.json with
  | .error f => .error (.foreign f)
  | .ok payload =>
    match IPinfoLiteResponse.modelValidate unicode payload with
    | some parsed => .ok ⟨parsed.countryCode, parsed.country, IPinfoLiteProvider.name⟩
    | none => .error (.foreign (valueError "ValidationError"))

/-- What the except clauses of lookup raise instead. -/
def reported : Exn → Exn
  | .retryable true => .app .providerTimeout
  | .retryable false => .app .providerUnavailable
  | .foreign ⟨.request .decoding, _, _⟩ | .foreign ⟨.value, _, _⟩ => .app .providerInvalidResponse
  | e => e

/-- What lookup makes of the answer that decides it. -/
def concluded (unicode : UnicodeTables) (answer : Except Foreign HttpResponse) : Except Exn GeoIPResult :=
  ((requested answer).bind (payloadResult unicode)).mapError reported

theorem requested_retryable {answer : Except Foreign HttpResponse} (h : retryable answer = true) :
    ∃ timeout, requested answer = .error (.retryable timeout) := by
  rcases answer with f | response
  · obtain ⟨kind, shown, causes⟩ := f
    cases kind with
    | request error => cases error <;> exact ⟨_, rfl⟩
    | _ => cases h
  · have hs : 500 ≤ response.status := by simpa [retryable] using h
    refine ⟨false, ?_⟩
    rw [requested, if_neg (by omega), if_neg (by omega), if_pos hs]

theorem requested_not_retryable {answer : Except Foreign HttpResponse} (h : retryable answer = false) (timeout : Bool) :
    requested answer ≠ .error (.retryable timeout) := by
  rcases answer with f | response
  · obtain ⟨kind, shown, causes⟩ := f
    cases kind with
    | request error => cases h
    | _ => simp [requested]
  · have hs : ¬ 500 ≤ response.status := by simpa [retryable] using h
    rw [requested, if_neg hs]
    split
    · simp
    · split
      · simp
      · split <;> simp

section Runs
variable {self : IPinfoLiteProvider} {ip : IPAddress} {answers : Nat → Except Foreign HttpResponse}
  {env : Environment Query Reply} {h : Past}

/-- The call of the HTTP client within one request. -/
private theorem asked_under (ha : AnswersWith answers env) (path : Text) (authorization : String) (h : Past) :
    (do
      let answer ← perform (.clientGet path authorization)
      settle answer : Prog HttpResponse).under env h =
      (⟨.clientGet path authorization, env h (.clientGet path authorization)⟩ :: h,
        (answers (requestsSent h)).mapError .foreign) := by
  rw [perform, Coro.under_call_bind]
  have hanswer := ha.request h path authorization
  generalize answers (requestsSent h) = answer at hanswer
  rw [hanswer]
  cases answer <;> rfl

/-- An error that the request itself counts. -/
private theorem refused_under (e : AppError) (h : Past) :
    (do
      record (.providerError IPinfoLiteProvider.name (errorType e))
      throw (.app e) : Prog HttpResponse).under env h =
      (⟨.metric (.providerError IPinfoLiteProvider.name (errorType e)), ()⟩ :: h, .error (.app e)) := rfl

/-- A failure of the HTTP client, as the request raises it. -/
private theorem raised_under (env : Environment Query Reply) (f : Foreign) : ∃ e, requested (.error f) = .error e ∧
    errorCalls (requested (.error f)) = [] ∧
    ∀ h, (IPinfoLiteProvider.retryableRequest (.foreign f) : Prog HttpResponse).under env h = (h, .error e) := by
  obtain ⟨kind, shown, causes⟩ := f
  cases kind with
  | request error => cases error <;> exact ⟨_, rfl, rfl, fun _ => rfl⟩
  | _ => exact ⟨_, rfl, rfl, fun _ => rfl⟩

/-- One request: its answer decides it, and an error of the application is counted. -/
theorem request_under (self : IPinfoLiteProvider) (ip : IPAddress) (ha : AnswersWith answers env) (h : Past) :
    ∃ h', (self.request ip).under env h = (h', requested (answers (requestsSent h))) ∧
      requestsSent h' = requestsSent h + 1 ∧
      callsMade h' = errorCalls (requested (answers (requestsSent h))) ++ callsMade h := by
  have asked := asked_under ha ("/lite/".toList ++ ip.str) ("Bearer " ++ self.token) h
  rw [IPinfoLiteProvider.request]
  generalize answers (requestsSent h) = answer at asked
  generalize env h (.clientGet ("/lite/".toList ++ ip.str) ("Bearer " ++ self.token)) = reply at asked
  rcases answer with f | response
  · obtain ⟨e, hrequested, hcalls, raised⟩ := raised_under env f
    refine ⟨⟨.clientGet _ _, reply⟩ :: h, ?_, rfl, ?_⟩
    · rw [hrequested]
      exact Coro.under_bind_error ((Coro.under_tryCatch_error asked _).trans (raised _)) _
    · rw [hcalls]
      rfl
  · rw [Coro.under_bind_ok (Coro.under_tryCatch_ok asked _), requested]
    split
    · exact ⟨_, refused_under .providerAuthentication _, rfl, rfl⟩
    · split
      · exact ⟨_, refused_under .providerRateLimited _, rfl, rfl⟩
      · split
        · exact ⟨_, rfl, rfl, rfl⟩
        · split
          · exact ⟨_, refused_under .providerInvalidResponse _, rfl, rfl⟩
          · exact ⟨_, rfl, rfl, rfl⟩

/-- The loop from some attempt on: it ends with the first answer that is not retried, or
with the answer to the last attempt. -/
theorem retrying_under (self : IPinfoLiteProvider) (ip : IPAddress) (ha : AnswersWith answers env)
    (remaining attemptNumber : Nat) (h : Past) :
    ∃ i h', (retrying (self.request ip) attemptNumber remaining).under env h = (h', requested (answers i)) ∧
      requestsSent h ≤ i ∧ i ≤ requestsSent h + remaining ∧
      (∀ k, requestsSent h ≤ k → k < i → retryable (answers k) = true) ∧
      (i < requestsSent h + remaining → retryable (answers i) = false) ∧
      requestsSent h' = i + 1 ∧ callsMade h' = errorCalls (requested (answers i)) ++ callsMade h := by
  induction remaining generalizing attemptNumber h with
  | zero =>
    obtain ⟨h', hr, hsent, hcalls⟩ := request_under self ip ha h
    exact ⟨requestsSent h, h', hr, le_rfl, le_rfl, fun k hk hlt => by omega, fun hlt => by omega, hsent, hcalls⟩
  | succ remaining ih =>
    obtain ⟨h', hr, hsent, hcalls⟩ := request_under self ip ha h
    rw [retrying]
    cases hretry : retryable (answers (requestsSent h)) with
    | false =>
      refine ⟨requestsSent h, h', ?_, le_rfl, by omega, fun k hk hlt => by omega, fun _ => hretry, hsent, hcalls⟩
      have hne := requested_not_retryable hretry
      generalize requested (answers (requestsSent h)) = x at hr hne
      rcases x with e | response
      · rw [Coro.under_tryCatch_error hr]
        cases e with
        | retryable timeout => exact absurd rfl (hne timeout)
        | _ => rfl
      · exact Coro.under_tryCatch_ok hr _
    | true =>
      obtain ⟨timeout, hrequested⟩ := requested_retryable hretry
      rw [hrequested] at hr hcalls
      rw [Coro.under_tryCatch_error hr]
      have slept : (perform (.sleep (waitExponential attemptNumber)) >>= settle : Prog Unit).under env h' =
          (⟨.sleep (waitExponential attemptNumber), env h' (.sleep (waitExponential attemptNumber))⟩ :: h', .ok ()) := by
        rw [perform, Coro.under_call_bind, ha.sleep]
        rfl
      obtain ⟨i, h'', hr', hle, hge, hbefore, hlast, hsent', hcalls'⟩ := ih (attemptNumber + 1)
        (⟨.sleep (waitExponential attemptNumber), env h' (.sleep (waitExponential attemptNumber))⟩ :: h')
      have hsame : requestsSent (⟨.sleep (waitExponential attemptNumber),
          env h' (.sleep (waitExponential attemptNumber))⟩ :: h') = requestsSent h + 1 := hsent
      rw [hsame] at hle hge hbefore hlast
      refine ⟨i, h'', (Coro.under_bind_ok slept _).trans hr', by omega, by omega, fun k hk hlt => ?_, fun hlt => ?_,
        hsent', hcalls'.trans (congrArg _ hcalls)⟩
      · rcases Nat.eq_or_lt_of_le hk with rfl | hk
        · exact hretry
        · exact hbefore k hk hlt
      · exact hlast (by omega)

/-- The steps after the loop, up to the except clauses. -/
private def afterLoop (self : IPinfoLiteProvider) (response : HttpResponse) : Prog GeoIPResult := do
  let payload ← settle response.json
  let parsed ← self.parse payload
  pure ⟨parsed.countryCode, parsed.country, IPinfoLiteProvider.name⟩

private theorem afterLoop_under (response : HttpResponse) (h : Past) :
    (afterLoop self response).under env h = (h, payloadResult self.unicode response) := by
  rw [afterLoop, payloadResult]
  cases response.json with
  | error f => rfl
  | ok payload =>
    have hparse : ∀ x, IPinfoLiteResponse.modelValidate self.unicode payload = x → self.parse payload =
        x.elim (throw (.foreign (valueError "ValidationError"))) pure := by
      intro x hx
      rw [IPinfoLiteProvider.parse, hx]
      cases x <;> rfl
    show Coro.under env (self.parse payload >>= _) h = _
    rw [hparse _ rfl]
    dsimp only
    cases IPinfoLiteResponse.modelValidate self.unicode payload <;> rfl

theorem errorCalls_error {α β : Type} (e : Exn) : errorCalls (.error e : Except Exn α) = errorCalls (.error e : Except Exn β) := by
  cases e <;> rfl

/-- The except clauses count what has not been counted yet. -/
private theorem failed_under (env : Environment Query Reply) (e : Exn) (h : Past)
    (hcalls : callsMade h = errorCalls (.error e : Except Exn GeoIPResult)) :
    ∃ h', (IPinfoLiteProvider.failed e : Prog GeoIPResult).under env h = (h', .error (reported e)) ∧
      requestsSent h' = requestsSent h ∧ callsMade h' = errorCalls (.error (reported e) : Except Exn GeoIPResult) := by
  have counted : ∀ error, errorCalls (.error e : Except Exn GeoIPResult) = [] →
      callsMade (⟨.metric (.providerError IPinfoLiteProvider.name (errorType error)), ()⟩ :: h) =
        errorCalls (.error (.app error) : Except Exn GeoIPResult) := by
    intro error hnone
    exact congrArg _ (hcalls.trans hnone)
  cases e with
  | retryable timeout =>
    cases timeout
    · exact ⟨_, rfl, rfl, counted .providerUnavailable rfl⟩
    · exact ⟨_, rfl, rfl, counted .providerTimeout rfl⟩
  | foreign f =>
    obtain ⟨kind, shown, causes⟩ := f
    cases kind with
    | value => exact ⟨_, rfl, rfl, counted .providerInvalidResponse rfl⟩
    | request error =>
      cases error with
      | decoding => exact ⟨_, rfl, rfl, counted .providerInvalidResponse rfl⟩
      | _ => exact ⟨h, rfl, rfl, hcalls⟩
    | _ => exact ⟨h, rfl, rfl, hcalls⟩
  | _ => exact ⟨h, rfl, rfl, hcalls⟩

/-- What follows the loop, with the except clauses around both. -/
private theorem concluded_under (self : IPinfoLiteProvider) {loop : Prog HttpResponse} {h h₁ : Past}
    {x : Except Exn HttpResponse}
    (hr : loop.under env h = (h₁, x)) (hcalls : callsMade h₁ = errorCalls x) :
    ∃ h', (tryCatch (loop >>= afterLoop self) IPinfoLiteProvider.failed).under env h =
        (h', (x.bind (payloadResult self.unicode)).mapError reported) ∧
      requestsSent h' = requestsSent h₁ ∧ callsMade h' = errorCalls ((x.bind (payloadResult self.unicode)).mapError reported) := by
  rcases x with e | response
  · obtain ⟨h₂, hf, hsent, hcalls₂⟩ := failed_under env e h₁ (hcalls.trans (errorCalls_error e))
    exact ⟨h₂, (Coro.under_tryCatch_error (Coro.under_bind_error hr _) _).trans hf, hsent, hcalls₂⟩
  · have hbody : (loop >>= afterLoop self).under env h = (h₁, payloadResult self.unicode response) :=
      (Coro.under_bind_ok hr _).trans (afterLoop_under response h₁)
    have hplain : ∀ e, payloadResult self.unicode response = .error e → errorCalls (.error e : Except Exn GeoIPResult) = [] := by
      intro e he
      rw [payloadResult] at he
      split at he
      · cases he
        rfl
      · split at he <;> cases he
        rfl
    show ∃ h', _ = (h', (payloadResult self.unicode response).mapError reported) ∧ _ ∧
      callsMade h' = errorCalls ((payloadResult self.unicode response).mapError reported)
    generalize payloadResult self.unicode response = result at hbody hplain
    rcases result with e | result
    · obtain ⟨h₂, hf, hsent, hcalls₂⟩ := failed_under env e h₁ (hcalls.trans (hplain e rfl).symm)
      exact ⟨h₂, (Coro.under_tryCatch_error hbody _).trans hf, hsent, hcalls₂⟩
    · exact ⟨h₁, Coro.under_tryCatch_ok hbody _, rfl, hcalls⟩

private theorem finished_under (env : Environment Query Reply) (started : Int) (x : Except Exn GeoIPResult) (h : Past) : ∃ h' duration,
    (do
      let finished ← perform .perfCounter
      record (.providerRequest IPinfoLiteProvider.name (if x.isOk then "success" else "error")
        (finished - started)) : Prog Unit).under env h = (h', .ok ()) ∧
      requestsSent h' = requestsSent h ∧ callsMade h' = .providerRequest IPinfoLiteProvider.name
        (if x.isOk then "success" else "error") duration :: callsMade h := ⟨_, _, rfl, rfl, rfl⟩

/-- A whole lookup: the answer that decides it, the requests it took, and what it counted. -/
theorem lookup_under (self : IPinfoLiteProvider) (ip : IPAddress) (ha : AnswersWith answers env) :
    ∃ i h' duration, (self.lookup ip).under env [] = (h', concluded self.unicode (answers i)) ∧
      i ≤ self.maxRetries ∧ (∀ k < i, retryable (answers k) = true) ∧
      (i < self.maxRetries → retryable (answers i) = false) ∧ requestsSent h' = i + 1 ∧
      callsMade h' = .providerRequest IPinfoLiteProvider.name
        (if (concluded self.unicode (answers i)).isOk then "success" else "error") duration ::
          errorCalls (concluded self.unicode (answers i)) := by
  obtain ⟨i, h₁, hr, _, hle, hbefore, hlast, hsent, hcalls⟩ := retrying_under self ip ha self.maxRetries 1
    [⟨.perfCounter, env [] .perfCounter⟩]
  have hzero : requestsSent [⟨.perfCounter, env [] .perfCounter⟩] = 0 := rfl
  have hquiet : callsMade [⟨.perfCounter, env [] .perfCounter⟩] = [] := rfl
  rw [hzero, Nat.zero_add] at hle hlast
  rw [hquiet, List.append_nil] at hcalls
  obtain ⟨h₂, hbody, hsent₂, hcalls₂⟩ := concluded_under self hr hcalls
  obtain ⟨h₃, duration, hfinished, hsent₃, hcalls₃⟩ := finished_under env (env [] .perfCounter)
    (concluded self.unicode (answers i)) h₂
  exact ⟨i, h₃, duration, Coro.under_ensuring hbody hfinished, hle, fun k hk => hbefore k (hzero ▸ Nat.zero_le k) hk,
    hlast, hsent₃.trans (hsent₂.trans hsent), hcalls₃.trans (congrArg _ hcalls₂)⟩

end Runs
end IpCountryApi.Providers
