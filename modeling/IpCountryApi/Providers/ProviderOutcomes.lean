import IpCountryApi.Providers.RetryLoop

/-! What a lookup at the provider reports and counts, told from the answers it gets. -/
namespace IpCountryApi.Providers
open Library Domain Execution Observability

/-- The outcomes of an attempt whose content encoding is sound: a timeout, another transport
failure, or a response whose body decodes as JSON or raises a ValueError. -/
inductive Plain : Except Foreign HttpResponse → Prop where
  | timeout (shown : Shown) (causes : List Shown) : Plain (.error ⟨.request .timeout, shown, causes⟩)
  | transport (shown : Shown) (causes : List Shown) : Plain (.error ⟨.request .transport, shown, causes⟩)
  | decoded (status : Nat) (payload : Json) : Plain (.ok ⟨status, .ok payload⟩)
  | undecodable (status : Nat) (f : Foreign) (hf : f.kind = .value) : Plain (.ok ⟨status, .error f⟩)

/-- The parse of a body. -/
def bodyResult (unicode : UnicodeTables) : Except Foreign Json → Except AppError GeoIPResult
  | .error _ => .error .providerInvalidResponse
  | .ok payload =>
    match IPinfoLiteResponse.modelValidate unicode payload with
    | some parsed => .ok ⟨parsed.countryCode, parsed.country, IPinfoLiteProvider.name⟩
    | none => .error .providerInvalidResponse

/-- What a response below 500 decides. -/
def decided (unicode : UnicodeTables) (response : HttpResponse) : Except AppError GeoIPResult :=
  if response.status = 401 ∨ response.status = 403 then .error .providerAuthentication
  else if response.status = 429 then .error .providerRateLimited
  else if 400 ≤ response.status then .error .providerInvalidResponse
  else bodyResult unicode response.json

/-- What the last attempt decides when it fails like all the others. -/
def exhausted : Except Foreign HttpResponse → AppError
  | .error ⟨.request .timeout, _, _⟩ => .providerTimeout
  | _ => .providerUnavailable

/-- What an outcome adds to the errors counted under labels in p. -/
def errorsCounted (p : List String → Bool) : Except AppError GeoIPResult → Nat
  | .ok _ => 0
  | .error e => if p [IPinfoLiteProvider.name, errorType e] then 1 else 0

theorem payloadResult_plain (unicode : UnicodeTables) {response : HttpResponse} (hp : Plain (.ok response)) :
    (payloadResult unicode response).mapError reported = (bodyResult unicode response.json).mapError .app := by
  cases hp with
  | decoded status payload =>
    rw [payloadResult, bodyResult]
    dsimp only
    cases IPinfoLiteResponse.modelValidate unicode payload <;> rfl
  | undecodable status f hf =>
    obtain ⟨kind, shown, causes⟩ := f
    cases hf
    rfl

theorem concluded_response {unicode : UnicodeTables} {response : HttpResponse} (hp : Plain (.ok response))
    (hs : response.status < 500) : concluded unicode (.ok response) = (decided unicode response).mapError .app := by
  have hbody := payloadResult_plain unicode hp
  rw [concluded, requested, decided, if_neg (show ¬ 500 ≤ response.status by omega)]
  split
  · rfl
  · split
    · rfl
    · split
      · rfl
      · exact hbody

theorem concluded_retryable (unicode : UnicodeTables) {answer : Except Foreign HttpResponse}
    (hr : retryable answer = true) : concluded unicode answer = .error (.app (exhausted answer)) := by
  rcases answer with f | response
  · obtain ⟨kind, shown, causes⟩ := f
    cases kind with
    | request error => cases error <;> rfl
    | _ => cases hr
  · obtain ⟨timeout, hrequested⟩ := requested_retryable hr
    have hs : 500 ≤ response.status := by simpa [retryable] using hr
    rw [concluded, requested, if_neg (by omega), if_neg (by omega), if_pos hs]
    rfl

/-- A plain outcome that is not retried is a response below 500. -/
theorem response_of_not_retryable {answer : Except Foreign HttpResponse} (hp : Plain answer)
    (hr : retryable answer = false) : ∃ response, answer = .ok response ∧ response.status < 500 := by
  cases hp with
  | timeout shown causes => cases hr
  | transport shown causes => cases hr
  | decoded status payload => exact ⟨_, rfl, by simpa [retryable] using hr⟩
  | undecodable status f hf => exact ⟨_, rfl, by simpa [retryable] using hr⟩

theorem countP_errorCalls_app (p : List String → Bool) (outcome : Except AppError GeoIPResult) :
    (errorCalls (outcome.mapError .app)).countP (·.counts .providerErrors p) = errorsCounted p outcome := by
  cases outcome with
  | ok result => rfl
  | error e => exact List.countP_singleton

theorem countP_errorCalls_requests (p : List String → Bool) (x : Except Exn GeoIPResult) :
    (errorCalls x).countP (·.counts .providerRequests p) = 0 := by
  rcases x with e | result
  · cases e <;> rfl
  · rfl

section Lookups
variable {answers : Nat → Except Foreign HttpResponse} {env : Environment Query Reply}

/-- Whatever plain outcomes the attempts have: the first that is not retried decides if it comes
in time, else the last attempt does, and the counters say which it was. -/
theorem lookup_decides (self : IPinfoLiteProvider) (ip : IPAddress) (ha : AnswersWith answers env)
    (plain : ∀ k, Plain (answers k)) :
    ∃ outcome : Except AppError GeoIPResult,
      ((self.lookup ip).under env []).2 = outcome.mapError .app ∧
      (∀ i response, answers i = .ok response → response.status < 500 →
        (∀ k < i, retryable (answers k) = true) →
        requestsSent ((self.lookup ip).under env []).1 = min (self.maxRetries + 1) (i + 1) ∧
        (i ≤ self.maxRetries → outcome = decided self.unicode response) ∧
        (self.maxRetries < i → outcome = .error (exhausted (answers self.maxRetries)))) ∧
      ((∀ k, retryable (answers k) = true) →
        requestsSent ((self.lookup ip).under env []).1 = self.maxRetries + 1 ∧
        outcome = .error (exhausted (answers self.maxRetries))) ∧
      ∀ (m : ApplicationMetrics) (p : List String → Bool), m.enabled = true →
        ((m.recordAll (callsMade ((self.lookup ip).under env []).1)).counter .providerRequests).sumOver p =
          (m.counter .providerRequests).sumOver p +
            (if p [IPinfoLiteProvider.name, if outcome.isOk then "success" else "error"] then 1 else 0) ∧
        ((m.recordAll (callsMade ((self.lookup ip).under env []).1)).counter .providerErrors).sumOver p =
          (m.counter .providerErrors).sumOver p + errorsCounted p outcome := by
  obtain ⟨d, h', duration, hrun, hle, hbefore, hlast, hsent, hcalls⟩ := lookup_under self ip ha
  rw [hrun]
  dsimp only
  have counted : ∀ outcome : Except AppError GeoIPResult,
      concluded self.unicode (answers d) = outcome.mapError .app →
      ∀ (m : ApplicationMetrics) (p : List String → Bool), m.enabled = true →
        ((m.recordAll (callsMade h')).counter .providerRequests).sumOver p =
          (m.counter .providerRequests).sumOver p +
            (if p [IPinfoLiteProvider.name, if outcome.isOk then "success" else "error"] then 1 else 0) ∧
        ((m.recordAll (callsMade h')).counter .providerErrors).sumOver p =
          (m.counter .providerErrors).sumOver p + errorsCounted p outcome := by
    intro outcome houtcome m p he
    have hok : (outcome.mapError Exn.app).isOk = outcome.isOk := by cases outcome <;> rfl
    rw [hcalls, houtcome, hok, ApplicationMetrics.sumOver_recordAll m he, ApplicationMetrics.sumOver_recordAll m he,
      List.countP_cons, List.countP_cons, countP_errorCalls_app, countP_errorCalls_requests, Nat.zero_add]
    exact ⟨rfl, rfl⟩
  cases hr : retryable (answers d) with
  | true =>
    have hd : d = self.maxRetries := by
      by_contra hne
      exact Bool.noConfusion (hr.symm.trans (hlast (by omega)))
    have houtcome := concluded_retryable self.unicode hr
    refine ⟨.error (exhausted (answers d)), houtcome, fun i response hi hs hfirst => ?_, fun _ => ?_, counted _ houtcome⟩
    · have hnot : retryable (answers i) = false := by simpa [hi, retryable] using hs
      have hlt : d < i := by
        by_contra hge
        rcases Nat.eq_or_lt_of_le (Nat.le_of_not_lt hge) with rfl | hlt
        · exact Bool.noConfusion (hr.symm.trans hnot)
        · exact Bool.noConfusion ((hbefore i hlt).symm.trans hnot)
      exact ⟨by omega, fun hi => by omega, fun _ => hd ▸ rfl⟩
    · exact ⟨by omega, hd ▸ rfl⟩
  | false =>
    obtain ⟨response, hresponse, hs⟩ := response_of_not_retryable (plain d) hr
    have houtcome : concluded self.unicode (answers d) = (decided self.unicode response).mapError .app := by
      rw [hresponse]
      exact concluded_response (hresponse ▸ plain d) hs
    refine ⟨decided self.unicode response, houtcome, fun i other hi hother hfirst => ?_, fun hall => ?_, counted _ houtcome⟩
    · have hnot : retryable (answers i) = false := by simpa [hi, retryable] using hother
      have hid : d = i := by
        rcases Nat.lt_trichotomy d i with hlt | heq | hlt
        · exact Bool.noConfusion (hr.symm.trans (hfirst d hlt))
        · exact heq
        · exact Bool.noConfusion (hnot.symm.trans (hbefore i hlt))
      subst hid
      obtain rfl : response = other := Except.ok.inj (hresponse.symm.trans hi)
      exact ⟨by omega, fun _ => rfl, fun hlt => by omega⟩
    · exact Bool.noConfusion (hr.symm.trans (hall d))

end Lookups

/-- A world around one lookup: the provider answers in order, the clocks stand still. -/
def answering (answers : Nat → Except Foreign HttpResponse) : Environment Query Reply
  | h, .clientGet _ _ => answers (requestsSent h)
  | _, .clock | _, .now | _, .perfCounter | _, .timestamp => (0 : Int)
  | _, .uuid4 => (0 : BitVec 128)
  | _, .contextGet | _, .contextSet _ => (none : Option String)
  | _, .contextReset _ | _, .metric _ | _, .print _ | _, .send _ => ()
  | _, .scrape => ApplicationMetrics.init "" true
  | _, .scalar _ => (.ok none : Except Foreign (Option LoadedRow))
  | _, .execute _ | _, .commit _ | _, .sleep _ | _, .readinessProbe => (.ok () : Except Foreign Unit)
  | _, .provider _ => (.ok (.error .providerUnavailable) : Except Foreign (Except AppError GeoIPResult))
  | _, .template _ => (.ok "" : Except Foreign String)
  | _, .staticFile _ _ => (.ok (.error .notFound) : Except Foreign Http.StaticAnswer)

theorem answering_answersWith (answers : Nat → Except Foreign HttpResponse) : AnswersWith answers (answering answers) where
  request _ _ _ := rfl
  sleep _ _ := rfl

/-- A timeout, then the United States. -/
def timeoutThenCountry : Nat → Except Foreign HttpResponse
  | 0 => .error ⟨.request .timeout, ⟨"", "ReadTimeout", ""⟩, []⟩
  | _ + 1 => .ok ⟨200, .ok (.object [("country_code", .str "us"), ("country", .str " United States ")])⟩

theorem timeoutThenCountry_plain (k : Nat) : Plain (timeoutThenCountry k) := by
  cases k with
  | zero => exact .timeout _ _
  | succ k => exact .decoded _ _

def threeAttempts : IPinfoLiteProvider := ⟨.ascii, "token", 2⟩

def googleAddress : IPAddress := .v4 ⟨⟨134744072, by decide⟩⟩

theorem lookup_decides_after_timeout : ∃ outcome : Except AppError GeoIPResult,
    ((threeAttempts.lookup googleAddress).under (answering timeoutThenCountry) []).2 = outcome.mapError .app ∧
    requestsSent ((threeAttempts.lookup googleAddress).under (answering timeoutThenCountry) []).1 = 2 ∧
    outcome = .ok ⟨"US", "United States", "ipinfo"⟩ := by
  obtain ⟨outcome, hrun, hdecided, -, -⟩ := lookup_decides threeAttempts googleAddress
    (answering_answersWith timeoutThenCountry) timeoutThenCountry_plain
  obtain ⟨hsent, hin, -⟩ := hdecided 1 _ rfl (by decide) fun k hk => by
    obtain rfl : k = 0 := by omega
    rfl
  refine ⟨outcome, hrun, hsent, (hin (by decide)).trans ?_⟩
  decide +kernel

/-- The layer at which a body is malformed. -/
inductive Layer where
  | encoding
  | text
  | nesting
  | payload
  deriving DecidableEq

/-- A response below 400 without an acceptable payload: a corrupt content encoding, bytes or
JSON text that the decoder rejects with a ValueError, nesting too deep for it (a RecursionError),
or a JSON value of the wrong shape or with unacceptable fields. An answer for which the client
raises before there is a response, such as a redirect to no URL, is a failure of the transport. -/
inductive Malformed (unicode : UnicodeTables) : Layer → Except Foreign HttpResponse → Prop where
  | encoding (shown : Shown) (causes : List Shown) : Malformed unicode .encoding (.error ⟨.request .decoding, shown, causes⟩)
  | text (status : Nat) (hs : status < 400) (f : Foreign) (hf : f.kind = .value) : Malformed unicode .text (.ok ⟨status, .error f⟩)
  | nesting (status : Nat) (hs : status < 400) (f : Foreign) (hf : f.kind = .other) :
    Malformed unicode .nesting (.ok ⟨status, .error f⟩)
  | payload (status : Nat) (hs : status < 400) (json : Json) (hj : IPinfoLiteResponse.modelValidate unicode json = none) :
    Malformed unicode .payload (.ok ⟨status, .ok json⟩)

/-- The lookup ends with this answer, as an invalid response that is counted once. -/
def ClassifiedAt (k : Nat) (run : Past × Except Exn GeoIPResult) : Prop :=
  run.2 = .error (.app .providerInvalidResponse) ∧ requestsSent run.1 = k + 1 ∧
    ∀ (m : ApplicationMetrics) (p : List String → Bool), m.enabled = true →
      ((m.recordAll (callsMade run.1)).counter .providerErrors).sumOver p =
        (m.counter .providerErrors).sumOver p + if p [IPinfoLiteProvider.name, "invalid_response"] then 1 else 0

theorem requested_below {status : Nat} {json : Except Foreign Json} (hs : status < 400) :
    requested (.ok ⟨status, json⟩) = .ok ⟨status, json⟩ := by
  rw [requested]
  dsimp only
  rw [if_neg (by omega), if_neg (by omega), if_neg (by omega), if_neg (by omega)]

theorem retryable_below {status : Nat} {json : Except Foreign Json} (hs : status < 400) :
    retryable (.ok ⟨status, json⟩) = false := by
  simpa [retryable] using (show status < 500 by omega)

/-- A malformed answer is retried exactly if its content encoding is corrupt. -/
theorem retryable_malformed {unicode : UnicodeTables} {layer : Layer} {answer : Except Foreign HttpResponse}
    (hm : Malformed unicode layer answer) : retryable answer = true ↔ layer = .encoding := by
  cases hm with
  | encoding shown causes => exact iff_of_true rfl rfl
  | text status hs f hf => exact iff_of_false (by simp [retryable_below hs]) nofun
  | nesting status hs f hf => exact iff_of_false (by simp [retryable_below hs]) nofun
  | payload status hs json hj => exact iff_of_false (by simp [retryable_below hs]) nofun

/-- What a malformed answer is reported as, by layer. -/
theorem concluded_malformed {unicode : UnicodeTables} {layer : Layer} {answer : Except Foreign HttpResponse}
    (hm : Malformed unicode layer answer) :
    concluded unicode answer = .error (.app .providerInvalidResponse) ↔ layer ≠ .encoding ∧ layer ≠ .nesting := by
  cases hm with
  | encoding shown causes => exact iff_of_false nofun fun h => h.1 rfl
  | text status hs f hf =>
    refine iff_of_true ?_ ⟨nofun, nofun⟩
    obtain ⟨kind, shown, causes⟩ := f
    cases hf
    rw [concluded, requested_below hs]
    rfl
  | nesting status hs f hf =>
    refine iff_of_false ?_ fun h => h.2 rfl
    obtain ⟨kind, shown, causes⟩ := f
    cases hf
    rw [concluded, requested_below hs]
    exact nofun
  | payload status hs json hj =>
    refine iff_of_true ?_ ⟨nofun, nofun⟩
    rw [concluded, requested_below hs, Except.bind, payloadResult]
    dsimp only
    rw [hj]
    rfl

/-- A malformed answer is classified as one exactly if it is neither corrupt in its encoding
nor nested too deeply. -/
theorem malformed_classified (self : IPinfoLiteProvider) (ip : IPAddress)
    {answers : Nat → Except Foreign HttpResponse} {env : Environment Query Reply} (ha : AnswersWith answers env)
    {k : Nat} (hk : k ≤ self.maxRetries) (before : ∀ i < k, retryable (answers i) = true) {layer : Layer}
    (hm : Malformed self.unicode layer (answers k)) :
    ClassifiedAt k ((self.lookup ip).under env []) ↔ layer ≠ .encoding ∧ layer ≠ .nesting := by
  obtain ⟨d, h', duration, hrun, hle, hbefore, hlast, hsent, hcalls⟩ := lookup_under self ip ha
  rw [hrun]
  constructor
  · rintro ⟨hresult, hrequests, -⟩
    obtain rfl : d = k := by
      dsimp only at hrequests
      omega
    exact (concluded_malformed hm).1 hresult
  · intro hlayer
    have hnot : retryable (answers k) = false :=
      Bool.eq_false_iff.2 fun hr => hlayer.1 ((retryable_malformed hm).1 hr)
    obtain rfl : d = k := by
      rcases Nat.lt_trichotomy d k with hlt | heq | hlt
      · exact Bool.noConfusion ((before d hlt).symm.trans (hlast (by omega)))
      · exact heq
      · exact Bool.noConfusion (hnot.symm.trans (hbefore k hlt))
    have hresult := (concluded_malformed hm).2 hlayer
    refine ⟨hresult, hsent, fun m p he => ?_⟩
    dsimp only
    rw [hcalls, hresult, ApplicationMetrics.sumOver_recordAll m he, List.countP_cons]
    exact congrArg _ (countP_errorCalls_app p (.error .providerInvalidResponse))

/-- The number 1 where an object belongs. -/
def numberAnswer : Except Foreign HttpResponse := .ok ⟨200, .ok (.number "1")⟩

theorem malformed_classified_number :
    ClassifiedAt 0 ((threeAttempts.lookup googleAddress).under (answering fun _ => numberAnswer) []) :=
  (malformed_classified threeAttempts googleAddress (answering_answersWith fun _ => numberAnswer) (Nat.zero_le _)
    (fun i hi => absurd hi (Nat.not_lt_zero i)) (.payload 200 (by decide) (.number "1") (by decide))).2 ⟨nofun, nofun⟩

def corruptEncoding : Except Foreign HttpResponse := .error ⟨.request .decoding, ⟨"", "DecodingError", ""⟩, []⟩

def deepNesting : Except Foreign HttpResponse := .ok ⟨200, .error ⟨.other, ⟨"", "RecursionError", ""⟩, []⟩⟩

/-- A corrupt encoding is asked for three times and reported as an unavailability; a deep
nesting escapes as the RecursionError itself. -/
theorem malformed_not_classified :
    Malformed threeAttempts.unicode .encoding corruptEncoding ∧ Malformed threeAttempts.unicode .nesting deepNesting ∧
    ¬ ClassifiedAt 0 ((threeAttempts.lookup googleAddress).under (answering fun _ => corruptEncoding) []) ∧
    ¬ ClassifiedAt 0 ((threeAttempts.lookup googleAddress).under (answering fun _ => deepNesting) []) ∧
    requestsSent ((threeAttempts.lookup googleAddress).under (answering fun _ => corruptEncoding) []).1 = 3 ∧
    ((threeAttempts.lookup googleAddress).under (answering fun _ => corruptEncoding) []).2 =
      .error (.app .providerUnavailable) ∧
    ((threeAttempts.lookup googleAddress).under (answering fun _ => deepNesting) []).2 =
      .error (.foreign ⟨.other, ⟨"", "RecursionError", ""⟩, []⟩) :=
  ⟨.encoding _ _, .nesting 200 (by decide) _ rfl, fun h => absurd h.1 nofun, fun h => absurd h.1 nofun, rfl, rfl, rfl⟩

end IpCountryApi.Providers
